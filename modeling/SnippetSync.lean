import SnippetSync.Main
import SnippetSync.Proofs.Appending
import SnippetSync.Proofs.Batches
import SnippetSync.Proofs.BlockBatches
import SnippetSync.Proofs.Calls
import SnippetSync.Proofs.Convergence
import SnippetSync.Proofs.FirstFailure
import SnippetSync.Proofs.History
import SnippetSync.Proofs.LineEndings
import SnippetSync.Proofs.Listing
import SnippetSync.Proofs.Sessions
import SnippetSync.Proofs.StandardPattern
import SnippetSync.Proofs.UnreadSource
import SnippetSync.Proofs.WholeBlocks
import SnippetSync.Proofs.WrittenForm
