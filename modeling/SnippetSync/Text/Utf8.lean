import SnippetSync.Text.Basic

/-!
# Texts as bytes

* `Text.bytes` — the bytes of a text in UTF-8.
* `Text.ofBytes?` — the text that has these bytes, if they are UTF-8; `Text.ofBytes?_bytes` says that reading what
  was written gives the text back, and `Text.ofBytes?_eq_some_iff` that nothing else reads as this text.
-/

namespace SnippetSync.Text

/-- The bytes of a text in UTF-8. -/
def bytes (t : Text) : List UInt8 := t.flatMap String.utf8EncodeChar

/-- The text with these bytes, if they are valid UTF-8. -/
def ofBytes? (bs : List UInt8) : Option Text := bs.toByteArray.utf8Decode?.map Array.toList

@[simp] theorem bytes_nil : bytes [] = [] := rfl

@[simp] theorem bytes_append (t u : Text) : bytes (t ++ u) = bytes t ++ bytes u := by simp [bytes]

@[simp] theorem length_bytes (t : Text) : (bytes t).length = byteLength t := by
  induction t with
  | nil => rfl
  | cons c t ih => simp [bytes] at ih ⊢; omega

@[simp] theorem ofBytes?_bytes (t : Text) : ofBytes? (bytes t) = some t := by
  have : (bytes t).toByteArray = List.utf8Encode t := rfl
  simp [ofBytes?, this]

theorem ofBytes?_eq_some_iff {bs : List UInt8} {t : Text} : ofBytes? bs = some t ↔ bs = bytes t := by
  constructor
  · intro h
    obtain ⟨cs, hcs, rfl⟩ := Option.map_eq_some_iff.1 h
    have hencode := ByteArray.utf8Encode_get_utf8Decode? (b := bs.toByteArray) (h := by rw [hcs]; rfl)
    simp only [hcs, Option.get_some] at hencode
    have hlist := congrArg (fun b => b.data.toList) hencode
    simpa [List.utf8Encode, bytes] using hlist.symm
  · rintro rfl
    exact ofBytes?_bytes t

theorem bytes_injective {t u : Text} (h : bytes t = bytes u) : t = u := by
  have := congrArg ofBytes? h
  simpa using this

end SnippetSync.Text
