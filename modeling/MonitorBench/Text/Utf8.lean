/-!
# Text as bytes

A text is stored as the UTF-8 encoding of its characters. Reading bytes as text
succeeds exactly on the bytes that some text is stored as, and gives that text back.
-/

set_option autoImplicit false

namespace MonitorBench

/-- The content of a file, or what was written to an output. -/
abbrev Bytes := List UInt8

namespace Text

/-- The bytes that characters are stored as. -/
def encode (cs : List Char) : Bytes :=
  cs.flatMap String.utf8EncodeChar

/-- The bytes that a text is stored as. -/
def bytes (s : String) : Bytes :=
  encode s.toList

/-- The characters that bytes encode. -/
def decode? (bs : Bytes) : Option (List Char) :=
  bs.toByteArray.utf8Decode?.map Array.toList

/-- The text that bytes encode. -/
def ofBytes? (bs : Bytes) : Option String :=
  (decode? bs).map String.ofList

/-- Nothing is stored as no bytes. -/
@[simp] theorem encode_nil : encode [] = [] := rfl

/-- What stands behind each other is stored behind each other. -/
@[simp] theorem encode_append (cs ds : List Char) : encode (cs ++ ds) = encode cs ++ encode ds :=
  List.flatMap_append

/-- Texts that stand behind each other are stored behind each other. -/
@[simp] theorem bytes_append (s t : String) : bytes (s ++ t) = bytes s ++ bytes t := by
  simp [bytes]

/-- Reading what was stored gives the characters back. -/
@[simp] theorem decode?_encode (cs : List Char) : decode? (encode cs) = some cs := by
  simp [decode?, show (encode cs).toByteArray = cs.utf8Encode from rfl]

/-- Only stored characters can be read. -/
theorem encode_of_decode? {bs : Bytes} {cs : List Char} (h : decode? bs = some cs) :
    encode cs = bs := by
  obtain ⟨chars, read, rfl⟩ := Option.map_eq_some_iff.1 h
  have stored := ByteArray.utf8Encode_get_utf8Decode? (b := bs.toByteArray) (h := by simp [read])
  simp only [read, Option.get_some] at stored
  have same : (encode chars.toList).toByteArray = bs.toByteArray := stored
  simpa using congrArg (fun b => b.data.toList) same

/-- A text is read back from its bytes. -/
@[simp] theorem ofBytes?_bytes (s : String) : ofBytes? (bytes s) = some s := by
  simp [ofBytes?, bytes]

/-- Bytes that cannot be read are stored for no text. -/
theorem ofBytes?_eq_none_iff {bs : Bytes} : ofBytes? bs = none ↔ ∀ s, bs ≠ bytes s := by
  rw [ofBytes?, Option.map_eq_none_iff]
  constructor
  · intro unread s stored
    rw [stored, bytes, decode?_encode] at unread
    cases unread
  · intro no_text
    cases read : decode? bs with
    | none => rfl
    | some cs =>
      have stored : bs = bytes (String.ofList cs) := by
        rw [bytes, String.toList_ofList, encode_of_decode? read]
      exact absurd stored (no_text (String.ofList cs))

end Text

end MonitorBench
