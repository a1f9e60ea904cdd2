/-!
Text as bytes.

`encode` and `decode?` are UTF-8.  `decodeLossy` reads bytes that may have been
cut in the middle of a character, and shows such a remainder as U+FFFD.
-/

namespace Noughts
namespace Text

def encode (s : List Char) : List UInt8 :=
  s.flatMap String.utf8EncodeChar

/-- The text that the bytes encode, if they encode one. -/
def decode? (bytes : List UInt8) : Option String :=
  String.fromUTF8? ⟨bytes.toArray⟩

@[simp] theorem encode_nil : encode [] = [] := rfl

@[simp] theorem encode_append (s t : List Char) : encode (s ++ t) = encode s ++ encode t := by
  simp [encode]

theorem encode_toList (s : String) : encode s.toList = s.toByteArray.data.toList := by
  rw [← String.utf8Encode_toList]
  simp [List.utf8Encode, encode]

theorem decode?_eq_some_iff {bytes : List UInt8} {s : String} :
    decode? bytes = some s ↔ bytes = encode s.toList := by
  have hmk : bytes = s.toByteArray.data.toList ↔ (⟨bytes.toArray⟩ : ByteArray) = s.toByteArray := by
    rw [ByteArray.ext_iff]
    exact ⟨fun h => by rw [h], fun h => by rw [← h]⟩
  rw [encode_toList, hmk, decode?, String.fromUTF8?]
  constructor
  · intro h
    split at h
    · rw [← Option.some.inj h]; rfl
    · cases h
  · intro h
    rw [dif_pos (h ▸ s.isValidUTF8)]
    exact congrArg some (String.toByteArray_inj.1 h)

theorem encode_injective {s t : List Char} (h : encode s = encode t) : s = t := by
  have hs : decode? (encode s) = some (String.ofList s) :=
    decode?_eq_some_iff.2 (by rw [String.toList_ofList])
  have ht : decode? (encode t) = some (String.ofList t) :=
    decode?_eq_some_iff.2 (by rw [String.toList_ofList])
  rw [h, ht, Option.some.injEq] at hs
  rw [← String.toList_ofList (l := s), ← hs, String.toList_ofList]

/-- The first character that the bytes encode, with its length in bytes. -/
def firstChar? (bytes : List UInt8) : Option (Char × Nat) :=
  [1, 2, 3, 4].findSome? fun n =>
    match (decode? (bytes.take n)).map String.toList with
    | some [c] => some (c, n)
    | _ => none

/-- Whether a byte continues a character that began before it. -/
def isContinuation (b : UInt8) : Bool :=
  0x80 ≤ b && b < 0xc0

/-- Reads what can be read, after characters already read, in reverse.  A byte
that begins no character stands, with the continuation bytes after it, for one
U+FFFD. -/
def decodeAfter (before : List Char) : List UInt8 → List Char
  | [] => before.reverse
  | b :: rest =>
    match firstChar? (b :: rest) with
    | some (c, n) => decodeAfter (c :: before) (rest.drop (n - 1))
    | none => decodeAfter ('\ufffd' :: before) (rest.dropWhile isContinuation)
termination_by bytes => bytes.length
decreasing_by
  · simp only [List.length_cons, List.length_drop]; omega
  · exact Nat.lt_succ_of_le (List.dropWhile_sublist _).length_le

def decodeLossy (bytes : List UInt8) : List Char :=
  decodeAfter [] bytes

end Text
end Noughts
