/-!
# Byte strings as text

File names, paths and names that cross the registration interface are byte
strings.  This module says which of them are text, and how any byte string is
shown: a byte string is cut into scalar values and stray runs, where a stray run
is the longest beginning of a well-formed sequence that its next byte breaks off.

Main results:

- Theorem `Utf8.decode?_encode`: the bytes of a text decode to that text.
- Theorem `Utf8.encode_of_decode?`: a text has only one byte form.
- Theorem `Utf8.mem_encode_iff`: a byte below 128 stands for the character with its number, and for
  nothing else.
-/

namespace PluginHost

/-- A byte string. -/
abbrev Bytes := List UInt8

namespace Utf8

/-! ## Text that is well formed -/

/-- The bytes of a text. -/
def encode (text : String) : Bytes :=
  text.toByteArray.data.toList

/-- The text with the given bytes, if they are well formed. -/
def decode? (bytes : Bytes) : Option String :=
  String.fromUTF8? ⟨bytes.toArray⟩

@[simp]
theorem encode_append (a b : String) : encode (a ++ b) = encode a ++ encode b := by
  simp [encode]

@[simp]
theorem decode?_encode (text : String) : decode? (encode text) = some text := by
  have valid : (⟨text.toByteArray.data⟩ : ByteArray).IsValidUTF8 := text.isValidUTF8
  simp [decode?, encode, String.fromUTF8?, String.fromUTF8, valid]

theorem encode_of_decode? {bytes : Bytes} {text : String} (h : decode? bytes = some text) :
    encode text = bytes := by
  unfold decode? String.fromUTF8? at h
  split at h
  · simp only [Option.some.injEq] at h
    subst h
    rfl
  · simp at h

/-- The bytes that are decoded are those of a text. -/
theorem isSome_decode?_iff (bytes : Bytes) :
    (decode? bytes).isSome = true ↔ ∃ text, encode text = bytes := by
  rw [Option.isSome_iff_exists]
  constructor
  · rintro ⟨text, decoded⟩
    exact ⟨text, encode_of_decode? decoded⟩
  · rintro ⟨text, rfl⟩
    exact ⟨text, decode?_encode text⟩

theorem encode_injective {a b : String} (h : encode a = encode b) : a = b := by
  have := congrArg decode? h
  simpa using this

theorem encode_eq_flatMap (text : String) :
    encode text = text.toList.flatMap String.utf8EncodeChar := by
  rw [encode, ← String.utf8Encode_toList, List.utf8Encode, List.toList_data_toByteArray]

/-! ## Bytes below 128 -/

/-- A byte below 128 is among the bytes of a character only if it is the number of the character:
in a sequence of several bytes each is at least 128. -/
theorem toNat_of_mem_encodeChar {c : Char} {b : UInt8} (low : b.toNat < 128)
    (h : b ∈ String.utf8EncodeChar c) : c.toNat = b.toNat := by
  have high : ∀ n, n % 256 ≥ 128 → b ≠ UInt8.ofNat n := by
    rintro n large rfl
    rw [UInt8.toNat_ofNat'] at low
    omega
  unfold String.utf8EncodeChar at h
  dsimp only at h
  split at h
  · next single =>
    rw [List.mem_singleton] at h
    rw [h, UInt8.toNat_ofNat', Nat.mod_eq_of_lt (by omega)]
    rfl
  · refine absurd h ?_
    split
    · simp only [List.mem_cons, List.not_mem_nil, or_false, not_or]
      exact ⟨high _ (by omega), high _ (by omega)⟩
    · split
      · simp only [List.mem_cons, List.not_mem_nil, or_false, not_or]
        exact ⟨high _ (by omega), high _ (by omega), high _ (by omega)⟩
      · simp only [List.mem_cons, List.not_mem_nil, or_false, not_or]
        exact ⟨high _ (by omega), high _ (by omega), high _ (by omega), high _ (by omega)⟩

/-- A character whose number is below 128 has that number as its one byte. -/
theorem encodeChar_of_toNat {c : Char} {b : UInt8} (low : b.toNat < 128)
    (number : c.toNat = b.toNat) : String.utf8EncodeChar c = [b] := by
  have value : c.val.toNat = b.toNat := number
  unfold String.utf8EncodeChar
  dsimp only
  rw [if_pos (by omega), value, UInt8.ofNat_toNat]

theorem mem_encode_iff {text : String} {b : UInt8} (low : b.toNat < 128) :
    b ∈ encode text ↔ ∃ c ∈ text.toList, c.toNat = b.toNat := by
  rw [encode_eq_flatMap, List.mem_flatMap]
  constructor
  · rintro ⟨c, mem, has⟩
    exact ⟨c, mem, toNat_of_mem_encodeChar low has⟩
  · rintro ⟨c, mem, number⟩
    refine ⟨c, mem, ?_⟩
    rw [encodeChar_of_toNat low number]
    exact List.mem_singleton_self b

/-! ## Showing any byte string -/

/-- A part of a byte string: one scalar value, or a run of bytes that belongs to none. -/
inductive Piece where
  | scalar (value : Char)
  | stray (run : Bytes)
deriving DecidableEq

/-- What a leading byte announces: how many bytes follow it, the bounds of the
first of them, and the leading byte's share of the scalar value. -/
structure Lead where
  following : Nat
  low : UInt8
  high : UInt8
  share : Nat

/-- The leading bytes of the sequences with more than one byte. -/
def Lead.ofByte? (b : UInt8) : Option Lead :=
  if 0xC2 ≤ b ∧ b ≤ 0xDF then some ⟨1, 0x80, 0xBF, b.toNat - 0xC0⟩
  else if b = 0xE0 then some ⟨2, 0xA0, 0xBF, 0⟩
  else if b = 0xED then some ⟨2, 0x80, 0x9F, 0xD⟩
  else if 0xE1 ≤ b ∧ b ≤ 0xEF then some ⟨2, 0x80, 0xBF, b.toNat - 0xE0⟩
  else if b = 0xF0 then some ⟨3, 0x90, 0xBF, 0⟩
  else if 0xF1 ≤ b ∧ b ≤ 0xF3 then some ⟨3, 0x80, 0xBF, b.toNat - 0xF0⟩
  else if b = 0xF4 then some ⟨3, 0x80, 0x8F, 4⟩
  else none

/-- Read the `n` bytes that a sequence still lacks.  `seen` holds the bytes read so
far, the last one first, and `value` what they say of the scalar value. -/
def follow : Nat → UInt8 → UInt8 → Nat → Bytes → Bytes → Piece × Bytes
  | 0, _, _, value, _, rest => (.scalar (Char.ofNat value), rest)
  | _ + 1, _, _, _, seen, [] => (.stray seen.reverse, [])
  | n + 1, low, high, value, seen, b :: rest =>
    if low ≤ b ∧ b ≤ high then
      follow n 0x80 0xBF (value * 64 + (b.toNat - 0x80)) (b :: seen) rest
    else
      (.stray seen.reverse, b :: rest)

/-- The first piece of a byte string that begins with `b`, and what comes after it. -/
def piece (b : UInt8) (rest : Bytes) : Piece × Bytes :=
  if b < 0x80 then
    (.scalar (Char.ofNat b.toNat), rest)
  else
    match Lead.ofByte? b with
    | none => (.stray [b], rest)
    | some lead => follow lead.following lead.low lead.high lead.share [b] rest

theorem length_follow_le (n : Nat) (low high : UInt8) (value : Nat) (seen rest : Bytes) :
    (follow n low high value seen rest).2.length ≤ rest.length := by
  fun_induction follow n low high value seen rest with
  | case1 => exact Nat.le_refl _
  | case2 => exact Nat.le_refl _
  | case3 low high value seen n b rest h ih => exact Nat.le_succ_of_le ih
  | case4 => exact Nat.le_refl _

theorem length_piece_le (b : UInt8) (rest : Bytes) :
    (piece b rest).2.length ≤ rest.length := by
  unfold piece
  split
  · exact Nat.le_refl _
  · split
    · exact Nat.le_refl _
    · exact length_follow_le ..

/-- Cut a byte string into its pieces. -/
def pieces : Bytes → List Piece
  | [] => []
  | b :: rest => (piece b rest).1 :: pieces (piece b rest).2
termination_by bytes => bytes.length
decreasing_by exact Nat.lt_succ_of_le (length_piece_le b rest)

/-- How a piece is shown in a message: a stray run is one replacement character. -/
def Piece.shown : Piece → Char
  | .scalar value => value
  | .stray _ => '\uFFFD'

/-- How a byte string is shown in a message. -/
def shown (bytes : Bytes) : String :=
  String.ofList ((pieces bytes).map Piece.shown)

end Utf8

end PluginHost
