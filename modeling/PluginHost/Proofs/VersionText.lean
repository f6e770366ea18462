import Mathlib.Data.List.DropRight
import Mathlib.Data.List.Induction
import PluginHost.Release

/-!
# The version that leaves modules open

Modules are left open at shutdown under one version of the C library.  It is recognised by a
text: the white space around it does not count, and of its fields between dots the first two
must be the numbers of that version.  This module says which texts those are.

Main results:

- Theorem `Blank.trim_eq_iff`: a text without the white space around it.
- Theorem `Fields.exists_split_eq_iff`: the first two fields of a text.
- Theorem `decimalWord?_eq_some_iff_spells`: the spellings of a number.
- Theorem `ReleasePolicy.ofLibcVersion_eq_skip_iff`: the texts of version 2.23.
-/

namespace PluginHost

/-! ## White space around a text -/

namespace Blank

variable {text core front back : List Char}

/-- A text consists of a core and of blanks around it, and the core neither begins nor ends with
a blank. -/
structure Stripped (text core : List Char) : Prop where
  around : ∃ front back, text = front ++ core ++ back ∧
    (∀ c ∈ front, isBlank c = true) ∧ ∀ c ∈ back, isBlank c = true
  first : ∀ c ∈ core.head?, isBlank c = false
  last : ∀ c ∈ core.getLast?, isBlank c = false

theorem trim_eq_rdropWhile (text : List Char) :
    trim text = (text.dropWhile isBlank).rdropWhile isBlank :=
  rfl

theorem trim_append_left (blank : ∀ c ∈ front, isBlank c = true) :
    trim (front ++ text) = trim text := by
  rw [trim, List.dropWhile_append_of_pos blank, trim]

theorem trim_append_right (blank : ∀ c ∈ back, isBlank c = true) :
    trim (text ++ back) = trim text := by
  have turned : ∀ c ∈ back.reverse, isBlank c = true := by simpa using blank
  rw [trim, trim, List.dropWhile_append]
  split
  · next empty => simp [List.isEmpty_iff.1 empty, List.dropWhile_eq_nil_iff.2 blank]
  · rw [List.reverse_append, List.dropWhile_append_of_pos turned]

theorem stripped_trim (text : List Char) : Stripped text (trim text) where
  around := by
    refine ⟨text.takeWhile isBlank, (text.dropWhile isBlank).rtakeWhile isBlank, ?_, ?_, ?_⟩
    · rw [trim_eq_rdropWhile, List.append_assoc, List.rdropWhile_append_rtakeWhile,
        List.takeWhile_append_dropWhile]
    · exact fun c hc => List.mem_takeWhile_imp hc
    · exact fun c hc => List.mem_rtakeWhile_imp hc
  first c hc := by
    obtain ⟨back, whole⟩ := List.rdropWhile_prefix isBlank (text.dropWhile isBlank)
    have begins : (text.dropWhile isBlank).head? = some c := by
      rw [← whole, List.head?_append, ← trim_eq_rdropWhile, Option.mem_def.1 hc]
      rfl
    have stop := List.head?_dropWhile_not isBlank text
    rw [begins] at stop
    exact stop
  last c hc := by
    rw [trim_eq_rdropWhile] at hc
    obtain ⟨nonempty, rfl⟩ := List.mem_getLast?_eq_getLast hc
    simpa using List.rdropWhile_last_not isBlank _ nonempty

/-- What trimming leaves is the core of a text, and a text has no other. -/
theorem trim_eq_iff : trim text = core ↔ Stripped text core := by
  constructor
  · rintro rfl
    exact stripped_trim text
  · rintro ⟨⟨front, back, rfl, leading, trailing⟩, first, last⟩
    rw [trim_append_right trailing, trim_append_left leading, trim_eq_self first last]

end Blank

/-! ## The first two fields -/

namespace Fields

variable {α : Type} [DecidableEq α] {separator : α} {text first second : List α}

/-- The first two fields of a text are what stands before its first separator, and what stands
after it up to the end or the next separator. -/
theorem exists_split_eq_iff :
    (∃ fields, split separator text = first :: second :: fields) ↔
      separator ∉ first ∧ separator ∉ second ∧
        ∃ rest, text = first ++ separator :: (second ++ rest) ∧
          (rest = [] ∨ ∃ more, rest = separator :: more) := by
  constructor
  · rintro ⟨fields, h⟩
    have joined := join_split separator text
    rw [h] at joined
    refine ⟨not_mem_of_mem_split (h ▸ List.mem_cons_self),
      not_mem_of_mem_split (h ▸ List.mem_cons_of_mem _ List.mem_cons_self), ?_⟩
    cases fields with
    | nil => exact ⟨[], by simpa [join] using joined.symm, Or.inl rfl⟩
    | cons third fields =>
      exact ⟨separator :: join separator (third :: fields), joined.symm, Or.inr ⟨_, rfl⟩⟩
  · rintro ⟨whole, whole', rest, rfl, last⟩
    rw [split_append, split_of_not_mem whole]
    rcases last with rfl | ⟨more, rfl⟩
    · exact ⟨[], by rw [List.append_nil, split_of_not_mem whole']; rfl⟩
    · exact ⟨split separator more, by rw [split_append, split_of_not_mem whole']; rfl⟩

end Fields

/-! ## Spellings of a number -/

variable {digits text : List Char} {n : Nat}

/-- A text consists of digits, with some zeros in front. -/
def Padded (digits text : List Char) : Prop :=
  ∃ zeros, text = List.replicate zeros '0' ++ digits

/-- A text spells the number with the given digits: with some zeros in front, and with a plus
sign in front of these or without. -/
def Spells (digits text : List Char) : Prop :=
  Padded digits text ∨ ∃ unsigned, text = '+' :: unsigned ∧ Padded digits unsigned

theorem decimalValue_eq_ofDigitChars (digits : List Char) :
    decimalValue digits = Nat.ofDigitChars 10 digits 0 := by
  simp only [decimalValue, Nat.ofDigitChars_eq_foldl, Nat.mul_comm]

theorem exists_digitChar {c : Char} (h : c.isDigit = true) :
    ∃ d < 10, c = Nat.digitChar d ∧ c.toNat - '0'.toNat = d := by
  have range : 48 ≤ c.toNat ∧ c.toNat ≤ 57 := Char.isDigit_iff_toNat.1 h
  have small : c.toNat - 48 < 10 := by omega
  refine ⟨c.toNat - 48, small, ?_, rfl⟩
  apply Char.toNat_inj.1
  rw [Nat.toNat_digitChar_of_lt_ten small]
  omega

/-- One more digit behind the digits of a number; if the number is zero, its digit is none of
those of the result. -/
theorem padded_concat {m d : Nat} (small : d < 10) :
    Padded (Nat.toDigits 10 (10 * m + d)) (Nat.toDigits 10 m ++ [Nat.digitChar d]) := by
  rw [← Nat.toDigits_of_lt_base small]
  rcases Nat.eq_zero_or_pos m with rfl | positive
  · exact ⟨1, by simp⟩
  · exact ⟨0, Nat.toDigits_append_toDigits (by decide) positive small⟩

theorem padded_decimalValue (nonempty : text ≠ []) (all : ∀ c ∈ text, c.isDigit = true) :
    Padded (Nat.toDigits 10 (decimalValue text)) text := by
  -- The value is built up from the left, so the induction takes digits off the end.
  induction text using List.reverseRecOn with
  | nil => exact absurd rfl nonempty
  | append_singleton text c ih =>
    obtain ⟨d, small, rfl, value⟩ := exists_digitChar (all c (by simp))
    have last : decimalValue (text ++ [Nat.digitChar d]) = 10 * decimalValue text + d := by
      rw [decimalValue, List.foldl_append, Nat.mul_comm]
      exact congrArg _ value
    rw [last]
    by_cases alone : text = []
    · subst alone
      exact ⟨0, by simp [decimalValue, Nat.toDigits_of_lt_base small]⟩
    · obtain ⟨zeros, front⟩ := ih alone fun c hc => all c (by simp [hc])
      obtain ⟨more, joined⟩ := padded_concat (m := decimalValue text) small
      refine ⟨zeros + more, ?_⟩
      rw [List.replicate_add, List.append_assoc, ← joined, ← List.append_assoc, ← front]

/-- Digits with some zeros in front are all the texts of digits that have the same value. -/
theorem padded_toDigits_iff :
    Padded (Nat.toDigits 10 n) text ↔
      text ≠ [] ∧ (∀ c ∈ text, c.isDigit = true) ∧ decimalValue text = n := by
  constructor
  · rintro ⟨zeros, rfl⟩
    refine ⟨by simp [Nat.toDigits_ne_nil], fun c hc => ?_, ?_⟩
    · rcases List.mem_append.1 hc with zero | digit
      · rw [List.eq_of_mem_replicate zero]
        rfl
      · exact Nat.isDigit_of_mem_toDigits (by decide) (by decide) digit
    · rw [decimalValue_eq_ofDigitChars, Nat.ofDigitChars_append, Nat.ofDigitChars_replicate_zero,
        Nat.mul_zero, Nat.ofDigitChars_ten_toDigits]
  · rintro ⟨nonempty, all, rfl⟩
    exact padded_decimalValue nonempty all

theorem Padded.not_mem {c : Char} (padded : Padded (Nat.toDigits 10 n) text)
    (other : c.isDigit = false) : c ∉ text := by
  intro mem
  have digit := (padded_toDigits_iff.1 padded).2.1 c mem
  rw [other] at digit
  cases digit

theorem spells_plus_iff :
    Spells (Nat.toDigits 10 n) ('+' :: text) ↔ Padded (Nat.toDigits 10 n) text := by
  constructor
  · rintro (padded | ⟨unsigned, same, padded⟩)
    · exact absurd List.mem_cons_self (padded.not_mem rfl)
    · rwa [(List.cons.inj same).2]
  · exact fun padded => Or.inr ⟨text, rfl, padded⟩

theorem spells_iff_padded (unsigned : text.head? ≠ some '+') :
    Spells digits text ↔ Padded digits text := by
  constructor
  · rintro (padded | ⟨rest, rfl, -⟩)
    · exact padded
    · exact absurd rfl unsigned
  · exact Or.inl

/-- A text is read as a number exactly when it spells the number and this takes 32 bits at
most. -/
theorem decimalWord?_eq_some_iff_spells :
    decimalWord? text = some n ↔ Spells (Nat.toDigits 10 n) text ∧ n < wordBound := by
  have read : ∀ digits : List Char,
      (digits ≠ [] ∧ (∀ c ∈ digits, c.isDigit = true) ∧ decimalValue digits = n ∧ n < wordBound) ↔
        Padded (Nat.toDigits 10 n) digits ∧ n < wordBound := by
    intro digits
    rw [padded_toDigits_iff, and_assoc, and_assoc]
  rw [decimalWord?_eq_some_iff]
  by_cases signed : text.head? = some '+'
  · obtain ⟨unsigned, rfl⟩ := List.head?_eq_some_iff.1 signed
    rw [spells_plus_iff]
    exact read unsigned
  · rw [if_neg signed, spells_iff_padded signed]
    exact read text

/-! ## Texts of a version -/

/-- A text tells a version by its two numbers: it begins with a spelling of each, a dot between
them, and it ends there or goes on with another dot. -/
def TellsVersion (major minor text : List Char) : Prop :=
  ∃ first second rest, Spells major first ∧ Spells minor second ∧
    text = first ++ '.' :: (second ++ rest) ∧ (rest = [] ∨ ∃ more, rest = '.' :: more)

theorem Spells.dot_not_mem (spells : Spells (Nat.toDigits 10 n) text) : '.' ∉ text := by
  rcases spells with padded | ⟨unsigned, rfl, padded⟩
  · exact padded.not_mem rfl
  · simpa using padded.not_mem (c := '.') rfl

/-- The texts whose first two fields are read as the numbers of a version. -/
theorem tellsVersion_iff {major minor : Nat} (small : major < wordBound)
    (small' : minor < wordBound) :
    TellsVersion (Nat.toDigits 10 major) (Nat.toDigits 10 minor) text ↔
      ∃ first second, decimalWord? first = some major ∧ decimalWord? second = some minor ∧
        ∃ fields, Fields.split '.' text = first :: second :: fields := by
  constructor
  · rintro ⟨first, second, rest, spells, spells', whole, ends⟩
    refine ⟨first, second, decimalWord?_eq_some_iff_spells.2 ⟨spells, small⟩,
      decimalWord?_eq_some_iff_spells.2 ⟨spells', small'⟩, ?_⟩
    exact Fields.exists_split_eq_iff.2
      ⟨spells.dot_not_mem, spells'.dot_not_mem, rest, whole, ends⟩
  · rintro ⟨first, second, read, read', fields⟩
    obtain ⟨-, -, rest, whole, ends⟩ := Fields.exists_split_eq_iff.1 fields
    exact ⟨first, second, rest, (decimalWord?_eq_some_iff_spells.1 read).1,
      (decimalWord?_eq_some_iff_spells.1 read').1, whole, ends⟩

namespace ReleasePolicy

theorem ofLibcVersion_eq_skip_iff_split (version : String) :
    ofLibcVersion (some version) = skip ↔
      ∃ first second, decimalWord? first = some 2 ∧ decimalWord? second = some 23 ∧
        ∃ fields, Fields.split '.' (Blank.trim version.toList) = first :: second :: fields := by
  simp only [ofLibcVersion]
  constructor
  · intro h
    split at h
    · next first second fields split =>
      split at h
      · next numbers => exact ⟨first, second, numbers.1, numbers.2, fields, split⟩
      · cases h
    · cases h
  · rintro ⟨first, second, major, minor, fields, split⟩
    simp only [split]
    exact if_pos ⟨major, minor⟩

/-- Modules are left open exactly for the texts of version 2.23, with white space around them or
without, and they are closed for every other text. -/
theorem ofLibcVersion_eq_skip_iff (version : String) :
    (ofLibcVersion (some version) = skip ↔
      ∃ core, Blank.Stripped version.toList core ∧ TellsVersion ['2'] ['2', '3'] core) ∧
    (ofLibcVersion (some version) = release ↔
      ¬ ∃ core, Blank.Stripped version.toList core ∧ TellsVersion ['2'] ['2', '3'] core) := by
  have small : 2 < wordBound ∧ 23 < wordBound := by decide
  have trimmed : ofLibcVersion (some version) = skip ↔
      TellsVersion ['2'] ['2', '3'] (Blank.trim version.toList) :=
    (ofLibcVersion_eq_skip_iff_split version).trans (tellsVersion_iff small.1 small.2).symm
  have tells : ofLibcVersion (some version) = skip ↔
      ∃ core, Blank.Stripped version.toList core ∧ TellsVersion ['2'] ['2', '3'] core := by
    rw [trimmed]
    constructor
    · exact fun told => ⟨_, Blank.stripped_trim _, told⟩
    · rintro ⟨core, stripped, told⟩
      rwa [Blank.trim_eq_iff.2 stripped]
  refine ⟨tells, ?_⟩
  rw [← tells]
  cases ofLibcVersion (some version) <;> simp

/-- A number of more than 32 bits does not wrap around to a smaller one. -/
example : ofLibcVersion (some "4294967298.23") = release := by decide

example : ofLibcVersion (some " +02.0023.1-rc\t") = skip := by decide

end ReleasePolicy
end PluginHost
