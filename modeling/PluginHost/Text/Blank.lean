/-!
# Blank characters

The characters that count as white space at the ends of a version text: the
property White_Space of the Unicode standard.

Main results:

- Theorem `Blank.trim_eq_self`: a text that neither begins nor ends with a blank
  is left alone.
-/

namespace PluginHost

namespace Blank

/-- The ranges of code points with the property White_Space. -/
def ranges : List (Nat × Nat) :=
  [(0x09, 0x0D), (0x20, 0x20), (0x85, 0x85), (0xA0, 0xA0), (0x1680, 0x1680), (0x2000, 0x200A),
   (0x2028, 0x2029), (0x202F, 0x202F), (0x205F, 0x205F), (0x3000, 0x3000)]

/-- Whether a character is white space. -/
def isBlank (c : Char) : Bool :=
  ranges.any fun range => range.1 ≤ c.toNat && c.toNat ≤ range.2

/-- A text without the white space at its beginning and at its end. -/
def trim (text : List Char) : List Char :=
  ((text.dropWhile isBlank).reverse.dropWhile isBlank).reverse

theorem trim_eq_self {text : List Char} (first : ∀ c ∈ text.head?, isBlank c = false)
    (last : ∀ c ∈ text.getLast?, isBlank c = false) : trim text = text := by
  have front : text.dropWhile isBlank = text := by
    cases text with
    | nil => rfl
    | cons c rest => simp [first c (by simp)]
  have back : text.reverse.dropWhile isBlank = text.reverse := by
    rcases hr : text.reverse with _ | ⟨c, rest⟩
    · rfl
    · have : c ∈ text.getLast? := by
        rw [← List.head?_reverse, hr]
        simp
      simp [last c this]
  simp [trim, front, back]

end Blank

end PluginHost
