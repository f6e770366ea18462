import PluginHost.Json.Value

/-!
# Reading JSON text that was written

A string is written between quotes, with escapes for the characters that may not stand there, and
every other token but a number has one spelling.  None of them goes on where the text of the next
one begins, so that tokens can be written one after another without blanks.  A number is the
exception: two of them in a row would be read as one.

Main results:

- Theorem `Json.codeUnit?_unitDigits`: the four digits of a code unit name it.
- Theorem `Json.exists_unit`: a character that is written inside a string is read as one unit, and
  that unit stands for the character.
- Theorem `Json.scan_text`: the text of a token is read as that token, whatever follows it.
- Theorem `Json.parse?_render`: the text of a value without numbers is read as that value.
-/

namespace PluginHost

namespace Json

/-! ## Characters inside a string -/

theorem hexDigit?_digit : ∀ d < 16,
    hexDigit? (if d < 10 then Char.ofNat (48 + d) else Char.ofNat (87 + d)) = some d := by
  decide

theorem codeUnit?_unitDigits {n : Nat} (small : n < 0x10000) :
    ∃ a b c d, unitDigits n = [a, b, c, d] ∧ codeUnit? a b c d = some n := by
  refine ⟨_, _, _, _, rfl, ?_⟩
  have digit (m : Nat) := hexDigit?_digit (m % 16) (Nat.mod_lt m (by decide))
  simp only [codeUnit?, digit, Option.bind_eq_bind, Option.bind_some, Option.pure_def,
    Option.some.injEq]
  omega

/-- A unit in front of what is read from the rest of a string. -/
def withUnit (unit : StringUnit) (read : List StringUnit × List Char) :
    List StringUnit × List Char :=
  (unit :: read.1, read.2)

theorem stringUnits?_letter {letter c : Char} (other : letter ≠ 'u')
    (named : letterEscape? letter = some c) (rest : List Char) :
    stringUnits? ('\\' :: letter :: rest) = (stringUnits? rest).map (withUnit (.raw c)) := by
  rw [stringUnits?, named]
  · cases stringUnits? rest <;> rfl
  · simp [other]

theorem stringUnits?_code {a b c d : Char} {n : Nat} (named : codeUnit? a b c d = some n)
    (rest : List Char) :
    stringUnits? ('\\' :: 'u' :: a :: b :: c :: d :: rest) =
      (stringUnits? rest).map (withUnit (.code n)) := by
  rw [stringUnits?, named]
  cases stringUnits? rest <;> rfl

theorem stringUnits?_plain {c : Char} (quote : c ≠ '"') (backslash : c ≠ '\\')
    (visible : ¬c.toNat < 0x20) (rest : List Char) :
    stringUnits? (c :: rest) = (stringUnits? rest).map (withUnit (.raw c)) := by
  rw [stringUnits?, if_neg visible]
  · cases stringUnits? rest <;> rfl
  · exact quote
  · simp [backslash]
  · simp [backslash]

/-- A code unit that is no half of a surrogate pair stands for its character. -/
theorem pairUp_code {n : Nat} (high : isHigh n = false) (low : isLow n = false)
    (units : List StringUnit) :
    pairUp (.code n :: units) = (pairUp units).map (Char.ofNat n :: ·) := by
  cases units with
  | nil => simp [pairUp, high, low]
  | cons unit rest =>
    cases unit with
    | raw c => simp [pairUp, high, low]
    | code m => simp [pairUp, high, low]

/-- A character as it is written inside a string is read as one unit, which stands for it. -/
theorem exists_unit (c : Char) : ∃ unit,
    (∀ rest, stringUnits? (escape c ++ rest) = (stringUnits? rest).map (withUnit unit)) ∧
    ∀ units, pairUp (unit :: units) = (pairUp units).map (c :: ·) := by
  have raw (units : List StringUnit) :
      pairUp (.raw c :: units) = (pairUp units).map (c :: ·) := by
    rw [pairUp]
  unfold escape
  split
  case h_8 quote backslash b f n r t =>
    split
    case isTrue control =>
      -- a control without a letter of its own: no half of a surrogate pair is that small
      obtain ⟨d₁, d₂, d₃, d₄, digits, named⟩ :=
        codeUnit?_unitDigits (Nat.lt_trans control (by decide : 0x20 < 0x10000))
      have high : isHigh c.toNat = false := by
        unfold isHigh
        simp
        omega
      have low : isLow c.toNat = false := by
        unfold isLow
        simp
        omega
      refine ⟨.code c.toNat, fun rest => ?_, fun units => ?_⟩
      · rw [digits]
        exact stringUnits?_code named rest
      · rw [pairUp_code high low, Char.ofNat_toNat]
    case isFalse visible =>
      exact ⟨.raw c, stringUnits?_plain quote backslash visible, raw⟩
  all_goals
    exact ⟨.raw _, stringUnits?_letter (by decide) rfl, raw⟩

/-- The text between the quotes of a string that was written is read as units that stand for it. -/
theorem exists_units (text : List Char) : ∃ units,
    (∀ rest, stringUnits? (text.flatMap escape ++ '"' :: rest) = some (units, rest)) ∧
    pairUp units = some text := by
  induction text with
  | nil => exact ⟨[], fun rest => by simp [stringUnits?], rfl⟩
  | cons c text ih =>
    obtain ⟨units, read, stand⟩ := ih
    obtain ⟨unit, reads, stands⟩ := exists_unit c
    refine ⟨unit :: units, fun rest => ?_, ?_⟩
    · rw [List.flatMap_cons, List.append_assoc, reads, read]
      rfl
    · rw [stands, stand]
      rfl

example : String.ofList (quote "\"\\\n\x01é") = "\"\\\"\\\\\\n\\u0001é\"" := by
  decide

/-! ## Tokens -/

/-- Whether a token is a number. -/
def Token.isNumber : Token → Bool
  | number _ => true
  | _ => false

/-- Reading goes on behind a token that is read. -/
theorem scan_cons {c : Char} {rest after : List Char} {token : Token}
    (visible : isSpace c = false) (read : token? c rest = some (token, after)) :
    scan (c :: rest) = (scan after).map (token :: ·) := by
  rw [scan, if_neg (by simp [visible])]
  split
  · next none => rw [read] at none; cases none
  · next found =>
    rw [read] at found
    cases found
    rfl

/-- The text of a token is read as that token, whatever follows it. -/
theorem scan_text {token : Token} (other : token.isNumber = false) (rest : List Char) :
    scan (token.text ++ rest) = (scan rest).map (token :: ·) := by
  cases token with
  | leftBrace | rightBrace | leftBracket | rightBracket | colon | comma => exact scan_cons rfl rfl
  | null => exact scan_cons rfl rfl
  | bool value => cases value <;> exact scan_cons rfl rfl
  | number literal => cases other
  | string value =>
    cases value with
    | none => exact scan_cons rfl rfl
    | some text =>
      obtain ⟨units, read, stand⟩ := exists_units text.toList
      have quoted : token? '"' (text.toList.flatMap escape ++ ['"'] ++ rest) =
          some (.string (some text), rest) := by
        rw [List.append_assoc, List.singleton_append, token?, read, Option.map_some]
        simp [stand]
      exact scan_cons rfl quoted

theorem scan_texts {tokens : List Token} (others : ∀ token ∈ tokens, token.isNumber = false) :
    scan (tokens.flatMap Token.text) = some tokens := by
  induction tokens with
  | nil => rw [List.flatMap_nil, scan]
  | cons token tokens ih =>
    rw [List.forall_mem_cons] at others
    rw [List.flatMap_cons, scan_text others.1, ih others.2]
    rfl

/-! ## Values -/

/-- No number is part of the value. -/
def Numberless (value : Json) : Prop :=
  ∀ token ∈ value.tokens, token.isNumber = false

theorem numberless_string (value : Option String) : (string value).Numberless := by
  simp [Numberless, tokens, Token.isNumber]

theorem isNumber_of_mem_itemTokens {items : List Json} (parts : ∀ item ∈ items, item.Numberless) :
    ∀ token ∈ itemTokens items, token.isNumber = false := by
  induction items with
  | nil => simp [itemTokens, Token.isNumber]
  | cons item items ih =>
    rw [List.forall_mem_cons] at parts
    simp only [itemTokens, List.forall_mem_cons, List.forall_mem_append]
    exact ⟨rfl, parts.1, ih parts.2⟩

theorem numberless_array {items : List Json} (parts : ∀ item ∈ items, item.Numberless) :
    (array items).Numberless := by
  unfold Numberless
  cases items with
  | nil => simp [tokens, Token.isNumber]
  | cons item items =>
    rw [List.forall_mem_cons] at parts
    simp only [tokens, List.forall_mem_cons, List.forall_mem_append]
    exact ⟨rfl, parts.1, isNumber_of_mem_itemTokens parts.2⟩

theorem isNumber_of_mem_memberTokens {members : List (Option String × Json)}
    (parts : ∀ member ∈ members, member.2.Numberless) :
    ∀ token ∈ memberTokens members, token.isNumber = false := by
  induction members with
  | nil => simp [memberTokens, Token.isNumber]
  | cons member members ih =>
    rw [List.forall_mem_cons] at parts
    simp only [memberTokens, List.forall_mem_cons, List.forall_mem_append]
    exact ⟨rfl, rfl, rfl, parts.1, ih parts.2⟩

theorem numberless_object {members : List (Option String × Json)}
    (parts : ∀ member ∈ members, member.2.Numberless) : (object members).Numberless := by
  unfold Numberless
  cases members with
  | nil => simp [tokens, Token.isNumber]
  | cons member members =>
    rw [List.forall_mem_cons] at parts
    simp only [tokens, List.forall_mem_cons, List.forall_mem_append]
    exact ⟨rfl, rfl, rfl, parts.1, isNumber_of_mem_memberTokens parts.2⟩

/-- The text of a value without numbers is read as that value. -/
theorem parse?_render {value : Json} (numberless : value.Numberless) :
    parse? value.render = some value := by
  rw [parse?, render, String.toList_ofList, scan_texts numberless]
  exact ofTokens?_tokens value

end Json

end PluginHost
