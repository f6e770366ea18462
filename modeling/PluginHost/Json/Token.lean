/-!
# The tokens of JSON text

JSON text is a sequence of tokens with blanks between them.  A string token holds
its text, or nothing when an escape in it names half of a surrogate pair without
its other half: such a token may be skipped over but never used.

Main results:

- Theorem `Json.length_token?_le`: reading a token consumes text.
-/

namespace PluginHost

namespace Json

/-! ## Tokens and how they are written -/

/-- A token of JSON text. -/
inductive Token where
  | leftBrace
  | rightBrace
  | leftBracket
  | rightBracket
  | colon
  | comma
  | null
  | bool (value : Bool)
  | number (literal : List Char)
  | string (value : Option String)
deriving DecidableEq, Repr

/-- The four hexadecimal digits of a code unit, in lower case. -/
def unitDigits (n : Nat) : List Char :=
  let digit (d : Nat) : Char := if d < 10 then Char.ofNat (48 + d) else Char.ofNat (87 + d)
  [digit (n / 4096 % 16), digit (n / 256 % 16), digit (n / 16 % 16), digit (n % 16)]

/-- A character as it is written inside a string: quotes, backslashes and controls
are escaped, the controls that have one by a letter. -/
def escape (c : Char) : List Char :=
  match c with
  | '"' => ['\\', '"']
  | '\\' => ['\\', '\\']
  | '\x08' => ['\\', 'b']
  | '\x0c' => ['\\', 'f']
  | '\n' => ['\\', 'n']
  | '\r' => ['\\', 'r']
  | '\t' => ['\\', 't']
  | c => if c.toNat < 0x20 then '\\' :: 'u' :: unitDigits c.toNat else [c]

/-- A text as a string token. -/
def quote (text : String) : List Char :=
  '"' :: text.toList.flatMap escape ++ ['"']

/-- A token as it is written. -/
def Token.text : Token → List Char
  | leftBrace => ['\x7b']
  | rightBrace => ['\x7d']
  | leftBracket => ['[']
  | rightBracket => [']']
  | colon => [':']
  | comma => [',']
  | null => ['n', 'u', 'l', 'l']
  | bool true => ['t', 'r', 'u', 'e']
  | bool false => ['f', 'a', 'l', 's', 'e']
  | number literal => literal
  | string (some text) => quote text
  | string none => ['"', '\\', 'u', 'd', '8', '0', '0', '"']

/-! ## Strings -/

/-- One unit of a string: a character that stands for itself, or a code unit that an
escape names by its number. -/
inductive StringUnit where
  | raw (c : Char)
  | code (n : Nat)
deriving DecidableEq, Repr

/-- The value of a hexadecimal digit. -/
def hexDigit? (c : Char) : Option Nat :=
  if '0' ≤ c ∧ c ≤ '9' then some (c.toNat - 48)
  else if 'a' ≤ c ∧ c ≤ 'f' then some (c.toNat - 87)
  else if 'A' ≤ c ∧ c ≤ 'F' then some (c.toNat - 55)
  else none

/-- The code unit that four hexadecimal digits name. -/
def codeUnit? (a b c d : Char) : Option Nat := do
  let a ← hexDigit? a
  let b ← hexDigit? b
  let c ← hexDigit? c
  let d ← hexDigit? d
  return ((a * 16 + b) * 16 + c) * 16 + d

/-- The character that a letter after a backslash stands for. -/
def letterEscape? : Char → Option Char
  | '"' => some '"'
  | '\\' => some '\\'
  | '/' => some '/'
  | 'b' => some '\x08'
  | 'f' => some '\x0c'
  | 'n' => some '\n'
  | 'r' => some '\r'
  | 't' => some '\t'
  | _ => none

/-- The units of a string up to its closing quote, and the text after the quote. -/
def stringUnits? : List Char → Option (List StringUnit × List Char)
  | [] => none
  | '"' :: rest => some ([], rest)
  | '\\' :: 'u' :: a :: b :: c :: d :: rest =>
    match codeUnit? a b c d, stringUnits? rest with
    | some n, some (units, after) => some (.code n :: units, after)
    | _, _ => none
  | '\\' :: letter :: rest =>
    match letterEscape? letter, stringUnits? rest with
    | some c, some (units, after) => some (.raw c :: units, after)
    | _, _ => none
  | c :: rest =>
    if c.toNat < 0x20 then none
    else
      match stringUnits? rest with
      | some (units, after) => some (.raw c :: units, after)
      | none => none

/-- The first half of a surrogate pair. -/
def isHigh (n : Nat) : Bool :=
  0xD800 ≤ n && n ≤ 0xDBFF

/-- The second half of a surrogate pair. -/
def isLow (n : Nat) : Bool :=
  0xDC00 ≤ n && n ≤ 0xDFFF

/-- The characters of some units; two code units that form a surrogate pair are one
character, and half a pair is none. -/
def pairUp : List StringUnit → Option (List Char)
  | [] => some []
  | .raw c :: rest => (pairUp rest).map (c :: ·)
  | .code n :: .code m :: rest =>
    if isHigh n then
      if isLow m then
        (pairUp rest).map (Char.ofNat (0x10000 + (n - 0xD800) * 0x400 + (m - 0xDC00)) :: ·)
      else none
    else if isLow n then none
    else (pairUp (.code m :: rest)).map (Char.ofNat n :: ·)
  | .code n :: rest =>
    if isHigh n || isLow n then none
    else (pairUp rest).map (Char.ofNat n :: ·)

theorem length_stringUnits?_le {text after : List Char} {units : List StringUnit}
    (h : stringUnits? text = some (units, after)) : after.length ≤ text.length := by
  fun_induction stringUnits? text generalizing units after with
  | case1 => simp at h
  | case2 rest => simp_all
  | case3 a b c d rest n inner tail hr hn ih =>
    have := ih hr
    simp only [Option.some.injEq, Prod.mk.injEq, List.length_cons] at h ⊢
    grind
  | case4 => simp at h
  | case5 letter rest _ c inner tail hr hc ih =>
    have := ih hr
    simp only [Option.some.injEq, Prod.mk.injEq, List.length_cons] at h ⊢
    grind
  | case6 => simp at h
  | case7 => simp at h
  | case8 c rest _ _ _ _ inner tail hr ih =>
    have := ih hr
    simp only [Option.some.injEq, Prod.mk.injEq, List.length_cons] at h ⊢
    grind
  | case9 => simp at h

/-! ## Numbers -/

/-- The digits before the point of a number. -/
def integerPart? : List Char → Option (List Char × List Char)
  | [] => none
  | c :: rest =>
    if c = '0' then some ([c], rest)
    else if c.isDigit then some (c :: rest.takeWhile Char.isDigit, rest.dropWhile Char.isDigit)
    else none

/-- A sequence of at least one digit, and what follows it. -/
def digits? (text : List Char) : Option (List Char × List Char) :=
  if (text.takeWhile Char.isDigit).isEmpty then none
  else some (text.takeWhile Char.isDigit, text.dropWhile Char.isDigit)

/-- The point of a number and the digits after it, where there is a point. -/
def fraction? : List Char → Option (List Char × List Char)
  | '.' :: rest => (digits? rest).map fun part => ('.' :: part.1, part.2)
  | text => some ([], text)

/-- The exponent of a number, where there is one. -/
def exponent? : List Char → Option (List Char × List Char)
  | [] => some ([], [])
  | c :: rest =>
    if c = 'e' ∨ c = 'E' then
      match rest with
      | [] => none
      | sign :: digits =>
        if sign = '+' ∨ sign = '-' then
          (digits? digits).map fun part => (c :: sign :: part.1, part.2)
        else (digits? rest).map fun part => (c :: part.1, part.2)
    else some ([], c :: rest)

/-- A number without its sign, and what follows it. -/
def unsigned? (text : List Char) : Option (List Char × List Char) := do
  let (whole, rest) ← integerPart? text
  let (part, rest) ← fraction? rest
  let (power, rest) ← exponent? rest
  return (whole ++ part ++ power, rest)

theorem length_dropWhile_le (p : Char → Bool) (text : List Char) :
    (text.dropWhile p).length ≤ text.length := by
  induction text with
  | nil => simp
  | cons c rest ih =>
    rw [List.dropWhile_cons]
    split
    · exact Nat.le_succ_of_le ih
    · exact Nat.le_refl _

theorem length_digits?_le {text digits rest : List Char} (h : digits? text = some (digits, rest)) :
    rest.length ≤ text.length := by
  unfold digits? at h
  split at h
  · simp at h
  · simp only [Option.some.injEq, Prod.mk.injEq] at h
    rw [← h.2]
    exact length_dropWhile_le _ _

theorem length_integerPart?_lt {text digits rest : List Char}
    (h : integerPart? text = some (digits, rest)) : rest.length < text.length := by
  unfold integerPart? at h
  split at h
  · simp at h
  · next c tail =>
    have := length_dropWhile_le Char.isDigit tail
    grind

theorem length_fraction?_le {text digits rest : List Char}
    (h : fraction? text = some (digits, rest)) : rest.length ≤ text.length := by
  unfold fraction? at h
  split at h
  · next tail =>
    obtain ⟨⟨d, r⟩, hd, he⟩ := Option.map_eq_some_iff.1 h
    have := length_digits?_le hd
    grind
  · grind

theorem length_exponent?_le {text digits rest : List Char}
    (h : exponent? text = some (digits, rest)) : rest.length ≤ text.length := by
  unfold exponent? at h
  split at h
  · grind
  · next c tail =>
    split at h
    · split at h
      · simp at h
      · split at h <;>
        · obtain ⟨⟨d, r⟩, hd, he⟩ := Option.map_eq_some_iff.1 h
          have := length_digits?_le hd
          grind
    · grind

theorem length_unsigned?_lt {text literal rest : List Char}
    (h : unsigned? text = some (literal, rest)) : rest.length < text.length := by
  simp only [unsigned?, Option.bind_eq_bind, Option.bind_eq_some_iff, Prod.exists,
    Option.pure_def, Option.some.injEq, Prod.mk.injEq] at h
  obtain ⟨whole, r, hw, part, r', hp, power, r'', he, -, rfl⟩ := h
  have h1 := length_integerPart?_lt hw
  have h2 := length_fraction?_le hp
  have h3 := length_exponent?_le he
  omega

/-! ## Reading tokens -/

/-- The blanks that may stand between tokens. -/
def isSpace (c : Char) : Bool :=
  c == ' ' || c == '\n' || c == '\t' || c == '\r'

/-- What follows a given beginning of a text. -/
def after? : List Char → List Char → Option (List Char)
  | [], text => some text
  | _ :: _, [] => none
  | w :: word, c :: text => if w = c then after? word text else none

/-- The token that begins with a given character, and the text after it. -/
def token? (c : Char) (rest : List Char) : Option (Token × List Char) :=
  match c with
  | '\x7b' => some (.leftBrace, rest)
  | '\x7d' => some (.rightBrace, rest)
  | '[' => some (.leftBracket, rest)
  | ']' => some (.rightBracket, rest)
  | ':' => some (.colon, rest)
  | ',' => some (.comma, rest)
  | 'n' => (after? ['u', 'l', 'l'] rest).map fun after => (.null, after)
  | 't' => (after? ['r', 'u', 'e'] rest).map fun after => (.bool true, after)
  | 'f' => (after? ['a', 'l', 's', 'e'] rest).map fun after => (.bool false, after)
  | '"' =>
    (stringUnits? rest).map fun (units, after) =>
      (.string ((pairUp units).map String.ofList), after)
  | '-' => (unsigned? rest).map fun (literal, after) => (.number ('-' :: literal), after)
  | c => (unsigned? (c :: rest)).map fun (literal, after) => (.number literal, after)

theorem length_after?_le {word text after : List Char} (h : after? word text = some after) :
    after.length ≤ text.length := by
  fun_induction after? word text <;> grind

theorem length_token?_le {c : Char} {rest after : List Char} {token : Token}
    (h : token? c rest = some (token, after)) : after.length ≤ rest.length := by
  unfold token? at h
  split at h
  case h_1 | h_2 | h_3 | h_4 | h_5 | h_6 => simp_all
  case h_7 | h_8 | h_9 =>
    obtain ⟨r, hr, he⟩ := Option.map_eq_some_iff.1 h
    obtain ⟨-, rfl⟩ := Prod.mk.inj he
    exact length_after?_le hr
  case h_10 =>
    obtain ⟨⟨u, r⟩, hr, he⟩ := Option.map_eq_some_iff.1 h
    obtain ⟨-, rfl⟩ := Prod.mk.inj he
    exact length_stringUnits?_le hr
  case h_11 =>
    obtain ⟨⟨l, r⟩, hr, he⟩ := Option.map_eq_some_iff.1 h
    obtain ⟨-, rfl⟩ := Prod.mk.inj he
    exact Nat.le_of_lt (length_unsigned?_lt hr)
  case h_12 =>
    obtain ⟨⟨l, r⟩, hr, he⟩ := Option.map_eq_some_iff.1 h
    obtain ⟨-, rfl⟩ := Prod.mk.inj he
    exact Nat.le_of_lt_succ (length_unsigned?_lt hr)

/-- The tokens of a text, if it consists of tokens and blanks. -/
def scan : List Char → Option (List Token)
  | [] => some []
  | c :: rest =>
    if isSpace c then scan rest
    else
      match _h : token? c rest with
      | none => none
      | some (token, after) => (scan after).map (token :: ·)
termination_by text => text.length
decreasing_by
  · simp
  · have := length_token?_le ‹_›
    simp only [List.length_cons]
    omega

end Json

end PluginHost
