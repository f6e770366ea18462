import PluginHost.Json.Token

/-!
# JSON values

A JSON value is written as the sequence of its tokens without blanks.  Reading runs a
machine over the tokens of a text; the machine keeps a stack of the arrays and
objects that are still open, so that nesting may be of any depth.

Main results:

- Theorem `Json.run_tokens`: the machine, at a place where a value must come, reads
  the tokens of a value as that value, whatever comes after them.
- Theorem `Json.ofTokens?_tokens`: the tokens of a value are read as that value.
-/

namespace PluginHost

/-- A JSON value.  A string or a member's name that is no text has none. -/
inductive Json where
  | null
  | bool (value : Bool)
  | number (literal : List Char)
  | string (value : Option String)
  | array (items : List Json)
  | object (members : List (Option String × Json))

namespace Json

/-! ## Writing -/

mutual

/-- The tokens of a value. -/
def tokens : Json → List Token
  | null => [.null]
  | bool value => [.bool value]
  | number literal => [.number literal]
  | string value => [.string value]
  | array [] => [.leftBracket, .rightBracket]
  | array (item :: items) => .leftBracket :: (tokens item ++ itemTokens items)
  | object [] => [.leftBrace, .rightBrace]
  | object ((name, value) :: members) =>
    .leftBrace :: .string name :: .colon :: (tokens value ++ memberTokens members)

/-- The tokens of the further items of an array, up to its end. -/
def itemTokens : List Json → List Token
  | [] => [.rightBracket]
  | item :: items => .comma :: (tokens item ++ itemTokens items)

/-- The tokens of the further members of an object, up to its end. -/
def memberTokens : List (Option String × Json) → List Token
  | [] => [.rightBrace]
  | (name, value) :: members =>
    .comma :: .string name :: .colon :: (tokens value ++ memberTokens members)

end

/-- A value as text, without blanks. -/
def render (value : Json) : String :=
  String.ofList (value.tokens.flatMap Token.text)

/-! ## Reading -/

/-- An array or an object that is not closed yet, its parts in reverse order. -/
inductive Open where
  | array (items : List Json)
  | object (members : List (Option String × Json)) (name : Option String)

/-- What the machine has read so far. -/
inductive Reading where
  /-- A value must come. -/
  | value (stack : List Open)
  /-- An array has begun. -/
  | arrayStart (stack : List Open)
  /-- An object has begun. -/
  | objectStart (stack : List Open)
  /-- The name of a further member must come. -/
  | memberName (members : List (Option String × Json)) (stack : List Open)
  /-- The colon after a member's name must come. -/
  | memberColon (members : List (Option String × Json)) (name : Option String) (stack : List Open)
  /-- A value has ended. -/
  | after (value : Json) (stack : List Open)

/-- The reading after one token where a value must come. -/
def beginValue (stack : List Open) : Token → Option Reading
  | .null => some (.after .null stack)
  | .bool value => some (.after (.bool value) stack)
  | .number literal => some (.after (.number literal) stack)
  | .string value => some (.after (.string value) stack)
  | .leftBracket => some (.arrayStart stack)
  | .leftBrace => some (.objectStart stack)
  | _ => none

/-- The reading after one more token; none where the token may not stand. -/
def step : Reading → Token → Option Reading
  | .value stack, token => beginValue stack token
  | .arrayStart stack, .rightBracket => some (.after (.array []) stack)
  | .arrayStart stack, token => beginValue (.array [] :: stack) token
  | .objectStart stack, .rightBrace => some (.after (.object []) stack)
  | .objectStart stack, .string name => some (.memberColon [] name stack)
  | .memberName members stack, .string name => some (.memberColon members name stack)
  | .memberColon members name stack, .colon => some (.value (.object members name :: stack))
  | .after value (.array items :: stack), .comma =>
    some (.value (.array (value :: items) :: stack))
  | .after value (.array items :: stack), .rightBracket =>
    some (.after (.array (value :: items).reverse) stack)
  | .after value (.object members name :: stack), .comma =>
    some (.memberName ((name, value) :: members) stack)
  | .after value (.object members name :: stack), .rightBrace =>
    some (.after (.object ((name, value) :: members).reverse) stack)
  | _, _ => none

/-- The reading after some tokens. -/
def run : Reading → List Token → Option Reading
  | reading, [] => some reading
  | reading, token :: tokens => (step reading token).bind fun next => run next tokens

/-- The value that some tokens write. -/
def ofTokens? (tokens : List Token) : Option Json :=
  match run (.value []) tokens with
  | some (.after value []) => some value
  | _ => none

/-- The value that a text writes. -/
def parse? (text : String) : Option Json :=
  (scan text.toList).bind ofTokens?

/-! ## Reading what was written -/

/-- The tokens of a value are not empty and do not begin with a closing bracket. -/
theorem tokens_eq_cons (value : Json) :
    ∃ token rest, value.tokens = token :: rest ∧ token ≠ .rightBracket := by
  cases value with
  | null | bool | number | string => exact ⟨_, _, by simp only [tokens]; rfl, by simp⟩
  | array items =>
    cases items with
    | nil => exact ⟨_, _, by simp only [tokens]; rfl, by simp⟩
    | cons item items => exact ⟨_, _, by simp only [tokens]; rfl, by simp⟩
  | object members =>
    cases members with
    | nil => exact ⟨_, _, by simp only [tokens]; rfl, by simp⟩
    | cons member members =>
      obtain ⟨name, value⟩ := member
      exact ⟨_, _, by simp only [tokens]; rfl, by simp⟩

theorem run_arrayStart_tokens (value : Json) (stack : List Open) (rest : List Token) :
    run (.arrayStart stack) (value.tokens ++ rest)
      = run (.value (.array [] :: stack)) (value.tokens ++ rest) := by
  obtain ⟨token, more, h, hne⟩ := tokens_eq_cons value
  cases token <;> simp_all [run, step]

mutual

theorem run_tokens (value : Json) (stack : List Open) (rest : List Token) :
    run (.value stack) (value.tokens ++ rest) = run (.after value stack) rest := by
  match value with
  | .null | .bool _ | .number _ | .string _ => simp [tokens, run, step, beginValue]
  | .array [] => simp [tokens, run, step, beginValue]
  | .array (item :: items) =>
    have first := run_tokens item (.array [] :: stack) (itemTokens items ++ rest)
    have others := run_itemTokens items [] item stack rest
    simp only [tokens, List.cons_append, List.append_assoc, run, step, beginValue,
      Option.bind_some, run_arrayStart_tokens, first, others]
    simp
  | .object [] => simp [tokens, run, step, beginValue]
  | .object ((name, value) :: members) =>
    have first := run_tokens value (.object [] name :: stack) (memberTokens members ++ rest)
    have others := run_memberTokens members [] name value stack rest
    simp only [tokens, List.cons_append, List.append_assoc, run, step, beginValue,
      Option.bind_some, first, others]
    simp

theorem run_itemTokens (items done : List Json) (last : Json) (stack : List Open)
    (rest : List Token) :
    run (.after last (.array done :: stack)) (itemTokens items ++ rest)
      = run (.after (.array (done.reverse ++ last :: items)) stack) rest := by
  match items with
  | [] => simp [itemTokens, run, step]
  | item :: items =>
    have first := run_tokens item (.array (last :: done) :: stack) (itemTokens items ++ rest)
    have others := run_itemTokens items (last :: done) item stack rest
    simp only [itemTokens, List.cons_append, List.append_assoc, run, step, Option.bind_some,
      first, others]
    simp

theorem run_memberTokens (members done : List (Option String × Json)) (name : Option String)
    (last : Json) (stack : List Open) (rest : List Token) :
    run (.after last (.object done name :: stack)) (memberTokens members ++ rest)
      = run (.after (.object (done.reverse ++ (name, last) :: members)) stack) rest := by
  match members with
  | [] => simp [memberTokens, run, step]
  | (next, value) :: members =>
    have first := run_tokens value (.object ((name, last) :: done) next :: stack)
      (memberTokens members ++ rest)
    have others := run_memberTokens members ((name, last) :: done) next value stack rest
    simp only [memberTokens, List.cons_append, List.append_assoc, run, step, Option.bind_some,
      first, others]
    simp

end

theorem ofTokens?_tokens (value : Json) : ofTokens? value.tokens = some value := by
  have h := run_tokens value [] []
  rw [List.append_nil] at h
  simp [ofTokens?, h, run]

/-! ## The parts of a value -/

/-- The text of a string value. -/
def text? : Json → Option String
  | string value => value
  | _ => none

/-- The value of a member that occurs at most once among some members: nothing if it
occurs twice. -/
def member? (name : String) (members : List (Option String × Json)) : Option (Option Json) :=
  match members.filter fun member => member.1 == some name with
  | [] => some none
  | [(_, value)] => some (some value)
  | _ => none

end Json

end PluginHost
