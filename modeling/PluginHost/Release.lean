import PluginHost.Text.Blank
import PluginHost.Text.Fields

/-!
# What becomes of modules at shutdown

At shutdown every module is closed, unless the C library is the one whose closing
of modules at exit is known to abort the process.  That library is recognised by the
text of its version.

Main results:

- Theorem `decimalWord?_eq_some_iff`: the numbers that a version component may write.
-/

namespace PluginHost

/-! ## Numbers in version texts -/

/-- The value of a sequence of decimal digits. -/
def decimalValue (digits : List Char) : Nat :=
  digits.foldl (fun value c => value * 10 + (c.toNat - '0'.toNat)) 0

/-- The least number that takes more than 32 bits. -/
def wordBound : Nat :=
  0x100000000

/-- The number of 32 bits that a text writes in decimal: digits, after an optional
plus sign. -/
def decimalWord? (text : List Char) : Option Nat :=
  let digits := if text.head? = some '+' then text.tail else text
  if digits.isEmpty then none
  else if !digits.all Char.isDigit then none
  else if decimalValue digits < wordBound then some (decimalValue digits)
  else none

theorem decimalWord?_eq_some_iff (text : List Char) (n : Nat) :
    decimalWord? text = some n ↔
      let digits := if text.head? = some '+' then text.tail else text
      digits ≠ [] ∧ (∀ c ∈ digits, c.isDigit = true) ∧ decimalValue digits = n ∧ n < wordBound := by
  unfold decimalWord?
  grind

/-! ## The policy -/

/-- What becomes of the open modules at shutdown. -/
inductive ReleasePolicy where
  /-- Every module is closed. -/
  | release
  /-- Every module is left open. -/
  | skip
deriving DecidableEq, Repr

namespace ReleasePolicy

/-- The name of a policy. -/
def name : ReleasePolicy → String
  | release => "release"
  | skip => "skip"

/-- The policy for a C library that reports this version.  Exactly version 2.23
leaves modules open; what follows a second dot does not matter. -/
def ofLibcVersion (version : Option String) : ReleasePolicy :=
  match version with
  | none => release
  | some text =>
    match Fields.split '.' (Blank.trim text.toList) with
    | major :: minor :: _ =>
      if decimalWord? major = some 2 ∧ decimalWord? minor = some 23 then skip else release
    | _ => release

end ReleasePolicy

/-- What became of the modules of a handle set. -/
structure ReleaseReport where
  released : Nat
  failed : Nat
  skipped : Nat
deriving DecidableEq, Repr

namespace ReleaseReport

/-- The report on no module at all. -/
def zero : ReleaseReport :=
  ⟨0, 0, 0⟩

/-- The report with one more module that was closed, or that failed to close. -/
def count (report : ReleaseReport) (closed : Bool) : ReleaseReport :=
  if closed then { report with released := report.released + 1 }
  else { report with failed := report.failed + 1 }

end ReleaseReport

end PluginHost
