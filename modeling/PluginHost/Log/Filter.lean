import PluginHost.Log
import PluginHost.Text.Fields
import PluginHost.Text.Utf8

/-!
# Which notices are written

A filter is a list of directives.  A directive lets notices pass from some level on;
it may be limited to the targets whose name begins with a given text.  Of the
directives that speak of a notice the one with the longest text decides.
-/

namespace PluginHost

/-! ## Directives -/

/-- The level from which on notices pass; none stops all of them. -/
abbrev Threshold := Option Level

/-- Notices of some targets pass from some level on. -/
structure Directive where
  target : List Char
  threshold : Threshold
deriving DecidableEq, Repr

namespace Directive

/-- A character with its upper-case ASCII letter made lower case. -/
def lower (c : Char) : Char :=
  if 'A' ≤ c ∧ c ≤ 'Z' then Char.ofNat (c.toNat + 32) else c

/-- The threshold that a word or a digit names. -/
def threshold? (text : List Char) : Option Threshold :=
  match String.ofList (text.map lower) with
  | "off" | "0" => some none
  | "error" | "1" => some (some .error)
  | "warn" | "2" => some (some .warn)
  | "info" | "3" => some (some .info)
  | "debug" | "4" => some (some .debug)
  | "trace" | "5" => some (some .trace)
  | _ => none

/-- Whether a character may stand in the name of a target. -/
def isTargetChar (c : Char) : Bool :=
  c.isAlphanum || c == '_' || c == ':' || c == '-'

/-- The directive that a text writes: a threshold for every target, a target, or a
target and its threshold after an equals sign. -/
def ofText? (text : List Char) : Option Directive :=
  match threshold? text with
  | some threshold => some ⟨[], threshold⟩
  | none =>
    match Fields.split '=' text with
    | [target] =>
      if target.all isTargetChar then some ⟨target, some .trace⟩ else none
    | [target, level] =>
      if target.isEmpty || !target.all isTargetChar then none
      else if level.isEmpty then some ⟨target, some .trace⟩
      else (threshold? level).map fun threshold => ⟨target, threshold⟩
    | _ => none

/-- Whether a directive speaks of a target. -/
def covers (directive : Directive) (target : Target) : Bool :=
  directive.target.isPrefixOf target.name.toList

/-- Whether a directive lets a level pass. -/
def admits (directive : Directive) (level : Level) : Bool :=
  match directive.threshold with
  | none => false
  | some threshold => threshold.rank ≤ level.rank

end Directive

/-! ## Filters -/

/-- The directives that decide which notices are written. -/
abbrev LogFilter := List Directive

namespace LogFilter

/-- The filter that holds when none is configured. -/
def standard : LogFilter :=
  [⟨"subplug_core".toList, some .info⟩]

/-- The filter that a text writes: directives with commas between them.  A text
without a directive lets only errors pass. -/
def ofText? (text : List Char) : Option LogFilter :=
  match ((Fields.split ',' text).filter fun field => !field.isEmpty).mapM Directive.ofText? with
  | none => none
  | some [] => some [⟨[], some .error⟩]
  | some directives => some directives

/-- The filter for a setting that may be absent, ill-formed text or no filter. -/
def ofSetting (setting : Option Bytes) : LogFilter :=
  ((setting.bind Utf8.decode?).bind fun text => ofText? text.toList).getD standard

/-- The directive that decides about a target: the last one with the longest text. -/
def decisive? (filter : LogFilter) (target : Target) : Option Directive :=
  filter.foldl (fun best directive =>
    if directive.covers target then
      match best with
      | none => some directive
      | some other =>
        if other.target.length ≤ directive.target.length then some directive else best
    else best) none

/-- Whether a notice is written. -/
def passes (filter : LogFilter) (notice : Notice) : Bool :=
  match decisive? filter notice.target with
  | none => false
  | some directive => directive.admits notice.level

end LogFilter

/-! ## The form of a log -/

/-- How notices are written. -/
inductive LogFormat where
  | text
  | json
deriving DecidableEq, Repr

namespace LogFormat

/-- The name of a form. -/
def name : LogFormat → String
  | text => "text"
  | json => "json"

/-- The form for a setting: JSON lines for the word `true`, else plain text. -/
def ofSetting (setting : Option Bytes) : LogFormat :=
  if setting = some (Utf8.encode "true") then json else text

/-- How many lines some notices take. -/
def lineCount (format : LogFormat) (notices : List Notice) : Nat :=
  match format with
  | json => notices.length
  | text => notices.foldl (fun lines notice => lines + notice.textLines) 0

end LogFormat

end PluginHost
