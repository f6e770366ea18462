import PluginHost.Error

/-!
# What the host reports

Each thing worth reporting is a notice.  A notice has a level, a part of the host
that reports it, a message and named fields; all four are functions of the notice.
-/

namespace PluginHost

/-! ## Levels and targets -/

/-- How important a notice is. -/
inductive Level where
  | trace
  | debug
  | info
  | warn
  | error
deriving DecidableEq, Repr

namespace Level

/-- Every level, the least important first. -/
def all : List Level :=
  [trace, debug, info, warn, error]

/-- The position of a level; an important level stands high. -/
def rank : Level → Nat
  | trace => 0
  | debug => 1
  | info => 2
  | warn => 3
  | error => 4

/-- The name of a level. -/
def name : Level → String
  | trace => "TRACE"
  | debug => "DEBUG"
  | info => "INFO"
  | warn => "WARN"
  | error => "ERROR"

end Level

/-- The part of the host that reports a notice. -/
inductive Target where
  | loader
  | handles
  | linker
deriving DecidableEq, Repr

/-- The name of a part of the host, from the whole to the part. -/
def Target.name : Target → String
  | loader => "subplug_core::loader"
  | handles => "subplug_core::handles"
  | linker => "subplug_core::linker"

/-! ## Notices -/

/-- The value of a field of a notice.  A name is written in quotes in text lines;
everything else is shown as it is. -/
inductive FieldValue where
  | name (text : String)
  | shown (text : String)
  | count (n : Nat)
deriving DecidableEq, Repr

/-- Something worth reporting. -/
inductive Notice where
  | staysOpen
  | found (kind : Kind) (name : String)
  | lookupFailed (kind : Kind) (name : String) (failure : LoadError)
  | namelessRefused (kind : Kind)
  | registered (kind : Kind) (name : String)
  | registrationRejected (kind : Kind) (name : String) (failure : LoadError)
  | registrarRefused (failure : LoadError)
  | unregistered (kind : Kind) (name : String)
  | shuttingDown (modules : Nat)
  | bulkNotAwaited (kind : Kind)
  | bulkStarted (kind : Kind) (candidates : Nat)
  | candidateSkipped (kind : Kind) (path : Path) (failure : LoadError)
  | opening (path : Path)
  | openFailed (kind : Kind) (name : String) (failure : LoadError)
  | loaded (kind : Kind) (name : String) (path : Path)
  | didNotRegister (kind : Kind) (name : String) (path : Path)
  | discardFailed (path : Path) (failure : LoadError)
  | runningInit (path : Path)
  | leftOpen (count : Nat)
  | released (path : Path)
  | releaseFailed (path : Path) (failure : LoadError)
deriving DecidableEq, Repr

namespace Notice

/-- How important a notice is. -/
def level : Notice → Level
  | found .. => .trace
  | registered .. | unregistered .. | opening _ | runningInit _ | released _ => .debug
  | staysOpen | shuttingDown _ | bulkStarted .. | loaded .. => .info
  | lookupFailed .. | namelessRefused _ | registrarRefused _ | bulkNotAwaited _ | leftOpen _ =>
    .warn
  | registrationRejected .. | candidateSkipped .. | openFailed .. | didNotRegister ..
  | discardFailed .. | releaseFailed .. => .error

/-- The part of the host that reports a notice. -/
def target : Notice → Target
  | runningInit _ => .linker
  | leftOpen _ | released _ | releaseFailed .. => .handles
  | _ => .loader

/-- The message of a notice. -/
def message : Notice → String
  | staysOpen => "glibc 2.23 detected: subplugin modules will stay open at shutdown"
  | found .. => "Subplugin found"
  | lookupFailed .. => "Subplugin lookup failed"
  | namelessRefused _ => "Refusing to register a subplugin without a name"
  | registered .. => "Registered subplugin"
  | registrationRejected .. => "Subplugin registration rejected"
  | registrarRefused _ => "Subplugin registration through registrar failed"
  | unregistered .. => "Unregistered subplugin"
  | shuttingDown _ => "Shutting down subplugin loader"
  | bulkNotAwaited _ => "Not waiting for a bulk load owned by a thread waiting on this one"
  | bulkStarted .. => "Loading every subplugin of kind"
  | candidateSkipped .. => "Skipping subplugin candidate"
  | opening _ => "Opening subplugin module"
  | openFailed .. => "Cannot open subplugin"
  | loaded .. => "Loaded subplugin"
  | didNotRegister .. => "Subplugin did not register itself during init"
  | discardFailed .. | releaseFailed .. => "Failed to release subplugin module"
  | runningInit _ => "Running subplugin init"
  | leftOpen _ => "Leaving subplugin modules open at shutdown (glibc 2.23 dlclose defect)"
  | released _ => "Released subplugin module"

/-- The fields of a notice beside its message. -/
def details : Notice → List (String × FieldValue)
  | staysOpen => []
  | found kind name | registered kind name | unregistered kind name =>
    [("kind", .shown kind.name), ("name", .name name)]
  | lookupFailed kind name failure | registrationRejected kind name failure
  | openFailed kind name failure =>
    [("kind", .shown kind.name), ("name", .name name), ("error", .shown failure.message)]
  | namelessRefused kind | bulkNotAwaited kind => [("kind", .shown kind.name)]
  | registrarRefused failure => [("error", .shown failure.message)]
  | shuttingDown modules => [("modules", .count modules)]
  | bulkStarted kind candidates =>
    [("kind", .shown kind.name), ("candidates", .count candidates)]
  | candidateSkipped kind path failure =>
    [("kind", .shown kind.name), ("path", .shown path.shown), ("error", .shown failure.message)]
  | opening path | runningInit path | released path => [("path", .shown path.shown)]
  | loaded kind name path | didNotRegister kind name path =>
    [("kind", .shown kind.name), ("name", .name name), ("path", .shown path.shown)]
  | discardFailed path failure | releaseFailed path failure =>
    [("path", .shown path.shown), ("error", .shown failure.message)]
  | leftOpen count => [("count", .count count)]

/-- The fields of a notice, its message first. -/
def fields (notice : Notice) : List (String × FieldValue) :=
  ("message", .shown notice.message) :: notice.details

/-- How many lines a notice takes in a log of plain text: one, and one more for each
line break in a field that is shown as it is. -/
def textLines (notice : Notice) : Nat :=
  1 + (notice.fields.flatMap fun field =>
    match field.2 with
    | .shown text => text.toList
    | _ => []).count '\n'

end Notice

end PluginHost
