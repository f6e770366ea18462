import PluginHost.Kind
import PluginHost.Path

/-!
# Failures

Every operation that can fail says why.  A failure is a value that names its cause;
its wording is one function of it.
-/

namespace PluginHost

/-! ## Causes -/

/-- What is wrong with an argument. -/
inductive ArgumentFault where
  | emptyName
  | nullName
  | undecodableName
  | nullPayload (kind : Kind) (name : String)
  | unknownKind (number : Nat)
  | other (detail : String)
deriving DecidableEq, Repr

/-- What is missing. -/
inductive Absence where
  /-- Every module of the kind is loaded and none provides the name. -/
  | notProvided (kind : Kind) (name : String)
  /-- The thread that asks is loading the name itself. -/
  | loadingHere (kind : Kind) (name : String)
  /-- The thread that loads the name waits, directly or not, for the one that asks. -/
  | loadingByWaiter (kind : Kind) (name : String)
  /-- No file may be opened for the name; this is the best candidate. -/
  | noValidFile (kind : Kind) (name : String) (candidate : Path)
  /-- No table of the kind exists yet. -/
  | untouchedKind (kind : Kind)
  /-- The table of the kind lacks the name. -/
  | unregistered (kind : Kind) (name : String)
  | other (detail : String)
deriving DecidableEq, Repr

/-- Why an operation failed. -/
inductive LoadError where
  | invalidArgument (fault : ArgumentFault)
  | alreadyRegistered (kind : Kind) (name : String)
  | notFound (absence : Absence)
  | loadFailed (path : Path) (reason : String)
  | nonConformant (kind : Kind) (name : String) (path : Path)
  | releaseFailed (path : Path) (reason : String)
  | shutDown
deriving DecidableEq, Repr

/-! ## Wording -/

/-- The detail of an invalid argument. -/
def ArgumentFault.detail : ArgumentFault → String
  | emptyName => "subplugin name must not be empty"
  | nullName => "subplugin name is null"
  | undecodableName => "subplugin name is not valid UTF-8"
  | nullPayload kind name => kind.name ++ " subplugin '" ++ name ++ "' has a null payload"
  | unknownKind number => "Unknown subplugin kind: " ++ toString number
  | other detail => detail

/-- The detail of an absence. -/
def Absence.detail : Absence → String
  | notProvided kind name =>
    kind.name ++ " subplugin '" ++ name ++ "' is not provided by any loaded module"
  | loadingHere kind name =>
    kind.name ++ " subplugin '" ++ name ++ "' is still being loaded by this thread"
  | loadingByWaiter kind name =>
    kind.name ++ " subplugin '" ++ name ++ "' is being loaded by a thread waiting on this one"
  | noValidFile kind name candidate =>
    "no valid " ++ kind.name ++ " subplugin file for '" ++ name ++ "' (candidate "
      ++ candidate.shown ++ ")"
  | untouchedKind kind => "no " ++ kind.name ++ " subplugin has been registered yet"
  | unregistered kind name => kind.name ++ " subplugin '" ++ name ++ "'"
  | other detail => detail

namespace LoadError

/-- The message of a failure. -/
def message : LoadError → String
  | invalidArgument fault => "Invalid argument: " ++ fault.detail
  | alreadyRegistered kind name =>
    "Subplugin " ++ kind.name ++ "/" ++ name ++ " is already registered"
  | notFound absence => "Not found: " ++ absence.detail
  | loadFailed path reason => "Cannot load " ++ path.shown ++ ": " ++ reason
  | nonConformant kind name path =>
    "Subplugin " ++ kind.name ++ "/" ++ name ++ " (" ++ path.shown
      ++ ") is broken: it did not register itself during init"
  | releaseFailed path reason => "Cannot release " ++ path.shown ++ ": " ++ reason
  | shutDown => "Subplugin loader has been shut down"

/-- The family of a failure, as it is reported beside the message. -/
def label : LoadError → String
  | invalidArgument _ => "InvalidArgument"
  | alreadyRegistered .. => "AlreadyRegistered"
  | notFound _ => "NotFound"
  | loadFailed .. => "LoadFailed"
  | nonConformant .. => "NonConformantModule"
  | releaseFailed .. => "ReleaseFailed"
  | shutDown => "ShutDown"

/-- Whether two failures agree: same family, same details, and paths that lead
through the same components. -/
def same : LoadError → LoadError → Bool
  | invalidArgument a, invalidArgument b => a.detail = b.detail
  | alreadyRegistered k n, alreadyRegistered k' n' => k = k' ∧ n = n'
  | notFound a, notFound b => a.detail = b.detail
  | loadFailed p r, loadFailed p' r' => p.same p' ∧ r = r'
  | nonConformant k n p, nonConformant k' n' p' => k = k' ∧ n = n' ∧ p.same p'
  | releaseFailed p r, releaseFailed p' r' => p.same p' ∧ r = r'
  | shutDown, shutDown => true
  | _, _ => false

end LoadError

end PluginHost
