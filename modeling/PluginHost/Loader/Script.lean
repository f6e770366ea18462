import PluginHost.Log
import PluginHost.Registrar
import PluginHost.Release
import PluginHost.Search

/-!
# What threads and modules do

Code outside the loader is a script: a list of actions.  Threads run scripts, and so
do modules while they are opened and while they are closed.  An action calls the
loader, registers through the registrar of the module being opened, or stands at a
gate until somebody opens it.
-/

namespace PluginHost

/-! ## Actions -/

/-- A call of the loader. -/
inductive Request where
  /-- Look a key up; a failure is reported as a notice only. -/
  | get (key : Key)
  /-- Look a key up and say why if that fails. -/
  | tryGet (key : Key)
  /-- Register a payload. -/
  | register (key : Key) (payload : Payload)
  /-- Register what a registrar call asks for. -/
  | registrar (call : HostCall)
  | unregister (key : Key)
  | names (kind : Kind)
  | mode (kind : Kind)
  | moduleCount
  | isShutDown
  | policy
  | shutdown
  /-- Shut down because the loader goes out of use; no call reaches it any more. -/
  | drop
deriving DecidableEq, Repr

/-- An action of a script. -/
inductive Action where
  | request (request : Request)
  /-- Ask for a payload made of the null address, to register it. -/
  | nullPayload
  | registrar (call : RegistrarCall)
  /-- Ask for a payload made of the null address, to register it through the registrar. -/
  | registrarNull
  | gate (id : String)
deriving DecidableEq, Repr

/-- A list of actions, run in order. -/
abbrev Script := List Action

/-! ## Replies -/

/-- The result of an action. -/
inductive Reply where
  | payload (found : Option Payload)
  | lookup (result : Except LoadError Payload)
  | done (result : Except LoadError Unit)
  | nullRefused
  | accepted (answer : Bool)
  | names (names : List String)
  | mode (mode : SearchMode)
  | count (n : Nat)
  | flag (value : Bool)
  | policy (policy : ReleasePolicy)
  | report (report : ReleaseReport)
  | passed
  /-- The loader is going out of use. -/
  | dropped
  /-- There is no registrar outside the opening of a module. -/
  | noRegistrar

/-! ## Events -/

/-- Something that can be observed from outside. -/
inductive Event where
  /-- The resolver was asked for the file of a name. -/
  | resolvedOne (key : Key)
  /-- The resolver was asked for every file of a kind. -/
  | resolvedAll (kind : Kind)
  /-- The linker was asked to open a path. -/
  | opened (path : Path)
  /-- An action of a module came to its end. -/
  | acted (reply : Reply)
  /-- An action of a thread came to its end. -/
  | returned (reply : Reply)
  /-- A module begins to close. -/
  | closing (path : Path)
  /-- A library was asked for its version of the registration interface. -/
  | versionAsked (library : Path)
  /-- The init of a library begins. -/
  | initStarted (library : Path)
  /-- A library was unmapped. -/
  | unmapped (library : Path)
  | notice (notice : Notice)

namespace Event

/-- The notice that an event carries. -/
def notice? : Event → Option Notice
  | notice n => some n
  | _ => none

/-- Whether an event is a call of the resolver or of the linker. -/
def isCall : Event → Bool
  | resolvedOne _ | resolvedAll _ | opened _ => true
  | _ => false

end Event

end PluginHost
