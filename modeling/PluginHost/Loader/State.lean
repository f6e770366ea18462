import PluginHost.Linker
import PluginHost.Resolver

/-!
# What the loader keeps behind its lock

Behind one lock the loader keeps the registry, the mode of each kind, the open
modules, and who is loading what.  A load by name is marked by its key, a bulk load by
its kind; a mark names the thread that owns the load.  A thread that has to wait for
a load waits for the owner of its mark, and a wait that would close a cycle is refused.

Main results:

- Theorems `LoaderState.find?_startLoad` and `LoaderState.find?_finishLoad`: a load by
  name sets the mark of its key when it begins and takes it away when it ends.
- Theorems `LoaderState.find?_park` and `LoaderState.find?_unpark`: a thread that waits,
  or stops waiting, changes its own wait only.
-/

namespace PluginHost

/-- The identity of a thread. -/
abbrev ThreadId := Nat

/-- A load by name in progress. -/
structure Load where
  owner : ThreadId
  id : Nat
deriving DecidableEq, Repr

/-- What a loader is made of that never changes. -/
structure Host where
  resolver : Resolver
  linker : Linker
  policy : ReleasePolicy

/-- Everything behind the lock. -/
structure LoaderState where
  registry : Registry
  modes : PerKind SearchMode
  /-- The owner of the bulk load of each kind. -/
  bulk : PerKind (Option ThreadId)
  /-- The loads by name in progress. -/
  byName : Assoc Key Load
  /-- The last load of each key that failed, and how. -/
  failures : Assoc Key (Nat × LoadError)
  nextLoad : Nat
  /-- For each waiting thread the one it waits for. -/
  waits : Assoc ThreadId ThreadId
  /-- The open modules, none after shutdown. -/
  handles : Option HandleSet

namespace LoaderState

/-- The state of a new loader. -/
def initial (modes : PerKind SearchMode) : LoaderState where
  registry := .empty
  modes := modes
  bulk := PerKind.ofFn fun _ => none
  byName := []
  failures := []
  nextLoad := 0
  waits := []
  handles := some []

/-- Whether the loader has been shut down. -/
def isShutDown (s : LoaderState) : Bool :=
  s.handles.isNone

/-- How many modules are open. -/
def moduleCount (s : LoaderState) : Nat :=
  (s.handles.map List.length).getD 0

theorem moduleCount_of_shutDown {s : LoaderState} (down : s.isShutDown = true) :
    s.moduleCount = 0 := by
  rw [moduleCount, Option.isNone_iff_eq_none.1 down]
  rfl

/-! ## Waiting -/

/-- Whether following at most the given number of waits, less one, leads from a thread
to `me`. -/
def leadsTo (waits : Assoc ThreadId ThreadId) (me : ThreadId) : Nat → ThreadId → Bool
  | 0, _ => false
  | n + 1, current =>
    if current = me then true
    else
      match Assoc.find? current waits with
      | some next => leadsTo waits me n next
      | none => false

/-- Whether `me` waiting for `owner` would close a cycle of waits.  A thread waits for at
most one other, so a chain of waits is no longer than there are waits. -/
def closesCycle (s : LoaderState) (me owner : ThreadId) : Bool :=
  leadsTo s.waits me (s.waits.length + 1) owner

/-- The state in which `me` waits for `owner`. -/
def park (s : LoaderState) (me owner : ThreadId) : LoaderState :=
  { s with waits := Assoc.insert me owner s.waits }

/-- The state in which `me` no longer waits. -/
def unpark (s : LoaderState) (me : ThreadId) : LoaderState :=
  { s with waits := Assoc.erase me s.waits }

/-! ## Loads by name -/

/-- The state in which `me` has begun to load a key. -/
def startLoad (s : LoaderState) (me : ThreadId) (key : Key) : LoaderState :=
  { s with
    nextLoad := s.nextLoad + 1
    failures := Assoc.erase key s.failures
    byName := Assoc.insert key ⟨me, s.nextLoad⟩ s.byName }

/-- The state in which the load of a key has ended.  A failure is kept for the threads
that waited for it, except that the loader was shut down. -/
def finishLoad (s : LoaderState) (key : Key) (load : Nat) (result : Except LoadError Payload) :
    LoaderState :=
  { s with
    byName := Assoc.erase key s.byName
    failures :=
      match result with
      | .ok _ | .error .shutDown => s.failures
      | .error failure => Assoc.insert key (load, failure) s.failures }

/-! ## Modules -/

/-- The state with further open modules; nothing is kept after shutdown. -/
def keep (s : LoaderState) (handles : List Handle) : LoaderState :=
  { s with handles := s.handles.map (· ++ handles) }

/-- The state after shutdown. -/
def close (s : LoaderState) : LoaderState :=
  { s with registry := s.registry.clear, handles := none }

/-! ## What the operations do -/

theorem find?_park (s : LoaderState) (me owner other : ThreadId) :
    Assoc.find? other (s.park me owner).waits =
      if other = me then some owner else Assoc.find? other s.waits :=
  Assoc.find?_insert me other owner s.waits

theorem find?_unpark (s : LoaderState) (me other : ThreadId) :
    Assoc.find? other (s.unpark me).waits =
      if other = me then none else Assoc.find? other s.waits :=
  Assoc.find?_erase me other s.waits

theorem find?_startLoad (s : LoaderState) (me : ThreadId) (key other : Key) :
    Assoc.find? other (s.startLoad me key).byName =
      if other = key then some ⟨me, s.nextLoad⟩ else Assoc.find? other s.byName :=
  Assoc.find?_insert key other _ s.byName

theorem find?_finishLoad (s : LoaderState) (key other : Key) (load : Nat)
    (result : Except LoadError Payload) :
    Assoc.find? other (s.finishLoad key load result).byName =
      if other = key then none else Assoc.find? other s.byName :=
  Assoc.find?_erase key other s.byName

end LoaderState

end PluginHost
