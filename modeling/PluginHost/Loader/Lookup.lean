import PluginHost.Loader.State

/-!
# The lock sections of a lookup

A lookup takes the lock several times: when it begins, when it is woken, and when the
modules it asked for have been opened or closed.  Each time it runs one section, which
changes the state and says how the lookup goes on.

Main results:

- Theorem `LoaderState.enter_nameless`: a lookup of an empty name is refused at once.
- Theorem `LoaderState.enter_shutDown`: after shutdown a lookup that begins asks
  neither the resolver nor the linker.
- Theorem `LoaderState.search_found`: a payload that is registered is the answer.
-/

namespace PluginHost

/-- Where a lookup stands between two of its lock sections. -/
inductive Stage where
  /-- It has not had the lock yet. -/
  | entering
  /-- It waits for a bulk load; has it been woken? -/
  | awaitingBulk (woken : Bool)
  /-- It waits for a load by name; has it been woken? -/
  | awaitingLoad (load : Nat) (woken : Bool)
  /-- It opens every candidate of its kind, those of `todo` still to come. -/
  | loadingBulk (todo : List Path) (opened : List Handle)
  /-- It closes the modules of a bulk load that ended after shutdown. -/
  | closingBulk
  /-- It opens the file that should provide its name. -/
  | loadingName (load : Nat) (path : Path)
  /-- That file has been opened, or not. -/
  | openedName (load : Nat) (path : Path) (outcome : Except LoadError Handle)
  /-- It closes the module it opened, and then fails. -/
  | closingName (load : Nat) (failure : LoadError)

/-- How a lookup goes on after a lock section. -/
inductive Next where
  | answer (result : Except LoadError Payload)
  | stage (stage : Stage)
  /-- Close some modules, and then go on. -/
  | discard (handles : List Handle) (stage : Stage)

/-- What a lock section of a lookup comes to. -/
structure Section where
  state : LoaderState
  next : Next
  events : List Event
  /-- Whether all waiting threads are woken. -/
  wakes : Bool

namespace LoaderState

/-! ## Sections that begin a lookup or a load -/

/-- Search a key: in the registry, then, if its kind is searched by name, in the file that
should provide it. -/
def search (host : Host) (me : ThreadId) (key : Key) (s : LoaderState) : Section :=
  let (found, registry) := s.registry.lookup key
  let s := { s with registry := registry }
  match found with
  | some payload => ⟨s, .answer (.ok payload), [.notice (.found key.kind key.name)], false⟩
  | none =>
    match s.modes.get key.kind with
    | .loadAll | .settled =>
      ⟨s, .answer (.error (.notFound (.notProvided key.kind key.name))), [], false⟩
    | .byName =>
      match Assoc.find? key s.byName with
      | some load =>
        if load.owner = me then
          ⟨s, .answer (.error (.notFound (.loadingHere key.kind key.name))), [], false⟩
        else if s.closesCycle me load.owner then
          ⟨s, .answer (.error (.notFound (.loadingByWaiter key.kind key.name))), [], false⟩
        else ⟨s.park me load.owner, .stage (.awaitingLoad load.id false), [], false⟩
      | none =>
        let candidate := host.resolver.one key.kind key.name
        if candidate.valid then
          ⟨s.startLoad me key, .stage (.loadingName s.nextLoad candidate.path),
            [.resolvedOne key], false⟩
        else
          ⟨s, .answer (.error (.notFound (.noValidFile key.kind key.name candidate.path))),
            [.resolvedOne key], false⟩

/-- Make sure that the bulk load of a key's kind is over, then search the key.  The owner
of the bulk load does not wait for itself. -/
def settle (host : Host) (me : ThreadId) (key : Key) (s : LoaderState) : Section :=
  match s.bulk.get key.kind with
  | some owner =>
    if owner = me then s.search host me key
    else if s.closesCycle me owner then
      let searched := s.search host me key
      { searched with events := .notice (.bulkNotAwaited key.kind) :: searched.events }
    else ⟨s.park me owner, .stage (.awaitingBulk false), [], false⟩
  | none =>
    if s.modes.get key.kind = .loadAll then
      let candidates := host.resolver.all key.kind
      ⟨{ s with bulk := s.bulk.set key.kind (some me) }, .stage (.loadingBulk candidates []),
        [.resolvedAll key.kind, .notice (.bulkStarted key.kind candidates.length)], false⟩
    else s.search host me key

/-- The section that begins a lookup. -/
def enter (host : Host) (me : ThreadId) (key : Key) (s : LoaderState) : Section :=
  if key.name.isEmpty then ⟨s, .answer (.error (.invalidArgument .emptyName)), [], false⟩
  else if s.isShutDown then ⟨s, .answer (.error .shutDown), [], false⟩
  else settle host me key { s with registry := s.registry.touch key.kind }

/-! ## Sections of a lookup that was woken -/

/-- The section of a lookup that waited for a bulk load. -/
def resumeBulk (host : Host) (me : ThreadId) (key : Key) (s : LoaderState) : Section :=
  let s := s.unpark me
  if s.isShutDown then ⟨s, .answer (.error .shutDown), [], false⟩
  else s.settle host me key

/-- The section of a lookup that waited for a load by name: it shares the failure of
that load. -/
def resumeLoad (host : Host) (me : ThreadId) (key : Key) (load : Nat) (s : LoaderState) :
    Section :=
  let s := s.unpark me
  if s.isShutDown then ⟨s, .answer (.error .shutDown), [], false⟩
  else
    match Assoc.find? key s.failures with
    | some (failed, failure) =>
      if failed = load then ⟨s, .answer (.error failure), [], false⟩
      else s.search host me key
    | none => s.search host me key

/-! ## Sections that end a load -/

/-- The section that ends a bulk load: its kind is settled, and the modules are kept
unless the loader was shut down meanwhile. -/
def settled (host : Host) (me : ThreadId) (key : Key) (opened : List Handle) (s : LoaderState) :
    Section :=
  let s := { s with
    bulk := s.bulk.set key.kind none
    modes := s.modes.set key.kind .settled }
  if s.isShutDown then ⟨s, .discard opened .closingBulk, [], true⟩
  else { (s.keep opened).search host me key with wakes := true }

/-- The section that ends a load by name with a result. -/
def endLoad (key : Key) (load : Nat) (result : Except LoadError Payload) (events : List Event)
    (s : LoaderState) : Section :=
  ⟨s.finishLoad key load result, .answer result, events, true⟩

/-- The section after the file of a name was opened: the module is kept if it registered
the name. -/
def adopt (key : Key) (load : Nat) (path : Path) (outcome : Except LoadError Handle)
    (s : LoaderState) : Section :=
  match outcome with
  | .error failure =>
    s.endLoad key load (.error failure) [.notice (.openFailed key.kind key.name failure)]
  | .ok handle =>
    if s.isShutDown then ⟨s, .discard [handle] (.closingName load .shutDown), [], false⟩
    else
      let (found, registry) := s.registry.lookup key
      let s := { s with registry := registry }
      match found with
      | some payload =>
        (s.keep [handle]).endLoad key load (.ok payload)
          [.notice (.loaded key.kind key.name path)]
      | none =>
        ⟨s, .discard [handle] (.closingName load (.nonConformant key.kind key.name path)),
          [.notice (.didNotRegister key.kind key.name path)], false⟩

/-! ## Small facts -/

/-- A lookup of an empty name is refused before anything is done for it. -/
theorem enter_nameless {host : Host} {me : ThreadId} {key : Key} {s : LoaderState}
    (nameless : key.name.isEmpty = true) :
    s.enter host me key = ⟨s, .answer (.error (.invalidArgument .emptyName)), [], false⟩ := by
  simp [enter, nameless]

theorem enter_shutDown {host : Host} {me : ThreadId} {key : Key} {s : LoaderState}
    (named : key.name.isEmpty = false) (down : s.isShutDown = true) :
    s.enter host me key = ⟨s, .answer (.error .shutDown), [], false⟩ := by
  simp [enter, named, down]

theorem search_found {host : Host} {me : ThreadId} {key : Key} {s : LoaderState}
    {payload : Payload} (h : s.registry.find? key = some payload) :
    (s.search host me key).next = .answer (.ok payload) := by
  simp [search, Registry.lookup, h]

end LoaderState

end PluginHost
