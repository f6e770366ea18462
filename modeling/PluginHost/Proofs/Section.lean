import PluginHost.Loader.Lookup

/-!
# What a lock section does to loads and waits

Every section of a lookup that searches its key ends in one of five ways: it answers, it
waits for a bulk load or for a load by name, or it begins one or the other.  The sections
that end a load answer, or close the modules that cannot be kept.

Main results:

- Theorems `LoaderState.search_searched` and `LoaderState.settle_searched`: how a section
  that searches a key goes on.
- Theorems `LoaderState.enter_searched`, `LoaderState.resumeBulk_searched` and
  `LoaderState.resumeLoad_searched`: the sections of a lookup that search its key.
- Theorem `LoaderState.search_settled`: once its kind is settled, a key is searched in the
  registry only.
-/

namespace PluginHost

/-- When modules are closed before a lookup goes on, nothing else is left for it to do than
to fail. -/
def Next.Tidy : Next → Prop
  | .discard _ resumed =>
    resumed = .closingBulk ∨ ∃ load failure, resumed = .closingName load failure
  | _ => True

namespace LoaderState

/-! ## States with the same loads -/

/-- The other state has the same loads, modes, failures and waits; the registry and the
open modules may differ. -/
def SameLoads (s s' : LoaderState) : Prop :=
  ∃ registry handles, s' = { s with registry := registry, handles := handles }

theorem SameLoads.refl (s : LoaderState) : s.SameLoads s :=
  ⟨s.registry, s.handles, rfl⟩

theorem SameLoads.trans {s s' s'' : LoaderState} (h : s.SameLoads s') (h' : s'.SameLoads s'') :
    s.SameLoads s'' := by
  obtain ⟨_, _, rfl⟩ := h
  obtain ⟨registry, handles, rfl⟩ := h'
  exact ⟨registry, handles, rfl⟩

/-- The other state differs in the registry at most. -/
def Alike (s s' : LoaderState) : Prop :=
  ∃ registry, s' = { s with registry := registry }

theorem Alike.refl (s : LoaderState) : s.Alike s :=
  ⟨s.registry, rfl⟩

theorem Alike.trans {s s' s'' : LoaderState} (h : s.Alike s') (h' : s'.Alike s'') :
    s.Alike s'' := by
  obtain ⟨_, rfl⟩ := h
  obtain ⟨registry, rfl⟩ := h'
  exact ⟨registry, rfl⟩

theorem Alike.sameLoads {s s' : LoaderState} (h : s.Alike s') : s.SameLoads s' := by
  obtain ⟨registry, rfl⟩ := h
  exact ⟨registry, s.handles, rfl⟩

theorem Alike.handles {s s' : LoaderState} (h : s.Alike s') : s'.handles = s.handles := by
  obtain ⟨_, rfl⟩ := h
  rfl

theorem alike_registry (s : LoaderState) (registry : Registry) :
    s.Alike { s with registry := registry } :=
  ⟨registry, rfl⟩

theorem sameLoads_keep (s : LoaderState) (handles : List Handle) : s.SameLoads (s.keep handles) :=
  ⟨s.registry, s.handles.map (· ++ handles), rfl⟩

theorem sameLoads_close (s : LoaderState) : s.SameLoads s.close :=
  ⟨s.registry.clear, none, rfl⟩

/-- A thread that does not wait has no wait to take away. -/
theorem unpark_of_not_waiting {s : LoaderState} {me : ThreadId}
    (h : Assoc.find? me s.waits = none) : s.unpark me = s := by
  have fresh : me ∉ Assoc.keys s.waits := by
    rw [Assoc.mem_keys_iff, h]
    simp
  have same : Assoc.erase me s.waits = s.waits := by
    refine List.filter_eq_self.2 fun binding hb => ?_
    have : binding.1 ≠ me := fun heq => fresh (heq ▸ List.mem_map_of_mem hb)
    simpa using this
  simp only [unpark, same]

/-! ## Bulk loads -/

/-- The state in which `me` has begun the bulk load of a kind. -/
def startBulk (s : LoaderState) (me : ThreadId) (kind : Kind) : LoaderState :=
  { s with bulk := s.bulk.set kind (some me) }

/-- The state in which the bulk load of a kind has ended. -/
def endBulk (s : LoaderState) (kind : Kind) : LoaderState :=
  { s with
    bulk := s.bulk.set kind none
    modes := s.modes.set kind .settled }

/-! ## Sections that search a key -/

/-- How a section of `me` that searches a key goes on from a state in which `me` does not
wait: the state it leaves, and the next stage of the lookup. -/
inductive Searched (me : ThreadId) (key : Key) (s : LoaderState) : LoaderState → Next → Prop
  | answer {s' : LoaderState} (result : Except LoadError Payload) (same : s.Alike s') :
      Searched me key s s' (.answer result)
  | awaitBulk {s' : LoaderState} {owner : ThreadId} (busy : s.bulk.get key.kind = some owner)
      (other : owner ≠ me) (free : s.closesCycle me owner = false)
      (same : (s.park me owner).Alike s') :
      Searched me key s s' (.stage (.awaitingBulk false))
  | awaitLoad {s' : LoaderState} {load : Load} (busy : Assoc.find? key s.byName = some load)
      (other : load.owner ≠ me) (free : s.closesCycle me load.owner = false)
      (same : (s.park me load.owner).Alike s') :
      Searched me key s s' (.stage (.awaitingLoad load.id false))
  | startLoad {s' : LoaderState} (path : Path) (idle : Assoc.find? key s.byName = none)
      (mode : s.modes.get key.kind = .byName) (same : (s.startLoad me key).Alike s') :
      Searched me key s s' (.stage (.loadingName s.nextLoad path))
  | startBulk {s' : LoaderState} (paths : List Path) (idle : s.bulk.get key.kind = none)
      (mode : s.modes.get key.kind = .loadAll)
      (same : (s.startBulk me key.kind).Alike s') :
      Searched me key s s' (.stage (.loadingBulk paths []))

/-- A state that differs in its registry is searched with the same outcomes. -/
theorem Searched.of_registry {me : ThreadId} {key : Key} {s s' : LoaderState} {next : Next}
    {registry : Registry} (h : Searched me key { s with registry := registry } s' next) :
    Searched me key s s' next := by
  cases h with
  | answer result same => exact .answer result ((s.alike_registry registry).trans same)
  | awaitBulk busy other free same =>
    exact .awaitBulk busy other free ((alike_registry _ registry).trans same)
  | awaitLoad busy other free same =>
    exact .awaitLoad busy other free ((alike_registry _ registry).trans same)
  | startLoad path idle mode same =>
    exact .startLoad path idle mode ((alike_registry _ registry).trans same)
  | startBulk paths idle mode same =>
    exact .startBulk paths idle mode ((alike_registry _ registry).trans same)

/-- The state in which the table of a kind exists. -/
def touch (s : LoaderState) (kind : Kind) : LoaderState :=
  { s with registry := s.registry.touch kind }

theorem Searched.tidy {me : ThreadId} {key : Key} {s s' : LoaderState} {next : Next}
    (h : Searched me key s s' next) : next.Tidy := by
  cases h <;> trivial

variable (host : Host) (me : ThreadId) (key : Key)

/-- A search looks at the state as it was: that the table of the kind exists afterwards
decides nothing. -/
theorem search_eq (s : LoaderState) :
    s.search host me key =
      match s.registry.find? key with
      | some payload =>
        ⟨s.touch key.kind, .answer (.ok payload), [.notice (.found key.kind key.name)], false⟩
      | none =>
        match s.modes.get key.kind with
        | .loadAll | .settled =>
          ⟨s.touch key.kind, .answer (.error (.notFound (.notProvided key.kind key.name))), [],
            false⟩
        | .byName =>
          match Assoc.find? key s.byName with
          | some load =>
            if load.owner = me then
              ⟨s.touch key.kind, .answer (.error (.notFound (.loadingHere key.kind key.name))), [],
                false⟩
            else if s.closesCycle me load.owner then
              ⟨s.touch key.kind,
                .answer (.error (.notFound (.loadingByWaiter key.kind key.name))), [], false⟩
            else
              ⟨(s.touch key.kind).park me load.owner, .stage (.awaitingLoad load.id false), [],
                false⟩
          | none =>
            if (host.resolver.one key.kind key.name).valid then
              ⟨(s.touch key.kind).startLoad me key,
                .stage (.loadingName s.nextLoad (host.resolver.one key.kind key.name).path),
                [.resolvedOne key], false⟩
            else
              ⟨s.touch key.kind,
                .answer (.error (.notFound (.noValidFile key.kind key.name
                  (host.resolver.one key.kind key.name).path))), [.resolvedOne key], false⟩ :=
  rfl

/-- How a search comes out, with what decides it. -/
inductive SearchCase (s : LoaderState) : Section → Prop
  | found {payload : Payload} (registered : s.registry.find? key = some payload) :
      SearchCase s
        ⟨s.touch key.kind, .answer (.ok payload), [.notice (.found key.kind key.name)], false⟩
  | absent (unregistered : s.registry.find? key = none) (mode : s.modes.get key.kind ≠ .byName) :
      SearchCase s
        ⟨s.touch key.kind, .answer (.error (.notFound (.notProvided key.kind key.name))), [], false⟩
  | mine {load : Load} (unregistered : s.registry.find? key = none)
      (mode : s.modes.get key.kind = .byName) (busy : Assoc.find? key s.byName = some load)
      (own : load.owner = me) :
      SearchCase s
        ⟨s.touch key.kind, .answer (.error (.notFound (.loadingHere key.kind key.name))), [], false⟩
  | refused {load : Load} (unregistered : s.registry.find? key = none)
      (mode : s.modes.get key.kind = .byName) (busy : Assoc.find? key s.byName = some load)
      (other : load.owner ≠ me) (cycle : s.closesCycle me load.owner = true) :
      SearchCase s
        ⟨s.touch key.kind, .answer (.error (.notFound (.loadingByWaiter key.kind key.name))), [],
          false⟩
  | waits {load : Load} (unregistered : s.registry.find? key = none)
      (mode : s.modes.get key.kind = .byName) (busy : Assoc.find? key s.byName = some load)
      (other : load.owner ≠ me) (free : s.closesCycle me load.owner = false) :
      SearchCase s
        ⟨(s.touch key.kind).park me load.owner, .stage (.awaitingLoad load.id false), [], false⟩
  | starts (unregistered : s.registry.find? key = none)
      (mode : s.modes.get key.kind = .byName) (idle : Assoc.find? key s.byName = none)
      (valid : (host.resolver.one key.kind key.name).valid = true) :
      SearchCase s
        ⟨(s.touch key.kind).startLoad me key,
          .stage (.loadingName s.nextLoad (host.resolver.one key.kind key.name).path),
          [.resolvedOne key], false⟩
  | invalid (unregistered : s.registry.find? key = none)
      (mode : s.modes.get key.kind = .byName) (idle : Assoc.find? key s.byName = none)
      (invalid : (host.resolver.one key.kind key.name).valid = false) :
      SearchCase s
        ⟨s.touch key.kind,
          .answer (.error (.notFound (.noValidFile key.kind key.name
            (host.resolver.one key.kind key.name).path))), [.resolvedOne key], false⟩

theorem search_cases (s : LoaderState) : SearchCase host me key s (s.search host me key) := by
  rw [search_eq]
  cases unregistered : s.registry.find? key with
  | some payload => exact .found unregistered
  | none =>
    cases mode : s.modes.get key.kind with
    | loadAll => exact .absent unregistered (by simp [mode])
    | settled => exact .absent unregistered (by simp [mode])
    | byName =>
      dsimp only
      cases busy : Assoc.find? key s.byName with
      | some load =>
        dsimp only
        split
        · next own => exact .mine unregistered mode busy own
        · next other =>
          split
          · next cycle => exact .refused unregistered mode busy other cycle
          · next free => exact .waits unregistered mode busy other (by simpa using free)
      | none =>
        dsimp only
        split
        · next valid => exact .starts unregistered mode busy valid
        · next invalid => exact .invalid unregistered mode busy (by simpa using invalid)

theorem search_searched (s : LoaderState) :
    Searched me key s (s.search host me key).state (s.search host me key).next ∧
      (s.search host me key).wakes = false := by
  have touched : s.Alike (s.touch key.kind) := s.alike_registry _
  have outcome := s.search_cases host me key
  generalize s.search host me key = ran at outcome
  cases outcome with
  | found _ => exact ⟨.answer _ touched, rfl⟩
  | absent _ _ => exact ⟨.answer _ touched, rfl⟩
  | mine _ _ _ _ => exact ⟨.answer _ touched, rfl⟩
  | refused _ _ _ _ _ => exact ⟨.answer _ touched, rfl⟩
  | waits _ _ busy other free => exact ⟨.awaitLoad busy other free ⟨_, rfl⟩, rfl⟩
  | starts _ mode idle _ => exact ⟨.startLoad _ idle mode ⟨_, rfl⟩, rfl⟩
  | invalid _ _ _ _ => exact ⟨.answer _ touched, rfl⟩

/-- Once its kind is settled, a key is searched in the registry only. -/
theorem search_settled {key : Key} {s : LoaderState} (mode : s.modes.get key.kind = .settled) :
    ∃ result, (s.search host me key).next = .answer result ∧
      s.Alike (s.search host me key).state := by
  have touched : s.Alike (s.touch key.kind) := s.alike_registry _
  have unnamed : s.modes.get key.kind ≠ .byName := by
    rw [mode]
    exact nofun
  have outcome := s.search_cases host me key
  generalize s.search host me key = ran at outcome
  cases outcome with
  | found _ => exact ⟨_, rfl, touched⟩
  | absent _ _ => exact ⟨_, rfl, touched⟩
  | mine _ byName _ _ => exact absurd byName unnamed
  | refused _ byName _ _ _ => exact absurd byName unnamed
  | waits _ byName _ _ _ => exact absurd byName unnamed
  | starts _ byName _ _ => exact absurd byName unnamed
  | invalid _ byName _ _ => exact absurd byName unnamed

theorem settle_searched (s : LoaderState) :
    Searched me key s (s.settle host me key).state (s.settle host me key).next ∧
      (s.settle host me key).wakes = false := by
  unfold settle
  cases busy : s.bulk.get key.kind with
  | some owner =>
    dsimp only
    split
    · exact s.search_searched host me key
    · next other =>
      split
      · exact s.search_searched host me key
      · next free => exact ⟨.awaitBulk busy other (by simpa using free) ⟨_, rfl⟩, rfl⟩
  | none =>
    dsimp only
    split
    · next mode => exact ⟨.startBulk _ busy mode ⟨_, rfl⟩, rfl⟩
    · exact s.search_searched host me key

theorem enter_searched (s : LoaderState) :
    Searched me key s (s.enter host me key).state (s.enter host me key).next ∧
      (s.enter host me key).wakes = false := by
  unfold enter
  split
  · exact ⟨.answer _ (.refl s), rfl⟩
  · split
    · exact ⟨.answer _ (.refl s), rfl⟩
    · obtain ⟨searched, asleep⟩ :=
        settle_searched host me key { s with registry := s.registry.touch key.kind }
      exact ⟨searched.of_registry, asleep⟩

theorem resumeBulk_searched (s : LoaderState) :
    Searched me key (s.unpark me) (s.resumeBulk host me key).state
        (s.resumeBulk host me key).next ∧
      (s.resumeBulk host me key).wakes = false := by
  simp only [resumeBulk]
  split
  · exact ⟨.answer _ (.refl _), rfl⟩
  · exact settle_searched ..

theorem resumeLoad_searched (s : LoaderState) (load : Nat) :
    Searched me key (s.unpark me) (s.resumeLoad host me key load).state
        (s.resumeLoad host me key load).next ∧
      (s.resumeLoad host me key load).wakes = false := by
  simp only [resumeLoad]
  split
  · exact ⟨.answer _ (.refl _), rfl⟩
  · split
    · split
      · exact ⟨.answer _ (.refl _), rfl⟩
      · exact search_searched ..
    · exact search_searched ..

theorem settled_eq (opened : List Handle) (s : LoaderState) :
    s.settled host me key opened =
      if s.isShutDown then ⟨s.endBulk key.kind, .discard opened .closingBulk, [], true⟩
      else { ((s.endBulk key.kind).keep opened).search host me key with wakes := true } :=
  rfl

/-- A module that was opened is kept if its name is registered; else, or if the loader was
shut down meanwhile, it is closed again. -/
theorem adopt_ok_eq (load : Nat) (path : Path) (handle : Handle) (s : LoaderState) :
    s.adopt key load path (.ok handle) =
      if s.isShutDown then ⟨s, .discard [handle] (.closingName load .shutDown), [], false⟩
      else
        match s.registry.find? key with
        | some payload =>
          ((s.touch key.kind).keep [handle]).endLoad key load (.ok payload)
            [.notice (.loaded key.kind key.name path)]
        | none =>
          ⟨s.touch key.kind,
            .discard [handle] (.closingName load (.nonConformant key.kind key.name path)),
            [.notice (.didNotRegister key.kind key.name path)], false⟩ :=
  rfl

theorem settled_tidy (opened : List Handle) (s : LoaderState) :
    (s.settled host me key opened).next.Tidy := by
  rw [settled_eq]
  split
  · exact .inl rfl
  · exact (search_searched ..).1.tidy

theorem adopt_tidy (load : Nat) (path : Path) (outcome : Except LoadError Handle)
    (s : LoaderState) : (s.adopt key load path outcome).next.Tidy := by
  cases outcome with
  | error failure => trivial
  | ok handle =>
    rw [adopt_ok_eq]
    split
    · exact .inr ⟨_, _, rfl⟩
    · cases s.registry.find? key with
      | some payload => trivial
      | none => exact .inr ⟨_, _, rfl⟩

end LoaderState

end PluginHost
