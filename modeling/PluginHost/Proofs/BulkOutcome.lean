import PluginHost.Proofs.BulkView
import PluginHost.Proofs.Frames
import PluginHost.Proofs.FreshFailure

/-!
# What comes of a bulk load

The first lookup of a kind that is loaded as a whole opens every candidate of the kind, one after
the other, whatever comes of the others.  The modules stay in its hands until the last candidate has
been tried, and go into the handle set together; what the inits register is in the registry at
once.  So the order of the modules and the order of the registrations are decided at different
times, and both follow the list.

Main results:

- Theorem `Directory.payload?_replay_of_free`: of several registrations of a free key the first one
  counts.
- Theorem `Machine.Traced.handles_since`: until the loader is shut down its handle set grows at the
  end only.
- Theorem `Machine.Traced.attempts`: a bulk load tries its candidates in order.
- Theorem `Machine.Traced.bulkOutcome`: what comes of a bulk load.
- Theorem `Machine.Traced.refused_of_nameless`: a lookup of an empty name changes nothing.
- Theorem `Machine.exists_nameless_lookup`: such a lookup loads nothing.
-/

namespace PluginHost

/-! ## Registrations of a free key -/

/-- The payload that a call asks to register under a key. -/
def Call.registers? (key : Key) : Call → Option Payload
  | .register other payload => if other = key then some payload else none
  | _ => none

namespace Directory

variable {d : Directory} {call : Call} {calls earlier : List Call} {key : Key}

/-- A call leaves a key that is free either free or with the payload that it asks to register. -/
theorem payload?_after_of_free (free : d.payload? key = none) (active : d.active = true)
    (named : key.name.isEmpty = false) : (d.after call).payload? key = call.registers? key := by
  cases call with
  | shutdown => rfl
  | unregister other =>
    unfold after
    split
    · by_cases same : key = other
      · subst same
        exact Function.update_self ..
      · exact (Function.update_of_ne same _ _).trans free
    · exact free
  | register other payload =>
    by_cases same : other = key
    · subst same
      have granted : d.grants (.register other payload) = true := by
        simp [grants, active, named, free]
      rw [after_of_granted granted, Call.registers?, if_pos rfl]
      exact Function.update_self ..
    · rw [Call.registers?, if_neg same]
      unfold after
      split
      · exact (Function.update_of_ne (Ne.symm same) _ _).trans free
      · exact free

/-- Of several registrations of a key that is free the first one counts, until the key is taken out
or the directory shut down. -/
theorem payload?_replay_of_free (free : (replay earlier).payload? key = none)
    (active : (replay earlier).active = true) (named : key.name.isEmpty = false)
    (kept : ∀ call ∈ calls, call ≠ .unregister key ∧ call ≠ .shutdown) :
    (replay (calls ++ earlier)).payload? key = calls.reverse.findSome? (Call.registers? key) := by
  induction calls with
  | nil => exact free
  | cons call calls ih =>
    obtain ⟨⟨keeps, up⟩, before⟩ := List.forall_mem_cons.1 kept
    have known := ih before
    rw [List.cons_append, replay, List.reverse_cons, List.findSome?_append]
    cases found : calls.reverse.findSome? (Call.registers? key) with
    | some payload =>
      rw [found] at known
      exact payload?_after known keeps up
    | none =>
      rw [found] at known
      have still : (replay (calls ++ earlier)).active = true := by
        rw [active_replay, List.mem_append, not_or]
        exact ⟨fun mem => (before _ mem).2 rfl, (active_replay earlier).1 active⟩
      rw [payload?_after_of_free known still named, Option.none_or, List.findSome?_singleton]

end Directory

/-! ## The handle set -/

theorem LoaderState.handles_search (host : Host) (me : ThreadId) (key : Key) (s : LoaderState) :
    (s.search host me key).state.handles = s.handles := by
  have outcome := s.search_cases host me key
  generalize s.search host me key = ran at outcome
  cases outcome <;> rfl

/-- A lock section adds modules to the handle set at its end, or none. -/
theorem Section.grows {host : Host} {me : ThreadId} {key : Key} {stage : Stage} {s : LoaderState}
    {ran : Section} (runs : stage.lockSection? host me key s = some ran) :
    ∃ more, ran.state.handles = s.handles.map (· ++ more) := by
  have still : ran.state.handles = s.handles →
      ∃ more, ran.state.handles = s.handles.map (· ++ more) := by
    intro same
    refine ⟨[], ?_⟩
    rw [same]
    cases s.handles <;> simp
  have begun := (s.akin_begun me key stage).handles
  have searched : ((s.begun me key stage).search host me key).state.handles = s.handles := by
    rw [LoaderState.handles_search, begun]
  cases Stage.runs runs with
  | nameless _ => exact still rfl
  | refused _ _ state =>
    rcases state with rfl | rfl
    · exact still rfl
    · exact still rfl
  | shared _ => exact still rfl
  | again _ => exact still searched
  | inside _ _ _ => exact still searched
  | insists _ _ _ _ _ => exact still searched
  | awaits _ _ _ _ _ => exact still begun
  | lists _ _ _ _ => exact still begun
  | free _ _ _ _ => exact still searched
  | @settled opened _ => exact ⟨opened, LoaderState.handles_search ..⟩
  | settledLate _ => exact still rfl
  | closed => exact still rfl
  | @adopted _ _ handle _ _ _ => exact ⟨[handle], rfl⟩
  | rejected _ _ => exact still rfl
  | openedLate _ => exact still rfl
  | unopened => exact still rfl
  | failed => exact still rfl

/-- The section that begins the bulk load of a kind. -/
theorem LoaderState.enter_of_loadAll {host : Host} {me : ThreadId} {key : Key} {s : LoaderState}
    (named : key.name.isEmpty = false) (up : s.isShutDown = false)
    (mode : s.modes.get key.kind = .loadAll) (idle : s.bulk.get key.kind = none) :
    s.enter host me key =
      ⟨(s.touch key.kind).startBulk me key.kind,
        .stage (.loadingBulk (host.resolver.all key.kind) []),
        [.resolvedAll key.kind,
          .notice (.bulkStarted key.kind (host.resolver.all key.kind).length)], false⟩ := by
  have idle' : (s.touch key.kind).bulk.get key.kind = none := idle
  rw [enter, if_neg (by simp [named]), if_neg (by simp [up])]
  show (s.touch key.kind).settle host me key = _
  rw [settle, idle']
  exact if_pos mode

/-- The section that ends a bulk load answers what the registry provides then. -/
theorem LoaderState.settled_next {s : LoaderState} (up : s.isShutDown = false) (host : Host)
    (me : ThreadId) (key : Key) (opened : List Handle) :
    (s.settled host me key opened).next =
      .answer ((s.settled host me key opened).state.provided key) := by
  have mode : ((s.endBulk key.kind).keep opened).modes.get key.kind = .settled :=
    PerKind.get_set_self ..
  obtain ⟨result, next, same⟩ := LoaderState.search_settled host me mode
  have known := LoaderState.search_provided host me (by rw [mode]; exact nofun) next
  have kept := LoaderState.find?_search host me key key ((s.endBulk key.kind).keep opened)
  rw [settled_eq, if_neg (by simp [up]), next, known, provided, provided, kept]

/-- The section that ends a bulk load puts the modules at the end of the handle set. -/
theorem LoaderState.settled_handles {s : LoaderState} (up : s.isShutDown = false) (host : Host)
    (me : ThreadId) (key : Key) (opened : List Handle) :
    (s.settled host me key opened).state.handles = s.handles.map (· ++ opened) := by
  rw [settled_eq, if_neg (by simp [up])]
  exact handles_search ..

namespace Stage

/-- A lookup that opens candidates is told of a module by getting it. -/
theorem told_loadingBulk (todo : List Path) (opened : List Handle)
    (outcome : Except LoadError Handle) :
    (loadingBulk todo opened).told outcome =
      loadingBulk todo (opened ++ outcome.toOption.toList) := by
  cases outcome with
  | ok handle => rfl
  | error failure =>
    rw [Except.toOption, Option.toList_none, List.append_nil]
    rfl

end Stage

namespace Machine

variable {hosts : Set Host} {modes : PerKind SearchMode} {m next : Machine}
  {history later during earlier : History} {host : Host} {me t : ThreadId} {turn : Turn}
  {step first settle : Step} {key other : Key} {style : Style} {below : Thread} {set : HandleSet}
  {todo : List Path} {opened : List Handle} {payload : Payload}

/-- Until the loader is shut down a step adds modules to its handle set at the end, or none. -/
theorem Takes.grows (takes : Takes host m me turn next) (open' : m.world.state.handles = some set)
    (up : next.world.state.isShutDown = false) :
    ∃ more, next.world.state.handles = some (set ++ more) := by
  have still : turn.world.state.handles = m.world.state.handles →
      ∃ more, turn.world.state.handles = some (set ++ more) := by
    intro same
    exact ⟨[], by rw [same, open', List.append_nil]⟩
  have locked := takes.effect.locked_cases
  rw [takes.world] at up ⊢
  generalize m.thread me = thread at locked
  cases locked with
  | nothing _ state => exact still (by rw [state])
  | @serves request _ _ state =>
    refine still ?_
    rw [state]
    exact Thread.served_handles m.world.state request
  | closes _ state =>
    rw [state] at up
    cases up
  | runs ran runs eq =>
    obtain ⟨more, handles⟩ := Section.grows runs
    rw [eq, Thread.afterSection_world]
    exact ⟨more, by rw [handles, open']; rfl⟩

/-- Until the loader is shut down its handle set grows at the end only. -/
theorem Traced.handles_since (h : Traced hosts modes m (later ++ step :: earlier))
    (open' : step.after.world.state.handles = some set) (up : m.world.state.isShutDown = false) :
    ∃ more, m.world.state.handles = some (set ++ more) := by
  refine h.since (P := fun m _ => m.world.state.isShutDown = false →
    ∃ more, m.world.state.handles = some (set ++ more)) ?_ ?_ ?_ up
  · intro m traced _
    exact ⟨[], by rw [traced.state_eq, open', List.append_nil]⟩
  · intro m next _ grown untouched up
    rw [untouched.state] at up ⊢
    exact grown up
  · intro m next _ host me turn _ grown _ takes up
    obtain ⟨more, handles⟩ := grown (takes.active up)
    obtain ⟨last, handles⟩ := takes.grows handles up
    exact ⟨more ++ last, by rw [handles, List.append_assoc]⟩

/-! ## The candidates -/

/-- A bulk load has tried its candidates: the lookup has opened each of them once, in order, and has
got the modules of those that opened.  At each step the candidates opened so far and those to come
make up the list. -/
structure Attempts (hosts : Set Host) (t : ThreadId) (key : Key) (below : Thread)
    (candidates : List Path) (opened : List Handle) (outcomes : List (Except LoadError Handle))
    (settle : Step) (during : History) : Prop where
  mine : settle.thread = t
  top : ∃ style, settle.before.thread t =
    .lookup key style (.loadingBulk [] (opened ++ outcomes.filterMap Except.toOption)) :: below
  comes : List.Forall₂ (fun path outcome => ∃ host ∈ hosts, host.linker.Comes path outcome)
    candidates outcomes
  order : (History.openedAt t below.length during).reverse = candidates
  stands : History.Each (fun step older => ∃ upper style left kept,
    step.before.thread t = upper ++ .lookup key style (.loadingBulk left kept) :: below ∧
      (History.openedAt t below.length older).reverse ++ left = candidates) (settle :: during)

/-- A bulk load with a candidate to try has tried all when it has tried the others after it. -/
theorem Attempts.cons {path : Path} {outcome : Except LoadError Handle}
    {outcomes : List (Except LoadError Handle)} {told : Step} {opening : History}
    (attempts : Attempts hosts t key below todo (opened ++ outcome.toOption.toList) outcomes settle
      during)
    (tells : Told hosts t key style (.loadingBulk (path :: todo) opened) (.loadingBulk todo opened)
      path below outcome told opening) :
    Attempts hosts t key below (path :: todo) opened (outcome :: outcomes) settle
      (during ++ told :: opening) := by
  have order : ∀ older, History.openedAt t below.length (older ++ told :: opening) =
      History.openedAt t below.length older ++ [path] := by
    intro older
    rw [History.openedAt_append, tells.opened]
  refine ⟨attempts.mine, ?_, .cons tells.comes attempts.comes, ?_, ?_⟩
  · obtain ⟨style, top⟩ := attempts.top
    refine ⟨style, ?_⟩
    rw [top, List.append_assoc]
    cases outcome <;> rfl
  · rw [order, List.reverse_append, attempts.order]
    rfl
  · rw [← List.cons_append]
    refine (History.each_append _ _).2 ⟨attempts.stands.imp fun step older stands => ?_,
      tells.stands.imp fun step older stands => ?_⟩
    · obtain ⟨upper, style, left, kept, stack, all⟩ := stands
      refine ⟨upper, style, left, kept, stack, ?_⟩
      rw [order, List.reverse_append, List.append_assoc, all]
      rfl
    · obtain ⟨upper, reached, stack, ⟨rfl, none⟩ | ⟨rfl, one⟩⟩ := stands
      · exact ⟨upper, style, path :: todo, opened, stack, by rw [none]; rfl⟩
      · exact ⟨upper, style, todo, opened, stack, by rw [one]; rfl⟩

/-- A bulk load goes on until it has tried all its candidates. -/
theorem Traced.attempts (h : Traced hosts modes m (later ++ first :: earlier))
    (stack : first.after.thread t = .lookup key style (.loadingBulk todo opened) :: below) :
    (m.thread t).Calls key below ∨
      ∃ recent settle during outcomes, later = recent ++ settle :: during ∧
        Attempts hosts t key below todo opened outcomes settle during := by
  induction todo generalizing later first earlier opened with
  | nil =>
    rcases h.stays_or_moves stack (List.cons_ne_nil _ _) rfl with
      stays | ⟨recent, settle, idle, rfl, moves, top, others⟩
    · exact .inl ⟨[], style, .loadingBulk [] opened, stays⟩
    · have none : ∀ older, (∀ step ∈ older, step.thread ≠ t) →
          History.openedAt t below.length older = [] :=
        fun older others => (History.quiet_of_ne others below.length).1
      refine .inr ⟨recent, settle, idle, [], rfl, moves, ⟨style, ?_⟩, .nil, ?_, ?_, ?_⟩
      · rw [top, List.filterMap_nil, List.append_nil]
      · rw [none idle fun step mem => (others step mem).1]
        rfl
      · refine ⟨[], style, [], opened, top, ?_⟩
        rw [none idle fun step mem => (others step mem).1]
        rfl
      · refine (History.each_of_forall others).imp fun step older others => ?_
        refine ⟨[], style, [], opened, others.1.2, ?_⟩
        rw [none older fun step mem => (others.2 step mem).1]
        rfl
  | cons path todo ih =>
    rcases h.stands_or_told stack rfl with
      ⟨upper, reached, stands⟩ | ⟨recent, told, opening, outcome, rfl, tells⟩
    · exact .inl ⟨upper, style, reached, stands⟩
    · rw [List.append_assoc, List.cons_append] at h
      have stack := tells.stack
      rw [Stage.told_loadingBulk] at stack
      rcases ih h stack with calls | ⟨recent, settle, during, outcomes, rfl, attempts⟩
      · exact .inl calls
      · exact .inr ⟨recent, settle, during ++ told :: opening, outcome :: outcomes, by simp,
          attempts.cons tells⟩

/-! ## What is registered meanwhile -/

/-- The payload that a step asks to register under a key. -/
def Step.registers? (key : Key) (step : Step) : Option Payload :=
  step.call?.bind (Call.registers? key)

/-- The calls of a history ask for the registrations of its steps. -/
theorem History.findSome?_calls (history : History) (key : Key) :
    history.calls.reverse.findSome? (Call.registers? key) =
      history.reverse.findSome? (Step.registers? key) := by
  rw [← List.head?_filterMap, ← List.head?_filterMap, List.filterMap_reverse,
    List.filterMap_reverse, calls, List.filterMap_filterMap]
  rfl

/-- What is registered stays so while nobody takes it out or shuts the loader down. -/
theorem Traced.find?_since (h : Traced hosts modes m (later ++ earlier))
    (before : Traced hosts modes first.before earlier)
    (found : first.before.world.state.registry.find? other = some payload)
    (up : .shutdown ∉ History.calls later) (kept : .unregister other ∉ History.calls later) :
    m.world.state.registry.find? other = some payload := by
  rw [← before.payload?] at found
  rw [← h.payload?, History.calls_append]
  refine Directory.payload?_replay_append found fun call mem => ⟨?_, ?_⟩
  · rintro rfl
    exact kept mem
  · rintro rfl
    exact up mem

/-- Under a key that is free comes what the first step registers that asks for it, while nobody
takes it out or shuts the loader down. -/
theorem Traced.find?_of_free (h : Traced hosts modes m (later ++ earlier))
    (before : Traced hosts modes first.before earlier)
    (active : first.before.world.state.isShutDown = false)
    (free : first.before.world.state.registry.find? other = none)
    (named : other.name.isEmpty = false) (up : .shutdown ∉ History.calls later)
    (kept : .unregister other ∉ History.calls later) :
    m.world.state.registry.find? other = later.reverse.findSome? (Step.registers? other) := by
  rw [← before.payload?] at free
  have active' : (Directory.replay earlier.calls).active = true := by
    rw [Directory.active_replay, ← before.isShutDown_iff, active]
    exact Bool.false_ne_true
  rw [← h.payload?, History.calls_append, ← History.findSome?_calls]
  refine Directory.payload?_replay_of_free free active' named fun call mem => ⟨?_, ?_⟩
  · rintro rfl
    exact kept mem
  · rintro rfl
    exact up mem

/-! ## The contract -/

/-- How a bulk load ends that was not met by a shutdown.  The lookup answers what the registry
provides then, the kind is settled, and the modules that opened stand together at the end of the
handle set, behind those that were adopted meanwhile.  What was registered as the load began still
is, unless it was taken out.  A key that was free and has not been taken out is registered as the
first step wanted that asked for it, and no candidate before the one that was being opened then has
asked for it. -/
structure Settles (hosts : Set Host) (t : ThreadId) (key : Key) (below : Thread)
    (opened : List Handle) (first settle : Step) (during : History) : Prop where
  answers : ∃ ran, settle.Answers hosts key below ran (settle.after.world.state.provided key)
  settled : settle.after.world.state.modes.get key.kind = .settled
  handles : ∃ old nested, first.before.world.state.handles = some old ∧
    settle.before.world.state.handles = some (old ++ nested) ∧
      settle.after.world.state.handles = some (old ++ nested ++ opened)
  kept : ∀ other payload, first.before.world.state.registry.find? other = some payload →
    .unregister other ∉ History.calls during →
      settle.after.world.state.registry.find? other = some payload
  provides : ∀ other, other.name.isEmpty = false →
    first.before.world.state.registry.find? other = none →
      .unregister other ∉ History.calls during →
        settle.after.world.state.registry.find? other =
          during.reverse.findSome? (Step.registers? other)
  earliest : ∀ other payload, other.name.isEmpty = false →
    first.before.world.state.registry.find? other = none →
      .unregister other ∉ History.calls during →
        settle.after.world.state.registry.find? other = some payload →
          ∃ newer step older, during = newer ++ step :: older ∧
            step.registers? other = some payload ∧
            ∀ newer' step' older', during = newer' ++ step' :: older' →
              step'.registers? other ≠ none →
                (History.openedAt t below.length older).length ≤
                  (History.openedAt t below.length older').length

/-- How a bulk load has gone: all candidates have been tried, the modules in the hands of the lookup
are those that the load has opened, and unless the loader was shut down meanwhile it has settled its
kind. -/
structure BulkLoad (hosts : Set Host) (t : ThreadId) (key : Key) (below : Thread)
    (candidates : List Path) (outcomes : List (Except LoadError Handle)) (first settle : Step)
    (during earlier : History) : Prop where
  attempts : Attempts hosts t key below candidates [] outcomes settle during
  mine : ∀ handle ∈ outcomes.filterMap Except.toOption,
    ⟨t, some (.bulk key.kind), handle⟩ ∈ History.opened (during ++ first :: earlier)
  settles : .shutdown ∉ History.calls during →
    Settles hosts t key below (outcomes.filterMap Except.toOption) first settle during

/-- The steps that ask to register a key do so in the order of the list: the first one is not in a
later candidate than any other. -/
theorem History.earliest_of_findSome? {depth : Nat}
    (found : during.reverse.findSome? (Step.registers? other) = some payload) :
    ∃ newer step older, during = newer ++ step :: older ∧ step.registers? other = some payload ∧
      ∀ newer' step' older', during = newer' ++ step' :: older' → step'.registers? other ≠ none →
        (History.openedAt t depth older).length ≤ (History.openedAt t depth older').length := by
  obtain ⟨before, step, after, split, registers, none⟩ := List.findSome?_eq_some_iff.1 found
  have split : during = after.reverse ++ step :: before.reverse := by
    rw [← List.reverse_reverse during, split]
    simp
  refine ⟨after.reverse, step, before.reverse, split, registers, ?_⟩
  intro newer' step' older' split' registers'
  -- The other step is not among those before the first one, so these are before it as well.
  have apart : step' ∉ before.reverse := fun mem =>
    registers' (none step' (List.mem_reverse.1 mem))
  have suffix : before.reverse <:+ during :=
    split ▸ (List.suffix_cons ..).trans (List.suffix_append ..)
  have suffix' : step' :: older' <:+ during := split' ▸ List.suffix_append ..
  rcases List.suffix_or_suffix_of_suffix suffix suffix' with inside | outside
  · rcases List.suffix_cons_iff.1 inside with same | ⟨between, rfl⟩
    · exact absurd (same ▸ List.mem_cons_self) apart
    · rw [History.openedAt_append, List.length_append]
      exact Nat.le_add_left ..
  · exact absurd (outside.subset List.mem_cons_self) apart

/-- A bulk load that no shutdown has met settles its kind. -/
theorem Traced.settles {recent : History}
    (h : Traced hosts modes m (recent ++ settle :: (during ++ first :: earlier)))
    (silent : first.call? = none) (up : first.before.world.state.isShutDown = false)
    (same : first.after.world.state.handles = first.before.world.state.handles)
    {candidates : List Path} {outcomes : List (Except LoadError Handle)}
    (attempts : Attempts hosts t key below candidates [] outcomes settle during)
    (calm : .shutdown ∉ History.calls during) :
    Settles hosts t key below (outcomes.filterMap Except.toOption) first settle during := by
  obtain ⟨before, host, mem, taken⟩ := h.split
  have begun := before.split.1
  obtain ⟨style, top⟩ := attempts.top
  obtain rfl := attempts.mine
  rw [List.nil_append] at top
  have calls : History.calls (during ++ [first]) = History.calls during := by
    rw [History.calls_append, History.calls_cons, silent]
    exact List.append_nil _
  have since : Traced hosts modes settle.before ((during ++ [first]) ++ earlier) := by
    rwa [List.append_assoc, List.singleton_append]
  have up' : settle.before.world.state.isShutDown = false := by
    rw [Bool.eq_false_iff, Ne, since.isShutDown_iff, History.calls_append, calls, List.mem_append,
      ← begun.isShutDown_iff, up]
    exact not_or_intro calm Bool.false_ne_true
  have runs : Stage.lockSection? host settle.thread key settle.before.world.state
      (.loadingBulk [] (outcomes.filterMap Except.toOption)) =
        some (settle.before.world.state.settled host settle.thread key
          (outcomes.filterMap Except.toOption)) := rfl
  have answers : settle.Answers hosts key below _ _ :=
    ⟨⟨host, mem, taken, style, _, top, runs⟩, LoaderState.settled_next up' ..⟩
  have state := answers.state
  rw [← state] at answers
  have found : ∀ other, settle.after.world.state.registry.find? other =
      settle.before.world.state.registry.find? other := by
    intro other
    rw [state]
    exact Section.find?_registry runs other
  have provides : ∀ other, other.name.isEmpty = false →
      first.before.world.state.registry.find? other = none →
        .unregister other ∉ History.calls during →
          settle.after.world.state.registry.find? other =
            during.reverse.findSome? (Step.registers? other) := by
    intro other named free kept
    have registers : first.registers? other = none := by rw [Step.registers?, silent]; rfl
    rw [found, since.find?_of_free begun up free named (calls ▸ calm) (calls ▸ kept),
      List.reverse_append, List.reverse_singleton, List.singleton_append, List.findSome?_cons,
      registers]
  refine ⟨⟨_, answers⟩, ?_, ?_, ?_, provides, ?_⟩
  · rw [state]
    exact LoaderState.modes_settled ..
  · obtain ⟨old, open'⟩ := Option.isSome_iff_exists.1 (Option.isNone_eq_false_iff.1 up)
    obtain ⟨nested, grown⟩ := before.handles_since (same.trans open') up'
    refine ⟨old, nested, open', grown, ?_⟩
    rw [state, LoaderState.settled_handles up', grown]
    rfl
  · intro other payload registered kept
    rw [found]
    exact since.find?_since begun registered (calls ▸ calm) (calls ▸ kept)
  · intro other payload named free kept registered
    rw [provides other named free kept] at registered
    exact History.earliest_of_findSome? registered

/-- What comes of a lookup that begins the bulk load of its kind, with the candidates that it has
listed: it goes on until the load is over, which it is when no thread can go on and none is held up
in a module, and what it opens the linker is asked for. -/
structure BulkOutcome (hosts : Set Host) (candidates : List Path) (m : Machine)
    (later earlier : History) (first : Step) (key : Key) (below : Thread) : Prop where
  loads : (m.thread first.thread).Calls key below ∨
    ∃ after settle during outcomes, later = after ++ settle :: during ∧
      BulkLoad hosts first.thread key below candidates outcomes first settle during earlier
  returns : ∀ host, (∀ t, m.step host t = none) → (∀ t, ¬ (m.thread t).HeldInModule m.world) →
    ∃ after settle during outcomes, later = after ++ settle :: during ∧
      BulkLoad hosts first.thread key below candidates outcomes first settle during earlier
  linked : ∀ step ∈ later, ∀ path,
    (step.before.thread step.thread).openingAt? below.length = some path →
      ∃ events, step.Emits events ∧ linkedPaths events = [path]

/-- The first lookup of a kind that is loaded as a whole has this outcome, if it has a name to look
up. -/
theorem Traced.bulkOutcome (h : Traced hosts modes m (later ++ first :: earlier))
    (top : first.before.thread first.thread = .lookup key style .entering :: below)
    (named : key.name.isEmpty = false) (up : first.before.world.state.isShutDown = false)
    (mode : first.before.world.state.modes.get key.kind = .loadAll)
    (idle : first.before.world.state.bulk.get key.kind = none) :
    ∃ host ∈ hosts, BulkOutcome hosts (host.resolver.all key.kind) m later earlier first key
      below := by
  obtain ⟨-, host, mem, taken⟩ := h.split
  have runs : Stage.lockSection? host first.thread key first.before.world.state .entering =
      some (first.before.world.state.enter host first.thread key) := rfl
  rw [LoaderState.enter_of_loadAll named up mode idle] at runs
  obtain ⟨stack, state⟩ := reaches_of_runs taken top runs rfl rfl
  have silent : first.call? = none := by
    rw [Step.call?, top]
    rfl
  have loads : (m.thread first.thread).Calls key below ∨
      ∃ after settle during outcomes, later = after ++ settle :: during ∧
        BulkLoad hosts first.thread key below (host.resolver.all key.kind) outcomes first settle
          during earlier := by
    rcases h.attempts stack with calls | ⟨after, settle, during, outcomes, rfl, attempts⟩
    · exact .inl calls
    · rw [List.append_assoc, List.cons_append] at h
      refine .inr ⟨after, settle, during, outcomes, rfl, attempts, fun handle mine => ?_, ?_⟩
      · obtain ⟨style, top⟩ := attempts.top
        have held : (some (.bulk key.kind), handle) ∈
            (settle.before.thread first.thread).held := by
          rw [top, Thread.held_lookup]
          exact List.mem_append_left _ (List.mem_map_of_mem mine)
        exact h.split.1.opener held
      · exact h.settles silent up (by rw [state]; rfl) attempts
  refine ⟨host, mem, loads, fun host' stuck free => ?_, fun step mem path opens => ?_⟩
  · exact loads.resolve_left (h.not_calls_of_stuck (by simp) stuck free)
  · exact h.linked_of_openingAt? (List.mem_append_left _ mem) opens

/-- A host with four candidates for a kind: the first one and the last one are the same file, whose
init looks up a name for which there is another module, the second one does not open, and the third
one registers under the same name as the first. -/
def medleyHost : Host :=
  let registers (kind : Kind) (name : String) (n : UInt32) : Action :=
    .registrar (.checked ⟨kind, name⟩ (.word n))
  let opening (path : Path) : Opening :=
    if path = .ofText "a" then
      .run [registers .converter "a" 1, .request (.tryGet ⟨.filter, "n"⟩)] none (.run [] none)
    else if path = .ofText "b" then
      .run [registers .converter "a" 2, registers .converter "b" 3] none (.run [] none)
    else if path = .ofText "n" then .run [registers .filter "n" 4] none (.run [] none)
    else .refused (.loadFailed path "missing")
  ⟨⟨fun _ name => ⟨.ofText name, true⟩,
      fun _ => [.ofText "a", .ofText "x", .ofText "b", .ofText "a"]⟩, ⟨opening⟩, .release⟩

/-- A thread looks up a name of the kind. -/
def medleyRun (name : String) : Machine × History :=
  ((Machine.initial SearchMode.defaults).spawn
    [.request (.tryGet ⟨.converter, name⟩)]).runWith History.note medleyHost
      (List.replicate 60 0) []

theorem traced_medleyRun (name : String) :
    Traced {medleyHost} SearchMode.defaults (medleyRun name).1 (medleyRun name).2 :=
  (Recorded.initial.spawn _).runWith (Set.mem_singleton medleyHost) _

/-- The step in which the lookup begins. -/
def medleyLookup : Step :=
  ((medleyRun "a").2[27]?).getD ⟨(medleyRun "a").1, 0, (medleyRun "a").1⟩

theorem split_medleyRun :
    (medleyRun "a").2 = (medleyRun "a").2.take 27 ++ medleyLookup :: (medleyRun "a").2.drop 28 := by
  rfl

/-- The module that was looked up by name is open before the three of the kind, and the first
registration under the name has come to stay. -/
theorem bulkOutcome_medleyRun :
    medleyLookup.before.thread medleyLookup.thread =
        [.lookup ⟨.converter, "a"⟩ .full .entering, .script .program []] ∧
      medleyLookup.before.world.state.isShutDown = false ∧
      medleyLookup.before.world.state.modes.get .converter = .loadAll ∧
      medleyLookup.before.world.state.bulk.get .converter = none ∧
      (∃ host ∈ ({medleyHost} : Set Host), BulkOutcome {medleyHost} (host.resolver.all .converter)
        (medleyRun "a").1 ((medleyRun "a").2.take 27) ((medleyRun "a").2.drop 28) medleyLookup
        ⟨.converter, "a"⟩ [.script .program []]) ∧
      ((medleyRun "a").1.world.state.openModules.map fun handle => (handle.serial, handle.path)) =
        [(0, .ofText "n"), (1, .ofText "a"), (2, .ofText "b"), (3, .ofText "a")] ∧
      (medleyRun "a").1.world.state.registry.find? ⟨.converter, "a"⟩ = some (.word 1) := by
  refine ⟨by rfl, by rfl, by rfl, by rfl, ?_, by rfl, by rfl⟩
  have traced := traced_medleyRun "a"
  rw [split_medleyRun] at traced
  exact traced.bulkOutcome (by rfl) (by rfl) (by rfl) (by rfl) (by rfl)

/-- A lookup of an empty name, of whatever kind, is refused in its first step: what the threads share
is as it was, and the linker is asked for nothing. -/
theorem Traced.refused_of_nameless (h : Traced hosts modes m history) (mem : first ∈ history)
    (top : first.before.thread first.thread = .lookup key style .entering :: below)
    (nameless : key.name.isEmpty = true) :
    (∃ ran, first.Answers hosts key below ran (.error (.invalidArgument .emptyName))) ∧
      first.after.world = first.before.world ∧
      ∃ events, first.Emits events ∧ linkedPaths events = [] := by
  obtain ⟨host, known, taken⟩ := h.taken mem
  have runs : Stage.lockSection? host first.thread key first.before.world.state .entering =
      some (first.before.world.state.enter host first.thread key) := rfl
  have refuses : first.before.world.state.enter host first.thread key = _ :=
    LoaderState.enter_nameless nameless
  obtain ⟨turn, turned, world, -, trace⟩ := step_of_runs taken top runs
  have linked := Thread.turn_linked (Thread.turn_of_runs runs style below)
  rw [turned] at linked
  refine ⟨⟨_, ⟨host, known, taken, style, .entering, top, runs⟩, by rw [refuses]⟩, ?_,
    turn.events, trace, linked⟩
  rw [world, ← turned, Thread.afterSection_world, refuses]

/-- The step in which the lookup of an empty name begins. -/
def namelessLookup : Step :=
  ((medleyRun "").2[0]?).getD ⟨(medleyRun "").1, 0, (medleyRun "").1⟩

theorem split_nameless : (medleyRun "").2 = namelessLookup :: (medleyRun "").2.drop 1 := by
  rfl

/-- The lookup of an empty name begins no bulk load, although there are candidates: it is refused,
and nothing is opened. -/
theorem exists_nameless_lookup :
    ∃ (host : Host) (modes : PerKind SearchMode) (m : Machine) (earlier : History) (first : Step)
      (key : Key) (below : Thread) (ran : Section), Traced {host} modes m (first :: earlier) ∧
        m.threads.length ≤ 1 ∧ .shutdown ∉ History.calls (first :: earlier) ∧
        first.before.thread first.thread = .lookup key .full .entering :: below ∧
        first.before.world.state.isShutDown = false ∧
        first.before.world.state.modes.get key.kind = .loadAll ∧
        first.before.world.state.bulk.get key.kind = none ∧ host.resolver.all key.kind ≠ [] ∧
        first.Answers {host} key below ran (.error (.invalidArgument .emptyName)) ∧
        m.thread first.thread = [.script .program []] ∧ linkedPaths (m.trace.map Prod.snd) = [] ∧
        m.world.state.modes.get key.kind = .loadAll := by
  have traced := traced_medleyRun ""
  rw [split_nameless] at traced
  have top : namelessLookup.before.thread namelessLookup.thread =
      [.lookup ⟨.converter, ""⟩ .full .entering, .script .program []] := by
    rfl
  obtain ⟨⟨ran, answers⟩, -⟩ := traced.refused_of_nameless List.mem_cons_self top rfl
  exact ⟨medleyHost, SearchMode.defaults, (medleyRun "").1, (medleyRun "").2.drop 1,
    namelessLookup, ⟨.converter, ""⟩, [.script .program []], ran, traced, by decide, by decide,
    top, by rfl, by rfl, by rfl, by decide, answers, by rfl, by rfl, by rfl⟩

end Machine
end PluginHost
