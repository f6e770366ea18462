import PluginHost.Proofs.Frames
import PluginHost.Proofs.FreshFailure
import PluginHost.Proofs.LeftOpen
import PluginHost.Proofs.NameLoads

/-!
# What comes of a lookup by name

A lookup of a kind that is searched by name asks for the file of its key if the key is neither
registered nor being loaded.  A file that is not valid ends it.  Else it opens the file, and what
it finds when it has the lock again decides: whether the loader is still in use, and whether the
key is registered.  Meanwhile anything may have happened, for the init of the module and the scripts
that close modules may call the loader as they like.

Main results:

- Theorem `Machine.Takes.idle_of_asked`: the file of a key is asked for only while no load of the
  key is in progress.
- Theorem `Machine.Traced.gives_up`: a module that is not kept is closed once.
- Theorem `Machine.Traced.named`: how a load by name ends.
- Theorem `Machine.Traced.nameOutcome`: what comes of a lookup by name.
-/

namespace PluginHost

/-! ## Who asks for a file -/

namespace LoaderState

variable {host : Host} {me : ThreadId} {key asked : Key}

/-- A search asks for the file of its key only if no load of the key is in progress. -/
theorem idle_of_search {s : LoaderState} (mem : asked ∈ keysAsked (s.search host me key).events) :
    Assoc.find? asked s.byName = none := by
  have outcome := s.search_cases host me key
  generalize s.search host me key = ran at outcome mem
  cases outcome with
  | found _ => cases mem
  | absent _ _ => cases mem
  | mine _ _ _ _ => cases mem
  | refused _ _ _ _ _ => cases mem
  | waits _ _ _ _ _ => cases mem
  | starts _ _ idle _ =>
    rw [List.mem_singleton.1 mem]
    exact idle
  | invalid _ _ idle _ =>
    rw [List.mem_singleton.1 mem]
    exact idle

end LoaderState

/-- A lock section asks for the file of a key only if no load of the key is in progress. -/
theorem Section.idle_of_asked {host : Host} {me : ThreadId} {key asked : Key} {stage : Stage}
    {s : LoaderState} {ran : Section} (runs : stage.lockSection? host me key s = some ran)
    (mem : asked ∈ keysAsked ran.events) : Assoc.find? asked s.byName = none := by
  have searches : asked ∈ keysAsked ((s.begun me key stage).search host me key).events →
      Assoc.find? asked s.byName = none := by
    intro mem
    rw [← (s.akin_begun me key stage).byName]
    exact LoaderState.idle_of_search mem
  cases Stage.runs runs with
  | nameless _ => cases mem
  | refused _ _ _ => cases mem
  | shared _ => cases mem
  | again _ => exact searches mem
  | inside _ _ _ => exact searches mem
  | insists _ _ _ _ _ => exact searches mem
  | awaits _ _ _ _ _ => cases mem
  | lists _ _ _ _ => cases mem
  | free _ _ _ _ => exact searches mem
  | @settled opened _ =>
    exact LoaderState.idle_of_search (s := (s.endBulk key.kind).keep opened) mem
  | settledLate _ => cases mem
  | closed => cases mem
  | adopted _ _ => cases mem
  | rejected _ _ => cases mem
  | openedLate _ => cases mem
  | unopened => cases mem
  | failed => cases mem

namespace Thread

/-- A lookup anywhere on the stack carries out its load. -/
theorem mem_jobs_of_stage {key : Key} {style : Style} {stage : Stage} {job : Job}
    (carries : stage.job? key = some job) (upper below : Thread) :
    job ∈ jobs (upper ++ .lookup key style stage :: below) := by
  refine List.mem_filterMap.2 ⟨.lookup key style stage, ?_, carries⟩
  exact List.mem_append_right _ List.mem_cons_self

end Thread

namespace Machine

variable {hosts : Set Host} {modes : PerKind SearchMode} {m next : Machine}
  {history later during earlier : History} {host : Host} {me t : ThreadId} {turn : Turn}
  {step first adopt answer : Step} {key : Key} {style : Style} {load : Nat} {path : Path}
  {below : Thread} {handle : Handle} {failure : LoadError} {policy : ReleasePolicy}

/-- The file of a key is asked for only while no load of the key is in progress. -/
theorem Takes.idle_of_asked (takes : Takes host m me turn next)
    (mem : key ∈ PluginHost.keysAsked turn.events) : m.Idle key := by
  have silence : turn.Silent → m.Idle key := by
    intro silent
    rw [(asked_of_silent silent).2] at mem
    cases mem
  have locked := takes.effect.locked_cases
  generalize m.thread me = thread at locked
  cases locked with
  | nothing silent _ => exact silence silent
  | serves silent _ => exact silence silent
  | closes silent _ => exact silence silent
  | @runs other style stage below ran runs eq =>
    obtain ⟨extra, silent, events⟩ :=
      Thread.afterSection_events (w := m.world) other style below ran
    rw [eq, events, (asked_append ran.events silent).2] at mem
    exact Section.idle_of_asked runs mem

/-- While a load of a key is in progress the file of the key is not asked for. -/
theorem Traced.count_asked (h : Traced hosts modes m (later ++ step :: earlier))
    (busy : ∀ step ∈ later, ¬ step.before.Idle key) :
    m.keysAsked.count key = step.after.keysAsked.count key := by
  refine h.since (P := fun m later => (∀ step ∈ later, ¬ step.before.Idle key) →
    m.keysAsked.count key = step.after.keysAsked.count key) ?_ ?_ ?_ busy
  · intro m traced _
    unfold keysAsked
    rw [traced.trace_eq]
  · intro m next later same untouched busy
    unfold keysAsked
    rw [untouched.trace]
    exact same busy
  · intro m next later host me turn _ same _ takes busy
    obtain ⟨now, before⟩ := List.forall_mem_cons.1 busy
    have none : key ∉ (PluginHost.keysAsked turn.events).reverse := fun mem =>
      now (takes.idle_of_asked (List.mem_reverse.1 mem))
    rw [takes.keysAsked, List.count_append, List.count_eq_zero.2 none, Nat.zero_add]
    exact same before

/-! ## Modules that are given up -/

/-- A module that a load by name gives up is closed once, and then the lookup fails. -/
theorem Traced.gives_up (h : Traced hosts modes m (later ++ adopt :: earlier))
    (closes : adopt.after.thread t =
      .closing .discard [handle] .zero :: .lookup key style (.closingName load failure) :: below) :
    (m.thread t).Calls key below ∨
      ∃ after answer closing, later = after ++ answer :: closing ∧ answer.thread = t ∧
        answer.before.thread t = .lookup key style (.closingName load failure) :: below ∧
        History.closedAt t below.length closing = [handle] ∧
        History.openedAt t below.length closing = [] ∧
        ∀ step ∈ answer :: closing, ∃ upper, step.before.thread t =
          upper ++ .lookup key style (.closingName load failure) :: below := by
  cases h.discards closes rfl with
  | @going upper left report stack _ _ _ =>
    refine .inl ⟨upper ++ [.closing .discard left report], style, .closingName load failure, ?_⟩
    rw [stack, List.append_assoc, List.singleton_append]
  | @gone recent closing last split mine stack order opened stands =>
    subst split
    rw [List.append_assoc, List.cons_append] at h
    rcases h.stays_or_moves stack (List.cons_ne_nil _ _) rfl with
      stays | ⟨after, answer, idle, rfl, moves, top, others⟩
    · exact .inl ⟨[], style, .closingName load failure, stays⟩
    · obtain ⟨noneOpened, noneClosed⟩ :=
        History.quiet_of_ne (fun step mem => (others step mem).1) below.length
      refine .inr ⟨after, answer, idle ++ last :: closing, by simp, moves, top, ?_, ?_, ?_⟩
      · rw [History.closedAt_append, noneClosed, List.nil_append,
          ← List.reverse_reverse (History.closedAt _ _ _), order]
        rfl
      · rw [History.openedAt_append, noneOpened, List.nil_append, opened]
      · refine List.forall_mem_cons.2
          ⟨⟨[], top⟩, List.forall_mem_append.2 ⟨fun step mem => ?_, stands⟩⟩
        exact ⟨[], (others step mem).2⟩

/-! ## How a load by name ends -/

/-- A turn of a lookup that has opened the file of its key, once and carrying out the load all the
time: what came of that is known, and the thread has taken no turn since.  If there is no other
thread, the loader is in the state in which the file had been opened. -/
structure Decides (hosts : Set Host) (t : ThreadId) (key : Key) (load : Nat) (path : Path)
    (below : Thread) (outcome : Except LoadError Handle) (decides : Step) (during : History) :
    Prop where
  mine : decides.thread = t
  top : ∃ style, decides.before.thread t =
    .lookup key style (.openedName load path outcome) :: below
  comes : ∃ host ∈ hosts, host.linker.Comes path outcome
  returned : ∃ idle told opening, during = idle ++ told :: opening ∧ told.thread = t ∧
    told.after.thread t = decides.before.thread t ∧ (∀ step ∈ idle, step.thread ≠ t) ∧
      (decides.before.threads.length ≤ 1 →
        decides.before.world.state = told.after.world.state)
  opened : History.openedAt t below.length during = [path]
  closed : History.closedAt t below.length during = []
  carries : ∀ step ∈ decides :: during, .name key load ∈ (step.before.thread t).jobs

/-- How a load by name ends: the file does not open, and the lookup fails as the file did; or the
module is kept, as the last one of the handle set, because the loader is in use and the key is
registered; or the module is closed and the lookup fails, because one of the two is not so. -/
inductive Ends (hosts : Set Host) (t : ThreadId) (key : Key) (load : Nat) (path : Path)
    (below : Thread) (answer : Step) (during : History) : Prop
  | unopened {failure : LoadError} {ran : Section}
      (decides : Decides hosts t key load path below (.error failure) answer during)
      (answers : answer.Answers hosts key below ran (.error failure))
      (same : answer.after.world.state.handles = answer.before.world.state.handles)
  | kept {handle : Handle} {set : HandleSet} {payload : Payload} {ran : Section}
      (decides : Decides hosts t key load path below (.ok handle) answer during)
      (open' : answer.before.world.state.handles = some set)
      (registered : answer.before.world.state.registry.find? key = some payload)
      (answers : answer.Answers hosts key below ran (.ok payload))
      (last : answer.after.world.state.handles = some (set ++ [handle]))
  | givenUp {handle : Handle} {failure : LoadError} {ran : Section} {closing opening : History}
      {decision : Step} (split : during = closing ++ decision :: opening)
      (decides : Decides hosts t key load path below (.ok handle) decision opening)
      (why : decision.before.world.state.isShutDown = true ∧ failure = .shutDown ∨
        decision.before.world.state.isShutDown = false ∧
          decision.before.world.state.registry.find? key = none ∧
            failure = .nonConformant key.kind key.name path)
      (answers : answer.Answers hosts key below ran (.error failure))
      (same : decision.after.world.state.handles = decision.before.world.state.handles ∧
        answer.after.world.state.handles = answer.before.world.state.handles)
      (closed : History.closedAt t below.length closing = [handle])

/-- A lookup that is to open the file of its key goes on with that until it decides about the file.
-/
theorem Traced.decides (h : Traced hosts modes m (later ++ first :: earlier))
    (stack : first.after.thread t = .lookup key style (.loadingName load path) :: below) :
    (m.thread t).Calls key below ∨
      ∃ recent decision opening outcome, later = recent ++ decision :: opening ∧
        Decides hosts t key load path below outcome decision opening := by
  rcases h.stands_or_told stack rfl with
    ⟨upper, reached, stands⟩ | ⟨recent, told, opening, outcome, rfl, tells⟩
  · exact .inl ⟨upper, style, reached, stands⟩
  · rw [List.append_assoc, List.cons_append] at h
    rcases h.stays_or_moves tells.stack (List.cons_ne_nil _ _) rfl with
      stays | ⟨recent, decision, idle, rfl, moves, top, others⟩
    · exact .inl ⟨[], style, _, stays⟩
    · rw [List.append_assoc, List.cons_append] at h
      have elsewhere : ∀ step ∈ idle, step.thread ≠ t := fun step mem => (others step mem).1
      obtain ⟨noneOpened, noneClosed⟩ := History.quiet_of_ne elsewhere below.length
      have single : decision.before.threads.length ≤ 1 →
          decision.before.world.state = told.after.world.state := by
        intro single
        have before := h.split.1
        have none : idle = [] := by
          refine List.eq_nil_iff_forall_not_mem.2 fun step mem => elsewhere step mem ?_
          rw [before.alone single (List.mem_append_left _ mem), ← tells.mine,
            before.alone single (by simp)]
        rw [none] at before
        exact before.state_eq
      refine .inr ⟨recent, decision, idle ++ told :: opening, outcome, by simp,
        ⟨moves, ⟨style, top⟩, tells.comes,
          ⟨idle, told, opening, rfl, tells.mine, ?_, elsewhere, single⟩, ?_, ?_, ?_⟩⟩
      · rw [tells.stack, top]
      · rw [History.openedAt_append, noneOpened, List.nil_append, tells.opened]
      · rw [History.closedAt_append, noneClosed, List.nil_append, tells.closed]
      · refine List.forall_mem_cons.2 ⟨?_, List.forall_mem_append.2 ⟨fun step mem => ?_,
          fun step mem => ?_⟩⟩
        · rw [top]
          exact Thread.mem_jobs_of_stage rfl [] below
        · rw [(others step mem).2]
          exact Thread.mem_jobs_of_stage rfl [] below
        · obtain ⟨_, upper, reached, stands, same⟩ := tells.stands.exists_of_mem mem
          rw [stands]
          rcases same with ⟨rfl, -⟩ | ⟨rfl, -⟩
          · exact Thread.mem_jobs_of_stage rfl upper below
          · exact Thread.mem_jobs_of_stage rfl upper below

/-- How a load by name has gone: the lookup has opened the file once, nobody has asked for it again,
and it has ended in one of the ways there are. -/
structure Loads (hosts : Set Host) (t : ThreadId) (key : Key) (load : Nat) (path : Path)
    (below : Thread) (first answer : Step) (during : History) : Prop where
  opened : History.openedAt t below.length during = [path]
  asked : answer.after.keysAsked.count key = first.after.keysAsked.count key
  ends : Ends hosts t key load path below answer during

/-- While a thread carries out a load of a key the file of the key is not asked for. -/
theorem Traced.count_asked_of_carries
    (h : Traced hosts modes m (later ++ answer :: (during ++ first :: earlier)))
    (carries : ∀ step ∈ answer :: during, .name key load ∈ (step.before.thread t).jobs) :
    answer.after.keysAsked.count key = first.after.keysAsked.count key := by
  have traced := h.after
  rw [← List.cons_append] at traced
  exact traced.count_asked fun step mem =>
    (traced.sound_before (List.mem_append_left _ mem)).not_idle_of_mem_jobs (carries step mem)

section decision

variable {decision : Step} {opening recent : History} {outcome : Except LoadError Handle}

/-- A module that is not kept is closed, and then the load has ended. -/
theorem Traced.loads_of_discard
    (h : Traced hosts modes m (recent ++ decision :: (opening ++ first :: earlier)))
    (decides : Decides hosts t key load path below (.ok handle) decision opening)
    (goes : (decision.before.world.state.adopt key load path (.ok handle)).next =
      .discard [handle] (.closingName load failure))
    (same : (decision.before.world.state.adopt key load path (.ok handle)).state.handles =
      decision.before.world.state.handles)
    (why : decision.before.world.state.isShutDown = true ∧ failure = .shutDown ∨
      decision.before.world.state.isShutDown = false ∧
        decision.before.world.state.registry.find? key = none ∧
          failure = .nonConformant key.kind key.name path) :
    (m.thread t).Calls key below ∨
      ∃ after answer during, recent ++ decision :: opening = after ++ answer :: during ∧
        answer.thread = t ∧ Loads hosts t key load path below first answer during := by
  obtain ⟨style, top⟩ := decides.top
  obtain rfl := decides.mine
  obtain ⟨-, host, -, taken⟩ := h.split
  obtain ⟨closes, state⟩ := discards_of_runs taken top rfl goes
  rcases h.gives_up closes with
    calls | ⟨after, answer, closing, rfl, mine, top', closed, opened, stands⟩
  · exact .inl calls
  · rw [List.append_assoc, List.cons_append] at h
    obtain ⟨-, host', mem', taken'⟩ := h.split
    have answers : answer.Answers hosts key below
        (answer.before.world.state.endLoad key load (.error failure) []) (.error failure) :=
      ⟨⟨host', mem', taken', style, _, mine ▸ top', rfl⟩, rfl⟩
    have carries : ∀ step ∈ answer :: (closing ++ decision :: opening),
        .name key load ∈ (step.before.thread decision.thread).jobs := by
      rw [← List.cons_append]
      refine List.forall_mem_append.2 ⟨fun step mem => ?_, decides.carries⟩
      obtain ⟨upper, stack⟩ := stands step mem
      rw [stack]
      exact Thread.mem_jobs_of_stage rfl upper below
    have once : History.openedAt decision.thread below.length (closing ++ decision :: opening) =
        [path] := by
      have none : Thread.openingAt? below.length (decision.before.thread decision.thread) =
          none := by
        rw [top, Thread.openingAt?_lookup]
        rfl
      have skip : History.openedAt decision.thread below.length (decision :: opening) =
          History.openedAt decision.thread below.length opening := by
        rw [History.openedAt, History.turns_cons rfl, none]
        rfl
      rw [History.openedAt_append, opened, skip, decides.opened, List.nil_append]
    refine .inr ⟨after, answer, closing ++ decision :: opening, by simp, mine, once, ?_,
      .givenUp rfl decides why answers ⟨by rw [state, same], ?_⟩ closed⟩
    · rw [← List.cons_append, ← List.append_assoc] at h
      refine (?_ : Traced hosts modes m (after ++ answer :: ((closing ++ decision :: opening) ++
        first :: earlier))).count_asked_of_carries carries
      simpa using h
    · rw [answers.state]
      rfl

/-- A lookup that decides to keep its module, or whose file did not open, answers at once; else it
goes on until the module is closed. -/
theorem Traced.loads
    (h : Traced hosts modes m (recent ++ decision :: (opening ++ first :: earlier)))
    (decides : Decides hosts t key load path below outcome decision opening) :
    (m.thread t).Calls key below ∨
      ∃ after answer during, recent ++ decision :: opening = after ++ answer :: during ∧
        answer.thread = t ∧ Loads hosts t key load path below first answer during := by
  obtain ⟨style, top⟩ := decides.top
  obtain ⟨-, host, mem, taken⟩ := h.split
  have asked := h.count_asked_of_carries decides.carries
  -- The decision is the answer if the section that decides is to answer.
  have answers : ∀ {result : Except LoadError Payload},
      (decision.before.world.state.adopt key load path outcome).next = .answer result →
        decision.Answers hosts key below
          (decision.before.world.state.adopt key load path outcome) result :=
    fun next => ⟨⟨host, mem, taken, style, _, decides.mine ▸ top, rfl⟩, next⟩
  have ends : Ends hosts t key load path below decision opening → ∃ after answer during,
      recent ++ decision :: opening = after ++ answer :: during ∧
        answer.thread = t ∧ Loads hosts t key load path below first answer during :=
    fun ends => ⟨recent, decision, opening, rfl, decides.mine, decides.opened, asked, ends⟩
  cases outcome with
  | error failure =>
    refine .inr (ends (.unopened decides (answers rfl) ?_))
    rw [(answers rfl).state]
    rfl
  | ok handle =>
    have section' := decision.before.world.state.adopt_ok_eq key load path handle
    cases down : decision.before.world.state.isShutDown with
    | true =>
      rw [if_pos down] at section'
      refine h.loads_of_discard decides ?_ ?_ (.inl ⟨down, rfl⟩)
      · rw [section']
      · rw [section']
    | false =>
      rw [if_neg (by simp [down])] at section'
      cases found : decision.before.world.state.registry.find? key with
      | none =>
        rw [found] at section'
        refine h.loads_of_discard decides ?_ ?_ (.inr ⟨down, found, rfl⟩)
        · rw [section']
        · rw [section']
          rfl
      | some payload =>
        rw [found] at section'
        obtain ⟨set, open'⟩ := Option.isSome_iff_exists.1 (Option.isNone_eq_false_iff.1 down)
        have next : (decision.before.world.state.adopt key load path (.ok handle)).next =
            .answer (.ok payload) := by rw [section']; rfl
        refine .inr (ends (.kept decides open' found (answers next) ?_))
        rw [(answers next).state, section']
        show Option.map (· ++ [handle]) decision.before.world.state.handles = _
        rw [open']
        rfl

end decision

/-- A lookup that is to open the file of its key goes on until its load ends. -/
theorem Traced.named (h : Traced hosts modes m (later ++ first :: earlier))
    (stack : first.after.thread t = .lookup key style (.loadingName load path) :: below) :
    (m.thread t).Calls key below ∨
      ∃ after answer during, later = after ++ answer :: during ∧ answer.thread = t ∧
        Loads hosts t key load path below first answer during := by
  rcases h.decides stack with calls | ⟨recent, decision, opening, outcome, rfl, decides⟩
  · exact .inl calls
  · rw [List.append_assoc, List.cons_append] at h
    exact h.loads decides

/-! ## The contract -/

/-- A module that was closed has been closed once, and it is not open. -/
theorem Traced.released_once (h : Traced hosts modes m history)
    (same : ∀ host ∈ hosts, host.policy = policy) (mem : handle ∈ history.released) :
    history.released.count handle = 1 ∧ handle ∉ m.world.state.openModules := by
  have once := (h.balance same).nodup_iff.1 h.nodup_opened
  rw [List.nodup_append, List.nodup_append] at once
  obtain ⟨⟨-, released, apart⟩, -, -⟩ := once
  refine ⟨List.count_eq_one_of_mem released mem, fun kept => ?_⟩
  exact apart handle (List.mem_append_right _ (List.mem_append_left _ kept)) handle mem rfl

/-- What comes of a lookup of a key of a kind that is searched by name, begun while the loader is in
use and the key is neither registered nor being loaded.  It asks for the file of the key once.  If
the file is not valid, it fails at once, and nothing else has changed than that the table of the
kind exists.  Else it goes on until its load ends, which it has done when no thread can go on and
none is held up in a module.  What it opens the linker is asked for, and a module that it gives up
the loader begins to close; each module is closed once, and is then in no handle set. -/
structure NameOutcome (hosts : Set Host) (candidate : Candidate) (m : Machine)
    (later earlier : History) (first : Step) (key : Key) (below : Thread) : Prop where
  asks : first.after.keysAsked.count key = first.before.keysAsked.count key + 1
  invalid : candidate.valid = false →
    (∃ ran, first.Answers hosts key below ran
      (.error (.notFound (.noValidFile key.kind key.name candidate.path)))) ∧
      first.after.world.state = first.before.world.state.touch key.kind ∧
      first.before.world.state.Akin first.after.world.state ∧
      ∃ events, first.Emits events ∧ linkedPaths events = []
  valid : candidate.valid = true →
    (m.thread first.thread).Calls key below ∨
      ∃ after answer during, later = after ++ answer :: during ∧ answer.thread = first.thread ∧
        Loads hosts first.thread key first.before.world.state.nextLoad candidate.path below first
          answer during
  returns : candidate.valid = true → ∀ host, (∀ t, m.step host t = none) →
    (∀ t, ¬ (m.thread t).HeldInModule m.world) →
      ∃ after answer during, later = after ++ answer :: during ∧ answer.thread = first.thread ∧
        Loads hosts first.thread key first.before.world.state.nextLoad candidate.path below first
          answer during
  linked : ∀ step ∈ later, ∀ path,
    (step.before.thread step.thread).openingAt? below.length = some path →
      ∃ events, step.Emits events ∧ linkedPaths events = [path]
  closes : ∀ step ∈ later, ∀ handle,
    (step.before.thread step.thread).closingAt? below.length = some handle →
      (step.before.thread step.thread).released = [handle] ∧ step.Releases handle
  apart : ∀ handle ∈ History.released (later ++ first :: earlier),
    (History.released (later ++ first :: earlier)).count handle = 1 ∧
      handle ∉ m.world.state.openModules

/-- A lookup by name that begins while its key is neither registered nor being loaded has this
outcome. -/
theorem Traced.nameOutcome (h : Traced hosts modes m (later ++ first :: earlier))
    (top : first.before.thread first.thread = .lookup key style .entering :: below)
    (named : key.name.isEmpty = false) (up : first.before.world.state.isShutDown = false)
    (mode : first.before.world.state.modes.get key.kind = .byName)
    (unregistered : first.before.world.state.registry.find? key = none)
    (idle : first.before.Idle key) (same : ∀ host ∈ hosts, host.policy = policy) :
    ∃ host ∈ hosts, NameOutcome hosts (host.resolver.one key.kind key.name) m later earlier first
      key below := by
  obtain ⟨before, host, mem, taken⟩ := h.split
  have sound := before.reachable.sound
  have section' : first.before.world.state.enter host first.thread key = _ :=
    LoaderState.enter_eq_of_idle named up sound.coherent.wf mode unregistered idle
  have runs : Stage.lockSection? host first.thread key first.before.world.state .entering =
      some (first.before.world.state.enter host first.thread key) := rfl
  obtain ⟨-, turn, turned, -, -, trace⟩ := step_eq taken
  have takes := takes_of_turn sound taken turned
  have linked := Thread.turn_linked turned
  rw [top] at turned linked
  rw [Thread.turn_of_runs runs, Option.some.injEq] at turned
  have goesOn : (host.resolver.one key.kind key.name).valid = true →
      (m.thread first.thread).Calls key below ∨
        ∃ after answer during, later = after ++ answer :: during ∧ answer.thread = first.thread ∧
          Loads hosts first.thread key first.before.world.state.nextLoad
            (host.resolver.one key.kind key.name).path below first answer during := by
    intro valid
    rw [if_pos valid] at section'
    exact h.named (reaches_of_runs taken top runs (by rw [section']) rfl).1
  refine ⟨host, mem, ?_, ?_, goesOn, ?_, ?_, ?_, fun handle => h.released_once same⟩
  · obtain ⟨extra, silent, events⟩ := Thread.afterSection_events (w := first.before.world) key style
      below (first.before.world.state.enter host first.thread key)
    have asked : PluginHost.keysAsked turn.events = [key] := by
      rw [← turned, events, (asked_append _ silent).2, section']
      split <;> rfl
    rw [takes.keysAsked, asked, List.count_append, Nat.add_comm]
    simp
  · intro invalid
    rw [if_neg (by simp [invalid])] at section'
    have answers : first.Answers hosts key below _ _ :=
      ⟨⟨host, mem, taken, style, .entering, top, runs⟩, by rw [section']⟩
    have state := answers.state
    rw [section'] at state
    refine ⟨⟨_, answers⟩, state, ?_, turn.events, trace, linked⟩
    rw [state]
    exact first.before.world.state.akin_touch key.kind
  · intro valid host' stuck free
    exact (goesOn valid).resolve_left (h.not_calls_of_stuck (by simp) stuck free)
  · intro step mem path opens
    exact h.linked_of_openingAt? (List.mem_append_left _ mem) opens
  · intro step mem handle closes
    have released := Thread.released_of_closingAt? closes
    refine ⟨released, (h.releases_iff (List.mem_append_left _ mem)).2 ?_⟩
    rw [released]
    exact List.mem_singleton_self handle

/-- A host with a module for each name.  The init of the one for `a` looks up `b`; the others
register their name, and look up `a`. -/
def vainHost : Host :=
  let filter (name : String) : Key := ⟨.filter, name⟩
  let opening (path : Path) : Opening :=
    if path = .ofText "a" then .run [.request (.tryGet (filter "b"))] none (.run [] none)
    else .run [.registrar (.checked (filter "b") (.word 7)), .request (.tryGet (filter "a"))] none
      (.run [] none)
  ⟨⟨fun _ name => ⟨.ofText name, true⟩, fun _ => []⟩, ⟨opening⟩, .release⟩

/-- A thread looks `a` up. -/
def vainRun : Machine × History :=
  ((Machine.initial (.ofFn fun _ => .byName)).spawn
    [.request (.tryGet ⟨.filter, "a"⟩)]).runWith History.note vainHost (List.replicate 40 0) []

/-- The step in which the lookup begins. -/
def vainLookup : Step :=
  (vainRun.2[18]?).getD ⟨vainRun.1, 0, vainRun.1⟩

theorem traced_vainRun :
    Traced {vainHost} (.ofFn fun _ => .byName) vainRun.1
      (vainRun.2.take 18 ++ vainLookup :: vainRun.2.drop 19) := by
  have split : vainRun.2.take 18 ++ vainLookup :: vainRun.2.drop 19 = vainRun.2 := by
    rfl
  rw [split]
  exact (Recorded.initial.spawn _).runWith (Set.mem_singleton vainHost) _

/-- The module of `a` has not registered the name, and has been closed; that of `b` is open. -/
theorem nameOutcome_vainRun :
    vainLookup.before.thread vainLookup.thread =
        [.lookup ⟨.filter, "a"⟩ .full .entering, .script .program []] ∧
      vainLookup.before.world.state.isShutDown = false ∧
      vainLookup.before.world.state.modes.get .filter = .byName ∧
      vainLookup.before.world.state.registry.find? ⟨.filter, "a"⟩ = none ∧
      vainLookup.before.Idle ⟨.filter, "a"⟩ ∧
      (∃ host ∈ ({vainHost} : Set Host), NameOutcome {vainHost} (host.resolver.one .filter "a")
        vainRun.1 (vainRun.2.take 18) (vainRun.2.drop 19) vainLookup ⟨.filter, "a"⟩
        [.script .program []]) ∧
      vainRun.2.released.map Handle.serial = [1] ∧
      vainRun.1.world.state.openModules.map Handle.serial = [0] := by
  have same : ∀ host ∈ ({vainHost} : Set Host), host.policy = .release := by
    intro host mem
    rw [Set.mem_singleton_iff.1 mem]
    rfl
  refine ⟨by rfl, by rfl, by rfl, by rfl, by rfl, ?_, by rfl, by rfl⟩
  exact traced_vainRun.nameOutcome (by rfl) (by rfl) (by rfl) (by rfl) (by rfl) (by rfl) same

end Machine
end PluginHost
