import PluginHost.Proofs.Marks
import PluginHost.Proofs.Reachable
import PluginHost.Proofs.Waits

/-!
# Loads, waits and stacks agree

The marks of the loads in progress, the waits and the stacks of the threads are three
accounts of one thing.  This module says how they agree, and that they go on agreeing
whatever the threads do.

Main results:

- Theorem `Coherent.move`: a turn of a thread keeps the accounts in agreement.
- Theorem `Machine.Reachable.sound`: in every reachable machine the accounts agree, and
  every stack has its shape.
-/

namespace PluginHost

namespace Thread

/-! ## Waking -/

/-- To wake a thread changes nothing that is read off it, unless it is read off there whether a
lookup that waits has been woken. -/
theorem apply_wakeIf {α : Type} (read : Thread → α)
    (bulk : ∀ key style woken below, read (.lookup key style (.awaitingBulk true) :: below) =
      read (.lookup key style (.awaitingBulk woken) :: below))
    (load : ∀ key style load woken below,
      read (.lookup key style (.awaitingLoad load true) :: below) =
        read (.lookup key style (.awaitingLoad load woken) :: below))
    (wakes : Bool) (thread : Thread) : read (thread.wakeIf wakes) = read thread := by
  cases wakes with
  | false => rfl
  | true =>
    simp only [wakeIf, if_true]
    unfold wake
    split
    · exact bulk ..
    · exact load ..
    · rfl

@[simp]
theorem jobs_wakeIf (wakes : Bool) (thread : Thread) :
    (thread.wakeIf wakes).jobs = thread.jobs := by
  cases wakes <;> simp [wakeIf]

@[simp]
theorem awaited?_wakeIf (wakes : Bool) (thread : Thread) :
    (thread.wakeIf wakes).awaited? = thread.awaited? := by
  cases wakes <;> simp [wakeIf]

theorem parked_wakeIf (wakes : Bool) (thread : Thread) :
    (thread.wakeIf wakes).parked = (!wakes && thread.parked) := by
  cases wakes <;> simp [wakeIf]

@[simp]
theorem length_wakeIf (wakes : Bool) (thread : Thread) :
    (thread.wakeIf wakes).length = thread.length :=
  apply_wakeIf List.length (fun _ _ _ _ => rfl) (fun _ _ _ _ _ => rfl) wakes thread

theorem Shaped.wakeIf {thread : Thread} (h : thread.Shaped) (wakes : Bool) :
    (thread.wakeIf wakes).Shaped := by
  cases wakes
  · exact h
  · exact h.wake

end Thread

/-! ## Waits -/

/-- The waits agree with the stacks: exactly the threads whose innermost lookup waits have
one, and it is for the owner of the load in progress unless that load is over and the
thread has been woken. -/
structure Waiting (threads : ThreadId → Thread) (s : LoaderState) : Prop where
  isSome : ∀ t, (Assoc.find? t s.waits).isSome = (threads t).awaited?.isSome
  owner : ∀ t owner job, Assoc.find? t s.waits = some owner → (threads t).awaited? = some job →
    s.owner? job = some owner ∨ ((threads t).parked = false ∧ s.Over job)
  acyclic : Waits.Acyclic s.waits

namespace Waiting

variable {threads : ThreadId → Thread} {s s' : LoaderState} {me : ThreadId} {after : Thread}
  {wakes : Bool}

theorem find?_eq_none (h : Waiting threads s) (awake : (threads me).awaited? = none) :
    Assoc.find? me s.waits = none := by
  have := h.isSome me
  rw [awake] at this
  simpa using this

/-- A thread whose lookup waits has a wait, for the owner of a load in progress or left from
a load that is over. -/
theorem exists_edge {t : ThreadId} {job : Job} (h : Waiting threads s)
    (awaited : (threads t).awaited? = some job) :
    ∃ owner, Waits.Edge s.waits t owner ∧
      (s.owner? job = some owner ∨ ((threads t).parked = false ∧ s.Over job)) := by
  have waits := h.isSome t
  rw [awaited, Option.isSome_some, Option.isSome_iff_exists] at waits
  obtain ⟨owner, edge⟩ := waits
  exact ⟨owner, edge, h.owner t owner job edge awaited⟩

/-- A wait is that of a thread whose lookup waits. -/
theorem exists_awaited {t owner : ThreadId} (h : Waiting threads s)
    (edge : Waits.Edge s.waits t owner) :
    ∃ job, (threads t).awaited? = some job ∧
      (s.owner? job = some owner ∨ ((threads t).parked = false ∧ s.Over job)) := by
  have waits := h.isSome t
  rw [show Assoc.find? t s.waits = some owner from edge, Option.isSome_some, eq_comm,
    Option.isSome_iff_exists] at waits
  obtain ⟨job, awaited⟩ := waits
  exact ⟨job, awaited, h.owner t owner job edge awaited⟩

theorem sameLoads (h : Waiting threads s) (same : s.SameLoads s') : Waiting threads s' where
  isSome := by
    obtain ⟨_, _, rfl⟩ := same
    exact h.isSome
  owner t owner job found awaited := by
    rw [same.owner?]
    have found : Assoc.find? t s.waits = some owner := by
      obtain ⟨_, _, rfl⟩ := same
      exact found
    rcases h.owner t owner job found awaited with busy | ⟨woken, ended⟩
    · exact .inl busy
    · exact .inr ⟨woken, ended.sameLoads same⟩
  acyclic := by
    obtain ⟨_, _, rfl⟩ := same
    exact h.acyclic

/-- A thread that does not wait after its turn, and a state in which every load has the
owner it had, or is over and every thread was woken. -/
theorem leave (h : Waiting threads s) (waits : s'.waits = (s.unpark me).waits)
    (calm : after.awaited? = none)
    (keeps : ∀ job owner, s.owner? job = some owner →
      s'.owner? job = some owner ∨ (wakes = true ∧ s'.Over job))
    (persists : ∀ job, s.Over job → s'.Over job) :
    Waiting (Machine.moved threads me after wakes) s' where
  isSome t := by
    rw [waits, LoaderState.find?_unpark]
    by_cases ht : t = me
    · subst ht
      simp [calm]
    · simp [ht, Machine.moved_of_ne ht, h.isSome t]
  owner t owner job found awaited := by
    rw [waits, LoaderState.find?_unpark] at found
    by_cases ht : t = me
    · simp [ht] at found
    · rw [if_neg ht] at found
      rw [Machine.moved_of_ne ht, Thread.awaited?_wakeIf] at awaited
      rw [Machine.moved_of_ne ht, Thread.parked_wakeIf]
      rcases h.owner t owner job found awaited with busy | ⟨woken, ended⟩
      · rcases keeps job owner busy with busy | ⟨woken, ended⟩
        · exact .inl busy
        · exact .inr ⟨by simp [woken], ended⟩
      · exact .inr ⟨by simp [woken], persists job ended⟩
  acyclic := by
    rw [waits]
    exact h.acyclic.erase me

/-- A thread that goes to wait for the owner of a load in progress, which closes no cycle. -/
theorem park {job : Job} {owner : ThreadId} (h : Waiting threads s)
    (awaits : after.awaited? = some job) (busy : s.owner? job = some owner)
    (free : (s.unpark me).closesCycle me owner = false) :
    Waiting (Machine.moved threads me after false) ((s.unpark me).park me owner) where
  isSome t := by
    rw [LoaderState.find?_park, LoaderState.find?_unpark]
    by_cases ht : t = me
    · subst ht
      simp [awaits]
    · simp [ht, Machine.moved_of_ne ht, h.isSome t]
  owner t owner' job' found awaited := by
    rw [LoaderState.find?_park, LoaderState.find?_unpark] at found
    rw [LoaderState.owner?_park, LoaderState.owner?_unpark]
    by_cases ht : t = me
    · subst ht
      simp only [if_true, Option.some.injEq] at found
      simp only [Machine.moved_self, Thread.awaited?_wakeIf, awaits, Option.some.injEq] at awaited
      rw [← awaited, ← found]
      exact .inl busy
    · simp only [if_neg ht] at found
      rw [Machine.moved_of_ne ht, Thread.awaited?_wakeIf] at awaited
      rw [Machine.moved_of_ne ht, Thread.parked_wakeIf]
      rcases h.owner t owner' job' found awaited with busy | ⟨woken, ended⟩
      · exact .inl busy
      · exact .inr ⟨by simp [woken], (ended.unpark me).park me owner⟩
  acyclic := by
    refine (h.acyclic.erase me).insert fun cycle => ?_
    rw [(Waits.closesCycle_iff _ me owner).2 cycle] at free
    cases free

end Waiting

/-! ## Loads, waits and stacks -/

/-- The marks, the waits and the stacks of the threads agree. -/
structure Coherent (threads : ThreadId → Thread) (s : LoaderState) : Prop where
  owned : Owned s.owner? fun t => (threads t).jobs
  waiting : Waiting threads s
  wf : s.Wf

theorem jobs_moved (threads : ThreadId → Thread) (me : ThreadId) (after : Thread)
    (wakes : Bool) :
    (fun t => (Machine.moved threads me after wakes t).jobs) =
      Function.update (fun t => (threads t).jobs) me after.jobs := by
  funext t
  by_cases ht : t = me
  · subst ht
    simp
  · simp [Machine.moved_of_ne ht, ht]

/-- A lookup that is ready to search carries out no load of its own. -/
theorem Thread.jobs_of_ready {key : Key} {style : Style} {stage : Stage} {below : Thread}
    (ready : stage.ready = true) : jobs (.lookup key style stage :: below) = jobs below := by
  rw [jobs_lookup]
  cases stage <;> first | rfl | cases ready

/-- A wait that was not there before a turn is for the owner of a load in progress. -/
theorem Thread.Move.edge {me t u : ThreadId} {s s' : LoaderState} {before after : Thread}
    {wakes : Bool} (move : Thread.Move me s before after s' wakes)
    (found : Assoc.find? t s'.waits = some u) :
    Assoc.find? t s.waits = some u ∨ ∃ job, s.owner? job = some u := by
  have erased : Assoc.find? t (s.unpark me).waits = some u → Assoc.find? t s.waits = some u := by
    rw [LoaderState.find?_unpark]
    split
    · intro h
      cases h
    · exact id
  cases move with
  | quiet awake calm jobs same =>
    obtain ⟨_, _, rfl⟩ := same
    exact .inl found
  | answer ready calm same =>
    obtain ⟨_, _, rfl⟩ := same
    exact .inl (erased found)
  | park ready awaits parked busy other free same =>
    obtain ⟨_, _, rfl⟩ := same
    have found := (LoaderState.find?_park ..).symm.trans found
    split at found
    · exact .inr ⟨_, found ▸ busy⟩
    · exact .inl (erased found)
  | startLoad path ready idle mode same =>
    obtain ⟨_, _, rfl⟩ := same
    exact .inl (erased found)
  | startBulk paths ready idle mode same =>
    obtain ⟨_, _, rfl⟩ := same
    exact .inl (erased found)
  | endLoad result job calm same =>
    obtain ⟨_, _, rfl⟩ := same
    exact .inl found
  | endBulk calm jobs same =>
    obtain ⟨_, _, rfl⟩ := same
    exact .inl found

/-- A thread whose turn leaves it waiting waits for a load in progress. -/
theorem Thread.Move.busy_of_awaited {me : ThreadId} {s s' : LoaderState} {before after : Thread}
    {wakes : Bool} {job : Job} (move : Thread.Move me s before after s' wakes)
    (awaits : after.awaited? = some job) : ∃ owner, s'.owner? job = some owner := by
  cases move with
  | quiet awake calm _ _ =>
    rw [calm] at awaits
    cases awaits
  | answer _ calm _ =>
    rw [calm] at awaits
    cases awaits
  | endLoad _ _ calm _ =>
    rw [calm] at awaits
    cases awaits
  | endBulk calm _ _ =>
    rw [calm] at awaits
    cases awaits
  | startLoad _ _ _ _ _ => cases awaits
  | startBulk _ _ _ _ _ => cases awaits
  | @park _ _ _ _ _ _ _ owner _ parks _ busy _ _ same =>
    rw [Thread.awaited?_lookup, parks, Option.some.injEq] at awaits
    subst awaits
    refine ⟨owner, ?_⟩
    rw [same.owner?, LoaderState.owner?_park, LoaderState.owner?_unpark, busy]

namespace Coherent

variable {threads : ThreadId → Thread} {s s' : LoaderState} {me : ThreadId} {after : Thread}
  {wakes : Bool}

theorem sameLoads (h : Coherent threads s) (same : s.SameLoads s') : Coherent threads s' where
  owned := same.owner? ▸ h.owned
  waiting := h.waiting.sameLoads same
  wf := h.wf.sameLoads same

/-- A turn after which the thread carries out the loads it did. -/
theorem owned_of_jobs (h : Coherent threads s) (jobs : after.jobs = (threads me).jobs)
    (wakes : Bool) :
    Owned s.owner? fun t => (Machine.moved threads me after wakes t).jobs := by
  rw [jobs_moved, jobs, Function.update_eq_self me fun t => (threads t).jobs]
  exact h.owned

/-- A lookup that was ready to search begins a load. -/
theorem start {job : Job} (h : Coherent threads s) (idle : s.owner? job = none)
    (jobs : after.jobs = job :: (threads me).jobs) (calm : after.awaited? = none)
    (owners : s'.owner? = Function.update s.owner? job (some me))
    (waits : s'.waits = (s.unpark me).waits) (persists : ∀ job, s.Over job → s'.Over job)
    (wf : s'.Wf) : Coherent (Machine.moved threads me after false) s' where
  owned := by
    rw [jobs_moved, jobs, owners]
    exact h.owned.start idle
  waiting := by
    refine h.waiting.leave waits calm (fun other owner busy => .inl ?_) persists
    have : other ≠ job := fun heq => by
      rw [heq, idle] at busy
      cases busy
    rw [owners, Function.update_of_ne this]
    exact busy
  wf := wf

/-- A lookup ends its load, and every thread is woken. -/
theorem stop {job : Job} {rest : List Job} (h : Coherent threads s)
    (mine : (threads me).jobs = job :: rest) (awake : (threads me).awaited? = none)
    (jobs : after.jobs = rest) (calm : after.awaited? = none)
    (owners : s'.owner? = Function.update s.owner? job none) (waits : s'.waits = s.waits)
    (ended : s'.Over job) (persists : ∀ job, s.Over job → s'.Over job) (wf : s'.Wf) :
    Coherent (Machine.moved threads me after true) s' where
  owned := by
    rw [jobs_moved, jobs, owners]
    exact h.owned.stop mine
  waiting := by
    refine h.waiting.leave ?_ calm (fun other owner busy => ?_) persists
    · rw [waits, LoaderState.unpark_of_not_waiting (h.waiting.find?_eq_none awake)]
    · by_cases hj : other = job
      · exact .inr ⟨rfl, hj ▸ ended⟩
      · rw [owners, Function.update_of_ne hj]
        exact .inl busy
  wf := wf

/-- The load that a lookup ends is in progress, and its own. -/
theorem busy_of_job {key : Key} {style : Style} {stage : Stage} {below : Thread} {job : Job}
    (h : Coherent threads s) (before : threads me = .lookup key style stage :: below)
    (mine : stage.job? key = some job) : s.owner? job = some me := by
  refine (h.owned.iff job me).2 ?_
  rw [before, Thread.jobs_lookup, mine]
  exact List.mem_cons_self

/-- A turn keeps the accounts in agreement. -/
theorem move (h : Coherent threads s) (move : Thread.Move me s (threads me) after s' wakes) :
    Coherent (Machine.moved threads me after wakes) s' := by
  generalize before : threads me = thread at move
  cases move with
  | quiet awake calm jobs same =>
    rw [← before] at awake jobs
    refine sameLoads ⟨h.owned_of_jobs jobs _, ?_, h.wf⟩ same
    refine h.waiting.leave ?_ calm (fun _ _ busy => .inl busy) fun _ ended => ended
    rw [LoaderState.unpark_of_not_waiting (h.waiting.find?_eq_none awake)]
  | answer ready calm same =>
    have jobs : after.jobs = (threads me).jobs := by rw [before, Thread.jobs_of_ready ready]
    refine sameLoads ⟨?_, ?_, h.wf.unpark me⟩ same
    · rw [LoaderState.owner?_unpark]
      exact h.owned_of_jobs jobs _
    · refine h.waiting.leave rfl calm (fun job _ busy => .inl ?_) fun _ ended => ended.unpark me
      rwa [LoaderState.owner?_unpark]
  | @park key style stage next below _ job owner ready awaits parked busy other free same =>
    have jobs : Thread.jobs (.lookup key style next :: below) = (threads me).jobs := by
      rw [before, Thread.jobs_of_ready ready, Thread.jobs_of_awaited awaits]
    refine sameLoads ⟨?_, h.waiting.park awaits busy free, (h.wf.unpark me).park me owner⟩ same
    rw [LoaderState.owner?_park, LoaderState.owner?_unpark]
    exact h.owned_of_jobs jobs _
  | @startLoad key style stage below _ path ready idle mode same =>
    have jobs : Thread.jobs (.lookup key style (.loadingName s.nextLoad path) :: below) =
        .name key s.nextLoad :: (threads me).jobs := by
      rw [before, Thread.jobs_of_ready ready, Thread.jobs_lookup]
      rfl
    refine sameLoads ?_ same
    refine h.start (h.wf.owner?_nextLoad key) jobs rfl ?_ rfl ?_ ?_
    · have idle' : Assoc.find? key (s.unpark me).byName = none := idle
      rw [LoaderState.owner?_startLoad me idle', LoaderState.owner?_unpark]
      rfl
    · exact fun job ended => (ended.unpark me).startLoad idle me
    · exact (h.wf.unpark me).startLoad idle mode me
  | @startBulk key style stage below _ paths ready idle mode same =>
    have jobs : Thread.jobs (.lookup key style (.loadingBulk paths []) :: below) =
        .bulk key.kind :: (threads me).jobs := by
      rw [before, Thread.jobs_of_ready ready, Thread.jobs_lookup]
      rfl
    have free : s.owner? (.bulk key.kind) = none := idle
    refine sameLoads ?_ same
    refine h.start free jobs rfl ?_ rfl ?_ ?_
    · rw [LoaderState.owner?_startBulk, LoaderState.owner?_unpark]
    · exact fun job ended => (ended.unpark me).startBulk mode me
    · exact (h.wf.unpark me).startBulk mode me
  | @endLoad key style stage below _ load result job calm same =>
    have jobs : (threads me).jobs = .name key load :: after.jobs := by
      rw [before, Thread.jobs_lookup, job]
      rfl
    have awake : (threads me).awaited? = none := by
      rw [before, Thread.awaited?_lookup]
      cases stage <;> first | rfl | cases job
    have busy : s.owner? (.name key load) = some me := h.busy_of_job before job
    refine (h.stop jobs awake rfl calm (LoaderState.owner?_finishLoad me busy result) rfl
      (h.wf.over_finishLoad busy result) ?_ (h.wf.finishLoad busy result)).sameLoads same
    exact fun job ended => ended.finishLoad busy result
  | @endBulk key style opened below _ _ calm jobs same =>
    have mine : (threads me).jobs = .bulk key.kind :: below.jobs := by
      rw [before, Thread.jobs_lookup]
      rfl
    have awake : (threads me).awaited? = none := by
      rw [before]
      rfl
    have busy : s.owner? (.bulk key.kind) = some me := h.busy_of_job before rfl
    refine (h.stop mine awake jobs calm (s.owner?_endBulk key.kind) rfl
      (s.over_endBulk key.kind) ?_ (h.wf.endBulk busy)).sameLoads same
    exact fun job ended => ended.endBulk key.kind

/-- A load that is over stays over. -/
theorem over_move {job : Job} (h : Coherent threads s)
    (move : Thread.Move me s (threads me) after s' wakes) (ended : s.Over job) : s'.Over job := by
  generalize before : threads me = thread at move
  cases move with
  | quiet awake calm jobs same => exact ended.sameLoads same
  | answer ready calm same => exact (ended.unpark me).sameLoads same
  | park ready awaits parked busy other free same =>
    exact ((ended.unpark me).park me _).sameLoads same
  | startLoad path ready idle mode same =>
    exact ((ended.unpark me).startLoad idle me).sameLoads same
  | startBulk paths ready idle mode same =>
    exact ((ended.unpark me).startBulk mode me).sameLoads same
  | endLoad result job calm same =>
    exact (ended.finishLoad (h.busy_of_job before job) result).sameLoads same
  | endBulk calm jobs same => exact (ended.endBulk _).sameLoads same

end Coherent

/-! ## Reachable machines -/

namespace Machine

variable {hosts : Set Host} {modes : PerKind SearchMode} {m : Machine}

/-- The frames of a machine's threads may stand where they do, marks, waits and stacks
agree, and only threads that exist are waited for. -/
structure Sound (m : Machine) : Prop where
  shaped : ∀ t < m.threads.length, (m.thread t).Shaped
  coherent : Coherent m.thread m.world.state
  known : ∀ t owner, Assoc.find? t m.world.state.waits = some owner → owner < m.threads.length

theorem thread_eq_nil {t : ThreadId} (h : m.threads.length ≤ t) : m.thread t = [] := by
  simp [Machine.thread, h]

/-- The owner of a load in progress exists. -/
theorem Sound.owner_lt {job : Job} {owner : ThreadId} (h : m.Sound)
    (busy : m.world.state.owner? job = some owner) : owner < m.threads.length := by
  by_contra outside
  have mine := (h.coherent.owned.iff job owner).1 busy
  rw [thread_eq_nil (Nat.le_of_not_lt outside)] at mine
  exact List.not_mem_nil mine

theorem Sound.initial (modes : PerKind SearchMode) : (initial modes).Sound where
  shaped t ht := absurd ht (Nat.not_lt_zero t)
  coherent := by
    have owners : ∀ job, (Machine.initial modes).world.state.owner? job = none := by
      intro job
      cases job with
      | bulk kind => exact PerKind.get_ofFn ..
      | name key load => rfl
    refine ⟨⟨fun job t => ?_, fun t => ?_⟩, ⟨fun t => ?_, ?_, Waits.acyclic_nil⟩, ?_⟩
    · rw [owners job]
      simp [Machine.initial, Machine.thread, Thread.jobs]
    · exact List.nodup_nil
    · rfl
    · intro t owner job found
      cases found
    · refine ⟨?_, ?_, ?_, ?_, ?_⟩
      · intro key load found
        cases found
      · intro kind owner found
        rw [← LoaderState.owner?_bulk, owners] at found
        cases found
      · intro key load found
        cases found
      · intro key load failure found
        cases found
      · intro key load found
        cases found
  known t owner found := by cases found

/-- Every change is a move of one thread: a thread that starts, like one that does not
exist, waits for nothing and carries out nothing. -/
theorem Sound.move_of_change {next : Machine} (h : m.Sound) (change : Change hosts m next) :
    ∃ me after wakes, next.thread = moved m.thread me after wakes ∧
      Thread.Move me m.world.state (m.thread me) after next.world.state wakes ∧
      (me < next.threads.length → after.Shaped) ∧
      m.threads.length ≤ next.threads.length ∧
      ∀ t < next.threads.length, t ≠ me → t < m.threads.length := by
  have empty : m.thread m.threads.length = [] := thread_eq_nil le_rfl
  cases change with
  | spawn script =>
    refine ⟨m.threads.length, [.script .program script], false, thread_spawn m script, ?_,
      fun _ => .program script, by simp [Machine.spawn], ?_⟩
    · rw [empty]
      exact .quiet rfl rfl rfl (.refl _)
    · intro t ht ne
      simp only [Machine.spawn, List.length_append, List.length_singleton] at ht
      omega
  | openGate id =>
    refine ⟨m.threads.length, [], false, ?_, ?_, fun h => absurd h (Nat.lt_irrefl _), le_rfl,
      fun t ht _ => ht⟩
    · rw [thread_openGate]
      funext t
      by_cases ht : t = m.threads.length
      · rw [ht, empty, moved_self]
        rfl
      · rw [moved_of_ne ht]
        rfl
    · rw [empty]
      exact .quiet rfl rfl rfl (.refl _)
  | @step host me _ _ taken =>
    obtain ⟨exists', turn, taken', world, threads, -⟩ := step_eq taken
    obtain ⟨move, shaped⟩ := Thread.turn_move (h.shaped me exists')
      (h.coherent.waiting.find?_eq_none) taken'
    have length := step_length_threads taken
    refine ⟨me, turn.thread, turn.wakes, threads, ?_, fun _ => shaped, length.ge, ?_⟩
    · rw [world]
      exact move
    · intro t ht _
      rwa [length] at ht

theorem Sound.change {next : Machine} (h : m.Sound) (change : Change hosts m next) :
    next.Sound := by
  obtain ⟨me, after, wakes, threads, move, shaped, grows, old⟩ := h.move_of_change change
  constructor
  · intro t ht
    rw [threads]
    by_cases heq : t = me
    · subst heq
      simpa using (shaped ht).wakeIf wakes
    · rw [moved_of_ne heq]
      exact (h.shaped t (old t ht heq)).wakeIf wakes
  · rw [threads]
    exact h.coherent.move move
  · intro t owner found
    refine Nat.lt_of_lt_of_le ?_ grows
    rcases move.edge found with old | ⟨job, busy⟩
    · exact h.known t owner old
    · exact h.owner_lt busy

/-- A load that is over stays over. -/
theorem Sound.over_of_change {next : Machine} {job : Job} (h : m.Sound)
    (change : Change hosts m next) (ended : m.world.state.Over job) :
    next.world.state.Over job := by
  obtain ⟨me, after, wakes, -, move, -⟩ := h.move_of_change change
  exact h.coherent.over_move move ended

/-- A lookup that waits after a change waited before it, or waits for a load in progress. -/
theorem Sound.awaited_of_change {next : Machine} {t : ThreadId} {job : Job} (h : m.Sound)
    (change : Change hosts m next) (awaits : (next.thread t).awaited? = some job) :
    (m.thread t).awaited? = some job ∨ ∃ owner, next.world.state.owner? job = some owner := by
  obtain ⟨me, after, wakes, threads, move, -⟩ := h.move_of_change change
  rw [threads] at awaits
  by_cases ht : t = me
  · subst ht
    rw [moved_self, Thread.awaited?_wakeIf] at awaits
    exact .inr (move.busy_of_awaited awaits)
  · rw [moved_of_ne ht, Thread.awaited?_wakeIf] at awaits
    exact .inl awaits

/-- Every reachable machine is sound. -/
theorem Reachable.sound (h : Reachable hosts modes m) : m.Sound :=
  h.invariant (Sound.initial modes) fun _ _ sound change => sound.change change

namespace Run

variable {first last : Machine} {through : List Machine}

theorem sound (run : Run hosts first through last) (sound : first.Sound) : last.Sound :=
  run.invariant sound fun _ _ _ _ sound change => sound.change change

/-- What holds at first, and is kept by the changes that a run of sound machines consists
of, holds in the end. -/
theorem sound_invariant {P : Machine → Prop} (run : Run hosts first through last)
    (sound : first.Sound) (initial : P first)
    (kept : ∀ m next, m.Sound → m ∈ through → next ∈ through → P m → Change hosts m next →
      P next) : P last := by
  have both : last.Sound ∧ P last :=
    run.invariant (P := fun m => m.Sound ∧ P m) ⟨sound, initial⟩ fun m next hm hn both change =>
      ⟨both.1.change change, kept m next both.1 hm hn both.2 change⟩
  exact both.2

/-- A load that is over stays over. -/
theorem ended {job : Job} (run : Run hosts first through last) (sound : first.Sound)
    (ended : first.world.state.Over job) : last.world.state.Over job :=
  run.sound_invariant sound (P := fun m => m.world.state.Over job) ended
    fun _ _ sound _ _ ended change => sound.over_of_change change ended

end Run

end Machine
end PluginHost
