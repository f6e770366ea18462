import PluginHost.Proofs.Deadlock
import PluginHost.Proofs.History

/-!
# The marks of the loads in progress

Behind its lock the loader marks each load in progress with the thread that carries it out,
and keeps a wait for each thread that waits for one.  Loads are nested to any depth, and they
end in many ways; this module says that no mark outlives its load and no load is without its
mark, and that the numbers of loads by name are never given twice.

Main results:

- Theorem `Thread.Move.loads`: a turn begins one load, ends the innermost one, or leaves the
  loads of its thread alone.
- Theorem `Machine.Traced.lt_of_starts`: loads by name are numbered in the order in which they
  begin.
- Theorem `Machine.Traced.inProgress`: along every history marks and waits are those of the loads
  in progress, and none is left once all calls have returned.
-/

namespace PluginHost

/-! ## Waiting and woken threads -/

/-- Whether a lookup that waited has been woken and has not had the lock since. -/
def Stage.woken : Stage → Bool
  | awaitingBulk woken | awaitingLoad _ woken => woken
  | _ => false

namespace Thread

/-- Whether a thread waited inside the loader, has been woken, and has not had the lock
since. -/
def woken : Thread → Bool
  | .lookup _ _ stage :: _ => stage.woken
  | _ => false

/-- A thread waits for a load when it is parked, or has been woken and has not had the lock
since. -/
theorem isSome_awaited? (thread : Thread) :
    thread.awaited?.isSome = (thread.parked || thread.woken) := by
  match thread with
  | [] | .script .. :: _ | .request _ :: _ | .closing .. :: _ => rfl
  | .lookup key style stage :: below =>
    show (stage.awaited? key).isSome = (stage.parked || stage.woken)
    cases stage with
    | awaitingBulk woken => cases woken <;> rfl
    | awaitingLoad load woken => cases woken <;> rfl
    | entering | loadingBulk _ _ | closingBulk | loadingName _ _ | openedName _ _ _
    | closingName _ _ => rfl

/-! ## What a turn does to the loads of its thread -/

/-- What a turn does to the loads that its thread carries out, and to the number that the next
load by name gets. -/
inductive LoadMove (s s' : LoaderState) (before after : List Job) : Prop
  | rest (same : after = before) (next : s'.nextLoad = s.nextLoad)
  | name (key : Key) (begins : after = .name key s.nextLoad :: before)
      (next : s'.nextLoad = s.nextLoad + 1)
  | bulk (kind : Kind) (begins : after = .bulk kind :: before) (next : s'.nextLoad = s.nextLoad)
  | ends (job : Job) (ended : before = job :: after) (next : s'.nextLoad = s.nextLoad)

/-- A turn begins one load, ends the innermost one, or leaves the loads of its thread alone. -/
theorem Move.loads {me : ThreadId} {s s' : LoaderState} {before after : Thread} {wakes : Bool}
    (h : Move me s before after s' wakes) : LoadMove s s' before.jobs after.jobs := by
  cases h with
  | quiet awake calm jobs same =>
    obtain ⟨_, _, rfl⟩ := same
    exact .rest jobs rfl
  | answer ready calm same =>
    obtain ⟨_, _, rfl⟩ := same
    exact .rest (jobs_of_ready ready).symm rfl
  | park ready awaits parked busy other free same =>
    obtain ⟨_, _, rfl⟩ := same
    exact .rest ((jobs_of_awaited awaits).trans (jobs_of_ready ready).symm) rfl
  | @startLoad key style stage below _ path ready idle mode same =>
    obtain ⟨_, _, rfl⟩ := same
    refine .name key ?_ rfl
    rw [jobs_of_ready ready, jobs_lookup]
    rfl
  | @startBulk key style stage below _ paths ready idle mode same =>
    obtain ⟨_, _, rfl⟩ := same
    refine .bulk key.kind ?_ rfl
    rw [jobs_of_ready ready, jobs_lookup]
    rfl
  | @endLoad key style stage below _ load result job calm same =>
    obtain ⟨_, _, rfl⟩ := same
    refine .ends (.name key load) ?_ rfl
    rw [jobs_lookup, job]
    rfl
  | @endBulk key style opened below _ _ calm jobs same =>
    obtain ⟨_, _, rfl⟩ := same
    refine .ends (.bulk key.kind) ?_ rfl
    rw [jobs_lookup, jobs]
    rfl

end Thread

namespace Machine

/-! ## Loads that begin -/

/-- In a step a load begins: its thread carries it out afterwards, and did not before. -/
def Step.Starts (step : Step) (job : Job) : Prop :=
  job ∈ (step.after.thread step.thread).jobs ∧ job ∉ (step.before.thread step.thread).jobs

variable {hosts : Set Host} {modes : PerKind SearchMode} {m next : Machine}
  {history later middle earlier : History} {host : Host} {me t u : ThreadId} {turn : Turn}
  {job job' : Job} {key key' : Key} {load load' : Nat} {step first second : Step}

theorem Takes.loads (takes : Takes host m me turn next) (sound : m.Sound) :
    Thread.LoadMove m.world.state next.world.state (m.thread me).jobs (next.thread me).jobs := by
  obtain ⟨lt, turn, turned, world, threads, -⟩ := step_eq takes.taken
  obtain ⟨move, -⟩ := Thread.turn_move (sound.shaped me lt)
    sound.coherent.waiting.find?_eq_none turned
  rw [world, threads, moved_self, Thread.jobs_wakeIf]
  exact move.loads

/-- Numbers of loads are given in increasing order. -/
theorem Takes.nextLoad_le (takes : Takes host m me turn next) (sound : m.Sound) :
    m.world.state.nextLoad ≤ next.world.state.nextLoad := by
  cases takes.loads sound with
  | rest _ same => exact same.ge
  | bulk _ _ same => exact same.ge
  | ends _ _ same => exact same.ge
  | name _ _ more =>
    rw [more]
    exact Nat.le_succ _

/-- The load that begins in a step is the only one, and a load by name gets the next number. -/
theorem Takes.starts (takes : Takes host m me turn next) (sound : m.Sound)
    (starts : Step.Starts ⟨m, me, next⟩ job) :
    (next.thread me).jobs = job :: (m.thread me).jobs ∧
      ∀ key load, job = .name key load → load = m.world.state.nextLoad ∧
        next.world.state.nextLoad = m.world.state.nextLoad + 1 := by
  obtain ⟨carries, fresh⟩ := starts
  cases takes.loads sound with
  | rest same _ => exact absurd (same ▸ carries) fresh
  | ends _ ended _ =>
    rw [ended] at fresh
    exact absurd (List.mem_cons_of_mem _ carries) fresh
  | name key begins more =>
    rw [begins] at carries
    obtain rfl := (List.mem_cons.1 carries).resolve_right fresh
    refine ⟨begins, fun other load same => ?_⟩
    cases same
    exact ⟨rfl, more⟩
  | bulk kind begins _ =>
    rw [begins] at carries
    obtain rfl := (List.mem_cons.1 carries).resolve_right fresh
    exact ⟨begins, nofun⟩

/-- A step begins one load at most. -/
theorem Takes.eq_of_starts (takes : Takes host m me turn next) (sound : m.Sound)
    (starts : Step.Starts ⟨m, me, next⟩ job) (starts' : Step.Starts ⟨m, me, next⟩ job') :
    job = job' := by
  have one := (takes.starts sound starts).1
  have one' := (takes.starts sound starts').1
  rw [one] at one'
  exact (List.cons.inj one').1

/-- A load that a thread carries out after a step was there before, or began in the step. -/
theorem Takes.mem_jobs (takes : Takes host m me turn next) (mem : job ∈ (next.thread t).jobs) :
    job ∈ (m.thread t).jobs ∨ t = me ∧ Step.Starts ⟨m, me, next⟩ job := by
  by_cases ht : t = me
  · subst ht
    by_cases old : job ∈ (m.thread t).jobs
    · exact .inl old
    · exact .inr ⟨rfl, mem, old⟩
  · rw [takes.thread_of_ne ht, Thread.jobs_wakeIf] at mem
    exact .inl mem

/-- A thread that starts carries out no load. -/
theorem Untouched.jobs (h : Untouched m next) (t : ThreadId) :
    (next.thread t).jobs = (m.thread t).jobs := by
  rcases h.thread t with same | ⟨none, script, started⟩
  · rw [same]
  · rw [none, started]
    rfl

/-- A load by name that is in progress has a number that was given. -/
theorem Sound.lt_nextLoad (sound : m.Sound) (mem : .name key load ∈ (m.thread t).jobs) :
    load < m.world.state.nextLoad := by
  have busy := (sound.coherent.owned.iff _ t).2 mem
  exact sound.coherent.wf.fresh key _ ((LoaderState.owner?_name ..).1 busy)

namespace Traced

/-- A load by name that ever began has a number that was given. -/
theorem lt_nextLoad (h : Traced hosts modes m history) (mem : step ∈ history)
    (starts : step.Starts (.name key load)) : load < m.world.state.nextLoad := by
  refine h.invariant (P := fun m history => ∀ step ∈ history, ∀ key load,
    step.Starts (.name key load) → load < m.world.state.nextLoad) ?_ ?_ ?_
    step mem key load starts
  · intro step mem
    cases mem
  · intro m next history below untouched
    rwa [untouched.state]
  · intro m next history host me turn traced below _ takes step mem key load starts
    have sound := traced.reachable.sound
    rcases List.mem_cons.1 mem with rfl | old
    · obtain ⟨rfl, more⟩ := (takes.starts sound starts).2 key load rfl
      rw [more]
      exact Nat.lt_succ_self _
    · exact Nat.lt_of_lt_of_le (below step old key load starts) (takes.nextLoad_le sound)

/-- Loads by name are numbered in the order in which they begin. -/
theorem lt_of_starts (h : Traced hosts modes m (later ++ second :: (middle ++ first :: earlier)))
    (starts : first.Starts (.name key load)) (starts' : second.Starts (.name key' load')) :
    load < load' := by
  obtain ⟨before, host, -, turn, takes⟩ := h.split_takes
  obtain ⟨number, -⟩ := (takes.starts before.reachable.sound starts').2 key' load' rfl
  rw [number]
  exact before.lt_nextLoad (List.mem_append_right _ List.mem_cons_self) starts

/-- A load that a thread carries out was begun by that thread. -/
theorem exists_starts (h : Traced hosts modes m history) (mem : job ∈ (m.thread t).jobs) :
    ∃ step ∈ history, step.thread = t ∧ step.Starts job := by
  refine h.invariant (P := fun m history => ∀ t, ∀ job ∈ (m.thread t).jobs,
    ∃ step ∈ history, step.thread = t ∧ step.Starts job) ?_ ?_ ?_ t job mem
  · intro t job mem
    rw [thread_eq_nil (Nat.zero_le t)] at mem
    cases mem
  · intro m next history started untouched t job mem
    rw [untouched.jobs] at mem
    exact started t job mem
  · intro m next history host me turn _ started _ takes t job mem
    rcases takes.mem_jobs mem with old | ⟨rfl, starts⟩
    · obtain ⟨step, mem, same, starts⟩ := started t job old
      exact ⟨step, List.mem_cons_of_mem _ mem, same, starts⟩
    · exact ⟨_, List.mem_cons_self, rfl, starts⟩

/-- Loads by name in progress that have one number are one load. -/
theorem eq_of_number (h : Traced hosts modes m history)
    (mine : .name key load ∈ (m.thread t).jobs) (yours : .name key' load ∈ (m.thread u).jobs) :
    t = u ∧ key = key' := by
  refine h.invariant (P := fun m _ => ∀ t u key key' load, .name key load ∈ (m.thread t).jobs →
    .name key' load ∈ (m.thread u).jobs → t = u ∧ key = key') ?_ ?_ ?_ t u key key' load mine yours
  · intro t u key key' load mine
    rw [thread_eq_nil (Nat.zero_le t)] at mine
    cases mine
  · intro m next history distinct untouched t u key key' load mine yours
    rw [untouched.jobs] at mine yours
    exact distinct t u key key' load mine yours
  · intro m next history host me turn traced distinct _ takes t u key key' load mine yours
    have sound := traced.reachable.sound
    rcases takes.mem_jobs mine with old | ⟨rfl, starts⟩
    · rcases takes.mem_jobs yours with old' | ⟨rfl, starts'⟩
      · exact distinct t u key key' load old old'
      · obtain ⟨rfl, -⟩ := (takes.starts sound starts').2 key' load rfl
        exact absurd (sound.lt_nextLoad old) (Nat.lt_irrefl _)
    · obtain ⟨rfl, -⟩ := (takes.starts sound starts).2 key load rfl
      rcases takes.mem_jobs yours with old' | ⟨rfl, starts'⟩
      · exact absurd (sound.lt_nextLoad old') (Nat.lt_irrefl _)
      · cases takes.eq_of_starts sound starts starts'
        exact ⟨rfl, rfl⟩

end Traced

/-! ## When no call is in progress -/

/-- A load that no thread carries out has no mark. -/
theorem Sound.owner?_eq_none (sound : m.Sound) (unheld : ∀ t, job ∉ (m.thread t).jobs) :
    m.world.state.owner? job = none := by
  by_contra busy
  obtain ⟨t, mine⟩ := Option.ne_none_iff_exists'.1 busy
  exact unheld t ((sound.coherent.owned.iff job t).1 mine)

/-- Once all calls have returned no thread carries out a load or waits for one. -/
theorem idle_of_returned (returned : ∀ t < m.threads.length, (m.thread t).Returned)
    (t : ThreadId) : (m.thread t).jobs = [] ∧ (m.thread t).awaited? = none := by
  by_cases lt : t < m.threads.length
  · exact ⟨(returned t lt).jobs, (returned t lt).awaited?⟩
  · rw [thread_eq_nil (Nat.le_of_not_lt lt)]
    exact ⟨rfl, rfl⟩

/-- Once all calls have returned there is neither a mark nor a wait. -/
theorem Sound.unmarked_of_returned (sound : m.Sound)
    (returned : ∀ t < m.threads.length, (m.thread t).Returned) :
    m.world.state.byName = [] ∧ (∀ kind, m.world.state.bulk.get kind = none) ∧
      m.world.state.waits = [] := by
  have unowned : ∀ job, m.world.state.owner? job = none := by
    intro job
    refine sound.owner?_eq_none fun t mem => ?_
    rw [(idle_of_returned returned t).1] at mem
    cases mem
  refine ⟨Assoc.eq_nil_of_find? fun key => ?_, fun kind => unowned (.bulk kind),
    Assoc.eq_nil_of_find? fun t => ?_⟩
  · by_contra busy
    obtain ⟨⟨owner, load⟩, found⟩ := Option.ne_none_iff_exists'.1 busy
    have mine := (LoaderState.owner?_name ..).2 found
    rw [unowned] at mine
    cases mine
  · exact sound.coherent.waiting.find?_eq_none (idle_of_returned returned t).2

/-! ## The contract -/

/-- The marks and waits behind the lock are those of the loads in progress.  A key is marked
with a thread and a number exactly when the thread has a load of the key under that number
on its stack, a kind exactly when the thread has its bulk load there, each load once; and
exactly the threads that are parked, or have been woken and have not had the lock since, have a
wait.  Loads by name are numbered in the order in which they begin, below the next number.
When all calls have returned there is neither a mark nor a wait. -/
structure InProgress (m : Machine) (history : History) : Prop where
  name : ∀ key t load, Assoc.find? key m.world.state.byName = some ⟨t, load⟩ ↔
    .name key load ∈ (m.thread t).jobs
  bulk : ∀ kind t, m.world.state.bulk.get kind = some t ↔ .bulk kind ∈ (m.thread t).jobs
  once : ∀ t, (m.thread t).jobs.Nodup
  waits : ∀ t, (Assoc.find? t m.world.state.waits).isSome = true ↔
    (m.thread t).parked = true ∨ (m.thread t).woken = true
  distinct : ∀ t u key key' load, .name key load ∈ (m.thread t).jobs →
    .name key' load ∈ (m.thread u).jobs → t = u ∧ key = key'
  started : ∀ t, ∀ job ∈ (m.thread t).jobs, ∃ step ∈ history, step.thread = t ∧ step.Starts job
  single : ∀ step ∈ history, ∀ job job', step.Starts job → step.Starts job' → job = job'
  ordered : ∀ later middle earlier first second key key' load load',
    history = later ++ second :: (middle ++ first :: earlier) →
      first.Starts (.name key load) → second.Starts (.name key' load') → load < load'
  below : ∀ step ∈ history, ∀ key load, step.Starts (.name key load) →
    load < m.world.state.nextLoad
  idle : (∀ t < m.threads.length, (m.thread t).Returned) →
    m.world.state.byName = [] ∧ (∀ kind, m.world.state.bulk.get kind = none) ∧
      m.world.state.waits = []

/-- Along every history the marks and waits behind the lock are those of the loads in
progress. -/
theorem Traced.inProgress (h : Traced hosts modes m history) : InProgress m history := by
  have sound := h.reachable.sound
  constructor
  · intro key t load
    rw [← LoaderState.owner?_name]
    exact sound.coherent.owned.iff (.name key load) t
  · intro kind t
    exact sound.coherent.owned.iff (.bulk kind) t
  · exact sound.coherent.owned.nodup
  · intro t
    rw [sound.coherent.waiting.isSome, Thread.isSome_awaited?, Bool.or_eq_true]
  · intro t u key key' load mine yours
    exact h.eq_of_number mine yours
  · intro t job mem
    exact h.exists_starts mem
  · intro step mem job job' starts starts'
    obtain ⟨host, -, taken⟩ := h.taken mem
    obtain ⟨turn, takes⟩ := step_takes (h.sound_before mem) taken
    exact takes.eq_of_starts (h.sound_before mem) starts starts'
  · rintro later middle earlier first second key key' load load' rfl starts starts'
    exact h.lt_of_starts starts starts'
  · intro step mem key load starts
    exact h.lt_nextLoad mem starts
  · exact sound.unmarked_of_returned

/-- A host with a converter whose init looks up a filter, the module of which stands at a gate in
its own init. -/
def nestedHost : Host :=
  let opening (path : Path) : Opening :=
    if path = .ofText "c" then
      .run [.request (.tryGet ⟨.filter, "f"⟩), .registrar (.checked ⟨.converter, "c"⟩ (.word 1))]
        none (.run [] none)
    else
      .run [.gate "g", .registrar (.checked ⟨.filter, "f"⟩ (.word 2))] none (.run [] none)
  ⟨⟨fun _ name => ⟨.ofText name, true⟩, fun _ => [.ofText "c"]⟩, ⟨opening⟩, .release⟩

/-- One thread loads all converters and inside that the filter, for which another one waits. -/
def nestedLoads : Machine × History :=
  (((Machine.initial (.ofFn fun kind => if kind = .converter then .loadAll else .byName)).spawn
    [.request (.tryGet ⟨.converter, "c"⟩)]).spawn [.request (.tryGet ⟨.filter, "f"⟩)]).runWith
      History.note nestedHost (List.replicate 8 0 ++ List.replicate 3 1) []

theorem traced_nestedLoads :
    Traced {nestedHost} (.ofFn fun kind => if kind = .converter then .loadAll else .byName)
      nestedLoads.1 nestedLoads.2 :=
  ((Recorded.initial.spawn _).spawn _).runWith (Set.mem_singleton nestedHost) _

/-- The first thread has both loads on its stack, each with its mark, and the second one waits
for it. -/
theorem inProgress_nestedLoads :
    InProgress nestedLoads.1 nestedLoads.2 ∧
      (nestedLoads.1.thread 0).jobs = [.name ⟨.filter, "f"⟩ 0, .bulk .converter] ∧
      nestedLoads.1.world.state.byName = [(⟨.filter, "f"⟩, ⟨0, 0⟩)] ∧
      nestedLoads.1.world.state.bulk.get .converter = some 0 ∧
      (nestedLoads.1.thread 1).parked = true ∧ nestedLoads.1.world.state.waits = [(1, 0)] :=
  ⟨traced_nestedLoads.inProgress, rfl, rfl, rfl, rfl, rfl⟩

end Machine
end PluginHost
