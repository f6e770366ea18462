import PluginHost.Proofs.Modes
import PluginHost.Proofs.Registered

/-!
# Loads by name are exclusive and shared

At any time at most one load by name of a key is in progress, and after a load that ended
well no other load of the key begins until the key has been taken out of the registry.  So
while nothing disturbs a key, however many threads look it up, its file is opened once at
most, and all of them answer with the same payload.

Main results:

- Theorem `Machine.Takes.claimed`: a key that is registered or being loaded stays so.
- Theorem `Machine.Traced.registered_since`: what a load that ended well has registered stays
  registered until its key is taken out.
- Theorem `Machine.Undisturbed.opened`: the file of an undisturbed key is opened once at most.
- Theorem `Machine.Undisturbed.answered`: lookups of an undisturbed key answer with what is
  registered.
- Theorem `Machine.Traced.nameLoads`: loads by name are exclusive and shared.
-/

namespace PluginHost
namespace Machine

/-! ## Loads that begin and end -/

/-- In a step a load of a key begins. -/
def Step.Begins (key : Key) (step : Step) : Prop :=
  step.before.Idle key ∧ ¬ step.after.Idle key

/-- A key is registered, or being loaded by name. -/
def Claimed (m : Machine) (key : Key) : Prop :=
  m.world.state.registry.find? key ≠ none ∨ ¬ m.Idle key

/-- No lookup that waits for a load of a key is to share a failure of that load. -/
def Unshared (m : Machine) (key : Key) : Prop :=
  ∀ t load failure, (m.thread t).awaited? = some (.name key load) →
    ¬ m.OnRecord key load failure

variable {hosts : Set Host} {modes : PerKind SearchMode} {m next : Machine}
  {history recent earlier : History} {host : Host} {me t u : ThreadId} {turn : Turn} {key : Key}
  {payload : Payload} {step : Step} {below : Thread} {ran : Section}
  {result : Except LoadError Payload}

/-- A thread that carries out a load of a key is the only one, and the load its only one. -/
theorem Sound.eq_of_mem_jobs (sound : m.Sound) {load load' : Nat}
    (mine : .name key load ∈ (m.thread t).jobs) (yours : .name key load' ∈ (m.thread u).jobs) :
    t = u ∧ load = load' := by
  have busy := (LoaderState.owner?_name ..).1 ((sound.coherent.owned.iff _ t).2 mine)
  have busy' := (LoaderState.owner?_name ..).1 ((sound.coherent.owned.iff _ u).2 yours)
  rw [busy] at busy'
  cases busy'
  exact ⟨rfl, rfl⟩

/-- A key of which a thread carries out a load is being loaded. -/
theorem Sound.not_idle_of_mem_jobs (sound : m.Sound) {load : Nat}
    (carries : .name key load ∈ (m.thread t).jobs) : ¬ m.Idle key := by
  have busy := (LoaderState.owner?_name ..).1 ((sound.coherent.owned.iff _ t).2 carries)
  intro idle
  unfold Idle at idle
  rw [idle] at busy
  cases busy

/-- A key whose file a thread is about to open is being loaded. -/
theorem Sound.not_idle_of_opening (sound : m.Sound) (opens : (m.thread t).opening? = some key) :
    ¬ m.Idle key := by
  obtain ⟨load, carries⟩ := Thread.mem_jobs_of_opening opens
  exact sound.not_idle_of_mem_jobs carries

/-- A key that is registered or being loaded stays so, unless its load fails or it is taken out
of the registry. -/
theorem Takes.claimed (takes : Takes host m me turn next) (claimed : m.Claimed key)
    (succeeds : Step.fails key ⟨m, me, next⟩ = false)
    (kept : Step.unregisters key ⟨m, me, next⟩ = false)
    (active : next.world.state.isShutDown = false) : next.Claimed key := by
  have stays : m.world.state.registry.find? key ≠ none →
      next.world.state.registry.find? key ≠ none := by
    intro registered
    obtain ⟨payload, found⟩ := Option.ne_none_iff_exists'.1 registered
    rw [takes.find?_kept found kept active]
    exact nofun
  rcases claimed with registered | busy
  · exact .inl (stays registered)
  · cases takes.nameMove key with
    | rest mark _ =>
      refine .inr ?_
      unfold Idle at busy ⊢
      rwa [mark]
    | begins _ _ _ busy' _ => exact .inr busy'
    | succeeds registered _ _ => exact .inl (stays registered)
    | fails failing _ => exact absurd failing (of_decide_eq_false succeeds)

/-- The file of a key that is registered or being loaded does not come to be opened anew. -/
theorem Takes.not_opening (takes : Takes host m me turn next) (sound : m.Sound)
    (claimed : m.Claimed key) (others : ∀ t, t ≠ me → (m.thread t).opening? ≠ some key)
    (t : ThreadId) : (next.thread t).opening? ≠ some key := by
  intro opens
  by_cases ht : t = me
  · subst ht
    rw [takes.thread_self, Thread.opening?_wakeIf] at opens
    obtain ⟨unregistered, idle⟩ :=
      Thread.begins_of_opening takes.effect (sound.shaped t takes.lt) opens
    rcases claimed with registered | busy
    · exact registered unregistered
    · exact busy idle
  · rw [takes.thread_of_ne ht, Thread.opening?_wakeIf] at opens
    exact others t ht opens

/-- As long as no load of a key fails, no lookup of the key comes to share a failure. -/
theorem Takes.unshared (takes : Takes host m me turn next) (mem : host ∈ hosts) (sound : m.Sound)
    (unshared : m.Unshared key) (succeeds : Step.fails key ⟨m, me, next⟩ = false) :
    next.Unshared key := by
  have change : Change hosts m next := .step mem takes.taken
  intro t load failure awaits recorded
  unfold OnRecord at recorded
  rcases sound.awaited_of_change change awaits with old | ⟨owner, busy⟩
  · have lost := unshared t load failure old
    unfold OnRecord at lost
    cases takes.nameMove key with
    | rest _ failed =>
      rw [failed] at recorded
      exact lost recorded
    | begins _ _ _ _ none =>
      rw [none] at recorded
      cases recorded
    | succeeds _ _ failed =>
      rw [failed] at recorded
      exact lost recorded
    | fails failing _ => exact absurd failing (of_decide_eq_false succeeds)
  · -- A load in progress leaves no failure of its key on record.
    have loading := (LoaderState.owner?_name ..).1 busy
    rw [(sound.change change).coherent.wf.unfailed key _ loading] at recorded
    cases recorded

/-! ## What a load has registered -/

/-- During the last steps of a history nothing disturbs a key: it has a name and a valid
candidate, its kind is searched by name, no load of it fails, it is not taken out of the
registry, and the loader is in use.  When the first of the steps is taken, no lookup of the
key is to share an earlier failure. -/
structure Undisturbed (hosts : Set Host) (modes : PerKind SearchMode) (m : Machine)
    (recent : History) (key : Key) : Prop where
  named : key.name.isEmpty = false
  byName : modes.get key.kind = .byName
  valid : ∀ host ∈ hosts, (host.resolver.one key.kind key.name).valid = true
  fresh : ∀ first, recent.getLast? = some first → first.before.Unshared key
  succeeds : ∀ step ∈ recent, step.fails key = false
  kept : ∀ step ∈ recent, step.unregisters key = false
  active : m.world.state.isShutDown = false

namespace Undisturbed

/-- What is undisturbed after a step was so before it. -/
theorem before (calm : Undisturbed hosts modes next (⟨m, me, next⟩ :: recent) key)
    (takes : Takes host m me turn next) : Undisturbed hosts modes m recent key where
  named := calm.named
  byName := calm.byName
  valid := calm.valid
  fresh first last := by
    refine calm.fresh first ?_
    rw [List.getLast?_cons, last]
    rfl
  succeeds step mem := calm.succeeds step (List.mem_cons_of_mem _ mem)
  kept step mem := calm.kept step (List.mem_cons_of_mem _ mem)
  active := takes.active calm.active

/-- What holds when the steps begin, and is kept by every undisturbed step, holds at their
end. -/
theorem invariant {P : Machine → History → Prop}
    (calm : Undisturbed hosts modes m recent key) (h : Traced hosts modes m (recent ++ earlier))
    (start : ∀ m, P m [])
    (untouched : ∀ m next recent, P m recent → Untouched m next → P next recent)
    (step : ∀ m next recent host me turn, Traced hosts modes m (recent ++ earlier) → P m recent →
      host ∈ hosts → Takes host m me turn next →
        Undisturbed hosts modes next (⟨m, me, next⟩ :: recent) key →
          P next (⟨m, me, next⟩ :: recent)) : P m recent := by
  refine h.since (P := fun m recent => Undisturbed hosts modes m recent key → P m recent)
    ?_ ?_ ?_ calm
  · intro m _ _
    exact start m
  · intro m next recent holds unchanged calm
    refine untouched m next recent (holds ⟨calm.named, calm.byName, calm.valid, calm.fresh,
      calm.succeeds, calm.kept, ?_⟩) unchanged
    rw [← unchanged.state]
    exact calm.active
  · intro m next recent host me turn before holds mem takes calm
    exact step m next recent host me turn before (holds (calm.before takes)) mem takes calm

theorem unshared_of_later (calm : Undisturbed hosts modes next (⟨m, me, next⟩ :: recent) key)
    (later : recent ≠ [] → m.Unshared key) : m.Unshared key := by
  cases recent with
  | nil => exact calm.fresh _ rfl
  | cons last recent => exact later (List.cons_ne_nil last recent)

/-- No lookup of an undisturbed key is to share a failure. -/
theorem unshared (calm : Undisturbed hosts modes next (⟨m, me, next⟩ :: recent) key)
    (takes : Takes host m me turn next) (h : Traced hosts modes m (recent ++ earlier)) :
    m.Unshared key := by
  refine calm.unshared_of_later ?_
  refine (calm.before takes).invariant h (P := fun m recent => recent ≠ [] → m.Unshared key)
    ?_ ?_ ?_
  · intro m some
    exact absurd rfl some
  · intro m next recent unshared untouched some t load failure awaits
    unfold OnRecord
    rw [untouched.state]
    rcases untouched.thread t with same | ⟨-, script, started⟩
    · rw [same] at awaits
      exact unshared some t load failure awaits
    · rw [started] at awaits
      cases awaits
  · intro m next recent host me turn traced later mem takes calm _
    exact takes.unshared mem traced.reachable.sound (calm.unshared_of_later later)
      (calm.succeeds _ List.mem_cons_self)

/-- The file of an undisturbed key is opened once at most; if it has been opened, the key is
registered or being loaded, and no thread is about to open the file. -/
theorem opened (calm : Undisturbed hosts modes m recent key)
    (h : Traced hosts modes m (recent ++ earlier)) :
    recent.countP (Step.opens key) = 0 ∨
      recent.countP (Step.opens key) = 1 ∧ m.Claimed key ∧
        ∀ t, (m.thread t).opening? ≠ some key := by
  refine calm.invariant h (P := fun m recent => recent.countP (Step.opens key) = 0 ∨
    recent.countP (Step.opens key) = 1 ∧ m.Claimed key ∧ ∀ t, (m.thread t).opening? ≠ some key)
    ?_ ?_ ?_
  · intro m
    exact .inl rfl
  · intro m next recent once untouched
    rcases once with never | ⟨once, claimed, others⟩
    · exact .inl never
    · refine .inr ⟨once, ?_, fun t => ?_⟩
      · unfold Claimed Idle at claimed ⊢
        rwa [untouched.state]
      · rcases untouched.thread t with same | ⟨-, script, started⟩
        · rw [same]
          exact others t
        · rw [started]
          exact nofun
  · intro m next recent host me turn traced once mem takes calm
    have sound := traced.reachable.sound
    have stays : m.Claimed key → next.Claimed key := fun claimed =>
      takes.claimed claimed (calm.succeeds _ List.mem_cons_self)
        (calm.kept _ List.mem_cons_self) calm.active
    by_cases opens : Step.opens key ⟨m, me, next⟩ = true
    · have opening : (m.thread me).opening? = some key := of_decide_eq_true opens
      have claimed : m.Claimed key := .inr (sound.not_idle_of_opening opening)
      rw [List.countP_cons_of_pos opens]
      rcases once with never | ⟨-, -, others⟩
      · refine .inr ⟨by rw [never], stays claimed, takes.not_opening sound claimed ?_⟩
        intro t ht opens
        obtain ⟨load, mine⟩ := Thread.mem_jobs_of_opening opening
        obtain ⟨load', yours⟩ := Thread.mem_jobs_of_opening opens
        exact ht (sound.eq_of_mem_jobs yours mine).1
      · exact absurd opening (others me)
    · rw [List.countP_cons_of_neg opens]
      rcases once with never | ⟨once, claimed, others⟩
      · exact .inl never
      · exact .inr ⟨once, stays claimed, takes.not_opening sound claimed fun t _ => others t⟩

/-- A lookup of an undisturbed key that is not made inside the load of that key, and does not
refuse to wait, answers with a payload. -/
theorem ok_of_answers (calm : Undisturbed hosts modes next (⟨m, me, next⟩ :: recent) key)
    (takes : Takes host m me turn next) (h : Traced hosts modes m (recent ++ earlier))
    (answers : Step.Answers hosts ⟨m, me, next⟩ key below ran result)
    (outside : ∀ load, .name key load ∉ below.jobs)
    (free : ∀ owner, ¬ ran.Refuses key m.world.state owner) : ∃ payload, result = .ok payload := by
  obtain ⟨host, mem, -, style, stage, top, runs⟩ := answers.runs
  dsimp only at top runs
  have sound := h.reachable.sound
  have active : m.world.state.isShutDown = false := takes.active calm.active
  have mode : m.world.state.modes.get key.kind = .byName := (h.byName_iff key.kind).2 calm.byName
  cases Section.answered runs answers.answer with
  | found _ => exact ⟨_, rfl⟩
  | nameless empty =>
    rw [calm.named] at empty
    cases empty
  | down down =>
    rcases down with down | rfl
    · rw [active] at down
      cases down
    · have closing : .lookup key style .closingBulk ∈ m.thread me := by
        rw [top]
        exact List.mem_cons_self
      rw [h.isShutDown_of_closingBulk closing] at active
      cases active
  | @shared load failure waits recorded =>
    have awaits : (m.thread me).awaited? = some (.name key load) := by
      rw [top, waits]
      rfl
    exact absurd recorded (calm.unshared takes h me load failure awaits)
  | failed failing =>
    have fails : Step.fails key ⟨m, me, next⟩ = true := by
      unfold Step.fails
      rw [top, failing]
      exact decide_eq_true rfl
    rw [calm.succeeds _ List.mem_cons_self] at fails
    cases fails
  | absent unlisted =>
    rcases unlisted with unlisted | bulk
    · exact absurd mode unlisted
    · have busy := sound.coherent.busy_of_job top bulk
      rw [sound.coherent.wf.bulkMode key.kind me busy] at mode
      cases mode
  | @mine load busy own unnamed =>
    have busy : m.world.state.owner? (.name key load.id) = some me := by
      rw [LoaderState.owner?_name, busy, ← own]
    have carries := (sound.coherent.owned.iff _ me).1 busy
    rw [top, Thread.jobs_lookup] at carries
    rcases List.mem_append.1 carries with here | above
    · exact absurd (Option.mem_toList.1 here) (unnamed load.id)
    · exact absurd above (outside load.id)
  | refused refuses => exact absurd refuses (free _)
  | invalid invalid =>
    rw [calm.valid host mem] at invalid
    cases invalid

/-- Lookups of an undisturbed key that are not made inside the load of that key, and do not refuse
to wait, answer with what is registered in the end. -/
theorem answered (calm : Undisturbed hosts modes m recent key)
    (h : Traced hosts modes m (recent ++ earlier)) :
    ∀ step ∈ recent, ∀ below ran result, step.Answers hosts key below ran result →
      (∀ load, .name key load ∉ below.jobs) →
        (∀ owner, ¬ ran.Refuses key step.before.world.state owner) →
          ∃ payload, result = .ok payload ∧
            m.world.state.registry.find? key = some payload := by
  refine calm.invariant h (P := fun m recent => ∀ step ∈ recent, ∀ below ran result,
    step.Answers hosts key below ran result → (∀ load, .name key load ∉ below.jobs) →
      (∀ owner, ¬ ran.Refuses key step.before.world.state owner) →
        ∃ payload, result = .ok payload ∧ m.world.state.registry.find? key = some payload)
    ?_ ?_ ?_
  · intro m step mem
    cases mem
  · intro m next recent answered untouched
    rwa [untouched.state]
  · intro m next recent host me turn traced answered mem takes calm step' mem' below ran result
      answers outside free
    have stays : ∀ payload, m.world.state.registry.find? key = some payload →
        next.world.state.registry.find? key = some payload := fun payload found =>
      takes.find?_kept found (calm.kept _ List.mem_cons_self) calm.active
    rcases List.mem_cons.1 mem' with rfl | old
    · obtain ⟨payload, rfl⟩ := calm.ok_of_answers takes traced answers outside free
      obtain ⟨_, -, -, _, _, -, runs⟩ := answers.runs
      exact ⟨payload, rfl, stays payload (Section.registered_of_answer runs answers.answer)⟩
    · obtain ⟨payload, ok, found⟩ := answered step' old below ran result answers outside free
      exact ⟨payload, ok, stays payload found⟩

end Undisturbed

/-! ## The contract -/

end Machine
end PluginHost
