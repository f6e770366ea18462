import PluginHost.Proofs.Coherence

/-!
# Freedom from deadlock

A thread waits inside the loader for the owner of a load that is still in progress, and
waits never form a cycle.  So when no thread can go on, and no module is held up outside
the loader, every call of the loader has returned.

Main results:

- Theorem `Thread.returned_or_parked`: a thread that can take no turn has returned from
  the loader or waits in it.
- Theorem `Machine.Reachable.deadlockFree`: no reachable machine is in a deadlock.
-/

namespace PluginHost

namespace Thread

/-! ## Threads that cannot go on -/

/-- No call of the loader is in progress: the stack is the thread's program alone. -/
def Returned (thread : Thread) : Prop :=
  ∃ rest, thread = [.script .program rest]

/-- The init or the release of a module stands at a closed gate. -/
def HeldInModule (w : World) : Thread → Prop
  | .script (.init _) (.gate id :: _) :: _ => w.gates.contains id = false
  | .script (.teardown _) (.gate id :: _) :: _ => w.gates.contains id = false
  | _ => False

variable {host : Host} {me : ThreadId} {w : World} {role : Role} {rest : Script}
  {thread below : Thread} {action : Action}

/-- The only action that a thread may have to put off is to pass a gate. -/
theorem begin_eq_none (h : begin w role below action = none) :
    ∃ id, action = .gate id ∧ w.gates.contains id = false := by
  cases action with
  | gate id =>
    simp only [begin] at h
    split at h
    · cases h
    · next closed => exact ⟨id, rfl, by simpa using closed⟩
  | request request =>
    simp only [begin] at h
    split at h <;> cases h
  | nullPayload => cases h
  | registrar call =>
    simp only [begin] at h
    split at h
    · split at h <;> cases h
    · cases h
  | registrarNull =>
    simp only [begin] at h
    split at h <;> cases h

/-- The only lookups that cannot go on are those that wait. -/
theorem lookupTurn_eq_none {key : Key} {style : Style} {stage : Stage}
    (h : lookupTurn host me w key style below stage = none) : stage.parked = true := by
  cases stage with
  | awaitingBulk woken => cases woken <;> first | rfl | cases h
  | awaitingLoad load woken => cases woken <;> first | rfl | cases h
  | loadingBulk todo opened => cases todo <;> cases h
  | entering => cases h
  | closingBulk => cases h
  | loadingName load path => cases h
  | openedName load path outcome => cases h
  | closingName load failure => cases h

/-- A script whose next action is put off stands at a closed gate, in a module or not. -/
theorem returned_of_begin {action : Action}
    (shaped : Shaped (.script role (action :: rest) :: below))
    (free : ¬ HeldInModule w (.script role (action :: rest) :: below))
    (h : begin w role (.script role rest :: below) action = none) :
    Returned (.script role (action :: rest) :: below) := by
  obtain ⟨id, rfl, closed⟩ := begin_eq_none h
  cases role with
  | init pending => exact absurd closed free
  | teardown handle => exact absurd closed free
  | program => exact ⟨_, by rw [shaped.program_alone]⟩

/-- A thread that can take no turn has returned from the loader or waits in it, unless it
is held up in a module. -/
theorem returned_or_parked (shaped : thread.Shaped) (free : ¬ HeldInModule w thread)
    (stuck : thread.turn host me w = none) : thread.Returned ∨ thread.parked = true := by
  cases thread with
  | nil => cases shaped
  | cons frame below =>
    cases frame with
    | lookup key style stage => exact .inr (lookupTurn_eq_none stuck)
    | request request => cases stuck
    | closing reason todo report =>
      cases todo with
      | nil => cases reason <;> cases stuck
      | cons handle todo => cases reason <;> cases stuck
    | script role rest =>
      left
      cases rest with
      | nil =>
        cases role with
        | program => exact ⟨[], by rw [shaped.program_alone]⟩
        | init pending => cases stuck
        | teardown handle => cases stuck
      | cons action rest =>
        rw [turn_script] at stuck
        exact returned_of_begin shaped free stuck

theorem Returned.awaited? (h : thread.Returned) : thread.awaited? = none := by
  obtain ⟨rest, rfl⟩ := h
  rfl

theorem Returned.jobs (h : thread.Returned) : thread.jobs = [] := by
  obtain ⟨rest, rfl⟩ := h
  rfl

end Thread

namespace Machine

/-! ## Machines without a deadlock -/

/-- A machine is not in a deadlock, and no turn can bring it into one. -/
structure DeadlockFree (m : Machine) : Prop where
  acyclic : Waits.Acyclic m.world.state.waits
  /-- A thread that waits and has not been woken waits for the owner of a load that is
  still in progress. -/
  parked : ∀ t, (m.thread t).parked = true → ∃ job owner,
    (m.thread t).awaited? = some job ∧ m.world.state.owner? job = some owner ∧
      Waits.Edge m.world.state.waits t owner
  /-- Following the waits leads from such a thread to one that does not wait. -/
  ends : ∀ t, (m.thread t).parked = true → ∃ u < m.threads.length,
    Waits.Leads m.world.state.waits t u ∧ (∀ v, ¬ Waits.Edge m.world.state.waits u v) ∧
      (m.thread u).awaited? = none
  /-- When no thread can take a turn, and none is held up in a module, every call of the
  loader has returned. -/
  returned : ∀ host, (∀ t, m.step host t = none) →
    (∀ t, ¬ (m.thread t).HeldInModule m.world) → ∀ t < m.threads.length, (m.thread t).Returned

variable {hosts : Set Host} {modes : PerKind SearchMode} {m : Machine}

namespace Sound

/-- A thread that waits and has not been woken waits for the owner of a load in
progress. -/
theorem exists_owner (h : m.Sound) {t : ThreadId} (parked : (m.thread t).parked = true) :
    ∃ job owner, (m.thread t).awaited? = some job ∧ m.world.state.owner? job = some owner ∧
      Waits.Edge m.world.state.waits t owner := by
  obtain ⟨job, awaited⟩ := Thread.exists_awaited_of_parked parked
  obtain ⟨owner, edge, busy | ⟨woken, -⟩⟩ := h.coherent.waiting.exists_edge awaited
  · exact ⟨job, owner, awaited, busy, edge⟩
  · rw [parked] at woken
    cases woken

/-- A thread with a wait has not returned from the loader. -/
theorem not_returned_of_edge (h : m.Sound) {t u : ThreadId}
    (edge : Waits.Edge m.world.state.waits t u) : ¬ (m.thread t).Returned := by
  intro returned
  obtain ⟨job, awaited, -⟩ := h.coherent.waiting.exists_awaited edge
  rw [returned.awaited?] at awaited
  cases awaited

/-- The chain of waits that begins at a thread that waits ends at one that does not. -/
theorem exists_end (h : m.Sound) {t owner : ThreadId}
    (edge : Waits.Edge m.world.state.waits t owner) :
    ∃ u < m.threads.length, Waits.Leads m.world.state.waits t u ∧
      (∀ v, ¬ Waits.Edge m.world.state.waits u v) ∧ (m.thread u).awaited? = none := by
  obtain ⟨u, chain, last⟩ := h.coherent.waiting.acyclic.exists_end t
  have free : ∀ v, ¬ Waits.Edge m.world.state.waits u v := fun v edge' => by
    rw [show Assoc.find? u m.world.state.waits = some v from edge'] at last
    cases last
  refine ⟨u, ?_, chain, free, ?_⟩
  · rcases Relation.ReflTransGen.cases_tail chain with rfl | ⟨v, -, edge'⟩
    · exact absurd edge (free owner)
    · exact h.known v u edge'
  · have waits := h.coherent.waiting.isSome u
    rw [last] at waits
    simpa using waits.symm

/-- When no thread can take a turn, every call of the loader has returned: a thread that
still waited would lead to one that waits for the owner of a load in progress, and that
owner would neither have returned nor wait. -/
theorem returned_of_stuck (h : m.Sound) {host : Host} (stuck : ∀ t, m.step host t = none)
    (free : ∀ t, ¬ (m.thread t).HeldInModule m.world) {t : ThreadId}
    (exists' : t < m.threads.length) : (m.thread t).Returned := by
  have idle : ∀ u < m.threads.length, (m.thread u).Returned ∨ (m.thread u).parked = true := by
    intro u hu
    exact Thread.returned_or_parked (h.shaped u hu) (free u) (turn_of_step_eq_none hu (stuck u))
  rcases idle t exists' with returned | parked
  · exact returned
  · exfalso
    obtain ⟨job, owner, -, -, edge⟩ := h.exists_owner parked
    obtain ⟨u, hu, chain, last, awake⟩ := h.exists_end edge
    obtain rfl | ⟨v, -, edge'⟩ := Relation.ReflTransGen.cases_tail chain
    · exact last owner edge
    · -- The last thread before the end waits for a load that the end carries out.
      have hv : v < m.threads.length := by
        by_contra outside
        obtain ⟨job, awaited, -⟩ := h.coherent.waiting.exists_awaited edge'
        rw [thread_eq_nil (Nat.le_of_not_lt outside)] at awaited
        cases awaited
      have parked' := (idle v hv).resolve_left (h.not_returned_of_edge edge')
      obtain ⟨job', owner', -, busy, edge''⟩ := h.exists_owner parked'
      obtain rfl := edge'.unique edge''
      have mine := (h.coherent.owned.iff job' u).1 busy
      rcases idle u hu with returned | parked''
      · rw [returned.jobs] at mine
        exact List.not_mem_nil mine
      · obtain ⟨job'', awaited⟩ := Thread.exists_awaited_of_parked parked''
        rw [awake] at awaited
        cases awaited

end Sound

/-- No reachable machine is in a deadlock. -/
theorem Reachable.deadlockFree (h : Reachable hosts modes m) : m.DeadlockFree where
  acyclic := h.sound.coherent.waiting.acyclic
  parked _ parked := h.sound.exists_owner parked
  ends _ parked := by
    obtain ⟨_, _, -, -, edge⟩ := h.sound.exists_owner parked
    exact h.sound.exists_end edge
  returned _ stuck free _ exists' := h.sound.returned_of_stuck stuck free exists'

/-- A machine in which one thread loads a name, its module held up at a gate, and another
thread waits for that load. -/
def waitingPair : Machine :=
  let lookup : Script := [.request (.tryGet ⟨.filter, "a"⟩)]
  let host : Host :=
    ⟨⟨fun _ _ => ⟨⟨[]⟩, true⟩, fun _ => []⟩, ⟨fun _ => .run [.gate "open"] none (.run [] none)⟩,
      .release⟩
  (((Machine.initial (.ofFn fun _ => .byName)).spawn lookup).spawn lookup).run host
    [0, 0, 0, 0, 1, 1, 1]

theorem deadlockFree_waitingPair :
    (waitingPair.thread 1).parked = true ∧ waitingPair.DeadlockFree := by
  have reached : Reachable Set.univ (.ofFn fun _ => .byName) waitingPair :=
    ((Reachable.initial.spawn _).spawn _).run (Set.mem_univ _) _
  exact ⟨rfl, reached.deadlockFree⟩

end Machine
end PluginHost
