import PluginHost.Proofs.Directory

/-!
# Modules that are left open

A loader whose policy is to leave modules open closes none of its handle set when it is shut
down.  The modules of loads that are in progress at that time are in no handle set, and are
closed by their loads all the same, whatever the policy.

Main results:

- Theorem `Thread.Effect.taken_of_skip`: no shutdown has modules to close.
- Theorem `Thread.Effect.openModules_of_skip`: what is in the handle set stays there until it is
  left open for good.
- Theorem `Machine.Traced.not_released`: no module that was ever in the handle set is closed.
- Theorem `Machine.Traced.released_since`: from shutdown on exactly the modules of loads are closed.
- Theorem `Machine.Traced.leftOpen`: which modules are closed, and which are left open.
- Theorem `Machine.exists_closed_after_shutdown`: a module is closed although all are to be left
  open.
-/

namespace PluginHost

namespace Thread

/-! ## Turns -/

variable {host : Host} {me : ThreadId} {w : World} {turn : Turn} {thread below : Thread}
  {handle : Handle}

/-- No shutdown has modules to close if they are to be left open. -/
theorem Effect.taken_of_skip (h : Effect host me w turn thread) (skip : host.policy = .skip)
    (idle : thread.taken = []) : turn.thread.taken = [] := by
  cases h with
  | act back _ =>
    rw [back]
    exact idle
  | call request called _ =>
    rw [called]
    exact idle
  | seek key style _ began _ =>
    rw [began]
    exact idle
  | serve _ back _ _ =>
    rw [back]
    exact idle
  | shut _ back _ _ _ _ =>
    rw [back]
    exact idle
  | release _ _ _ _ _ _ policy =>
    rw [skip] at policy
    cases policy
  | init pending script _ began _ =>
    rw [began]
    exact idle
  | refused failure _ told _ =>
    rw [told]
    exact idle
  | opened _ told _ _ _ _ =>
    rw [told]
    exact idle
  | @locked key style stage below ran _ eq =>
    rw [eq, (held_afterSection w key style below ran).2]
    exact idle
  | @close reason handle todo report below upper report' script closes _ =>
    have rest : taken (.closing reason todo report' :: below) = [] := by
      cases reason with
      | shutdown => exact absurd idle (List.cons_ne_nil _ _)
      | discard => exact idle
    rw [closes]
    rcases script with rfl | ⟨script, rfl⟩
    · exact rest
    · exact rest
  | @closed handle reason todo report below report' back _ =>
    rw [back]
    cases reason with
    | shutdown => exact idle
    | discard => exact idle
  | @finish reason report below back _ =>
    rw [back]
    cases reason with
    | shutdown => exact idle
    | discard => exact idle

/-- A module that is closed is given up by the load that it is in the hands of, unless a shutdown
closes it. -/
theorem exists_held_of_released (idle : thread.taken = []) (mem : handle ∈ thread.released) :
    ∃ load, (load, handle) ∈ thread.held := by
  unfold released at mem
  split at mem
  · next reason other todo report below =>
    cases reason with
    | shutdown => exact absurd idle (List.cons_ne_nil _ _)
    | discard =>
      rw [List.mem_singleton.1 mem]
      exact ⟨load? below, List.mem_cons_self⟩
  · cases mem

/-- What is in the handle set stays there, or is left open for good. -/
theorem Effect.openModules_of_skip (h : Effect host me w turn thread) (skip : host.policy = .skip)
    (mem : handle ∈ w.state.openModules) :
    handle ∈ turn.world.state.openModules ∨ handle ∈ thread.abandoned .skip w.state := by
  have still : turn.world.state.handles = w.state.handles →
      handle ∈ turn.world.state.openModules := by
    intro same
    rw [LoaderState.openModules, same]
    exact mem
  cases h with
  | act _ mild => exact .inl (still (by rw [mild.state]))
  | call _ _ mild => exact .inl (still (by rw [mild.state]))
  | seek _ _ _ _ mild => exact .inl (still (by rw [mild.state]))
  | init _ _ _ _ mild => exact .inl (still (by rw [mild.state]))
  | refused _ _ _ mild => exact .inl (still (by rw [mild.state]))
  | close _ _ _ _ mild => exact .inl (still (by rw [mild.state]))
  | closed _ _ mild => exact .inl (still (by rw [mild.state]))
  | finish _ mild => exact .inl (still (by rw [mild.state]))
  | opened _ _ _ state _ _ => exact .inl (still (by rw [state]))
  | @serve request _ _ _ _ world =>
    refine .inl (still ?_)
    rw [world]
    exact served_handles w.state request
  | shut down _ _ _ _ _ =>
    refine .inr ?_
    rw [abandoned, down]
    simpa using mem
  | release _ _ _ _ _ _ policy =>
    rw [skip] at policy
    cases policy
  | locked ran runs eq =>
    have accounts := Section.accounts runs
    rw [eq, afterSection_world]
    refine .inl ?_
    rcases accounts.same with none | ⟨same, -⟩
    · have conserved := accounts.conserved
      rw [none] at conserved
      exact conserved.subset (List.mem_append_right _ mem)
    · have conserved := accounts.conserved
      rw [same] at conserved
      exact ((List.perm_append_left_iff _).1 conserved).subset mem

end Thread

namespace Machine

/-! ## Histories -/

variable {hosts : Set Host} {modes : PerKind SearchMode} {m : Machine}
  {history recent earlier : History} {t : ThreadId} {step shut : Step} {handle : Handle}

namespace Traced

/-- No module was opened twice. -/
theorem nodup_opened (h : Traced hosts modes m history) :
    (history.opened.map Opened.handle).Nodup := by
  have serials : ((history.opened.map Opened.handle).map Handle.serial).Nodup := by
    rw [List.map_map]
    have numbered := h.serials
    rw [show Handle.serial ∘ Opened.handle = fun opened => opened.handle.serial from rfl, numbered,
      List.nodup_reverse]
    exact List.nodup_range
  exact serials.of_map

section skip

variable (h : Traced hosts modes m history) (skip : ∀ host ∈ hosts, host.policy = .skip)
include h skip

theorem taken_eq_nil (t : ThreadId) : (m.thread t).taken = [] := by
  refine h.invariant (P := fun m _ => ∀ t, (m.thread t).taken = []) ?_ ?_ ?_ t
  · intro t
    rw [thread_eq_nil (Nat.zero_le t)]
    rfl
  · intro m next _ idle untouched t
    rcases untouched.thread t with same | ⟨-, script, started⟩
    · rw [same]
      exact idle t
    · rw [started]
      rfl
  · intro m next _ host me turn _ idle mem takes t
    by_cases ht : t = me
    · subst ht
      rw [takes.thread_self, Thread.taken_wakeIf]
      exact takes.effect.taken_of_skip (skip host mem) (idle t)
    · rw [takes.thread_of_ne ht, Thread.taken_wakeIf]
      exact idle t

/-- The handle set is behind the lock: no shutdown has taken it out to close its modules. -/
theorem kept_eq : m.kept = m.world.state.openModules := by
  have none : m.threads.flatMap Thread.taken = [] := by
    refine List.flatMap_eq_nil_iff.2 fun thread mem => ?_
    obtain ⟨t, lt, rfl⟩ := List.getElem_of_mem mem
    have idle := h.taken_eq_nil skip t
    simpa [Machine.thread, List.getElem?_eq_getElem lt] using idle
  rw [Machine.kept, none, List.append_nil]

/-- What was ever in the handle set is there still, or has been left open for good. -/
theorem kept_since (mem : step ∈ history) (kept : handle ∈ step.before.world.state.openModules) :
    handle ∈ m.world.state.openModules ∨ handle ∈ history.abandoned .skip := by
  refine h.invariant (P := fun m history => ∀ step ∈ history,
    ∀ handle ∈ step.before.world.state.openModules,
      handle ∈ m.world.state.openModules ∨ handle ∈ history.abandoned .skip) ?_ ?_ ?_
      step mem handle kept
  · intro step mem
    cases mem
  · intro m next history since untouched
    rwa [untouched.state]
  · intro m next history host me turn _ since mem takes step among handle kept
    have stays : handle ∈ m.world.state.openModules → handle ∈ next.world.state.openModules ∨
        handle ∈ History.abandoned .skip (⟨m, me, next⟩ :: history) := by
      intro kept
      rw [takes.world]
      rcases takes.effect.openModules_of_skip (skip host mem) kept with still | left
      · exact .inl still
      · exact .inr (List.mem_append_left _ left)
    rcases List.mem_cons.1 among with rfl | old
    · exact stays kept
    · rcases since step old handle kept with still | left
      · exact stays still
      · exact .inr (List.mem_append_right _ left)

/-- No module that was ever in the handle set is closed. -/
theorem not_released (mem : step ∈ history)
    (kept : handle ∈ step.before.world.state.openModules) : handle ∉ history.released := by
  have balance := h.balance skip
  rw [h.kept_eq skip] at balance
  have once := balance.nodup_iff.1 h.nodup_opened
  rw [List.nodup_append, List.nodup_append] at once
  obtain ⟨⟨-, -, apart⟩, -, apart'⟩ := once
  intro closed
  rcases h.kept_since skip mem kept with still | left
  · exact apart handle (List.mem_append_right _ still) handle closed rfl
  · exact apart' handle (List.mem_append_right _ closed) handle left rfl

/-- Whoever closes a module is the load in whose hands it is. -/
theorem closer (mem : step ∈ history)
    (closed : handle ∈ (step.before.thread step.thread).released) :
    ∃ load, (load, handle) ∈ (step.before.thread step.thread).held := by
  obtain ⟨later, earlier, rfl⟩ := List.append_of_mem mem
  have idle := h.split.1.taken_eq_nil skip step.thread
  exact Thread.exists_held_of_released idle closed

end skip

/-- After shutdown no module is left open that was not left open then. -/
theorem abandoned_since (h : Traced hosts modes m (recent ++ earlier))
    (down : .shutdown ∈ History.calls earlier) (policy : ReleasePolicy) :
    recent.abandoned policy = [] := by
  refine List.flatMap_eq_nil_iff.2 fun step mem => ?_
  obtain ⟨later, middle, rfl⟩ := List.append_of_mem mem
  rw [List.append_assoc, List.cons_append] at h
  have before := h.split.1
  have still : .shutdown ∈ History.calls (middle ++ earlier) := by
    rw [History.calls_append]
    exact List.mem_append_right _ down
  have none := LoaderState.openModules_of_shutDown (before.isShutDown_iff.2 still)
  unfold Thread.abandoned
  split
  · rw [none]
    exact ite_self []
  · rfl

/-- From shutdown on exactly the modules of loads are closed: those that loads had in their hands
then, and those that they opened later. -/
theorem released_since (h : Traced hosts modes m (recent ++ shut :: earlier))
    (skip : ∀ host ∈ hosts, host.policy = .skip) (down : shut.call? = some .shutdown) :
    (recent.released ++ m.held).Perm (shut.after.held ++ recent.opened.map Opened.handle) := by
  have called : .shutdown ∈ History.calls (shut :: earlier) := by
    rw [History.calls_cons, down]
    exact List.mem_cons_self
  have cut := h.after
  have now : .shutdown ∈ History.calls (recent ++ shut :: earlier) := by
    rw [History.calls_append]
    exact List.mem_append_right _ called
  have balance := h.balance skip
  have balance' := cut.balance skip
  rw [h.kept_eq skip, LoaderState.openModules_of_shutDown (h.isShutDown_iff.2 now), History.opened_append,
    History.released_append, History.abandoned_append, h.abandoned_since called] at balance
  rw [cut.kept_eq skip, LoaderState.openModules_of_shutDown (cut.isShutDown_iff.2 called)] at balance'
  refine List.perm_iff_count.2 fun handle => ?_
  have counted := balance.count_eq handle
  have counted' := balance'.count_eq handle
  simp only [List.map_append, List.count_append, List.count_nil] at counted counted' ⊢
  omega

end Traced

/-! ## The contract -/

/-- What becomes of the modules of a loader that is to leave them open.  No shutdown has modules
to close, and no module that was ever in the handle set is closed.  Whoever closes a module is
the load in whose hands it is: from a shutdown on the modules are closed that loads had in their
hands then or opened later, all of them once the calls have returned. -/
structure LeftOpen (m : Machine) (history : History) : Prop where
  idle : ∀ t, (m.thread t).taken = []
  kept : ∀ step ∈ history, ∀ handle ∈ step.before.world.state.openModules,
    handle ∉ history.released
  closer : ∀ step ∈ history, ∀ handle ∈ (step.before.thread step.thread).released,
    ∃ load, (load, handle) ∈ (step.before.thread step.thread).held
  late : ∀ recent earlier shut, history = recent ++ shut :: earlier →
    shut.call? = some .shutdown →
      (History.released recent ++ m.held).Perm
        (shut.after.held ++ (History.opened recent).map Opened.handle)
  ended : ∀ recent earlier shut, history = recent ++ shut :: earlier →
    shut.call? = some .shutdown → (∀ t < m.threads.length, (m.thread t).Returned) →
      (History.released recent).Perm
        (shut.after.held ++ (History.opened recent).map Opened.handle)

/-- Along every history of a loader that is to leave modules open, those of its handle set are left
open and those of loads that end after shutdown are closed. -/
theorem Traced.leftOpen (h : Traced hosts modes m history)
    (skip : ∀ host ∈ hosts, host.policy = .skip) : LeftOpen m history := by
  constructor
  · exact h.taken_eq_nil skip
  · intro step mem handle kept
    exact h.not_released skip mem kept
  · intro step mem handle closed
    exact h.closer skip mem closed
  · rintro recent earlier shut rfl down
    exact h.released_since skip down
  · rintro recent earlier shut rfl down returned
    have since := h.released_since skip down
    have now : .shutdown ∈ History.calls (recent ++ shut :: earlier) := by
      rw [History.calls_append, History.calls_cons, down]
      exact List.mem_append_right _ List.mem_cons_self
    obtain ⟨held, -⟩ := Traced.places_of_returned (h.isShutDown_iff.2 now) returned
    rwa [held, List.append_nil] at since

/-- A host that is to leave modules open, with a module that registers its name and then shuts the
loader down. -/
def partingHost : Host :=
  let init : Script := [.registrar (.checked ⟨.filter, "a"⟩ (.word 7)), .request .shutdown]
  ⟨⟨fun _ name => ⟨.ofText name, true⟩, fun _ => []⟩, ⟨fun _ => .run init none (.run [] none)⟩,
    .skip⟩

/-- A thread loads the module. -/
def partingRun : Machine × History :=
  ((Machine.initial (.ofFn fun _ => .byName)).spawn
    [.request (.tryGet ⟨.filter, "a"⟩)]).runWith History.note partingHost (List.replicate 16 0) []

theorem traced_partingRun :
    Traced {partingHost} (.ofFn fun _ => .byName) partingRun.1 partingRun.2 :=
  (Recorded.initial.spawn _).runWith (Set.mem_singleton partingHost) _

theorem policy_partingHost : ∀ host ∈ ({partingHost} : Set Host), host.policy = .skip := by
  intro host mem
  rw [Set.mem_singleton_iff.1 mem]
  rfl

/-- The module was opened by a load that ended after the shutdown, and has been closed. -/
theorem leftOpen_partingRun :
    (∀ host ∈ ({partingHost} : Set Host), host.policy = .skip) ∧
      LeftOpen partingRun.1 partingRun.2 ∧ .shutdown ∈ partingRun.2.calls ∧
        partingRun.2.released.map Handle.serial = [0] := by
  refine ⟨policy_partingHost, traced_partingRun.leftOpen policy_partingHost, ?_, by rfl⟩
  exact List.mem_of_getElem? (i := 0) rfl

/-- A module is closed after shutdown although all modules are to be left open. -/
theorem exists_closed_after_shutdown :
    ∃ (hosts : Set Host) (modes : PerKind SearchMode) (m : Machine) (history : History),
      (∀ host ∈ hosts, host.policy = .skip) ∧ Traced hosts modes m history ∧
        ∃ step ∈ history, step.before.world.state.isShutDown = true ∧
          (step.before.thread step.thread).released ≠ [] := by
  refine ⟨{partingHost}, _, partingRun.1, partingRun.2, policy_partingHost, traced_partingRun, ?_⟩
  have closes : partingRun.2.any fun step =>
      step.before.world.state.isShutDown && !(step.before.thread step.thread).released.isEmpty := by
    rfl
  obtain ⟨step, mem, closed⟩ := List.any_eq_true.1 closes
  simp only [Bool.and_eq_true, Bool.not_eq_true', List.isEmpty_eq_false_iff] at closed
  exact ⟨step, mem, closed.1, closed.2⟩

end Machine
end PluginHost
