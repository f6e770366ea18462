import PluginHost.Proofs.ClosingOrder
import PluginHost.Proofs.NameOutcome
import PluginHost.Proofs.Shutdown

/-!
# Shutting down while modules call back

A shutdown closes the open modules one after the other, and a module that is closed may run a script
that calls the loader again: it may look names up, register and take out, ask, and shut the loader
down once more.  The loader is shut down already by then, so every such call is over at once, and
the shutdown goes on with the next module, also when one fails to close.

Main results:

- Theorem `Thread.serve_of_down`: after shutdown a call that asks for a change changes nothing.
- Theorem `Machine.ShuttingDown.goesOn`: a turn of its thread goes on with a shutdown.
- Theorem `Machine.Traced.shutdown`: a shutdown goes on until it has closed its modules.
- Theorem `Machine.Traced.shutdownOutcome`: what a shutdown comes to, whatever its modules do.
-/

namespace PluginHost

/-! ## Calls after shutdown -/

/-- What a call that asks for a change is told after shutdown: a registration under a name and a
removal are refused, and another shutdown has nothing to report. -/
def Request.denial? : Request → Option Reply
  | .register key _ => if key.name.isEmpty then none else some (.done (.error .shutDown))
  | .unregister _ => some (.done (.error .shutDown))
  | .shutdown => some (.report .zero)
  | _ => none

namespace Thread

variable {w : World} {request : Request} {reply : Reply}

/-- After shutdown a call that asks for a change is over at once and changes nothing. -/
theorem serve_of_down (down : w.state.handles = none) (empty : w.state.registry = .empty)
    (denied : request.denial? = some reply) (host : Host) (role : Role) (rest : Script)
    (frames : Thread) :
    ∃ wakes, serve host w (.script role rest :: frames) request =
      ⟨.script role rest :: frames, w, role.events reply, wakes⟩ := by
  have shut : w.state.isShutDown = true := by rw [LoaderState.isShutDown, down]; rfl
  have closed : w.state.close = w.state := by
    rw [LoaderState.close, Registry.clear, ← empty, ← down]
  cases request with
  | register key payload =>
    simp only [Request.denial?, Option.ite_none_left_eq_some, Option.some_inj] at denied
    obtain ⟨named, rfl⟩ := denied
    exact ⟨false, by simp [serve, register, named, shut, answer]⟩
  | unregister key =>
    cases denied
    exact ⟨false, by simp [serve, unregister, shut, answer]⟩
  | shutdown =>
    cases denied
    exact ⟨true, by simp [serve, shutDown, down, closed, answer]⟩
  | get _ | tryGet _ | registrar _ | names _ | mode _ | moduleCount | isShutDown | policy | drop =>
    cases denied

/-- A shutdown closes modules on a thread, above the given frames. -/
def ShutsDown (thread below : Thread) : Prop :=
  ∃ upper left report, thread = upper ++ .closing .shutdown left report :: below

end Thread

namespace Machine

variable {hosts : Set Host} {modes : PerKind SearchMode} {m next : Machine}
  {history later earlier : History} {host : Host} {t : ThreadId} {first step : Step} {role : Role}
  {rest : Script} {frames : Thread} {set : HandleSet} {request : Request} {reply : Reply}

/-! ## Calls after shutdown -/

/-- In a step a call of the loader is over at once: its script goes on and is told a reply, and
nothing has changed. -/
structure Step.Denies (step : Step) (role : Role) (rest : Script) (frames : Thread)
    (reply : Reply) : Prop where
  back : step.after.thread step.thread = .script role rest :: frames
  told : step.Emits (role.events reply)
  world : step.after.world = step.before.world

/-- After shutdown a call that asks for a change is denied. -/
theorem Traced.denies (h : Traced hosts modes step.before earlier)
    (taken : step.before.step host step.thread = some step.after)
    (down : step.before.world.state.isShutDown = true)
    (top : step.before.thread step.thread = .request request :: .script role rest :: frames)
    (denied : request.denial? = some reply) : step.Denies role rest frames reply := by
  have none := Option.isNone_iff_eq_none.1 down
  obtain ⟨-, turn, turned, world, threads, trace⟩ := step_eq taken
  obtain ⟨wakes, serves⟩ :=
    Thread.serve_of_down none (h.registry_eq_clear down) denied host role rest frames
  rw [top] at turned
  obtain rfl := (Option.some.inj turned).symm.trans serves
  refine ⟨?_, trace, world⟩
  rw [threads, moved_self]
  exact Thread.wakeIf_of_calm rfl

/-! ## The course of a shutdown -/

/-- The steps of one thread. -/
def History.by (t : ThreadId) (history : History) : History :=
  history.filter fun step => step.thread = t

theorem History.by_cons (mine : step.thread = t) (history : History) :
    History.by t (step :: history) = step :: history.by t :=
  List.filter_cons_of_pos (by simpa using mine)

theorem History.by_cons_of_ne (other : step.thread ≠ t) (history : History) :
    History.by t (step :: history) = history.by t :=
  List.filter_cons_of_neg (by simpa using other)

/-- Where a shutdown stands that a thread has begun: some of the modules of the set are closed,
those at its end, and the thread goes on with the others. -/
structure ShuttingDown (t : ThreadId) (set : HandleSet) (below : Thread) (m : Machine)
    (during : History) (upper : Thread) (left : List Handle) (report : ReleaseReport) : Prop where
  tears : upper.TearsDown
  stack : m.thread t = upper ++ .closing .shutdown left report :: below
  order : (during.by t).released.reverse ++ left = set.reverse
  tally : report.tally (upper.underway ++ left) = set.report .release
  stands : ∀ step ∈ during, (step.before.thread t).ShutsDown below

/-- A shutdown is over in the last of some steps: the thread has closed the modules of the set in
these steps, the last one first, and the script that has called goes on and is told the report. -/
structure HasShutDown (t : ThreadId) (set : HandleSet) (role : Role) (rest : Script)
    (frames : Thread) (last : Step) (during : History) : Prop where
  mine : last.thread = t
  closed : (during.by t).released = set
  stands : ∀ step ∈ last :: during,
    (step.before.thread t).ShutsDown (.script role rest :: frames)
  back : last.after.thread t = .script role rest :: frames
  told : last.Emits (role.events (.report (set.report .release)))

/-- A shutdown that a thread has begun goes on, or it is over. -/
inductive Shutdown (t : ThreadId) (set : HandleSet) (role : Role) (rest : Script) (frames : Thread)
    (m : Machine) (later : History) : Prop
  | going {upper : Thread} {left : List Handle} {report : ReleaseReport}
      (going : ShuttingDown t set (.script role rest :: frames) m later upper left report)
  | ended {recent during : History} {last : Step} (split : later = recent ++ last :: during)
      (ended : HasShutDown t set role rest frames last during)

/-- A shutdown that is called while modules are open begins to close them, the last one first. -/
theorem closing_of_shutdown {below : Thread} (taken : m.step host t = some next)
    (top : m.thread t = .request .shutdown :: below) (open' : m.world.state.handles = some set)
    (releases : host.policy = .release) :
    next.thread t = .closing .shutdown set.reverse .zero :: below := by
  obtain ⟨-, turn, turned, -, threads, -⟩ := step_eq taken
  have shuts : Thread.turn host t m.world (.request .shutdown :: below) =
      some ⟨.closing .shutdown set.reverse .zero :: below,
        { m.world with state := m.world.state.close }, [.notice (.shuttingDown set.length)],
        true⟩ := by
    simp only [Thread.turn, Thread.serve, Thread.shutDown, open', releases]
    rfl
  rw [top, shuts, Option.some_inj] at turned
  rw [threads, moved_self, ← turned]
  rfl

/-- A turn of the thread goes on with the shutdown. -/
theorem ShuttingDown.goesOn {during : History} {upper : Thread} {left : List Handle}
    {report : ReleaseReport}
    (going : ShuttingDown t set (.script role rest :: frames) m during upper left report)
    (sound : m.Sound) (taken : m.step host t = some next)
    (down : m.world.state.isShutDown = true) :
    Shutdown t set role rest frames next (⟨m, t, next⟩ :: during) := by
  obtain ⟨tears, stack, order, tally, stands⟩ := going
  obtain ⟨-, turn, turned, -⟩ := step_eq taken
  have takes := takes_of_turn sound taken turned
  have effect := takes.effect
  have after := takes.thread_self
  have stands' : ∀ step ∈ (⟨m, t, next⟩ :: during : History),
      (step.before.thread t).ShutsDown (.script role rest :: frames) :=
    List.forall_mem_cons.2 ⟨⟨upper, left, report, stack⟩, stands⟩
  have closed : (History.by t (⟨m, t, next⟩ :: during)).released.reverse =
      (during.by t).released.reverse ++ (m.thread t).released := by
    rw [History.by_cons (rfl : (⟨m, t, next⟩ : Step).thread = t), History.released_reverse_cons]
  rw [stack] at effect turned closed
  cases effect.dismantles turned tears down with
  | @goesOn upper' left' report' tears' stack' order' tally' =>
    refine .going ⟨tears', ?_, ?_, tally'.trans tally, stands'⟩
    · rw [after, stack', tears'.wakeIf]
    · rw [closed, List.append_assoc, ← order', order]
  | ends idle none reports =>
    subst idle none reports
    refine .ended (List.nil_append _).symm ⟨rfl, ?_, stands', ?_, ?_⟩
    · rwa [List.append_nil, List.reverse_inj] at order
    · exact after.trans (Thread.wakeIf_of_calm rfl)
    · rw [← tally]
      exact takes.trace

/-- A shutdown that a thread has begun goes on until it is over. -/
theorem Traced.shutdown (h : Traced hosts modes m (later ++ first :: earlier))
    (top : first.before.thread first.thread = .request .shutdown :: .script role rest :: frames)
    (open' : first.before.world.state.handles = some set)
    (releases : ∀ host ∈ hosts, host.policy = .release) :
    Shutdown first.thread set role rest frames m later := by
  obtain ⟨before, host, mem, taken⟩ := h.split
  have called : first.call? = some .shutdown := by
    rw [Step.call?, top]
    rfl
  have began := closing_of_shutdown taken top open' (releases host mem)
  refine h.since (P := Shutdown first.thread set role rest frames) ?_ ?_ ?_
  · intro m traced
    have there : first.after.thread first.thread ≠ [] := by simp [began]
    refine .going ⟨.idle, ?_, rfl, rfl, List.forall_mem_nil _⟩
    rw [traced.thread_of_ne_nil there, began]
    rfl
  · intro m next later shutdown untouched
    cases shutdown with
    | ended split ended => exact .ended split ended
    | going going =>
      obtain ⟨tears, stack, order, tally, stands⟩ := going
      have there : m.thread first.thread ≠ [] := by simp [stack]
      refine .going ⟨tears, ?_, order, tally, stands⟩
      rw [untouched.thread_of_ne_nil there, stack]
  · intro m next later host me turn traced shutdown _ takes
    cases shutdown with
    | @ended recent during last split ended =>
      subst split
      exact .ended (List.cons_append ..).symm ended
    | @going upper left report going =>
      by_cases mine : me = first.thread
      · subst mine
        exact going.goesOn traced.reachable.sound takes.taken
          (traced.isShutDown_iff.2 (History.mem_calls_of_call? called _ _))
      · obtain ⟨tears, stack, order, tally, stands⟩ := going
        refine .going ⟨tears, ?_, ?_, tally, List.forall_mem_cons.2 ⟨?_, stands⟩⟩
        · rw [takes.thread_of_ne (Ne.symm mine), stack, tears.wakeIf]
        · rwa [History.by_cons_of_ne mine]
        · exact ⟨upper, left, report, stack⟩

/-- A shutdown does not go on when no thread can and none is held up in a module. -/
theorem Traced.over_of_stuck (h : Traced hosts modes m history)
    (shutdown : Shutdown t set role rest frames m later) (stuck : ∀ t, m.step host t = none)
    (free : ∀ t, ¬ (m.thread t).HeldInModule m.world) :
    ∃ recent last during, later = recent ++ last :: during ∧
      HasShutDown t set role rest frames last during := by
  cases shutdown with
  | @ended recent during last split ended => exact ⟨recent, last, during, split, ended⟩
  | @going upper left report going =>
    have stack := going.stack
    have there : t < m.threads.length := by
      refine not_le.1 fun outside => ?_
      rw [thread_eq_nil outside] at stack
      simp at stack
    obtain ⟨rest, returned⟩ := h.reachable.sound.returned_of_stuck stuck free there
    rw [returned] at stack
    have length := congrArg List.length stack
    simp at length
    omega

/-! ## The contract -/

/-- What a shutdown comes to that a thread calls while the set of modules is open, whatever the
modules do while they are closed.  It closes the modules of the set, the last one first, and goes on
until it is over, which it is when no thread can go on and none is held up in a module; then it has
closed all of them, each once, and reports how many closed and how many failed to.  Since it began
nothing is registered, and what asks for a change is told so: a lookup of a name is turned away, a
registration and a removal are refused, and another shutdown closes nothing and reports nothing. -/
structure ShutdownOutcome (hosts : Set Host) (m : Machine) (later earlier : History) (first : Step)
    (set : HandleSet) (role : Role) (rest : Script) (frames : Thread) : Prop where
  course : Shutdown first.thread set role rest frames m later
  returns : ∀ host, (∀ t, m.step host t = none) → (∀ t, ¬ (m.thread t).HeldInModule m.world) →
    ∃ recent last during, later = recent ++ last :: during ∧
      HasShutDown first.thread set role rest frames last during
  once : ∀ handle ∈ History.released (later ++ first :: earlier),
    (History.released (later ++ first :: earlier)).count handle = 1
  report : set.report .release =
    ⟨set.countP HandleSet.closes, set.countP fun handle => !HandleSet.closes handle, 0⟩
  total : (set.report .release).released + (set.report .release).failed =
    first.before.world.state.moduleCount
  empty : ∀ step ∈ later, step.before.world.state.registry = .empty ∧
    step.after.world.state.registry = .empty
  turnsAway : ∀ step ∈ later, ∀ key style below, key.name.isEmpty = false →
    step.before.thread step.thread = .lookup key style .entering :: below →
      step.TurnsAway hosts key style below
  denies : ∀ step ∈ later, ∀ request role rest frames reply, request.denial? = some reply →
    step.before.thread step.thread = .request request :: .script role rest :: frames →
      step.Denies role rest frames reply

/-- A shutdown that is called while modules are open has this outcome. -/
theorem Traced.shutdownOutcome (h : Traced hosts modes m (later ++ first :: earlier))
    (top : first.before.thread first.thread = .request .shutdown :: .script role rest :: frames)
    (open' : first.before.world.state.handles = some set)
    (releases : ∀ host ∈ hosts, host.policy = .release) :
    ShutdownOutcome hosts m later earlier first set role rest frames := by
  have course := h.shutdown top open' releases
  have called : first.call? = some .shutdown := by
    rw [Step.call?, top]
    rfl
  -- Every later step is taken after this shutdown.
  have shut : ∀ step ∈ later, ∃ before, Traced hosts modes step.before before ∧
      .shutdown ∈ History.calls before ∧
        ∃ host ∈ hosts, step.before.step host step.thread = some step.after := by
    intro step mem
    obtain ⟨recent, during, rfl⟩ := List.append_of_mem mem
    rw [List.append_assoc, List.cons_append] at h
    obtain ⟨before, taken⟩ := h.split
    exact ⟨_, before, History.mem_calls_of_call? called _ _, taken⟩
  constructor
  · exact course
  · exact fun host stuck free => h.over_of_stuck course stuck free
  · exact fun handle mem => (h.released_once releases mem).1
  · exact set.report_release
  · rw [set.report_release, LoaderState.moduleCount, open']
    simpa using (List.length_eq_countP_add_countP HandleSet.closes (l := set)).symm
  · intro step mem
    obtain ⟨before, traced, down, host, mem, taken⟩ := shut step mem
    have after : Traced hosts modes step.after (step :: before) := traced.step mem taken
    refine ⟨traced.registry_eq_clear (traced.isShutDown_iff.2 down),
      after.registry_eq_clear (after.isShutDown_iff.2 ?_)⟩
    rw [History.calls_cons]
    exact List.mem_append_right _ down
  · intro step mem key style below named top
    obtain ⟨before, traced, down, host, mem, taken⟩ := shut step mem
    exact traced.turnsAway mem taken (traced.isShutDown_iff.2 down) named top
  · intro step mem request role rest frames reply denied top
    obtain ⟨before, traced, down, host, -, taken⟩ := shut step mem
    exact traced.denies taken (traced.isShutDown_iff.2 down) top denied

/-- A host with two modules.  When the first one is closed, its script looks up a name, registers
one, takes one out, shuts the loader down, and fails. -/
def stubbornHost : Host :=
  let registers (name : String) : Script := [.registrar (.checked ⟨.filter, name⟩ (.word 7))]
  let opening (path : Path) : Opening :=
    if path = .ofText "a" then
      .run (registers "a") none (.run [.request (.tryGet ⟨.filter, "c"⟩),
        .request (.register ⟨.filter, "d"⟩ (.word 7)), .request (.unregister ⟨.filter, "b"⟩),
        .request .shutdown] (some (.loadFailed path "busy")))
    else .run (registers "b") none (.run [] none)
  ⟨⟨fun _ name => ⟨.ofText name, true⟩, fun _ => []⟩, ⟨opening⟩, .release⟩

/-- A thread loads both modules and shuts the loader down. -/
def stubbornRun : Machine × History :=
  ((Machine.initial (.ofFn fun _ => .byName)).spawn
    [.request (.tryGet ⟨.filter, "a"⟩), .request (.tryGet ⟨.filter, "b"⟩),
      .request .shutdown]).runWith History.note stubbornHost (List.replicate 40 0) []

/-- The step in which the loader is shut down. -/
def stubbornShutdown : Step :=
  (stubbornRun.2[14]?).getD ⟨stubbornRun.1, 0, stubbornRun.1⟩

theorem traced_stubbornRun :
    Traced {stubbornHost} (.ofFn fun _ => .byName) stubbornRun.1
      (stubbornRun.2.take 14 ++ stubbornShutdown :: stubbornRun.2.drop 15) := by
  have split : stubbornRun.2.take 14 ++ stubbornShutdown :: stubbornRun.2.drop 15 =
      stubbornRun.2 := by
    rfl
  rw [split]
  exact (Recorded.initial.spawn _).runWith (Set.mem_singleton stubbornHost) _

/-- Both modules have been closed, and one of them failed to; its script was turned away. -/
theorem shutdownOutcome_stubbornRun :
    ∃ set rest,
      stubbornShutdown.before.thread stubbornShutdown.thread =
        .request .shutdown :: .script .program rest :: [] ∧
      stubbornShutdown.before.world.state.handles = some set ∧
      (∀ host ∈ ({stubbornHost} : Set Host), host.policy = .release) ∧
      ShutdownOutcome {stubbornHost} stubbornRun.1 (stubbornRun.2.take 14) (stubbornRun.2.drop 15)
        stubbornShutdown set .program rest [] ∧
      set.map Handle.serial = [0, 1] ∧
      (0, .returned (.report ⟨1, 1, 0⟩)) ∈ stubbornRun.1.trace ∧
      stubbornRun.1.thread 0 = [.script .program []] := by
  have releases : ∀ host ∈ ({stubbornHost} : Set Host), host.policy = .release := by
    intro host mem
    rw [Set.mem_singleton_iff.1 mem]
    rfl
  refine ⟨stubbornShutdown.before.world.state.openModules, [], by rfl, by rfl, releases, ?_, by rfl,
    ?_, by rfl⟩
  · exact traced_stubbornRun.shutdownOutcome (by rfl) (by rfl) releases
  · exact List.mem_of_getElem? (i := 0) rfl

end Machine
end PluginHost
