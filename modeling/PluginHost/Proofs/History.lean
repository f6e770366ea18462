import PluginHost.Proofs.Coherence
import PluginHost.Proofs.Effect

/-!
# Histories

A history is the record of all steps that led to a machine, the latest first.  What has
ever happened is said of the steps of a history, and what such steps keep is proved by
going along it: threads that start and gates that open leave the loader alone, and every
step is a turn whose effect is known.

Main results:

- Theorem `Machine.step_takes`: what a step of a sound machine is.
- Theorem `Machine.Traced.invariant`: what holds at first and is kept along a history holds
  at its end.
- Theorem `Machine.Traced.since`: the same from a step of the history on.
- Theorem `Machine.Traced.split`: each step of a history was taken by a host, from the machine
  that the earlier steps led to.
- Theorem `Machine.Traced.of_reachable`: every reachable machine has a history.
-/

namespace PluginHost
namespace Machine

/-! ## Steps and histories -/

/-- One turn of a thread, with the machine before and after it. -/
structure Step where
  before : Machine
  thread : ThreadId
  after : Machine

/-- What can be observed of a step. -/
def Step.Emits (step : Step) (events : List Event) : Prop :=
  step.after.trace = (events.map fun event => (step.thread, event)).reverse ++ step.before.trace

/-- The steps that led to a machine, the latest first. -/
abbrev History := List Step

/-- The history with one more step. -/
def History.note (m : Machine) (me : ThreadId) (next : Machine) (history : History) : History :=
  ⟨m, me, next⟩ :: history

/-- A machine with the history that led to it. -/
abbrev Traced (hosts : Set Host) (modes : PerKind SearchMode) : Machine → History → Prop :=
  Recorded hosts modes [] History.note

/-- A machine that differs in its threads and gates only: a thread may have started. -/
structure Untouched (m next : Machine) : Prop where
  state : next.world.state = m.world.state
  serial : next.world.nextSerial = m.world.nextSerial
  dropping : next.world.dropping = m.world.dropping
  trace : next.trace = m.trace
  threads : next.threads = m.threads ∨
    ∃ script, next.threads = m.threads ++ [[.script .program script]]

/-- A thread takes a turn, which leads to another machine. -/
structure Takes (host : Host) (m : Machine) (me : ThreadId) (turn : Turn) (next : Machine) :
    Prop where
  taken : m.step host me = some next
  lt : me < m.threads.length
  effect : Thread.Effect host me m.world turn (m.thread me)
  world : next.world = turn.world
  threads : next.threads = (m.threads.set me turn.thread).map (Thread.wakeIf turn.wakes)
  trace : next.trace = (turn.events.map fun event => (me, event)).reverse ++ m.trace

/-- In a step a lookup of a key, begun by the script on top of `below`, answers with a result,
from the lock section `ran`. -/
structure Step.Answers (hosts : Set Host) (step : Step) (key : Key) (below : Thread)
    (ran : Section) (result : Except LoadError Payload) : Prop where
  runs : ∃ host ∈ hosts, step.before.step host step.thread = some step.after ∧
    ∃ style stage, step.before.thread step.thread = .lookup key style stage :: below ∧
      stage.lockSection? host step.thread key step.before.world.state = some ran
  answer : ran.next = .answer result

variable {hosts : Set Host} {modes : PerKind SearchMode} {m next : Machine} {history : History}
  {host : Host} {me t : ThreadId} {turn : Turn}

theorem Takes.thread (h : Takes host m me turn next) :
    next.thread = moved m.thread me turn.thread turn.wakes := by
  funext t
  unfold Machine.thread moved
  rw [h.threads, List.getElem?_map]
  by_cases ht : t = me
  · subst ht
    rw [List.getElem?_set_self h.lt, Function.update_self]
    rfl
  · rw [List.getElem?_set_ne (Ne.symm ht), Function.update_of_ne ht]
    cases m.threads[t]? with
    | none => cases turn.wakes <;> rfl
    | some thread => rfl

/-- The thread that took the turn has the stack that the turn left, unless it was woken. -/
theorem Takes.thread_self (h : Takes host m me turn next) :
    next.thread me = turn.thread.wakeIf turn.wakes := by
  rw [h.thread, moved_self]

/-- Any other thread has the stack that it had, unless it was woken. -/
theorem Takes.thread_of_ne (h : Takes host m me turn next) (ne : t ≠ me) :
    next.thread t = (m.thread t).wakeIf turn.wakes := by
  rw [h.thread, moved_of_ne ne]

theorem Untouched.thread (h : Untouched m next) (t : ThreadId) :
    next.thread t = m.thread t ∨
      m.thread t = [] ∧ ∃ script, next.thread t = [.script .program script] := by
  rcases h.threads with same | ⟨script, longer⟩
  · exact .inl (by rw [Machine.thread, Machine.thread, same])
  · have spawned : next.thread t = (m.spawn script).thread t := by
      rw [Machine.thread, Machine.thread, longer]
      rfl
    rw [spawned, thread_spawn]
    by_cases ht : t = m.threads.length
    · rw [ht, Function.update_self]
      exact .inr ⟨thread_eq_nil le_rfl, script, rfl⟩
    · rw [Function.update_of_ne ht]
      exact .inl rfl

theorem Untouched.length_le (h : Untouched m next) : m.threads.length ≤ next.threads.length := by
  rcases h.threads with same | ⟨script, longer⟩
  · rw [same]
  · rw [longer, List.length_append]
    exact Nat.le_add_right _ _

theorem untouched_spawn (m : Machine) (script : Script) : Untouched m (m.spawn script) :=
  ⟨rfl, rfl, rfl, rfl, .inr ⟨script, rfl⟩⟩

theorem untouched_openGate (m : Machine) (id : String) : Untouched m (m.openGate id) :=
  ⟨rfl, rfl, rfl, rfl, .inl rfl⟩

theorem takes_of_turn (sound : m.Sound) (taken : m.step host me = some next)
    (turned : (m.thread me).turn host me m.world = some turn) : Takes host m me turn next := by
  obtain ⟨lt, turn', turned', world, -, trace⟩ := step_eq taken
  rw [turned, Option.some.injEq] at turned'
  subst turned'
  refine ⟨taken, lt, Thread.turn_effect (sound.shaped me lt) turned, world, ?_, trace⟩
  have found : m.threads[me]? = some (m.thread me) := by
    simp [Machine.thread, List.getElem?_eq_getElem lt]
  simp only [step, found, turned, Option.map_some, Option.some.injEq] at taken
  rw [← taken]
  cases turn.wakes with
  | true => rfl
  | false => exact (List.map_id _).symm

/-- Every step of a sound machine is a turn with a known effect. -/
theorem step_takes (sound : m.Sound) (taken : m.step host me = some next) :
    ∃ turn, Takes host m me turn next := by
  obtain ⟨-, turn, turned, -⟩ := step_eq taken
  exact ⟨turn, takes_of_turn sound taken turned⟩

/-- A step in which a lookup runs a lock section is the turn that the section comes to. -/
theorem step_of_runs {key : Key} {style : Style} {stage : Stage} {below : Thread} {ran : Section}
    (taken : m.step host me = some next) (top : m.thread me = .lookup key style stage :: below)
    (runs : stage.lockSection? host me key m.world.state = some ran) :
    ∃ turn, Thread.afterSection m.world key style below ran = turn ∧ next.world = turn.world ∧
      next.thread = moved m.thread me turn.thread turn.wakes ∧
        next.trace = (turn.events.map fun event => (me, event)).reverse ++ m.trace := by
  obtain ⟨-, turn, turned, world, threads, trace⟩ := step_eq taken
  rw [top, Thread.turn_of_runs runs, Option.some.injEq] at turned
  exact ⟨turn, turned, world, threads, trace⟩

/-- The state after a step in which a lookup answers is the one that its section leaves. -/
theorem Step.Answers.state {step : Step} {key : Key} {below : Thread} {ran : Section}
    {result : Except LoadError Payload} (h : step.Answers hosts key below ran result) :
    step.after.world.state = ran.state := by
  obtain ⟨host, -, taken, style, stage, top, runs⟩ := h.runs
  obtain ⟨turn, turned, world, -⟩ := step_of_runs taken top runs
  rw [world, ← turned, Thread.afterSection_world]

/-- A step has one list of events. -/
theorem Step.Emits.unique {step : Step} {events events' : List Event} (h : step.Emits events)
    (h' : step.Emits events') : events = events' := by
  have same := List.reverse_injective (List.append_cancel_right (h.symm.trans h'))
  have injective : Function.Injective fun event : Event => (step.thread, event) :=
    fun _ _ eq => (Prod.mk.inj eq).2
  exact List.map_injective_iff.2 injective same

/-! ## Going along a history -/

namespace Traced

/-- What holds at first, and is kept by every change, holds of a machine with its history. -/
theorem invariant {P : Machine → History → Prop} (h : Traced hosts modes m history)
    (initial : P (.initial modes) [])
    (untouched : ∀ m next history, P m history → Untouched m next → P next history)
    (step : ∀ m next history host me turn, Traced hosts modes m history → P m history →
      host ∈ hosts → Takes host m me turn next → P next (⟨m, me, next⟩ :: history)) :
    P m history := by
  induction h with
  | initial => exact initial
  | spawn before script ih => exact untouched _ _ _ ih (untouched_spawn _ script)
  | openGate before id ih => exact untouched _ _ _ ih (untouched_openGate _ id)
  | step before mem taken ih =>
    obtain ⟨turn, takes⟩ := step_takes before.reachable.sound taken
    exact step _ _ _ _ _ turn before ih mem takes

/-- What holds when the earlier steps of a history are over, and is kept by every change, holds
of a machine with the later steps. -/
theorem since {P : Machine → History → Prop} {recent earlier : History}
    (h : Traced hosts modes m (recent ++ earlier))
    (start : ∀ m, Traced hosts modes m earlier → P m [])
    (untouched : ∀ m next recent, P m recent → Untouched m next → P next recent)
    (step : ∀ m next recent host me turn, Traced hosts modes m (recent ++ earlier) → P m recent →
      host ∈ hosts → Takes host m me turn next → P next (⟨m, me, next⟩ :: recent)) :
    P m recent := by
  refine h.invariant (P := fun m history => ∀ recent, history = recent ++ earlier → P m recent)
    ?_ ?_ ?_ recent rfl
  · intro recent all
    obtain ⟨rfl, rfl⟩ := List.nil_eq_append_iff.1 all
    exact start _ .initial
  · intro m next history holds unchanged recent all
    exact untouched m next recent (holds recent all) unchanged
  · intro m next history host me turn before holds mem takes recent all
    cases recent with
    | nil =>
      subst all
      exact start next (before.step mem takes.taken)
    | cons last recent =>
      obtain ⟨rfl, rfl⟩ := List.cons.inj all
      exact step m next recent host me turn before (holds recent rfl) mem takes

/-- The state of a machine is the one that the last step left. -/
theorem state_eq {step : Step} (h : Traced hosts modes m (step :: history)) :
    m.world.state = step.after.world.state := by
  refine h.invariant (P := fun m history => ∀ last earlier, history = last :: earlier →
    m.world.state = last.after.world.state) ?_ ?_ ?_ step history rfl
  · intro last earlier all
    cases all
  · intro m next history same untouched last earlier all
    rw [untouched.state, same last earlier all]
  · intro m next history host me turn _ _ _ _ last earlier all
    obtain ⟨rfl, rfl⟩ := List.cons.inj all
    rfl

/-- What was observed of a machine is what was observed when the last step was over. -/
theorem trace_eq {step : Step} (h : Traced hosts modes m (step :: history)) :
    m.trace = step.after.trace := by
  refine h.invariant (P := fun m history => ∀ last earlier, history = last :: earlier →
    m.trace = last.after.trace) ?_ ?_ ?_ step history rfl
  · intro last earlier all
    cases all
  · intro m next history same untouched last earlier all
    rw [untouched.trace, same last earlier all]
  · intro m next history host me turn _ _ _ _ last earlier all
    obtain ⟨rfl, rfl⟩ := List.cons.inj all
    rfl

/-- The stack of a thread is the one that the last step left, unless the thread has started since
then. -/
theorem thread_eq {step : Step} (h : Traced hosts modes m (step :: history)) (t : ThreadId) :
    m.thread t = step.after.thread t ∨
      step.after.thread t = [] ∧ ∃ script, m.thread t = [.script .program script] := by
  refine h.invariant (P := fun m history => ∀ last earlier, history = last :: earlier →
    m.thread t = last.after.thread t ∨
      last.after.thread t = [] ∧ ∃ script, m.thread t = [.script .program script])
    ?_ ?_ ?_ step history rfl
  · intro last earlier all
    cases all
  · intro m next history same untouched last earlier all
    rcases untouched.thread t with kept | ⟨idle, script, started⟩
    · rw [kept]
      exact same last earlier all
    · rcases same last earlier all with left | ⟨left, -⟩
      · exact .inr ⟨left ▸ idle, script, started⟩
      · exact .inr ⟨left, script, started⟩
  · intro m next history host me turn _ _ _ _ last earlier all
    obtain ⟨rfl, -⟩ := List.cons.inj all
    exact .inl rfl

/-- Each step of a history was taken by a host of the set, from the machine that the
earlier steps led to. -/
theorem split {later earlier : History} {step : Step}
    (h : Traced hosts modes m (later ++ step :: earlier)) :
    Traced hosts modes step.before earlier ∧
      ∃ host ∈ hosts, step.before.step host step.thread = some step.after := by
  generalize all : later ++ step :: earlier = history at h
  induction h generalizing later with
  | initial => simp at all
  | spawn before script ih => exact ih all
  | openGate before id ih => exact ih all
  | @step m next history host me before mem taken ih =>
    cases later with
    | nil =>
      obtain ⟨rfl, rfl⟩ := List.cons.inj all
      exact ⟨before, host, mem, taken⟩
    | cons last later => exact ih (List.cons.inj all).2

/-- A step of a history led to a machine with the history up to it. -/
theorem after {later earlier : History} {step : Step}
    (h : Traced hosts modes m (later ++ step :: earlier)) :
    Traced hosts modes step.after (step :: earlier) := by
  obtain ⟨before, host, mem, taken⟩ := h.split
  exact before.step mem taken

/-- Each step of a history is a turn with a known effect. -/
theorem split_takes {later earlier : History} {step : Step}
    (h : Traced hosts modes m (later ++ step :: earlier)) :
    Traced hosts modes step.before earlier ∧
      ∃ host ∈ hosts, ∃ turn, Takes host step.before step.thread turn step.after := by
  obtain ⟨before, host, mem, taken⟩ := h.split
  obtain ⟨turn, takes⟩ := step_takes before.reachable.sound taken
  exact ⟨before, host, mem, turn, takes⟩

theorem last_takes {step : Step} (h : Traced hosts modes m (step :: history)) :
    Traced hosts modes step.before history ∧
      ∃ host ∈ hosts, ∃ turn, Takes host step.before step.thread turn step.after := by
  rw [← List.nil_append (step :: history)] at h
  exact h.split_takes

theorem exists_takes {step : Step} (h : Traced hosts modes m history) (mem : step ∈ history) :
    ∃ host ∈ hosts, ∃ turn, Takes host step.before step.thread turn step.after := by
  obtain ⟨later, earlier, rfl⟩ := List.append_of_mem mem
  exact h.split_takes.2

theorem taken {step : Step} (h : Traced hosts modes m history) (mem : step ∈ history) :
    ∃ host ∈ hosts, step.before.step host step.thread = some step.after := by
  obtain ⟨later, earlier, rfl⟩ := List.append_of_mem mem
  exact h.split.2

/-- The machine before each step of a history is sound. -/
theorem sound_before {step : Step} (h : Traced hosts modes m history) (mem : step ∈ history) :
    step.before.Sound := by
  obtain ⟨later, earlier, rfl⟩ := List.append_of_mem mem
  exact h.split.1.reachable.sound

/-- No thread goes away. -/
theorem length_before_le {step : Step} (h : Traced hosts modes m history) (mem : step ∈ history) :
    step.before.threads.length ≤ m.threads.length := by
  refine h.invariant (P := fun m history => ∀ step ∈ history,
    step.before.threads.length ≤ m.threads.length) ?_ ?_ ?_ step mem
  · exact List.forall_mem_nil _
  · intro m next history shorter untouched step mem
    exact (shorter step mem).trans untouched.length_le
  · intro m next history host me turn _ shorter _ takes step mem
    rw [step_length_threads takes.taken]
    rcases List.mem_cons.1 mem with rfl | mem
    · exact Nat.le_refl _
    · exact shorter step mem

/-- When there is one thread, it has taken every turn. -/
theorem alone {step : Step} (h : Traced hosts modes m history) (single : m.threads.length ≤ 1)
    (mem : step ∈ history) : step.thread = 0 := by
  obtain ⟨host, -, turn, takes⟩ := h.exists_takes mem
  exact Nat.lt_one_iff.1 (takes.lt.trans_le ((h.length_before_le mem).trans single))

/-- Every reachable machine has a history. -/
theorem of_reachable (h : Reachable hosts modes m) : ∃ history, Traced hosts modes m history :=
  Recorded.of_reachable [] History.note h

end Traced

end Machine
end PluginHost
