import Mathlib.Data.List.Induction
import Mathlib.Data.Set.Defs
import Mathlib.Logic.Function.Basic
import PluginHost.Loader.Machine

/-!
# Reachable machines

A machine changes when a thread starts, when a gate opens, and when a thread takes a
turn.  The turns are taken in any order, and each of them may meet another host, so that
nothing is assumed of resolvers and linkers but that they come from a given set.

Main results:

- Theorem `Machine.step_eq`: a step is a turn of one thread, after which the others may
  have been woken.
- Theorem `Machine.Reachable.invariant`: what holds at first and is kept by every change
  holds of every reachable machine.
- Theorem `Machine.Reachable.run`: every schedule leads to a reachable machine.
- Theorem `Machine.Recorded.of_reachable`: every reachable machine has a record of the
  steps that led to it.
-/

namespace PluginHost

/-- A thread after a turn of any thread, which may have woken it. -/
def Thread.wakeIf (wakes : Bool) (thread : Thread) : Thread :=
  if wakes then thread.wake else thread

namespace Machine

/-- The stack of a thread; a thread that does not exist has no frame. -/
def thread (m : Machine) (t : ThreadId) : Thread :=
  (m.threads[t]?).getD []

theorem thread_eq_of_getElem? {m : Machine} {t : ThreadId} {thread : Thread}
    (h : m.threads[t]? = some thread) : m.thread t = thread := by
  simp [Machine.thread, h]

/-- The threads after a turn of one of them. -/
def moved (threads : ThreadId → Thread) (me : ThreadId) (after : Thread) (wakes : Bool)
    (t : ThreadId) : Thread :=
  (Function.update threads me after t).wakeIf wakes

@[simp]
theorem moved_self (threads : ThreadId → Thread) (me : ThreadId) (after : Thread)
    (wakes : Bool) : moved threads me after wakes me = after.wakeIf wakes := by
  simp [moved]

theorem moved_of_ne {threads : ThreadId → Thread} {me t : ThreadId} (h : t ≠ me)
    (after : Thread) (wakes : Bool) :
    moved threads me after wakes t = (threads t).wakeIf wakes := by
  simp [moved, h]

/-! ## Steps -/

/-- A step is a turn of one thread, after which the others may have been woken. -/
theorem step_eq {host : Host} {m next : Machine} {me : ThreadId}
    (h : m.step host me = some next) :
    me < m.threads.length ∧
      ∃ turn, (m.thread me).turn host me m.world = some turn ∧ next.world = turn.world ∧
        next.thread = moved m.thread me turn.thread turn.wakes ∧
        next.trace = (turn.events.map fun event => (me, event)).reverse ++ m.trace := by
  unfold step at h
  split at h
  · cases h
  · next thread found =>
    obtain ⟨turn, taken, rfl⟩ := Option.map_eq_some_iff.1 h
    have exists' : me < m.threads.length := (List.getElem?_eq_some_iff.1 found).1
    refine ⟨exists', turn, ?_, rfl, ?_, rfl⟩
    · rw [thread_eq_of_getElem? found]
      exact taken
    · funext t
      by_cases ht : t = me
      · subst ht
        cases turn.wakes <;> simp [Machine.thread, exists', Thread.wakeIf]
      · rw [moved_of_ne ht]
        cases turn.wakes with
        | false => simp [Machine.thread, Thread.wakeIf, List.getElem?_set_ne (Ne.symm ht)]
        | true =>
          simp only [Machine.thread, Thread.wakeIf, if_true, List.getElem?_map,
            List.getElem?_set_ne (Ne.symm ht)]
          cases m.threads[t]? <;> rfl

/-- A thread that takes no step can take no turn. -/
theorem turn_of_step_eq_none {host : Host} {m : Machine} {me : ThreadId}
    (h : me < m.threads.length) (stuck : m.step host me = none) :
    (m.thread me).turn host me m.world = none := by
  simpa [step, Machine.thread, List.getElem?_eq_getElem h] using stuck

@[simp]
theorem thread_openGate (m : Machine) (id : String) : (m.openGate id).thread = m.thread :=
  rfl

theorem thread_spawn (m : Machine) (script : Script) :
    (m.spawn script).thread =
      Function.update m.thread m.threads.length [.script .program script] := by
  funext t
  by_cases ht : t = m.threads.length
  · subst ht
    simp [spawn, Machine.thread]
  · simp only [spawn, Machine.thread, Function.update_of_ne ht]
    rcases Nat.lt_or_gt_of_ne ht with h | h
    · rw [List.getElem?_append_left h]
    · rw [List.getElem?_eq_none (by simp; omega), List.getElem?_eq_none (by omega)]

/-! ## Changes -/

/-- A change of a machine, its turns taken with hosts of a set. -/
inductive Change (hosts : Set Host) (m : Machine) : Machine → Prop
  | spawn (script : Script) : Change hosts m (m.spawn script)
  | openGate (id : String) : Change hosts m (m.openGate id)
  | step {host : Host} {me : ThreadId} {next : Machine} (mem : host ∈ hosts)
      (taken : m.step host me = some next) : Change hosts m next

/-- A machine that changes lead to from a new loader. -/
inductive Reachable (hosts : Set Host) (modes : PerKind SearchMode) : Machine → Prop
  | initial : Reachable hosts modes (.initial modes)
  | change {m next : Machine} (before : Reachable hosts modes m)
      (change : Change hosts m next) : Reachable hosts modes next

/-- A run from one machine to another, and the machines it leads through, both included,
the latest first. -/
inductive Run (hosts : Set Host) (first : Machine) : List Machine → Machine → Prop
  | refl : Run hosts first [first] first
  | change {through : List Machine} {m next : Machine} (before : Run hosts first through m)
      (change : Change hosts m next) : Run hosts first (next :: through) next

namespace Reachable

variable {hosts : Set Host} {modes : PerKind SearchMode} {m : Machine}

/-- What holds at first and is kept by every change holds of every reachable machine. -/
theorem invariant {P : Machine → Prop} (initial : P (.initial modes))
    (kept : ∀ m next, P m → Change hosts m next → P next) (h : Reachable hosts modes m) :
    P m := by
  induction h with
  | initial => exact initial
  | change _ change ih => exact kept _ _ ih change

theorem spawn (h : Reachable hosts modes m) (script : Script) :
    Reachable hosts modes (m.spawn script) :=
  .change h (.spawn script)

/-- Every schedule leads to a reachable machine. -/
theorem run {host : Host} (mem : host ∈ hosts) (h : Reachable hosts modes m)
    (schedule : List ThreadId) : Reachable hosts modes (m.run host schedule) := by
  induction schedule generalizing m with
  | nil => exact h
  | cons me schedule ih =>
    rw [run_cons]
    cases taken : m.step host me with
    | none => exact ih h
    | some next => exact ih (.change h (.step mem taken))

end Reachable

namespace Run

variable {hosts : Set Host} {first last m : Machine} {through : List Machine}

theorem last_mem (run : Run hosts first through last) : last ∈ through := by
  cases run <;> exact List.mem_cons_self

/-- A schedule is a run. -/
theorem of_schedule {host : Host} (mem : host ∈ hosts) (m : Machine) (schedule : List ThreadId) :
    ∃ through, Run hosts m through (m.run host schedule) := by
  induction schedule using List.reverseRecOn with
  | nil => exact ⟨_, .refl⟩
  | append_singleton schedule me ih =>
    obtain ⟨through, run⟩ := ih
    rw [run_append, run_cons, run_nil]
    cases taken : (m.run host schedule).step host me with
    | none => exact ⟨_, run⟩
    | some next => exact ⟨_, .change run (.step mem taken)⟩

/-- A run may be cut at each machine that it leads through. -/
theorem cut (run : Run hosts first through last) (mem : m ∈ through) :
    ∃ before after, Run hosts first before m ∧ Run hosts m after last := by
  induction run with
  | refl =>
    obtain rfl := List.mem_singleton.1 mem
    exact ⟨_, _, .refl, .refl⟩
  | @change through m' next run change ih =>
    rcases List.mem_cons.1 mem with rfl | mem
    · exact ⟨_, _, .change run change, .refl⟩
    · obtain ⟨before, after, run, rest⟩ := ih mem
      exact ⟨before, _, run, .change rest change⟩

/-- What holds at first, and is kept by the changes that a run consists of, holds in the
end. -/
theorem invariant {P : Machine → Prop} (run : Run hosts first through last) (initial : P first)
    (kept : ∀ m next, m ∈ through → next ∈ through → P m → Change hosts m next → P next) :
    P last := by
  induction run with
  | refl => exact initial
  | @change through m next run change ih =>
    refine kept m next (List.mem_cons_of_mem _ run.last_mem) List.mem_cons_self ?_ change
    exact ih fun m next hm hn => kept m next (List.mem_cons_of_mem _ hm) (List.mem_cons_of_mem _ hn)

end Run

/-! ## Records -/

/-- A reachable machine with a record of the steps that led to it, which the machine itself
does not keep: `note` says what a step adds to the record. -/
inductive Recorded {α : Type} (hosts : Set Host) (modes : PerKind SearchMode) (start : α)
    (note : Machine → ThreadId → Machine → α → α) : Machine → α → Prop
  | initial : Recorded hosts modes start note (.initial modes) start
  | spawn {m : Machine} {record : α} (before : Recorded hosts modes start note m record)
      (script : Script) : Recorded hosts modes start note (m.spawn script) record
  | openGate {m : Machine} {record : α} (before : Recorded hosts modes start note m record)
      (id : String) : Recorded hosts modes start note (m.openGate id) record
  | step {m next : Machine} {record : α} {host : Host} {me : ThreadId}
      (before : Recorded hosts modes start note m record) (mem : host ∈ hosts)
      (taken : m.step host me = some next) :
      Recorded hosts modes start note next (note m me next record)

/-- The machine after a schedule, with its record. -/
def runWith {α : Type} (note : Machine → ThreadId → Machine → α → α) (host : Host) (m : Machine) :
    List ThreadId → α → Machine × α
  | [], record => (m, record)
  | me :: schedule, record =>
    match m.step host me with
    | some next => next.runWith note host schedule (note m me next record)
    | none => m.runWith note host schedule record

namespace Recorded

variable {α : Type} {hosts : Set Host} {modes : PerKind SearchMode} {start record : α}
  {note : Machine → ThreadId → Machine → α → α} {m : Machine}

theorem reachable (h : Recorded hosts modes start note m record) : Reachable hosts modes m := by
  induction h with
  | initial => exact .initial
  | spawn _ script ih => exact .change ih (.spawn script)
  | openGate _ id ih => exact .change ih (.openGate id)
  | step _ mem taken ih => exact .change ih (.step mem taken)

/-- A schedule goes on with the record. -/
theorem runWith {host : Host} (mem : host ∈ hosts) (h : Recorded hosts modes start note m record)
    (schedule : List ThreadId) :
    Recorded hosts modes start note (m.runWith note host schedule record).1
      (m.runWith note host schedule record).2 := by
  induction schedule generalizing m record with
  | nil => exact h
  | cons me schedule ih =>
    unfold Machine.runWith
    split
    · next next taken => exact ih (h.step mem taken)
    · exact ih h

/-- Every reachable machine has a record. -/
theorem of_reachable (start : α) (note : Machine → ThreadId → Machine → α → α)
    (h : Reachable hosts modes m) : ∃ record, Recorded hosts modes start note m record := by
  induction h with
  | initial => exact ⟨_, .initial⟩
  | change _ change ih =>
    obtain ⟨record, ih⟩ := ih
    cases change with
    | spawn script => exact ⟨_, ih.spawn script⟩
    | openGate id => exact ⟨_, ih.openGate id⟩
    | step mem taken => exact ⟨_, ih.step mem taken⟩

end Recorded

end Machine
end PluginHost
