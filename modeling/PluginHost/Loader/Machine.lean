import PluginHost.Loader.Thread

/-!
# Threads that share a loader

A machine is a number of threads over one loader.  Each step is one turn of one thread;
a schedule says which thread takes the next one.  What can be observed is kept in the
order in which it happened, each event with its thread.

Main results:

- Theorem `Machine.run_append`: a schedule may be run in two parts.
- Theorem `Machine.step_length_threads`: a step neither creates nor removes a thread.
- Theorem `Machine.settle_eq_run`: running threads until none can go on is one of the
  schedules.
-/

namespace PluginHost

/-! ## Machines -/

/-- Threads over one loader, and what was observed of them, the latest event first. -/
structure Machine where
  world : World
  threads : List Thread
  trace : List (ThreadId × Event)

/-- What a thread is doing. -/
inductive Status where
  | done
  | atGate (id : String)
  /-- It waits inside the loader for another thread. -/
  | waiting
  | running
deriving DecidableEq, Repr

/-- What a thread is doing. -/
def Thread.status (w : World) : Thread → Status
  | [] | .script .program [] :: _ => .done
  | .script _ (.gate id :: _) :: _ => if w.gates.contains id then .running else .atGate id
  | .lookup _ _ (.awaitingBulk false) :: _ | .lookup _ _ (.awaitingLoad _ false) :: _ => .waiting
  | _ => .running

namespace Machine

/-- The machine with a new loader and no thread. -/
def initial (modes : PerKind SearchMode) : Machine where
  world := ⟨.initial modes, [], 0, [], false⟩
  threads := []
  trace := []

/-- The machine with one more thread, which runs a script. -/
def spawn (m : Machine) (script : Script) : Machine :=
  { m with threads := m.threads ++ [[.script .program script]] }

/-- The machine with a gate open. -/
def openGate (m : Machine) (id : String) : Machine :=
  { m with world := { m.world with gates := id :: m.world.gates } }

/-! ## Steps -/

/-- The machine after one turn of a thread; none if the thread cannot take one. -/
def step (host : Host) (m : Machine) (me : ThreadId) : Option Machine :=
  match m.threads[me]? with
  | none => none
  | some thread =>
    (thread.turn host me m.world).map fun turn =>
      let threads := m.threads.set me turn.thread
      { world := turn.world
        threads := if turn.wakes then threads.map Thread.wake else threads
        trace := (turn.events.map fun event => (me, event)).reverse ++ m.trace }

/-- The machine after a schedule; a thread that cannot take a turn is passed over. -/
def run (host : Host) (m : Machine) (schedule : List ThreadId) : Machine :=
  schedule.foldl (fun m me => (m.step host me).getD m) m

/-- The first thread that can take a turn. -/
def ready? (host : Host) (m : Machine) : Option ThreadId :=
  (List.range m.threads.length).find? fun me => (m.step host me).isSome

/-- The machine after at most the given number of turns, each of the first thread that
can take one; it ends early when no thread can go on. -/
def settle (host : Host) : Nat → Machine → Machine
  | 0, m => m
  | turns + 1, m =>
    match m.ready? host with
    | none => m
    | some me => settle host turns ((m.step host me).getD m)

/-! ## Small facts -/

@[simp]
theorem run_nil (host : Host) (m : Machine) : m.run host [] = m :=
  rfl

@[simp]
theorem run_cons (host : Host) (m : Machine) (me : ThreadId) (schedule : List ThreadId) :
    m.run host (me :: schedule) = ((m.step host me).getD m).run host schedule :=
  rfl

theorem run_append (host : Host) (m : Machine) (first second : List ThreadId) :
    m.run host (first ++ second) = (m.run host first).run host second := by
  simp [run, List.foldl_append]

theorem step_length_threads {host : Host} {m next : Machine} {me : ThreadId}
    (h : m.step host me = some next) : next.threads.length = m.threads.length := by
  unfold step at h
  split at h
  · simp at h
  · obtain ⟨turn, -, rfl⟩ := Option.map_eq_some_iff.1 h
    dsimp only
    split <;> simp

theorem settle_eq_run (host : Host) (turns : Nat) (m : Machine) :
    ∃ schedule, m.settle host turns = m.run host schedule := by
  induction turns generalizing m with
  | zero => exact ⟨[], rfl⟩
  | succ turns ih =>
    unfold settle
    split
    · exact ⟨[], rfl⟩
    · next me _ =>
      obtain ⟨schedule, h⟩ := ih ((m.step host me).getD m)
      exact ⟨me :: schedule, h⟩

end Machine

end PluginHost
