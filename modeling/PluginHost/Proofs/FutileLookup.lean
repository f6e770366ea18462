import PluginHost.Proofs.FreshFailure
import PluginHost.Proofs.InProgress
import PluginHost.Proofs.Resemblance

/-!
# Lookups that fail leave no trace

A lookup by name whose file is not valid, or does not open, fails before any code of a module has
run.  It leaves something behind the lock: the table of the kind, the number of a load, a failure on
record.  This module says that nobody notices when there is one thread: whatever the thread does
from then on, with all the modules that it opens and closes, goes the way it would have gone
without the lookup.

Main results:

- Theorem `Thread.beginOpening_of_fails`: a module that the linker does not open leaves the world as
  it was.
- Theorem `Machine.Reachable.fails`: a futile lookup leaves a world behind that resembles the one
  before.
- Theorem `Machine.Reachable.unnoticed`: whether a futile lookup was made cannot be told later.
-/

namespace PluginHost

/-- A lookup fails and runs no code of a module: there is no valid file, or the file does not
open. -/
inductive Host.Futile (host : Host) (key : Key) : LoadError → Prop
  | invalid (invalid : (host.resolver.one key.kind key.name).valid = false) :
      Futile host key (.notFound (.noValidFile key.kind key.name
        (host.resolver.one key.kind key.name).path))
  | unopened {failure : LoadError} (valid : (host.resolver.one key.kind key.name).valid = true)
      (fails : host.linker.Fails (host.resolver.one key.kind key.name).path failure) :
      Futile host key failure

/-- A load that has failed leaves a state behind that resembles the one before. -/
theorem LoaderState.resembles_of_failed {s : LoaderState} {me : ThreadId} {key : Key}
    {failure : LoadError} (idle : Assoc.find? key s.byName = none) :
    (((s.touch key.kind).startLoad me key).finishLoad key s.nextLoad
      (.error failure)).Resembles s := by
  refine ⟨fun kind => Registry.table_touch .., rfl, rfl, fun other => ?_, rfl⟩
  rw [LoaderState.find?_finishLoad, LoaderState.find?_startLoad]
  split
  · next same => rw [same, idle]
  · rfl

namespace Thread

variable {host : Host} {path : Path} {failure : LoadError}

/-- A module that the linker does not open leaves the world as it was. -/
theorem beginOpening_of_fails (fails : host.linker.Fails path failure) (w : World) (key : Key)
    (style : Style) (load : Nat) (below : Thread) :
    ∃ events, beginOpening host w path (.lookup key style (.loadingName load path) :: below) =
      ⟨.lookup key style (.openedName load path (.error failure)) :: below, w, events, false⟩ := by
  cases fails with
  | refused refuses =>
    exact ⟨_, by simp only [beginOpening, refuses]; rfl⟩
  | @unusable library reason maps fault =>
    have restored : (library.file :: w.mapped).erase library.file = w.mapped :=
      List.erase_cons_head ..
    exact ⟨_, by simp only [beginOpening, maps, fault, unmap, restored]; rfl⟩

end Thread

namespace Machine

variable {hosts : Set Host} {modes : PerKind SearchMode} {m next first first' : Machine}
  {run run' : Machine × History} {host : Host} {w : World} {key : Key} {rest : Script}
  {failure : LoadError}

/-! ## The lookup -/

/-- A run of the one thread begins with its first turn. -/
theorem run_succ (taken : m.step host 0 = some next) (turns : Nat) :
    m.run host (List.replicate (turns + 1) 0) = next.run host (List.replicate turns 0) := by
  rw [List.replicate_succ, run_cons, taken]
  rfl

/-- A load whose file does not open ends with the failure of the linker. -/
theorem fails_of_loading {path : Path} (fails : host.linker.Fails path failure) (w : World)
    (key : Key) (load : Nat) (rest : Script) (trace : List (ThreadId × Event)) :
    ∃ events,
      (⟨w, [[.lookup key .full (.loadingName load path), .script .program rest]], trace⟩ :
          Machine).run host (List.replicate 2 0) =
        ⟨{ w with state := w.state.finishLoad key load (.error failure) },
          [[.script .program rest]],
          (0, .returned (.lookup (.error failure))) :: (events ++ trace)⟩ := by
  obtain ⟨seen, opening⟩ :=
    Thread.beginOpening_of_fails fails w key .full load [.script .program rest]
  have opens := step_single host w
    [.lookup key .full (.loadingName load path), .script .program rest] trace
  simp only [Thread.turn, Thread.lookupTurn, opening] at opens
  have ends := step_single host w
    [.lookup key .full (.openedName load path (.error failure)), .script .program rest]
    ((seen.map fun event => (0, event)).reverse ++ trace)
  refine ⟨(0, .notice (.openFailed key.kind key.name failure)) ::
    (seen.map fun event => (0, event)).reverse, ?_⟩
  exact (run_succ opens _).trans ((run_succ ends _).trans rfl)

/-- A futile lookup that begins when its key is neither registered nor being loaded fails, and
leaves a world behind that resembles the one before. -/
theorem fails_of_entering (rest : Script) (trace : List (ThreadId × Event))
    (named : key.name.isEmpty = false) (up : w.state.isShutDown = false) (wf : w.state.Wf)
    (mode : w.state.modes.get key.kind = .byName) (unregistered : w.state.registry.find? key = none)
    (idle : Assoc.find? key w.state.byName = none) (futile : host.Futile key failure) :
    ∃ turns w' events,
      (⟨w, [[.lookup key .full .entering, .script .program rest]], trace⟩ : Machine).run host
          (List.replicate turns 0) = ⟨w', [[.script .program rest]],
            (0, .returned (.lookup (.error failure))) :: (events ++ trace)⟩ ∧
        w'.Resembles w := by
  have enters : w.state.enter host 0 key = _ :=
    LoaderState.enter_eq_of_idle named up wf mode unregistered idle
  have searches := step_single host w [.lookup key .full .entering, .script .program rest] trace
  simp only [Thread.turn, Thread.lookupTurn, enters] at searches
  cases futile with
  | invalid invalid =>
    -- the lookup answers at once, and has only created the table of the kind
    simp only [invalid] at searches
    refine ⟨1, _, _, (run_succ searches 0).trans rfl, ?_⟩
    exact ⟨⟨fun kind => Registry.table_touch .., rfl, rfl, fun _ => rfl, rfl⟩, rfl, rfl, rfl, rfl⟩
  | unopened valid fails =>
    -- a load begins, its file does not open, and the failure comes on record
    simp only [valid] at searches
    obtain ⟨events, run⟩ := fails_of_loading fails
      { w with state := (w.state.touch key.kind).startLoad 0 key } key w.state.nextLoad rest
      ((0, .resolvedOne key) :: trace)
    rw [List.append_cons] at run
    exact ⟨3, _, _, (run_succ searches 2).trans run, LoaderState.resembles_of_failed idle, rfl, rfl,
      rfl, rfl⟩

/-- A futile lookup of the one thread fails, and leaves a world behind that resembles the one
before. -/
theorem Reachable.fails (h : Reachable hosts modes m)
    (threads : m.threads = [[.script .program (.request (.tryGet key) :: rest)]])
    (named : key.name.isEmpty = false) (up : m.world.state.isShutDown = false)
    (mode : m.world.state.modes.get key.kind = .byName)
    (unregistered : m.world.state.registry.find? key = none) (futile : host.Futile key failure) :
    ∃ turns w events, m.run host (List.replicate turns 0) =
        ⟨w, [[.script .program rest]],
          (0, .returned (.lookup (.error failure))) :: (events ++ m.trace)⟩ ∧
      w.Resembles m.world := by
  obtain ⟨history, traced⟩ := Traced.of_reachable h
  have inUse : m.world.dropping = false := by
    by_contra dropping
    rw [traced.isShutDown_of_dropping (by simpa using dropping)] at up
    cases up
  have returned : ∀ t < m.threads.length, (m.thread t).Returned := by
    intro t lt
    rw [threads, List.length_singleton, Nat.lt_one_iff] at lt
    exact ⟨_, by rw [lt, Machine.thread, threads]; rfl⟩
  have unmarked := (h.sound.unmarked_of_returned returned).1
  have wf := h.sound.coherent.wf
  obtain ⟨w, _, trace⟩ := m
  subst threads
  dsimp only at inUse unmarked wf up mode unregistered ⊢
  have idle : Assoc.find? key w.state.byName = none := by
    rw [unmarked]
    rfl
  have begins := step_single host w [.script .program (.request (.tryGet key) :: rest)] trace
  simp only [Thread.turn, Thread.begin, inUse] at begins
  have calls := step_single host w [.request (.tryGet key), .script .program rest] trace
  obtain ⟨turns, w', events, run, resembles⟩ :=
    fails_of_entering rest trace named up wf mode unregistered idle futile
  refine ⟨turns + 2, w', events, ?_, resembles⟩
  exact (run_succ begins _).trans ((run_succ calls _).trans run)

/-! ## The contract -/

/-- The machine of one thread, with another program for the thread. -/
def withProgram (m : Machine) (script : Script) : Machine :=
  { m with threads := [[.script .program script]] }

/-- Two runs that began at two machines cannot be told apart: the thread has been told the same and
the same has been asked of the resolver and the linker, up to the detail why a name could not be
taken out, the same modules have been closed in the same order, and the loaders answer every
question alike. -/
structure Indistinct (first first' : Machine) (run run' : Machine × History) : Prop where
  seen : SameSince first first' run.1 run'.1
  released : run.2.released = run'.2.released
  snapshot : Scenario.snapshot run.1 = Scenario.snapshot run'.1
  handles : run.1.world.state.handles = run'.1.world.state.handles
  mapped : run.1.world.mapped = run'.1.world.mapped
  status : (run.1.thread 0).status run.1.world = (run'.1.thread 0).status run'.1.world

theorem SameWay.indistinct (h : SameWay first first' run run') :
    Indistinct first first' run run' where
  seen := h.seen
  released := h.released
  snapshot := h.resembles.snapshot
  handles := h.resembles.world.state.handles
  mapped := h.resembles.world.mapped
  status := (h.resembles.thread 0).status h.resembles.world.gates

/-- A futile lookup is made, fails, and is then forgotten: the thread goes on with the rest of its
program, and under every schedule the run cannot be told apart from the run of the same program that
begins where the lookup began. -/
structure Unnoticed (host : Host) (m : Machine) (key : Key) (rest : Script) (failure : LoadError)
    (after : Machine) : Prop where
  fails : ∃ turns, m.run host (List.replicate turns 0) = after
  returns : after.threads = [[.script .program rest]]
  told : ∃ events, after.trace = (0, .returned (.lookup (.error failure))) :: (events ++ m.trace)
  later : ∀ schedule, Indistinct after (m.withProgram rest)
    (after.runWith History.note host schedule [])
    ((m.withProgram rest).runWith History.note host schedule [])

/-- A lookup by name of a single thread that fails because its file is not valid, or because the
file does not open, leaves no trace. -/
theorem Reachable.unnoticed (h : Reachable hosts modes m) (mem : host ∈ hosts)
    (threads : m.threads = [[.script .program (.request (.tryGet key) :: rest)]])
    (named : key.name.isEmpty = false) (up : m.world.state.isShutDown = false)
    (mode : m.world.state.modes.get key.kind = .byName)
    (unregistered : m.world.state.registry.find? key = none) (futile : host.Futile key failure) :
    ∃ after, Unnoticed host m key rest failure after := by
  obtain ⟨turns, w, events, run, world⟩ := h.fails threads named up mode unregistered futile
  let after : Machine := ⟨w, [[.script .program rest]],
    (0, .returned (.lookup (.error failure))) :: (events ++ m.trace)⟩
  refine ⟨after, ⟨turns, run⟩, rfl, ⟨events, rfl⟩, fun schedule => ?_⟩
  have reachable := h.run mem (List.replicate turns 0)
  rw [run] at reachable
  have start : SameWay after (m.withProgram rest) (after, []) (m.withProgram rest, []) :=
    ⟨⟨world, _, _, rfl, rfl, .cons (.script .program rest) .nil⟩, ⟨[], [], rfl, rfl, rfl⟩, rfl⟩
  exact (start.runWith mem reachable schedule).indistinct

/-- A host that opens every file but one. -/
def fussyHost : Host :=
  let opening (path : Path) : Opening :=
    if path = .ofText "x" then .refused (.loadFailed path systemReason)
    else .run [.registrar (.checked ⟨.filter, "a"⟩ (.word 7))] none (.run [] none)
  ⟨⟨fun _ name => ⟨.ofText name, true⟩, fun _ => []⟩, ⟨opening⟩, .release⟩

/-- What a thread does after a lookup that has failed. -/
def fussyRest : Script :=
  [.request (.unregister ⟨.filter, "y"⟩), .request (.tryGet ⟨.filter, "a"⟩), .request .shutdown]

/-- A thread that looks up the file that does not open. -/
def fussyStart : Machine :=
  (Machine.initial (.ofFn fun _ => .byName)).spawn (.request (.tryGet ⟨.filter, "x"⟩) :: fussyRest)

/-- The thread is told in other words that a name is not registered, and nothing else differs. -/
theorem unnoticed_fussyStart :
    fussyStart.threads = [[.script .program (.request (.tryGet ⟨.filter, "x"⟩) :: fussyRest)]] ∧
    fussyStart.world.state.isShutDown = false ∧
    fussyStart.world.state.modes.get .filter = .byName ∧
    fussyStart.world.state.registry.find? ⟨.filter, "x"⟩ = none ∧
    fussyHost.Futile ⟨.filter, "x"⟩ (.loadFailed (.ofText "x") systemReason) ∧
    (∃ after, Unnoticed fussyHost fussyStart ⟨.filter, "x"⟩ fussyRest
      (.loadFailed (.ofText "x") systemReason) after) ∧
    (0, .returned (.done (.error (.notFound (.unregistered .filter "y"))))) ∈
      (fussyStart.run fussyHost (List.replicate 24 0)).trace ∧
    (0, .returned (.done (.error (.notFound (.untouchedKind .filter))))) ∈
      ((fussyStart.withProgram fussyRest).run fussyHost (List.replicate 24 0)).trace := by
  have futile : fussyHost.Futile ⟨.filter, "x"⟩ (.loadFailed (.ofText "x") systemReason) :=
    .unopened rfl (.refused rfl)
  refine ⟨rfl, rfl, rfl, rfl, futile, ?_, ?_, ?_⟩
  · exact (Reachable.initial.spawn _).unnoticed (Set.mem_singleton fussyHost) rfl rfl rfl rfl rfl
      futile
  · exact List.mem_of_getElem? (i := 11) rfl
  · exact List.mem_of_getElem? (i := 11) rfl

end Machine

end PluginHost
