import PluginHost.Proofs.Deadlock
import PluginHost.Proofs.History

/-!
# The custody of modules

A module that was opened is at any time in one of four places: in the hands of the load
that opened it, in the handle set, closed, or left open for good.  The handle set is behind
the lock until a shutdown takes it out, and then in the hands of that shutdown.  Each turn
moves at most the modules of one thread, and what it takes from one place it puts in
another.

Main results:

- Theorem `Thread.releases_of_turn`: what is counted as closed is what a turn begins to close.
- Theorem `Section.accounts`: a lock section of a lookup loses no module.
- Theorem `Thread.turn_balance`: neither does a turn, and the modules in the hands of loads
  after it are those before it and the one that it opens.
- Theorem `Machine.Traced.balance`: along every history each module that was opened is in
  one place, once.
- Theorem `Machine.Traced.custody`: moreover, once the loader is out of use and all calls have
  returned, each module that was opened has been closed once, if modules are closed at all.
-/

namespace PluginHost

/-! ## Places -/

/-- The load that a lookup of a key carries out at a stage, or whose modules it closes. -/
def Stage.load? (key : Key) : Stage → Option Job
  | closingBulk => some (.bulk key.kind)
  | stage => stage.job? key

namespace Thread

/-- The load that the lookup on top of a thread carries out, or whose modules it closes. -/
def load? : Thread → Option Job
  | .lookup key _ stage :: _ => stage.load? key
  | _ => none

/-- The modules in the hands of the loads of a thread, each with its load: the load has not
decided about them, or it is giving them up and has not closed them yet. -/
def held : Thread → List (Option Job × Handle)
  | .lookup key _ stage :: below => stage.opened.map (stage.load? key, ·) ++ held below
  | .closing .discard todo _ :: below => todo.map (load? below, ·) ++ held below
  | _ :: below => held below
  | [] => []

/-- The modules of a handle set that a shutdown has taken out and has not closed yet. -/
def taken : Thread → List Handle
  | .closing .shutdown todo _ :: below => todo ++ taken below
  | _ :: below => taken below
  | [] => []

/-- The module that the next turn of a thread opens, with the load that it is for. -/
def acquired (serial : Nat) : Thread → List (Option Job × Handle)
  | .script (.init pending) [] :: below =>
    ((pending.outcome serial).toOption.map (load? below, ·)).toList
  | _ => []

/-- The module that the next turn of a thread begins to close. -/
def released : Thread → List Handle
  | .closing _ (handle :: _) _ :: _ => [handle]
  | _ => []

/-- A turn that begins to close a module.  A module that closes by a script is reported to begin
closing, and its script goes on top of the thread; a library is unmapped once, which is all there
is to it.  The thread is left with the modules that are to be closed after this one. -/
inductive Releases (w : World) (handle : Handle) (turn : Turn) : Thread → Prop
  | script {reason : CloseReason} {todo : List Handle} {report : ReleaseReport} {below : Thread}
      {script : Script} {failure : Option LoadError}
      (teardown : handle.teardown = .run script failure)
      (thread : turn.thread =
        .script (.teardown handle) script :: .closing reason todo report :: below)
      (world : turn.world = w) (events : turn.events = [.closing handle.path]) :
      Releases w handle turn (.closing reason (handle :: todo) report :: below)
  | library {reason : CloseReason} {todo : List Handle} {report : ReleaseReport} {below : Thread}
      {library : Library} (teardown : handle.teardown = .unmap library)
      (thread : turn.thread = .closing reason todo (report.count true) :: below)
      (world : turn.world = { w with mapped := w.mapped.erase library.file })
      (events : turn.events = (unmap w library).2 ++
        if reason = .shutdown then [.notice (.released handle.path)] else []) :
      Releases w handle turn (.closing reason (handle :: todo) report :: below)

/-- What `released` reads off a thread is what its turn begins to close. -/
theorem releases_of_turn {host : Host} {me : ThreadId} {w : World} {turn : Turn} {thread : Thread}
    {handle : Handle} (mem : handle ∈ thread.released)
    (turned : thread.turn host me w = some turn) : Releases w handle turn thread := by
  unfold released at mem
  split at mem
  · next reason first todo report below =>
    obtain rfl := List.mem_singleton.1 mem
    rw [turn_closing, Option.some.injEq] at turned
    subst turned
    unfold beginClosing
    split
    · next script failure teardown => exact .script teardown rfl rfl rfl
    · next library teardown =>
      refine .library teardown rfl rfl ?_
      cases reason <;> rfl
  · cases mem

namespace Releases

variable {w : World} {handle : Handle} {turn : Turn} {thread : Thread}

theorem released (h : Releases w handle turn thread) : handle ∈ thread.released := by
  cases h with
  | script => exact List.mem_singleton_self handle
  | library => exact List.mem_singleton_self handle

/-- A thread that closes modules does not wait. -/
theorem wakeIf (h : Releases w handle turn thread) (wakes : Bool) :
    turn.thread.wakeIf wakes = turn.thread := by
  cases h with
  | script _ thread _ _ =>
    rw [thread]
    cases wakes <;> rfl
  | library _ thread _ _ =>
    rw [thread]
    cases wakes <;> rfl

end Releases

/-- The modules that the next turn of a thread leaves open for good. -/
def abandoned (policy : ReleasePolicy) (s : LoaderState) : Thread → List Handle
  | .request request :: _ => if request.shuts ∧ policy = .skip then s.openModules else []
  | _ => []

@[simp]
theorem load?_lookup (key : Key) (style : Style) (stage : Stage) (below : Thread) :
    load? (.lookup key style stage :: below) = stage.load? key :=
  rfl

@[simp]
theorem held_lookup (key : Key) (style : Style) (stage : Stage) (below : Thread) :
    held (.lookup key style stage :: below) =
      stage.opened.map (stage.load? key, ·) ++ held below :=
  rfl

/-- A script that goes on opens no module. -/
theorem acquired_script (serial : Nat) (role : Role) (action : Action) (rest : Script)
    (below : Thread) : acquired serial (.script role (action :: rest) :: below) = [] := by
  cases role with
  | program => rfl
  | init pending => rfl
  | teardown handle => rfl

/-- A turn opens one module, under the given serial number, or none. -/
theorem acquired_cases (serial : Nat) (thread : Thread) :
    thread.acquired serial = [] ∨
      ∃ load handle, thread.acquired serial = [(load, handle)] ∧ handle.serial = serial := by
  unfold acquired
  split
  · next pending below =>
    cases failure : pending.failure with
    | some failure =>
      rw [Pending.outcome, failure]
      exact .inl rfl
    | none =>
      rw [Pending.outcome, failure]
      exact .inr ⟨load? below, ⟨serial, pending.path, pending.teardown⟩, rfl, rfl⟩
  · exact .inl rfl

@[simp]
theorem held_wakeIf (wakes : Bool) (thread : Thread) :
    (thread.wakeIf wakes).held = thread.held :=
  apply_wakeIf held (fun _ _ _ _ => rfl) (fun _ _ _ _ _ => rfl) wakes thread

@[simp]
theorem taken_wakeIf (wakes : Bool) (thread : Thread) :
    (thread.wakeIf wakes).taken = thread.taken :=
  apply_wakeIf taken (fun _ _ _ _ => rfl) (fun _ _ _ _ _ => rfl) wakes thread

end Thread

/-! ## Lock sections -/

namespace Stage

variable {stage after : Stage} {path : Path}

/-- A lookup that is about to search holds no module. -/
theorem opened_of_ready (h : stage.ready = true) : stage.opened = [] := by
  unfold ready at h
  split at h
  · rfl
  · rfl
  · rfl
  · cases h

theorem opened_of_settles (h : stage.settles = true) : stage.opened = [] :=
  opened_of_ready (ready_of_settles h)

theorem opened_of_opening? (h : stage.opening? = some (path, after)) :
    after.opened = stage.opened := by
  unfold opening? at h
  split at h <;> cases h <;> rfl

theorem load?_of_opening? (h : stage.opening? = some (path, after)) (key : Key) :
    after.load? key = stage.load? key := by
  unfold opening? at h
  split at h <;> cases h <;> rfl

/-- What a lookup is told adds the module that was opened, if any, to those in its hands. -/
theorem opened_told (told : stage.opens = true) (outcome : Except LoadError Handle) :
    (stage.told outcome).opened = stage.opened ++ outcome.toOption.toList := by
  unfold opens at told
  split at told
  · cases outcome with
    | ok handle => rfl
    | error failure => exact (List.append_nil _).symm
  · cases outcome <;> rfl
  · cases told

theorem load?_told (told : stage.opens = true) (outcome : Except LoadError Handle) (key : Key) :
    (stage.told outcome).load? key = stage.load? key := by
  unfold opens at told
  split at told
  · cases outcome <;> rfl
  · rfl
  · cases told

end Stage

namespace Next

/-- The modules in the hands of a lookup as it goes on. -/
def held : Next → List Handle
  | .answer _ => []
  | .stage after => after.opened
  | .discard handles after => handles ++ after.opened

/-- The load of a lookup as it goes on. -/
def load? (key : Key) : Next → Option Job
  | .answer _ => none
  | .stage after | .discard _ after => after.load? key

end Next

namespace Section

/-- A lock section that a lookup runs at a stage loses no module: those in its hands stay
there, with the same load, or all go to the open modules; after shutdown they stay. -/
structure Accounts (key : Key) (stage : Stage) (s : LoaderState) (ran : Section) : Prop where
  conserved : (stage.opened ++ s.openModules).Perm (ran.next.held ++ ran.state.openModules)
  same : ran.next.held = [] ∨
    ran.next.held = stage.opened ∧ ran.next.load? key = stage.load? key
  late : s.isShutDown = true → ran.next.held = stage.opened
  down : ran.state.isShutDown = s.isShutDown

variable {host : Host} {me : ThreadId} {key : Key} {stage : Stage} {s : LoaderState} {ran : Section}

/-- A section that has nothing to do with modules. -/
theorem Accounts.of_nil (held : ran.next.held = []) (handles : ran.state.handles = s.handles)
    (none : stage.opened = []) : Accounts key stage s ran := by
  constructor
  · rw [held, none, LoaderState.openModules, LoaderState.openModules, handles]
  · exact .inl held
  · intro _
    rw [held, none]
  · rw [LoaderState.isShutDown, LoaderState.isShutDown, handles]

/-- A search has nothing to do with modules. -/
theorem accounts_search {begun : LoaderState} (handles : begun.handles = s.handles)
    (none : stage.opened = []) : Accounts key stage s (begun.search host me key) := by
  have outcome := LoaderState.search_cases host me key begun
  generalize begun.search host me key = ran at outcome
  cases outcome with
  | found _ => exact .of_nil rfl handles none
  | absent _ _ => exact .of_nil rfl handles none
  | mine _ _ _ _ => exact .of_nil rfl handles none
  | refused _ _ _ _ _ => exact .of_nil rfl handles none
  | waits _ _ _ _ _ => exact .of_nil rfl handles none
  | starts _ _ _ _ => exact .of_nil rfl handles none
  | invalid _ _ _ _ => exact .of_nil rfl handles none

/-- A section that answers keeps the modules in the hands of its lookup, unless the loader has
been shut down. -/
theorem accounts_of_kept {result : Except LoadError Payload} (up : s.isShutDown = false)
    (next : ran.next = .answer result) (kept : ran.state.handles = (s.keep stage.opened).handles) :
    Accounts key stage s ran := by
  obtain ⟨set, handles⟩ : ∃ set, s.handles = some set := by
    refine Option.ne_none_iff_exists'.1 fun none => ?_
    rw [LoaderState.isShutDown, none] at up
    cases up
  rw [LoaderState.keep, handles] at kept
  constructor
  · rw [next, LoaderState.openModules, LoaderState.openModules, kept, handles]
    exact List.perm_append_comm
  · rw [next]
    exact .inl rfl
  · intro down
    rw [up] at down
    cases down
  · rw [LoaderState.isShutDown, kept, up]
    rfl

/-- No lock section of a lookup loses a module. -/
theorem accounts (runs : stage.lockSection? host me key s = some ran) :
    Accounts key stage s ran := by
  have begun := (s.akin_begun me key stage).handles
  cases Stage.runs runs with
  | nameless _ => exact .of_nil rfl rfl rfl
  | refused ready _ state =>
    rcases state with rfl | rfl
    · exact .of_nil rfl rfl (Stage.opened_of_ready ready)
    · exact .of_nil rfl rfl (Stage.opened_of_ready ready)
  | shared _ => exact .of_nil rfl rfl rfl
  | again _ => exact accounts_search rfl rfl
  | inside settles _ _ => exact accounts_search begun (Stage.opened_of_settles settles)
  | insists settles _ _ _ _ =>
    have searched : Accounts key stage s ((s.begun me key stage).search host me key) :=
      accounts_search begun (Stage.opened_of_settles settles)
    exact ⟨searched.conserved, searched.same, searched.late, searched.down⟩
  | free settles _ _ _ => exact accounts_search begun (Stage.opened_of_settles settles)
  | awaits settles _ _ _ _ => exact .of_nil rfl begun (Stage.opened_of_settles settles)
  | lists settles _ _ _ => exact .of_nil rfl begun (Stage.opened_of_settles settles)
  | @settled opened up =>
    have mode : ((s.endBulk key.kind).keep opened).modes.get key.kind = .settled := by
      simp [LoaderState.endBulk, LoaderState.keep]
    obtain ⟨result, next, same⟩ := LoaderState.search_settled host me mode
    exact accounts_of_kept up next same.handles
  | settledLate _ =>
    have all : ∀ opened, (Next.discard opened .closingBulk).held = opened := List.append_nil
    refine ⟨?_, .inr ⟨all _, rfl⟩, fun _ => all _, rfl⟩
    rw [all]
    exact .refl _
  | closed => exact .of_nil rfl rfl rfl
  | adopted up _ => exact accounts_of_kept up rfl rfl
  | rejected _ _ => exact ⟨.refl _, .inr ⟨rfl, rfl⟩, fun _ => rfl, rfl⟩
  | openedLate _ => exact ⟨.refl _, .inr ⟨rfl, rfl⟩, fun _ => rfl, rfl⟩
  | unopened => exact .of_nil rfl rfl rfl
  | failed => exact .of_nil rfl rfl rfl

end Section
/-! ## Turns -/

namespace Thread

/-- The modules of a thread, in the hands of its loads and of its shutdowns. -/
def modules (thread : Thread) : List Handle :=
  thread.held.map Prod.snd ++ thread.taken

/-- A turn loses no module, and opens at most one, under the next serial number.  After
shutdown a module leaves the hands of a load only to be closed. -/
structure Balance (host : Host) (w : World) (thread : Thread) (turn : Turn) : Prop where
  conserved :
    ((thread.acquired w.nextSerial).map Prod.snd ++ (thread.modules ++ w.state.openModules)).Perm
      (turn.thread.modules ++ turn.world.state.openModules ++ thread.released ++
        thread.abandoned host.policy w.state)
  held : ∀ entry ∈ turn.thread.held,
    entry ∈ thread.held ∨ entry ∈ thread.acquired w.nextSerial
  late : w.state.isShutDown = true → ∀ entry ∈ thread.held,
    entry ∈ turn.thread.held ∨ entry.2 ∈ thread.released
  serial : turn.world.nextSerial = w.nextSerial + (thread.acquired w.nextSerial).length
  down : w.state.isShutDown = true → turn.world.state.isShutDown = true
  dropping : turn.world.dropping = true → w.dropping = true ∨ turn.world.state.isShutDown = true

variable {host : Host} {me : ThreadId} {w : World} {turn : Turn} {thread below : Thread}
  {key : Key} {style : Style} {stage : Stage}

/-- A turn that leaves all modules where they are. -/
theorem Balance.of_same (held : turn.thread.held = thread.held)
    (taken : turn.thread.taken = thread.taken) (mild : turn.Mild w)
    (acquired : thread.acquired w.nextSerial = []) (released : thread.released = [])
    (abandoned : thread.abandoned host.policy w.state = []) : Balance host w thread turn := by
  constructor
  · rw [acquired, released, abandoned, modules, modules, held, taken, mild.state]
    simp
  · intro entry mem
    rw [held] at mem
    exact .inl mem
  · intro _ entry mem
    rw [← held] at mem
    exact .inl mem
  · rw [acquired, mild.serial]
    rfl
  · intro down
    rwa [mild.state]
  · intro dropping
    rw [mild.dropping] at dropping
    exact .inl dropping

/-- A lookup that goes on after a lock section holds what the section left in its hands. -/
theorem held_afterSection (w : World) (key : Key) (style : Style) (below : Thread)
    (ran : Section) :
    (afterSection w key style below ran).thread.held =
        ran.next.held.map (ran.next.load? key, ·) ++ below.held ∧
      (afterSection w key style below ran).thread.taken = below.taken := by
  cases next : ran.next with
  | answer result =>
    rw [(afterSection_answer w key style below next).1]
    exact ⟨rfl, rfl⟩
  | stage after =>
    rw [afterSection_stage next]
    exact ⟨rfl, rfl⟩
  | discard handles after =>
    rw [afterSection_discard next]
    refine ⟨?_, rfl⟩
    simp [held, Next.held, Next.load?]

/-- The turn of a lock section loses no module. -/
theorem balance_of_locked {ran : Section}
    (runs : stage.lockSection? host me key w.state = some ran) :
    Balance host w (.lookup key style stage :: below) (afterSection w key style below ran) := by
  have accounts := Section.accounts runs
  obtain ⟨held, taken⟩ := held_afterSection w key style below ran
  constructor
  · refine List.perm_iff_count.2 fun handle => ?_
    have conserved := accounts.conserved.count_eq handle
    simp only [List.count_append] at conserved
    simp only [modules, acquired, released, abandoned, held_lookup, held, taken,
      afterSection_world, List.map_append, List.map_map, List.count_append, Function.comp_def,
      List.map_id', List.map_nil, List.count_nil,
      show Thread.taken (.lookup key style stage :: below) = below.taken from rfl]
    omega
  · intro entry mem
    rw [held] at mem
    rcases List.mem_append.1 mem with mem | mem
    · rcases accounts.same with none | ⟨same, load⟩
      · rw [none] at mem
        cases mem
      · rw [same, load] at mem
        exact .inl (List.mem_append_left _ mem)
    · exact .inl (List.mem_append_right _ mem)
  · intro down entry mem
    rw [held]
    rcases List.mem_append.1 mem with mem | mem
    · rcases accounts.same with none | ⟨-, load⟩
      · rw [← accounts.late down, none] at mem
        cases mem
      · rw [← accounts.late down, ← load] at mem
        exact .inl (List.mem_append_left _ mem)
    · exact .inl (List.mem_append_right _ mem)
  · rw [afterSection_world]
    rfl
  · intro down
    rw [afterSection_world]
    exact accounts.down.trans down
  · intro dropping
    rw [afterSection_world] at dropping
    exact .inl dropping

/-- The turn that ends the init of a module puts it into the hands of its load. -/
theorem balance_of_opened {pending : Pending} (opens : stage.opens = true)
    (thread : turn.thread =
      .lookup key style (stage.told (pending.outcome w.nextSerial)) :: below)
    (state : turn.world.state = w.state)
    (serial : turn.world.nextSerial = w.nextSerial + if pending.failure = none then 1 else 0)
    (dropping : turn.world.dropping = w.dropping) :
    Balance host w (.script (.init pending) [] :: .lookup key style stage :: below) turn := by
  have held : turn.thread.held = stage.opened.map (stage.load? key, ·) ++
      (acquired w.nextSerial (.script (.init pending) [] :: .lookup key style stage :: below) ++
        below.held) := by
    rw [thread, held_lookup, Stage.opened_told opens, Stage.load?_told opens, List.map_append,
      List.append_assoc]
    cases outcome : pending.outcome w.nextSerial with
    | ok handle => simp [acquired, outcome, Except.toOption]
    | error failure => simp [acquired, outcome, Except.toOption]
  have taken : turn.thread.taken = below.taken := by
    rw [thread]
    rfl
  constructor
  · refine List.perm_iff_count.2 fun handle => ?_
    simp only [modules, held, taken, state, List.map_append, List.count_append]
    simp [Thread.held, Thread.taken, released, abandoned]
    omega
  · intro entry mem
    rw [held] at mem
    rcases List.mem_append.1 mem with mem | mem
    · exact .inl (List.mem_append_left _ mem)
    · rcases List.mem_append.1 mem with mem | mem
      · exact .inr mem
      · exact .inl (List.mem_append_right _ mem)
  · intro _ entry mem
    rw [held]
    rcases List.mem_append.1 mem with mem | mem
    · exact .inl (List.mem_append_left _ mem)
    · exact .inl (List.mem_append_right _ (List.mem_append_right _ mem))
  · rw [serial]
    cases failure : pending.failure with
    | none => simp [acquired, Pending.outcome, failure, Except.toOption]
    | some failure => simp [acquired, Pending.outcome, failure, Except.toOption]
  · intro down
    rwa [state]
  · intro going
    rw [dropping] at going
    exact .inl going

/-- The turn that begins to close a module takes it out of the hands that it is in. -/
theorem balance_of_close {reason : CloseReason} {handle : Handle} {todo : List Handle}
    {report report' : ReleaseReport} {upper : Thread}
    (script : upper = [] ∨ ∃ script, upper = [.script (.teardown handle) script])
    (thread : turn.thread = upper ++ .closing reason todo report' :: below) (mild : turn.Mild w) :
    Balance host w (.closing reason (handle :: todo) report :: below) turn := by
  have same : turn.thread.held = held (.closing reason todo report' :: below) ∧
      turn.thread.taken = taken (.closing reason todo report' :: below) := by
    rw [thread]
    rcases script with rfl | ⟨script, rfl⟩
    · exact ⟨rfl, rfl⟩
    · exact ⟨rfl, rfl⟩
  constructor
  · refine List.perm_iff_count.2 fun other => ?_
    simp only [modules, same.1, same.2, mild.state, List.count_append]
    cases reason with
    | shutdown =>
      simp [Thread.held, Thread.taken, released, abandoned, acquired, List.count_cons]
      omega
    | discard =>
      simp [Thread.held, Thread.taken, released, abandoned, acquired, List.count_cons]
      omega
  · intro entry mem
    rw [same.1] at mem
    cases reason with
    | shutdown => exact .inl mem
    | discard => exact .inl (List.mem_cons_of_mem _ mem)
  · intro _ entry mem
    rw [same.1]
    cases reason with
    | shutdown => exact .inl mem
    | discard =>
      rcases List.mem_cons.1 mem with rfl | mem
      · exact .inr List.mem_cons_self
      · exact .inl mem
  · exact mild.serial
  · intro down
    rwa [mild.state]
  · intro dropping
    rw [mild.dropping] at dropping
    exact .inl dropping

/-- A shutdown finds the modules in the handle set, and leaves none there. -/
theorem openModules_close (s : LoaderState) : s.close.openModules = [] :=
  rfl

/-- A shutdown that closes no module has none to close, or leaves all of them open. -/
theorem balance_of_shut {request : Request} (down : request.shuts = true)
    (thread : turn.thread = below) (state : turn.world.state = w.state.close)
    (serial : turn.world.nextSerial = w.nextSerial)
    (none : w.state.handles = none ∨ host.policy = .skip) :
    Balance host w (.request request :: below) turn := by
  have left : abandoned host.policy w.state (.request request :: below) = w.state.openModules := by
    rw [abandoned, down]
    rcases none with none | skip
    · rw [LoaderState.openModules, none]
      exact ite_self []
    · exact if_pos ⟨rfl, skip⟩
  constructor
  · rw [left, state, openModules_close, thread]
    simp [modules, acquired, released, Thread.held, Thread.taken]
  · intro entry mem
    rw [thread] at mem
    exact .inl mem
  · intro _ entry mem
    rw [thread]
    exact .inl mem
  · exact serial
  · intro _
    rw [state]
    rfl
  · intro _
    rw [state]
    exact .inr rfl

/-- A shutdown that closes modules has them in its hands. -/
theorem balance_of_release {request : Request} {set : HandleSet}
    (thread : turn.thread = .closing .shutdown set.reverse .zero :: below)
    (state : turn.world.state = w.state.close) (serial : turn.world.nextSerial = w.nextSerial)
    (handles : w.state.handles = some set) (policy : host.policy = .release) :
    Balance host w (.request request :: below) turn := by
  have found : w.state.openModules = set := by
    rw [LoaderState.openModules, handles]
    rfl
  constructor
  · rw [abandoned, policy, state, openModules_close, thread, found]
    refine List.perm_iff_count.2 fun handle => ?_
    simp [modules, acquired, released, Thread.held, Thread.taken]
    omega
  · intro entry mem
    rw [thread] at mem
    exact .inl mem
  · intro _ entry mem
    rw [thread]
    exact .inl mem
  · exact serial
  · intro _
    rw [state]
    rfl
  · intro _
    rw [state]
    exact .inr rfl

theorem served_handles (s : LoaderState) (request : Request) :
    (request.served s).handles = s.handles := by
  cases request with
  | register key payload => exact register_handles ..
  | registrar call => exact registerCall_handles ..
  | unregister key => exact unregister_handles ..
  | get key => rfl
  | tryGet key => rfl
  | names kind => rfl
  | mode kind => rfl
  | moduleCount => rfl
  | isShutDown => rfl
  | policy => rfl
  | shutdown => rfl
  | drop => rfl

/-- A call that is served in one section moves no module. -/
theorem balance_of_serve {request : Request} (up : request.shuts = false)
    (thread : turn.thread = below)
    (world : turn.world = { w with state := request.served w.state }) :
    Balance host w (.request request :: below) turn := by
  have handles := served_handles w.state request
  constructor
  · rw [abandoned, up, world, thread, LoaderState.openModules, LoaderState.openModules, handles]
    simp [modules, acquired, released, Thread.held, Thread.taken]
  · intro entry mem
    rw [thread] at mem
    exact .inl mem
  · intro _ entry mem
    rw [thread]
    exact .inl mem
  · rw [world]
    rfl
  · intro down
    rwa [world, LoaderState.isShutDown, handles]
  · intro dropping
    rw [world] at dropping
    exact .inl dropping

/-- No turn loses a module. -/
theorem turn_balance (h : Effect host me w turn thread) : Balance host w thread turn := by
  cases h with
  | act back mild =>
    exact .of_same (by rw [back]; rfl) (by rw [back]; rfl) mild (acquired_script ..) rfl rfl
  | call request called mild =>
    exact .of_same (by rw [called]; rfl) (by rw [called]; rfl) mild (acquired_script ..) rfl rfl
  | @seek request below key style up began mild =>
    have left : abandoned host.policy w.state (.request request :: below) = [] := by
      rw [abandoned, up]
      simp
    exact .of_same (by rw [began]; rfl) (by rw [began]; rfl) mild rfl rfl left
  | serve up back silent world => exact balance_of_serve up back world
  | shut down back silent state serial none => exact balance_of_shut down back state serial none
  | release down closes silent state serial handles policy =>
    exact balance_of_release closes state serial handles policy
  | @init key style stage after below pending script opening began mild =>
    have held : turn.thread.held = held (.lookup key style stage :: below) := by
      rw [began, held_lookup, ← Stage.opened_of_opening? opening,
        ← Stage.load?_of_opening? opening]
      rfl
    exact .of_same held (by rw [began]; rfl) mild rfl rfl rfl
  | @refused key style stage after below path failure opening told mild =>
    have opens := Stage.opens_of_opening? opening
    have held : turn.thread.held = held (.lookup key style stage :: below) := by
      rw [told, held_lookup, Stage.opened_told opens, Stage.load?_told opens,
        Stage.opened_of_opening? opening, Stage.load?_of_opening? opening, held_lookup]
      exact congrArg (List.map _ · ++ _) (List.append_nil _)
    exact .of_same held (by rw [told]; rfl) mild rfl rfl rfl
  | opened opens told silent state serial dropping =>
    exact balance_of_opened opens told state serial dropping
  | locked ran runs eq =>
    subst eq
    exact balance_of_locked runs
  | close upper report script closes mild => exact balance_of_close script closes mild
  | @closed handle reason todo report below report' back mild =>
    have same : turn.thread.held = held (.closing reason todo report :: below) ∧
        turn.thread.taken = taken (.closing reason todo report :: below) := by
      rw [back]
      cases reason with
      | shutdown => exact ⟨rfl, rfl⟩
      | discard => exact ⟨rfl, rfl⟩
    exact .of_same same.1 same.2 mild rfl rfl rfl
  | @finish reason report below back mild =>
    have same : turn.thread.held = held (.closing reason [] report :: below) ∧
        turn.thread.taken = taken (.closing reason [] report :: below) := by
      rw [back]
      cases reason with
      | shutdown => exact ⟨rfl, rfl⟩
      | discard => exact ⟨rfl, rfl⟩
    exact .of_same same.1 same.2 mild rfl rfl rfl

end Thread


/-! ## Histories -/

namespace Machine

/-- A module that was opened, with the thread and the load that opened it. -/
structure Opened where
  thread : ThreadId
  load : Option Job
  handle : Handle

namespace History

/-- The modules that were ever opened. -/
def opened (history : History) : List Opened :=
  history.flatMap fun step =>
    ((step.before.thread step.thread).acquired step.before.world.nextSerial).map
      fun entry => ⟨step.thread, entry.1, entry.2⟩

/-- The modules that were closed, once for each time. -/
def released (history : History) : List Handle :=
  history.flatMap fun step => (step.before.thread step.thread).released

/-- The modules that were left open for good. -/
def abandoned (policy : ReleasePolicy) (history : History) : List Handle :=
  history.flatMap fun step =>
    (step.before.thread step.thread).abandoned policy step.before.world.state

theorem opened_cons (step : Step) (history : History) :
    opened (step :: history) =
      ((step.before.thread step.thread).acquired step.before.world.nextSerial).map
        (fun entry => ⟨step.thread, entry.1, entry.2⟩) ++ history.opened :=
  List.flatMap_cons

theorem handles_opened_cons (step : Step) (history : History) :
    (opened (step :: history)).map Opened.handle =
      ((step.before.thread step.thread).acquired step.before.world.nextSerial).map Prod.snd ++
        history.opened.map Opened.handle := by
  rw [opened_cons, List.map_append, List.map_map]
  rfl

theorem opened_append (recent earlier : History) :
    opened (recent ++ earlier) = recent.opened ++ earlier.opened :=
  List.flatMap_append

theorem released_append (recent earlier : History) :
    released (recent ++ earlier) = recent.released ++ earlier.released :=
  List.flatMap_append

theorem abandoned_append (policy : ReleasePolicy) (recent earlier : History) :
    abandoned policy (recent ++ earlier) =
      recent.abandoned policy ++ earlier.abandoned policy :=
  List.flatMap_append

end History

/-- The modules in the hands of loads. -/
def held (m : Machine) : List Handle :=
  m.threads.flatMap fun thread => thread.held.map Prod.snd

/-- The handle set: the modules behind the lock, and those that a shutdown took from there and
has not closed yet. -/
def kept (m : Machine) : List Handle :=
  m.world.state.openModules ++ m.threads.flatMap Thread.taken

/-- A step in which the loader begins to close a module. -/
def Step.Releases (step : Step) (handle : Handle) : Prop :=
  ∃ turn, Thread.Releases step.before.world handle turn (step.before.thread step.thread) ∧
    step.after.thread step.thread = turn.thread ∧ step.after.world = turn.world ∧
      step.Emits turn.events

variable {hosts : Set Host} {modes : PerKind SearchMode} {m next : Machine} {history : History}
  {host : Host} {me t : ThreadId} {turn : Turn} {policy : ReleasePolicy}

/-- A step changes what is read off one thread only, unless that changes by waking: what is read
off the others stays. -/
theorem Takes.flatMap_others {α : Type} (takes : Takes host m me turn next) (f : Thread → List α)
    (woken : ∀ thread, f (thread.wakeIf turn.wakes) = f thread) :
    ∃ others, (m.threads.flatMap f).Perm (f (m.thread me) ++ others) ∧
      (next.threads.flatMap f).Perm (f turn.thread ++ others) := by
  have self : m.threads.get ⟨me, takes.lt⟩ = m.thread me := by
    simp [Machine.thread, List.getElem?_eq_getElem takes.lt]
  refine ⟨(m.threads.eraseIdx me).flatMap f, ?_, ?_⟩
  · rw [← self]
    exact ((List.getElem_cons_eraseIdx_perm takes.lt).flatMap_right f).symm
  · rw [takes.threads, List.flatMap_map]
    simp only [woken]
    exact (List.set_perm_cons_eraseIdx takes.lt turn.thread).flatMap_right f

theorem Takes.flatMap_perm {α : Type} (takes : Takes host m me turn next) (f : Thread → List α)
    (woken : ∀ thread, f (thread.wakeIf turn.wakes) = f thread) :
    (next.threads.flatMap f ++ f (m.thread me)).Perm (m.threads.flatMap f ++ f turn.thread) := by
  obtain ⟨others, was, became⟩ := takes.flatMap_others f woken
  have swapped : (f turn.thread ++ others ++ f (m.thread me)).Perm
      (f turn.thread ++ (f (m.thread me) ++ others)) := by
    rw [List.append_assoc]
    exact List.perm_append_comm.append_left _
  have joined := swapped.trans (was.symm.append_left (f turn.thread))
  exact (became.append_right _).trans (joined.trans List.perm_append_comm)

theorem Untouched.held (h : Untouched m next) : next.held = m.held := by
  rcases h.threads with same | ⟨script, longer⟩
  · rw [Machine.held, Machine.held, same]
  · rw [Machine.held, Machine.held, longer]
    simp [Thread.held]

theorem Untouched.kept (h : Untouched m next) : next.kept = m.kept := by
  rcases h.threads with same | ⟨script, longer⟩
  · rw [Machine.kept, Machine.kept, same, h.state]
  · rw [Machine.kept, Machine.kept, longer, h.state]
    simp [Thread.taken]

namespace Traced

/-- Each module that was opened is in one place. -/
theorem balance (h : Traced hosts modes m history) (same : ∀ host ∈ hosts, host.policy = policy) :
    (history.opened.map Opened.handle).Perm
      (m.held ++ m.kept ++ history.released ++ history.abandoned policy) := by
  refine h.invariant (P := fun m history => (history.opened.map Opened.handle).Perm
    (m.held ++ m.kept ++ history.released ++ history.abandoned policy)) ?_ ?_ ?_
  · exact .refl _
  · intro m next history balance untouched
    rwa [untouched.held, untouched.kept]
  · intro m next history host me turn _ balance mem takes
    have turned := Thread.turn_balance takes.effect
    refine List.perm_iff_count.2 fun handle => ?_
    have before := balance.count_eq handle
    have moved := turned.conserved.count_eq handle
    have held := (takes.flatMap_perm (fun thread => thread.held.map Prod.snd)
      (by simp)).count_eq handle
    have taken := (takes.flatMap_perm Thread.taken (by simp)).count_eq handle
    simp only [Thread.modules, same host mem, List.count_append] at moved
    simp only [List.count_append, Machine.held, Machine.kept] at before held taken
    simp only [History.handles_opened_cons, History.released, History.abandoned, List.flatMap_cons,
      List.count_append, Machine.held, Machine.kept, takes.world] at before ⊢
    omega

/-- The serial numbers of the modules that were opened, the latest first. -/
theorem serials (h : Traced hosts modes m history) :
    (history.opened.map fun opened => opened.handle.serial) =
      (List.range m.world.nextSerial).reverse := by
  refine h.invariant (P := fun m history => (history.opened.map fun opened =>
    opened.handle.serial) = (List.range m.world.nextSerial).reverse) ?_ ?_ ?_
  · rfl
  · intro m next history serials untouched
    rwa [untouched.serial]
  · intro m next history host me turn _ serials _ takes
    have serial := (Thread.turn_balance takes.effect).serial
    rw [← takes.world] at serial
    rw [serial, History.opened_cons, List.map_append, List.map_map]
    rcases Thread.acquired_cases m.world.nextSerial (m.thread me) with
      none | ⟨load, handle, one, eq⟩
    · rw [none]
      exact serials
    · rw [one, List.length_singleton, List.range_succ, List.reverse_append]
      simpa [eq] using serials

/-- A module in the hands of a load was opened by that load. -/
theorem opener (h : Traced hosts modes m history) {entry : Option Job × Handle}
    (mem : entry ∈ (m.thread t).held) : ⟨t, entry.1, entry.2⟩ ∈ history.opened := by
  refine h.invariant (P := fun m history => ∀ t, ∀ entry ∈ (m.thread t).held,
    ⟨t, entry.1, entry.2⟩ ∈ history.opened) ?_ ?_ ?_ t entry mem
  · intro t entry mem
    rw [Machine.thread_eq_nil (Nat.zero_le t)] at mem
    cases mem
  · intro m next history opener untouched t entry mem
    rcases untouched.thread t with same | ⟨-, script, started⟩
    · rw [same] at mem
      exact opener t entry mem
    · rw [started] at mem
      cases mem
  · intro m next history host me turn _ opener _ takes t entry mem
    rw [History.opened_cons]
    by_cases ht : t = me
    · subst ht
      rw [takes.thread_self, Thread.held_wakeIf] at mem
      rcases (Thread.turn_balance takes.effect).held entry mem with mem | mem
      · exact List.mem_append_right _ (opener t entry mem)
      · exact List.mem_append_left _ (List.mem_map_of_mem mem)
    · rw [takes.thread_of_ne ht, Thread.held_wakeIf] at mem
      exact List.mem_append_right _ (opener t entry mem)

/-- Once shut down the loader stays so, and a loader that has gone out of use has been shut
down. -/
theorem isShutDown_of_dropping (h : Traced hosts modes m history)
    (dropping : m.world.dropping = true) : m.world.state.isShutDown = true := by
  refine h.invariant (P := fun m _ => m.world.dropping = true → m.world.state.isShutDown = true)
    ?_ ?_ ?_ dropping
  · intro dropping
    cases dropping
  · intro m next _ down untouched dropping
    rw [untouched.dropping] at dropping
    rw [untouched.state]
    exact down dropping
  · intro m next _ host me turn _ down _ takes dropping
    have turned := Thread.turn_balance takes.effect
    rw [takes.world] at dropping ⊢
    rcases turned.dropping dropping with dropping | closed
    · exact turned.down (down dropping)
    · exact closed

/-- After shutdown a module leaves the hands of a load only to be closed by that load. -/
theorem late (h : Traced hosts modes m history) {step : Step} (mem : step ∈ history)
    (down : step.before.world.state.isShutDown = true) {entry : Option Job × Handle}
    (held : entry ∈ (step.before.thread t).held) :
    entry ∈ (step.after.thread t).held ∨
      t = step.thread ∧ entry.2 ∈ (step.before.thread t).released := by
  obtain ⟨host, -, turn, takes⟩ := h.exists_takes mem
  by_cases ht : t = step.thread
  · subst ht
    rw [takes.thread_self, Thread.held_wakeIf]
    rcases (Thread.turn_balance takes.effect).late down entry held with stays | closed
    · exact .inl stays
    · exact .inr ⟨rfl, closed⟩
  · rw [takes.thread_of_ne ht, Thread.held_wakeIf]
    exact .inl held

/-- A module counts as closed in the steps in which the loader begins to close it. -/
theorem releases_iff (h : Traced hosts modes m history) {step : Step} (mem : step ∈ history)
    {handle : Handle} :
    step.Releases handle ↔ handle ∈ (step.before.thread step.thread).released := by
  constructor
  · rintro ⟨turn, releases, -⟩
    exact releases.released
  · intro released
    obtain ⟨host, -, taken⟩ := h.taken mem
    obtain ⟨-, turn, turned, world, thread, trace⟩ := step_eq taken
    have releases := Thread.releases_of_turn released turned
    refine ⟨turn, releases, ?_, world, trace⟩
    rw [thread, moved_self, releases.wakeIf]

/-- Once all calls have returned no load and no shutdown has a module in its hands. -/
theorem places_of_returned (down : m.world.state.isShutDown = true)
    (returned : ∀ t < m.threads.length, (m.thread t).Returned) : m.held = [] ∧ m.kept = [] := by
  have idle : ∀ thread ∈ m.threads, thread.held = [] ∧ thread.taken = [] := by
    intro thread mem
    obtain ⟨t, lt, rfl⟩ := List.getElem_of_mem mem
    obtain ⟨rest, program⟩ := returned t lt
    rw [Machine.thread, List.getElem?_eq_getElem lt, Option.getD_some] at program
    rw [program]
    exact ⟨rfl, rfl⟩
  have shut := LoaderState.openModules_of_shutDown down
  constructor
  · refine List.flatMap_eq_nil_iff.2 fun thread mem => ?_
    rw [(idle thread mem).1]
    rfl
  · rw [Machine.kept, shut, List.nil_append]
    exact List.flatMap_eq_nil_iff.2 fun thread mem => (idle thread mem).2

end Traced

/-- The loader has custody of its modules: each one that was opened is in the hands of the load
that opened it, in the handle set, closed, or left open for good, in one of these places and
once.  After shutdown it leaves the hands of its load only to be closed by it.  It is closed in
the step in which its script goes on top of the thread, or its library is unmapped.  Once the
loader has been shut down, as it has when it goes out of use, and all calls have returned, each
module has been closed once, if modules are closed at all. -/
structure Custody (policy : ReleasePolicy) (m : Machine) (history : History) : Prop where
  distinct : (history.opened.map fun opened => opened.handle.serial).Nodup
  balance : (history.opened.map Opened.handle).Perm
    (m.held ++ m.kept ++ history.released ++ history.abandoned policy)
  opener : ∀ t, ∀ entry ∈ (m.thread t).held, ⟨t, entry.1, entry.2⟩ ∈ history.opened
  late : ∀ step ∈ history, step.before.world.state.isShutDown = true →
    ∀ t, ∀ entry ∈ (step.before.thread t).held, entry ∈ (step.after.thread t).held ∨
      t = step.thread ∧ entry.2 ∈ (step.before.thread t).released
  closes : ∀ step ∈ history, ∀ handle,
    step.Releases handle ↔ handle ∈ (step.before.thread step.thread).released
  dropped : m.world.dropping = true → m.world.state.isShutDown = true
  ended : policy = .release → m.world.state.isShutDown = true →
    (∀ t < m.threads.length, (m.thread t).Returned) →
      (history.opened.map Opened.handle).Perm history.released

/-- Along every history the loader has custody of its modules. -/
theorem Traced.custody (h : Traced hosts modes m history)
    (same : ∀ host ∈ hosts, host.policy = policy) : Custody policy m history := by
  constructor
  · rw [h.serials, List.nodup_reverse]
    exact List.nodup_range
  · exact h.balance same
  · intro t entry mem
    exact h.opener mem
  · intro step mem down t entry held
    exact h.late mem down held
  · intro step mem handle
    exact h.releases_iff mem
  · exact h.isShutDown_of_dropping
  · intro release down returned
    have balance := h.balance same
    obtain ⟨held, kept⟩ := Traced.places_of_returned down returned
    have abandoned : history.abandoned policy = [] := by
      refine List.flatMap_eq_nil_iff.2 fun step _ => ?_
      rw [release]
      unfold Thread.abandoned
      split
      · simp
      · rfl
    rw [held, kept, abandoned] at balance
    simpa using balance

/-- A host with a module for every name, which registers that name. -/
def dutifulHost : Host :=
  let registers (name : String) : Script := [.registrar (.checked ⟨.filter, name⟩ (.word 7))]
  let opening (path : Path) : Opening :=
    if path = .ofText "a" then .run (registers "a") none (.run [] none)
    else .run (registers "b") none (.run [] none)
  ⟨⟨fun _ name => ⟨.ofText name, true⟩, fun _ => []⟩, ⟨opening⟩, .release⟩

/-- A thread loads a module and shuts the loader down while another one is loading. -/
def lateLoad : Machine × History :=
  let lookup (name : String) : Action := .request (.tryGet ⟨.filter, name⟩)
  (((Machine.initial (.ofFn fun _ => .byName)).spawn [lookup "a", .request .shutdown]).spawn
    [lookup "b"]).runWith History.note dutifulHost
      (List.replicate 8 0 ++ List.replicate 4 1 ++ List.replicate 5 0 ++ List.replicate 8 1) []

theorem traced_lateLoad :
    Traced {dutifulHost} (.ofFn fun _ => .byName) lateLoad.1 lateLoad.2 :=
  ((Recorded.initial.spawn _).spawn _).runWith (Set.mem_singleton dutifulHost) _

/-- Both modules have been closed: one by the shutdown, one by the load that ended after it. -/
theorem custody_lateLoad :
    (∀ host ∈ ({dutifulHost} : Set Host), host.policy = .release) ∧
      Custody .release lateLoad.1 lateLoad.2 ∧
        lateLoad.2.released.map Handle.serial = [1, 0] := by
  have releases : ∀ host ∈ ({dutifulHost} : Set Host), host.policy = .release := by
    intro host mem
    rw [Set.mem_singleton_iff.1 mem]
    rfl
  exact ⟨releases, traced_lateLoad.custody releases, by rfl⟩

end Machine

end PluginHost
