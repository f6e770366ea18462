import PluginHost.Proofs.Opening
import PluginHost.Proofs.Outcome

/-!
# What a turn does

A turn is decided by the frame on top of a thread's stack.  This module says once, for
each kind of turn, which stack it leaves, what it changes behind the lock, and whether it
may ask the resolver: only a lock section of a lookup asks the resolver, and only such
a section, a call that is served in one section, and a shutdown change what is behind the
lock.

Main results:

- Theorem `Thread.turn_effect`: what every turn does, by the frame on top.
- Theorem `Thread.Effect.locked_cases`: what every turn does behind the lock.
- Theorem `Thread.afterSection_events`: the turn of a lock section asks the resolver what the
  section asks.
-/

namespace PluginHost

/-! ## Stages -/

namespace Stage

/-- The file that a lookup opens next, and the stage that it has then reached. -/
def opening? : Stage → Option (Path × Stage)
  | loadingBulk (path :: todo) opened => some (path, loadingBulk todo opened)
  | loadingName load path => some (path, loadingName load path)
  | _ => none

/-- Whether a lookup is told at this stage what came of opening a file. -/
def opens : Stage → Bool
  | loadingBulk _ _ | loadingName _ _ => true
  | _ => false

/-- The stage of a lookup that has been told what came of opening a file. -/
def told (outcome : Except LoadError Handle) : Stage → Stage
  | loadingBulk todo opened =>
    match outcome with
    | .ok handle => loadingBulk todo (opened ++ [handle])
    | .error _ => loadingBulk todo opened
  | loadingName load path => openedName load path outcome
  | stage => stage

theorem opens_of_opening? {stage after : Stage} {path : Path}
    (h : stage.opening? = some (path, after)) : after.opens = true := by
  unfold opening? at h
  split at h
  · cases h
    rfl
  · cases h
    rfl
  · cases h

end Stage

/-- What comes of opening a module whose init has returned. -/
def Pending.outcome (pending : Pending) (serial : Nat) : Except LoadError Handle :=
  match pending.failure with
  | some failure => .error failure
  | none => .ok ⟨serial, pending.path, pending.teardown⟩

/-! ## Calls of the loader -/

/-- The state after a call that is served in one lock section. -/
def Request.served (s : LoaderState) : Request → LoaderState
  | .register key payload => (Thread.register s key payload).1
  | .registrar call => (Thread.registerCall s call).1
  | .unregister key => (Thread.unregister s key).1
  | _ => s

/-- Whether a call shuts the loader down. -/
def Request.shuts : Request → Bool
  | .shutdown | .drop => true
  | _ => false

/-- Whether an event is a call of the resolver. -/
def Event.asks : Event → Bool
  | resolvedOne _ | resolvedAll _ => true
  | _ => false

/-- A turn asks the resolver nothing. -/
def Turn.Silent (turn : Turn) : Prop :=
  ∀ event ∈ turn.events, event.asks = false

/-- A turn asks the resolver nothing, changes nothing behind the lock, opens no module and
leaves the loader in use. -/
structure Turn.Mild (turn : Turn) (w : World) : Prop where
  silent : turn.Silent
  state : turn.world.state = w.state
  serial : turn.world.nextSerial = w.nextSerial
  dropping : turn.world.dropping = w.dropping

namespace Thread

/-- A call that is served in one lock section leaves loads and waits alone. -/
theorem served_sameLoads (s : LoaderState) (request : Request) :
    s.SameLoads (request.served s) := by
  cases request with
  | register key payload => exact register_sameLoads s key payload
  | registrar call => exact registerCall_sameLoads s call
  | unregister key => exact unregister_sameLoads s key
  | get key => exact .refl s
  | tryGet key => exact .refl s
  | names kind => exact .refl s
  | mode kind => exact .refl s
  | moduleCount => exact .refl s
  | isShutDown => exact .refl s
  | policy => exact .refl s
  | shutdown => exact .refl s
  | drop => exact .refl s

/-! ## Effects -/

/-- What a turn of `me` does, by the stack that it begins with. -/
inductive Effect (host : Host) (me : ThreadId) (w : World) (turn : Turn) : Thread → Prop
  /-- An action of a script is over at once. -/
  | act {role : Role} {action : Action} {rest : Script} {below : Thread}
      (thread : turn.thread = .script role rest :: below) (mild : turn.Mild w) :
      Effect host me w turn (.script role (action :: rest) :: below)
  /-- An action of a script calls the loader. -/
  | call {role : Role} {action : Action} {rest : Script} {below : Thread} (request : Request)
      (thread : turn.thread = .request request :: .script role rest :: below)
      (mild : turn.Mild w) : Effect host me w turn (.script role (action :: rest) :: below)
  /-- A lookup begins. -/
  | seek {request : Request} {below : Thread} (key : Key) (style : Style)
      (up : request.shuts = false)
      (thread : turn.thread = .lookup key style .entering :: below) (mild : turn.Mild w) :
      Effect host me w turn (.request request :: below)
  /-- A call is served in one lock section. -/
  | serve {request : Request} {below : Thread} (up : request.shuts = false)
      (thread : turn.thread = below) (silent : turn.Silent)
      (world : turn.world = { w with state := request.served w.state }) :
      Effect host me w turn (.request request :: below)
  /-- The loader is shut down, with no module to close. -/
  | shut {request : Request} {below : Thread} (down : request.shuts = true)
      (thread : turn.thread = below) (silent : turn.Silent)
      (state : turn.world.state = w.state.close) (serial : turn.world.nextSerial = w.nextSerial)
      (none : w.state.handles = none ∨ host.policy = .skip) :
      Effect host me w turn (.request request :: below)
  /-- The loader is shut down, and its open modules are closed. -/
  | release {request : Request} {below : Thread} {set : HandleSet}
      (down : request.shuts = true)
      (thread : turn.thread = .closing .shutdown set.reverse .zero :: below)
      (silent : turn.Silent) (state : turn.world.state = w.state.close)
      (serial : turn.world.nextSerial = w.nextSerial) (open' : w.state.handles = some set)
      (policy : host.policy = .release) : Effect host me w turn (.request request :: below)
  /-- A file is being opened, and its init begins. -/
  | init {key : Key} {style : Style} {stage after : Stage} {below : Thread} (pending : Pending)
      (script : Script) (opening : stage.opening? = some (pending.path, after))
      (thread : turn.thread = .script (.init pending) script :: .lookup key style after :: below)
      (mild : turn.Mild w) : Effect host me w turn (.lookup key style stage :: below)
  /-- A file does not open. -/
  | refused {key : Key} {style : Style} {stage after : Stage} {below : Thread} {path : Path}
      (failure : LoadError) (opening : stage.opening? = some (path, after))
      (thread : turn.thread = .lookup key style (after.told (.error failure)) :: below)
      (mild : turn.Mild w) : Effect host me w turn (.lookup key style stage :: below)
  /-- The init of a module has returned. -/
  | opened {pending : Pending} {key : Key} {style : Style} {stage : Stage} {below : Thread}
      (opens : stage.opens = true)
      (thread : turn.thread =
        .lookup key style (stage.told (pending.outcome w.nextSerial)) :: below)
      (silent : turn.Silent) (state : turn.world.state = w.state)
      (serial : turn.world.nextSerial = w.nextSerial + if pending.failure = none then 1 else 0)
      (dropping : turn.world.dropping = w.dropping) :
      Effect host me w turn (.script (.init pending) [] :: .lookup key style stage :: below)
  /-- A lookup runs a lock section. -/
  | locked {key : Key} {style : Style} {stage : Stage} {below : Thread} (ran : Section)
      (runs : stage.lockSection? host me key w.state = some ran)
      (eq : turn = afterSection w key style below ran) :
      Effect host me w turn (.lookup key style stage :: below)
  /-- A module is closed, in one turn or by the script that this turn begins. -/
  | close {reason : CloseReason} {handle : Handle} {todo : List Handle}
      {report : ReleaseReport} {below : Thread} (upper : Thread) (report' : ReleaseReport)
      (script : upper = [] ∨ ∃ script, upper = [.script (.teardown handle) script])
      (thread : turn.thread = upper ++ .closing reason todo report' :: below)
      (mild : turn.Mild w) :
      Effect host me w turn (.closing reason (handle :: todo) report :: below)
  /-- The script that closes a module has returned. -/
  | closed {handle : Handle} {reason : CloseReason} {todo : List Handle}
      {report : ReleaseReport} {below : Thread} (report' : ReleaseReport)
      (thread : turn.thread = .closing reason todo report' :: below) (mild : turn.Mild w) :
      Effect host me w turn
        (.script (.teardown handle) [] :: .closing reason todo report :: below)
  /-- All of some modules are closed. -/
  | finish {reason : CloseReason} {report : ReleaseReport} {below : Thread}
      (thread : turn.thread = below) (mild : turn.Mild w) :
      Effect host me w turn (.closing reason [] report :: below)

/-! ## Turns that ask nothing -/

variable {host : Host} {me : ThreadId} {w : World} {turn : Turn} {thread below : Thread}
  {key : Key} {style : Style} {stage : Stage}

/-- The reply that ends an action asks nothing. -/
theorem answer_events (below : Thread) (reply : Reply) (events : List Event) (wakes : Bool) :
    ∃ extra, (∀ event ∈ extra, event.asks = false) ∧
      (answer w below reply events wakes).events = events ++ extra := by
  unfold answer
  split
  · next role rest frames =>
    refine ⟨role.events reply, ?_, rfl⟩
    intro event mem
    cases role with
    | program =>
      rw [List.mem_singleton.1 mem]
      rfl
    | teardown handle =>
      rw [List.mem_singleton.1 mem]
      rfl
    | init pending =>
      simp only [Role.events] at mem
      split at mem
      · rw [List.mem_singleton.1 mem]
        rfl
      · cases mem
  · exact ⟨[], List.forall_mem_nil _, (List.append_nil events).symm⟩

theorem answer_silent {reply : Reply} {events : List Event} {wakes : Bool}
    (h : ∀ event ∈ events, event.asks = false) :
    (answer w below reply events wakes).Silent := by
  intro event mem
  obtain ⟨extra, silent, eq⟩ := answer_events (w := w) below reply events wakes
  rw [eq] at mem
  rcases List.mem_append.1 mem with mem | mem
  · exact h event mem
  · exact silent event mem

theorem answer_mild {reply : Reply} {events : List Event} {wakes : Bool}
    (h : ∀ event ∈ events, event.asks = false) : (answer w below reply events wakes).Mild w :=
  ⟨answer_silent h, by simp, by simp, by simp⟩

theorem deliver_opens (path : Path) (outcome : Except LoadError Handle) (events : List Event)
    (opens : stage.opens = true) :
    (deliver w path outcome events (.lookup key style stage :: below)).thread =
      .lookup key style (stage.told outcome) :: below := by
  cases stage with
  | loadingBulk todo opened => cases outcome <;> rfl
  | loadingName load file => rfl
  | entering => cases opens
  | awaitingBulk woken => cases opens
  | awaitingLoad load woken => cases opens
  | closingBulk => cases opens
  | openedName load path outcome => cases opens
  | closingName load failure => cases opens

theorem deliver_silent {path : Path} {outcome : Except LoadError Handle} {events : List Event}
    (h : ∀ event ∈ events, event.asks = false) :
    (deliver w path outcome events thread).Silent := by
  unfold deliver
  split
  · split
    · exact h
    · intro event mem
      rcases List.mem_append.1 mem with mem | mem
      · exact h event mem
      · rw [List.mem_singleton.1 mem]
        rfl
  · exact h
  · exact h

theorem finishClosing_mild {path : Path} {failure : Option LoadError} {events : List Event}
    {world : World} (state : world.state = w.state) (serial : world.nextSerial = w.nextSerial)
    (dropping : world.dropping = w.dropping) (h : ∀ event ∈ events, event.asks = false) :
    (finishClosing world path failure events thread).Mild w := by
  unfold finishClosing
  split
  · next reason todo report below =>
    refine ⟨fun event mem => ?_, state, serial, dropping⟩
    rcases List.mem_append.1 mem with mem | mem
    · exact h event mem
    · cases reason <;> cases failure <;> simp at mem <;> simp [mem, Event.asks]
  · exact ⟨h, state, serial, dropping⟩

theorem libraryEvent_asks {library : Library} {event : Path → Event} {e : Event}
    (mem : e ∈ libraryEvent library event) : e = event library.file := by
  unfold libraryEvent at mem
  split at mem
  · exact List.mem_singleton.1 mem
  · cases mem

theorem unmap_silent {library : Library} {event : Event} (mem : event ∈ (unmap w library).2) :
    event.asks = false := by
  simp only [unmap] at mem
  split at mem
  · cases mem
  · rw [libraryEvent_asks mem]
    rfl

/-! ## Each kind of turn -/

theorem beginOpening_effect {path : Path} {after : Stage}
    (opening : stage.opening? = some (path, after))
    (h : beginOpening host w path (.lookup key style after :: below) = turn) :
    Effect host me w turn (.lookup key style stage :: below) := by
  have opens := Stage.opens_of_opening? opening
  subst h
  simp only [beginOpening]
  split
  · next failure _ =>
    refine .refused failure opening (deliver_opens _ _ _ opens)
      ⟨deliver_silent ?_, by simp, by simp, by simp⟩
    intro event mem
    simp only [List.mem_cons, List.not_mem_nil, or_false] at mem
    rcases mem with rfl | rfl <;> rfl
  · next init failure teardown _ =>
    refine .init ⟨path, failure, teardown, true⟩ init opening rfl ⟨?_, rfl, rfl, rfl⟩
    intro event mem
    simp only [List.mem_cons, List.not_mem_nil, or_false] at mem
    rcases mem with rfl | rfl <;> rfl
  · next library _ =>
    split
    · next reason _ =>
      refine .refused (.loadFailed path reason) opening (deliver_opens _ _ _ opens)
        ⟨deliver_silent ?_, by rw [deliver_world]; rfl, by rw [deliver_world]; rfl,
          by rw [deliver_world]; rfl⟩
      intro event mem
      simp only [List.mem_append, List.mem_cons, List.not_mem_nil, or_false] at mem
      rcases mem with ((rfl | rfl) | mem) | mem
      · rfl
      · rfl
      · split at mem
        · rw [libraryEvent_asks mem]
          rfl
        · cases mem
      · exact unmap_silent mem
    · refine .init ⟨path, none, .unmap library, library.recorded⟩ (library.init.getD []) opening
        rfl ⟨?_, rfl, rfl, rfl⟩
      intro event mem
      simp only [List.mem_append, List.mem_cons, List.not_mem_nil, or_false] at mem
      rcases mem with ((rfl | rfl) | mem) | rfl | mem
      · rfl
      · rfl
      · split at mem
        · rw [libraryEvent_asks mem]
          rfl
        · cases mem
      · rfl
      · rw [libraryEvent_asks mem]
        rfl

theorem finishOpening_effect {pending : Pending} (opens : stage.opens = true)
    (h : finishOpening w pending (.lookup key style stage :: below) = turn) :
    Effect host me w turn (.script (.init pending) [] :: .lookup key style stage :: below) := by
  subst h
  unfold finishOpening
  split
  · next failure failed =>
    refine .opened opens ?_ (deliver_silent (List.forall_mem_nil _)) (by simp)
      (by simp [failed]) (by simp)
    rw [deliver_opens _ _ _ opens, Pending.outcome, failed]
  · next well =>
    refine .opened opens ?_ (deliver_silent (List.forall_mem_nil _)) (by simp)
      (by simp [well]) (by simp)
    rw [deliver_opens _ _ _ opens, Pending.outcome, well]

theorem beginClosing_effect {reason : CloseReason} {handle : Handle} {todo : List Handle}
    {report : ReleaseReport}
    (h : beginClosing w handle (.closing reason todo report :: below) = turn) :
    Effect host me w turn (.closing reason (handle :: todo) report :: below) := by
  subst h
  unfold beginClosing
  split
  · next script failure _ =>
    refine .close [.script (.teardown handle) script] report (.inr ⟨script, rfl⟩) rfl
      ⟨fun event mem => ?_, rfl, rfl, rfl⟩
    rw [List.mem_singleton.1 mem]
    rfl
  · next library _ =>
    exact .close [] _ (.inl rfl) rfl
      (finishClosing_mild rfl rfl rfl fun event mem => unmap_silent mem)

theorem finishTeardown_effect {reason : CloseReason} {handle : Handle} {todo : List Handle}
    {report : ReleaseReport}
    (h : finishTeardown w handle (.closing reason todo report :: below) = turn) :
    Effect host me w turn
      (.script (.teardown handle) [] :: .closing reason todo report :: below) := by
  subst h
  unfold finishTeardown
  split
  · exact .closed _ rfl (finishClosing_mild rfl rfl rfl (List.forall_mem_nil _))
  · exact .closed _ rfl (finishClosing_mild rfl rfl rfl (List.forall_mem_nil _))

theorem register_silent (s : LoaderState) (key : Key) (payload : Payload) :
    ∀ event ∈ (register s key payload).2.2, event.asks = false := by
  intro event mem
  unfold register at mem
  split at mem
  · rw [List.mem_singleton.1 mem]
    rfl
  · split at mem
    · cases mem
    · split at mem
      · rw [List.mem_singleton.1 mem]
        rfl
      · rw [List.mem_singleton.1 mem]
        rfl

theorem registerCall_silent (s : LoaderState) (call : HostCall) :
    ∀ event ∈ (registerCall s call).2.2, event.asks = false := by
  have refusal : ∀ failure, ∀ event ∈ [Event.notice (.registrarRefused failure)],
      event.asks = false := by
    intro failure event mem
    rw [List.mem_singleton.1 mem]
    rfl
  intro event mem
  unfold registerCall at mem
  cases asked : call.registration with
  | error failure =>
    rw [asked] at mem
    exact refusal failure event mem
  | ok bound =>
    obtain ⟨key, payload⟩ := bound
    have silent := register_silent s key payload
    rw [asked] at mem
    dsimp only at mem
    cases result : (register s key payload).2.1 with
    | ok done =>
      rw [result] at mem
      exact silent event mem
    | error failure =>
      rw [result] at mem
      rcases List.mem_append.1 mem with mem | mem
      · exact silent event mem
      · exact refusal failure event mem

theorem unregister_silent (s : LoaderState) (key : Key) :
    ∀ event ∈ (unregister s key).2.2, event.asks = false := by
  intro event mem
  unfold unregister at mem
  split at mem
  · cases mem
  · split at mem
    · rw [List.mem_singleton.1 mem]
      rfl
    · cases mem

theorem shutDown_effect {request : Request} (world : World)
    (down : request.shuts = true) (state : world.state = w.state)
    (serial : world.nextSerial = w.nextSerial) (h : shutDown host world below = turn) :
    Effect host me w turn (.request request :: below) := by
  subst h
  rw [shutDown, state]
  dsimp only
  split
  · next none =>
    exact .shut down (by simp) (answer_silent (List.forall_mem_nil _)) (by simp)
      (by simp [serial]) (.inl none)
  · next set open' =>
    split
    · next policy =>
      refine .shut down (by simp) (answer_silent ?_) (by simp) (by simp [serial]) (.inr policy)
      intro event mem
      simp only [List.mem_append, List.mem_singleton] at mem
      rcases mem with rfl | rfl <;> rfl
    · next policy =>
      refine .release down rfl ?_ rfl serial open' policy
      intro event mem
      rw [List.mem_singleton.1 mem]
      rfl

/-- A call that is answered in the section that serves it. -/
theorem answer_effect {request : Request} {reply : Reply} {events : List Event}
    (up : request.shuts = false) (silent : ∀ event ∈ events, event.asks = false)
    (h : answer { w with state := request.served w.state } below reply events false = turn) :
    Effect host me w turn (.request request :: below) := by
  subst h
  exact .serve up (answer_thread ..) (answer_silent silent) (answer_world ..)

theorem serve_effect {request : Request} (h : serve host w below request = turn) :
    Effect host me w turn (.request request :: below) := by
  cases request with
  | shutdown => exact shutDown_effect w rfl rfl rfl h
  | drop =>
    exact shutDown_effect { w with dropping := true } rfl rfl rfl h
  | get key =>
    subst h
    exact .seek key .quiet rfl rfl ⟨List.forall_mem_nil _, rfl, rfl, rfl⟩
  | tryGet key =>
    subst h
    exact .seek key .full rfl rfl ⟨List.forall_mem_nil _, rfl, rfl, rfl⟩
  | register key payload => exact answer_effect rfl (register_silent w.state key payload) h
  | registrar call => exact answer_effect rfl (registerCall_silent w.state call) h
  | unregister key => exact answer_effect rfl (unregister_silent w.state key) h
  | names kind => exact answer_effect rfl (List.forall_mem_nil _) h
  | mode kind => exact answer_effect rfl (List.forall_mem_nil _) h
  | moduleCount => exact answer_effect rfl (List.forall_mem_nil _) h
  | isShutDown => exact answer_effect rfl (List.forall_mem_nil _) h
  | policy => exact answer_effect rfl (List.forall_mem_nil _) h

theorem begin_effect {role : Role} {action : Action} {rest : Script}
    (h : begin w role (.script role rest :: below) action = some turn) :
    Effect host me w turn (.script role (action :: rest) :: below) := by
  have answered : ∀ reply, some (answer w (.script role rest :: below) reply [] false) = some turn →
      Effect host me w turn (.script role (action :: rest) :: below) := by
    intro reply h
    cases h
    exact .act (answer_thread ..) (answer_mild (List.forall_mem_nil _))
  have called : ∀ request,
      some (Turn.mk (.request request :: .script role rest :: below) w [] false) = some turn →
        Effect host me w turn (.script role (action :: rest) :: below) := by
    intro request h
    cases h
    exact .call request rfl ⟨List.forall_mem_nil _, rfl, rfl, rfl⟩
  cases action with
  | gate id =>
    simp only [begin] at h
    split at h
    · exact answered _ h
    · cases h
  | request request =>
    simp only [begin] at h
    split at h
    · exact answered _ h
    · exact called request h
  | nullPayload => exact answered _ h
  | registrar call =>
    simp only [begin] at h
    split at h
    · split at h
      · exact answered _ h
      · exact called _ h
    · exact answered _ h
  | registrarNull =>
    simp only [begin] at h
    split at h
    · exact answered _ h
    · exact answered _ h

theorem lookupTurn_effect (h : lookupTurn host me w key style below stage = some turn) :
    Effect host me w turn (.lookup key style stage :: below) := by
  cases stage with
  | awaitingBulk woken =>
    cases woken with
    | false => cases h
    | true => exact .locked _ rfl (Option.some.inj h).symm
  | awaitingLoad load woken =>
    cases woken with
    | false => cases h
    | true => exact .locked _ rfl (Option.some.inj h).symm
  | loadingBulk todo opened =>
    cases todo with
    | nil => exact .locked _ rfl (Option.some.inj h).symm
    | cons path todo => exact beginOpening_effect rfl (Option.some.inj h)
  | loadingName load path => exact beginOpening_effect rfl (Option.some.inj h)
  | entering => exact .locked _ rfl (Option.some.inj h).symm
  | closingBulk => exact .locked _ rfl (Option.some.inj h).symm
  | openedName load path outcome => exact .locked _ rfl (Option.some.inj h).symm
  | closingName load failure => exact .locked _ rfl (Option.some.inj h).symm

/-- What every turn does, by the frame on top. -/
theorem turn_effect (shaped : thread.Shaped) (h : thread.turn host me w = some turn) :
    Effect host me w turn thread := by
  cases thread with
  | nil => cases h
  | cons frame below =>
    cases frame with
    | lookup key style stage => exact lookupTurn_effect h
    | request request => exact serve_effect (Option.some.inj h)
    | closing reason todo report =>
      cases todo with
      | nil =>
        cases reason with
        | shutdown =>
          cases h
          exact .finish (answer_thread ..) (answer_mild (List.forall_mem_nil _))
        | discard =>
          cases h
          exact .finish rfl ⟨List.forall_mem_nil _, rfl, rfl, rfl⟩
      | cons handle todo =>
        rw [turn_closing, Option.some.injEq] at h
        exact beginClosing_effect h
    | script role rest =>
      cases rest with
      | cons action rest =>
        rw [turn_script] at h
        exact begin_effect h
      | nil =>
        cases shaped with
        | program => cases h
        | push on shaped =>
          cases on with
          | initBulk => exact finishOpening_effect rfl (Option.some.inj h)
          | initName => exact finishOpening_effect rfl (Option.some.inj h)
          | teardown => exact finishTeardown_effect (Option.some.inj h)

/-! ## What is behind the lock -/

/-- What a turn of `me` does behind the lock, by the stack that it begins with. -/
inductive Locked (host : Host) (me : ThreadId) (w : World) (turn : Turn) : Thread → Prop
  /-- It changes nothing there. -/
  | nothing {thread : Thread} (silent : turn.Silent) (state : turn.world.state = w.state) :
      Locked host me w turn thread
  /-- It serves a call in one lock section. -/
  | serves {request : Request} {below : Thread} (silent : turn.Silent)
      (state : turn.world.state = request.served w.state) :
      Locked host me w turn (.request request :: below)
  /-- It shuts the loader down. -/
  | closes {thread : Thread} (silent : turn.Silent) (state : turn.world.state = w.state.close) :
      Locked host me w turn thread
  /-- It runs a lock section of a lookup. -/
  | runs {key : Key} {style : Style} {stage : Stage} {below : Thread} (ran : Section)
      (runs : stage.lockSection? host me key w.state = some ran)
      (eq : turn = afterSection w key style below ran) :
      Locked host me w turn (.lookup key style stage :: below)

/-- Every turn does one of these things behind the lock. -/
theorem Effect.locked_cases (h : Effect host me w turn thread) : Locked host me w turn thread := by
  have mild : turn.Mild w → Locked host me w turn thread := fun mild =>
    .nothing mild.silent mild.state
  cases h with
  | act _ calm => exact mild calm
  | call _ _ calm => exact mild calm
  | seek _ _ _ _ calm => exact mild calm
  | init _ _ _ _ calm => exact mild calm
  | refused _ _ _ calm => exact mild calm
  | close _ _ _ _ calm => exact mild calm
  | closed _ _ calm => exact mild calm
  | finish _ calm => exact mild calm
  | opened _ _ silent state _ _ => exact .nothing silent state
  | serve _ _ silent world => exact .serves silent (congrArg World.state world)
  | shut _ _ silent state _ _ => exact .closes silent state
  | release _ _ silent state _ _ _ => exact .closes silent state
  | locked ran runs eq => exact .runs ran runs eq

/-! ## Lock sections -/

/-- A lookup that runs a lock section takes its turn with it. -/
theorem turn_of_runs {ran : Section} (runs : stage.lockSection? host me key w.state = some ran)
    (style : Style) (below : Thread) :
    Thread.turn host me w (.lookup key style stage :: below) =
      some (afterSection w key style below ran) := by
  unfold Stage.lockSection? at runs
  split at runs
  · cases runs
    rfl
  · cases runs
    rfl
  · cases runs
    rfl
  · cases runs
    rfl
  · cases runs
    rfl
  · cases runs
    rfl
  · cases runs
    rfl
  · cases runs

theorem afterSection_world (ran : Section) :
    (afterSection w key style below ran).world = { w with state := ran.state } := by
  unfold afterSection
  split
  · exact answer_world ..
  · rfl
  · rfl

/-- What the turn of a lock section asks the resolver is what the section asks. -/
theorem afterSection_events (key : Key) (style : Style) (below : Thread) (ran : Section) :
    ∃ extra, (∀ event ∈ extra, event.asks = false) ∧
      (afterSection w key style below ran).events = ran.events ++ extra := by
  cases next : ran.next with
  | stage stage =>
    rw [afterSection_stage next]
    exact ⟨[], List.forall_mem_nil _, (List.append_nil _).symm⟩
  | discard handles stage =>
    rw [afterSection_discard next]
    exact ⟨[], List.forall_mem_nil _, (List.append_nil _).symm⟩
  | answer result =>
    have reported : ∀ event ∈ (lookupReply key style result).2, event.asks = false := by
      intro event mem
      cases style with
      | full => cases mem
      | quiet =>
        cases result with
        | ok payload => cases mem
        | error failure =>
          rw [List.mem_singleton.1 mem]
          rfl
    simp only [afterSection, next]
    obtain ⟨extra, silent, eq⟩ := answer_events (w := { w with state := ran.state }) below
      (lookupReply key style result).1 (ran.events ++ (lookupReply key style result).2) ran.wakes
    refine ⟨(lookupReply key style result).2 ++ extra, ?_, ?_⟩
    · intro event mem
      rcases List.mem_append.1 mem with mem | mem
      · exact reported event mem
      · exact silent event mem
    · rw [eq, List.append_assoc]

end Thread
end PluginHost
