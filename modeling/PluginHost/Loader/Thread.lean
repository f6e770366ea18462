import PluginHost.Loader.Lookup

/-!
# What a thread does next

A thread is a stack of frames: scripts that are being run, calls of the loader that
have not come back, and modules that are being closed.  The frame on top says what the
thread does next.  One turn of a thread is one lock section of the loader, one call of
the linker, or one step of a script; between two turns other threads may take theirs.
-/

namespace PluginHost

/-! ## Frames -/

/-- How the result of a lookup is reported. -/
inductive Style where
  /-- A failure is reported as a notice only. -/
  | quiet
  /-- A failure is part of the result. -/
  | full
deriving DecidableEq, Repr

/-- A module whose init is running, and what comes of it. -/
structure Pending where
  path : Path
  failure : Option LoadError
  teardown : Teardown
  /-- Whether its actions are recorded. -/
  recorded : Bool

/-- Whose script it is. -/
inductive Role where
  | program
  | init (pending : Pending)
  | teardown (handle : Handle)

/-- Why modules are closed. -/
inductive CloseReason where
  /-- The loader is being shut down. -/
  | shutdown
  /-- They were opened and cannot be kept. -/
  | discard
deriving DecidableEq, Repr

/-- An entry of a thread's stack. -/
inductive Frame where
  | script (role : Role) (rest : Script)
  /-- A call of the loader that has begun. -/
  | request (request : Request)
  | lookup (key : Key) (style : Style) (stage : Stage)
  /-- Modules that are closed one after the other. -/
  | closing (reason : CloseReason) (todo : List Handle) (report : ReleaseReport)

/-- A thread: its frames, the innermost first. -/
abbrev Thread := List Frame

/-- What all threads share. -/
structure World where
  state : LoaderState
  /-- The mapped libraries, one entry for each time one was mapped. -/
  mapped : List Path
  /-- The serial number of the next module that opens. -/
  nextSerial : Nat
  /-- The gates that are open. -/
  gates : List String
  /-- Whether the loader is going out of use. -/
  dropping : Bool

/-- What one turn of a thread comes to. -/
structure Turn where
  thread : Thread
  world : World
  events : List Event
  /-- Whether all waiting threads are woken. -/
  wakes : Bool

/-- How the result of an action is observed. -/
def Role.events : Role → Reply → List Event
  | .program, reply => [.returned reply]
  | .init pending, reply => if pending.recorded then [.acted reply] else []
  | .teardown _, reply => [.acted reply]

namespace Thread

/-! ## Results of actions -/

/-- The turn that ends an action with a reply; the script below goes on. -/
def answer (w : World) (below : Thread) (reply : Reply) (events : List Event) (wakes : Bool) :
    Turn :=
  match below with
  | .script role _ :: _ => ⟨below, w, events ++ role.events reply, wakes⟩
  | _ => ⟨below, w, events, wakes⟩

/-- The result of a lookup, and what is reported beside it. -/
def lookupReply (key : Key) : Style → Except LoadError Payload → Reply × List Event
  | .quiet, .ok payload => (.payload (some payload), [])
  | .quiet, .error failure =>
    (.payload none, [.notice (.lookupFailed key.kind key.name failure)])
  | .full, result => (.lookup result, [])

/-- The turn that runs a lock section of a lookup. -/
def afterSection (w : World) (key : Key) (style : Style) (below : Thread) (ran : Section) : Turn :=
  let w := { w with state := ran.state }
  match ran.next with
  | .answer result =>
    let (reply, events) := lookupReply key style result
    answer w below reply (ran.events ++ events) ran.wakes
  | .stage stage => ⟨.lookup key style stage :: below, w, ran.events, ran.wakes⟩
  | .discard handles stage =>
    let resumed := .lookup key style stage :: below
    ⟨.closing .discard handles .zero :: resumed, w, ran.events, ran.wakes⟩

/-! ## Opening modules -/

/-- What comes of opening a path is handed to the lookup that asked for it. -/
def deliver (w : World) (path : Path) (outcome : Except LoadError Handle) (events : List Event) :
    Thread → Turn
  | .lookup key style (.loadingBulk todo opened) :: below =>
    match outcome with
    | .ok handle =>
      ⟨.lookup key style (.loadingBulk todo (opened ++ [handle])) :: below, w, events, false⟩
    | .error failure =>
      ⟨.lookup key style (.loadingBulk todo opened) :: below, w,
        events ++ [.notice (.candidateSkipped key.kind path failure)], false⟩
  | .lookup key style (.loadingName load file) :: below =>
    ⟨.lookup key style (.openedName load file outcome) :: below, w, events, false⟩
  | thread => ⟨thread, w, events, false⟩

/-- An event of a library, if what happens to it is recorded. -/
def libraryEvent (library : Library) (event : Path → Event) : List Event :=
  if library.recorded then [event library.file] else []

/-- Unmap a library once.  It is gone when it was mapped no more often than unmapped. -/
def unmap (w : World) (library : Library) : World × List Event :=
  let mapped := w.mapped.erase library.file
  ({ w with mapped := mapped },
    if mapped.contains library.file then [] else libraryEvent library .unmapped)

/-- The turn that opens a path for the lookup on top of a thread. -/
def beginOpening (host : Host) (w : World) (path : Path) (thread : Thread) : Turn :=
  let events := [.notice (.opening path), .opened path]
  match host.linker.opening path with
  | .refused failure => deliver w path (.error failure) events thread
  | .run init failure teardown =>
    ⟨.script (.init ⟨path, failure, teardown, true⟩) init :: thread, w, events, false⟩
  | .map library =>
    let w := { w with mapped := library.file :: w.mapped }
    let events := events ++
      if library.version.isSome then libraryEvent library .versionAsked else []
    match library.fault? with
    | some reason =>
      let (w, gone) := unmap w library
      deliver w path (.error (.loadFailed path reason)) (events ++ gone) thread
    | none =>
      ⟨.script (.init ⟨path, none, .unmap library, library.recorded⟩) (library.init.getD [])
          :: thread, w,
        events ++ .notice (.runningInit path) :: libraryEvent library .initStarted, false⟩

/-- The turn after the init of a module. -/
def finishOpening (w : World) (pending : Pending) (thread : Thread) : Turn :=
  match pending.failure with
  | some failure => deliver w pending.path (.error failure) [] thread
  | none =>
    deliver { w with nextSerial := w.nextSerial + 1 } pending.path
      (.ok ⟨w.nextSerial, pending.path, pending.teardown⟩) [] thread

/-! ## Closing modules -/

/-- The turn after a module was closed, or failed to close. -/
def finishClosing (w : World) (path : Path) (failure : Option LoadError) (events : List Event) :
    Thread → Turn
  | .closing reason todo report :: below =>
    let notices : List Event :=
      match reason, failure with
      | .shutdown, none => [.notice (.released path)]
      | .shutdown, some failure => [.notice (.releaseFailed path failure)]
      | .discard, none => []
      | .discard, some failure => [.notice (.discardFailed path failure)]
    ⟨.closing reason todo (report.count failure.isNone) :: below, w, events ++ notices, false⟩
  | thread => ⟨thread, w, events, false⟩

/-- The turn that begins to close a module; `thread` is left with the others. -/
def beginClosing (w : World) (handle : Handle) (thread : Thread) : Turn :=
  match handle.teardown with
  | .run script _ =>
    ⟨.script (.teardown handle) script :: thread, w, [.closing handle.path], false⟩
  | .unmap library =>
    let (w, gone) := unmap w library
    finishClosing w handle.path none gone thread

/-- The turn after the script of a module that is being closed. -/
def finishTeardown (w : World) (handle : Handle) (thread : Thread) : Turn :=
  match handle.teardown with
  | .run _ failure => finishClosing w handle.path failure [] thread
  | .unmap _ => finishClosing w handle.path none [] thread

/-! ## Calls of the loader -/

/-- Register a payload, in one lock section. -/
def register (s : LoaderState) (key : Key) (payload : Payload) :
    LoaderState × Except LoadError Unit × List Event :=
  if key.name.isEmpty then
    (s, .error (.invalidArgument .emptyName), [.notice (.namelessRefused key.kind)])
  else if s.isShutDown then (s, .error .shutDown, [])
  else
    match s.registry.insert key payload with
    | .ok registry =>
      ({ s with registry := registry }, .ok (), [.notice (.registered key.kind key.name)])
    | .error failure =>
      (s, .error failure, [.notice (.registrationRejected key.kind key.name failure)])

/-- Register what a registrar call asks for. -/
def registerCall (s : LoaderState) (call : HostCall) :
    LoaderState × Except LoadError Unit × List Event :=
  let (s, result, events) : LoaderState × Except LoadError Unit × List Event :=
    match call.registration with
    | .error failure => (s, .error failure, [])
    | .ok (key, payload) => register s key payload
  match result with
  | .ok () => (s, .ok (), events)
  | .error failure => (s, .error failure, events ++ [.notice (.registrarRefused failure)])

/-- Take a key out of the registry, in one lock section. -/
def unregister (s : LoaderState) (key : Key) : LoaderState × Except LoadError Unit × List Event :=
  if s.isShutDown then (s, .error .shutDown, [])
  else
    match s.registry.remove key with
    | .ok (_, registry) =>
      ({ s with registry := registry }, .ok (), [.notice (.unregistered key.kind key.name)])
    | .error failure => (s, .error failure, [])

/-- The turn that shuts the loader down: the registry is emptied and every waiting thread
woken, then the open modules are closed or left open. -/
def shutDown (host : Host) (w : World) (below : Thread) : Turn :=
  let down := { w with state := w.state.close }
  match w.state.handles with
  | none => answer down below (.report .zero) [] true
  | some handles =>
    let events := [.notice (.shuttingDown handles.length)]
    match host.policy with
    | .skip =>
      answer down below (.report (HandleSet.report handles .skip))
        (events ++ [.notice (.leftOpen handles.length)]) true
    | .release =>
      let todo := HandleSet.closingOrder handles .release
      ⟨.closing .shutdown todo .zero :: below, down, events, true⟩

/-- The turn that serves a call of the loader. -/
def serve (host : Host) (w : World) (below : Thread) : Request → Turn
  | .get key => ⟨.lookup key .quiet .entering :: below, w, [], false⟩
  | .tryGet key => ⟨.lookup key .full .entering :: below, w, [], false⟩
  | .register key payload =>
    let (s, result, events) := register w.state key payload
    answer { w with state := s } below (.done result) events false
  | .registrar call =>
    let (s, result, events) := registerCall w.state call
    answer { w with state := s } below (.accepted result.isOk) events false
  | .unregister key =>
    let (s, result, events) := unregister w.state key
    answer { w with state := s } below (.done result) events false
  | .names kind => answer w below (.names (w.state.registry.names kind)) [] false
  | .mode kind => answer w below (.mode (w.state.modes.get kind)) [] false
  | .moduleCount => answer w below (.count w.state.moduleCount) [] false
  | .isShutDown => answer w below (.flag w.state.isShutDown) [] false
  | .policy => answer w below (.policy host.policy) [] false
  | .shutdown => shutDown host w below
  | .drop => shutDown host { w with dropping := true } below

/-! ## Turns -/

/-- The turn that begins an action of a script; `below` goes on with the script after it.
None while the action stands at a closed gate. -/
def begin (w : World) (role : Role) (below : Thread) : Action → Option Turn
  | .gate id => if w.gates.contains id then some (answer w below .passed [] false) else none
  | .request request =>
    if w.dropping then some (answer w below .dropped [] false)
    else some ⟨.request request :: below, w, [], false⟩
  | .nullPayload =>
    some (answer w below (if w.dropping then .dropped else .nullRefused) [] false)
  | .registrar call =>
    match role with
    | .init _ =>
      match call.hostCall? with
      | none => some (answer w below (.accepted false) [] false)
      | some hostCall => some ⟨.request (.registrar hostCall) :: below, w, [], false⟩
    | _ => some (answer w below .noRegistrar [] false)
  | .registrarNull =>
    match role with
    | .init _ => some (answer w below .nullRefused [] false)
    | _ => some (answer w below .noRegistrar [] false)

/-- The turn of a lookup by its stage; none while it waits. -/
def lookupTurn (host : Host) (me : ThreadId) (w : World) (key : Key) (style : Style)
    (below : Thread) : Stage → Option Turn
  | .entering => some (afterSection w key style below (w.state.enter host me key))
  | .awaitingBulk false | .awaitingLoad _ false => none
  | .awaitingBulk true => some (afterSection w key style below (w.state.resumeBulk host me key))
  | .awaitingLoad load true =>
    some (afterSection w key style below (w.state.resumeLoad host me key load))
  | .loadingBulk [] opened =>
    some (afterSection w key style below (w.state.settled host me key opened))
  | .loadingBulk (path :: todo) opened =>
    some (beginOpening host w path (.lookup key style (.loadingBulk todo opened) :: below))
  | .closingBulk =>
    some (afterSection w key style below ⟨w.state, .answer (.error .shutDown), [], false⟩)
  | .loadingName load path =>
    some (beginOpening host w path (.lookup key style (.loadingName load path) :: below))
  | .openedName load path outcome =>
    some (afterSection w key style below (w.state.adopt key load path outcome))
  | .closingName load failure =>
    some (afterSection w key style below (w.state.endLoad key load (.error failure) []))

/-- The next turn of a thread; none if it is over, waits, or stands at a closed gate. -/
def turn (host : Host) (me : ThreadId) (w : World) : Thread → Option Turn
  | [] => none
  | .script .program [] :: _ => none
  | .script (.init pending) [] :: below => some (finishOpening w pending below)
  | .script (.teardown handle) [] :: below => some (finishTeardown w handle below)
  | .script role (action :: rest) :: below => begin w role (.script role rest :: below) action
  | .request request :: below => some (serve host w below request)
  | .lookup key style stage :: below => lookupTurn host me w key style below stage
  | .closing .shutdown [] report :: below => some (answer w below (.report report) [] false)
  | .closing .discard [] _ :: below => some ⟨below, w, [], false⟩
  | .closing reason (handle :: todo) report :: below =>
    some (beginClosing w handle (.closing reason todo report :: below))

/-- A thread whose lookup waits, woken. -/
def wake : Thread → Thread
  | .lookup key style (.awaitingBulk _) :: below =>
    .lookup key style (.awaitingBulk true) :: below
  | .lookup key style (.awaitingLoad load _) :: below =>
    .lookup key style (.awaitingLoad load true) :: below
  | thread => thread

/-! ## Small facts -/

/-- The script of a program, an init or a teardown goes on with its next action. -/
theorem turn_script (host : Host) (me : ThreadId) (w : World) (role : Role) (action : Action)
    (rest : Script) (below : Thread) :
    turn host me w (.script role (action :: rest) :: below) =
      begin w role (.script role rest :: below) action := by
  cases role <;> rfl

/-- A thread that has modules to close begins with the first of them, for whatever reason. -/
theorem turn_closing (host : Host) (me : ThreadId) (w : World) (reason : CloseReason)
    (handle : Handle) (todo : List Handle) (report : ReleaseReport) (below : Thread) :
    turn host me w (.closing reason (handle :: todo) report :: below) =
      some (beginClosing w handle (.closing reason todo report :: below)) := by
  cases reason <;> rfl

end Thread

end PluginHost
