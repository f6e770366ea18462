import PluginHost.Loader.Machine
import PluginHost.Log.Filter

/-!
# Scenarios

A scenario drives a machine from outside: it calls the loader on the main thread,
starts threads and opens gates.  After each instruction the threads run until none can
go on, and what happened is reported.  At the end every gate that still holds a thread
is opened, in alphabetical order, and the loader goes out of use.
-/

namespace PluginHost

/-! ## Instructions and reports -/

/-- What a scenario does next. -/
inductive Instruction where
  /-- Run an action on the main thread. -/
  | call (action : Action)
  /-- Start a thread. -/
  | spawn (name : String) (script : Script)
  /-- Open a gate for good. -/
  | openGate (id : String)
deriving DecidableEq

/-- The scripts that an instruction brings. -/
def Instruction.script : Instruction → Script
  | .call action => [action]
  | .spawn _ script => script
  | .openGate _ => []

/-- What can be asked of a loader at any time. -/
structure Snapshot where
  modes : List SearchMode
  names : List (List String)
  moduleCount : Nat
  isShutDown : Bool

/-- What came of an instruction. -/
structure Report where
  /-- The result of the action that was run on the main thread. -/
  reply : Option Reply
  /-- The gate that was opened because a thread stood there at the end. -/
  leftGate : Option String
  /-- What was observed, the first event first. -/
  events : List (ThreadId × Event)
  /-- What each thread other than the main thread is doing. -/
  threads : List (String × Status)
  snapshot : Snapshot

/-- A host, the modes of its kinds, and what is done with it. -/
structure Scenario where
  host : Host
  modes : PerKind SearchMode
  instructions : List Instruction

/-- A machine, and the names of its threads other than the main thread. -/
structure Session where
  machine : Machine
  names : List String

namespace Scenario

/-! ## Running -/

/-- What can be asked of the loader of a machine. -/
def snapshot (m : Machine) : Snapshot where
  modes := m.world.state.modes.toList
  names := Kind.all.map m.world.state.registry.names
  moduleCount := m.world.state.moduleCount
  isShutDown := m.world.state.isShutDown

/-- The session with its threads run until none can go on. -/
def settle (host : Host) (turns : Nat) (session : Session) : Session :=
  { session with machine := session.machine.settle host turns }

/-- The main thread. -/
def mainThread : ThreadId :=
  0

/-- The session in which an instruction has been carried out. -/
def begin (session : Session) : Instruction → Session
  | .call action =>
    { session with machine := { session.machine with
        threads := session.machine.threads.set mainThread [.script .program [action]] } }
  | .spawn name script => ⟨session.machine.spawn script, session.names ++ [name]⟩
  | .openGate id => { session with machine := session.machine.openGate id }

/-- The result of the action that the main thread ran. -/
def mainReply? (events : List (ThreadId × Event)) : Option Reply :=
  events.findSome? fun (thread, event) =>
    match event with
    | .returned reply => if thread = mainThread then some reply else none
    | _ => none

/-- Whether an event is the result of the main thread's own action. -/
def isMainReply (entry : ThreadId × Event) : Bool :=
  match entry with
  | (thread, .returned _) => thread = mainThread
  | _ => false

/-- The report on what happened since the last one, and the session without it. -/
def observe (session : Session) (leftGate : Option String) : Report × Session :=
  let m := session.machine
  let events := m.trace.reverse
  ({ reply := mainReply? events
     leftGate := leftGate
     events := events.filter fun entry => !isMainReply entry
     threads := session.names.zip (m.threads.tail.map (Thread.status m.world))
     snapshot := snapshot m },
   { session with machine := { m with trace := [] } })

/-- Carry an instruction out, and report on it. -/
def perform (host : Host) (turns : Nat) (session : Session) (instruction : Instruction) :
    Report × Session :=
  observe (settle host turns (begin session instruction)) none

/-- Carry instructions out in order, with a report on each. -/
def performAll (host : Host) (turns : Nat) : Session → List Instruction → List Report × Session
  | session, [] => ([], session)
  | session, instruction :: rest =>
    let (report, session) := perform host turns session instruction
    let (reports, session) := performAll host turns session rest
    (report :: reports, session)

/-- The gates that hold a thread. -/
def heldGates (m : Machine) : List String :=
  m.threads.filterMap fun thread =>
    match thread.status m.world with
    | .atGate id => some id
    | _ => none

/-- The alphabetically first of some texts. -/
def first? (texts : List String) : Option String :=
  (texts.mergeSort fun a b => a ≤ b).head?

/-- Open the gates that hold a thread, one after the other, at most the given number,
with a report on each. -/
def openHeld (host : Host) (turns : Nat) : Nat → Session → List Report × Session
  | 0, session => ([], session)
  | gates + 1, session =>
    match first? (heldGates session.machine) with
    | none => ([], session)
    | some id =>
      let opened := settle host turns (begin session (.openGate id))
      let (report, session) := observe opened (some id)
      let (reports, session) := openHeld host turns gates session
      (report :: reports, session)

/-! ## How far a scenario can go -/

/-- How often some actions stand at a gate. -/
def gateCount (script : Script) : Nat :=
  script.countP fun
    | .gate _ => true
    | _ => false

/-- A bound on the turns of a scenario.  Loads are nested no deeper than there are keys
and kinds, each script is no longer than all of them together, and a bulk load opens no
more paths than there are. -/
def turnBound (actions paths threads : Nat) : Nat :=
  Nat.pow (16 * (actions + paths + threads + 4)) (actions + 8)

/-! ## Whole scenarios -/

/-- What came of a scenario. -/
structure Outcome where
  /-- The notices of building the loader. -/
  built : List Notice
  reports : List Report
  /-- What was observed while the loader went out of use. -/
  dropped : List (ThreadId × Event)

/-- The notices of building a loader. -/
def buildNotices (policy : ReleasePolicy) : List Notice :=
  match policy with
  | .release => []
  | .skip => [.staysOpen]

/-- Run a scenario whose modules bring the given scripts and whose resolver lists no more
than the given number of paths. -/
def run (scenario : Scenario) (modules : List Script) (paths : Nat) : Outcome :=
  let scripts := scenario.instructions.map Instruction.script ++ modules
  let actions := scripts.flatten.length
  let turns := turnBound actions paths scenario.instructions.length
  let start : Session := ⟨(Machine.initial scenario.modes).spawn [], []⟩
  let (reports, session) := performAll scenario.host turns start scenario.instructions
  let (further, session) :=
    openHeld scenario.host turns (gateCount scripts.flatten) session
  let (last, _) := perform scenario.host turns session (.call (.request .drop))
  { built := buildNotices scenario.host.policy
    reports := reports ++ further
    dropped := last.events }

/-- Every notice of a scenario, the first one first. -/
def Outcome.notices (outcome : Outcome) : List Notice :=
  outcome.built ++
    (outcome.reports.flatMap (·.events) ++ outcome.dropped).filterMap fun entry =>
      entry.2.notice?

end Scenario

/-! ## What is shown of a scenario -/

/-- What is recorded of the events of a scenario. -/
structure Recording where
  /-- The calls of the resolver and the linker. -/
  calls : Bool
  /-- The notices. -/
  notices : Bool
deriving DecidableEq, Repr

/-- Whether an event is recorded. -/
def Recording.keeps (recording : Recording) (event : Event) : Bool :=
  (recording.calls || !event.isCall) && (recording.notices || event.notice?.isNone)

/-! ## The log of a scenario -/

/-- What the log of a scenario holds. -/
structure LogSummary where
  lines : Nat
  /-- The form of the log, if it holds a line. -/
  format : Option LogFormat
  /-- The notices, where the form tells them apart. -/
  notices : List Notice

/-- The log of some notices under two settings: the filter, and whether lines are JSON. -/
def LogSummary.ofNotices (filter json : Option Bytes) (notices : List Notice) : LogSummary :=
  let written := notices.filter (LogFilter.ofSetting filter).passes
  let format := LogFormat.ofSetting json
  { lines := format.lineCount written
    format := if written.isEmpty then none else some format
    notices :=
      match format with
      | .json => written
      | .text => [] }

end PluginHost
