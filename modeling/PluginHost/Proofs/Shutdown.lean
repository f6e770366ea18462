import PluginHost.Proofs.Directory

/-!
# Shutdown is final

A shutdown empties the registry and takes the open modules out of the loader's hands in one lock
section.  Lookups may be anywhere at that time: waiting, loading a kind, or opening a file whose
module is about to register payloads.  Each of them takes the lock again later, and this module
says that none of them brings anything back.

Main results:

- Theorem `Section.registry_of_down`: after shutdown no lock section of a lookup touches the
  registry.
- Theorem `Machine.Traced.registry_eq_clear`: after shutdown the registry has no table.
- Theorem `Machine.Traced.turnsAway`: a lookup that begins after shutdown fails without a call of
  the resolver or the linker.
- Theorem `Machine.Traced.final`: shutdown is final.
-/

namespace PluginHost

/-! ## Lock sections after shutdown -/

/-- After shutdown no lock section of a lookup touches the registry. -/
theorem Section.registry_of_down {host : Host} {me : ThreadId} {key : Key} {stage : Stage}
    {s : LoaderState} {ran : Section} (runs : stage.lockSection? host me key s = some ran)
    (down : s.isShutDown = true) : ran.state.registry = s.registry := by
  have up : s.isShutDown ≠ false := by simp [down]
  cases Stage.runs runs with
  | refused _ _ state =>
    rcases state with rfl | rfl
    · rfl
    · rfl
  | nameless _ => rfl
  | shared _ => rfl
  | settledLate _ => rfl
  | closed => rfl
  | openedLate _ => rfl
  | unopened => rfl
  | failed => rfl
  | again active => exact absurd active up
  | inside _ active _ => exact absurd active up
  | insists _ active _ _ _ => exact absurd active up
  | awaits _ active _ _ _ => exact absurd active up
  | lists _ active _ _ => exact absurd active up
  | free _ active _ _ => exact absurd active up
  | settled active => exact absurd active up
  | adopted active _ => exact absurd active up
  | rejected active _ => exact absurd active up

/-- After shutdown a call that is served in one lock section changes nothing. -/
theorem Request.served_of_down {s : LoaderState} (down : s.isShutDown = true)
    (request : Request) : request.served s = s := by
  have registers : ∀ key payload, (Thread.register s key payload).1 = s := by
    intro key payload
    by_cases named : key.name.isEmpty = true
    · simp [Thread.register, named]
    · simp [Thread.register, named, down]
  cases request with
  | register key payload => exact registers key payload
  | registrar call =>
    show (Thread.registerCall s call).1 = s
    rw [Thread.registerCall_fst]
    split
    · rfl
    · exact registers _ _
  | unregister key =>
    show (Thread.unregister s key).1 = s
    simp [Thread.unregister, down]
  | get _ | tryGet _ | names _ | mode _ | moduleCount | isShutDown | policy | shutdown | drop => rfl

/-- What a script is told is no call of the resolver or the linker. -/
theorem Role.isCall_events {role : Role} {reply : Reply} {event : Event}
    (mem : event ∈ role.events reply) : event.isCall = false := by
  cases role with
  | program =>
    rw [List.mem_singleton.1 mem]
    rfl
  | teardown handle =>
    rw [List.mem_singleton.1 mem]
    rfl
  | init pending =>
    simp only [Role.events] at mem
    split at mem
    · rw [List.mem_singleton.1 mem]
      rfl
    · cases mem

/-- What is reported beside the result of a lookup is no call of the resolver or the linker. -/
theorem Thread.isCall_lookupReply {key : Key} {style : Style} {result : Except LoadError Payload}
    {event : Event} (mem : event ∈ (lookupReply key style result).2) : event.isCall = false := by
  cases style with
  | full => cases mem
  | quiet =>
    cases result with
    | ok payload => cases mem
    | error failure =>
      rw [List.mem_singleton.1 mem]
      rfl

/-! ## Steps and histories -/

namespace Machine

/-- In a step a lookup fails because the loader has been shut down; its script is told so, and
neither the resolver nor the linker is called. -/
structure Step.TurnsAway (hosts : Set Host) (step : Step) (key : Key) (style : Style)
    (below : Thread) : Prop where
  answers : ∃ ran, step.Answers hosts key below ran (.error .shutDown)
  back : step.after.thread step.thread = below
  told : ∃ role rest frames, below = .script role rest :: frames ∧
    step.Emits ((Thread.lookupReply key style (.error .shutDown)).2 ++
      role.events (Thread.lookupReply key style (.error .shutDown)).1)
  silent : ∀ events, step.Emits events → ∀ event ∈ events, event.isCall = false

variable {hosts : Set Host} {modes : PerKind SearchMode} {m next : Machine}
  {history earlier : History} {host : Host} {me : ThreadId} {turn : Turn} {step : Step} {key : Key}
  {style : Style} {below : Thread} {ran : Section} {result : Except LoadError Payload}

/-- A step leaves a registry without a table behind it when the loader has been shut down. -/
theorem Takes.registry_eq_clear (takes : Takes host m me turn next)
    (before : m.world.state.isShutDown = true → m.world.state.registry = .empty)
    (down : next.world.state.isShutDown = true) : next.world.state.registry = .empty := by
  rw [takes.world] at down ⊢
  have locked := takes.effect.locked_cases
  generalize m.thread me = thread at locked
  cases locked with
  | nothing _ state =>
    rw [state] at down ⊢
    exact before down
  | closes _ state =>
    rw [state]
    rfl
  | @serves request _ _ state =>
    have handles := Thread.served_handles m.world.state request
    rw [state, LoaderState.isShutDown, handles] at down
    rw [state, Request.served_of_down down]
    exact before down
  | runs ran runs eq =>
    rw [eq, Thread.afterSection_world] at down ⊢
    have was : m.world.state.isShutDown = true := (Section.accounts runs).down ▸ down
    exact (Section.registry_of_down runs was).trans (before was)

namespace Traced

/-- After shutdown the registry has no table. -/
theorem registry_eq_clear (h : Traced hosts modes m history)
    (down : m.world.state.isShutDown = true) : m.world.state.registry = .empty := by
  refine h.invariant (P := fun m _ => m.world.state.isShutDown = true →
    m.world.state.registry = .empty) ?_ ?_ ?_ down
  · intro down
    cases down
  · intro m next _ empty untouched
    rwa [untouched.state]
  · intro m next _ host me turn _ empty _ takes
    exact takes.registry_eq_clear empty

/-- After shutdown nothing that was asked for is done. -/
theorem not_granted (h : Traced hosts modes m history) (down : .shutdown ∈ history.calls)
    {request : Request} {reply : Reply} (replies : request.reply? m.world.state = some reply) :
    reply.granted = false := by
  have refused : ∀ call ≠ .shutdown, (Directory.replay history.calls).grants call = false :=
    fun call changes => Directory.grants_of_idle (Directory.idle_of_shutDown down) changes
  rw [Thread.granted_reply replies, h.directory]
  cases request with
  | register key payload => exact refused (.register key payload) (by simp)
  | registrar call =>
    rw [Request.call?]
    cases call.registration with
    | error failure => rfl
    | ok bound => exact refused (.register bound.1 bound.2) (by simp)
  | unregister key => exact refused (.unregister key) (by simp)
  | get _ | tryGet _ | names _ | mode _ | moduleCount | isShutDown | policy | shutdown | drop =>
    cases replies

/-- After shutdown no lookup succeeds. -/
theorem not_ok (h : Traced hosts modes step.before earlier)
    (down : .shutdown ∈ History.calls earlier)
    (answers : step.Answers hosts key below ran result) (payload : Payload) :
    result ≠ .ok payload := by
  rintro rfl
  obtain ⟨_, -, -, _, _, -, runs⟩ := answers.runs
  have registered := Section.registered_of_answer runs answers.answer
  rw [← h.payload?, Directory.payload?_of_shutDown down] at registered
  cases registered

/-- A lookup that begins after shutdown is turned away. -/
theorem turnsAway (h : Traced hosts modes step.before earlier)
    (mem : host ∈ hosts) (taken : step.before.step host step.thread = some step.after)
    (down : step.before.world.state.isShutDown = true) (named : key.name.isEmpty = false)
    (top : step.before.thread step.thread = .lookup key style .entering :: below) :
    step.TurnsAway hosts key style below := by
  have runs : Stage.lockSection? host step.thread key step.before.world.state .entering =
      some ⟨step.before.world.state, .answer (.error .shutDown), [], false⟩ :=
    congrArg some (LoaderState.enter_shutDown named down)
  have answers : step.Answers hosts key below _ (.error .shutDown) :=
    ⟨⟨host, mem, taken, style, .entering, top, runs⟩, rfl⟩
  obtain ⟨role, rest, frames, rfl, back, emits⟩ := answers.told h.reachable.sound top
  refine ⟨⟨_, answers⟩, back, ⟨role, rest, frames, rfl, emits⟩, fun events emits' event mem => ?_⟩
  rw [emits'.unique emits] at mem
  rcases List.mem_append.1 mem with reported | told
  · exact Thread.isCall_lookupReply reported
  · exact Role.isCall_events told

end Traced

/-! ## The contract -/

/-- Shutdown is final.  From the lock section of the first shutdown on the loader is shut down,
has no module and no table; no call to register a payload or to take one out succeeds, whoever
makes it; no lookup succeeds that has the lock after that; and a lookup of a name that begins
after that fails because of the shutdown, without a call of the resolver or the linker. -/
structure Final (hosts : Set Host) (m : Machine) (history : History) : Prop where
  down : m.world.state.isShutDown = true ↔ .shutdown ∈ history.calls
  emptied : .shutdown ∈ history.calls → m.world.state.moduleCount = 0 ∧
    ∀ kind, m.world.state.registry.isInitialized kind = false ∧
      m.world.state.registry.names kind = []
  refuses : ∀ later earlier step request role rest frames reply,
    history = later ++ step :: earlier → .shutdown ∈ History.calls earlier →
      step.before.thread step.thread = .request request :: .script role rest :: frames →
        request.reply? step.before.world.state = some reply →
          reply.granted = false ∧ ∃ events, step.Emits (events ++ role.events reply)
  denies : ∀ later earlier step key below ran result, history = later ++ step :: earlier →
    .shutdown ∈ History.calls earlier → step.Answers hosts key below ran result →
      ∀ payload, result ≠ .ok payload
  turnsAway : ∀ later earlier step key style below, history = later ++ step :: earlier →
    .shutdown ∈ History.calls earlier → key.name.isEmpty = false →
      step.before.thread step.thread = .lookup key style .entering :: below →
        step.TurnsAway hosts key style below

/-- Along every history shutdown is final. -/
theorem Traced.final (h : Traced hosts modes m history) : Final hosts m history := by
  constructor
  · exact h.isShutDown_iff
  · intro shut
    have down := h.isShutDown_iff.2 shut
    refine ⟨LoaderState.moduleCount_of_shutDown down, fun kind => ?_⟩
    have cleared : m.world.state.registry = Registry.empty.clear := h.registry_eq_clear down
    rw [cleared]
    exact ⟨Registry.isInitialized_clear .empty kind, Registry.names_clear .empty kind⟩
  · rintro later earlier step request role rest frames reply rfl shut top replies
    obtain ⟨before, host, -, taken⟩ := h.split
    obtain ⟨turn, takes⟩ := step_takes before.reachable.sound taken
    exact ⟨before.not_granted shut replies, takes.told top replies⟩
  · rintro later earlier step key below ran result rfl shut answers
    exact h.split.1.not_ok shut answers
  · rintro later earlier step key style below rfl shut named top
    obtain ⟨before, host, mem, taken⟩ := h.split
    exact before.turnsAway mem taken (before.isShutDown_iff.2 shut) named top

/-- A load that was in progress at the shutdown has failed, and its thread is told why. -/
theorem final_lateLoad :
    Final {dutifulHost} lateLoad.1 lateLoad.2 ∧ .shutdown ∈ lateLoad.2.calls ∧
      (1, .returned (.lookup (.error .shutDown))) ∈ lateLoad.1.trace := by
  refine ⟨traced_lateLoad.final, ?_, ?_⟩
  · exact List.mem_of_getElem? (i := 1) rfl
  · exact List.mem_of_getElem? (i := 0) rfl

end Machine
end PluginHost
