import PluginHost.Proofs.Registered

/-!
# The directory of payloads

What the callers of a loader see of its registry is a directory: a map from keys to payloads
that is in use until it is shut down.  A call of the loader that is about what is registered is
served in one lock section; this module says that the section does to the directory what one
sequential map does, and that nothing else changes the directory.

Main results:

- Theorem `Directory.payload?_replay_append`: what is registered stays so until its key is taken out
  or the directory is shut down.
- Theorem `Thread.granted_reply`: a call is answered as the directory has it.
- Theorem `Machine.Takes.directory`: a step changes the directory by the call that it serves.
- Theorem `Machine.Traced.directory`: the directory is the one that the calls have made.
-/

namespace PluginHost

/-! ## A sequential directory -/

/-- A map from keys to payloads, and whether it is in use. -/
structure Directory where
  active : Bool
  payload? : Key → Option Payload

/-- A call that is about what is registered. -/
inductive Call where
  | register (key : Key) (payload : Payload)
  | unregister (key : Key)
  | shutdown
deriving DecidableEq, Repr

namespace Directory

/-- The directory of a new loader. -/
def new : Directory :=
  ⟨true, fun _ => none⟩

/-- Whether a call succeeds: a payload is registered under a name that is not empty and a key
that is free, and a key is taken out if it is registered. -/
def grants (d : Directory) : Call → Bool
  | .register key _ => d.active && !key.name.isEmpty && (d.payload? key).isNone
  | .unregister key => d.active && (d.payload? key).isSome
  | .shutdown => true

/-- The directory after a call that succeeds. -/
def perform (d : Directory) : Call → Directory
  | .register key payload =>
    { d with payload? := Function.update d.payload? key (some payload) }
  | .unregister key => { d with payload? := Function.update d.payload? key none }
  | .shutdown => ⟨false, fun _ => none⟩

/-- The directory after a call; one that fails changes nothing. -/
def after (d : Directory) (call : Call) : Directory :=
  if d.grants call then d.perform call else d

/-- The directory that some calls make of a new one, the latest call first. -/
def replay : List Call → Directory
  | [] => new
  | call :: earlier => (replay earlier).after call

variable {d : Directory} {call : Call} {calls earlier : List Call} {key : Key} {payload : Payload}

theorem after_of_granted (granted : d.grants call = true) : d.after call = d.perform call :=
  if_pos granted

theorem after_of_refused (refused : d.grants call = false) : d.after call = d := by
  rw [after, refused]
  rfl

/-- A directory that is not in use grants no change. -/
theorem grants_of_idle (idle : d.active = false) (changes : call ≠ .shutdown) :
    d.grants call = false := by
  cases call with
  | register key payload => simp [grants, idle]
  | unregister key => simp [grants, idle]
  | shutdown => exact absurd rfl changes

@[simp]
theorem after_shutdown (d : Directory) : d.after .shutdown = ⟨false, fun _ => none⟩ :=
  rfl

/-- A directory is in use until it is shut down. -/
theorem active_after (d : Directory) (call : Call) :
    (d.after call).active = true ↔ d.active = true ∧ call ≠ .shutdown := by
  cases call with
  | shutdown => simp
  | register key payload =>
    unfold after
    split
    · simp [perform]
    · simp
  | unregister key =>
    unfold after
    split
    · simp [perform]
    · simp

theorem active_replay (calls : List Call) :
    (replay calls).active = true ↔ .shutdown ∉ calls := by
  induction calls with
  | nil => simp [replay, new]
  | cons call earlier ih =>
    rw [replay, active_after, ih, List.mem_cons, not_or, and_comm, ne_comm]

theorem idle_of_shutDown (down : .shutdown ∈ calls) : (replay calls).active = false := by
  rw [Bool.eq_false_iff, Ne, active_replay, not_not]
  exact down

/-- Nothing is registered in a directory that has been shut down. -/
theorem payload?_of_shutDown (down : .shutdown ∈ calls) (key : Key) :
    (replay calls).payload? key = none := by
  induction calls with
  | nil => cases down
  | cons call earlier ih =>
    rcases List.mem_cons.1 down with rfl | before
    · rfl
    · by_cases shuts : call = .shutdown
      · rw [shuts]
        rfl
      · rw [replay, after_of_refused (grants_of_idle (idle_of_shutDown before) shuts)]
        exact ih before

/-- What is registered stays so, unless its key is taken out or the directory is shut down. -/
theorem payload?_after (found : d.payload? key = some payload) (kept : call ≠ .unregister key)
    (up : call ≠ .shutdown) : (d.after call).payload? key = some payload := by
  unfold after
  split
  · next granted =>
    cases call with
    | shutdown => exact absurd rfl up
    | register other offered =>
      have ne : key ≠ other := by
        rintro rfl
        simp [grants, found] at granted
      simpa [perform, Function.update_of_ne ne] using found
    | unregister other =>
      have ne : key ≠ other := by
        rintro rfl
        exact kept rfl
      simpa [perform, Function.update_of_ne ne] using found
  · exact found

theorem payload?_replay_append (found : (replay earlier).payload? key = some payload)
    (kept : ∀ call ∈ calls, call ≠ .unregister key ∧ call ≠ .shutdown) :
    (replay (calls ++ earlier)).payload? key = some payload := by
  induction calls with
  | nil => exact found
  | cons call calls ih =>
    obtain ⟨keeps, up⟩ := kept call List.mem_cons_self
    have before := ih fun call mem => kept call (List.mem_cons_of_mem _ mem)
    exact payload?_after before keeps up

/-- Nothing is registered under an empty name. -/
theorem named_after (named : ∀ payload, d.payload? key = some payload → key.name.isEmpty = false)
    (found : (d.after call).payload? key = some payload) : key.name.isEmpty = false := by
  unfold after at found
  split at found
  · next granted =>
    cases call with
    | shutdown => cases found
    | register other offered =>
      by_cases same : key = other
      · subst same
        simp only [grants, Bool.and_eq_true, Bool.not_eq_true'] at granted
        exact granted.1.2
      · simp only [perform, Function.update_of_ne same] at found
        exact named payload found
    | unregister other =>
      by_cases same : key = other
      · subst same
        simp [perform] at found
      · simp only [perform, Function.update_of_ne same] at found
        exact named payload found
  · exact named payload found

theorem named_replay (found : (replay calls).payload? key = some payload) :
    key.name.isEmpty = false := by
  induction calls generalizing payload with
  | nil => cases found
  | cons call calls ih => exact named_after (fun _ found => ih found) found

/-- A directory in which something is registered is in use. -/
theorem active_of_payload? (found : (replay calls).payload? key = some payload) :
    (replay calls).active = true := by
  rw [active_replay]
  intro down
  rw [payload?_of_shutDown down] at found
  cases found

end Directory

/-! ## Calls of the loader -/

/-- The directory that a loader keeps behind its lock. -/
def LoaderState.directory (s : LoaderState) : Directory :=
  ⟨!s.isShutDown, s.registry.find?⟩

/-- The call of the directory that a call of the loader comes to, if it does to one: what a
registrar cannot make sense of is no call. -/
def Request.call? : Request → Option Call
  | .register key payload => some (.register key payload)
  | .registrar call =>
    match call.registration with
    | .ok (key, payload) => some (.register key payload)
    | .error _ => none
  | .unregister key => some (.unregister key)
  | .shutdown | .drop => some .shutdown
  | _ => none

/-- The reply to a call that asks for a change of what is registered. -/
def Request.reply? (s : LoaderState) : Request → Option Reply
  | .register key payload => some (.done (Thread.register s key payload).2.1)
  | .registrar call => some (.accepted (Thread.registerCall s call).2.1.isOk)
  | .unregister key => some (.done (Thread.unregister s key).2.1)
  | _ => none

/-- Whether a reply says that what was asked for was done. -/
def Reply.granted : Reply → Bool
  | .done result => result.isOk
  | .accepted answer => answer
  | _ => false

namespace LoaderState

variable {s s' : LoaderState}

/-- The directory is a matter of the registry and of the open modules. -/
theorem directory_eq (registry : ∀ key, s'.registry.find? key = s.registry.find? key)
    (up : s'.isShutDown = s.isShutDown) : s'.directory = s.directory := by
  unfold directory
  rw [up, funext registry]

theorem directory_close (s : LoaderState) : s.close.directory = s.directory.after .shutdown := by
  have cleared : s.close.registry.find? = fun _ => none :=
    funext fun key => Registry.find?_clear s.registry key
  rw [directory, cleared]
  rfl

end LoaderState

namespace Thread

variable {host : Host} {me : ThreadId} {w : World} {turn : Turn} {thread below : Thread}
  {request : Request} {reply : Reply}

/-- To register a payload does what the directory does, and succeeds when that does. -/
theorem register_directory (s : LoaderState) (key : Key) (payload : Payload) :
    (register s key payload).1.directory = s.directory.after (.register key payload) ∧
      (register s key payload).2.1.isOk = s.directory.grants (.register key payload) := by
  unfold register
  split
  · next nameless =>
    have refused : s.directory.grants (.register key payload) = false := by
      simp [Directory.grants, nameless]
    rw [Directory.after_of_refused refused, refused]
    exact ⟨rfl, rfl⟩
  · next named =>
    split
    · next down =>
      have refused : s.directory.grants (.register key payload) = false := by
        simp [Directory.grants, LoaderState.directory, down]
      rw [Directory.after_of_refused refused, refused]
      exact ⟨rfl, rfl⟩
    · next up =>
      have free := s.registry.isOk_insert_iff key payload
      have decides : s.directory.grants (.register key payload) =
          (s.registry.insert key payload).isOk := by
        rw [Bool.eq_iff_iff, free]
        simp [Directory.grants, LoaderState.directory, up]
      rw [decides]
      split
      · next registry inserted =>
        rw [inserted] at decides ⊢
        refine ⟨?_, rfl⟩
        have found : registry.find? = Function.update s.registry.find? key (some payload) := by
          funext other
          rw [Registry.find?_insert inserted, Function.update_apply]
        rw [Directory.after_of_granted decides, LoaderState.directory, found]
        rfl
      · next failure inserted =>
        rw [inserted] at decides ⊢
        rw [Directory.after_of_refused decides]
        exact ⟨rfl, rfl⟩

/-- To take a key out does what the directory does, and succeeds when that does. -/
theorem unregister_directory (s : LoaderState) (key : Key) :
    (unregister s key).1.directory = s.directory.after (.unregister key) ∧
      (unregister s key).2.1.isOk = s.directory.grants (.unregister key) := by
  unfold unregister
  split
  · next down =>
    have refused : s.directory.grants (.unregister key) = false := by
      simp [Directory.grants, LoaderState.directory, down]
    rw [Directory.after_of_refused refused, refused]
    exact ⟨rfl, rfl⟩
  · next up =>
    have decides : s.directory.grants (.unregister key) = (s.registry.remove key).isOk := by
      rw [Bool.eq_iff_iff, s.registry.isOk_remove_iff key]
      simp [Directory.grants, LoaderState.directory, up]
    rw [decides]
    split
    · next gone registry removed =>
      rw [removed] at decides ⊢
      refine ⟨?_, rfl⟩
      have found : registry.find? = Function.update s.registry.find? key none := by
        funext other
        rw [Registry.find?_remove removed, Function.update_apply]
      rw [Directory.after_of_granted decides, LoaderState.directory, found]
      rfl
    · next failure removed =>
      rw [removed] at decides ⊢
      rw [Directory.after_of_refused decides]
      exact ⟨rfl, rfl⟩

/-- A registrar accepts what the loader registers. -/
theorem registerCall_isOk (s : LoaderState) (call : HostCall) :
    (registerCall s call).2.1.isOk =
      match call.registration with
      | .error _ => false
      | .ok (key, payload) => (register s key payload).2.1.isOk := by
  simp only [registerCall]
  cases call.registration with
  | error failure => rfl
  | ok bound =>
    obtain ⟨key, payload⟩ := bound
    dsimp only
    cases (register s key payload).2.1 <;> rfl

/-- A call is answered as the directory has it. -/
theorem granted_reply {s : LoaderState} (replies : request.reply? s = some reply) :
    reply.granted = request.call?.any s.directory.grants := by
  cases request with
  | register key payload =>
    cases replies
    exact (register_directory s key payload).2
  | registrar call =>
    cases replies
    show (registerCall s call).2.1.isOk = _
    rw [registerCall_isOk, Request.call?]
    cases call.registration with
    | error failure => rfl
    | ok bound => exact (register_directory s bound.1 bound.2).2
  | unregister key =>
    cases replies
    exact (unregister_directory s key).2
  | get _ | tryGet _ | names _ | mode _ | moduleCount | isShutDown | policy | shutdown | drop =>
    cases replies

/-! ## Turns -/

/-- The call of the directory that the next turn of a thread serves. -/
def call? : Thread → Option Call
  | .request request :: _ => request.call?
  | _ => none

theorem shutDown_directory (host : Host) (w : World) (below : Thread) :
    (shutDown host w below).world.state.directory = w.state.directory.after .shutdown := by
  rw [← LoaderState.directory_close, shutDown]
  dsimp only
  split
  · rw [answer_world]
  · split
    · rw [answer_world]
    · rfl

/-- To serve a call of the loader does to the directory what the call comes to. -/
theorem serve_directory (host : Host) (w : World) (below : Thread) (request : Request) :
    (serve host w below request).world.state.directory =
      request.call?.elim w.state.directory w.state.directory.after := by
  cases request with
  | get _ | tryGet _ => rfl
  | register key payload =>
    rw [serve, answer_world]
    exact (register_directory w.state key payload).1
  | registrar call =>
    rw [serve, answer_world]
    show (registerCall w.state call).1.directory = _
    rw [registerCall_fst, Request.call?]
    cases call.registration with
    | error failure => rfl
    | ok bound => exact (register_directory w.state bound.1 bound.2).1
  | unregister key =>
    rw [serve, answer_world]
    exact (unregister_directory w.state key).1
  | names _ | mode _ | moduleCount | isShutDown | policy =>
    rw [serve, answer_world]
    rfl
  | shutdown => exact shutDown_directory host w below
  | drop => exact shutDown_directory host { w with dropping := true } below

/-- A turn that serves no call of the loader leaves the directory alone. -/
theorem Effect.directory (h : Effect host me w turn thread)
    (idle : ∀ request below, thread ≠ .request request :: below) :
    turn.world.state.directory = w.state.directory := by
  have mild : turn.Mild w → turn.world.state.directory = w.state.directory := fun mild => by
    rw [mild.state]
  cases h with
  | act _ calm => exact mild calm
  | call _ _ calm => exact mild calm
  | seek _ _ _ _ calm => exact mild calm
  | init _ _ _ _ calm => exact mild calm
  | refused _ _ _ calm => exact mild calm
  | close _ _ _ _ calm => exact mild calm
  | closed _ _ calm => exact mild calm
  | finish _ calm => exact mild calm
  | opened _ _ _ state _ _ => rw [state]
  | serve _ _ _ _ => exact absurd rfl (idle _ _)
  | shut _ _ _ _ _ _ => exact absurd rfl (idle _ _)
  | release _ _ _ _ _ _ _ => exact absurd rfl (idle _ _)
  | locked ran runs eq =>
    rw [eq, afterSection_world]
    exact LoaderState.directory_eq (Section.find?_registry runs) (Section.accounts runs).down

/-- A reply ends the turn that serves its call: the script below has it. -/
theorem serve_told (host : Host) (replies : request.reply? w.state = some reply) (role : Role)
    (rest : Script) (frames : Thread) :
    ∃ events, (serve host w (.script role rest :: frames) request).events =
      events ++ role.events reply := by
  cases request with
  | register key payload =>
    cases replies
    exact ⟨_, rfl⟩
  | registrar call =>
    cases replies
    exact ⟨_, rfl⟩
  | unregister key =>
    cases replies
    exact ⟨_, rfl⟩
  | get _ | tryGet _ | names _ | mode _ | moduleCount | isShutDown | policy | shutdown | drop =>
    cases replies

end Thread

/-! ## Steps and histories -/

namespace Machine

/-- The call of the directory that a step serves. -/
def Step.call? (step : Step) : Option Call :=
  (step.before.thread step.thread).call?

/-- The calls of the directory that were served, the latest first. -/
def History.calls (history : History) : List Call :=
  history.filterMap Step.call?

variable {hosts : Set Host} {modes : PerKind SearchMode} {m next : Machine} {history : History}
  {host : Host} {me : ThreadId} {turn : Turn} {step : Step} {below : Thread} {key : Key}
  {ran : Section} {result : Except LoadError Payload}

theorem History.calls_cons (step : Step) (history : History) :
    History.calls (step :: history) = step.call?.toList ++ history.calls := by
  rw [calls, List.filterMap_cons]
  cases step.call? <;> rfl

theorem History.calls_append (recent earlier : History) :
    (History.calls (recent ++ earlier)) = recent.calls ++ earlier.calls :=
  List.filterMap_append

theorem History.mem_calls_of_call? {call : Call} (called : step.call? = some call)
    (recent earlier : History) : call ∈ History.calls (recent ++ step :: earlier) := by
  rw [calls_append, calls_cons, called]
  exact List.mem_append_right _ List.mem_cons_self

/-- A step changes the directory by the call that it serves. -/
theorem Takes.directory (takes : Takes host m me turn next) :
    next.world.state.directory =
      (m.thread me).call?.elim m.world.state.directory m.world.state.directory.after := by
  obtain ⟨-, turn', turned, world, -⟩ := step_eq takes.taken
  by_cases idle : ∀ request below, m.thread me ≠ .request request :: below
  · have calm : (m.thread me).call? = none := by
      unfold Thread.call?
      split
      · next request below top => exact absurd top (idle request below)
      · rfl
    rw [calm, takes.world]
    exact takes.effect.directory idle
  · push Not at idle
    obtain ⟨request, below, top⟩ := idle
    rw [top] at turned ⊢
    obtain rfl := Option.some.inj turned
    rw [world]
    exact Thread.serve_directory host m.world below request

/-- The directory is the one that the calls have made. -/
theorem Traced.directory (h : Traced hosts modes m history) :
    m.world.state.directory = Directory.replay history.calls := by
  refine h.invariant (P := fun m history => m.world.state.directory =
    Directory.replay history.calls) ?_ ?_ ?_
  · have empty : Registry.empty.find? = fun _ => none :=
      funext fun key => Registry.find?_clear .empty key
    show Directory.mk true Registry.empty.find? = _
    rw [empty]
    rfl
  · intro m next history same untouched
    rwa [untouched.state]
  · intro m next history host me turn _ same _ takes
    rw [takes.directory, same, History.calls_cons, Step.call?]
    cases (m.thread me).call? with
    | none => rfl
    | some call => rfl

/-- The loader has been shut down when a call has done so. -/
theorem Traced.isShutDown_iff (h : Traced hosts modes m history) :
    m.world.state.isShutDown = true ↔ .shutdown ∈ history.calls := by
  have active := Directory.active_replay history.calls
  rw [← h.directory] at active
  rw [← not_iff_not, ← active]
  simp [LoaderState.directory]

/-- What is registered is what the calls have registered. -/
theorem Traced.payload? (h : Traced hosts modes m history) (key : Key) :
    (Directory.replay history.calls).payload? key = m.world.state.registry.find? key := by
  rw [← h.directory]
  rfl

/-- A call that has a reply is answered in the step that serves it. -/
theorem Takes.told (takes : Takes host m me turn next) {request : Request} {role : Role}
    {rest : Script} {frames : Thread} {reply : Reply}
    (top : m.thread me = .request request :: .script role rest :: frames)
    (replies : request.reply? m.world.state = some reply) :
    ∃ events, Step.Emits ⟨m, me, next⟩ (events ++ role.events reply) := by
  obtain ⟨-, turn', turned, -, -, trace⟩ := step_eq takes.taken
  rw [top] at turned
  obtain rfl := Option.some.inj turned
  obtain ⟨events, told⟩ := Thread.serve_told host replies role rest frames
  refine ⟨events, ?_⟩
  rw [Step.Emits, ← told]
  exact trace

/-- A lookup that answers returns to the script that began it. -/
theorem Step.Answers.told {style : Style} {stage : Stage}
    (answers : step.Answers hosts key below ran result) (sound : step.before.Sound)
    (top : step.before.thread step.thread = .lookup key style stage :: below) :
    ∃ role rest frames, below = .script role rest :: frames ∧
      step.after.thread step.thread = below ∧
      step.Emits (ran.events ++ (Thread.lookupReply key style result).2 ++
        role.events (Thread.lookupReply key style result).1) := by
  obtain ⟨host, -, taken, style', stage', top', runs⟩ := answers.runs
  obtain ⟨lt, turn, turned, -, threads, trace⟩ := step_eq taken
  obtain ⟨role, rest, frames, rfl, -⟩ := (top ▸ sound.shaped _ lt).below_lookup
  rw [top] at turned top'
  cases top'
  rw [Thread.turn_of_runs runs, Option.some.injEq] at turned
  subst turned
  refine ⟨role, rest, frames, rfl, ?_, ?_⟩
  · rw [threads, moved_self, (Thread.afterSection_answer _ key style _ answers.answer).1]
    cases (Thread.afterSection step.before.world key style _ ran).wakes <;> rfl
  · rw [Step.Emits, trace]
    simp [Thread.afterSection, answers.answer, Thread.answer]

end Machine
end PluginHost
