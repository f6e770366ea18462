import PluginHost.Proofs.Section
import PluginHost.Proofs.Stack

/-!
# What a turn does to loads and waits

Of the many kinds of turns only a few touch the loads in progress and the waits: a
lookup is answered, waits, or begins a load, and a load ends.  This module says once what
each of them does; every other turn leaves loads and waits alone.

Main results:

- Theorem `Thread.turn_quiet`: a frame that is not a lookup leaves loads and waits alone.
- Theorem `Thread.lookupTurn_move`: what the turn of a lookup does.
- Theorem `Thread.turn_move`: every turn is one of the moves, and keeps the shape of the
  stack.
-/

namespace PluginHost

namespace Thread

/-! ## Turns that leave loads and waits alone -/

/-- A turn leaves a thread that carries out the given loads and does not wait, and
changes neither loads nor waits. -/
structure Quiet (s : LoaderState) (jobs : List Job) (turn : Turn) : Prop where
  jobs : turn.thread.jobs = jobs
  calm : turn.thread.awaited? = none
  same : s.SameLoads turn.world.state
  shaped : turn.thread.Shaped

variable {w : World} {s : LoaderState} {thread below : Thread}

@[simp]
theorem answer_thread (reply : Reply) (events : List Event) (wakes : Bool) :
    (answer w below reply events wakes).thread = below := by
  unfold answer
  split <;> rfl

@[simp]
theorem answer_world (reply : Reply) (events : List Event) (wakes : Bool) :
    (answer w below reply events wakes).world = w := by
  unfold answer
  split <;> rfl

@[simp]
theorem answer_wakes (reply : Reply) (events : List Event) (wakes : Bool) :
    (answer w below reply events wakes).wakes = wakes := by
  unfold answer
  split <;> rfl

theorem answer_quiet {role : Role} {rest : Script} (same : s.SameLoads w.state)
    (shaped : Shaped (.script role rest :: below)) (reply : Reply) (events : List Event)
    (wakes : Bool) :
    Quiet s (jobs below) (answer w (.script role rest :: below) reply events wakes) where
  jobs := by simp
  calm := by simp [awaited?]
  same := by simpa using same
  shaped := by simpa using shaped

/-! ### Opening -/

theorem deliver_quiet (same : s.SameLoads w.state) (shaped : thread.Shaped)
    (calm : thread.awaited? = none) (path : Path) (outcome : Except LoadError Handle)
    (events : List Event) : Quiet s thread.jobs (deliver w path outcome events thread) := by
  unfold deliver
  split
  · split
    · exact ⟨rfl, rfl, same, shaped.lookup _⟩
    · exact ⟨rfl, rfl, same, shaped⟩
  · exact ⟨rfl, rfl, same, shaped.lookup _⟩
  · exact ⟨rfl, calm, same, shaped⟩

@[simp]
theorem unmap_state (w : World) (library : Library) : (unmap w library).1.state = w.state :=
  rfl

theorem beginOpening_quiet {frame : Frame} (shaped : Shaped (frame :: below))
    (calm : awaited? (frame :: below) = none)
    (on : ∀ pending script, Frame.On (.script (.init pending) script) frame) (host : Host)
    (path : Path) :
    Quiet w.state (jobs (frame :: below)) (beginOpening host w path (frame :: below)) := by
  simp only [beginOpening]
  split
  · exact deliver_quiet (.refl _) shaped calm ..
  · exact ⟨rfl, rfl, .refl _, .push (on ..) shaped⟩
  · split
    · refine deliver_quiet ?_ shaped calm ..
      exact .refl w.state
    · exact ⟨rfl, rfl, .refl _, .push (on ..) shaped⟩

theorem finishOpening_quiet (shaped : thread.Shaped) (calm : thread.awaited? = none)
    (pending : Pending) : Quiet w.state thread.jobs (finishOpening w pending thread) := by
  unfold finishOpening
  split
  · exact deliver_quiet (.refl _) shaped calm ..
  · refine deliver_quiet ?_ shaped calm ..
    exact .refl w.state

/-! ### Closing -/

theorem finishClosing_quiet (same : s.SameLoads w.state) (shaped : thread.Shaped)
    (calm : thread.awaited? = none) (path : Path) (failure : Option LoadError)
    (events : List Event) : Quiet s thread.jobs (finishClosing w path failure events thread) := by
  unfold finishClosing
  split
  · exact ⟨rfl, rfl, same, shaped.closing _ _⟩
  · exact ⟨rfl, calm, same, shaped⟩

theorem beginClosing_quiet {reason : CloseReason} {todo : List Handle} {report : ReleaseReport}
    (shaped : Shaped (.closing reason todo report :: below)) (handle : Handle) :
    Quiet w.state (jobs below) (beginClosing w handle (.closing reason todo report :: below)) := by
  unfold beginClosing
  split
  · exact ⟨rfl, rfl, .refl _, .push (.teardown ..) shaped⟩
  · next library _ =>
    refine finishClosing_quiet (w := (unmap w library).1) ?_ shaped rfl ..
    exact .refl w.state

theorem finishTeardown_quiet (shaped : thread.Shaped) (calm : thread.awaited? = none)
    (handle : Handle) : Quiet w.state thread.jobs (finishTeardown w handle thread) := by
  unfold finishTeardown
  split
  · exact finishClosing_quiet (.refl _) shaped calm ..
  · exact finishClosing_quiet (.refl _) shaped calm ..

/-! ### Calls -/

theorem register_sameLoads (s : LoaderState) (key : Key) (payload : Payload) :
    s.SameLoads (register s key payload).1 := by
  unfold register
  split
  · exact .refl s
  · split
    · exact .refl s
    · split
      · exact (s.alike_registry _).sameLoads
      · exact .refl s

theorem registerCall_fst (s : LoaderState) (call : HostCall) :
    (registerCall s call).1 =
      match call.registration with
      | .error _ => s
      | .ok (key, payload) => (register s key payload).1 := by
  simp only [registerCall]
  cases call.registration with
  | error failure => rfl
  | ok bound =>
    obtain ⟨key, payload⟩ := bound
    dsimp only
    cases (register s key payload).2.1 <;> rfl

theorem registerCall_sameLoads (s : LoaderState) (call : HostCall) :
    s.SameLoads (registerCall s call).1 := by
  rw [registerCall_fst]
  split
  · exact .refl s
  · exact register_sameLoads ..

theorem unregister_sameLoads (s : LoaderState) (key : Key) :
    s.SameLoads (unregister s key).1 := by
  unfold unregister
  split
  · exact .refl s
  · split
    · exact (s.alike_registry _).sameLoads
    · exact .refl s

section calls

variable {role : Role} {rest : Script} (shaped : Shaped (.script role rest :: below))
include shaped

theorem shutDown_quiet (host : Host) (w : World) :
    Quiet w.state (jobs below) (shutDown host w (.script role rest :: below)) := by
  have same : w.state.SameLoads w.state.close := w.state.sameLoads_close
  simp only [shutDown]
  split
  · exact answer_quiet same shaped ..
  · split
    · exact answer_quiet same shaped ..
    · exact ⟨rfl, rfl, same, .push (.shutdown ..) shaped⟩

theorem serve_quiet (host : Host) (w : World) (request : Request) :
    Quiet w.state (jobs below) (serve host w (.script role rest :: below) request) := by
  have same : w.state.SameLoads w.state := .refl _
  cases request with
  | get key => exact ⟨rfl, rfl, same, .push (.lookup ..) shaped⟩
  | tryGet key => exact ⟨rfl, rfl, same, .push (.lookup ..) shaped⟩
  | register key payload => exact answer_quiet (register_sameLoads ..) shaped ..
  | registrar call => exact answer_quiet (registerCall_sameLoads ..) shaped ..
  | unregister key => exact answer_quiet (unregister_sameLoads ..) shaped ..
  | names kind => exact answer_quiet same shaped ..
  | mode kind => exact answer_quiet same shaped ..
  | moduleCount => exact answer_quiet same shaped ..
  | isShutDown => exact answer_quiet same shaped ..
  | policy => exact answer_quiet same shaped ..
  | shutdown => exact shutDown_quiet shaped host w
  | drop => exact shutDown_quiet shaped host { w with dropping := true }

theorem begin_quiet {w : World} {turn : Turn} {action : Action}
    (h : begin w role (.script role rest :: below) action = some turn) :
    Quiet w.state (jobs below) turn := by
  have same : w.state.SameLoads w.state := .refl _
  have pushed : ∀ request : Request,
      Quiet w.state (jobs below)
        ⟨.request request :: .script role rest :: below, w, [], false⟩ :=
    fun request => ⟨rfl, rfl, same, .push (.request ..) shaped⟩
  cases action with
  | gate id =>
    simp only [begin] at h
    split at h
    · cases h
      exact answer_quiet same shaped ..
    · cases h
  | request request =>
    simp only [begin] at h
    split at h
    · cases h
      exact answer_quiet same shaped ..
    · cases h
      exact pushed request
  | nullPayload =>
    cases h
    exact answer_quiet same shaped ..
  | registrar call =>
    simp only [begin] at h
    split at h
    · split at h
      · cases h
        exact answer_quiet same shaped ..
      · cases h
        exact pushed _
    · cases h
      exact answer_quiet same shaped ..
  | registrarNull =>
    simp only [begin] at h
    split at h
    · cases h
      exact answer_quiet same shaped ..
    · cases h
      exact answer_quiet same shaped ..

end calls

/-! ## Moves -/

/-- What a turn of `me` does to loads and waits: the thread before and after it, the state
after it, and whether the waiting threads are woken. -/
inductive Move (me : ThreadId) (s : LoaderState) : Thread → Thread → LoaderState → Bool → Prop
  | quiet {before after : Thread} {s' : LoaderState} {wakes : Bool}
      (awake : before.awaited? = none) (calm : after.awaited? = none)
      (jobs : after.jobs = before.jobs) (same : s.SameLoads s') :
      Move me s before after s' wakes
  | answer {key : Key} {style : Style} {stage : Stage} {below : Thread} {s' : LoaderState}
      (ready : stage.ready = true) (calm : below.awaited? = none)
      (same : (s.unpark me).SameLoads s') :
      Move me s (.lookup key style stage :: below) below s' false
  | park {key : Key} {style : Style} {stage next : Stage} {below : Thread} {s' : LoaderState}
      {job : Job} {owner : ThreadId} (ready : stage.ready = true)
      (awaits : next.awaited? key = some job) (parked : next.parked = true)
      (busy : s.owner? job = some owner) (other : owner ≠ me)
      (free : (s.unpark me).closesCycle me owner = false)
      (same : ((s.unpark me).park me owner).SameLoads s') :
      Move me s (.lookup key style stage :: below) (.lookup key style next :: below) s' false
  | startLoad {key : Key} {style : Style} {stage : Stage} {below : Thread} {s' : LoaderState}
      (path : Path) (ready : stage.ready = true) (idle : Assoc.find? key s.byName = none)
      (mode : s.modes.get key.kind = .byName)
      (same : ((s.unpark me).startLoad me key).SameLoads s') :
      Move me s (.lookup key style stage :: below)
        (.lookup key style (.loadingName s.nextLoad path) :: below) s' false
  | startBulk {key : Key} {style : Style} {stage : Stage} {below : Thread} {s' : LoaderState}
      (paths : List Path) (ready : stage.ready = true) (idle : s.bulk.get key.kind = none)
      (mode : s.modes.get key.kind = .loadAll)
      (same : ((s.unpark me).startBulk me key.kind).SameLoads s') :
      Move me s (.lookup key style stage :: below)
        (.lookup key style (.loadingBulk paths []) :: below) s' false
  | endLoad {key : Key} {style : Style} {stage : Stage} {below : Thread} {s' : LoaderState}
      {load : Nat} (result : Except LoadError Payload)
      (job : stage.job? key = some (.name key load)) (calm : below.awaited? = none)
      (same : (s.finishLoad key load result).SameLoads s') :
      Move me s (.lookup key style stage :: below) below s' true
  | endBulk {key : Key} {style : Style} {opened : List Handle} {below after : Thread}
      {s' : LoaderState} (calm : after.awaited? = none) (jobs : after.jobs = below.jobs)
      (same : (s.endBulk key.kind).SameLoads s') :
      Move me s (.lookup key style (.loadingBulk [] opened) :: below) after s' true

theorem Quiet.move {me : ThreadId} {jobs : List Job} {turn : Turn} (h : Quiet s jobs turn)
    (awake : thread.awaited? = none) (same : thread.jobs = jobs) :
    Move me s thread turn.thread turn.world.state turn.wakes :=
  .quiet awake h.calm (h.jobs.trans same.symm) h.same

/-! ### Lock sections -/

theorem afterSection_answer (w : World) (key : Key) (style : Style) (below : Thread)
    {ran : Section} {result : Except LoadError Payload} (h : ran.next = .answer result) :
    (afterSection w key style below ran).thread = below ∧
      (afterSection w key style below ran).world.state = ran.state ∧
      (afterSection w key style below ran).wakes = ran.wakes := by
  simp [afterSection, h]

theorem afterSection_stage {key : Key} {style : Style} {ran : Section} {stage : Stage}
    (h : ran.next = .stage stage) :
    afterSection w key style below ran =
      ⟨.lookup key style stage :: below, { w with state := ran.state }, ran.events, ran.wakes⟩ := by
  simp [afterSection, h]

theorem afterSection_discard {key : Key} {style : Style} {ran : Section} {handles : List Handle}
    {stage : Stage} (h : ran.next = .discard handles stage) :
    afterSection w key style below ran =
      ⟨.closing .discard handles .zero :: .lookup key style stage :: below,
        { w with state := ran.state }, ran.events, ran.wakes⟩ := by
  simp [afterSection, h]

variable {host : Host} {me : ThreadId} {key : Key} {style : Style} {stage : Stage}

/-- The move of a lookup whose section searches its key. -/
theorem searched_move {ran : Section} (ready : stage.ready = true)
    (calm : below.awaited? = none)
    (searched : LoaderState.Searched me key (w.state.unpark me) ran.state ran.next)
    (asleep : ran.wakes = false) :
    Move me w.state (.lookup key style stage :: below)
      (afterSection w key style below ran).thread
      (afterSection w key style below ran).world.state
      (afterSection w key style below ran).wakes := by
  obtain ⟨state, next, events, wakes⟩ := ran
  subst asleep
  cases searched with
  | answer result same =>
    obtain ⟨thread, world, wakes⟩ := afterSection_answer w key style below
      (show (Section.mk state (.answer result) events false).next = .answer result from rfl)
    rw [thread, world, wakes]
    exact .answer ready calm same.sameLoads
  | awaitBulk busy other free same => exact .park ready rfl rfl busy other free same.sameLoads
  | awaitLoad busy other free same =>
    exact .park ready rfl rfl ((LoaderState.owner?_name ..).2 busy) other free same.sameLoads
  | startLoad path idle mode same => exact .startLoad path ready idle mode same.sameLoads
  | startBulk paths idle mode same => exact .startBulk paths ready idle mode same.sameLoads

/-- After any lock section the lookup is over, or it has reached some stage. -/
theorem afterSection_shaped {ran : Section} (tidy : ran.next.Tidy)
    (shaped : Shaped (.lookup key style stage :: below)) :
    (afterSection w key style below ran).thread.Shaped := by
  obtain ⟨role, rest, frames, rfl, shapedBelow⟩ := shaped.below_lookup
  cases next : ran.next with
  | answer result =>
    rw [(afterSection_answer w key style _ next).1]
    exact shapedBelow
  | stage stage =>
    rw [afterSection_stage next]
    exact shaped.lookup stage
  | discard handles stage =>
    rw [afterSection_discard next]
    rw [next] at tidy
    rcases tidy with rfl | ⟨load, failure, rfl⟩
    · exact .push (.discardBulk ..) (shaped.lookup _)
    · exact .push (.discardName ..) (shaped.lookup _)

/-- The move of a lookup whose load by name ends. -/
theorem endLoad_move {load : Nat} {result : Except LoadError Payload} {ran : Section}
    {events : List Event} (job : stage.job? key = some (.name key load))
    (calm : below.awaited? = none) {s : LoaderState} (same : w.state.SameLoads s)
    (h : ran = s.endLoad key load result events) :
    Move me w.state (.lookup key style stage :: below)
      (afterSection w key style below ran).thread
      (afterSection w key style below ran).world.state
      (afterSection w key style below ran).wakes := by
  subst h
  obtain ⟨thread, world, wakes⟩ := afterSection_answer w key style below
    (show (s.endLoad key load result events).next = .answer result from rfl)
  rw [thread, world, wakes]
  obtain ⟨registry, handles, rfl⟩ := same
  exact .endLoad result job calm ⟨registry, handles, rfl⟩

theorem adopt_move {load : Nat} {path : Path} {outcome : Except LoadError Handle}
    (calm : below.awaited? = none) :
    Move me w.state (.lookup key style (.openedName load path outcome) :: below)
      (afterSection w key style below (w.state.adopt key load path outcome)).thread
      (afterSection w key style below (w.state.adopt key load path outcome)).world.state
      (afterSection w key style below (w.state.adopt key load path outcome)).wakes := by
  cases outcome with
  | error failure => exact endLoad_move rfl calm (.refl _) rfl
  | ok handle =>
    rw [LoaderState.adopt_ok_eq]
    split
    · exact .quiet rfl rfl rfl (.refl _)
    · cases w.state.registry.find? key with
      | some payload =>
        refine endLoad_move rfl calm ?_ rfl
        exact (w.state.alike_registry _).sameLoads.trans (LoaderState.sameLoads_keep _ [handle])
      | none => exact .quiet rfl rfl rfl (w.state.alike_registry _).sameLoads

/-- The move of a lookup that ends a bulk load and then answers. -/
theorem endBulk_answer {opened : List Handle} {ran : Section}
    {result : Except LoadError Payload} (calm : below.awaited? = none)
    (next : ran.next = .answer result) (same : (w.state.endBulk key.kind).SameLoads ran.state) :
    Move me w.state (.lookup key style (.loadingBulk [] opened) :: below)
      (afterSection w key style below { ran with wakes := true }).thread
      (afterSection w key style below { ran with wakes := true }).world.state
      (afterSection w key style below { ran with wakes := true }).wakes := by
  obtain ⟨thread, world, wakes⟩ := afterSection_answer w key style below
    (show ({ ran with wakes := true } : Section).next = .answer result from next)
  rw [thread, world, wakes]
  exact .endBulk calm rfl same

theorem settled_move {opened : List Handle} (calm : below.awaited? = none) :
    Move me w.state (.lookup key style (.loadingBulk [] opened) :: below)
      (afterSection w key style below (w.state.settled host me key opened)).thread
      (afterSection w key style below (w.state.settled host me key opened)).world.state
      (afterSection w key style below (w.state.settled host me key opened)).wakes := by
  rw [LoaderState.settled_eq]
  split
  · exact .endBulk rfl rfl ⟨_, _, rfl⟩
  · have mode : ((w.state.endBulk key.kind).keep opened).modes.get key.kind = .settled := by
      simp [LoaderState.endBulk, LoaderState.keep]
    obtain ⟨result, next, same⟩ := LoaderState.search_settled host me mode
    refine endBulk_answer calm next ?_
    exact (LoaderState.sameLoads_keep _ opened).trans same.sameLoads

/-- The move of a lookup, and the shape it leaves. -/
theorem lookupTurn_move {turn : Turn} (shaped : Shaped (.lookup key style stage :: below))
    (fresh : stage.awaited? key = none → Assoc.find? me w.state.waits = none)
    (h : lookupTurn host me w key style below stage = some turn) :
    Move me w.state (.lookup key style stage :: below) turn.thread turn.world.state turn.wakes ∧
      turn.thread.Shaped := by
  have calm : below.awaited? = none := shaped.tail_calm
  cases stage with
  | entering =>
    cases h
    obtain ⟨searched, asleep⟩ := LoaderState.enter_searched host me key w.state
    refine ⟨searched_move rfl calm ?_ asleep, afterSection_shaped searched.tidy shaped⟩
    rwa [LoaderState.unpark_of_not_waiting (fresh rfl)]
  | awaitingBulk woken =>
    cases woken with
    | false => cases h
    | true =>
      cases h
      obtain ⟨searched, asleep⟩ := LoaderState.resumeBulk_searched host me key w.state
      exact ⟨searched_move rfl calm searched asleep,
        afterSection_shaped searched.tidy shaped⟩
  | awaitingLoad load woken =>
    cases woken with
    | false => cases h
    | true =>
      cases h
      obtain ⟨searched, asleep⟩ := LoaderState.resumeLoad_searched host me key w.state load
      exact ⟨searched_move rfl calm searched asleep,
        afterSection_shaped searched.tidy shaped⟩
  | loadingBulk todo opened =>
    cases todo with
    | nil =>
      cases h
      exact ⟨settled_move calm, afterSection_shaped (LoaderState.settled_tidy ..) shaped⟩
    | cons path todo =>
      cases h
      have quiet := beginOpening_quiet (w := w) (shaped.lookup (.loadingBulk todo opened)) rfl
        (fun _ _ => .initBulk ..) host path
      exact ⟨quiet.move rfl rfl, quiet.shaped⟩
  | closingBulk =>
    cases h
    obtain ⟨thread, world, wakes⟩ := afterSection_answer w key style below
      (show (Section.mk w.state (.answer (.error .shutDown)) [] false).next = _ from rfl)
    refine ⟨?_, afterSection_shaped trivial shaped⟩
    rw [thread, world, wakes]
    exact .quiet rfl calm rfl (.refl _)
  | loadingName load path =>
    cases h
    have quiet := beginOpening_quiet (w := w) shaped rfl (fun _ _ => .initName ..) host path
    exact ⟨quiet.move rfl rfl, quiet.shaped⟩
  | openedName load path outcome =>
    cases h
    exact ⟨adopt_move calm, afterSection_shaped (LoaderState.adopt_tidy ..) shaped⟩
  | closingName load failure =>
    cases h
    exact ⟨endLoad_move rfl calm (.refl _) rfl,
      afterSection_shaped trivial shaped⟩

/-! ### Turns -/

/-- A frame that is not a lookup waits for nothing and carries out no load. -/
theorem turn_quiet {frame : Frame} {turn : Turn} (shaped : Shaped (frame :: below))
    (simple : ∀ key style stage, frame ≠ .lookup key style stage)
    (h : Thread.turn host me w (frame :: below) = some turn) :
    Quiet w.state (jobs below) turn := by
  have calm : below.awaited? = none := shaped.tail_calm
  cases frame with
  | lookup key style stage => exact absurd rfl (simple key style stage)
  | request request =>
    cases h
    cases shaped with
    | push on shaped =>
      cases on
      exact serve_quiet shaped host w request
  | script role rest =>
    cases rest with
    | cons action rest =>
      rw [turn_script] at h
      exact begin_quiet (shaped.script rest) h
    | nil =>
      cases shaped with
      | program => cases h
      | push on shaped =>
        cases on <;> cases h
        · exact finishOpening_quiet shaped rfl _
        · exact finishOpening_quiet shaped rfl _
        · exact finishTeardown_quiet shaped rfl _
  | closing reason todo report =>
    cases todo with
    | cons handle todo =>
      rw [turn_closing, Option.some.injEq] at h
      rw [← h]
      exact beginClosing_quiet (shaped.closing _ _) handle
    | nil =>
      cases shaped with
      | push on shaped =>
        cases on <;> cases h
        · exact answer_quiet (.refl _) shaped ..
        · exact ⟨rfl, calm, .refl _, shaped⟩
        · exact ⟨rfl, calm, .refl _, shaped⟩

/-- Every turn is a move, and keeps the shape of the stack. -/
theorem turn_move {turn : Turn} (shaped : thread.Shaped)
    (fresh : thread.awaited? = none → Assoc.find? me w.state.waits = none)
    (h : thread.turn host me w = some turn) :
    Move me w.state thread turn.thread turn.world.state turn.wakes ∧ turn.thread.Shaped := by
  cases thread with
  | nil => cases h
  | cons frame below =>
    cases frame with
    | lookup key style stage => exact lookupTurn_move shaped fresh h
    | script role rest =>
      have quiet := turn_quiet shaped (by simp) h
      exact ⟨quiet.move rfl rfl, quiet.shaped⟩
    | request request =>
      have quiet := turn_quiet shaped (by simp) h
      exact ⟨quiet.move rfl rfl, quiet.shaped⟩
    | closing reason todo report =>
      have quiet := turn_quiet shaped (by simp) h
      exact ⟨quiet.move rfl rfl, quiet.shaped⟩

end Thread
end PluginHost
