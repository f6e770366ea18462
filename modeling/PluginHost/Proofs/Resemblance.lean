import PluginHost.Loader.Scenario
import PluginHost.Proofs.Custody
import PluginHost.Proofs.Frames

/-!
# Loaders that cannot be told apart

Some of what a loader keeps behind its lock does not show: which tables exist that have no name, the
numbers of loads, and the failures on record and the waits, which are looked at by threads that wait
for each other.  With one thread nobody waits.  So of two machines that differ in nothing else, one
goes the same way as the other, turn by turn: the threads are told the same, and the same is asked
of the resolver and the linker.  Only why a name cannot be taken out is said in other words when the
table of its kind does not exist.

Main results:

- Theorem `Registry.Resembles.remove`: a removal comes to the same, up to the detail of its failure.
- Theorem `LoaderState.Resembles.search`: a lookup finds the same, if every load is its thread's
  own.
- Theorem `Thread.Resembles.turn`: threads that resemble each other take turns that do.
- Theorem `Machine.Resembles.step`: machines that resemble each other take steps that do.
- Theorem `Machine.SameWay.runWith`: they go the same way under every schedule.
-/

namespace PluginHost

/-! ## Registries -/

/-- A failure, without the detail whether the table of a kind lacks a name or there is no table. -/
def LoadError.coarse : LoadError → LoadError
  | .notFound (.unregistered kind _) => .notFound (.untouchedKind kind)
  | failure => failure

namespace Registry

variable {registry registry' : Registry} {key : Key} {payload : Payload}

/-- The other registry has the same names in the same order; there may be other empty tables. -/
def Resembles (registry registry' : Registry) : Prop :=
  ∀ kind, registry.table kind = registry'.table kind

/-- Whether there is a table is looked at only to say why there is nothing to take out. -/
theorem remove_of_unregistered (unregistered : registry.find? key = none) :
    ∃ failure, registry.remove key = .error failure ∧
      failure.coarse = .notFound (.untouchedKind key.kind) := by
  rw [Registry.find?, Option.map_eq_none_iff] at unregistered
  refine ⟨_, Registry.remove_of_stored?_eq_none unregistered, ?_⟩
  split <;> rfl

namespace Resembles

theorem find? (h : registry.Resembles registry') (key : Key) :
    registry.find? key = registry'.find? key := by
  rw [Registry.find?, Registry.find?, Registry.stored?, Registry.stored?, h key.kind]

theorem names (h : registry.Resembles registry') (kind : Kind) :
    registry.names kind = registry'.names kind := by
  rw [Registry.names, Registry.names, h kind]

theorem touch (h : registry.Resembles registry') (kind : Kind) :
    (registry.touch kind).Resembles (registry'.touch kind) := by
  intro other
  rw [table_touch, table_touch, h other]

theorem set (h : registry.Resembles registry') (kind : Kind) (table : Table) :
    Resembles ⟨registry.tables.set kind (some table)⟩ ⟨registry'.tables.set kind (some table)⟩ := by
  intro other
  rw [table_set, table_set, h other]

/-- A registration comes to the same in both registries. -/
theorem insert (h : registry.Resembles registry') (key : Key) (payload : Payload) :
    (∃ failure, registry.insert key payload = .error failure ∧
        registry'.insert key payload = .error failure) ∨
      ∃ next next', registry.insert key payload = .ok next ∧
        registry'.insert key payload = .ok next' ∧ next.Resembles next' := by
  unfold Registry.insert
  rw [h.find? key, h key.kind]
  split
  · exact .inl ⟨_, rfl, rfl⟩
  · split
    · exact .inl ⟨_, rfl, rfl⟩
    · exact .inr ⟨_, _, rfl, rfl, h.set key.kind _⟩

/-- A removal comes to the same in both registries, up to the detail of its failure. -/
theorem remove (h : registry.Resembles registry') (key : Key) :
    (∃ failure failure', registry.remove key = .error failure ∧
        registry'.remove key = .error failure' ∧ failure.coarse = failure'.coarse) ∨
      ∃ entry next next', registry.remove key = .ok (entry, next) ∧
        registry'.remove key = .ok (entry, next') ∧ next.Resembles next' := by
  cases found : registry.stored? key with
  | none =>
    have unregistered : registry.find? key = none := by rw [Registry.find?, found]; rfl
    obtain ⟨failure, fails, coarse⟩ := remove_of_unregistered unregistered
    obtain ⟨failure', fails', coarse'⟩ :=
      remove_of_unregistered ((h.find? key).symm.trans unregistered)
    exact .inl ⟨failure, failure', fails, fails', coarse.trans coarse'.symm⟩
  | some entry =>
    have found' : registry'.stored? key = some entry := by
      rw [← found, Registry.stored?, Registry.stored?, h key.kind]
    refine .inr ⟨entry, _, _, Registry.remove_eq_ok_iff.2 ⟨found, rfl⟩,
      Registry.remove_eq_ok_iff.2 ⟨found', rfl⟩, ?_⟩
    rw [h key.kind]
    exact h.set key.kind _

end Resembles

end Registry

/-! ## What is behind the lock -/

namespace LoaderState

/-- The other state differs at most in which empty tables exist, in the numbers of loads, in the
failures on record and in who waits. -/
structure Resembles (s s' : LoaderState) : Prop where
  registry : s.registry.Resembles s'.registry
  modes : s.modes = s'.modes
  bulk : s.bulk = s'.bulk
  owner : ∀ key, (Assoc.find? key s.byName).map Load.owner =
    (Assoc.find? key s'.byName).map Load.owner
  handles : s.handles = s'.handles

/-- Every load in progress is one of the thread's own. -/
structure Alone (me : ThreadId) (s : LoaderState) : Prop where
  bulk : ∀ kind owner, s.bulk.get kind = some owner → owner = me
  byName : ∀ key load, Assoc.find? key s.byName = some load → load.owner = me

end LoaderState

/-- The other stage differs at most in the number of its load, and neither lookup waits. -/
inductive Stage.Resembles : Stage → Stage → Prop
  | entering : Resembles .entering .entering
  | loadingBulk (todo : List Path) (opened : List Handle) :
      Resembles (.loadingBulk todo opened) (.loadingBulk todo opened)
  | closingBulk : Resembles .closingBulk .closingBulk
  | loadingName (load load' : Nat) (path : Path) :
      Resembles (.loadingName load path) (.loadingName load' path)
  | openedName (load load' : Nat) (path : Path) (outcome : Except LoadError Handle) :
      Resembles (.openedName load path outcome) (.openedName load' path outcome)
  | closingName (load load' : Nat) (failure : LoadError) :
      Resembles (.closingName load failure) (.closingName load' failure)

/-- The other lookup goes on in the same way. -/
inductive Next.Resembles : Next → Next → Prop
  | answer (result : Except LoadError Payload) : Resembles (.answer result) (.answer result)
  | stage {stage stage' : Stage} (h : stage.Resembles stage') :
      Resembles (.stage stage) (.stage stage')
  | discard (handles : List Handle) {stage stage' : Stage} (h : stage.Resembles stage') :
      Resembles (.discard handles stage) (.discard handles stage')

/-- The other lock section comes to the same. -/
structure Section.Resembles (ran ran' : Section) : Prop where
  state : ran.state.Resembles ran'.state
  next : ran.next.Resembles ran'.next
  events : ran.events = ran'.events
  wakes : ran.wakes = ran'.wakes

namespace LoaderState

variable {s s' : LoaderState} {me : ThreadId}

namespace Resembles

theorem isShutDown (h : s.Resembles s') : s.isShutDown = s'.isShutDown := by
  rw [LoaderState.isShutDown, LoaderState.isShutDown, h.handles]

theorem alone (h : s.Resembles s') (alone : s.Alone me) : s'.Alone me where
  bulk kind owner busy := alone.bulk kind owner (h.bulk ▸ busy)
  byName key load found := by
    have owner := h.owner key
    rw [found] at owner
    obtain ⟨load', found', same⟩ := Option.map_eq_some_iff.1 owner
    rw [← same]
    exact alone.byName key load' found'

theorem touch (h : s.Resembles s') (kind : Kind) : (s.touch kind).Resembles (s'.touch kind) :=
  ⟨h.registry.touch kind, h.modes, h.bulk, h.owner, h.handles⟩

theorem keep (h : s.Resembles s') (handles : List Handle) :
    (s.keep handles).Resembles (s'.keep handles) :=
  ⟨h.registry, h.modes, h.bulk, h.owner, congrArg (Option.map (· ++ handles)) h.handles⟩

theorem close (h : s.Resembles s') : s.close.Resembles s'.close :=
  ⟨fun _ => rfl, h.modes, h.bulk, h.owner, rfl⟩

theorem endBulk (h : s.Resembles s') (kind : Kind) :
    (s.endBulk kind).Resembles (s'.endBulk kind) :=
  ⟨h.registry, congrArg (·.set kind .settled) h.modes, congrArg (·.set kind none) h.bulk, h.owner,
    h.handles⟩

theorem startLoad (h : s.Resembles s') (key : Key) :
    (s.startLoad me key).Resembles (s'.startLoad me key) := by
  refine ⟨h.registry, h.modes, h.bulk, fun other => ?_, h.handles⟩
  rw [find?_startLoad, find?_startLoad]
  split
  · rfl
  · exact h.owner other

theorem finishLoad (h : s.Resembles s') (key : Key) (load load' : Nat)
    (result result' : Except LoadError Payload) :
    (s.finishLoad key load result).Resembles (s'.finishLoad key load' result') := by
  refine ⟨h.registry, h.modes, h.bulk, fun other => ?_, h.handles⟩
  rw [find?_finishLoad, find?_finishLoad]
  split
  · rfl
  · exact h.owner other

theorem search (h : s.Resembles s') (alone : s.Alone me) (host : Host) (key : Key) :
    (s.search host me key).Resembles (s'.search host me key) := by
  have touched := h.touch key.kind
  rw [search_eq, search_eq, ← h.registry.find? key, ← h.modes]
  cases s.registry.find? key with
  | some payload => exact ⟨touched, .answer _, rfl, rfl⟩
  | none =>
    cases s.modes.get key.kind with
    | loadAll => exact ⟨touched, .answer _, rfl, rfl⟩
    | settled => exact ⟨touched, .answer _, rfl, rfl⟩
    | byName =>
      have owner := h.owner key
      have other := (h.alone alone).byName key
      cases mark : Assoc.find? key s.byName with
      | some load =>
        -- the load is the thread's own, so the lookup is refused and does not wait
        rw [mark] at owner
        obtain ⟨load', mark', -⟩ := Option.map_eq_some_iff.1 owner.symm
        rw [mark']
        dsimp only
        rw [if_pos (alone.byName key load mark), if_pos (other load' mark')]
        exact ⟨touched, .answer _, rfl, rfl⟩
      | none =>
        rw [mark] at owner
        have mark' := Option.map_eq_none_iff.1 owner.symm
        rw [mark']
        dsimp only
        split
        · exact ⟨touched.startLoad key, .stage (.loadingName ..), rfl, rfl⟩
        · exact ⟨touched, .answer _, rfl, rfl⟩

theorem settle (h : s.Resembles s') (alone : s.Alone me) (host : Host) (key : Key) :
    (s.settle host me key).Resembles (s'.settle host me key) := by
  unfold LoaderState.settle
  rw [← h.bulk, ← h.modes]
  cases mark : s.bulk.get key.kind with
  | some owner =>
    dsimp only
    rw [if_pos (alone.bulk _ owner mark), if_pos (alone.bulk _ owner mark)]
    exact h.search alone host key
  | none =>
    dsimp only
    split
    · exact ⟨⟨h.registry, rfl, rfl, h.owner, h.handles⟩, .stage (.loadingBulk ..), rfl, rfl⟩
    · exact h.search alone host key

theorem enter (h : s.Resembles s') (alone : s.Alone me) (host : Host) (key : Key) :
    (s.enter host me key).Resembles (s'.enter host me key) := by
  unfold LoaderState.enter
  rw [← h.isShutDown]
  split
  · exact ⟨h, .answer _, rfl, rfl⟩
  · split
    · exact ⟨h, .answer _, rfl, rfl⟩
    · exact (h.touch key.kind).settle ⟨alone.bulk, alone.byName⟩ host key

theorem settled (h : s.Resembles s') (alone : s.Alone me) (host : Host) (key : Key)
    (opened : List Handle) :
    (s.settled host me key opened).Resembles (s'.settled host me key opened) := by
  have ended := h.endBulk key.kind
  rw [settled_eq, settled_eq, ← h.isShutDown]
  split
  · exact ⟨ended, .discard _ .closingBulk, rfl, rfl⟩
  · have alone' : ((s.endBulk key.kind).keep opened).Alone me := by
      refine ⟨fun kind owner busy => ?_, alone.byName⟩
      by_cases same : kind = key.kind
      · subst same
        simp [LoaderState.keep, LoaderState.endBulk] at busy
      · refine alone.bulk kind owner ?_
        simpa [LoaderState.keep, LoaderState.endBulk, PerKind.get_set_of_ne same] using busy
    obtain ⟨state, next, events, -⟩ := (ended.keep opened).search alone' host key
    exact ⟨state, next, events, rfl⟩

theorem endLoad (h : s.Resembles s') (key : Key) (load load' : Nat)
    (result : Except LoadError Payload) (events : List Event) :
    (s.endLoad key load result events).Resembles (s'.endLoad key load' result events) :=
  ⟨h.finishLoad key load load' result result, .answer result, rfl, rfl⟩

theorem adopt (h : s.Resembles s') (key : Key) (load load' : Nat) (path : Path)
    (outcome : Except LoadError Handle) :
    (s.adopt key load path outcome).Resembles (s'.adopt key load' path outcome) := by
  cases outcome with
  | error failure => exact h.endLoad key load load' _ _
  | ok handle =>
    rw [adopt_ok_eq, adopt_ok_eq, ← h.isShutDown, ← h.registry.find? key]
    split
    · exact ⟨h, .discard _ (.closingName ..), rfl, rfl⟩
    · cases s.registry.find? key with
      | some payload => exact ((h.touch key.kind).keep [handle]).endLoad key load load' _ _
      | none => exact ⟨h.touch key.kind, .discard _ (.closingName ..), rfl, rfl⟩

end Resembles

end LoaderState

/-! ## Threads and worlds -/

/-- A reply, without the detail of a failure. -/
def Reply.coarse : Reply → Reply
  | .done (.error failure) => .done (.error failure.coarse)
  | reply => reply

/-- An event, without the detail of a failure in a reply. -/
def Event.coarse : Event → Event
  | .acted reply => .acted reply.coarse
  | .returned reply => .returned reply.coarse
  | event => event

/-- The other frame differs at most in the stage of a lookup. -/
inductive Frame.Resembles : Frame → Frame → Prop
  | script (role : Role) (rest : Script) : Resembles (.script role rest) (.script role rest)
  | request (request : Request) : Resembles (.request request) (.request request)
  | lookup (key : Key) (style : Style) {stage stage' : Stage} (h : stage.Resembles stage') :
      Resembles (.lookup key style stage) (.lookup key style stage')
  | closing (reason : CloseReason) (todo : List Handle) (report : ReleaseReport) :
      Resembles (.closing reason todo report) (.closing reason todo report)

/-- The other thread has the same frames, each up to the stage of a lookup. -/
abbrev Thread.Resembles : Thread → Thread → Prop :=
  List.Forall₂ Frame.Resembles

/-- The other world differs at most in what does not show behind the lock. -/
structure World.Resembles (w w' : World) : Prop where
  state : w.state.Resembles w'.state
  mapped : w.mapped = w'.mapped
  nextSerial : w.nextSerial = w'.nextSerial
  gates : w.gates = w'.gates
  dropping : w.dropping = w'.dropping

/-- The other turn comes to the same, and the same is observed, up to details of failures. -/
structure Turn.Resembles (turn turn' : Turn) : Prop where
  thread : turn.thread.Resembles turn'.thread
  world : turn.world.Resembles turn'.world
  events : turn.events.map Event.coarse = turn'.events.map Event.coarse
  wakes : turn.wakes = turn'.wakes

theorem World.Resembles.withState {w w' : World} {s s' : LoaderState} (world : w.Resembles w')
    (state : s.Resembles s') : Resembles { w with state := s } { w' with state := s' } :=
  ⟨state, world.mapped, world.nextSerial, world.gates, world.dropping⟩

namespace Thread

variable {me : ThreadId} {w w' : World} {below below' thread thread' : Thread}
  {reply reply' : Reply} {events events' : List Event} {s s' : LoaderState}

theorem coarse_events (role : Role) (coarse : reply.coarse = reply'.coarse) :
    (role.events reply).map Event.coarse = (role.events reply').map Event.coarse := by
  cases role with
  | program => simp [Role.events, Event.coarse, coarse]
  | teardown handle => simp [Role.events, Event.coarse, coarse]
  | init pending =>
    simp only [Role.events]
    split
    · simp [Event.coarse, coarse]
    · rfl

theorem Resembles.answer (frames : below.Resembles below') (world : w.Resembles w')
    (coarse : reply.coarse = reply'.coarse)
    (same : events.map Event.coarse = events'.map Event.coarse) (wakes : Bool) :
    (Thread.answer w below reply events wakes).Resembles
      (Thread.answer w' below' reply' events' wakes) := by
  cases frames with
  | nil => exact ⟨.nil, world, same, rfl⟩
  | cons top frames =>
    cases top with
    | script role rest =>
      refine ⟨.cons (.script role rest) frames, world, ?_, rfl⟩
      show (events ++ role.events reply).map Event.coarse =
        (events' ++ role.events reply').map Event.coarse
      rw [List.map_append, List.map_append, same, coarse_events role coarse]
    | request request => exact ⟨.cons (.request request) frames, world, same, rfl⟩
    | lookup key style h => exact ⟨.cons (.lookup key style h) frames, world, same, rfl⟩
    | closing reason todo report =>
      exact ⟨.cons (.closing reason todo report) frames, world, same, rfl⟩

theorem Resembles.afterSection (frames : below.Resembles below') (world : w.Resembles w')
    {ran ran' : Section} (sections : ran.Resembles ran') (key : Key) (style : Style) :
    (Thread.afterSection w key style below ran).Resembles
      (Thread.afterSection w' key style below' ran') := by
  obtain ⟨state, next, events, wakes⟩ := ran
  obtain ⟨state', next', events', wakes'⟩ := ran'
  obtain ⟨states, nexts, same, same'⟩ := sections
  dsimp only at states nexts same same'
  subst same same'
  have after := world.withState states
  cases nexts with
  | answer result => exact frames.answer after rfl rfl wakes
  | stage h => exact ⟨.cons (.lookup key style h) frames, after, rfl, rfl⟩
  | discard handles h =>
    exact ⟨.cons (.closing .discard handles .zero) (.cons (.lookup key style h) frames), after, rfl,
      rfl⟩

theorem Resembles.deliver (frames : thread.Resembles thread') (world : w.Resembles w') (path : Path)
    (outcome : Except LoadError Handle) (events : List Event) :
    (Thread.deliver w path outcome events thread).Resembles
      (Thread.deliver w' path outcome events thread') := by
  have alike : Turn.Resembles ⟨thread, w, events, false⟩ ⟨thread', w', events, false⟩ :=
    ⟨frames, world, rfl, rfl⟩
  cases frames with
  | nil => exact alike
  | cons top frames =>
    cases top with
    | script | request | closing => exact alike
    | lookup key style h =>
      cases h with
      | entering | closingBulk | openedName | closingName => exact alike
      | loadingBulk todo opened =>
        cases outcome <;>
          exact ⟨.cons (.lookup key style (.loadingBulk ..)) frames, world, rfl, rfl⟩
      | loadingName load load' file =>
        exact ⟨.cons (.lookup key style (.openedName ..)) frames, world, rfl, rfl⟩

theorem Resembles.finishOpening (frames : thread.Resembles thread') (world : w.Resembles w')
    (pending : Pending) :
    (Thread.finishOpening w pending thread).Resembles
      (Thread.finishOpening w' pending thread') := by
  unfold Thread.finishOpening
  rw [← world.nextSerial]
  cases pending.failure with
  | some failure => exact frames.deliver world pending.path _ _
  | none =>
    have next : World.Resembles { w with nextSerial := w.nextSerial + 1 }
        { w' with nextSerial := w.nextSerial + 1 } :=
      ⟨world.state, world.mapped, rfl, world.gates, world.dropping⟩
    exact frames.deliver next pending.path (.ok ⟨w.nextSerial, pending.path, pending.teardown⟩) []

theorem Resembles.unmap (world : w.Resembles w') (library : Library) :
    (Thread.unmap w library).1.Resembles (Thread.unmap w' library).1 ∧
      (Thread.unmap w library).2 = (Thread.unmap w' library).2 := by
  unfold Thread.unmap
  rw [← world.mapped]
  exact ⟨⟨world.state, rfl, world.nextSerial, world.gates, world.dropping⟩, rfl⟩

theorem Resembles.beginOpening (frames : thread.Resembles thread') (world : w.Resembles w')
    (host : Host) (path : Path) :
    (Thread.beginOpening host w path thread).Resembles
      (Thread.beginOpening host w' path thread') := by
  simp only [Thread.beginOpening]
  split
  · exact frames.deliver world path _ _
  · exact ⟨.cons (.script _ _) frames, world, rfl, rfl⟩
  · next library _ =>
    have mapped : World.Resembles { w with mapped := library.file :: w.mapped }
        { w' with mapped := library.file :: w'.mapped } :=
      ⟨world.state, congrArg (library.file :: ·) world.mapped, world.nextSerial, world.gates,
        world.dropping⟩
    obtain ⟨unmapped, gone⟩ := Resembles.unmap mapped library
    split
    · rw [gone]
      exact frames.deliver unmapped path _ _
    · exact ⟨.cons (.script _ _) frames, mapped, rfl, rfl⟩

theorem Resembles.finishClosing (frames : thread.Resembles thread') (world : w.Resembles w')
    (path : Path) (failure : Option LoadError) (events : List Event) :
    (Thread.finishClosing w path failure events thread).Resembles
      (Thread.finishClosing w' path failure events thread') := by
  have alike : Turn.Resembles ⟨thread, w, events, false⟩ ⟨thread', w', events, false⟩ :=
    ⟨frames, world, rfl, rfl⟩
  cases frames with
  | nil => exact alike
  | cons top frames =>
    cases top with
    | script | request | lookup => exact alike
    | closing reason todo report =>
      exact ⟨.cons (.closing reason todo _) frames, world, rfl, rfl⟩

theorem Resembles.beginClosing (frames : thread.Resembles thread') (world : w.Resembles w')
    (handle : Handle) :
    (Thread.beginClosing w handle thread).Resembles (Thread.beginClosing w' handle thread') := by
  unfold Thread.beginClosing
  cases handle.teardown with
  | run script failure => exact ⟨.cons (.script _ _) frames, world, rfl, rfl⟩
  | unmap library =>
    obtain ⟨unmapped, gone⟩ := Resembles.unmap world library
    dsimp only
    rw [gone]
    exact frames.finishClosing unmapped handle.path none _

theorem Resembles.finishTeardown (frames : thread.Resembles thread') (world : w.Resembles w')
    (handle : Handle) :
    (Thread.finishTeardown w handle thread).Resembles
      (Thread.finishTeardown w' handle thread') := by
  unfold Thread.finishTeardown
  cases handle.teardown <;> exact frames.finishClosing world handle.path _ _

/-! ## Calls of the loader -/

/-- A registration comes to the same. -/
theorem Resembles.register (h : s.Resembles s') (key : Key) (payload : Payload) :
    (Thread.register s key payload).1.Resembles (Thread.register s' key payload).1 ∧
      (Thread.register s key payload).2 = (Thread.register s' key payload).2 := by
  unfold Thread.register
  rw [← h.isShutDown]
  split
  · exact ⟨h, rfl⟩
  · split
    · exact ⟨h, rfl⟩
    · rcases h.registry.insert key payload with
        ⟨failure, fails, fails'⟩ | ⟨next, next', done, done', registry⟩
      · rw [fails, fails']
        exact ⟨h, rfl⟩
      · rw [done, done']
        exact ⟨⟨registry, h.modes, h.bulk, h.owner, h.handles⟩, rfl⟩

theorem Resembles.registerCall (h : s.Resembles s') (call : HostCall) :
    (Thread.registerCall s call).1.Resembles (Thread.registerCall s' call).1 ∧
      (Thread.registerCall s call).2 = (Thread.registerCall s' call).2 := by
  unfold Thread.registerCall
  cases call.registration with
  | error failure => exact ⟨h, rfl⟩
  | ok bound =>
    obtain ⟨key, payload⟩ := bound
    have registered := Resembles.register h key payload
    dsimp only
    generalize Thread.register s key payload = done at registered ⊢
    generalize Thread.register s' key payload = done' at registered ⊢
    obtain ⟨after, result, events⟩ := done
    obtain ⟨after', result', events'⟩ := done'
    obtain ⟨state, rfl, rfl⟩ : after.Resembles after' ∧ result = result' ∧ events = events' := by
      simpa using registered
    cases result <;> exact ⟨state, rfl⟩

/-- A removal comes to the same, up to the detail of its failure. -/
theorem Resembles.unregister (h : s.Resembles s') (key : Key) :
    (Thread.unregister s key).1.Resembles (Thread.unregister s' key).1 ∧
      (Reply.done (Thread.unregister s key).2.1).coarse =
        (Reply.done (Thread.unregister s' key).2.1).coarse ∧
      (Thread.unregister s key).2.2 = (Thread.unregister s' key).2.2 := by
  unfold Thread.unregister
  rw [← h.isShutDown]
  split
  · exact ⟨h, rfl, rfl⟩
  · rcases h.registry.remove key with
      ⟨failure, failure', fails, fails', coarse⟩ | ⟨payload, next, next', done, done', registry⟩
    · rw [fails, fails']
      exact ⟨h, by simp [Reply.coarse, coarse], rfl⟩
    · rw [done, done']
      exact ⟨⟨registry, h.modes, h.bulk, h.owner, h.handles⟩, rfl, rfl⟩

theorem Resembles.shutDown (frames : below.Resembles below') (world : w.Resembles w')
    (host : Host) :
    (Thread.shutDown host w below).Resembles (Thread.shutDown host w' below') := by
  have down := world.withState world.state.close
  unfold Thread.shutDown
  rw [← world.state.handles]
  cases w.state.handles with
  | none => exact frames.answer down rfl rfl true
  | some set =>
    dsimp only
    split
    · exact frames.answer down rfl rfl true
    · exact ⟨.cons (.closing _ _ _) frames, down, rfl, rfl⟩

theorem Resembles.serve (frames : below.Resembles below') (world : w.Resembles w') (host : Host)
    (request : Request) :
    (Thread.serve host w below request).Resembles (Thread.serve host w' below' request) := by
  have state := world.state
  cases request with
  | get key => exact ⟨.cons (.lookup key .quiet .entering) frames, world, rfl, rfl⟩
  | tryGet key => exact ⟨.cons (.lookup key .full .entering) frames, world, rfl, rfl⟩
  | register key payload =>
    obtain ⟨after, same⟩ := Resembles.register state key payload
    exact frames.answer (world.withState after)
      (congrArg (fun done => (Reply.done done.1).coarse) same)
      (congrArg (fun done => done.2.map Event.coarse) same) false
  | registrar call =>
    obtain ⟨after, same⟩ := Resembles.registerCall state call
    exact frames.answer (world.withState after)
      (congrArg (fun done => (Reply.accepted done.1.isOk).coarse) same)
      (congrArg (fun done => done.2.map Event.coarse) same) false
  | unregister key =>
    obtain ⟨after, coarse, same⟩ := Resembles.unregister state key
    exact frames.answer (world.withState after) coarse (congrArg (List.map Event.coarse) same) false
  | names kind =>
    simp only [Thread.serve]
    rw [state.registry.names kind]
    exact frames.answer world rfl rfl false
  | mode kind =>
    simp only [Thread.serve]
    rw [state.modes]
    exact frames.answer world rfl rfl false
  | moduleCount =>
    simp only [Thread.serve]
    rw [LoaderState.moduleCount, LoaderState.moduleCount, state.handles]
    exact frames.answer world rfl rfl false
  | isShutDown =>
    simp only [Thread.serve]
    rw [state.isShutDown]
    exact frames.answer world rfl rfl false
  | policy => exact frames.answer world rfl rfl false
  | shutdown => exact frames.shutDown world host
  | drop =>
    have dropping : World.Resembles { w with dropping := true } { w' with dropping := true } :=
      ⟨state, world.mapped, world.nextSerial, world.gates, rfl⟩
    exact frames.shutDown dropping host

/-! ## Turns -/

theorem Resembles.begin (frames : below.Resembles below') (world : w.Resembles w') (role : Role)
    (action : Action) :
    Option.Rel Turn.Resembles (Thread.begin w role below action)
      (Thread.begin w' role below' action) := by
  have tells : ∀ reply, Option.Rel Turn.Resembles
      (some (Thread.answer w below reply [] false))
      (some (Thread.answer w' below' reply [] false)) :=
    fun reply => .some (frames.answer world rfl rfl false)
  have calls : ∀ request, Option.Rel Turn.Resembles
      (some ⟨.request request :: below, w, [], false⟩)
      (some ⟨.request request :: below', w', [], false⟩) :=
    fun request => .some ⟨.cons (.request request) frames, world, rfl, rfl⟩
  cases action with
  | gate id =>
    simp only [Thread.begin, ← world.gates]
    split
    · exact tells .passed
    · exact .none
  | request request =>
    simp only [Thread.begin, ← world.dropping]
    split
    · exact tells .dropped
    · exact calls request
  | nullPayload =>
    simp only [Thread.begin, ← world.dropping]
    exact tells _
  | registrar call =>
    cases role with
    | init pending =>
      simp only [Thread.begin]
      split
      · exact tells (.accepted false)
      · exact calls _
    | program => exact tells .noRegistrar
    | teardown handle => exact tells .noRegistrar
  | registrarNull => cases role <;> exact tells _

theorem Resembles.lookupTurn (frames : below.Resembles below') (world : w.Resembles w')
    (alone : w.state.Alone me) (host : Host) (key : Key) (style : Style) {stage stage' : Stage}
    (h : stage.Resembles stage') :
    Option.Rel Turn.Resembles (Thread.lookupTurn host me w key style below stage)
      (Thread.lookupTurn host me w' key style below' stage') := by
  have state := world.state
  cases h with
  | entering => exact .some (frames.afterSection world (state.enter alone host key) key style)
  | loadingBulk todo opened =>
    cases todo with
    | nil =>
      exact .some (frames.afterSection world (state.settled alone host key opened) key style)
    | cons path todo =>
      have lookup : Frame.Resembles (.lookup key style (.loadingBulk todo opened))
        (.lookup key style (.loadingBulk todo opened)) := .lookup key style (.loadingBulk ..)
      exact .some (Resembles.beginOpening (.cons lookup frames) world host path)
  | closingBulk =>
    have closed : Section.Resembles ⟨w.state, .answer (.error .shutDown), [], false⟩
        ⟨w'.state, .answer (.error .shutDown), [], false⟩ := ⟨state, .answer _, rfl, rfl⟩
    exact .some (frames.afterSection world closed key style)
  | loadingName load load' path =>
    have lookup : Frame.Resembles (.lookup key style (.loadingName load path))
      (.lookup key style (.loadingName load' path)) := .lookup key style (.loadingName ..)
    exact .some (Resembles.beginOpening (.cons lookup frames) world host path)
  | openedName load load' path outcome =>
    exact .some (frames.afterSection world (state.adopt key load load' path outcome) key style)
  | closingName load load' failure =>
    exact .some (frames.afterSection world (state.endLoad key load load' _ _) key style)

/-- Threads that resemble each other take turns that do, if every load is their own. -/
theorem Resembles.turn (frames : thread.Resembles thread') (world : w.Resembles w')
    (alone : w.state.Alone me) (host : Host) :
    Option.Rel Turn.Resembles (Thread.turn host me w thread) (Thread.turn host me w' thread') := by
  cases frames with
  | nil => exact .none
  | cons top frames =>
    cases top with
    | script role rest =>
      cases rest with
      | nil =>
        cases role with
        | program => exact .none
        | init pending => exact .some (Resembles.finishOpening frames world pending)
        | teardown handle => exact .some (Resembles.finishTeardown frames world handle)
      | cons action rest =>
        have below : Resembles (.script role rest :: _) (.script role rest :: _) :=
          .cons (.script role rest) frames
        cases role with
        | program => exact below.begin world .program action
        | init pending => exact below.begin world (.init pending) action
        | teardown handle => exact below.begin world (.teardown handle) action
    | request request => exact .some (Resembles.serve frames world host request)
    | lookup key style h => exact Resembles.lookupTurn frames world alone host key style h
    | closing reason todo report =>
      cases todo with
      | nil =>
        cases reason with
        | shutdown => exact .some (Resembles.answer frames world rfl rfl false)
        | discard => exact .some ⟨frames, world, rfl, rfl⟩
      | cons handle todo =>
        have below : Resembles (.closing reason todo report :: _)
            (.closing reason todo report :: _) :=
          .cons (.closing reason todo report) frames
        rw [turn_closing, turn_closing]
        exact .some (below.beginClosing world handle)

/-- Waking does nothing to threads that resemble each other, for they do not wait. -/
theorem Resembles.wakeIf (h : thread.Resembles thread') (wakes : Bool) :
    (thread.wakeIf wakes).Resembles (thread'.wakeIf wakes) := by
  have calm : thread.awaited? = none ∧ thread'.awaited? = none := by
    cases h with
    | nil => exact ⟨rfl, rfl⟩
    | cons top frames =>
      cases top with
      | script | request | closing => exact ⟨rfl, rfl⟩
      | lookup key style stage => cases stage <;> exact ⟨rfl, rfl⟩
  rwa [wakeIf_of_calm calm.1, wakeIf_of_calm calm.2]

theorem Resembles.released (h : thread.Resembles thread') : thread.released = thread'.released := by
  cases h with
  | nil => rfl
  | cons top frames =>
    cases top with
    | script | request | lookup => rfl
    | closing reason todo report => cases todo <;> rfl

theorem Resembles.status {w w' : World} (h : thread.Resembles thread')
    (gates : w.gates = w'.gates) : thread.status w = thread'.status w' := by
  cases h with
  | nil => rfl
  | cons top frames =>
    cases top with
    | request | closing => rfl
    | lookup key style stage => cases stage <;> rfl
    | script role rest =>
      cases rest with
      | nil => cases role <;> rfl
      | cons action rest =>
        cases action with
        | gate id => cases role <;> simp only [Thread.status, gates]
        | request | nullPayload | registrar | registrarNull => cases role <;> rfl

end Thread

/-! ## Machines -/

namespace Machine

variable {hosts : Set Host} {modes : PerKind SearchMode} {m m' : Machine} {host : Host}

/-- The step of a machine with one thread. -/
theorem step_single (host : Host) (w : World) (thread : Thread) (trace : List (ThreadId × Event)) :
    (⟨w, [thread], trace⟩ : Machine).step host 0 =
      (thread.turn host 0 w).map fun turn =>
        ⟨turn.world, [turn.thread.wakeIf turn.wakes],
          (turn.events.map fun event => (0, event)).reverse ++ trace⟩ := by
  simp only [step, List.getElem?_cons_zero, List.set_cons_zero]
  congr 1
  funext turn
  cases turn.wakes <;> rfl

/-- In the machine of one thread every load is the thread's own. -/
theorem Reachable.alone (h : Reachable hosts modes m) (single : m.threads.length = 1) :
    m.world.state.Alone 0 := by
  have mine : ∀ job owner, m.world.state.owner? job = some owner → owner = 0 := by
    intro job owner busy
    exact Nat.lt_one_iff.1 (single ▸ h.sound.owner_lt busy)
  refine ⟨fun kind owner busy => mine (.bulk kind) owner busy, fun key load found => ?_⟩
  exact mine (.name key load.id) load.owner ((LoaderState.owner?_name ..).2 found)

/-- The other machine has one thread as well, and differs in nothing that can be told. -/
structure Resembles (m m' : Machine) : Prop where
  world : m.world.Resembles m'.world
  threads : ∃ thread thread', m.threads = [thread] ∧ m'.threads = [thread'] ∧
    thread.Resembles thread'

/-- Something that was observed, without the detail of a failure in a reply. -/
def coarse (entry : ThreadId × Event) : ThreadId × Event :=
  (entry.1, entry.2.coarse)

/-- The same has been observed since two machines, up to details of failures. -/
def SameSince (m m' next next' : Machine) : Prop :=
  ∃ seen seen', next.trace = seen ++ m.trace ∧ next'.trace = seen' ++ m'.trace ∧
    seen.map coarse = seen'.map coarse

namespace Resembles

theorem snapshot (h : m.Resembles m') : Scenario.snapshot m = Scenario.snapshot m' := by
  have state := h.world.state
  unfold Scenario.snapshot
  rw [state.modes, state.isShutDown, LoaderState.moduleCount, LoaderState.moduleCount,
    state.handles, funext state.registry.names]

theorem thread (h : m.Resembles m') (t : ThreadId) : (m.thread t).Resembles (m'.thread t) := by
  obtain ⟨thread, thread', threads, threads', resembles⟩ := h.threads
  rw [Machine.thread, Machine.thread, threads, threads']
  cases t with
  | zero => exact resembles
  | succ t => exact .nil

/-- Machines that resemble each other take steps that do, if every load is the thread's own. -/
theorem step (h : m.Resembles m') (alone : m.world.state.Alone 0) (host : Host) (t : ThreadId) :
    Option.Rel (fun next next' => next.Resembles next' ∧ SameSince m m' next next')
      (m.step host t) (m'.step host t) := by
  obtain ⟨w, _, trace⟩ := m
  obtain ⟨w', _, trace'⟩ := m'
  obtain ⟨world, thread, thread', rfl, rfl, frames⟩ := h
  cases t with
  | succ t => exact .none
  | zero =>
    rw [step_single, step_single]
    have turns := frames.turn world alone host
    dsimp only at turns
    generalize thread.turn host 0 w = turn? at turns ⊢
    generalize thread'.turn host 0 w' = turn'? at turns ⊢
    cases turns with
    | none => exact .none
    | @some turn turn' same =>
      refine .some ⟨⟨same.world, _, _, rfl, rfl, ?_⟩, _, _, rfl, rfl, ?_⟩
      · rw [← same.wakes]
        exact same.thread.wakeIf _
      · have events := congrArg (List.map fun event => ((0 : ThreadId), event)) same.events
        rw [List.map_map, List.map_map] at events
        rw [List.map_reverse, List.map_reverse, List.map_map, List.map_map]
        exact congrArg List.reverse events

end Resembles

/-- Two runs that began at two machines have gone the same way: they have come to machines that
resemble each other, the same has been observed, and the same modules have been closed. -/
structure SameWay (first first' : Machine) (run run' : Machine × History) : Prop where
  resembles : run.1.Resembles run'.1
  seen : SameSince first first' run.1 run'.1
  released : run.2.released = run'.2.released

/-- Machines that resemble each other go the same way under every schedule. -/
theorem SameWay.runWith {first first' : Machine} {run run' : Machine × History}
    (mem : host ∈ hosts) (h : SameWay first first' run run')
    (reachable : Reachable hosts modes run.1) (schedule : List ThreadId) :
    SameWay first first' (run.1.runWith History.note host schedule run.2)
      (run'.1.runWith History.note host schedule run'.2) := by
  induction schedule generalizing run run' with
  | nil => exact h
  | cons t schedule ih =>
    obtain ⟨thread, -, threads, -⟩ := h.resembles.threads
    have steps := h.resembles.step (reachable.alone (by rw [threads]; rfl)) host t
    unfold Machine.runWith
    generalize taken : run.1.step host t = next at steps ⊢
    generalize taken' : run'.1.step host t = next' at steps ⊢
    cases steps with
    | none => exact ih h reachable
    | @some next next' same =>
      obtain ⟨resembles, seen, seen', trace, trace', coarse⟩ := same
      obtain ⟨before, before', old, old', coarseBefore⟩ := h.seen
      have goesOn : SameWay first first' (next, History.note run.1 t next run.2)
          (next', History.note run'.1 t next' run'.2) := by
        refine ⟨resembles, ⟨seen ++ before, seen' ++ before', ?_, ?_, ?_⟩, ?_⟩
        · rw [List.append_assoc, ← old]
          exact trace
        · rw [List.append_assoc, ← old']
          exact trace'
        · rw [List.map_append, List.map_append, coarse, coarseBefore]
        · show (run.1.thread t).released ++ run.2.released =
            (run'.1.thread t).released ++ run'.2.released
          rw [(h.resembles.thread t).released, h.released]
      exact ih goesOn (.change reachable (.step mem taken))

end Machine

end PluginHost
