import Mathlib.Data.Set.Insert
import PluginHost.Proofs.Coherence

/-!
# Failures that waiting lookups share

A lookup that waits for a load by name is to share the failure of that load.  The
failure is kept in one place for each key until the next load of the key begins.  So a
lookup that has the lock again before another load of the key began fails as the load
did; one that comes later searches the key anew.  And a lookup that is woken while its
load is still in progress does not wait for the load to end if the key is registered
already.

Main results:

- Theorem `Machine.Run.failure_kept`: a failure stays on record until another load of its
  key begins.
- Theorem `Machine.Run.failure_lost`: from then on it is not on record.
- Theorem `Machine.Reachable.failure_shared`: what becomes of a lookup that waits for a
  load by name.
- Theorem `Machine.exists_failure_not_shared`: a lookup may succeed although the load that
  it waited for fails.
-/

namespace PluginHost

namespace Thread

/-! ## Loads that fail -/

/-- The load by name that the next turn of a thread ends with a failure, and the failure. -/
def failing? : Thread → Option (Key × Nat × LoadError)
  | .lookup key _ (.openedName load _ (.error failure)) :: _ => some (key, load, failure)
  | .lookup key _ (.closingName load failure) :: _ => some (key, load, failure)
  | _ => none

theorem turn_of_failing (host : Host) (me : ThreadId) (w : World) {thread : Thread} {key : Key}
    {load : Nat} {failure : LoadError} (h : thread.failing? = some (key, load, failure)) :
    ∃ style below events, thread.turn host me w =
      some (afterSection w key style below (w.state.endLoad key load (.error failure) events)) := by
  unfold failing? at h
  split at h
  · cases h
    exact ⟨_, _, _, rfl⟩
  · cases h
    exact ⟨_, _, _, rfl⟩
  · cases h

/-- The load that a thread ends is the innermost one that it carries out. -/
theorem mem_jobs_of_failing {thread : Thread} {key : Key} {load : Nat} {failure : LoadError}
    (h : thread.failing? = some (key, load, failure)) : .name key load ∈ thread.jobs := by
  unfold failing? at h
  split at h
  · cases h
    exact List.mem_cons_self
  · cases h
    exact List.mem_cons_self
  · cases h

end Thread

namespace LoaderState

/-! ## Lookups that go on -/

variable {host : Host} {me : ThreadId} {key : Key} {load : Nat} {s : LoaderState}

theorem resumeLoad_of_failure {failure : LoadError} (active : s.isShutDown = false)
    (found : Assoc.find? key s.failures = some (load, failure)) :
    s.resumeLoad host me key load = ⟨s.unpark me, .answer (.error failure), [], false⟩ := by
  have active' : (s.unpark me).isShutDown = false := active
  have found' : Assoc.find? key (s.unpark me).failures = some (load, failure) := found
  simp [resumeLoad, active', found']

theorem resumeLoad_of_no_failure (active : s.isShutDown = false)
    (lost : ∀ failure, Assoc.find? key s.failures ≠ some (load, failure)) :
    s.resumeLoad host me key load = (s.unpark me).search host me key := by
  have active' : (s.unpark me).isShutDown = false := active
  have same : (s.unpark me).failures = s.failures := rfl
  simp only [resumeLoad, active', same, Bool.false_eq_true, if_false]
  split
  · next failed failure found =>
    rw [if_neg]
    rintro rfl
    exact lost failure found
  · rfl

/-- A search that comes upon a load of another thread, which it may wait for. -/
theorem search_of_load {owner : ThreadId} (mode : s.modes.get key.kind = .byName)
    (busy : Assoc.find? key s.byName = some ⟨owner, load⟩) (other : owner ≠ me)
    (free : s.closesCycle me owner = false) :
    s.search host me key =
      match s.registry.find? key with
      | some payload =>
        ⟨s.touch key.kind, .answer (.ok payload), [.notice (.found key.kind key.name)], false⟩
      | none =>
        ⟨(s.touch key.kind).park me owner, .stage (.awaitingLoad load false), [], false⟩ := by
  rw [search_eq, mode, busy]
  cases s.registry.find? key with
  | some payload => rfl
  | none => simp [other, free]

end LoaderState

namespace Machine

variable {hosts : Set Host} {modes : PerKind SearchMode} {first last m next : Machine}
  {through : List Machine} {host : Host} {t : ThreadId} {key : Key} {load : Nat}
  {failure : LoadError}

/-- In one turn a load by name ends with a failure. -/
def Fails (hosts : Set Host) (before : Machine) (key : Key) (load : Nat) (failure : LoadError)
    (after : Machine) : Prop :=
  ∃ host ∈ hosts, ∃ me, (before.thread me).failing? = some (key, load, failure) ∧
    before.step host me = some after

/-- No load by name of a key is in progress. -/
def Idle (m : Machine) (key : Key) : Prop :=
  Assoc.find? key m.world.state.byName = none

/-- The failure on record for a key is that of a load. -/
def OnRecord (m : Machine) (key : Key) (load : Nat) (failure : LoadError) : Prop :=
  Assoc.find? key m.world.state.failures = some (load, failure)

/-- The failure that ends a load is on record, unless it is that of a loader that has been
shut down, and the load is over. -/
theorem Fails.onRecord (h : Fails hosts m key load failure next) (sound : m.Sound)
    (shared : failure ≠ .shutDown) :
    next.OnRecord key load failure ∧ next.Idle key ∧ next.world.state.Over (.name key load) := by
  obtain ⟨host, -, me, failing, taken⟩ := h
  obtain ⟨-, turn, taken, world, -⟩ := step_eq taken
  obtain ⟨style, below, events, turned⟩ := Thread.turn_of_failing host me m.world failing
  have busy : m.world.state.owner? (.name key load) = some me :=
    (sound.coherent.owned.iff _ me).2 (Thread.mem_jobs_of_failing failing)
  have state : next.world.state = m.world.state.finishLoad key load (.error failure) := by
    rw [turned, Option.some.injEq] at taken
    rw [world, ← taken]
    exact (Thread.afterSection_answer _ _ _ _ rfl).2.1
  unfold OnRecord Idle
  rw [state]
  refine ⟨?_, ?_, sound.coherent.wf.over_finishLoad busy _⟩
  · have recorded : (m.world.state.finishLoad key load (.error failure)).failures =
        Assoc.insert key (load, failure) m.world.state.failures := by
      cases failure <;> first | rfl | exact absurd rfl shared
    rw [recorded, Assoc.find?_insert_self]
  · rw [LoaderState.find?_finishLoad, if_pos rfl]

/-! ## What is on record -/

/-- What a change does to the failures on record: a load that begins takes that of its key
away, and a load that ends may leave its own. -/
theorem Sound.failures_of_change (sound : m.Sound) (change : Change hosts m next) :
    next.world.state.failures = m.world.state.failures ∨
      (∃ started, next.world.state.failures = Assoc.erase started m.world.state.failures ∧
        ¬ next.Idle started) ∨
      ∃ finished number result owner,
        m.world.state.owner? (.name finished number) = some owner ∧
          next.world.state.failures =
            (m.world.state.finishLoad finished number result).failures := by
  obtain ⟨me, after, wakes, -, move, -⟩ := sound.move_of_change change
  unfold Idle
  generalize before : m.thread me = thread at move
  generalize next.world.state = s' at move ⊢
  cases move with
  | quiet awake calm jobs same =>
    obtain ⟨_, _, rfl⟩ := same
    exact .inl rfl
  | answer ready calm same =>
    obtain ⟨_, _, rfl⟩ := same
    exact .inl rfl
  | park ready awaits parked busy other free same =>
    obtain ⟨_, _, rfl⟩ := same
    exact .inl rfl
  | @startLoad started style stage below _ path ready idle mode same =>
    obtain ⟨_, _, rfl⟩ := same
    refine .inr (.inl ⟨started, rfl, ?_⟩)
    simp [LoaderState.startLoad]
  | startBulk paths ready idle mode same =>
    obtain ⟨_, _, rfl⟩ := same
    exact .inl rfl
  | @endLoad finished style stage below _ number result job calm same =>
    obtain ⟨_, _, rfl⟩ := same
    exact .inr (.inr ⟨finished, number, result, me, sound.coherent.busy_of_job before job, rfl⟩)
  | endBulk calm jobs same =>
    obtain ⟨_, _, rfl⟩ := same
    exact .inl rfl

/-- A failure stays on record as long as no load of its key begins. -/
theorem Sound.onRecord_of_change (sound : m.Sound) (change : Change hosts m next)
    (idle : m.Idle key) (idle' : next.Idle key) (found : m.OnRecord key load failure) :
    next.OnRecord key load failure := by
  unfold OnRecord at found ⊢
  rcases sound.failures_of_change change with
    same | ⟨started, same, busy⟩ | ⟨finished, number, result, owner, busy, same⟩
  · rwa [same]
  · have ne : key ≠ started := by
      rintro rfl
      exact busy idle'
    rw [same, Assoc.find?_erase_of_ne ne]
    exact found
  · have ne : key ≠ finished := by
      rintro rfl
      have busy' := (LoaderState.owner?_name ..).1 busy
      unfold Idle at idle
      rw [idle] at busy'
      cases busy'
    rw [same]
    exact (LoaderState.find?_failures_finishLoad_of_ne ne number result).trans found

/-- A load that is over does not come on record again. -/
theorem Sound.not_onRecord_of_change (sound : m.Sound) (change : Change hosts m next)
    (ended : m.world.state.Over (.name key load)) (lost : ¬ m.OnRecord key load failure) :
    ¬ next.OnRecord key load failure := by
  intro found
  unfold OnRecord at found lost
  refine lost ?_
  rcases sound.failures_of_change change with
    same | ⟨started, same, -⟩ | ⟨finished, number, result, owner, busy, same⟩
  · rwa [same] at found
  · rw [same, Assoc.find?_erase] at found
    split at found
    · cases found
    · exact found
  · rw [same] at found
    rcases LoaderState.find?_failures_finishLoad found with old | ⟨rfl, rfl, -⟩
    · exact old
    · rw [ended.idle] at busy
      cases busy

/-- A failure stays on record until another load of its key begins. -/
theorem Run.failure_kept (run : Run hosts first through last) (sound : first.Sound)
    (found : first.OnRecord key load failure) (idle : ∀ m ∈ through, m.Idle key) :
    last.OnRecord key load failure :=
  run.sound_invariant sound (P := (·.OnRecord key load failure)) found
    fun m next sound hm hn found change =>
      sound.onRecord_of_change change (idle m hm) (idle next hn) found

/-- Once another load of its key has begun, a failure is on record no more. -/
theorem Run.failure_lost (run : Run hosts first through last) (sound : first.Sound)
    (ended : first.world.state.Over (.name key load)) (begun : ∃ m ∈ through, ¬ m.Idle key) :
    ¬ last.OnRecord key load failure := by
  obtain ⟨m, mem, busy⟩ := begun
  obtain ⟨_, _, until_m, from_m⟩ := run.cut mem
  have sound' := until_m.sound sound
  obtain ⟨other, busy⟩ := Option.ne_none_iff_exists'.1 busy
  have lost : ¬ m.OnRecord key load failure := by
    unfold OnRecord
    rw [sound'.coherent.wf.unfailed key other busy]
    simp
  have both : last.world.state.Over (.name key load) ∧ ¬ last.OnRecord key load failure :=
    from_m.sound_invariant sound'
      (P := fun m => m.world.state.Over (.name key load) ∧ ¬ m.OnRecord key load failure)
      ⟨until_m.ended sound ended, lost⟩ fun m next sound _ _ both change =>
        ⟨sound.over_of_change change both.1, sound.not_onRecord_of_change change both.1 both.2⟩
  exact both.2

/-! ## Lookups that wait for a load by name -/

variable {style : Style} {woken : Bool} {below : Thread}

/-- The owner of the load that a thread waits for is another thread, which does not wait
for it. -/
theorem Sound.not_leads_of_awaited (sound : m.Sound) {job : Job} {owner : ThreadId}
    (awaited : (m.thread t).awaited? = some job)
    (busy : m.world.state.owner? job = some owner) :
    ¬ Waits.Leads m.world.state.waits owner t := by
  intro chain
  obtain ⟨owner', edge, busy' | ⟨-, ended⟩⟩ := sound.coherent.waiting.exists_edge awaited
  · obtain rfl := Option.some.inj (busy.symm.trans busy')
    exact sound.coherent.waiting.acyclic t (.head' edge chain)
  · rw [ended.idle] at busy
    cases busy

/-- A thread whose load is over has been woken. -/
theorem Sound.woken_of_over (sound : m.Sound)
    (waits : m.thread t = .lookup key style (.awaitingLoad load woken) :: below)
    (ended : m.world.state.Over (.name key load)) : woken = true := by
  have awaited : (m.thread t).awaited? = some (.name key load) := by
    rw [waits]
    rfl
  obtain ⟨owner, -, busy | ⟨awake, -⟩⟩ := sound.coherent.waiting.exists_edge awaited
  · rw [ended.idle] at busy
    cases busy
  · rw [waits] at awake
    simpa [Thread.parked, Stage.parked] using awake

/-- A lookup that is woken while the load it waits for is in progress answers if its key is
registered, and waits for that load again if it is not. -/
theorem Sound.resumeLoad_of_busy (sound : m.Sound) {owner : ThreadId}
    (awaited : (m.thread t).awaited? = some (.name key load))
    (active : m.world.state.isShutDown = false)
    (busy : m.world.state.owner? (.name key load) = some owner) :
    m.world.state.resumeLoad host t key load =
      match m.world.state.registry.find? key with
      | some payload =>
        ⟨(m.world.state.unpark t).touch key.kind, .answer (.ok payload),
          [.notice (.found key.kind key.name)], false⟩
      | none =>
        ⟨((m.world.state.unpark t).touch key.kind).park t owner, .stage (.awaitingLoad load false),
          [], false⟩ := by
  have found := (LoaderState.owner?_name ..).1 busy
  have cycle := sound.not_leads_of_awaited awaited busy
  have other : owner ≠ t := fun heq => cycle (heq ▸ .refl)
  have free : (m.world.state.unpark t).closesCycle t owner = false := by
    rw [Bool.eq_false_iff, ne_eq, Waits.closesCycle_iff]
    exact fun chain =>
      cycle (Relation.ReflTransGen.mono (fun _ _ h => (Waits.edge_erase.1 h).2) _ _ chain)
  rw [LoaderState.resumeLoad_of_no_failure active]
  · exact LoaderState.search_of_load (sound.coherent.wf.nameMode key _ found) found other free
  · intro failure recorded
    rw [sound.coherent.wf.unfailed key _ found] at recorded
    cases recorded

/-- What becomes of a lookup that waits for a load by name, unless the loader is shut down.
While the load is in progress it waits on, or answers with what is registered by then.
After the load has failed it fails in the same way, without a call of the resolver or the
linker, provided that no other load of its key has begun meanwhile; else it searches its
key anew. -/
theorem Reachable.failure_shared (h : Reachable hosts modes m)
    (waits : m.thread t = .lookup key style (.awaitingLoad load woken) :: below)
    (active : m.world.state.isShutDown = false) (host : Host) :
    (∀ owner, m.world.state.owner? (.name key load) = some owner → woken = true →
      (m.thread t).turn host t m.world = some (Thread.afterSection m.world key style below
        (match m.world.state.registry.find? key with
        | some payload =>
          ⟨(m.world.state.unpark t).touch key.kind, .answer (.ok payload),
            [.notice (.found key.kind key.name)], false⟩
        | none =>
          ⟨((m.world.state.unpark t).touch key.kind).park t owner,
            .stage (.awaitingLoad load false), [], false⟩))) ∧
    (∀ before after failure through, Reachable hosts modes before →
      Fails hosts before key load failure after → failure ≠ .shutDown →
      Run hosts after through m →
        woken = true ∧
        ((∀ between ∈ through, between.Idle key) →
          (m.thread t).turn host t m.world = some (Thread.afterSection m.world key style below
            ⟨m.world.state.unpark t, .answer (.error failure), [], false⟩)) ∧
        ((∃ between ∈ through, ¬ between.Idle key) →
          (m.thread t).turn host t m.world = some (Thread.afterSection m.world key style below
            ((m.world.state.unpark t).search host t key)))) := by
  have awaited : (m.thread t).awaited? = some (.name key load) := by
    rw [waits]
    rfl
  have turn : woken = true → (m.thread t).turn host t m.world = some (Thread.afterSection m.world
      key style below (m.world.state.resumeLoad host t key load)) := by
    rintro rfl
    rw [waits]
    rfl
  constructor
  · intro owner busy awake
    rw [turn awake, h.sound.resumeLoad_of_busy awaited active busy]
  · intro before after failure through reached fails shared run
    obtain ⟨found, -, ended⟩ := fails.onRecord reached.sound shared
    obtain ⟨_, mem, _, -, taken⟩ := fails
    have sound : after.Sound := reached.sound.change (.step mem taken)
    have awake : woken = true := h.sound.woken_of_over waits (run.ended sound ended)
    refine ⟨awake, fun idle => ?_, fun begun => ?_⟩
    · have recorded := run.failure_kept sound found idle
      rw [turn awake, LoaderState.resumeLoad_of_failure active recorded]
    · have lost : ∀ failure, ¬ m.OnRecord key load failure := fun _ =>
        run.failure_lost sound ended begun
      rw [turn awake, LoaderState.resumeLoad_of_no_failure active lost]

/-- A host whose module registers its name and then fails to open; no file provides any
other name. -/
def hastyHost : Host :=
  let opening (path : Path) : Opening :=
    if path = ⟨[0]⟩ then
      .run [.request (.register ⟨.filter, "a"⟩ (.word 7))] (some (.loadFailed path "broken"))
        (.run [] none)
    else .refused (.loadFailed path "missing")
  ⟨⟨fun _ name => ⟨⟨[if name = "a" then 0 else 1]⟩, true⟩, fun _ => []⟩, ⟨opening⟩, .release⟩

/-- A machine in which one thread opens the module of `a`, another waits for it, and a third
is to look up `b`. -/
def openingModule : Machine :=
  let a : Action := .request (.tryGet ⟨.filter, "a"⟩)
  let b : Action := .request (.tryGet ⟨.filter, "b"⟩)
  ((((Machine.initial (.ofFn fun _ => .byName)).spawn [a]).spawn [a]).spawn [b]).run hastyHost
    [0, 0, 0, 0, 1, 1, 1]

theorem reachable_openingModule :
    Reachable {hastyHost} (.ofFn fun _ => .byName) openingModule :=
  (((Reachable.initial.spawn _).spawn _).spawn _).run (Set.mem_singleton hastyHost) _

/-- The failure with which the module of `a` does not open. -/
def brokenModule : LoadError :=
  .loadFailed ⟨[0]⟩ "broken"

/-- A lookup that has the lock again after the load has failed shares its failure. -/
theorem failure_shared_openingModule :
    let before := openingModule.run hastyHost [0, 0, 0]
    let after := before.run hastyHost [0]
    after.thread 1 =
        [.lookup ⟨.filter, "a"⟩ .full (.awaitingLoad 0 true), .script .program []] ∧
      Fails {hastyHost} before ⟨.filter, "a"⟩ 0 brokenModule after ∧
      (after.thread 1).turn hastyHost 1 after.world = some (Thread.afterSection after.world
        ⟨.filter, "a"⟩ .full [.script .program []]
          ⟨after.world.state.unpark 1, .answer (.error brokenModule), [], false⟩) := by
  intro before after
  have reached : Reachable {hastyHost} (.ofFn fun _ => .byName) before :=
    reachable_openingModule.run (Set.mem_singleton hastyHost) _
  have reached' : Reachable {hastyHost} (.ofFn fun _ => .byName) after :=
    reached.run (Set.mem_singleton hastyHost) _
  have fails : Fails {hastyHost} before ⟨.filter, "a"⟩ 0 brokenModule after :=
    ⟨hastyHost, Set.mem_singleton hastyHost, 0, rfl, rfl⟩
  have waits : after.thread 1 =
      [.lookup ⟨.filter, "a"⟩ .full (.awaitingLoad 0 true), .script .program []] := rfl
  refine ⟨waits, fails, ?_⟩
  obtain ⟨-, shared, -⟩ := (reached'.failure_shared waits rfl hastyHost).2 before after
    brokenModule [after] reached fails nofun .refl
  exact shared fun between mem => by
    obtain rfl := List.mem_singleton.1 mem
    rfl

/-- A lookup that waits for a load may answer with what its module has registered before
the load fails. -/
theorem exists_failure_not_shared :
    ∃ through before after, Run {hastyHost} openingModule through before ∧
      openingModule.thread 1 =
        [.lookup ⟨.filter, "a"⟩ .full (.awaitingLoad 0 false), .script .program []] ∧
      Fails {hastyHost} before ⟨.filter, "a"⟩ 0 brokenModule after ∧
      after.world.state.isShutDown = false ∧
      (1, .returned (.lookup (.ok (.word 7)))) ∈ after.trace := by
  obtain ⟨through, run⟩ := Run.of_schedule (Set.mem_singleton hastyHost) openingModule
    [0, 0, 2, 2, 2, 2, 2, 1, 0]
  refine ⟨through, _, _, run, rfl,
    ⟨hastyHost, Set.mem_singleton hastyHost, 0, rfl, rfl⟩, rfl, ?_⟩
  exact List.mem_of_getElem? (i := 2) rfl

end Machine
end PluginHost
