import PluginHost.Proofs.Custody
import PluginHost.Proofs.Refusal
import PluginHost.Proofs.SharedFailure

/-!
# Loads by name, and what is registered

A load by name begins in the lock section in which its key was found to be neither registered
nor being loaded, and it ends in the section that keeps its module, if that has registered
the key.  No section of a lookup changes what is registered.  This module says so section by
section, and from there step by step.

Main results:

- Theorem `Section.named`: what a lock section of a lookup does about loads by name.
- Theorem `Section.answered`: why a lookup answers as it does.
- Theorem `Thread.begins_of_opening`: a file is opened for a load that has just begun.
- Theorem `Machine.Takes.nameMove`: what a step does about the loads of one key.
- Theorem `Machine.Takes.find?_kept`: what is registered stays so until its key is taken out of the
  registry.
-/

namespace PluginHost

/-! ## Lock sections -/

/-- To search a key changes nothing of what is registered. -/
theorem LoaderState.find?_search (host : Host) (me : ThreadId) (key other : Key)
    (s : LoaderState) :
    (s.search host me key).state.registry.find? other = s.registry.find? other := by
  have touched := Registry.find?_touch s.registry key.kind other
  have outcome := search_cases host me key s
  generalize s.search host me key = ran at outcome
  cases outcome <;> exact touched

/-- What a lock section of a lookup of a key does about loads by name, with what decides
it: the states before and after it, and how the lookup goes on. -/
inductive Named (key : Key) (stage : Stage) (s s' : LoaderState) (next : Next) : Prop
  /-- No load by name begins or ends. -/
  | rest (marks : s'.byName = s.byName) (failures : s'.failures = s.failures)
      (next : ∀ load path, next ≠ .stage (.loadingName load path))
  /-- A load of the key begins. -/
  | begins {load : Load} (up : s.isShutDown = false)
      (unregistered : s.registry.find? key = none) (idle : Assoc.find? key s.byName = none)
      (marks : s'.byName = Assoc.insert key load s.byName)
      (failures : s'.failures = Assoc.erase key s.failures)
  /-- A load of the key ends, and its module is kept. -/
  | succeeds {payload : Payload} (registered : s.registry.find? key = some payload)
      (marks : s'.byName = Assoc.erase key s.byName) (failures : s'.failures = s.failures)
      (next : next = .answer (.ok payload))
  /-- A load of the key ends with a failure. -/
  | fails {load : Nat} {failure : LoadError}
      (failing : ∀ style below,
        Thread.failing? (.lookup key style stage :: below) = some (key, load, failure))
      (marks : s'.byName = Assoc.erase key s.byName)
      (failures : ∀ other, other ≠ key →
        Assoc.find? other s'.failures = Assoc.find? other s.failures)
      (next : next = .answer (.error failure))

/-- Why a lookup of a key answers as it does in a lock section. -/
inductive Section.Answered (host : Host) (me : ThreadId) (key : Key) (stage : Stage)
    (s : LoaderState) (ran : Section) : Except LoadError Payload → Prop
  | found {payload : Payload} (registered : s.registry.find? key = some payload) :
      Answered host me key stage s ran (.ok payload)
  | nameless (empty : key.name.isEmpty = true) :
      Answered host me key stage s ran (.error (.invalidArgument .emptyName))
  | down (down : s.isShutDown = true ∨ stage = .closingBulk) :
      Answered host me key stage s ran (.error .shutDown)
  | shared {load : Nat} {failure : LoadError} (waits : stage = .awaitingLoad load true)
      (recorded : Assoc.find? key s.failures = some (load, failure)) :
      Answered host me key stage s ran (.error failure)
  | failed {load : Nat} {failure : LoadError}
      (failing : ∀ style below,
        Thread.failing? (.lookup key style stage :: below) = some (key, load, failure)) :
      Answered host me key stage s ran (.error failure)
  | absent (mode : s.modes.get key.kind ≠ .byName ∨ stage.job? key = some (.bulk key.kind)) :
      Answered host me key stage s ran (.error (.notFound (.notProvided key.kind key.name)))
  | mine {load : Load} (busy : Assoc.find? key s.byName = some load) (own : load.owner = me)
      (unnamed : ∀ load, stage.job? key ≠ some (.name key load)) :
      Answered host me key stage s ran (.error (.notFound (.loadingHere key.kind key.name)))
  | refused {owner : ThreadId} (refuses : ran.Refuses key s owner) :
      Answered host me key stage s ran (.error (.notFound (.loadingByWaiter key.kind key.name)))
  | invalid (invalid : (host.resolver.one key.kind key.name).valid = false) :
      Answered host me key stage s ran (.error (.notFound (.noValidFile key.kind key.name
        (host.resolver.one key.kind key.name).path)))

namespace Section

variable {host : Host} {me : ThreadId} {key : Key} {stage : Stage} {s s' : LoaderState}
  {ran : Section} {result : Except LoadError Payload}

/-- No lock section of a lookup changes what is registered. -/
theorem find?_registry (runs : stage.lockSection? host me key s = some ran) (other : Key) :
    ran.state.registry.find? other = s.registry.find? other := by
  have akin := s.akin_begun me key stage
  have begun : ((s.begun me key stage).search host me key).state.registry.find? other =
      s.registry.find? other := by
    rw [LoaderState.find?_search, akin.find?]
  have touched := Registry.find?_touch s.registry key.kind other
  cases Stage.runs runs with
  | nameless _ => rfl
  | refused _ _ state =>
    rcases state with rfl | rfl
    · rfl
    · rfl
  | shared _ => rfl
  | again _ => exact begun
  | inside _ _ _ => exact begun
  | insists _ _ _ _ _ => exact begun
  | free _ _ _ _ => exact begun
  | awaits _ _ _ _ _ => exact akin.find? other
  | lists _ _ _ _ => exact akin.find? other
  | @settled opened _ =>
    exact LoaderState.find?_search host me key other ((s.endBulk key.kind).keep opened)
  | settledLate _ => rfl
  | closed => rfl
  | adopted _ _ => exact touched
  | rejected _ _ => exact touched
  | openedLate _ => rfl
  | unopened => rfl
  | failed => rfl

theorem search_named (up : s.isShutDown = false) (stage : Stage)
    (registry : s'.registry.find? key = s.registry.find? key) (marks : s'.byName = s.byName)
    (failures : s'.failures = s.failures) :
    Named key stage s (s'.search host me key).state (s'.search host me key).next := by
  have outcome := LoaderState.search_cases host me key s'
  generalize s'.search host me key = ran at outcome
  cases outcome with
  | found _ => exact .rest marks failures nofun
  | absent _ _ => exact .rest marks failures nofun
  | mine _ _ _ _ => exact .rest marks failures nofun
  | refused _ _ _ _ _ => exact .rest marks failures nofun
  | waits _ _ _ _ _ => exact .rest marks failures nofun
  | invalid _ _ _ _ => exact .rest marks failures nofun
  | starts unregistered _ idle _ =>
    rw [registry] at unregistered
    rw [marks] at idle
    have begun : (s'.startLoad me key).byName = Assoc.insert key ⟨me, s'.nextLoad⟩ s.byName := by
      rw [← marks]
      rfl
    have erased : (s'.startLoad me key).failures = Assoc.erase key s.failures := by
      rw [← failures]
      rfl
    exact .begins up unregistered idle begun erased

/-- What a lock section of a lookup does about loads by name. -/
theorem named (runs : stage.lockSection? host me key s = some ran) :
    Named key stage s ran.state ran.next := by
  have akin := s.akin_begun me key stage
  have begun : s.isShutDown = false → Named key stage s
      ((s.begun me key stage).search host me key).state
      ((s.begun me key stage).search host me key).next := fun up =>
    search_named up stage (akin.find? key) akin.byName akin.failures
  cases Stage.runs runs with
  | nameless _ => exact .rest rfl rfl nofun
  | refused _ _ state =>
    rcases state with rfl | rfl
    · exact .rest rfl rfl nofun
    · exact .rest rfl rfl nofun
  | shared _ => exact .rest rfl rfl nofun
  | again up => exact begun up
  | inside _ up _ => exact begun up
  | insists _ up _ _ _ => exact begun up
  | free _ up _ _ => exact begun up
  | awaits _ _ _ _ _ => exact .rest akin.byName akin.failures nofun
  | lists _ _ _ _ => exact .rest akin.byName akin.failures nofun
  | settled up => exact search_named up _ rfl rfl rfl
  | settledLate _ => exact .rest rfl rfl nofun
  | closed => exact .rest rfl rfl nofun
  | adopted _ registered => exact .succeeds registered rfl rfl rfl
  | rejected _ _ => exact .rest rfl rfl nofun
  | openedLate _ => exact .rest rfl rfl nofun
  | unopened =>
    refine .fails (fun _ _ => rfl) rfl (fun other ne => ?_) rfl
    exact LoaderState.find?_failures_finishLoad_of_ne ne ..
  | failed =>
    refine .fails (fun _ _ => rfl) rfl (fun other ne => ?_) rfl
    exact LoaderState.find?_failures_finishLoad_of_ne ne ..

theorem search_answered (registry : s'.registry.find? key = s.registry.find? key)
    (marks : s'.byName = s.byName)
    (mode : s'.modes.get key.kind ≠ .byName →
      s.modes.get key.kind ≠ .byName ∨ stage.job? key = some (.bulk key.kind))
    (unnamed : ∀ load, stage.job? key ≠ some (.name key load))
    (searches : ran.next = (s'.search host me key).next) (answer : ran.next = .answer result) :
    ran.Answered host me key stage s result := by
  have outcome := LoaderState.search_cases host me key s'
  rw [searches] at answer
  generalize s'.search host me key = searched at outcome searches answer
  cases outcome with
  | found registered =>
    cases answer
    exact .found (registry ▸ registered)
  | absent _ unlisted =>
    cases answer
    exact .absent (mode unlisted)
  | mine _ _ busy own =>
    cases answer
    exact .mine (marks ▸ busy) own unnamed
  | refused _ _ busy _ _ =>
    cases answer
    exact .refused (.name (marks ▸ busy) searches)
  | waits _ _ _ _ _ => cases answer
  | starts _ _ _ _ => cases answer
  | invalid _ _ _ invalid =>
    cases answer
    exact .invalid invalid

/-- Why a lookup answers as it does. -/
theorem answered (runs : stage.lockSection? host me key s = some ran)
    (answer : ran.next = .answer result) : ran.Answered host me key stage s result := by
  have akin := s.akin_begun me key stage
  have begun : stage.ready = true →
      ran.next = ((s.begun me key stage).search host me key).next →
        ran.Answered host me key stage s result := by
    intro ready searches
    refine search_answered (akin.find? key) akin.byName ?_ ?_ searches answer
    · intro mode
      rw [akin.modes] at mode
      exact .inl mode
    · intro load carries
      rw [Stage.job?_of_ready ready] at carries
      cases carries
  cases Stage.runs runs with
  | nameless empty =>
    cases answer
    exact .nameless empty
  | refused _ down _ =>
    cases answer
    exact .down (.inl down)
  | shared recorded =>
    cases answer
    exact .shared rfl recorded
  | again _ => exact begun rfl rfl
  | inside settles _ _ => exact begun (Stage.ready_of_settles settles) rfl
  | insists settles _ _ _ _ => exact begun (Stage.ready_of_settles settles) rfl
  | free settles _ _ _ => exact begun (Stage.ready_of_settles settles) rfl
  | awaits _ _ _ _ _ => cases answer
  | lists _ _ _ _ => cases answer
  | @settled opened _ =>
    have registry : ((s.endBulk key.kind).keep opened).registry.find? key =
        s.registry.find? key := rfl
    have bulk : Stage.job? key (.loadingBulk [] opened) = some (.bulk key.kind) := rfl
    exact search_answered registry rfl (fun _ => .inr bulk) nofun rfl answer
  | settledLate _ => cases answer
  | closed =>
    cases answer
    exact .down (.inr rfl)
  | adopted _ registered =>
    cases answer
    exact .found registered
  | rejected _ _ => cases answer
  | openedLate _ => cases answer
  | unopened =>
    cases answer
    exact .failed fun _ _ => rfl
  | failed =>
    cases answer
    exact .failed fun _ _ => rfl

/-- A payload that a lookup answers with is registered. -/
theorem registered_of_answer {payload : Payload}
    (runs : stage.lockSection? host me key s = some ran)
    (answer : ran.next = .answer (.ok payload)) : s.registry.find? key = some payload := by
  cases answered runs answer with
  | found registered => exact registered

end Section

/-! ## Bulk loads that ended after shutdown -/

/-- The stage that a lookup has reached after a lock section, if it goes on. -/
def Next.resumed? : Next → Option Stage
  | .answer _ => none
  | .stage resumed | .discard _ resumed => some resumed

namespace Stage

variable {stage : Stage}

theorem ne_closingBulk (opens : stage.opens = true) : stage ≠ .closingBulk := by
  rintro rfl
  cases opens

/-- A lookup that has been told what came of opening a file closes no modules. -/
theorem told_ne_closingBulk (opens : stage.opens = true) (outcome : Except LoadError Handle) :
    stage.told outcome ≠ .closingBulk := by
  unfold Stage.opens at opens
  split at opens
  · cases outcome with
    | ok handle => exact nofun
    | error failure => exact nofun
  · exact nofun
  · cases opens

end Stage

namespace Section

variable {host : Host} {me : ThreadId} {key : Key} {stage : Stage} {s : LoaderState} {ran : Section}

/-- A lookup goes on to close the modules of a bulk load only after shutdown. -/
theorem isShutDown_of_closingBulk (runs : stage.lockSection? host me key s = some ran)
    (next : ran.next.resumed? = some .closingBulk) : ran.state.isShutDown = true := by
  have searched : ∀ s' : LoaderState,
      (s'.search host me key).next.resumed? ≠ some .closingBulk := by
    intro s'
    have outcome := LoaderState.search_cases host me key s'
    generalize s'.search host me key = ran at outcome
    cases outcome <;> exact nofun
  cases Stage.runs runs with
  | settledLate down => exact down
  | again _ => exact absurd next (searched _)
  | inside _ _ _ => exact absurd next (searched _)
  | insists _ _ _ _ _ => exact absurd next (searched _)
  | free _ _ _ _ => exact absurd next (searched _)
  | settled _ => exact absurd next (searched _)
  | nameless _ => cases next
  | refused _ _ _ => cases next
  | shared _ => cases next
  | awaits _ _ _ _ _ => cases next
  | lists _ _ _ _ => cases next
  | closed => cases next
  | adopted _ _ => cases next
  | rejected _ _ => cases next
  | openedLate _ => cases next
  | unopened => cases next
  | failed => cases next

end Section

/-! ## Turns -/

namespace Thread

/-- The key whose file the next turn of a thread opens, to load that key. -/
def opening? : Thread → Option Key
  | .lookup key _ (.loadingName _ _) :: _ => some key
  | _ => none

/-- The key that the next turn of a thread takes out of the registry. -/
def unregistering? (s : LoaderState) : Thread → Option Key
  | .request (.unregister key) :: _ => if (unregister s key).2.1.isOk then some key else none
  | _ => none

@[simp]
theorem opening?_wakeIf (wakes : Bool) (thread : Thread) :
    (thread.wakeIf wakes).opening? = thread.opening? :=
  apply_wakeIf Thread.opening? (fun _ _ _ _ => rfl) (fun _ _ _ _ _ => rfl) wakes thread

/-- A thread that is about to open the file of a key carries out a load of the key. -/
theorem mem_jobs_of_opening {thread : Thread} {key : Key} (h : thread.opening? = some key) :
    ∃ load, .name key load ∈ thread.jobs := by
  unfold opening? at h
  split at h
  · next load path below =>
    cases h
    exact ⟨load, List.mem_cons_self⟩
  · cases h

theorem eq_of_opening {other key : Key} {style : Style} {stage : Stage} {below : Thread}
    (h : opening? (.lookup other style stage :: below) = some key) :
    other = key ∧ ∃ load path, stage = .loadingName load path := by
  unfold opening? at h
  split at h
  · next load path _ heq =>
    cases heq
    cases h
    exact ⟨rfl, load, path, rfl⟩
  · cases h

/-- A lookup that has been told what came of opening a file does not open it again. -/
theorem opening?_told {stage : Stage} (opens : stage.opens = true) (key : Key) (style : Style)
    (outcome : Except LoadError Handle) (below : Thread) :
    opening? (.lookup key style (stage.told outcome) :: below) = none := by
  unfold Stage.opens at opens
  split at opens
  · cases outcome with
    | ok handle => rfl
    | error failure => rfl
  · rfl
  · cases opens

variable {host : Host} {me : ThreadId} {w : World} {turn : Turn} {thread below : Thread}
  {s : LoaderState} {key : Key} {payload : Payload}

/-- A call of the loader was made by a script. -/
theorem opening?_below {request : Request} (shaped : Shaped (.request request :: below)) :
    below.opening? = none := by
  cases shaped with
  | push on _ =>
    cases on
    rfl

/-- Modules are closed for a script that shuts the loader down, or for a lookup that fails. -/
theorem opening?_below_closing {reason : CloseReason} {todo : List Handle} {report : ReleaseReport}
    (shaped : Shaped (.closing reason todo report :: below)) : below.opening? = none := by
  cases shaped with
  | push on _ => cases on <;> rfl

/-- A thread is about to open the file of a key because its turn began a load of that key. -/
theorem begins_of_opening (h : Effect host me w turn thread) (shaped : thread.Shaped)
    (opens : turn.thread.opening? = some key) :
    w.state.registry.find? key = none ∧ Assoc.find? key w.state.byName = none := by
  cases h with
  | act back _ =>
    rw [back] at opens
    cases opens
  | call request called _ =>
    rw [called] at opens
    cases opens
  | seek other style _ began _ =>
    rw [began] at opens
    cases opens
  | serve _ back _ _ =>
    rw [back, opening?_below shaped] at opens
    cases opens
  | shut _ back _ _ _ _ =>
    rw [back, opening?_below shaped] at opens
    cases opens
  | release _ closes _ _ _ _ _ =>
    rw [closes] at opens
    cases opens
  | init pending script _ began _ =>
    rw [began] at opens
    cases opens
  | refused failure opening told _ =>
    rw [told, opening?_told (Stage.opens_of_opening? opening)] at opens
    cases opens
  | opened begun told _ _ _ _ =>
    rw [told, opening?_told begun] at opens
    cases opens
  | @locked other style stage below ran runs eq =>
    subst eq
    cases next : ran.next with
    | answer result =>
      rw [(afterSection_answer w other style below next).1] at opens
      obtain ⟨_, _, _, rfl, _⟩ := shaped.below_lookup
      cases opens
    | discard handles after =>
      rw [afterSection_discard next] at opens
      cases opens
    | stage after =>
      rw [afterSection_stage next] at opens
      obtain ⟨rfl, load, path, rfl⟩ := eq_of_opening opens
      cases Section.named runs with
      | begins _ unregistered idle _ _ => exact ⟨unregistered, idle⟩
      | rest _ _ others => exact absurd next (others load path)
      | succeeds _ _ _ answers =>
        rw [answers] at next
        cases next
      | fails _ _ _ answers =>
        rw [answers] at next
        cases next
  | close upper _ script closes _ =>
    rw [closes] at opens
    rcases script with rfl | ⟨_, rfl⟩
    · cases opens
    · cases opens
  | closed _ back _ =>
    rw [back] at opens
    cases opens
  | finish back _ =>
    rw [back, opening?_below_closing shaped] at opens
    cases opens

/-- To register a payload takes no other one out of the registry. -/
theorem find?_register (found : s.registry.find? key = some payload) (other : Key)
    (offered : Payload) :
    (register s other offered).1.registry.find? key = some payload := by
  unfold register
  split
  · exact found
  · split
    · exact found
    · split
      · next registry inserted =>
        have isOk : (s.registry.insert other offered).isOk = true := by
          rw [inserted]
          rfl
        have free := ((s.registry.isOk_insert_iff other offered).1 isOk).2
        have ne : key ≠ other := by
          rintro rfl
          rw [free] at found
          cases found
        rw [Registry.find?_insert inserted, if_neg ne]
        exact found
      · exact found

/-- A call that is served in one lock section takes a key out of the registry only if that is
what it is for. -/
theorem find?_served {request : Request} (found : s.registry.find? key = some payload)
    (kept : unregistering? s (.request request :: below) ≠ some key) :
    (request.served s).registry.find? key = some payload := by
  cases request with
  | register other offered => exact find?_register found other offered
  | registrar call =>
    show (registerCall s call).1.registry.find? key = some payload
    rw [registerCall_fst]
    split
    · exact found
    · exact find?_register found ..
  | unregister other =>
    show (unregister s other).1.registry.find? key = some payload
    rw [unregistering?] at kept
    revert kept
    unfold unregister
    split
    · exact fun _ => found
    · split
      · next gone registry removed =>
        intro kept
        have ne : key ≠ other := fun same => kept (congrArg some same.symm)
        rw [Registry.find?_remove removed, if_neg ne]
        exact found
      · exact fun _ => found
  | get other => exact found
  | tryGet other => exact found
  | names kind => exact found
  | mode kind => exact found
  | moduleCount => exact found
  | isShutDown => exact found
  | policy => exact found
  | shutdown => exact found
  | drop => exact found

/-! ## Bulk loads that ended after shutdown -/

/-- To wake a lookup puts no closing of modules on the stack. -/
theorem mem_of_mem_wakeIf {wakes : Bool} {style : Style}
    (mem : .lookup key style .closingBulk ∈ thread.wakeIf wakes) :
    .lookup key style .closingBulk ∈ thread := by
  cases wakes with
  | false => exact mem
  | true =>
    simp only [wakeIf, if_true] at mem
    unfold wake at mem
    split at mem
    · simpa using mem
    · simpa using mem
    · exact mem

/-- A lookup closes the modules of a bulk load because the loader has been shut down. -/
theorem closingBulk_of_effect (h : Effect host me w turn thread) {style : Style}
    (mem : .lookup key style .closingBulk ∈ turn.thread) :
    .lookup key style .closingBulk ∈ thread ∨ turn.world.state.isShutDown = true := by
  cases h with
  | act back _ =>
    rw [back] at mem
    exact .inl (by simpa using mem)
  | call request called _ =>
    rw [called] at mem
    exact .inl (by simpa using mem)
  | seek other style _ began _ =>
    rw [began] at mem
    exact .inl (by simpa using mem)
  | serve _ back _ _ =>
    rw [back] at mem
    exact .inl (List.mem_cons_of_mem _ mem)
  | shut _ back _ _ _ _ =>
    rw [back] at mem
    exact .inl (List.mem_cons_of_mem _ mem)
  | release _ closes _ _ _ _ _ =>
    rw [closes] at mem
    exact .inl (by simpa using mem)
  | init pending script opening began _ =>
    have ne := Stage.ne_closingBulk (Stage.opens_of_opening? opening)
    rw [began] at mem
    exact .inl (List.mem_cons_of_mem _ (by simpa [ne.symm] using mem))
  | refused failure opening told _ =>
    have ne := Stage.told_ne_closingBulk (Stage.opens_of_opening? opening)
    rw [told] at mem
    exact .inl (List.mem_cons_of_mem _ (by simpa [(ne _).symm] using mem))
  | @opened pending other style' stage below begun told _ _ _ _ =>
    have ne := Stage.told_ne_closingBulk begun
    rw [told] at mem
    have mem : .lookup key style .closingBulk ∈ below := by simpa [(ne _).symm] using mem
    exact .inl (List.mem_cons_of_mem _ (List.mem_cons_of_mem _ mem))
  | @locked other style' stage below ran runs eq =>
    subst eq
    cases next : ran.next with
    | answer result =>
      rw [(afterSection_answer w other style' below next).1] at mem
      exact .inl (List.mem_cons_of_mem _ mem)
    | stage after =>
      rw [afterSection_stage next, List.mem_cons] at mem
      rcases mem with top | mem
      · cases top
        refine .inr ?_
        rw [afterSection_world]
        exact Section.isShutDown_of_closingBulk runs (by rw [next]; rfl)
      · exact .inl (List.mem_cons_of_mem _ mem)
    | discard handles after =>
      rw [afterSection_discard next, List.mem_cons, List.mem_cons] at mem
      rcases mem with closing | top | mem
      · cases closing
      · cases top
        refine .inr ?_
        rw [afterSection_world]
        exact Section.isShutDown_of_closingBulk runs (by rw [next]; rfl)
      · exact .inl (List.mem_cons_of_mem _ mem)
  | close upper _ script closes _ =>
    rw [closes] at mem
    rcases script with rfl | ⟨_, rfl⟩
    · exact .inl (by simpa using mem)
    · exact .inl (by simpa using mem)
  | closed _ back _ =>
    rw [back] at mem
    exact .inl (by simpa using mem)
  | finish back _ =>
    rw [back] at mem
    exact .inl (List.mem_cons_of_mem _ mem)

end Thread

/-! ## Steps -/

namespace Machine

/-- Whether a step opens the file of a key, to load that key. -/
def Step.opens (key : Key) (step : Step) : Bool :=
  (step.before.thread step.thread).opening? = some key

/-- Whether in a step a load of a key ends with a failure. -/
def Step.fails (key : Key) (step : Step) : Bool :=
  (step.before.thread step.thread).failing?.map Prod.fst = some key

/-- Whether a step takes a key out of the registry. -/
def Step.unregisters (key : Key) (step : Step) : Bool :=
  (step.before.thread step.thread).unregistering? step.before.world.state = some key

variable {hosts : Set Host} {modes : PerKind SearchMode} {m next : Machine} {history : History}
  {host : Host} {me t : ThreadId} {turn : Turn} {key : Key} {payload : Payload}

/-- What a step does about the loads of one key. -/
inductive NameMove (thread : Thread) (key : Key) (s s' : LoaderState) : Prop
  | rest (mark : Assoc.find? key s'.byName = Assoc.find? key s.byName)
      (failed : Assoc.find? key s'.failures = Assoc.find? key s.failures)
  | begins (up : s.isShutDown = false) (unregistered : s.registry.find? key = none)
      (idle : Assoc.find? key s.byName = none) (busy : Assoc.find? key s'.byName ≠ none)
      (fresh : Assoc.find? key s'.failures = none)
  | succeeds (registered : s.registry.find? key ≠ none)
      (ended : Assoc.find? key s'.byName = none)
      (failed : Assoc.find? key s'.failures = Assoc.find? key s.failures)
  | fails (failing : thread.failing?.map Prod.fst = some key)
      (ended : Assoc.find? key s'.byName = none)

theorem Takes.nameMove (takes : Takes host m me turn next) (key : Key) :
    NameMove (m.thread me) key m.world.state next.world.state := by
  rw [takes.world]
  have locked := takes.effect.locked_cases
  generalize m.thread me = before at locked ⊢
  cases locked with
  | nothing _ state => exact .rest (by rw [state]) (by rw [state])
  | closes _ state => exact .rest (by rw [state]; rfl) (by rw [state]; rfl)
  | @serves request _ _ state =>
    obtain ⟨registry, handles, same⟩ := Thread.served_sameLoads m.world.state request
    rw [state, same]
    exact .rest rfl rfl
  | @runs other style stage below ran runs eq =>
    rw [eq, Thread.afterSection_world]
    dsimp only
    by_cases hk : key = other
    · subst hk
      cases Section.named runs with
      | rest marks failures _ => exact .rest (by rw [marks]) (by rw [failures])
      | begins up unregistered idle marks failures =>
        refine .begins up unregistered idle ?_ ?_
        · rw [marks, Assoc.find?_insert_self]
          exact nofun
        · rw [failures, Assoc.find?_erase_self]
      | succeeds registered marks failures _ =>
        refine .succeeds ?_ ?_ (by rw [failures])
        · rw [registered]
          exact nofun
        · rw [marks, Assoc.find?_erase_self]
      | fails failing marks _ _ =>
        refine .fails ?_ ?_
        · rw [failing]
          rfl
        · rw [marks, Assoc.find?_erase_self]
    · cases Section.named runs with
      | rest marks failures _ => exact .rest (by rw [marks]) (by rw [failures])
      | begins _ _ _ marks failures =>
        refine .rest ?_ ?_
        · rw [marks, Assoc.find?_insert_of_ne hk]
        · rw [failures, Assoc.find?_erase_of_ne hk]
      | succeeds _ marks failures _ =>
        refine .rest ?_ (by rw [failures])
        rw [marks, Assoc.find?_erase_of_ne hk]
      | fails _ marks failures _ =>
        refine .rest ?_ (failures key hk)
        rw [marks, Assoc.find?_erase_of_ne hk]

/-- Once shut down the loader stays so. -/
theorem Takes.active (takes : Takes host m me turn next)
    (active : next.world.state.isShutDown = false) : m.world.state.isShutDown = false := by
  by_contra down
  rw [Bool.not_eq_false] at down
  have stays := (Thread.turn_balance takes.effect).down down
  rw [takes.world, stays] at active
  cases active

/-- What is registered stays so until its key is taken out of the registry or the loader is
shut down. -/
theorem Takes.find?_kept (takes : Takes host m me turn next)
    (found : m.world.state.registry.find? key = some payload)
    (kept : Step.unregisters key ⟨m, me, next⟩ = false)
    (active : next.world.state.isShutDown = false) :
    next.world.state.registry.find? key = some payload := by
  rw [takes.world] at active ⊢
  have locked := takes.effect.locked_cases
  have kept : (m.thread me).unregistering? m.world.state ≠ some key := of_decide_eq_false kept
  generalize m.thread me = before at locked kept
  cases locked with
  | nothing _ state =>
    rw [state]
    exact found
  | serves _ state =>
    rw [state]
    exact Thread.find?_served found kept
  | closes _ state =>
    rw [state] at active
    cases active
  | runs ran runs eq =>
    rw [eq, Thread.afterSection_world]
    exact (Section.find?_registry runs key).trans found

/-- A lookup that closes the modules of a bulk load finds the loader shut down. -/
theorem Traced.isShutDown_of_closingBulk (h : Traced hosts modes m history) {style : Style}
    (mem : .lookup key style .closingBulk ∈ m.thread t) : m.world.state.isShutDown = true := by
  refine h.invariant (P := fun m _ => ∀ t key style, .lookup key style .closingBulk ∈ m.thread t →
    m.world.state.isShutDown = true) ?_ ?_ ?_ t key style mem
  · intro t key style mem
    rw [thread_eq_nil (Nat.zero_le t)] at mem
    cases mem
  · intro m next _ down untouched t key style mem
    rw [untouched.state]
    rcases untouched.thread t with same | ⟨-, script, started⟩
    · rw [same] at mem
      exact down t key style mem
    · rw [started] at mem
      simp at mem
  · intro m next _ host me turn _ down _ takes t key style mem
    have stays := (Thread.turn_balance takes.effect).down
    rw [← takes.world] at stays
    by_cases ht : t = me
    · subst ht
      rw [takes.thread_self] at mem
      rcases Thread.closingBulk_of_effect takes.effect (Thread.mem_of_mem_wakeIf mem) with
        old | closed
      · exact stays (down t key style old)
      · rw [takes.world]
        exact closed
    · rw [takes.thread_of_ne ht] at mem
      exact stays (down t key style (Thread.mem_of_mem_wakeIf mem))

end Machine

end PluginHost
