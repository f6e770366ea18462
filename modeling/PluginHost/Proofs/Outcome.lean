import PluginHost.Proofs.Section
import PluginHost.Proofs.Stack

/-!
# What a lookup does in a lock section

Each turn of a lookup with the lock runs one section, by the stage that the lookup has
reached.  This module says once what can come of it, with what decides it: the section and
the state that it leaves.  What is to be shown of all sections is shown case by case from
here.

Main results:

- Theorem `Stage.runs_settle`: what a lookup does that makes sure of the bulk load of its kind.
- Theorem `Stage.runs`: what a lookup does in the section of its turn.
-/

namespace PluginHost

/-! ## Sections by stage -/

/-- The lock section that the next turn of a lookup runs, if it runs one. -/
def Stage.lockSection? (host : Host) (me : ThreadId) (key : Key) (s : LoaderState) :
    Stage → Option Section
  | entering => some (s.enter host me key)
  | awaitingBulk true => some (s.resumeBulk host me key)
  | awaitingLoad load true => some (s.resumeLoad host me key load)
  | loadingBulk [] opened => some (s.settled host me key opened)
  | closingBulk => some ⟨s, .answer (.error .shutDown), [], false⟩
  | openedName load path outcome => some (s.adopt key load path outcome)
  | closingName load failure => some (s.endLoad key load (.error failure) [])
  | _ => none

/-- The state from which a lookup searches its key: the table of the kind exists, or the
lookup no longer waits. -/
def LoaderState.begun (s : LoaderState) (me : ThreadId) (key : Key) : Stage → LoaderState
  | .entering => s.touch key.kind
  | _ => s.unpark me

/-- Whether a lookup searches its key next, and makes sure of the bulk load of its kind. -/
def Stage.settles : Stage → Bool
  | entering | awaitingBulk true => true
  | _ => false

/-- The other state differs at most in who waits, and in which tables of the registry exist. -/
structure LoaderState.Akin (s s' : LoaderState) : Prop where
  find? : ∀ key, s'.registry.find? key = s.registry.find? key
  modes : s'.modes = s.modes
  bulk : s'.bulk = s.bulk
  byName : s'.byName = s.byName
  failures : s'.failures = s.failures
  handles : s'.handles = s.handles

namespace LoaderState

theorem akin_touch (s : LoaderState) (kind : Kind) : s.Akin (s.touch kind) :=
  ⟨fun key => Registry.find?_touch s.registry kind key, rfl, rfl, rfl, rfl, rfl⟩

theorem akin_unpark (s : LoaderState) (me : ThreadId) : s.Akin (s.unpark me) :=
  ⟨fun _ => rfl, rfl, rfl, rfl, rfl, rfl⟩

/-- To begin a search changes nothing else. -/
theorem akin_begun (s : LoaderState) (me : ThreadId) (key : Key) (stage : Stage) :
    s.Akin (s.begun me key stage) := by
  unfold begun
  split
  · exact s.akin_touch key.kind
  · exact s.akin_unpark me

end LoaderState

/-! ## Outcomes -/

/-- What a lookup does in the lock section that it runs at a stage, with what decides it. -/
inductive Stage.Runs (host : Host) (me : ThreadId) (key : Key) (s : LoaderState) :
    Stage → Section → Prop
  /-- A lookup of no name fails. -/
  | nameless (empty : key.name.isEmpty = true) :
      Runs host me key s .entering
        ⟨s, .answer (.error (.invalidArgument .emptyName)), [], false⟩
  /-- After shutdown a lookup that would search fails. -/
  | refused {stage : Stage} {s' : LoaderState} (ready : stage.ready = true)
      (down : s.isShutDown = true) (state : s' = s ∨ s' = s.unpark me) :
      Runs host me key s stage ⟨s', .answer (.error .shutDown), [], false⟩
  /-- A lookup shares the failure of the load that it waited for. -/
  | shared {load : Nat} {failure : LoadError}
      (recorded : Assoc.find? key s.failures = some (load, failure)) :
      Runs host me key s (.awaitingLoad load true)
        ⟨s.unpark me, .answer (.error failure), [], false⟩
  /-- A lookup that waited for a load by name searches its key again. -/
  | again {load : Nat} (up : s.isShutDown = false) :
      Runs host me key s (.awaitingLoad load true) ((s.unpark me).search host me key)
  /-- A lookup inside the bulk load of its kind searches its key. -/
  | inside {stage : Stage} (settles : stage.settles = true) (up : s.isShutDown = false)
      (busy : s.bulk.get key.kind = some me) :
      Runs host me key s stage ((s.begun me key stage).search host me key)
  /-- A lookup does not wait for the bulk load of its kind because its owner waits for it. -/
  | insists {stage : Stage} {owner : ThreadId} (settles : stage.settles = true)
      (up : s.isShutDown = false) (busy : s.bulk.get key.kind = some owner) (other : owner ≠ me)
      (cycle : (s.begun me key stage).closesCycle me owner = true) :
      Runs host me key s stage
        { (s.begun me key stage).search host me key with
          events := .notice (.bulkNotAwaited key.kind) ::
            ((s.begun me key stage).search host me key).events }
  /-- A lookup waits for the bulk load of its kind. -/
  | awaits {stage : Stage} {owner : ThreadId} (settles : stage.settles = true)
      (up : s.isShutDown = false) (busy : s.bulk.get key.kind = some owner) (other : owner ≠ me)
      (free : (s.begun me key stage).closesCycle me owner = false) :
      Runs host me key s stage
        ⟨(s.begun me key stage).park me owner, .stage (.awaitingBulk false), [], false⟩
  /-- A lookup begins the bulk load of its kind. -/
  | lists {stage : Stage} (settles : stage.settles = true) (up : s.isShutDown = false)
      (idle : s.bulk.get key.kind = none) (mode : s.modes.get key.kind = .loadAll) :
      Runs host me key s stage
        ⟨(s.begun me key stage).startBulk me key.kind,
          .stage (.loadingBulk (host.resolver.all key.kind) []),
          [.resolvedAll key.kind,
            .notice (.bulkStarted key.kind (host.resolver.all key.kind).length)], false⟩
  /-- A lookup of a kind without a bulk load to make searches its key. -/
  | free {stage : Stage} (settles : stage.settles = true) (up : s.isShutDown = false)
      (idle : s.bulk.get key.kind = none) (mode : s.modes.get key.kind ≠ .loadAll) :
      Runs host me key s stage ((s.begun me key stage).search host me key)
  /-- A bulk load ends, its modules are kept, and the key is searched. -/
  | settled {opened : List Handle} (up : s.isShutDown = false) :
      Runs host me key s (.loadingBulk [] opened)
        { ((s.endBulk key.kind).keep opened).search host me key with wakes := true }
  /-- A bulk load ends after shutdown, and its modules are closed. -/
  | settledLate {opened : List Handle} (down : s.isShutDown = true) :
      Runs host me key s (.loadingBulk [] opened)
        ⟨s.endBulk key.kind, .discard opened .closingBulk, [], true⟩
  /-- A lookup fails whose bulk load ended after shutdown. -/
  | closed : Runs host me key s .closingBulk ⟨s, .answer (.error .shutDown), [], false⟩
  /-- A load by name ends with a module that is kept. -/
  | adopted {load : Nat} {path : Path} {handle : Handle} {payload : Payload}
      (up : s.isShutDown = false) (registered : s.registry.find? key = some payload) :
      Runs host me key s (.openedName load path (.ok handle))
        (((s.touch key.kind).keep [handle]).endLoad key load (.ok payload)
          [.notice (.loaded key.kind key.name path)])
  /-- A module that did not register its name is closed. -/
  | rejected {load : Nat} {path : Path} {handle : Handle} (up : s.isShutDown = false)
      (unregistered : s.registry.find? key = none) :
      Runs host me key s (.openedName load path (.ok handle))
        ⟨s.touch key.kind,
          .discard [handle] (.closingName load (.nonConformant key.kind key.name path)),
          [.notice (.didNotRegister key.kind key.name path)], false⟩
  /-- A module that was opened by name is closed after shutdown. -/
  | openedLate {load : Nat} {path : Path} {handle : Handle} (down : s.isShutDown = true) :
      Runs host me key s (.openedName load path (.ok handle))
        ⟨s, .discard [handle] (.closingName load .shutDown), [], false⟩
  /-- A load by name fails because its file did not open. -/
  | unopened {load : Nat} {path : Path} {failure : LoadError} :
      Runs host me key s (.openedName load path (.error failure))
        (s.endLoad key load (.error failure) [.notice (.openFailed key.kind key.name failure)])
  /-- A load by name fails because its module was closed again. -/
  | failed {load : Nat} {failure : LoadError} :
      Runs host me key s (.closingName load failure) (s.endLoad key load (.error failure) [])

namespace Stage

variable {host : Host} {me : ThreadId} {key : Key} {stage : Stage} {s : LoaderState}

theorem ready_of_settles (h : stage.settles = true) : stage.ready = true := by
  unfold settles at h
  split at h
  · rfl
  · rfl
  · cases h

/-- A lookup that is about to search carries out no load. -/
theorem job?_of_ready (h : stage.ready = true) : stage.job? key = none := by
  unfold ready at h
  split at h
  · rfl
  · rfl
  · rfl
  · cases h

/-- What a lookup does that makes sure of the bulk load of its kind. -/
theorem runs_settle (settles : stage.settles = true) (up : s.isShutDown = false) :
    Runs host me key s stage ((s.begun me key stage).settle host me key) := by
  have akin := s.akin_begun me key stage
  unfold LoaderState.settle
  cases mark : (s.begun me key stage).bulk.get key.kind with
  | some owner =>
    have busy : s.bulk.get key.kind = some owner := by rw [← akin.bulk, mark]
    dsimp only
    split
    · next mine => exact .inside settles up (mine ▸ busy)
    · next other =>
      split
      · next cycle => exact .insists settles up busy other cycle
      · next free => exact .awaits settles up busy other (Bool.eq_false_iff.2 free)
  | none =>
    have idle : s.bulk.get key.kind = none := by rw [← akin.bulk, mark]
    dsimp only
    split
    · next mode => exact .lists settles up idle (akin.modes ▸ mode)
    · next mode => exact .free settles up idle (akin.modes ▸ mode)

/-- What a lookup does in the lock section of its turn. -/
theorem runs {ran : Section} (h : stage.lockSection? host me key s = some ran) :
    Runs host me key s stage ran := by
  unfold lockSection? at h
  split at h
  · cases h
    unfold LoaderState.enter
    split
    · next empty => exact .nameless empty
    · split
      · next down => exact .refused rfl down (.inl rfl)
      · next up => exact runs_settle rfl (Bool.eq_false_iff.2 up)
  · cases h
    simp only [LoaderState.resumeBulk]
    split
    · next down => exact .refused rfl down (.inr rfl)
    · next up => exact runs_settle rfl (Bool.eq_false_iff.2 up)
  · next load =>
    cases h
    simp only [LoaderState.resumeLoad]
    split
    · next down => exact .refused rfl down (.inr rfl)
    · next up =>
      split
      · next failed failure recorded =>
        split
        · next mine =>
          subst mine
          exact .shared recorded
        · exact .again (Bool.eq_false_iff.2 up)
      · exact .again (Bool.eq_false_iff.2 up)
  · cases h
    rw [LoaderState.settled_eq]
    split
    · next down => exact .settledLate down
    · next up => exact .settled (Bool.eq_false_iff.2 up)
  · cases h
    exact .closed
  · next load path outcome =>
    cases h
    cases outcome with
    | error failure => exact .unopened
    | ok handle =>
      rw [LoaderState.adopt_ok_eq]
      split
      · next down => exact .openedLate down
      · next up =>
        cases found : s.registry.find? key with
        | some payload => exact .adopted (Bool.eq_false_iff.2 up) found
        | none => exact .rejected (Bool.eq_false_iff.2 up) found
  · cases h
    exact .failed
  · cases h

end Stage

end PluginHost
