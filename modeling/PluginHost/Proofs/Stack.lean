import PluginHost.Loader.Machine

/-!
# The stack of a thread

A thread is a stack of frames.  Which loads it carries out, and which load it waits
for, can be read off its frames; and a frame stands only on a frame that may have put
it there.

Main results:

- Theorem `Thread.Shaped.program_alone`: the program of a thread has no frame below it.
- Theorem `Thread.Shaped.below_lookup`: a lookup was begun by a script.
- Theorems `Thread.jobs_wake` and `Thread.awaited?_wake`: waking a thread changes neither
  its loads nor what it waits for.
-/

namespace PluginHost

/-! ## Loads -/

/-- A load, by what is loaded. -/
inductive Job where
  | bulk (kind : Kind)
  | name (key : Key) (load : Nat)
deriving DecidableEq

namespace LoaderState

/-- The thread that carries out a load, if the load is in progress. -/
def owner? (s : LoaderState) : Job → Option ThreadId
  | .bulk kind => s.bulk.get kind
  | .name key load =>
    match Assoc.find? key s.byName with
    | some found => if found.id = load then some found.owner else none
    | none => none

@[simp]
theorem owner?_bulk (s : LoaderState) (kind : Kind) : s.owner? (.bulk kind) = s.bulk.get kind :=
  rfl

theorem owner?_name (s : LoaderState) (key : Key) (load : Nat) (t : ThreadId) :
    s.owner? (.name key load) = some t ↔ Assoc.find? key s.byName = some ⟨t, load⟩ := by
  simp only [owner?]
  cases h : Assoc.find? key s.byName with
  | none => simp
  | some found =>
    obtain ⟨owner, id⟩ := found
    by_cases hid : id = load <;> simp [hid]

end LoaderState

/-! ## What a frame is about -/

namespace Stage

/-- The load that a lookup of a key carries out at a stage. -/
def job? (key : Key) : Stage → Option Job
  | loadingBulk _ _ => some (.bulk key.kind)
  | loadingName load _ | openedName load _ _ | closingName load _ => some (.name key load)
  | entering | awaitingBulk _ | awaitingLoad _ _ | closingBulk => none

/-- The load that a lookup of a key waits for at a stage. -/
def awaited? (key : Key) : Stage → Option Job
  | awaitingBulk _ => some (.bulk key.kind)
  | awaitingLoad load _ => some (.name key load)
  | _ => none

/-- Whether a lookup waits and has not been woken. -/
def parked : Stage → Bool
  | awaitingBulk woken | awaitingLoad _ woken => !woken
  | _ => false

/-- Whether the next lock section of a lookup begins or resumes its search. -/
def ready : Stage → Bool
  | entering => true
  | awaitingBulk woken | awaitingLoad _ woken => woken
  | _ => false

end Stage

/-- The load that a frame carries out. -/
def Frame.job? : Frame → Option Job
  | .lookup key _ stage => stage.job? key
  | _ => none

namespace Thread

/-- The loads that a thread carries out, the innermost first. -/
def jobs (thread : Thread) : List Job :=
  thread.filterMap Frame.job?

/-- The load that a thread waits for. -/
def awaited? : Thread → Option Job
  | .lookup key _ stage :: _ => stage.awaited? key
  | _ => none

/-- Whether a thread waits inside the loader and has not been woken. -/
def parked : Thread → Bool
  | .lookup _ _ stage :: _ => stage.parked
  | _ => false

@[simp]
theorem jobs_script (role : Role) (rest : Script) (below : Thread) :
    jobs (.script role rest :: below) = jobs below :=
  rfl

theorem jobs_lookup (key : Key) (style : Style) (stage : Stage) (below : Thread) :
    jobs (.lookup key style stage :: below) = (stage.job? key).toList ++ jobs below := by
  simp only [jobs, List.filterMap_cons, Frame.job?]
  cases stage.job? key <;> rfl

@[simp]
theorem awaited?_lookup (key : Key) (style : Style) (stage : Stage) (below : Thread) :
    awaited? (.lookup key style stage :: below) = stage.awaited? key :=
  rfl

/-- A thread that waits, woken or not, carries out the loads of the frames below. -/
theorem jobs_of_awaited {key : Key} {style : Style} {stage : Stage} {below : Thread} {job : Job}
    (h : stage.awaited? key = some job) :
    jobs (.lookup key style stage :: below) = jobs below := by
  rw [jobs_lookup]
  cases stage <;> simp [Stage.awaited?] at h <;> rfl

/-- A thread that has not been woken waits for a load. -/
theorem exists_awaited_of_parked {thread : Thread} (h : thread.parked = true) :
    ∃ job, thread.awaited? = some job := by
  unfold parked at h
  split at h
  · next key style stage below =>
    cases stage <;> simp [Stage.parked] at h
    · exact ⟨_, rfl⟩
    · exact ⟨_, rfl⟩
  · simp at h

/-! ## Waking -/

@[simp]
theorem jobs_wake (thread : Thread) : thread.wake.jobs = thread.jobs := by
  unfold wake
  split <;> rfl

@[simp]
theorem awaited?_wake (thread : Thread) : thread.wake.awaited? = thread.awaited? := by
  unfold wake
  split <;> rfl

@[simp]
theorem parked_wake (thread : Thread) : thread.wake.parked = false := by
  match thread with
  | .lookup _ _ stage :: _ => cases stage <;> rfl
  | .script .. :: _ | .request _ :: _ | .closing .. :: _ | [] => rfl

end Thread

/-! ## Which frame stands on which -/

/-- The frames that a frame may have put above itself. -/
inductive Frame.On : Frame → Frame → Prop
  | request (request : Request) (role : Role) (rest : Script) :
      On (.request request) (.script role rest)
  | lookup (key : Key) (style : Style) (stage : Stage) (role : Role) (rest : Script) :
      On (.lookup key style stage) (.script role rest)
  | shutdown (todo : List Handle) (report : ReleaseReport) (role : Role) (rest : Script) :
      On (.closing .shutdown todo report) (.script role rest)
  | initBulk (pending : Pending) (script : Script) (key : Key) (style : Style)
      (todo : List Path) (opened : List Handle) :
      On (.script (.init pending) script) (.lookup key style (.loadingBulk todo opened))
  | initName (pending : Pending) (script : Script) (key : Key) (style : Style)
      (load : Nat) (path : Path) :
      On (.script (.init pending) script) (.lookup key style (.loadingName load path))
  | discardBulk (todo : List Handle) (report : ReleaseReport) (key : Key) (style : Style) :
      On (.closing .discard todo report) (.lookup key style .closingBulk)
  | discardName (todo : List Handle) (report : ReleaseReport) (key : Key) (style : Style)
      (load : Nat) (failure : LoadError) :
      On (.closing .discard todo report) (.lookup key style (.closingName load failure))
  | teardown (handle : Handle) (script : Script) (reason : CloseReason) (todo : List Handle)
      (report : ReleaseReport) :
      On (.script (.teardown handle) script) (.closing reason todo report)

namespace Thread

/-- Every frame of a thread stands on one that may have put it there, and the lowest is
the thread's program. -/
inductive Shaped : Thread → Prop
  | program (rest : Script) : Shaped [.script .program rest]
  | push {upper lower : Frame} {below : Thread} (on : Frame.On upper lower)
      (shaped : Shaped (lower :: below)) : Shaped (upper :: lower :: below)

namespace Shaped

theorem tail {upper lower : Frame} {below : Thread} (h : Shaped (upper :: lower :: below)) :
    Shaped (lower :: below) := by
  cases h with
  | push _ shaped => exact shaped

/-- Only the innermost frame of a thread waits. -/
theorem tail_calm {frame : Frame} {below : Thread} (h : Shaped (frame :: below)) :
    below.awaited? = none := by
  cases h with
  | program => rfl
  | push on _ => cases on <;> rfl

/-- The program of a thread has no frame below it. -/
theorem program_alone {rest : Script} {below : Thread}
    (h : Shaped (.script .program rest :: below)) : below = [] := by
  cases h with
  | program => rfl
  | push on _ => cases on

/-- A lookup was begun by a script. -/
theorem below_lookup {key : Key} {style : Style} {stage : Stage} {below : Thread}
    (h : Shaped (.lookup key style stage :: below)) :
    ∃ role rest frames, below = .script role rest :: frames ∧ Shaped below := by
  cases h with
  | push on shaped =>
    cases on
    exact ⟨_, _, _, rfl, shaped⟩

/-- What is left of a script does not matter. -/
theorem script {role : Role} {rest : Script} {below : Thread}
    (h : Shaped (.script role rest :: below)) (rest' : Script) :
    Shaped (.script role rest' :: below) := by
  cases h with
  | program => exact .program rest'
  | push on shaped =>
    cases on with
    | initBulk => exact .push (.initBulk ..) shaped
    | initName => exact .push (.initName ..) shaped
    | teardown => exact .push (.teardown ..) shaped

/-- Which stage a lookup on top has reached does not matter. -/
theorem lookup {key : Key} {style : Style} {stage : Stage} {below : Thread}
    (h : Shaped (.lookup key style stage :: below)) (stage' : Stage) :
    Shaped (.lookup key style stage' :: below) := by
  cases h with
  | push on shaped =>
    cases on
    exact .push (.lookup ..) shaped

/-- Which modules are still to be closed does not matter. -/
theorem closing {reason : CloseReason} {todo : List Handle} {report : ReleaseReport}
    {below : Thread} (h : Shaped (.closing reason todo report :: below)) (todo' : List Handle)
    (report' : ReleaseReport) : Shaped (.closing reason todo' report' :: below) := by
  cases h with
  | push on shaped =>
    cases on with
    | shutdown => exact .push (.shutdown ..) shaped
    | discardBulk => exact .push (.discardBulk ..) shaped
    | discardName => exact .push (.discardName ..) shaped

theorem wake {thread : Thread} (h : thread.Shaped) : thread.wake.Shaped := by
  unfold Thread.wake
  split
  · exact h.lookup _
  · exact h.lookup _
  · exact h

end Shaped

end Thread

end PluginHost
