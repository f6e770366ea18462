import PluginHost.Proofs.Linearizable
import PluginHost.Proofs.LinkerCalls

/-!
# The frames below the top

What a frame has begun runs above it, and the frame stays where it is until that is over: a turn
changes the frame on top, or takes it away and may tell the one below what came of it.  So a script
and a row of modules that are closed can be followed along a history, whatever runs above them.

Main results:

- Theorem `Thread.Effect.script`: what a turn makes of a script anywhere on the stack.
- Theorem `Thread.Effect.closing`: what a turn makes of modules that are closed, anywhere on the
  stack.
- Theorem `Machine.Traced.stays_or_moves`: a thread that does not wait stays as it is until its next
  turn.
- Theorem `Machine.Traced.runs_or_ended`: a script that has begun is on the stack until it has run
  to its end.
- Theorem `Machine.Traced.stands_or_told`: a lookup that opens a file is told once what came of it,
  and opens no other meanwhile.
- Theorem `Machine.Traced.discards`: modules that are closed for a lookup are closed in order, each
  of them once.
-/

namespace PluginHost

namespace Stage

/-- A lookup that is told what came of opening a file does not wait. -/
theorem awaited?_told {stage : Stage} (opens : stage.opens = true)
    (outcome : Except LoadError Handle) (key : Key) : (stage.told outcome).awaited? key = none := by
  unfold Stage.opens at opens
  split at opens
  · cases outcome <;> rfl
  · rfl
  · cases opens

/-- A lookup that is to open a file does not wait. -/
theorem awaited?_of_opening? {stage after : Stage} {path : Path}
    (opening : stage.opening? = some (path, after)) (key : Key) : stage.awaited? key = none := by
  unfold Stage.opening? at opening
  split at opening
  · rfl
  · rfl
  · cases opening

/-- A lookup that runs a lock section opens no file. -/
theorem opening?_of_locked {host : Host} {me : ThreadId} {key : Key} {stage : Stage}
    {s : LoaderState} {ran : Section} (runs : stage.lockSection? host me key s = some ran) :
    stage.opening? = none := by
  unfold lockSection? at runs
  split at runs <;> first | rfl | cases runs

end Stage

namespace Linker

/-- The linker begins the init of a module for a path. -/
inductive Begins (linker : Linker) (path : Path) : Pending → Script → Prop
  | run {init : Script} {failure : Option LoadError} {teardown : Teardown}
      (runs : linker.opening path = .run init failure teardown) :
      Begins linker path ⟨path, failure, teardown, true⟩ init
  | map {library : Library} {init : Script} (maps : linker.opening path = .map library)
      (usable : library.fault? = none) (inits : library.init = some init) :
      Begins linker path ⟨path, none, .unmap library, library.recorded⟩ init

/-- The linker opens no module for a path. -/
inductive Fails (linker : Linker) (path : Path) : LoadError → Prop
  | refused {failure : LoadError} (refuses : linker.opening path = .refused failure) :
      Fails linker path failure
  | unusable {library : Library} {reason : String} (maps : linker.opening path = .map library)
      (fault : library.fault? = some reason) : Fails linker path (.loadFailed path reason)

/-- What comes of opening a path: the failure of the linker, or what there is when the init has
returned. -/
inductive Comes (linker : Linker) (path : Path) : Except LoadError Handle → Prop
  | fails {failure : LoadError} (fails : linker.Fails path failure) :
      Comes linker path (.error failure)
  | returns {pending : Pending} {init : Script} (begins : linker.Begins path pending init)
      (serial : Nat) : Comes linker path (pending.outcome serial)

end Linker

namespace Thread

variable {host : Host} {me : ThreadId} {w : World} {turn : Turn} {frame : Frame}
  {thread base below upper after : Thread} {key : Key} {style : Style} {stage : Stage} {role : Role}
  {actions rest : Script} {reason : CloseReason} {todo : List Handle} {report : ReleaseReport}
  {wakes : Bool}

/-! ## Waking -/

/-- A thread that does not wait is not changed by waking it. -/
theorem wakeIf_of_calm (calm : thread.awaited? = none) : thread.wakeIf wakes = thread := by
  cases wakes with
  | false => rfl
  | true =>
    simp only [wakeIf, if_true]
    unfold wake
    split
    · cases calm
    · cases calm
    · rfl

/-- Waking a thread changes no frame but the one on top. -/
theorem wakeIf_cons (wakes : Bool) (frame : Frame) (below : Thread) :
    ∃ frame', wakeIf wakes (frame :: below) = frame' :: below := by
  cases wakes with
  | false => exact ⟨frame, rfl⟩
  | true =>
    simp only [wakeIf, if_true]
    unfold wake
    split
    · next heq =>
      cases heq
      exact ⟨_, rfl⟩
    · next heq =>
      cases heq
      exact ⟨_, rfl⟩
    · exact ⟨frame, rfl⟩

/-- Frames of which the top one does not wait stay where they are when the thread is woken. -/
theorem wakeIf_append (wakes : Bool) (upper : Thread) (calm : base.awaited? = none) :
    ∃ upper', (upper ++ base).wakeIf wakes = upper' ++ base := by
  cases upper with
  | nil => exact ⟨[], wakeIf_of_calm calm⟩
  | cons frame upper =>
    obtain ⟨frame', woken⟩ := wakeIf_cons wakes frame (upper ++ base)
    exact ⟨frame' :: upper, woken⟩

/-! ## Scripts -/

theorem Leaves.script (h : Leaves (upper ++ .script role rest :: below) after) :
    ∃ upper', after = upper' ++ .script role rest :: below := by
  generalize stack : upper ++ .script role rest :: below = base at h
  cases h with
  | above more =>
    rw [← stack, ← List.append_assoc]
    exact ⟨_, rfl⟩
  | told opens outcome =>
    cases upper with
    | nil => cases stack
    | cons frame upper =>
      cases stack
      exact ⟨_ :: upper, rfl⟩
  | counts report' =>
    cases upper with
    | nil => cases stack
    | cons frame upper =>
      cases stack
      exact ⟨_ :: upper, rfl⟩

/-- A script anywhere on the stack stays there and goes on, unless it is on top and over. -/
theorem Effect.script (h : Effect host me w turn (upper ++ .script role rest :: below)) :
    (∃ upper' rest', rest' <:+ rest ∧ turn.thread = upper' ++ .script role rest' :: below) ∨
      upper = [] ∧ rest = [] := by
  cases upper with
  | cons frame upper =>
    obtain ⟨upper', stack⟩ := h.leaves.script
    exact .inl ⟨upper', rest, List.suffix_rfl, stack⟩
  | nil =>
    cases h with
    | act back _ => exact .inl ⟨[], _, List.suffix_cons .., back⟩
    | call request called _ => exact .inl ⟨[_], _, List.suffix_cons .., called⟩
    | opened _ _ _ _ _ _ => exact .inr ⟨rfl, rfl⟩
    | closed _ _ _ => exact .inr ⟨rfl, rfl⟩

/-- A script is on the stack, on top of `below`, with some of its last actions still to come. -/
def Runs (thread : Thread) (role : Role) (actions : Script) (below : Thread) : Prop :=
  ∃ upper rest, rest <:+ actions ∧ thread = upper ++ .script role rest :: below

theorem Runs.ne_nil (h : thread.Runs role actions below) : thread ≠ [] := by
  obtain ⟨upper, rest, -, rfl⟩ := h
  simp

theorem Runs.wakeIf (h : thread.Runs role actions below) (wakes : Bool) :
    (thread.wakeIf wakes).Runs role actions below := by
  obtain ⟨upper, rest, left, rfl⟩ := h
  have calm : awaited? (.script role rest :: below) = none := rfl
  obtain ⟨upper', woken⟩ := wakeIf_append wakes upper calm
  exact ⟨upper', rest, left, woken⟩

theorem Effect.runs (h : Effect host me w turn thread) (runs : thread.Runs role actions below) :
    turn.thread.Runs role actions below ∨ thread = .script role [] :: below := by
  obtain ⟨upper, rest, left, rfl⟩ := runs
  rcases h.script with ⟨upper', rest', goesOn, stack⟩ | ⟨rfl, rfl⟩
  · exact .inl ⟨upper', rest', goesOn.trans left, stack⟩
  · exact .inr rfl

/-! ## Lookups that open a file -/

theorem turn_of_opening? {path : Path} {after : Stage}
    (opening : stage.opening? = some (path, after)) (host : Host) (me : ThreadId) (w : World)
    (key : Key) (style : Style) (below : Thread) :
    Thread.turn host me w (.lookup key style stage :: below) =
      some (beginOpening host w path (.lookup key style after :: below)) := by
  unfold Stage.opening? at opening
  split at opening <;> cases opening <;> rfl

/-- The turn that opens a file begins the init of a module, or the file does not open. -/
theorem beginOpening_cases (opens : stage.opens = true) (host : Host) (w : World) (path : Path)
    (key : Key) (style : Style) (below : Thread) :
    (∃ pending init, host.linker.Begins path pending init ∧
        (beginOpening host w path (.lookup key style stage :: below)).thread =
          .script (.init pending) init :: .lookup key style stage :: below) ∨
      ∃ failure, host.linker.Fails path failure ∧
        (beginOpening host w path (.lookup key style stage :: below)).thread =
          .lookup key style (stage.told (.error failure)) :: below := by
  simp only [beginOpening]
  split
  · next failure refuses => exact .inr ⟨failure, .refused refuses, deliver_opens _ _ _ opens⟩
  · next init failure teardown runs => exact .inl ⟨_, init, .run runs, rfl⟩
  · next library maps =>
    split
    · next reason fault => exact .inr ⟨_, .unusable maps fault, deliver_opens _ _ _ opens⟩
    · next usable =>
      obtain ⟨init, inits⟩ := Option.ne_none_iff_exists'.1 (library.fault?_eq_none_iff.1 usable).2
      refine .inl ⟨_, init, .map maps usable inits, ?_⟩
      rw [inits]
      rfl

/-! ## Depth -/

/-- The frame on top of a thread, if it has the given number of frames below it. -/
def topAt? (depth : Nat) : Thread → Option Frame
  | frame :: below => if below.length = depth then some frame else none
  | [] => none

theorem topAt?_cons (frame : Frame) (below : Thread) :
    topAt? below.length (frame :: below) = some frame :=
  if_pos rfl

theorem topAt?_eq_none {depth : Nat} (other : thread.length ≠ depth + 1) :
    topAt? depth thread = none := by
  cases thread with
  | nil => rfl
  | cons frame below => exact if_neg fun same => other (by rw [List.length_cons, same])

/-- The path that a thread opens in its next turn for the lookup with the given number of frames
below it. -/
def openingAt? (depth : Nat) (thread : Thread) : Option Path :=
  (thread.topAt? depth).bind fun
    | .lookup _ _ stage => stage.opening?.map Prod.fst
    | _ => none

/-- What is opened for a lookup is what the linker is asked for. -/
theorem linking?_of_openingAt? {depth : Nat} {path : Path}
    (opens : thread.openingAt? depth = some path) : thread.linking? = some path := by
  unfold openingAt? at opens
  obtain ⟨frame, top, opens⟩ := Option.bind_eq_some_iff.1 opens
  cases thread with
  | nil => cases top
  | cons other below =>
    simp only [topAt?, Option.ite_none_right_eq_some, Option.some.injEq] at top
    obtain ⟨-, rfl⟩ := top
    split at opens
    · exact opens
    · cases opens

/-- The module that a thread begins to close in its next turn for the lookup with the given number
of frames below it. -/
def closingAt? (depth : Nat) (thread : Thread) : Option Handle :=
  (thread.topAt? (depth + 1)).bind fun
    | .closing .discard (handle :: _) _ => some handle
    | _ => none

/-- What is closed for a lookup is what the thread begins to close. -/
theorem released_of_closingAt? {depth : Nat} {handle : Handle}
    (closes : thread.closingAt? depth = some handle) : thread.released = [handle] := by
  unfold closingAt? at closes
  obtain ⟨frame, top, closes⟩ := Option.bind_eq_some_iff.1 closes
  cases thread with
  | nil => cases top
  | cons other below =>
    simp only [topAt?, Option.ite_none_right_eq_some, Option.some.injEq] at top
    obtain ⟨-, rfl⟩ := top
    split at closes
    · cases closes
      rfl
    · cases closes

theorem openingAt?_lookup (key : Key) (style : Style) (stage : Stage) (below : Thread) :
    openingAt? below.length (.lookup key style stage :: below) = stage.opening?.map Prod.fst := by
  rw [openingAt?, topAt?_cons]
  rfl

theorem closingAt?_lookup (key : Key) (style : Style) (stage : Stage) (below : Thread) :
    closingAt? below.length (.lookup key style stage :: below) = none := by
  rw [closingAt?, topAt?_eq_none (by simp)]
  rfl

/-- With another frame above the modules that are closed for it, nothing is closed for a lookup. -/
theorem closingAt?_above (top : Frame) (upper : Thread) (next base : Frame) (below : Thread) :
    closingAt? below.length (top :: (upper ++ next :: base :: below)) = none := by
  rw [closingAt?, topAt?_eq_none (by simp only [List.length_cons, List.length_append]; omega)]
  rfl

/-- With any frames above it a lookup opens nothing. -/
theorem openingAt?_under (upper : Thread) (next base : Frame) (below : Thread) :
    openingAt? below.length (upper ++ next :: base :: below) = none := by
  rw [openingAt?, topAt?_eq_none (by simp only [List.length_cons, List.length_append]; omega)]
  rfl

/-- The first of the modules that are closed for a lookup is closed when they are on top. -/
theorem closingAt?_closing (upper : Thread) (todo : List Handle) (report : ReleaseReport)
    (base : Frame) (below : Thread) :
    closingAt? below.length (upper ++ .closing .discard todo report :: base :: below) =
      if upper = [] then todo.head? else none := by
  cases upper with
  | nil =>
    rw [closingAt?, List.nil_append, ← List.length_cons, topAt?_cons]
    cases todo <;> rfl
  | cons top upper => exact closingAt?_above top upper _ base below

/-- While a script runs that a lookup has begun, the lookup opens and closes nothing itself. -/
theorem Runs.quiet {base : Frame} (h : thread.Runs role actions (base :: below)) :
    openingAt? below.length thread = none ∧ closingAt? below.length thread = none := by
  obtain ⟨upper, rest, -, rfl⟩ := h
  refine ⟨openingAt?_under upper _ base below, ?_⟩
  cases upper with
  | nil =>
    rw [closingAt?, List.nil_append, ← List.length_cons, topAt?_cons]
    rfl
  | cons top upper => exact closingAt?_above top upper _ base below

/-! ## Modules that are closed -/

theorem Leaves.closing (h : Leaves (upper ++ .closing reason todo report :: below) after) :
    ∃ upper' report', after = upper' ++ .closing reason todo report' :: below := by
  generalize stack : upper ++ .closing reason todo report :: below = base at h
  cases h with
  | above more =>
    rw [← stack, ← List.append_assoc]
    exact ⟨_, report, rfl⟩
  | told opens outcome =>
    cases upper with
    | nil => cases stack
    | cons frame upper =>
      cases stack
      exact ⟨_ :: upper, report, rfl⟩
  | counts report' =>
    cases upper with
    | nil =>
      cases stack
      exact ⟨[], report', rfl⟩
    | cons frame upper =>
      cases stack
      exact ⟨_ :: upper, report, rfl⟩

/-- What a turn makes of modules that are closed somewhere on a stack. -/
inductive Closes (reason : CloseReason) (below : Thread) (thread : Thread) (todo : List Handle)
    (after : Thread) : Prop
  /-- Something above them goes on. -/
  | later (upper : Thread) (report : ReleaseReport)
      (stack : after = upper ++ .closing reason todo report :: below)
      (waits : ∀ report, thread ≠ .closing reason todo report :: below)
  /-- The first of them begins to close. -/
  | first {handle : Handle} {rest : List Handle} (first : todo = handle :: rest)
      (top : ∃ report, thread = .closing reason todo report :: below) (upper : Thread)
      (report : ReleaseReport) (stack : after = upper ++ .closing reason rest report :: below)
  /-- All are closed. -/
  | done (none : todo = []) (stack : after = below)

theorem Effect.closing (h : Effect host me w turn (upper ++ .closing reason todo report :: below)) :
    Closes reason below (upper ++ .closing reason todo report :: below) todo turn.thread := by
  cases upper with
  | cons frame upper =>
    obtain ⟨upper', report', stack⟩ := h.leaves.closing
    refine .later upper' report' stack fun report'' same => ?_
    have length := congrArg List.length same
    simp only [List.cons_append, List.length_cons, List.length_append] at length
    omega
  | nil =>
    cases h with
    | close upper report' _ closes _ => exact .first rfl ⟨_, rfl⟩ upper report' closes
    | finish back _ => exact .done rfl back

end Thread

/-! ## Histories -/

namespace Machine

variable {hosts : Set Host} {modes : PerKind SearchMode} {m next : Machine}
  {history later earlier : History} {host : Host} {me t : ThreadId} {turn : Turn} {step : Step}
  {thread below : Thread} {role : Role} {actions : Script}

/-- A thread that was there after the last step has the stack that it had then. -/
theorem Traced.thread_of_ne_nil (h : Traced hosts modes m (step :: history))
    (there : step.after.thread t ≠ []) : m.thread t = step.after.thread t := by
  rcases h.thread_eq t with same | ⟨none, -⟩
  · exact same
  · exact absurd none there

theorem Untouched.thread_of_ne_nil (h : Untouched m next) (there : m.thread t ≠ []) :
    next.thread t = m.thread t := by
  rcases h.thread t with same | ⟨none, -⟩
  · exact same
  · exact absurd none there

theorem Takes.runs (takes : Takes host m me turn next)
    (runs : (m.thread t).Runs role actions below) :
    (next.thread t).Runs role actions below ∨ t = me ∧ m.thread t = .script role [] :: below := by
  by_cases ht : t = me
  · subst ht
    rw [takes.thread_self]
    rcases takes.effect.runs runs with still | ended
    · exact .inl (still.wakeIf _)
    · exact .inr ⟨rfl, ended⟩
  · rw [takes.thread_of_ne ht]
    exact .inl (runs.wakeIf _)

/-- A thread that does not wait stays as it is until its next turn. -/
theorem Traced.stays_or_moves (h : Traced hosts modes m (later ++ step :: earlier))
    (stack : step.after.thread t = thread) (there : thread ≠ []) (calm : thread.awaited? = none) :
    m.thread t = thread ∨
      ∃ recent last during, later = recent ++ last :: during ∧ last.thread = t ∧
        last.before.thread t = thread ∧
          ∀ step ∈ during, step.thread ≠ t ∧ step.before.thread t = thread := by
  suffices all : (m.thread t = thread ∧
      ∀ step ∈ later, step.thread ≠ t ∧ step.before.thread t = thread) ∨
      ∃ recent last during, later = recent ++ last :: during ∧ last.thread = t ∧
        last.before.thread t = thread ∧
          ∀ step ∈ during, step.thread ≠ t ∧ step.before.thread t = thread from
    all.imp_left And.left
  refine h.since (P := fun m later => (m.thread t = thread ∧
    ∀ step ∈ later, step.thread ≠ t ∧ step.before.thread t = thread) ∨
      ∃ recent last during, later = recent ++ last :: during ∧ last.thread = t ∧
        last.before.thread t = thread ∧
          ∀ step ∈ during, step.thread ≠ t ∧ step.before.thread t = thread) ?_ ?_ ?_
  · intro m traced
    rw [traced.thread_of_ne_nil (stack ▸ there)]
    exact .inl ⟨stack, List.forall_mem_nil _⟩
  · rintro m next later (⟨stays, all⟩ | moved) untouched
    · rw [untouched.thread_of_ne_nil (stays ▸ there)]
      exact .inl ⟨stays, all⟩
    · exact .inr moved
  · rintro m next later host me turn - (⟨stays, all⟩ | ⟨recent, last, during, rfl, moved⟩) - takes
    · by_cases ht : t = me
      · exact .inr ⟨[], ⟨m, me, next⟩, later, rfl, ht.symm, stays, all⟩
      · refine .inl ⟨?_, List.forall_mem_cons.2 ⟨⟨Ne.symm ht, stays⟩, all⟩⟩
        rw [takes.thread_of_ne ht, stays, Thread.wakeIf_of_calm calm]
    · exact .inr ⟨_ :: recent, last, during, rfl, moved⟩

/-- A script that has begun is on the stack until it has run to its end. -/
theorem Traced.runs_or_ended (h : Traced hosts modes m (later ++ step :: earlier))
    (began : (step.after.thread t).Runs role actions below) :
    (m.thread t).Runs role actions below ∨
      ∃ recent last during, later = recent ++ last :: during ∧ last.thread = t ∧
        last.before.thread t = .script role [] :: below ∧
          ∀ step ∈ during, (step.before.thread t).Runs role actions below := by
  suffices all : ((m.thread t).Runs role actions below ∧
      ∀ step ∈ later, (step.before.thread t).Runs role actions below) ∨
      ∃ recent last during, later = recent ++ last :: during ∧ last.thread = t ∧
        last.before.thread t = .script role [] :: below ∧
          ∀ step ∈ during, (step.before.thread t).Runs role actions below from
    all.imp_left And.left
  refine h.since (P := fun m later => ((m.thread t).Runs role actions below ∧
    ∀ step ∈ later, (step.before.thread t).Runs role actions below) ∨
      ∃ recent last during, later = recent ++ last :: during ∧ last.thread = t ∧
        last.before.thread t = .script role [] :: below ∧
          ∀ step ∈ during, (step.before.thread t).Runs role actions below) ?_ ?_ ?_
  · intro m traced
    rw [traced.thread_of_ne_nil began.ne_nil]
    exact .inl ⟨began, List.forall_mem_nil _⟩
  · rintro m next later (⟨runs, all⟩ | ended) untouched
    · rw [untouched.thread_of_ne_nil runs.ne_nil]
      exact .inl ⟨runs, all⟩
    · exact .inr ended
  · rintro m next later host me turn - (⟨runs, all⟩ | ⟨recent, last, during, rfl, ended⟩) - takes
    · rcases takes.runs runs with still | ⟨rfl, ended⟩
      · exact .inl ⟨still, List.forall_mem_cons.2 ⟨runs, all⟩⟩
      · exact .inr ⟨[], ⟨m, t, next⟩, later, rfl, rfl, ended, all⟩
    · exact .inr ⟨_ :: recent, last, during, rfl, ended⟩

/-! ## Lookups that open a file -/

namespace History

/-- What is read off the turns of a thread, the latest first. -/
def turns {α : Type} (read : Thread → Option α) (t : ThreadId) (history : History) : List α :=
  history.filterMap fun step => if step.thread = t then read (step.before.thread t) else none

theorem turns_append {α : Type} (read : Thread → Option α) (t : ThreadId)
    (recent earlier : History) :
    turns read t (recent ++ earlier) = recent.turns read t ++ earlier.turns read t :=
  List.filterMap_append

theorem turns_cons {α : Type} {read : Thread → Option α} (mine : step.thread = t)
    (history : History) :
    turns read t (step :: history) =
      (read (step.before.thread t)).toList ++ history.turns read t := by
  rw [turns, List.filterMap_cons, if_pos mine]
  cases read (step.before.thread t) <;> rfl

theorem turns_cons_of_ne {α : Type} {read : Thread → Option α} (other : step.thread ≠ t)
    (history : History) : turns read t (step :: history) = history.turns read t :=
  List.filterMap_cons_none (if_neg other)

theorem turns_eq_nil {α : Type} {read : Thread → Option α}
    (none : ∀ step ∈ history, step.thread = t → read (step.before.thread t) = none) :
    history.turns read t = [] := by
  refine List.filterMap_eq_nil_iff.2 fun step mem => ?_
  split
  · next mine => exact none step mem mine
  · rfl

/-- Nothing is read off the turns of a thread that takes none. -/
theorem turns_eq_nil_of_ne {α : Type} {read : Thread → Option α}
    (others : ∀ step ∈ history, step.thread ≠ t) : history.turns read t = [] :=
  turns_eq_nil fun step mem mine => absurd mine (others step mem)

/-- Each step of a history, with the steps before it, is as given. -/
def Each (P : Step → History → Prop) : History → Prop
  | [] => True
  | step :: older => P step older ∧ Each P older

theorem each_append {P : Step → History → Prop} (recent earlier : History) :
    Each P (recent ++ earlier) ↔
      Each (fun step older => P step (older ++ earlier)) recent ∧ Each P earlier := by
  induction recent with
  | nil => exact ⟨fun h => ⟨trivial, h⟩, And.right⟩
  | cons step recent ih =>
    show P step (recent ++ earlier) ∧ Each P (recent ++ earlier) ↔ _
    rw [ih, ← and_assoc]
    rfl

theorem Each.imp {P Q : Step → History → Prop} (h : Each P history)
    (all : ∀ step older, P step older → Q step older) : Each Q history := by
  induction history with
  | nil => trivial
  | cons step older ih => exact ⟨all step older h.1, ih h.2⟩

/-- What holds of every step on its own holds of the steps before each of them as well. -/
theorem each_of_forall {P : Step → Prop} (all : ∀ step ∈ history, P step) :
    Each (fun step older => P step ∧ ∀ step ∈ older, P step) history := by
  induction history with
  | nil => trivial
  | cons step older ih =>
    obtain ⟨now, before⟩ := List.forall_mem_cons.1 all
    exact ⟨⟨now, before⟩, ih before⟩

theorem Each.exists_of_mem {P : Step → History → Prop} (h : Each P history) (mem : step ∈ history) :
    ∃ older, P step older := by
  induction history with
  | nil => cases mem
  | cons last older ih =>
    rcases List.mem_cons.1 mem with rfl | mem
    · exact ⟨older, h.1⟩
    · exact ih h.2 mem

/-- The paths that a thread opened for the lookup with the given number of frames below it, the
latest first. -/
def openedAt (t : ThreadId) (depth : Nat) : History → List Path :=
  turns (Thread.openingAt? depth) t

/-- The modules that a thread closed for the lookup with the given number of frames below it, the
latest first. -/
def closedAt (t : ThreadId) (depth : Nat) : History → List Handle :=
  turns (Thread.closingAt? depth) t

theorem openedAt_append (t : ThreadId) (depth : Nat) (recent earlier : History) :
    openedAt t depth (recent ++ earlier) = recent.openedAt t depth ++ earlier.openedAt t depth :=
  turns_append _ t recent earlier

theorem closedAt_append (t : ThreadId) (depth : Nat) (recent earlier : History) :
    closedAt t depth (recent ++ earlier) = recent.closedAt t depth ++ earlier.closedAt t depth :=
  turns_append _ t recent earlier

/-- While a thread takes no turn, nothing is opened and nothing closed for its lookups. -/
theorem quiet_of_ne (others : ∀ step ∈ history, step.thread ≠ t) (depth : Nat) :
    history.openedAt t depth = [] ∧ history.closedAt t depth = [] :=
  ⟨turns_eq_nil_of_ne others, turns_eq_nil_of_ne others⟩

/-- While a script runs that a lookup has begun, the lookup opens nothing and closes nothing. -/
theorem quiet_of_runs {base : Frame}
    (runs : ∀ step ∈ history, (step.before.thread t).Runs role actions (base :: below)) :
    history.openedAt t below.length = [] ∧ history.closedAt t below.length = [] :=
  ⟨turns_eq_nil fun step mem _ => (runs step mem).quiet.1,
    turns_eq_nil fun step mem _ => (runs step mem).quiet.2⟩

end History

variable {key : Key} {style : Style} {stage after : Stage} {path : Path} {pending : Pending}

/-- The turn in which a lookup opens a file begins the init of a module, or the lookup is told at
once that the file does not open. -/
theorem Takes.opening (takes : Takes host m t turn next)
    (top : m.thread t = .lookup key style stage :: below)
    (opening : stage.opening? = some (path, after)) :
    next.world.state = m.world.state ∧
      ((∃ pending init, host.linker.Begins path pending init ∧
          next.thread t = .script (.init pending) init :: .lookup key style after :: below) ∨
        ∃ failure, host.linker.Fails path failure ∧
          next.thread t = .lookup key style (after.told (.error failure)) :: below) := by
  have opens := Stage.opens_of_opening? opening
  obtain ⟨-, turn, turned, world, threads, -⟩ := step_eq takes.taken
  rw [top, Thread.turn_of_opening? opening, Option.some.injEq] at turned
  subst turned
  rw [threads, moved_self, world, Thread.beginOpening_state]
  refine ⟨rfl, ?_⟩
  rcases Thread.beginOpening_cases opens host m.world path key style below with
    ⟨pending, init, begins, stack⟩ | ⟨failure, fails, stack⟩
  · rw [stack]
    exact .inl ⟨pending, init, begins, Thread.wakeIf_of_calm rfl⟩
  · rw [stack]
    exact .inr ⟨failure, fails, Thread.wakeIf_of_calm (Stage.awaited?_told opens _ key)⟩

/-- When an init has returned, the lookup below is told what came of opening the file. -/
theorem Takes.ended (takes : Takes host m t turn next)
    (top : m.thread t = .script (.init pending) [] :: .lookup key style stage :: below) :
    next.world.state = m.world.state ∧ stage.opens = true ∧
      next.thread t =
        .lookup key style (stage.told (pending.outcome m.world.nextSerial)) :: below := by
  have effect := takes.effect
  rw [takes.thread_self, takes.world]
  rw [top] at effect
  cases effect with
  | opened opens told _ state _ _ =>
    rw [told]
    exact ⟨state, opens, Thread.wakeIf_of_calm (Stage.awaited?_told opens _ key)⟩

/-- In the step in which a file is opened for a lookup the linker is asked for it. -/
theorem Traced.linked_of_openingAt? {depth : Nat} (h : Traced hosts modes m history)
    (mem : step ∈ history) (opens : (step.before.thread step.thread).openingAt? depth = some path) :
    ∃ events, step.Emits events ∧ linkedPaths events = [path] := by
  obtain ⟨_, -, taken⟩ := h.taken mem
  obtain ⟨-, turn, turned, -, -, trace⟩ := step_eq taken
  refine ⟨turn.events, trace, ?_⟩
  rw [Thread.turn_linked turned, Thread.linking?_of_openingAt? opens]
  rfl

/-- A lookup that is to go on with another stage after a lock section has reached it. -/
theorem reaches_of_runs {ran : Section} (taken : m.step host t = some next)
    (top : m.thread t = .lookup key style stage :: below)
    (runs : stage.lockSection? host t key m.world.state = some ran) (goes : ran.next = .stage after)
    (calm : after.awaited? key = none) :
    next.thread t = .lookup key style after :: below ∧ next.world.state = ran.state := by
  obtain ⟨turn, turned, world, threads, -⟩ := step_of_runs taken top runs
  rw [threads, moved_self, world, ← turned, Thread.afterSection_stage goes]
  exact ⟨Thread.wakeIf_of_calm calm, rfl⟩

/-- A lookup that is to close modules after a lock section begins with that. -/
theorem discards_of_runs {ran : Section} {handles : List Handle}
    (taken : m.step host t = some next) (top : m.thread t = .lookup key style stage :: below)
    (runs : stage.lockSection? host t key m.world.state = some ran)
    (goes : ran.next = .discard handles after) :
    next.thread t = .closing .discard handles .zero :: .lookup key style after :: below ∧
      next.world.state = ran.state := by
  obtain ⟨turn, turned, world, threads, -⟩ := step_of_runs taken top runs
  rw [threads, moved_self, world, ← turned, Thread.afterSection_discard goes]
  exact ⟨Thread.wakeIf_of_calm rfl, rfl⟩

/-- In the last of some steps a lookup is told what came of the file that it has opened in one of
them; it opens no other file meanwhile, and closes no module. -/
structure Told (hosts : Set Host) (t : ThreadId) (key : Key) (style : Style) (stage after : Stage)
    (path : Path) (below : Thread) (outcome : Except LoadError Handle) (told : Step)
    (during : History) : Prop where
  mine : told.thread = t
  stack : told.after.thread t = .lookup key style (after.told outcome) :: below
  comes : ∃ host ∈ hosts, host.linker.Comes path outcome
  opened : History.openedAt t below.length (told :: during) = [path]
  closed : History.closedAt t below.length (told :: during) = []
  stands : History.Each (fun step older => ∃ upper reached,
    step.before.thread t = upper ++ .lookup key style reached :: below ∧
      (reached = stage ∧ History.openedAt t below.length older = [] ∨
        reached = after ∧ History.openedAt t below.length older = [path])) (told :: during)

/-- A lookup that is to open a file goes on with that until it is told what came of it. -/
theorem Traced.stands_or_told (h : Traced hosts modes m (later ++ step :: earlier))
    (stack : step.after.thread t = .lookup key style stage :: below)
    (opening : stage.opening? = some (path, after)) :
    (∃ upper reached, m.thread t = upper ++ .lookup key style reached :: below) ∨
      ∃ recent told during outcome, later = recent ++ told :: during ∧
        Told hosts t key style stage after path below outcome told during := by
  have calm : Thread.awaited? (.lookup key style stage :: below) = none :=
    Stage.awaited?_of_opening? opening key
  rcases h.stays_or_moves stack (List.cons_ne_nil _ _) calm with
    stays | ⟨recent, begins, idle, rfl, rfl, top, others⟩
  · exact .inl ⟨[], stage, stays⟩
  · rw [List.append_assoc, List.cons_append] at h
    obtain ⟨-, host, mem, turn, takes⟩ := h.split_takes
    have elsewhere : ∀ step ∈ idle, step.thread ≠ begins.thread :=
      fun step mem => (others step mem).1
    have opened : History.openedAt begins.thread below.length (begins :: idle) = [path] := by
      rw [History.openedAt, History.turns_cons rfl, History.turns_eq_nil_of_ne elsewhere, top,
        Thread.openingAt?_lookup, opening]
      rfl
    have closed : History.closedAt begins.thread below.length (begins :: idle) = [] := by
      rw [History.closedAt, History.turns_cons rfl, History.turns_eq_nil_of_ne elsewhere, top,
        Thread.closingAt?_lookup]
      rfl
    have stands : History.Each (fun step older => ∃ upper reached,
        step.before.thread begins.thread = upper ++ .lookup key style reached :: below ∧
          (reached = stage ∧ History.openedAt begins.thread below.length older = [] ∨
            reached = after ∧ History.openedAt begins.thread below.length older = [path]))
        (begins :: idle) := by
      refine ⟨⟨[], stage, top, .inl ⟨rfl, (History.quiet_of_ne elsewhere _).1⟩⟩, ?_⟩
      refine (History.each_of_forall others).imp fun step older others => ?_
      have elsewhere := fun step mem => (others.2 step mem).1
      exact ⟨[], stage, others.1.2, .inl ⟨rfl, (History.quiet_of_ne elsewhere _).1⟩⟩
    obtain ⟨-, ⟨pending, init, inits, runs⟩ | ⟨failure, fails, told⟩⟩ := takes.opening top opening
    · have began : (begins.after.thread begins.thread).Runs (.init pending) init
          (.lookup key style after :: below) := ⟨[], init, List.suffix_rfl, runs⟩
      rcases h.runs_or_ended began with ⟨upper, rest, -, runs⟩ |
        ⟨recent, last, running, rfl, mine, ended, within⟩
      · refine .inl ⟨upper ++ [.script (.init pending) rest], after, ?_⟩
        rw [runs, List.append_assoc, List.singleton_append]
      · rw [List.append_assoc, List.cons_append] at h
        obtain ⟨-, host', mem', turn', takes'⟩ := h.split_takes
        rw [mine] at takes'
        obtain ⟨-, -, told⟩ := takes'.ended ended
        have within' : ∀ step ∈ last :: running, (step.before.thread begins.thread).Runs
            (.init pending) init (.lookup key style after :: below) :=
          List.forall_mem_cons.2 ⟨⟨[], [], List.nil_suffix, ended⟩, within⟩
        obtain ⟨noneOpened, noneClosed⟩ := History.quiet_of_runs within'
        refine .inr ⟨recent, last, running ++ begins :: idle, _, by simp, mine, told,
          ⟨host, mem, .returns inits _⟩, ?_, ?_, ?_⟩
        · rw [← List.cons_append, History.openedAt_append, noneOpened, opened, List.nil_append]
        · rw [← List.cons_append, History.closedAt_append, noneClosed, closed, List.nil_append]
        · rw [← List.cons_append]
          refine (History.each_append _ _).2
            ⟨(History.each_of_forall within').imp fun step older within => ?_, stands⟩
          obtain ⟨⟨upper, rest, -, runs⟩, before⟩ := within
          refine ⟨upper ++ [.script (.init pending) rest], after, ?_, .inr ⟨rfl, ?_⟩⟩
          · rw [runs, List.append_assoc, List.singleton_append]
          · rw [History.openedAt_append, (History.quiet_of_runs before).1, opened, List.nil_append]
    · exact .inr ⟨recent, begins, idle, .error failure, rfl, rfl, told,
        ⟨host, mem, .fails fails⟩, opened, closed, stands⟩

/-! ## Modules that are closed -/

/-- Of the modules that are closed one after the other above `base`, the first are closed and the
others are to be, or all are closed and `base` goes on. -/
inductive Discards (t : ThreadId) (todo : List Handle) (base : Frame) (below : Thread) (m : Machine)
    (later : History) : Prop
  | going {upper : Thread} {left : List Handle} {report : ReleaseReport}
      (stack : m.thread t = upper ++ .closing .discard left report :: base :: below)
      (order : (History.closedAt t below.length later).reverse ++ left = todo)
      (opened : History.openedAt t below.length later = [])
      (stands : ∀ step ∈ later, ∃ upper, step.before.thread t = upper ++ base :: below)
  | gone {recent during : History} {last : Step} (split : later = recent ++ last :: during)
      (mine : last.thread = t) (stack : last.after.thread t = base :: below)
      (order : (History.closedAt t below.length (last :: during)).reverse = todo)
      (opened : History.openedAt t below.length (last :: during) = [])
      (stands : ∀ step ∈ last :: during, ∃ upper, step.before.thread t = upper ++ base :: below)

/-- A turn of the thread closes the next of the modules, or none. -/
theorem Takes.discards {todo left : List Handle} {upper : Thread} {report : ReleaseReport}
    {base : Frame} (takes : Takes host m t turn next)
    (calm : Thread.awaited? (base :: below) = none)
    (stack : m.thread t = upper ++ .closing .discard left report :: base :: below)
    (order : (History.closedAt t below.length later).reverse ++ left = todo)
    (opened : History.openedAt t below.length later = [])
    (stands : ∀ step ∈ later, ∃ upper, step.before.thread t = upper ++ base :: below) :
    Discards t todo base below next (⟨m, t, next⟩ :: later) := by
  have closes := takes.effect
  have after := takes.thread_self
  have opened' : History.openedAt t below.length (⟨m, t, next⟩ :: later) = [] := by
    have none := Thread.openingAt?_under upper (.closing .discard left report) base below
    rw [← stack] at none
    rw [History.openedAt, History.turns_cons (rfl : (⟨m, t, next⟩ : Step).thread = t), none]
    exact opened
  have closed' : History.closedAt t below.length (⟨m, t, next⟩ :: later) =
      (if upper = [] then left.head? else none).toList ++
        History.closedAt t below.length later := by
    rw [History.closedAt, History.turns_cons (rfl : (⟨m, t, next⟩ : Step).thread = t),
      ← Thread.closingAt?_closing upper left report base below, ← stack]
  have stands' : ∀ step ∈ (⟨m, t, next⟩ :: later : History),
      ∃ upper, step.before.thread t = upper ++ base :: below := by
    refine List.forall_mem_cons.2 ⟨⟨upper ++ [.closing .discard left report], ?_⟩, stands⟩
    rw [List.append_assoc, List.singleton_append]
    exact stack
  have woken : ∀ (upper : Thread) (left : List Handle) (report : ReleaseReport), ∃ upper',
      (upper ++ .closing .discard left report :: base :: below).wakeIf turn.wakes =
        upper' ++ .closing .discard left report :: base :: below := fun upper left report =>
    Thread.wakeIf_append turn.wakes upper rfl
  rw [stack] at closes
  cases closes.closing with
  | later upper' report' stack' waits =>
    have inner : upper ≠ [] := by
      rintro rfl
      exact waits report rfl
    rw [if_neg inner] at closed'
    obtain ⟨upper'', same⟩ := woken upper' left report'
    refine .going (by rw [after, stack', same]) ?_ opened' stands'
    rw [closed']
    exact order
  | @first handle rest first top upper' report' stack' =>
    obtain ⟨report'', top⟩ := top
    have outer : upper = [] := by
      have length := congrArg List.length top
      simp only [List.length_append, List.length_cons] at length
      exact List.length_eq_zero_iff.1 (by omega)
    rw [if_pos outer, first] at closed'
    obtain ⟨upper'', same⟩ := woken upper' rest report'
    refine .going (by rw [after, stack', same]) ?_ opened' stands'
    rw [closed', ← order, first]
    simp
  | done none stack' =>
    subst none
    refine .gone (List.nil_append _).symm rfl ?_ ?_ opened' stands'
    · show next.thread t = _
      rw [after, stack', Thread.wakeIf_of_calm calm]
    · rw [closed', ← order]
      simp

/-- Modules that are closed for a lookup are closed in order, and the lookup goes on when all of
them are. -/
theorem Traced.discards {todo : List Handle} {report : ReleaseReport} {base : Frame}
    (h : Traced hosts modes m (later ++ step :: earlier))
    (stack : step.after.thread t = .closing .discard todo report :: base :: below)
    (calm : Thread.awaited? (base :: below) = none) : Discards t todo base below m later := by
  refine h.since (P := Discards t todo base below) ?_ ?_ ?_
  · intro m traced
    have stack' : m.thread t = [] ++ .closing .discard todo report :: base :: below := by
      rw [traced.thread_of_ne_nil (stack ▸ List.cons_ne_nil _ _), stack]
      rfl
    exact .going stack' rfl rfl (List.forall_mem_nil _)
  · rintro m next later discards untouched
    cases discards with
    | @going upper left report stack order opened stands =>
      have stack' : next.thread t = _ :=
        (untouched.thread_of_ne_nil (by simp [stack])).trans stack
      exact .going stack' order opened stands
    | gone split mine stack order opened stands =>
      exact .gone split mine stack order opened stands
  · rintro m next later host me turn - discards - takes
    cases discards with
    | @gone recent during last split mine stack order opened stands =>
      subst split
      exact .gone (List.cons_append ..).symm mine stack order opened stands
    | @going upper left report stack order opened stands =>
      by_cases ht : t = me
      · subst ht
        exact takes.discards calm stack order opened stands
      · have other : me ≠ t := Ne.symm ht
        have quiet : Thread.awaited? (.closing .discard left report :: base :: below) = none := rfl
        obtain ⟨upper', same⟩ := Thread.wakeIf_append turn.wakes upper quiet
        refine .going (by rw [takes.thread_of_ne ht, stack, same]) ?_ ?_ ?_
        · rwa [History.closedAt, History.turns_cons_of_ne other]
        · rwa [History.openedAt, History.turns_cons_of_ne other]
        · refine List.forall_mem_cons.2 ⟨⟨upper ++ [.closing .discard left report], ?_⟩, stands⟩
          rw [List.append_assoc, List.singleton_append]
          exact stack

end Machine
end PluginHost
