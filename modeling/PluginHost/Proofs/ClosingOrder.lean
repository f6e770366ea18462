import Mathlib.Data.List.Pairwise
import PluginHost.Proofs.Custody
import PluginHost.Proofs.Directory
import PluginHost.Proofs.Registered

/-!
# The order in which modules are closed

A shutdown closes the modules of the handle set, the last one first.  But the set is not always
in the order in which the modules were opened: a bulk load has its modules in its own hands until
it ends, and what is loaded meanwhile, for the sake of one of its inits, goes into the set before
them.  This module says what the order is when there is one thread, however the loads are nested:
a module stands behind those that were opened before it, except for those that were in the hands
of a load further out when its init returned.

Main results:

- Theorem `Section.keeps`: a lock section puts what it keeps at the end of the handle set.
- Theorem `Thread.Effect.queue`: what a turn does to the order in which modules are kept.
- Theorem `Thread.Effect.dismantles`: a shutdown goes on to close its modules, until all of them are
  closed and it reports on them.
- Theorem `Machine.Traced.queued`: along every history modules are kept in the order of their
  opening, except for those that overtake others.
- Theorem `Machine.Traced.closingOrder`: a shutdown closes the handle set, in the reverse order.
- Theorem `Machine.exists_closed_out_of_order`: a module may be closed before one that was opened
  later.
-/

namespace PluginHost

/-! ## The order in which modules are kept -/

/-- The modules that a lookup has in its hands as it goes on, to decide about them later. -/
def Next.opened (next : Next) : List Handle :=
  (next.resumed?.map Stage.opened).getD []

/-- A lock section puts what it keeps at the end of the handle set. -/
theorem Section.keeps {host : Host} {me : ThreadId} {key : Key} {stage : Stage} {s : LoaderState}
    {ran : Section} (runs : stage.lockSection? host me key s = some ran) :
    (ran.state.openModules ++ ran.next.opened).Sublist (s.openModules ++ stage.opened) := by
  have bare : ran.state.handles = s.handles → ran.next.opened = [] →
      (ran.state.openModules ++ ran.next.opened).Sublist (s.openModules ++ stage.opened) := by
    intro handles none
    rw [none, List.append_nil, LoaderState.openModules, handles]
    exact List.sublist_append_left ..
  have searched : ∀ s' : LoaderState,
      (s'.search host me key).state.handles = s'.handles ∧
        (s'.search host me key).next.opened = [] := by
    intro s'
    have outcome := LoaderState.search_cases host me key s'
    generalize s'.search host me key = ran at outcome
    cases outcome <;> exact ⟨rfl, rfl⟩
  have begun := (s.akin_begun me key stage).handles
  have kept : s.isShutDown = false →
      ran.state.handles = (s.keep stage.opened).handles → ran.next.opened = [] →
        (ran.state.openModules ++ ran.next.opened).Sublist (s.openModules ++ stage.opened) := by
    intro up handles none
    rw [none, List.append_nil, LoaderState.openModules, LoaderState.openModules, handles,
      LoaderState.keep]
    cases open' : s.handles with
    | none =>
      rw [LoaderState.isShutDown, open'] at up
      cases up
    | some set => exact .refl _
  cases Stage.runs runs with
  | nameless _ => exact bare rfl rfl
  | refused _ _ state =>
    rcases state with rfl | rfl
    · exact bare rfl rfl
    · exact bare rfl rfl
  | shared _ => exact bare rfl rfl
  | again _ => exact bare (searched _).1 (searched _).2
  | inside _ _ _ => exact bare ((searched _).1.trans begun) (searched _).2
  | insists _ _ _ _ _ => exact bare ((searched _).1.trans begun) (searched _).2
  | free _ _ _ _ => exact bare ((searched _).1.trans begun) (searched _).2
  | awaits _ _ _ _ _ => exact bare begun rfl
  | lists _ _ _ _ => exact bare begun rfl
  | settled up =>
    obtain ⟨handles, none⟩ := searched _
    exact kept up handles none
  | settledLate _ => exact bare rfl rfl
  | closed => exact bare rfl rfl
  | adopted up _ => exact kept up rfl rfl
  | rejected _ _ => exact bare rfl rfl
  | openedLate _ => exact bare rfl rfl
  | unopened => exact bare rfl rfl
  | failed => exact bare rfl rfl

/-! ## Reports -/

/-- A report with what becomes of further modules that are closed. -/
def ReleaseReport.tally (report : ReleaseReport) (handles : List Handle) : ReleaseReport :=
  handles.foldl (fun report handle => report.count (HandleSet.closes handle)) report

theorem ReleaseReport.tally_eq (report : ReleaseReport) (handles : List Handle) :
    report.tally handles =
      ⟨report.released + handles.countP HandleSet.closes,
        report.failed + handles.countP fun handle => !HandleSet.closes handle, report.skipped⟩ := by
  induction handles generalizing report with
  | nil => rfl
  | cons handle handles ih =>
    have step := ih (report.count (HandleSet.closes handle))
    rw [tally] at step
    rw [tally, List.foldl_cons, step]
    cases closes : HandleSet.closes handle <;>
      simp [ReleaseReport.count, closes] <;> omega

/-- The report on a set whose modules are closed counts those that close and those that fail to. -/
theorem HandleSet.report_release (set : HandleSet) :
    set.report .release = ⟨set.countP closes, set.countP fun handle => !closes handle, 0⟩ := by
  show ReleaseReport.zero.tally set.reverse = _
  rw [ReleaseReport.tally_eq, List.countP_reverse, List.countP_reverse]
  simp [ReleaseReport.zero]

/-! ## Turns -/

namespace Thread

/-- The open modules and those in the hands of lookups, in the order in which they are kept: a
lookup ends before those below it. -/
def queue (s : LoaderState) (thread : Thread) : List Handle :=
  s.openModules ++ thread.opened

/-- What a turn does to the order in which modules are kept: it opens a module, which goes before
those in the hands of lookups further out, or it adds none. -/
inductive Queue (w : World) (turn : Turn) : Thread → Prop
  | rest {thread : Thread}
      (fewer : (turn.thread.queue turn.world.state).Sublist (thread.queue w.state)) :
      Queue w turn thread
  | opens {pending : Pending} {key : Key} {style : Style} {stage : Stage} {below : Thread}
      {handle : Handle} (outcome : pending.outcome w.nextSerial = .ok handle)
      (queue : turn.thread.queue turn.world.state =
        w.state.openModules ++ stage.opened ++ handle :: below.opened) :
      Queue w turn (.script (.init pending) [] :: .lookup key style stage :: below)

variable {host : Host} {me : ThreadId} {w : World} {turn : Turn} {thread : Thread}

theorem Queue.of_same (opened : turn.thread.opened = thread.opened)
    (handles : turn.world.state.handles = w.state.handles) : Queue w turn thread := by
  refine .rest ?_
  rw [queue, queue, opened, LoaderState.openModules, LoaderState.openModules, handles]

theorem Effect.queue (h : Effect host me w turn thread) : Queue w turn thread := by
  have mild : turn.Mild w → turn.thread.opened = thread.opened → Queue w turn thread :=
    fun mild opened => .of_same opened (by rw [mild.state])
  have closes : turn.world.state = w.state.close → turn.thread.opened = thread.opened →
      Queue w turn thread := by
    intro state opened
    refine .rest ?_
    rw [Thread.queue, Thread.queue, opened, state, openModules_close]
    exact List.sublist_append_right ..
  cases h with
  | act back calm => exact mild calm (by rw [back]; rfl)
  | call request called calm => exact mild calm (by rw [called]; rfl)
  | seek key style _ began calm => exact mild calm (by rw [began]; rfl)
  | serve _ back _ world =>
    exact .of_same (by rw [back]; rfl) (by rw [world]; exact served_handles ..)
  | shut _ back _ state _ _ => exact closes state (by rw [back]; rfl)
  | release _ closing _ state _ _ _ => exact closes state (by rw [closing]; rfl)
  | init pending script opening began calm =>
    refine mild calm ?_
    rw [began, opened_lookup, ← Stage.opened_of_opening? opening]
    rfl
  | refused failure opening told calm =>
    refine mild calm ?_
    rw [told, opened_lookup, opened_lookup, Stage.opened_told (Stage.opens_of_opening? opening),
      Stage.opened_of_opening? opening]
    exact congrArg (· ++ _) (List.append_nil _)
  | @opened pending key style stage below opens told _ state _ _ =>
    cases outcome : pending.outcome w.nextSerial with
    | error failure =>
      rw [outcome] at told
      refine .of_same ?_ (by rw [state])
      rw [told, opened_lookup, Stage.opened_told opens]
      exact congrArg (· ++ _) (List.append_nil _)
    | ok handle =>
      rw [outcome] at told
      refine .opens outcome ?_
      rw [Thread.queue, told, opened_lookup, Stage.opened_told opens, state]
      simp [Except.toOption]
  | @locked key style stage below ran runs eq =>
    subst eq
    refine .rest ?_
    have stack : (afterSection w key style below ran).thread.opened =
        ran.next.opened ++ below.opened := by
      cases next : ran.next with
      | answer result =>
        rw [(afterSection_answer w key style below next).1]
        rfl
      | stage after =>
        rw [afterSection_stage next]
        rfl
      | discard handles after =>
        rw [afterSection_discard next]
        rfl
    rw [Thread.queue, Thread.queue, stack, afterSection_world, opened_lookup,
      ← List.append_assoc, ← List.append_assoc]
    exact (Section.keeps runs).append_right _
  | close upper report' script closing calm =>
    refine mild calm ?_
    rw [closing]
    rcases script with rfl | ⟨_, rfl⟩
    · rfl
    · rfl
  | closed _ back calm => exact mild calm (by rw [back]; rfl)
  | finish back calm => exact mild calm (by rw [back]; rfl)

/-! ## Closing a handle set -/

/-- What stands on a shutdown that closes modules: nothing, or the script that closes one of them,
which may be in a call of the loader. -/
inductive TearsDown : Thread → Prop
  | idle : TearsDown []
  | script (handle : Handle) (rest : Script) : TearsDown [.script (.teardown handle) rest]
  | request (request : Request) (handle : Handle) (rest : Script) :
      TearsDown [.request request, .script (.teardown handle) rest]
  | lookup (key : Key) (style : Style) (handle : Handle) (rest : Script) :
      TearsDown [.lookup key style .entering, .script (.teardown handle) rest]

variable {upper below : Thread} {todo left : List Handle} {report : ReleaseReport}

theorem TearsDown.wakeIf (tears : TearsDown upper) (wakes : Bool) :
    Thread.wakeIf wakes (upper ++ .closing .shutdown todo report :: below) =
      upper ++ .closing .shutdown todo report :: below := by
  cases wakes with
  | false => rfl
  | true => cases tears <;> rfl

/-- After shutdown a lookup that begins answers at once. -/
theorem answer_of_entering {key : Key} {s : LoaderState} {ran : Section}
    (runs : Stage.lockSection? host me key s .entering = some ran) (down : s.isShutDown = true) :
    ∃ result, ran.next = .answer result := by
  obtain rfl := Option.some.inj runs
  cases named : key.name.isEmpty with
  | true => exact ⟨_, by rw [LoaderState.enter_nameless named]⟩
  | false => exact ⟨_, by rw [LoaderState.enter_shutDown named down]⟩

/-- The module whose script stands on a shutdown, if one does. -/
def underway (upper : Thread) : List Handle :=
  upper.filterMap fun
    | .script (.teardown handle) _ => some handle
    | _ => none

/-- What a turn makes of a shutdown that closes modules: it closes the next one, or goes on with the
script of one, and what the shutdown will report stays the same; or it is over and reports. -/
inductive Dismantles (w : World) (turn : Turn) (upper : Thread) (left : List Handle)
    (report : ReleaseReport) (below : Thread) : Prop
  | goesOn {upper' : Thread} {left' : List Handle} {report' : ReleaseReport}
      (tears : TearsDown upper')
      (stack : turn.thread = upper' ++ .closing .shutdown left' report' :: below)
      (order : left = released (upper ++ .closing .shutdown left report :: below) ++ left')
      (tally : report'.tally (upper'.underway ++ left') = report.tally (upper.underway ++ left))
  | ends (idle : upper = []) (none : left = [])
      (reports : turn = answer w below (.report report) [] false)

/-- A turn of a thread that shuts the loader down dismantles it further. -/
theorem Effect.dismantles
    (h : Effect host me w turn (upper ++ .closing .shutdown left report :: below))
    (turned : Thread.turn host me w (upper ++ .closing .shutdown left report :: below) = some turn)
    (tears : TearsDown upper) (down : w.state.isShutDown = true) :
    Dismantles w turn upper left report below := by
  cases tears with
  | idle =>
    cases left with
    | nil => exact .ends rfl rfl (Option.some.inj turned).symm
    | cons handle left =>
      obtain rfl := Option.some.inj turned
      obtain ⟨serial, path, teardown⟩ := handle
      cases teardown with
      | run script failure => exact .goesOn (.script _ script) rfl rfl rfl
      | unmap library => exact .goesOn .idle rfl rfl rfl
  | script handle rest =>
    cases rest with
    | nil =>
      obtain rfl := Option.some.inj turned
      obtain ⟨serial, path, teardown⟩ := handle
      cases teardown with
      | run script failure =>
        cases failure <;> exact .goesOn .idle rfl rfl rfl
      | unmap library => exact .goesOn .idle rfl rfl rfl
    | cons action rest =>
      cases h with
      | act back _ => exact .goesOn (.script handle rest) back rfl rfl
      | call request called _ => exact .goesOn (.request request handle rest) called rfl rfl
  | request request handle rest =>
    cases h with
    | seek key style _ began _ => exact .goesOn (.lookup key style handle rest) began rfl rfl
    | serve _ back _ _ => exact .goesOn (.script handle rest) back rfl rfl
    | shut _ back _ _ _ _ => exact .goesOn (.script handle rest) back rfl rfl
    | release _ _ _ _ _ open' _ =>
      rw [LoaderState.isShutDown, open'] at down
      cases down
  | lookup key style handle rest =>
    cases h with
    | init pending script opening _ _ => cases opening
    | refused failure opening _ _ => cases opening
    | locked ran runs eq =>
      obtain ⟨result, next⟩ := answer_of_entering runs down
      rw [eq]
      exact .goesOn (.script handle rest) (afterSection_answer w key style _ next).1 rfl rfl

/-- A thread that is about to empty the directory is about to shut the loader down. -/
theorem shuts_of_call? {thread : Thread} (called : thread.call? = some .shutdown) :
    ∃ request below, thread = .request request :: below ∧ request.shuts = true := by
  unfold call? at called
  split at called
  · next request below =>
    refine ⟨request, below, rfl, ?_⟩
    cases request with
    | shutdown => rfl
    | drop => rfl
    | registrar call =>
      rw [Request.call?] at called
      split at called <;> cases called
    | register _ _ => cases called
    | unregister _ => cases called
    | get _ | tryGet _ | names _ | mode _ | moduleCount | isShutDown | policy => cases called
  · cases called

/-! ## Modules in the hands of lookups further out -/

theorem mem_held_cons {frame : Frame} {entry : Option Job × Handle} (mem : entry ∈ below.held) :
    entry ∈ held (frame :: below) := by
  cases frame with
  | script _ _ => exact mem
  | request _ => exact mem
  | lookup _ _ _ => exact List.mem_append_right _ mem
  | closing reason _ _ =>
    cases reason with
    | shutdown => exact mem
    | discard => exact List.mem_append_right _ mem

theorem mem_jobs_cons {frame : Frame} {job : Job} (mem : job ∈ below.jobs) :
    job ∈ jobs (frame :: below) :=
  ((List.sublist_cons_self frame below).filterMap Frame.job?).subset mem

/-- A module in the hands of a lookup that is not on top was opened by a bulk load, which is in
progress. -/
theorem Shaped.bulk_of_opened {frame : Frame} (shaped : Shaped (frame :: below)) {handle : Handle}
    (mem : handle ∈ below.opened) :
    ∃ kind, (some (.bulk kind), handle) ∈ below.held ∧ .bulk kind ∈ below.jobs := by
  generalize whole : frame :: below = thread at shaped
  induction shaped generalizing frame below with
  | program rest =>
    obtain ⟨rfl, rfl⟩ := List.cons.inj whole
    cases mem
  | @push upper lower deeper on shaped ih =>
    obtain ⟨rfl, rfl⟩ := List.cons.inj whole
    have further : handle ∈ opened deeper → ∃ kind,
        (some (.bulk kind), handle) ∈ held (lower :: deeper) ∧ .bulk kind ∈ jobs (lower :: deeper) := by
      intro mem
      obtain ⟨kind, held, loads⟩ := ih mem rfl
      exact ⟨kind, mem_held_cons held, mem_jobs_cons loads⟩
    cases on with
    | initBulk pending script key style todo opened =>
      rcases List.mem_append.1 mem with mine | mem
      · exact ⟨key.kind, List.mem_append_left _ (List.mem_map_of_mem mine), List.mem_cons_self⟩
      · exact further mem
    | initName => exact further mem
    | discardBulk => exact further mem
    | discardName => exact further mem
    | request => exact further mem
    | lookup => exact further mem
    | shutdown => exact further mem
    | teardown => exact further mem

end Thread

/-! ## Modules that overtake others -/

namespace Machine

/-- A module overtakes another one: the other one is in the hands of a lookup further out when the
init of the module returns. -/
def History.Overtakes (history : History) (handle other : Handle) : Prop :=
  ∃ step ∈ history, ∃ pending key style stage below,
    step.before.thread step.thread =
        .script (.init pending) [] :: .lookup key style stage :: below ∧
      pending.outcome step.before.world.nextSerial = .ok handle ∧ other ∈ Thread.opened below

/-- A module is kept before another one: it was opened earlier and not overtaken, or later and
overtook the other one. -/
def History.KeptBefore (history : History) (handle other : Handle) : Prop :=
  handle.serial < other.serial ∧ ¬ history.Overtakes other handle ∨
    other.serial < handle.serial ∧ history.Overtakes handle other

/-- The modules of a machine with one thread, in the order in which they are kept. -/
def queue (m : Machine) : List Handle :=
  (m.thread 0).queue m.world.state

/-- Modules are kept in the order of their opening, except for those that overtake others. -/
structure Queued (m : Machine) (history : History) : Prop where
  pairwise : m.queue.Pairwise history.KeptBefore
  known : ∀ handle ∈ m.queue, handle.serial < m.world.nextSerial

variable {hosts : Set Host} {modes : PerKind SearchMode} {m next : Machine}
  {history later earlier : History} {host : Host} {me : ThreadId} {turn : Turn} {step shut : Step}
  {handle other : Handle} {set : HandleSet} {below : Thread} {request : Request}

/-- The module that an init leaves has the number that it was given. -/
theorem serial_of_outcome {pending : Pending} {serial : Nat}
    (outcome : pending.outcome serial = .ok handle) : handle.serial = serial := by
  unfold Pending.outcome at outcome
  split at outcome
  · cases outcome
  · cases outcome
    rfl

/-- A step opens a module under a number that was not given before. -/
theorem History.overtakes_cons (known : handle.serial < step.before.world.nextSerial) :
    Overtakes (step :: history) handle other ↔ Overtakes history handle other := by
  constructor
  · rintro ⟨last, mem, pending, key, style, stage, below, stack, outcome, held⟩
    rcases List.mem_cons.1 mem with rfl | mem
    · rw [serial_of_outcome outcome] at known
      exact absurd known (Nat.lt_irrefl _)
    · exact ⟨last, mem, pending, key, style, stage, below, stack, outcome, held⟩
  · rintro ⟨last, mem, rest⟩
    exact ⟨last, List.mem_cons_of_mem _ mem, rest⟩

theorem History.KeptBefore.cons (h : KeptBefore history handle other)
    (known : handle.serial < step.before.world.nextSerial)
    (known' : other.serial < step.before.world.nextSerial) :
    KeptBefore (step :: history) handle other := by
  unfold KeptBefore at h ⊢
  rwa [overtakes_cons known, overtakes_cons known']

/-- A module that overtook another one has a number that was given. -/
theorem Traced.lt_of_overtakes (h : Traced hosts modes m history)
    (overtakes : history.Overtakes handle other) : handle.serial < m.world.nextSerial := by
  obtain ⟨step, mem, pending, key, style, stage, below, stack, outcome, -⟩ := overtakes
  have opened : ⟨step.thread, stage.load? key, handle⟩ ∈ history.opened := by
    refine List.mem_flatMap.2 ⟨step, mem, ?_⟩
    rw [stack, Thread.acquired, outcome]
    exact List.mem_singleton.2 rfl
  have given := List.mem_map_of_mem (f := fun opened => opened.handle.serial) opened
  rw [h.serials, List.mem_reverse, List.mem_range] at given
  exact given

/-- A step of the one thread keeps modules in their order. -/
theorem Takes.queued (takes : Takes host m 0 turn next) (h : Traced hosts modes m history)
    (queued : Queued m history) : Queued next (⟨m, 0, next⟩ :: history) := by
  have stack : next.queue = turn.thread.queue turn.world.state := by
    have opened : (turn.thread.wakeIf turn.wakes).opened = turn.thread.opened := by
      cases wakes : turn.wakes <;> simp [Thread.wakeIf]
    rw [Machine.queue, Thread.queue, takes.thread_self, takes.world, opened, Thread.queue]
  have serial : m.world.nextSerial ≤ next.world.nextSerial := by
    rw [takes.world, (Thread.turn_balance takes.effect).serial]
    exact Nat.le_add_right _ _
  have kept : ∀ x y : Handle, x ∈ m.queue → y ∈ m.queue → history.KeptBefore x y →
      History.KeptBefore (⟨m, 0, next⟩ :: history) x y :=
    fun x y hx hy before => before.cons (queued.known x hx) (queued.known y hy)
  have order := takes.effect.queue
  generalize before : m.thread 0 = thread at order
  cases order with
  | rest fewer =>
    have fewer : (turn.thread.queue turn.world.state).Sublist m.queue := by
      rwa [Machine.queue, before]
    rw [← stack] at fewer
    refine ⟨?_, fun handle mem => ?_⟩
    · refine (queued.pairwise.sublist fewer).imp_of_mem fun hx hy => ?_
      exact kept _ _ (fewer.subset hx) (fewer.subset hy)
    · exact Nat.lt_of_lt_of_le (queued.known handle (fewer.subset mem)) serial
  | @opens pending key style stage below handle outcome order =>
    rw [← stack] at order
    have was : m.queue = (m.world.state.openModules ++ stage.opened) ++ Thread.opened below := by
      rw [Machine.queue, before, Thread.queue, List.append_assoc]
      rfl
    have number := serial_of_outcome outcome
    have next' : next.world.nextSerial = m.world.nextSerial + 1 := by
      rw [takes.world, (Thread.turn_balance takes.effect).serial, before, Thread.acquired, outcome]
      rfl
    have old := queued.known
    have pairs := queued.pairwise.imp_of_mem fun hx hy => kept _ _ hx hy
    rw [was] at old pairs
    obtain ⟨front, back, across⟩ := List.pairwise_append.1 pairs
    -- No module overtakes one that was in the set: that one would be before itself.
    have calm : ∀ a ∈ m.world.state.openModules ++ stage.opened,
        ¬ History.Overtakes (⟨m, 0, next⟩ :: history) handle a := by
      rintro a mem ⟨last, of, pending', key', style', stage', below', stack', outcome', held⟩
      rcases List.mem_cons.1 of with rfl | of
      · rw [before] at stack'
        cases stack'
        rcases across a mem a held with ⟨lt, -⟩ | ⟨lt, -⟩
        · exact Nat.lt_irrefl _ lt
        · exact Nat.lt_irrefl _ lt
      · refine Nat.lt_irrefl handle.serial ?_
        nth_rewrite 2 [number]
        exact h.lt_of_overtakes ⟨last, of, _, _, _, _, _, stack', outcome', held⟩
    have overtakes : ∀ b ∈ Thread.opened below,
        History.Overtakes (⟨m, 0, next⟩ :: history) handle b := fun b mem =>
      ⟨_, List.mem_cons_self, pending, key, style, stage, below, before, outcome, mem⟩
    refine ⟨?_, fun a mem => ?_⟩
    · rw [order]
      refine List.pairwise_append.2 ⟨front, List.pairwise_cons.2 ⟨fun b mem => .inr ?_, back⟩, ?_⟩
      · exact ⟨number ▸ old b (List.mem_append_right _ mem), overtakes b mem⟩
      · intro a mem b mem'
        rcases List.mem_cons.1 mem' with rfl | mem'
        · exact .inl ⟨number ▸ old a (List.mem_append_left _ mem), calm a mem⟩
        · exact across a mem b mem'
    · rw [order] at mem
      rw [next']
      rcases List.mem_append.1 mem with mem | mem
      · exact Nat.lt_succ_of_lt (old a (List.mem_append_left _ mem))
      · rcases List.mem_cons.1 mem with rfl | mem
        · exact number ▸ Nat.lt_succ_self _
        · exact Nat.lt_succ_of_lt (old a (List.mem_append_right _ mem))

/-- Along every history of one thread modules are kept in the order of their opening, except for
those that overtake others. -/
theorem Traced.queued (h : Traced hosts modes m history) (single : m.threads.length ≤ 1) :
    Queued m history := by
  refine h.invariant (P := fun m history => m.threads.length ≤ 1 → Queued m history)
    ?_ ?_ ?_ single
  · intro _
    exact ⟨.nil, List.forall_mem_nil _⟩
  · intro m next history queued untouched single
    obtain ⟨pairwise, known⟩ := queued (untouched.length_le.trans single)
    have same : next.queue = m.queue := by
      rw [Machine.queue, Machine.queue, Thread.queue, Thread.queue, untouched.state]
      rcases untouched.thread 0 with same | ⟨idle, script, started⟩
      · rw [same]
      · rw [idle, started]
        rfl
    refine ⟨same ▸ pairwise, fun handle mem => ?_⟩
    rw [untouched.serial]
    exact known handle (same ▸ mem)
  · intro m next history host me turn before queued mem takes single
    rw [step_length_threads takes.taken] at single
    obtain rfl : me = 0 := Nat.lt_one_iff.1 (Nat.lt_of_lt_of_le takes.lt single)
    exact takes.queued before (queued single)

/-! ## What a shutdown closes -/

/-- Where the closing of a handle set stands: some of its modules are closed, those at its end, and
the shutdown goes on with the others; or all of them are closed. -/
inductive Closing (set : HandleSet) (below : Thread) (m : Machine) (later : History) : Prop
  | going {upper : Thread} {todo : List Handle} {report : ReleaseReport}
      (tears : upper.TearsDown)
      (stack : m.thread 0 = upper ++ .closing .shutdown todo report :: below)
      (order : later.released.reverse ++ todo = set.reverse)
  | finished (order : set.reverse <+: later.released.reverse)

theorem History.released_reverse_cons (step : Step) (history : History) :
    (released (step :: history)).reverse =
      history.released.reverse ++ (step.before.thread step.thread).released := by
  have one : (step.before.thread step.thread).released.reverse =
      (step.before.thread step.thread).released := by
    unfold Thread.released
    split <;> rfl
  rw [released, List.flatMap_cons, List.reverse_append, one]
  rfl

/-- A step of the one thread goes on with the closing. -/
theorem Closing.goesOn (sound : m.Sound) (taken : m.step host 0 = some next)
    (down : m.world.state.isShutDown = true) (closing : Closing set below m later) :
    Closing set below next (⟨m, 0, next⟩ :: later) := by
  cases closing with
  | finished order =>
    refine .finished (order.trans ?_)
    rw [History.released_reverse_cons]
    exact List.prefix_append ..
  | @going upper todo report tears stack order =>
    obtain ⟨-, turn, turned, -⟩ := step_eq taken
    have takes := takes_of_turn sound taken turned
    have effect := takes.effect
    rw [stack] at effect turned
    cases effect.dismantles turned tears down with
    | @goesOn upper' todo' report' tears' left first =>
      refine .going tears' (?_ : _ = upper' ++ .closing .shutdown todo' report' :: below) ?_
      · rw [takes.thread_self, left, tears'.wakeIf]
      · rw [History.released_reverse_cons, stack, List.append_assoc, ← first, order]
    | ends idle none =>
      subst idle none
      rw [List.append_nil] at order
      refine .finished ?_
      rw [History.released_reverse_cons, order]
      exact List.prefix_append ..

/-- From a shutdown on its handle set is closed, the last module first. -/
theorem Traced.closing (h : Traced hosts modes m (later ++ shut :: earlier))
    (single : m.threads.length ≤ 1) (releases : ∀ host ∈ hosts, host.policy = .release)
    (called : shut.call? = some .shutdown) :
    ∃ below, Closing shut.before.world.state.openModules below m later := by
  obtain ⟨before, host, mem, turn, takes⟩ := h.split_takes
  have alone : shut.thread = 0 :=
    Nat.lt_one_iff.1 (takes.lt.trans_le ((h.length_before_le (by simp)).trans single))
  obtain ⟨request, below, stack, down⟩ := Thread.shuts_of_call? called
  have effect := takes.effect
  rw [stack] at effect
  cases effect with
  | seek _ _ up _ _ =>
    rw [down] at up
    cases up
  | serve up _ _ _ =>
    rw [down] at up
    cases up
  | shut _ _ _ _ _ left =>
    have none : shut.before.world.state.openModules = [] := by
      rcases left with none | skip
      · rw [LoaderState.openModules, none]
        rfl
      · rw [releases host mem] at skip
        cases skip
    exact ⟨[], .finished (none ▸ List.nil_prefix)⟩
  | @release _ _ set _ closes _ _ _ open' _ =>
    have set_eq : shut.before.world.state.openModules = set := by
      rw [LoaderState.openModules, open']
      rfl
    have closing : shut.after.thread 0 = .closing .shutdown set.reverse .zero :: below := by
      rw [← alone, takes.thread_self, closes]
      exact Thread.TearsDown.idle.wakeIf _
    rw [set_eq]
    refine ⟨below, h.since (P := fun m later => m.threads.length ≤ 1 → Closing set below m later)
      ?_ ?_ ?_ single⟩
    · intro m begun _
      rcases begun.thread_eq 0 with same | ⟨idle, -⟩
      · exact .going .idle (same.trans closing) rfl
      · rw [closing] at idle
        cases idle
    · intro m next later closing untouched single
      cases closing (untouched.length_le.trans single) with
      | finished order => exact .finished order
      | going tears stack order =>
        rcases untouched.thread 0 with same | ⟨idle, -⟩
        · exact .going tears (same.trans stack) order
        · rw [idle] at stack
          exact absurd stack.symm (List.append_ne_nil_of_right_ne_nil _ (List.cons_ne_nil _ _))
    · intro m next later host me turn traced closing _ takes single
      rw [step_length_threads takes.taken] at single
      obtain rfl : me = 0 := Nat.lt_one_iff.1 (takes.lt.trans_le single)
      exact Closing.goesOn traced.reachable.sound takes.taken
        (traced.isShutDown_iff.2 (History.mem_calls_of_call? called _ _)) (closing single)

/-! ## The contract -/

/-- A module that another one overtakes was opened earlier, by a bulk load. -/
theorem Traced.overtaken (h : Traced hosts modes m history) (single : m.threads.length ≤ 1)
    (overtakes : history.Overtakes handle other) :
    other.serial < handle.serial ∧
      ∃ kind, ⟨0, some (.bulk kind), other⟩ ∈ history.opened := by
  obtain ⟨step, mem, pending, key, style, stage, below, stack, outcome, held⟩ := overtakes
  obtain ⟨later, earlier, rfl⟩ := List.append_of_mem mem
  have short := (h.length_before_le mem).trans single
  obtain ⟨before, host, -, turn, takes⟩ := h.split_takes
  have alone : step.thread = 0 := Nat.lt_one_iff.1 (takes.lt.trans_le short)
  rw [alone] at stack
  constructor
  · rw [serial_of_outcome outcome]
    refine (before.queued short).known other (List.mem_append_right _ ?_)
    rw [stack]
    exact List.mem_append_right _ held
  · have shaped := before.reachable.sound.shaped 0 (alone ▸ takes.lt)
    rw [stack] at shaped
    obtain ⟨kind, entry, -⟩ := shaped.tail.bulk_of_opened held
    have there : (some (.bulk kind), other) ∈ (step.before.thread 0).held := by
      rw [stack]
      exact Thread.mem_held_cons (Thread.mem_held_cons entry)
    refine ⟨kind, ?_⟩
    rw [History.opened_append, History.opened_cons]
    exact List.mem_append_right _ (List.mem_append_right _ (before.opener there))

/-- In which order the modules of a handle set are closed that a shutdown takes out, by the one
thread that there is: the steps before the shutdown are `earlier`, those since then `later`.  They
are closed before anything else, the last one of the set first; and they stand there in the order
of their opening, except that a module stands before those that were in the hands of a bulk load
further out when its init returned.  So the modules are closed newest first exactly if there are
none of these. -/
structure ClosingOrder (set : HandleSet) (m : Machine) (later earlier : History) : Prop where
  kept : set.Pairwise earlier.KeptBefore
  closes : later.released.reverse <+: set.reverse ∨ set.reverse <+: later.released.reverse
  ended : (m.thread 0).Returned → set.reverse <+: later.released.reverse
  overtaken : ∀ handle other, earlier.Overtakes handle other →
    other.serial < handle.serial ∧ ∃ kind, ⟨0, some (.bulk kind), other⟩ ∈ earlier.opened
  newestFirst : set.Pairwise (fun handle other => handle.serial < other.serial) ↔
    ∀ handle ∈ set, ∀ other ∈ set, ¬ earlier.Overtakes handle other

/-- Along every history of one thread a shutdown closes its handle set in this order. -/
theorem Traced.closingOrder (h : Traced hosts modes m (later ++ shut :: earlier))
    (single : m.threads.length ≤ 1) (releases : ∀ host ∈ hosts, host.policy = .release)
    (called : shut.call? = some .shutdown) :
    ClosingOrder shut.before.world.state.openModules m later earlier := by
  have mem : shut ∈ later ++ shut :: earlier := by simp
  have short := (h.length_before_le mem).trans single
  have before := h.split.1
  have kept : shut.before.world.state.openModules.Pairwise earlier.KeptBefore :=
    (before.queued short).pairwise.sublist (List.sublist_append_left ..)
  obtain ⟨below, closing⟩ := h.closing single releases called
  have lt : ∀ handle other, earlier.Overtakes handle other → other.serial < handle.serial :=
    fun _ _ overtakes => (before.overtaken short overtakes).1
  constructor
  · exact kept
  · cases closing with
    | going _ _ order => exact .inl (order ▸ List.prefix_append ..)
    | finished order => exact .inr order
  · rintro ⟨rest, returned⟩
    cases closing with
    | finished order => exact order
    | going tears stack order =>
      rw [returned] at stack
      cases tears <;> cases stack
  · intro handle other overtakes
    exact before.overtaken short overtakes
  · constructor
    · intro sorted
      let apart (handle other : Handle) : Prop :=
        ¬ earlier.Overtakes handle other ∧ ¬ earlier.Overtakes other handle
      have symm : Std.Symm apart := ⟨fun _ _ free => ⟨free.2, free.1⟩⟩
      have irrefl : ∀ handle, ¬ earlier.Overtakes handle handle := fun handle overtakes =>
        Nat.lt_irrefl _ (lt handle handle overtakes)
      have pairs : shut.before.world.state.openModules.Pairwise apart := by
        refine (kept.and sorted).imp ?_
        rintro handle other ⟨⟨-, free⟩ | ⟨after, -⟩, before⟩
        · exact ⟨fun overtakes => Nat.lt_asymm before (lt _ _ overtakes), free⟩
        · exact absurd before (Nat.lt_asymm after)
      intro handle mem other mem'
      exact (pairs.forall_of_forall (fun handle _ => ⟨irrefl handle, irrefl handle⟩) mem mem').1
    · intro free
      refine kept.imp_of_mem fun {handle other} mem mem' before => ?_
      rcases before with ⟨lt, -⟩ | ⟨-, overtakes⟩
      · exact lt
      · exact absurd overtakes (free handle mem other mem')

/-- A host with two modules to load as a kind.  The init of the second one looks up a name, for
which there is a third module. -/
def nestingHost : Host :=
  let registers (kind : Kind) (name : String) : Action :=
    .registrar (.checked ⟨kind, name⟩ (.word 7))
  let opening (path : Path) : Opening :=
    if path = .ofText "a" then .run [registers .converter "a"] none (.run [] none)
    else if path = .ofText "b" then
      .run [.request (.tryGet ⟨.filter, "n"⟩), registers .converter "b"] none (.run [] none)
    else .run [registers .filter "n"] none (.run [] none)
  ⟨⟨fun _ name => ⟨.ofText name, true⟩, fun _ => [.ofText "a", .ofText "b"]⟩, ⟨opening⟩, .release⟩

/-- A thread looks up a name of the kind and shuts the loader down. -/
def nestingRun : Machine × History :=
  ((Machine.initial SearchMode.defaults).spawn
    [.request (.tryGet ⟨.converter, "a"⟩), .request .shutdown]).runWith History.note nestingHost
      (List.replicate 29 0) []

/-- The step in which the loader is shut down. -/
def nestingShutdown : Step :=
  (nestingRun.2[7]?).getD ⟨nestingRun.1, 0, nestingRun.1⟩

theorem traced_nestingRun :
    Traced {nestingHost} SearchMode.defaults nestingRun.1
      (nestingRun.2.take 7 ++ nestingShutdown :: nestingRun.2.drop 8) := by
  have split : nestingRun.2.take 7 ++ nestingShutdown :: nestingRun.2.drop 8 = nestingRun.2 := by
    rfl
  rw [split]
  exact (Recorded.initial.spawn _).runWith (Set.mem_singleton nestingHost) _

theorem policy_nestingHost : ∀ host ∈ ({nestingHost} : Set Host), host.policy = .release := by
  intro host mem
  rw [Set.mem_singleton_iff.1 mem]
  rfl

/-- The thread has returned, and the modules of the set have been closed, the last one first. -/
theorem closingOrder_nestingRun :
    nestingRun.1.threads.length ≤ 1 ∧ nestingShutdown.call? = some .shutdown ∧
      (∀ host ∈ ({nestingHost} : Set Host), host.policy = .release) ∧
        ClosingOrder nestingShutdown.before.world.state.openModules nestingRun.1
          (nestingRun.2.take 7) (nestingRun.2.drop 8) ∧
          nestingRun.2.released.map Handle.serial = [1, 0, 2] := by
  have single : nestingRun.1.threads.length ≤ 1 := by decide
  have called : nestingShutdown.call? = some .shutdown := by rfl
  exact ⟨single, called, policy_nestingHost,
    traced_nestingRun.closingOrder single policy_nestingHost called, by rfl⟩

/-- A run of one thread ends, after the shutdown that closes its modules, and yet these are not
closed newest first. -/
theorem exists_closed_out_of_order :
    ∃ (hosts : Set Host) (modes : PerKind SearchMode) (m : Machine) (later earlier : History)
      (shut : Step), Traced hosts modes m (later ++ shut :: earlier) ∧ m.threads.length ≤ 1 ∧
        (∀ host ∈ hosts, host.policy = .release) ∧ shut.call? = some .shutdown ∧
          m.thread 0 = [.script .program []] ∧
            ¬ (later.released.reverse.map Handle.serial).Pairwise (· > ·) := by
  refine ⟨{nestingHost}, SearchMode.defaults, nestingRun.1, nestingRun.2.take 7,
    nestingRun.2.drop 8, nestingShutdown, traced_nestingRun, by decide, policy_nestingHost, by rfl,
    by rfl, ?_⟩
  have closed : (History.released (nestingRun.2.take 7)).reverse.map Handle.serial = [2, 0, 1] := by
    rfl
  rw [closed]
  decide

end Machine
end PluginHost
