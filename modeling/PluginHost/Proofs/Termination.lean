import Mathlib.Data.Multiset.DershowitzManna
import PluginHost.Proofs.Custody
import PluginHost.Proofs.Nesting

/-!
# Loading terminates

A module may look up any name while it is being opened or closed, its own name too, and each such
lookup may open and close further modules, whose scripts look up names again.  Nothing gets
smaller when this happens but the room that is left for loads: a load that begins on top of others
is one of the finitely many that are not in progress on the stack.

Each thread has a bill of what is left to do on its stack.  A task is the dearer the more room there
is for loads above it; with the same room the tasks have an order in which each one brings on
cheaper ones only.  A turn takes a task off the bill of its thread and puts any number of cheaper
ones in its place.  After shutdown no load begins, so there is no room any more, and it is the order of
the tasks alone that counts.

Main results:

- Theorem `Thread.Effect.cheaper`: a turn makes the bill of its thread cheaper, or it puts a lookup
  that was woken back to wait.
- Theorem `Machine.Takes.lighter`: a turn makes what is left to do on all stacks less.
- Theorem `Machine.Traced.accessible`: there is no infinite sequence of turns.
- Theorem `Machine.Traced.terminates`: threads come to an end, and calls return.
-/

namespace PluginHost

/-! ## Tasks -/

/-- What is left to do on a stack, each task one that brings on only those before it. -/
inductive Task where
  /-- To go on after a wait, a module that was closed, or a load that failed. -/
  | leave
  /-- To decide in a lock section how a lookup goes on. -/
  | decide
  /-- To serve a call. -/
  | serve
  /-- To perform an action of a script. -/
  | act
  /-- To close a module. -/
  | close
  /-- To end the opening of a module after its init. -/
  | settle
  /-- To open a file. -/
  | load

namespace Task

/-- The place of a task in the order. -/
def rank : Task → Nat
  | leave => 1
  | decide => 2
  | serve => 3
  | act => 4
  | close => 5
  | settle => 6
  | load => 7

/-- The price of a task, given the room for loads that may begin above it. -/
def price (room : Nat) (task : Task) : Nat :=
  8 * room + task.rank

theorem rank_lt (task : Task) : task.rank < 8 := by
  cases task <;> decide

theorem price_lt_of_rank {task other : Task} (lt : task.rank < other.rank) (room : Nat) :
    task.price room < other.price room :=
  Nat.add_lt_add_left lt _

/-- Where there is less room every task is cheaper. -/
theorem price_lt_of_room {room room' : Nat} (lt : room < room') (task other : Task) :
    task.price room < other.price room' := by
  have small := task.rank_lt
  unfold price
  omega

end Task

/-- What is left to do at a stage of a lookup, apart from a file that it is about to open by
name. -/
def Stage.tasks : Stage → List Task
  | entering | loadingName _ _ | openedName _ _ (.error _) => [.decide]
  | awaitingBulk _ | awaitingLoad _ _ | closingBulk | closingName _ _ => [.leave]
  | loadingBulk todo opened =>
    todo.map (fun _ => .load) ++ (opened.map (fun _ => .close) ++ [.decide])
  | openedName _ _ (.ok _) => [.close, .decide]

theorem Stage.tasks_of_parked {stage : Stage} (parked : stage.parked = true) :
    stage.tasks = [.leave] := by
  unfold Stage.parked at parked
  split at parked
  · rfl
  · rfl
  · cases parked

theorem Stage.woken_of_parked {stage : Stage} (parked : stage.parked = true) :
    stage.woken = false := by
  unfold Stage.parked at parked
  split at parked
  · next woken => simpa [Stage.woken] using parked
  · next woken => simpa [Stage.woken] using parked
  · cases parked

/-- What is left to do when a script is over. -/
def Role.tasks : Role → List Task
  | program => []
  | init _ => [.settle]
  | teardown _ => [.leave]

/-- What is left to do in a frame. -/
def Frame.tasks : Frame → List Task
  | .script role rest => rest.map (fun _ => .act) ++ role.tasks
  | .request _ => [.serve]
  | .lookup _ _ stage => stage.tasks
  | .closing _ todo _ => todo.map (fun _ => .close) ++ [.leave]

theorem Frame.tasks_script (role : Role) (action : Action) (rest : Script) :
    Frame.tasks (.script role (action :: rest)) = .act :: Frame.tasks (.script role rest) :=
  rfl

theorem Frame.tasks_closing (reason : CloseReason) (handle : Handle) (todo : List Handle)
    (report : ReleaseReport) :
    Frame.tasks (.closing reason (handle :: todo) report) =
      .close :: Frame.tasks (.closing reason todo report) :=
  rfl

namespace Thread

/-- How many loads may begin on top of a thread. -/
def room (limit : Nat) (thread : Thread) : Nat :=
  limit - thread.jobs.length

/-- The file that a lookup is about to open by name; that it is being opened is seen from the init
on top of the lookup. -/
def fresh : Thread → List Task
  | .lookup _ _ (.loadingName _ _) :: _ => [.load]
  | _ => []

/-- The prices of what is left to do in the frames of a thread. -/
def prices (limit : Nat) : Thread → List Nat
  | [] => []
  | frame :: below =>
    frame.tasks.map (Task.price (room limit (frame :: below))) ++ prices limit below

/-- The prices of all that is left to do for a thread. -/
def bill (limit : Nat) (thread : Thread) : List Nat :=
  thread.fresh.map (Task.price (room limit thread)) ++ prices limit thread

end Thread

/-! ## Cheaper bills -/

/-- Something is taken off a bill, and any number of cheaper things are put in its place. -/
def Cheaper (after before : List Nat) : Prop :=
  Multiset.IsDershowitzMannaLT (after : Multiset Nat) before

namespace Cheaper

variable {before after kept : List Nat}

theorem of_perm {spent gained : List Nat} (was : before.Perm (spent ++ kept))
    (is : after.Perm (gained ++ kept)) (some : spent ≠ [])
    (less : ∀ price ∈ gained, ∃ other ∈ spent, price < other) : Cheaper after before := by
  refine ⟨kept, gained, spent, by simpa using some, ?_, ?_, by simpa using less⟩
  · rw [Multiset.coe_add]
    exact Multiset.coe_eq_coe.2 (is.trans List.perm_append_comm)
  · rw [Multiset.coe_add]
    exact Multiset.coe_eq_coe.2 (was.trans List.perm_append_comm)

/-- Tasks are done. -/
theorem of_done {room : Nat} {tasks : List Task} (some : tasks ≠ []) :
    Cheaper kept (tasks.map (Task.price room) ++ kept) :=
  of_perm (.refl _) (.refl ([] ++ kept)) (by simpa using some) nofun

/-- With the same room tasks are replaced by such as come before one of them. -/
theorem of_tasks {room : Nat} {was is : List Task} (spent gained same : List Task)
    (before : was.Perm (spent ++ same)) (after : is.Perm (gained ++ same)) (some : spent ≠ [])
    (less : ∀ task ∈ gained, ∃ other ∈ spent, task.rank < other.rank) :
    Cheaper (is.map (Task.price room) ++ kept) (was.map (Task.price room) ++ kept) := by
  have split : ∀ {tasks part : List Task}, tasks.Perm (part ++ same) →
      (tasks.map (Task.price room) ++ kept).Perm
        (part.map (Task.price room) ++ (same.map (Task.price room) ++ kept)) := by
    intro tasks part perm
    rw [← List.append_assoc, ← List.map_append]
    exact (perm.map _).append_right _
  refine of_perm (split before) (split after) (by simpa using some) fun price mem => ?_
  obtain ⟨task, there, rfl⟩ := List.mem_map.1 mem
  obtain ⟨other, among, lt⟩ := less task there
  exact ⟨_, List.mem_map_of_mem among, Task.price_lt_of_rank lt room⟩

/-- A task is replaced by such as come before it. -/
theorem of_cons {room : Nat} {is : List Task} (task : Task) (gained same : List Task)
    (after : is.Perm (gained ++ same)) (less : ∀ other ∈ gained, other.rank < task.rank) :
    Cheaper (is.map (Task.price room) ++ kept) ((task :: same).map (Task.price room) ++ kept) :=
  of_tasks [task] gained same (.refl _) after (List.cons_ne_nil _ _) fun other mem =>
    ⟨task, List.mem_singleton_self task, less other mem⟩

/-- A lookup that decides to close its modules only has to close them. -/
theorem of_discard {room : Nat} (closes : List Task) :
    Cheaper ((closes ++ [Task.leave] ++ [Task.leave]).map (Task.price room) ++ kept)
      ((closes ++ [Task.decide]).map (Task.price room) ++ kept) := by
  refine of_tasks [.decide] [.leave, .leave] closes List.perm_append_comm ?_
    (List.cons_ne_nil _ _) (by decide)
  rw [List.append_assoc]
  exact List.perm_append_comm

/-- With less room any tasks are cheaper. -/
theorem of_room {room room' : Nat} {was is : List Task} (some : was ≠ []) (lt : room' < room) :
    Cheaper (is.map (Task.price room') ++ kept) (was.map (Task.price room) ++ kept) := by
  refine of_perm (.refl _) (.refl _) (by simpa using some) fun price mem => ?_
  obtain ⟨task, -, rfl⟩ := List.mem_map.1 mem
  obtain ⟨other, among⟩ := List.exists_mem_of_ne_nil was some
  exact ⟨_, List.mem_map_of_mem among, Task.price_lt_of_room lt task other⟩

end Cheaper

namespace Thread

variable {limit : Nat} {frame upper lower : Frame} {thread below : Thread} {key : Key}
  {style : Style} {stage after : Stage} {path : Path}

/-- A frame without a load leaves the room as it is. -/
theorem room_of_idle (idle : frame.job? = none) : room limit (frame :: below) = room limit below := by
  rw [room, room, jobs, List.filterMap_cons, idle]
  rfl

theorem room_lookup (limit : Nat) (key : Key) (style : Style) (stage : Stage) (below : Thread) :
    room limit (.lookup key style stage :: below) =
      limit - ((stage.job? key).toList.length + below.jobs.length) := by
  rw [room, jobs_lookup, List.length_append]

theorem bill_cons (limit : Nat) (frame : Frame) (below : Thread) :
    bill limit (frame :: below) =
      (fresh (frame :: below) ++ frame.tasks).map (Task.price (room limit (frame :: below))) ++
        prices limit below := by
  rw [bill, prices, List.map_append, List.append_assoc]

/-- A frame without a load has the room of those below. -/
theorem bill_of_idle (idle : frame.job? = none) :
    bill limit (frame :: below) =
      frame.tasks.map (Task.price (room limit below)) ++ prices limit below := by
  have bare : fresh (frame :: below) = [] := by
    cases frame with
    | lookup key style stage =>
      cases stage with
      | loadingName load path => cases idle
      | _ => rfl
    | _ => rfl
  rw [bill_cons, bare, room_of_idle idle, List.nil_append]

theorem bill_push (idle : upper.job? = none) :
    bill limit (upper :: lower :: below) =
      (upper.tasks ++ lower.tasks).map (Task.price (room limit (lower :: below))) ++
        prices limit below := by
  rw [bill_of_idle idle, prices, List.map_append, List.append_assoc]

/-- Only a lookup that is about to open a file by name has a task that is not in its frame, and it
is the init that will stand on it. -/
theorem Shaped.bill_below (shaped : Shaped (frame :: below))
    (calm : ∀ role rest, frame ≠ .script role rest) : below.bill limit = below.prices limit := by
  have none : below.fresh = [] := by
    cases shaped with
    | program rest => exact absurd rfl (calm _ _)
    | push on _ =>
      cases on with
      | initBulk => exact absurd rfl (calm _ _)
      | initName => exact absurd rfl (calm _ _)
      | teardown => exact absurd rfl (calm _ _)
      | request => rfl
      | lookup => rfl
      | shutdown => rfl
      | discardBulk => rfl
      | discardName => rfl
  rw [bill, none]
  rfl

@[simp]
theorem bill_wakeIf (wakes : Bool) (thread : Thread) :
    (thread.wakeIf wakes).bill limit = thread.bill limit :=
  apply_wakeIf (bill limit) (fun _ _ _ _ => rfl) (fun _ _ _ _ _ => rfl) wakes thread

/-! ## Turns -/

/-- A lookup that opens a file has one file less to open. -/
theorem tasks_of_opening? (opening : stage.opening? = some (path, after)) :
    fresh (.lookup key style stage :: below) ++ Frame.tasks (.lookup key style stage) =
      .load :: Frame.tasks (.lookup key style after) := by
  unfold Stage.opening? at opening
  split at opening <;> cases opening <;> rfl

/-- A lookup that is told what came of opening a file may have one more module to close. -/
theorem tasks_told (opens : stage.opens = true) (outcome : Except LoadError Handle) :
    (fresh (.lookup key style (stage.told outcome) :: below) ++
        Frame.tasks (.lookup key style (stage.told outcome))).Perm
      (outcome.toOption.toList.map (fun _ => .close) ++
        Frame.tasks (.lookup key style stage)) := by
  unfold Stage.opens at opens
  split at opens
  · next todo opened =>
    cases outcome with
    | error failure => exact .refl _
    | ok handle =>
      show (todo.map _ ++ ((opened ++ [handle]).map _ ++ [Task.decide])).Perm
        (Task.close :: (todo.map _ ++ (opened.map _ ++ [Task.decide])))
      rw [List.map_append, List.append_assoc, ← List.append_assoc, ← List.append_assoc (todo.map _)]
      exact List.perm_middle
  · cases outcome with
    | error failure => exact .refl _
    | ok handle => exact .refl _
  · cases opens

/-- The init of a module brings on what is cheaper than to open its file. -/
theorem rank_lt_of_init {pending : Pending} {script : Script} {task : Task}
    (mem : task ∈ Frame.tasks (.script (.init pending) script)) : task.rank < Task.load.rank := by
  rcases List.mem_append.1 mem with mem | mem
  · obtain ⟨_, -, rfl⟩ := List.mem_map.1 mem
    decide
  · cases List.mem_singleton.1 mem
    decide

/-- The script that closes a module brings on what is cheaper than to close it. -/
theorem rank_lt_of_teardown {handle : Handle} {script : Script} {task : Task}
    (mem : task ∈ Frame.tasks (.script (.teardown handle) script)) :
    task.rank < Task.close.rank := by
  rcases List.mem_append.1 mem with mem | mem
  · obtain ⟨_, -, rfl⟩ := List.mem_map.1 mem
    decide
  · cases List.mem_singleton.1 mem
    decide

/-- On top of a load that begins there is less room. -/
theorem room_lt {job : Job} (begins : frame.job? = some job)
    (fits : (jobs (frame :: below)).length ≤ limit) :
    room limit (frame :: below) < room limit below := by
  have more : (jobs (frame :: below)).length = (jobs below).length + 1 := by
    rw [jobs, List.filterMap_cons, begins]
    rfl
  unfold room
  omega

theorem tasks_ne_nil (stage : Stage) : stage.tasks ≠ [] := by
  cases stage with
  | loadingBulk todo opened => simp [Stage.tasks]
  | openedName load path outcome => cases outcome <;> exact List.cons_ne_nil _ _
  | _ => exact List.cons_ne_nil _ _

/-- A lookup that begins a load leaves less room above it, and so all that is left to do there is
cheaper. -/
theorem cheaper_of_begins {job : Job} (ready : stage.ready = true)
    (begins : after.job? key = some job)
    (fits : (jobs (.lookup key style after :: below)).length ≤ limit) :
    Cheaper (bill limit (.lookup key style after :: below))
      (bill limit (.lookup key style stage :: below)) := by
  have idle : Frame.job? (.lookup key style stage) = none := Stage.job?_of_ready ready
  rw [bill_of_idle idle, bill_cons]
  exact .of_room (tasks_ne_nil stage) (room_lt begins fits)

variable {host : Host} {me : ThreadId} {w : World} {turn : Turn} {ran : Section}

/-- A lock section makes the bill of its thread cheaper, or it puts a lookup that was woken back to
wait. -/
theorem cheaper_of_locked (runs : stage.lockSection? host me key w.state = some ran)
    (shaped : Shaped (.lookup key style stage :: below))
    (fits : w.state.isShutDown = false →
      (afterSection w key style below ran).thread.jobs.length ≤ limit)
    (late : w.state.isShutDown = true → limit = 0) :
    Cheaper ((afterSection w key style below ran).thread.bill limit)
        (bill limit (.lookup key style stage :: below)) ∨
      (afterSection w key style below ran).thread.bill limit =
        bill limit (.lookup key style stage :: below) ∧
        (afterSection w key style below ran).wakes = false ∧
          woken (.lookup key style stage :: below) = true ∧
            (afterSection w key style below ran).thread.woken = false := by
  obtain ⟨goes, asleep⟩ := Section.goesOn runs
  generalize onward : ran.next = next at goes
  cases goes with
  | answers result =>
    left
    rw [(afterSection_answer w key style below onward).1, shaped.bill_below (by simp), bill_cons]
    exact .of_done (List.append_ne_nil_of_right_ne_nil _ (tasks_ne_nil stage))
  | @waits _ after ready parked =>
    have idle : Frame.job? (.lookup key style stage) = none := Stage.job?_of_ready ready
    have idle' : Frame.job? (.lookup key style after) = none := Stage.job?_of_parked parked key
    rw [afterSection_stage onward, bill_of_idle idle, bill_of_idle idle', Frame.tasks, Frame.tasks,
      Stage.tasks_of_parked parked]
    cases stage with
    | entering => exact .inl (.of_cons .decide [.leave] [] (.refl _) (by decide))
    | awaitingBulk woken => exact .inr ⟨rfl, asleep ready, ready, Stage.woken_of_parked parked⟩
    | awaitingLoad load woken => exact .inr ⟨rfl, asleep ready, ready, Stage.woken_of_parked parked⟩
    | loadingBulk _ _ | closingBulk | loadingName _ _ | openedName _ _ _ | closingName _ _ =>
      cases ready
  | loads ready up valid =>
    have fits := fits up
    rw [afterSection_stage onward] at fits ⊢
    exact .inl (cheaper_of_begins ready rfl fits)
  | lists paths ready up =>
    have fits := fits up
    rw [afterSection_stage onward] at fits ⊢
    exact .inl (cheaper_of_begins ready rfl fits)
  | @closesBulk opened down =>
    left
    rw [afterSection_discard onward, bill_push rfl, bill_cons, late down, room, room, Nat.zero_sub,
      Nat.zero_sub]
    exact .of_discard (opened.map fun _ => .close)
  | closesName failure =>
    left
    rw [afterSection_discard onward, bill_push rfl, bill_cons, room_lookup, room_lookup]
    exact .of_discard [.close]

/-- A turn makes the bill of its thread cheaper, or it puts a lookup that was woken back to wait.
When it begins a load there was room for it, and after shutdown there is none. -/
theorem Effect.cheaper (h : Effect host me w turn thread) (shaped : thread.Shaped)
    (fits : w.state.isShutDown = false → turn.thread.jobs.length ≤ limit)
    (late : w.state.isShutDown = true → limit = 0)
    (still : turn.world.state.isShutDown = w.state.isShutDown) :
    Cheaper (turn.thread.bill limit) (thread.bill limit) ∨
      turn.thread.bill limit = thread.bill limit ∧ turn.wakes = false ∧ thread.woken = true ∧
        turn.thread.woken = false := by
  cases h with
  | act back _ =>
    left
    rw [back, bill_of_idle rfl, bill_of_idle rfl, Frame.tasks_script]
    exact .of_cons .act [] _ (.refl _) nofun
  | call request called _ =>
    left
    rw [called, bill_push rfl, bill_of_idle rfl, room_of_idle rfl, Frame.tasks_script]
    exact .of_cons .act [.serve] _ (.refl _) (by decide)
  | seek key style _ began _ =>
    left
    rw [began, bill_of_idle rfl, bill_of_idle rfl]
    exact .of_cons .serve [.decide] [] (.refl _) (by decide)
  | serve _ back _ _ =>
    left
    rw [back, shaped.bill_below (by simp), bill_cons]
    exact .of_done (List.cons_ne_nil _ _)
  | shut _ back _ _ _ _ =>
    left
    rw [back, shaped.bill_below (by simp), bill_cons]
    exact .of_done (List.cons_ne_nil _ _)
  | release _ _ _ state _ open' _ =>
    rw [state, LoaderState.isShutDown, LoaderState.isShutDown, open'] at still
    cases still
  | @init key style stage after below pending script opening began _ =>
    left
    rw [began, bill_push rfl, bill_cons, tasks_of_opening? opening, room_lookup, room_lookup,
      Stage.job?_of_opening? opening]
    exact .of_cons .load _ _ (.refl _) fun task => rank_lt_of_init
  | @refused key style stage after below path failure opening told _ =>
    have opens := Stage.opens_of_opening? opening
    left
    rw [told, bill_cons, bill_cons, tasks_of_opening? opening, room_lookup, room_lookup,
      Stage.job?_told opens, Stage.job?_of_opening? opening]
    exact .of_cons .load [] _ (tasks_told opens _) nofun
  | @opened pending key style stage below opens told _ _ _ _ =>
    left
    rw [told, bill_push rfl, bill_cons, room_lookup, room_lookup, Stage.job?_told opens]
    refine .of_cons .settle _ _ (tasks_told opens _) fun task mem => ?_
    obtain ⟨_, -, rfl⟩ := List.mem_map.1 mem
    decide
  | locked ran runs eq =>
    rw [eq] at fits ⊢
    exact cheaper_of_locked runs shaped fits late
  | close upper report' script closes _ =>
    left
    rw [closes, bill_of_idle rfl, Frame.tasks_closing]
    rcases script with rfl | ⟨script, rfl⟩
    · rw [List.nil_append, bill_of_idle rfl]
      exact .of_cons .close [] _ (.refl _) nofun
    · rw [List.singleton_append, bill_push rfl, room_of_idle rfl]
      exact .of_cons .close _ _ (.refl _) fun task => rank_lt_of_teardown
  | closed report' back _ =>
    left
    rw [back, bill_push rfl, bill_of_idle rfl, room_of_idle rfl]
    exact .of_cons .leave [] _ (.refl _) nofun
  | finish back _ =>
    left
    rw [back, shaped.bill_below (by simp), bill_cons]
    exact .of_done (List.cons_ne_nil _ _)

end Thread

/-! ## Machines -/

namespace Cheaper

variable {before after before' after' : List Nat}

/-- What is common to two bills does not matter, nor does their order. -/
theorem of_common (h : Cheaper after before) {others : List Nat}
    (was : before'.Perm (before ++ others)) (is : after'.Perm (after ++ others)) :
    Cheaper after' before' := by
  obtain ⟨kept, gained, spent, some, rfl', rfl'', less⟩ := h
  refine ⟨kept + others, gained, spent, some, ?_, ?_, less⟩
  · rw [Multiset.coe_eq_coe.2 is, ← Multiset.coe_add, rfl', add_right_comm]
  · rw [Multiset.coe_eq_coe.2 was, ← Multiset.coe_add, rfl'', add_right_comm]

end Cheaper

namespace Machine

/-- How many loads a stack may come to have; after shutdown none begins. -/
def limit (bound : Nat) (m : Machine) : Nat :=
  if m.world.state.isShutDown then 0 else bound

/-- What is left to do: a shutdown, the tasks of all threads, and the lookups that were woken. -/
def workload (bound : Nat) (m : Machine) : Nat × Multiset Nat × Nat :=
  (if m.world.state.isShutDown then 0 else 1,
    m.threads.flatMap (Thread.bill (m.limit bound)), m.threads.countP Thread.woken)

/-- There is less left to do. -/
def Lighter : Nat × Multiset Nat × Nat → Nat × Multiset Nat × Nat → Prop :=
  Prod.Lex (· < ·) (Prod.Lex Multiset.IsDershowitzMannaLT (· < ·))

theorem wellFounded_lighter : WellFounded Lighter :=
  Nat.lt_wfRel.wf.prod_lex (Multiset.wellFounded_isDershowitzMannaLT.prod_lex Nat.lt_wfRel.wf)

variable {hosts : Set Host} {modes : PerKind SearchMode} {m next : Machine} {history : History}
  {host : Host} {me : ThreadId} {turn : Turn} {bound : Nat}

/-- A lookup that is put back to wait is one less that was woken. -/
theorem Takes.countP_woken (takes : Takes host m me turn next) (asleep : turn.wakes = false)
    (woken : (m.thread me).woken = true) (parked : turn.thread.woken = false) :
    next.threads.countP Thread.woken < m.threads.countP Thread.woken := by
  have lt := takes.lt
  have self : m.threads[me] = m.thread me := by
    simp [Machine.thread, List.getElem?_eq_getElem lt]
  have some : 0 < m.threads.countP Thread.woken :=
    List.countP_pos_iff.2 ⟨_, self ▸ List.getElem_mem lt, woken⟩
  have others : next.threads = m.threads.set me turn.thread := by
    rw [takes.threads, asleep]
    exact List.map_id _
  rw [others, List.countP_set lt, self, woken, parked]
  exact Nat.sub_lt some Nat.one_pos

/-- After a turn there is less left to do. -/
theorem Takes.lighter (takes : Takes host m me turn next) (shaped : (m.thread me).Shaped)
    (fits : turn.thread.jobs.length ≤ bound) :
    Lighter (next.workload bound) (m.workload bound) := by
  by_cases still : next.world.state.isShutDown = m.world.state.isShutDown
  · have same : next.limit bound = m.limit bound := by rw [limit, limit, still]
    have room : m.world.state.isShutDown = false → turn.thread.jobs.length ≤ m.limit bound := by
      intro up
      rwa [limit, up]
    have late : m.world.state.isShutDown = true → m.limit bound = 0 := by
      intro down
      rw [limit, down]
      rfl
    obtain ⟨others, was, is⟩ := takes.flatMap_others (Thread.bill (m.limit bound)) (by simp)
    rw [workload, workload, still, same]
    refine .right _ ?_
    rcases takes.effect.cheaper shaped room late (takes.world ▸ still) with
      cheaper | ⟨equal, asleep, woken, parked⟩
    · exact .left _ _ (cheaper.of_common was is)
    · rw [Multiset.coe_eq_coe.2 was, Multiset.coe_eq_coe.2 is, equal]
      exact .right _ (takes.countP_woken asleep woken parked)
  · have stays := (Thread.turn_balance takes.effect).down
    rw [← takes.world] at stays
    have up : m.world.state.isShutDown = false :=
      Bool.eq_false_iff.2 fun down => still ((stays down).trans down.symm)
    rw [up, Bool.not_eq_false] at still
    rw [workload, workload, up, still]
    exact .left _ _ Nat.one_pos

/-! ## Sequences of turns -/

/-- A machine comes of another one by a turn of one of its threads, with one of the hosts. -/
def Follows (hosts : Set Host) (next m : Machine) : Prop :=
  ∃ host ∈ hosts, ∃ me, m.step host me = some next

/-- There is no infinite sequence of turns. -/
theorem Traced.accessible (h : Traced hosts modes m history)
    (finite : (validKeys hosts).Finite) : Acc (Follows hosts) m := by
  generalize eq : m.workload ((validKeys hosts).ncard + (bulkKinds modes).length) = load
  induction load using wellFounded_lighter.induction generalizing m history with
  | _ load ih =>
    subst eq
    refine .intro m fun next ⟨host, mem, me, taken⟩ => ?_
    have sound := h.reachable.sound
    obtain ⟨turn, takes⟩ := step_takes sound taken
    have after : Traced hosts modes next (⟨m, me, next⟩ :: history) := h.step mem taken
    have fits := after.length_jobs_le finite me
    rw [takes.thread_self, Thread.jobs_wakeIf] at fits
    exact ih _ (takes.lighter (sound.shaped me takes.lt) fits) after rfl

/-- No thread can take a turn if none is ready. -/
theorem step_of_not_ready (idle : m.ready? host = none) (t : ThreadId) : m.step host t = none := by
  by_cases lt : t < m.threads.length
  · have stuck := List.find?_range_eq_none.1 idle t lt
    simpa using stuck
  · rw [step, List.getElem?_eq_none (Nat.le_of_not_lt lt)]

/-- Threads that run until none can go on come to an end. -/
theorem exists_settled (acc : Acc (Follows hosts) m) (mem : host ∈ hosts) :
    ∃ turns, ∀ t, (m.settle host turns).step host t = none := by
  induction acc with
  | intro m _ ih =>
    cases ready : m.ready? host with
    | none => exact ⟨0, step_of_not_ready ready⟩
    | some me =>
      have found := ready
      rw [ready?] at found
      have goes := List.find?_some found
      obtain ⟨next, taken⟩ := Option.isSome_iff_exists.1 goes
      obtain ⟨turns, stuck⟩ := ih next ⟨host, mem, me, taken⟩
      refine ⟨turns + 1, ?_⟩
      rw [settle, ready]
      simpa only [taken, Option.getD_some] using stuck

/-! ## The contract -/

/-- Loading terminates.  There is no infinite sequence of turns, whichever threads take them; so
threads that run until none can go on come to an end, and then all calls have returned, unless a
module stands at a closed gate.  No key is being loaded by name twice on a stack, and no kind is
being loaded as a whole; so no more modules are being opened on a stack than there are keys with a
file and kinds that are loaded as a whole. -/
structure Terminates (hosts : Set Host) (modes : PerKind SearchMode) (m : Machine) : Prop where
  finite : Acc (Follows hosts) m
  returns : ∀ host ∈ hosts, ∃ turns, (∀ t, (m.settle host turns).step host t = none) ∧
    ((∀ t, ¬ ((m.settle host turns).thread t).HeldInModule (m.settle host turns).world) →
      ∀ t < (m.settle host turns).threads.length, ((m.settle host turns).thread t).Returned)
  keys : ∀ t, (m.thread t).loadingKeys.Nodup
  kinds : ∀ t, (m.thread t).loadingKinds.Nodup
  nested : ∀ t, (m.thread t).openings.length ≤
    (validKeys hosts).ncard + (bulkKinds modes).length

/-- With finitely many keys for which there is a file, loading terminates. -/
theorem Traced.terminates (h : Traced hosts modes m history)
    (finite : (validKeys hosts).Finite) : Terminates hosts modes m := by
  have sound := h.reachable.sound
  have acc := h.accessible finite
  constructor
  · exact acc
  · intro host mem
    obtain ⟨turns, stuck⟩ := exists_settled acc mem
    obtain ⟨schedule, same⟩ := settle_eq_run host turns m
    have sound' : (m.settle host turns).Sound := same ▸ (h.reachable.run mem schedule).sound
    exact ⟨turns, stuck, fun free t lt => sound'.returned_of_stuck stuck free lt⟩
  · exact sound.nodup_loadingKeys
  · exact sound.nodup_loadingKinds
  · intro t
    refine Nat.le_trans ?_ (h.length_jobs_le finite t)
    by_cases lt : t < m.threads.length
    · exact (Nat.le_add_right _ _).trans (sound.shaped t lt).length_openings_le
    · rw [thread_eq_nil (Nat.le_of_not_lt lt)]
      exact Nat.le_refl 0

/-- A host whose modules look each other up while they are opened and closed, and themselves too.
There are files for two names, and one of them has a module that does not register it. -/
def tangledHost : Host :=
  let lookup (kind : Kind) (name : String) : Action := .request (.tryGet ⟨kind, name⟩)
  let registers (kind : Kind) (name : String) : Action :=
    .registrar (.checked ⟨kind, name⟩ (.word 7))
  let opening (path : Path) : Opening :=
    if path = .ofText "a" then
      .run [lookup .filter "a", lookup .converter "c", registers .filter "a"] none (.run [] none)
    else if path = .ofText "b" then
      .run [lookup .filter "a", lookup .filter "b"] none
        (.run [lookup .filter "b", lookup .filter "a"] none)
    else .run [lookup .filter "b", registers .converter "c"] none (.run [lookup .filter "b"] none)
  ⟨⟨fun kind name => ⟨.ofText name, kind = .filter ∧ (name = "a" ∨ name = "b")⟩,
    fun _ => [.ofText "c"]⟩, ⟨opening⟩, .release⟩

theorem finite_tangledHost : (validKeys {tangledHost}).Finite := by
  refine (Set.toFinite {⟨.filter, "a"⟩, ⟨.filter, "b"⟩}).subset ?_
  rintro ⟨kind, name⟩ ⟨host, rfl, valid⟩
  obtain ⟨rfl, rfl | rfl⟩ := of_decide_eq_true valid
  · exact .inl rfl
  · exact .inr rfl

/-- A thread looks up a name, and has come to open the third module. -/
def tangledRun : Machine × History :=
  ((Machine.initial SearchMode.defaults).spawn
    [.request (.tryGet ⟨.filter, "a"⟩), .request .shutdown]).runWith History.note tangledHost
      (List.replicate 15 0) []

/-- The modules are nested as deeply as they may be, and the calls return all the same. -/
theorem terminates_tangledRun :
    (validKeys {tangledHost}).Finite ∧
      Terminates {tangledHost} SearchMode.defaults tangledRun.1 ∧
        (tangledRun.1.thread 0).openings.length = 3 ∧
          (tangledRun.1.settle tangledHost 40).thread 0 = [.script .program []] := by
  have traced : Traced {tangledHost} SearchMode.defaults tangledRun.1 tangledRun.2 :=
    (Recorded.initial.spawn _).runWith (Set.mem_singleton tangledHost) _
  exact ⟨finite_tangledHost, traced.terminates finite_tangledHost, by rfl, by rfl⟩

end Machine
end PluginHost
