import PluginHost.Proofs.InProgress
import PluginHost.Proofs.Linearizable

/-!
# Failures of loads that are over

The failure of a load by name is kept for the lookups that waited for the load, and nothing
but the next load of the key discards it.  A lookup looks for it whenever it has been woken,
for whatever reason.  This module says that no lookup is told of a load that was over before
the lookup began: a failure that it returns is what it finds itself in the state behind the
lock, or that of a load of its key that ended while the lookup was under way.

Main results:

- Theorem `Machine.Takes.failing_of_onRecord`: a failure comes on record in the step that ends
  its load.
- Theorem `Machine.Traced.failing_of_underway`: a failure that a lookup finds on record under the
  number of the load it waits for came there while the lookup was under way.
- Theorem `Machine.Traced.underway`: a lookup that answers has been under way since it began.
- Theorem `LoaderState.enter_of_idle`: a lookup that begins when no load of its key is in progress
  begins one, whatever failures are on record.
- Theorem `Machine.Traced.freshFailures`: failures are never served from a load that is over.
-/

namespace PluginHost

/-! ## What a lookup finds itself -/

/-- What a lookup of a key may find wrong in the state in which it has the lock, and the failure
with which it then answers. -/
inductive Section.Finds (hosts : Set Host) (me : ThreadId) (key : Key) (s : LoaderState)
    (ran : Section) : LoadError → Prop
  | nameless (empty : key.name.isEmpty = true) :
      Finds hosts me key s ran (.invalidArgument .emptyName)
  | down (down : s.isShutDown = true) : Finds hosts me key s ran .shutDown
  | absent (unnamed : s.modes.get key.kind ≠ .byName) :
      Finds hosts me key s ran (.notFound (.notProvided key.kind key.name))
  | mine {load : Nat} (busy : s.owner? (.name key load) = some me) :
      Finds hosts me key s ran (.notFound (.loadingHere key.kind key.name))
  | refused {owner : ThreadId} (refuses : ran.Refuses key s owner) :
      Finds hosts me key s ran (.notFound (.loadingByWaiter key.kind key.name))
  | invalid {host : Host} (mem : host ∈ hosts)
      (invalid : (host.resolver.one key.kind key.name).valid = false) :
      Finds hosts me key s ran (.notFound (.noValidFile key.kind key.name
        (host.resolver.one key.kind key.name).path))

namespace LoaderState

variable {host : Host} {me : ThreadId} {key : Key} {s : LoaderState}

/-- A table that exists is not created again. -/
theorem touch_touch (s : LoaderState) (kind : Kind) : (s.touch kind).touch kind = s.touch kind := by
  cases kind <;> rfl

/-- A lookup of a kind that is searched by name asks for the file of its key when the key is not
registered and no load of it is in progress.  If there is a file to open it begins a load, and it
does not look at the failures on record. -/
theorem enter_eq_of_idle (named : key.name.isEmpty = false) (up : s.isShutDown = false)
    (wf : s.Wf) (mode : s.modes.get key.kind = .byName)
    (unregistered : s.registry.find? key = none) (idle : Assoc.find? key s.byName = none) :
    s.enter host me key =
      if (host.resolver.one key.kind key.name).valid then
        ⟨(s.touch key.kind).startLoad me key,
          .stage (.loadingName s.nextLoad (host.resolver.one key.kind key.name).path),
          [.resolvedOne key], false⟩
      else
        ⟨s.touch key.kind,
          .answer (.error (.notFound (.noValidFile key.kind key.name
            (host.resolver.one key.kind key.name).path))), [.resolvedOne key], false⟩ := by
  have noBulk : s.bulk.get key.kind = none := by
    cases mark : s.bulk.get key.kind with
    | none => rfl
    | some owner =>
      rw [wf.bulkMode key.kind owner mark] at mode
      cases mode
  have searched : (s.touch key.kind).registry.find? key = none := by
    rw [(s.akin_touch key.kind).find?]
    exact unregistered
  have entered : s.enter host me key = (s.touch key.kind).search host me key := by
    have noLoadAll : (s.touch key.kind).modes.get key.kind ≠ .loadAll := by
      rw [(s.akin_touch key.kind).modes, mode]
      exact nofun
    have noBulk' : (s.touch key.kind).bulk.get key.kind = none := noBulk
    rw [enter, if_neg (by simp [named]), if_neg (by simp [up])]
    show (s.touch key.kind).settle host me key = _
    rw [settle, noBulk']
    exact if_neg noLoadAll
  have mode' : (s.touch key.kind).modes.get key.kind = .byName := mode
  have idle' : Assoc.find? key (s.touch key.kind).byName = none := idle
  rw [entered, search_eq, searched, mode', idle', s.touch_touch]
  rfl

/-- A lookup that begins when no load of its key is in progress begins one, if there is a file to
open. -/
theorem enter_of_idle (named : key.name.isEmpty = false) (up : s.isShutDown = false)
    (wf : s.Wf) (mode : s.modes.get key.kind = .byName)
    (unregistered : s.registry.find? key = none) (idle : Assoc.find? key s.byName = none)
    (valid : (host.resolver.one key.kind key.name).valid = true) :
    (s.enter host me key).next =
      .stage (.loadingName s.nextLoad (host.resolver.one key.kind key.name).path) := by
  rw [enter_eq_of_idle named up wf mode unregistered idle, if_pos valid]

end LoaderState

/-! ## The frame of a lookup -/

namespace Thread

/-- On top of `below` stands a lookup of a key. -/
def Calls (thread : Thread) (key : Key) (below : Thread) : Prop :=
  ∃ upper style stage, thread = upper ++ .lookup key style stage :: below

variable {host : Host} {me : ThreadId} {w : World} {turn : Turn} {frame : Frame}
  {thread below : Thread} {key : Key}

theorem calls_cons :
    Calls (frame :: thread) key below ↔
      (∃ style stage, frame = .lookup key style stage ∧ thread = below) ∨
        thread.Calls key below := by
  constructor
  · rintro ⟨upper, style, stage, stack⟩
    cases upper with
    | nil =>
      obtain ⟨rfl, rfl⟩ := List.cons.inj stack
      exact .inl ⟨style, stage, rfl, rfl⟩
    | cons top upper =>
      obtain ⟨rfl, rfl⟩ := List.cons.inj stack
      exact .inr ⟨upper, style, stage, rfl⟩
  · rintro (⟨style, stage, rfl, rfl⟩ | ⟨upper, style, stage, rfl⟩)
    · exact ⟨[], style, stage, rfl⟩
    · exact ⟨frame :: upper, style, stage, rfl⟩

@[simp]
theorem calls_script {role : Role} {rest : Script} :
    Calls (.script role rest :: thread) key below ↔ thread.Calls key below := by
  simp [calls_cons]

@[simp]
theorem calls_request {request : Request} :
    Calls (.request request :: thread) key below ↔ thread.Calls key below := by
  simp [calls_cons]

@[simp]
theorem calls_closing {reason : CloseReason} {todo : List Handle} {report : ReleaseReport} :
    Calls (.closing reason todo report :: thread) key below ↔ thread.Calls key below := by
  simp [calls_cons]

/-- Which stage a lookup has reached does not matter. -/
theorem calls_lookup_iff {other : Key} {style style' : Style} {stage stage' : Stage} :
    Calls (.lookup other style stage :: thread) key below ↔
      Calls (.lookup other style' stage' :: thread) key below := by
  simp [calls_cons]

@[simp]
theorem calls_wakeIf {wakes : Bool} :
    (thread.wakeIf wakes).Calls key below ↔ thread.Calls key below := by
  cases wakes with
  | false => rfl
  | true =>
    simp only [wakeIf, if_true]
    unfold wake
    split
    · exact calls_lookup_iff
    · exact calls_lookup_iff
    · rfl

/-- A lookup comes on a stack by beginning. -/
theorem Effect.calls (h : Effect host me w turn thread) (stands : turn.thread.Calls key below) :
    thread.Calls key below ∨ ∃ style, turn.thread = .lookup key style .entering :: below := by
  cases h with
  | act back _ =>
    rw [back] at stands
    exact .inl (by simpa using stands)
  | call request called _ =>
    rw [called] at stands
    exact .inl (by simpa using stands)
  | seek other style _ began _ =>
    rw [began, calls_cons] at stands
    rcases stands with ⟨style', stage, top, rfl⟩ | old
    · cases top
      exact .inr ⟨style, began⟩
    · exact .inl (calls_request.2 old)
  | serve _ back _ _ =>
    rw [back] at stands
    exact .inl (calls_request.2 stands)
  | shut _ back _ _ _ _ =>
    rw [back] at stands
    exact .inl (calls_request.2 stands)
  | release _ closes _ _ _ _ _ =>
    rw [closes] at stands
    exact .inl (by simpa using stands)
  | init pending script _ began _ =>
    rw [began, calls_script] at stands
    exact .inl (calls_lookup_iff.1 stands)
  | refused failure _ told _ =>
    rw [told] at stands
    exact .inl (calls_lookup_iff.1 stands)
  | opened _ told _ _ _ _ =>
    rw [told] at stands
    exact .inl (calls_script.2 (calls_lookup_iff.1 stands))
  | @locked other style stage rest ran runs eq =>
    subst eq
    refine .inl ?_
    cases next : ran.next with
    | answer result =>
      rw [(afterSection_answer w other style rest next).1] at stands
      exact calls_cons.2 (.inr stands)
    | stage after =>
      rw [afterSection_stage next] at stands
      exact calls_lookup_iff.1 stands
    | discard handles after =>
      rw [afterSection_discard next, calls_closing] at stands
      exact calls_lookup_iff.1 stands
  | close upper _ script closes _ =>
    rw [closes] at stands
    rcases script with rfl | ⟨_, rfl⟩
    · exact .inl (by simpa using stands)
    · exact .inl (by simpa using stands)
  | closed _ back _ =>
    rw [back] at stands
    exact .inl (by simpa using stands)
  | finish back _ =>
    rw [back] at stands
    exact .inl (calls_closing.2 stands)

/-- A lookup that waits is the frame on top. -/
theorem eq_of_awaited {load : Nat} (h : thread.awaited? = some (.name key load)) :
    ∃ style woken rest, thread = .lookup key style (.awaitingLoad load woken) :: rest := by
  unfold awaited? at h
  split at h
  · next other style stage rest =>
    cases stage with
    | awaitingLoad number woken =>
      cases h
      exact ⟨style, woken, rest, rfl⟩
    | entering | awaitingBulk _ | loadingBulk _ _ | closingBulk | loadingName _ _
    | openedName _ _ _ | closingName _ _ => cases h
  · cases h

/-- The file of a load by name that has begun is what the thread asks the linker for next. -/
theorem opened_of_loadingName (host : Host) (me : ThreadId) (w : World) (key : Key)
    (style : Style) (load : Nat) (path : Path) (below : Thread) :
    ∃ turn, Thread.turn host me w (.lookup key style (.loadingName load path) :: below) =
      some turn ∧ .opened path ∈ turn.events := by
  refine ⟨_, rfl, ?_⟩
  simp only [beginOpening]
  split
  · simp [deliver]
  · simp
  · split <;> simp [deliver]

end Thread

namespace Machine

variable {hosts : Set Host} {modes : PerKind SearchMode} {m next : Machine}
  {history during earlier : History} {host : Host} {me t u : ThreadId} {turn : Turn} {step : Step}
  {key : Key} {load : Nat} {job : Job} {below : Thread} {style : Style} {woken : Bool}
  {ran : Section} {failure : LoadError}

/-! ## Failures that come on record -/

/-- A failure comes on record in the step that ends its load. -/
theorem Takes.failing_of_onRecord (takes : Takes host m me turn next)
    (recorded : next.OnRecord key load failure) :
    m.OnRecord key load failure ∨ (m.thread me).failing? = some (key, load, failure) := by
  unfold OnRecord at recorded ⊢
  cases takes.nameMove key with
  | rest _ failed => exact .inl (failed ▸ recorded)
  | begins _ _ _ _ fresh =>
    rw [fresh] at recorded
    cases recorded
  | succeeds _ _ failed => exact .inl (failed ▸ recorded)
  | fails failing _ =>
    obtain ⟨⟨other, number, reason⟩, ends, same⟩ := Option.map_eq_some_iff.1 failing
    cases same
    obtain ⟨style, rest, events, turned⟩ := Thread.turn_of_failing host me m.world ends
    obtain ⟨-, taken, took, world, -⟩ := step_eq takes.taken
    rw [turned, Option.some.injEq] at took
    rw [world, ← took, (Thread.afterSection_answer _ _ _ _ rfl).2.1] at recorded
    rcases LoaderState.find?_failures_finishLoad recorded with old | ⟨-, rfl, same⟩
    · exact .inl old
    · cases same
      exact .inr ends

/-- A thread whose turn leaves it waiting waits for a load in progress. -/
theorem Takes.busy_of_awaited (takes : Takes host m me turn next) (sound : m.Sound)
    (awaits : (next.thread me).awaited? = some job) :
    ∃ owner, next.world.state.owner? job = some owner := by
  obtain ⟨lt, took, turned, world, threads, -⟩ := step_eq takes.taken
  obtain ⟨move, -⟩ := Thread.turn_move (sound.shaped me lt)
    sound.coherent.waiting.find?_eq_none turned
  rw [threads, moved_self, Thread.awaited?_wakeIf] at awaits
  rw [world]
  exact move.busy_of_awaited awaits

/-- A failure that a lookup finds on record under the number of the load that it waits for came
there while the lookup was under way. -/
theorem Traced.failing_of_underway (h : Traced hosts modes step.before (during ++ earlier))
    (underway : Underway t key below (step :: during))
    (waits : step.before.thread t = .lookup key style (.awaitingLoad load woken) :: below)
    (recorded : step.before.OnRecord key load failure) :
    ∃ ends ∈ during, (ends.before.thread ends.thread).failing? = some (key, load, failure) := by
  -- Along the window: when the wait begins the load is in progress, and nothing is on record.
  induction during generalizing step style woken with
  | nil =>
    cases underway with
    | begins style top =>
      rw [waits] at top
      cases top
    | goesOn before _ _ _ _ => cases before
  | cons last during ih =>
    cases underway with
    | goesOn before _ _ _ _ =>
      obtain ⟨traced, host, mem, turn, takes⟩ := h.last_takes
      have sound := traced.reachable.sound
      have stack : last.after.thread t =
          .lookup key style (.awaitingLoad load woken) :: below := by
        rcases h.thread_eq t with same | ⟨-, script, started⟩
        · rw [← same, waits]
        · rw [started] at waits
          cases waits
      have recorded' : last.after.OnRecord key load failure := by
        unfold OnRecord at recorded ⊢
        rwa [← h.state_eq]
      have awaits : (last.after.thread t).awaited? = some (.name key load) := by
        rw [stack]
        rfl
      rcases takes.failing_of_onRecord recorded' with old | ends
      · by_cases ht : t = last.thread
        · subst ht
          obtain ⟨owner, busy⟩ := takes.busy_of_awaited sound awaits
          have after := sound.change (.step mem takes.taken)
          have unfailed := after.coherent.wf.unfailed key _ ((LoaderState.owner?_name ..).1 busy)
          unfold OnRecord at recorded'
          rw [unfailed] at recorded'
          cases recorded'
        · rw [takes.thread_of_ne ht] at awaits stack
          rw [Thread.awaited?_wakeIf] at awaits
          obtain ⟨style', woken', rest, waits'⟩ := Thread.eq_of_awaited awaits
          obtain rfl : rest = below := by
            rw [waits'] at stack
            cases wakes : turn.wakes <;> rw [wakes] at stack <;> exact (List.cons.inj stack).2
          obtain ⟨ends, mem, failing⟩ := ih traced before waits' old
          exact ⟨ends, List.mem_cons_of_mem _ mem, failing⟩
      · exact ⟨last, List.mem_cons_self, ends⟩

/-! ## How long a lookup has been under way -/

/-- A lookup that is on the stack has just begun there, or the steps since it began are the last
ones of the history. -/
theorem Traced.underway_of_calls (h : Traced hosts modes m history)
    (stands : (m.thread t).Calls key below) :
    (∃ style, m.thread t = .lookup key style .entering :: below) ∨
      ∃ during earlier, history = during ++ earlier ∧ Underway t key below during := by
  refine h.invariant (P := fun m history => ∀ t key below, (m.thread t).Calls key below →
    (∃ style, m.thread t = .lookup key style .entering :: below) ∨
      ∃ during earlier, history = during ++ earlier ∧ Underway t key below during) ?_ ?_ ?_
    t key below stands
  · rintro t key below ⟨upper, style, stage, stack⟩
    rw [thread_eq_nil (Nat.zero_le t)] at stack
    simp at stack
  · intro m next history known untouched t key below stands
    rcases untouched.thread t with same | ⟨-, script, started⟩
    · rw [same] at stands ⊢
      exact known t key below stands
    · rw [started, Thread.calls_script] at stands
      obtain ⟨upper, style, stage, stack⟩ := stands
      simp at stack
  · intro m next history host me turn _ known _ takes t key below stands
    -- A lookup that was there before the step goes on with it.
    have goesOn : (m.thread t).Calls key below →
        (∃ style, m.thread t = .lookup key style .entering :: below) ∨
          ∃ during earlier, (⟨m, me, next⟩ :: history : History) = during ++ earlier ∧
            Underway t key below during := by
      intro old
      rcases known t key below old with entering | ⟨during, earlier, rfl, before⟩
      · exact .inl entering
      · obtain ⟨upper, style, stage, stack⟩ := old
        exact .inr ⟨_ :: during, earlier, rfl, before.goesOn upper style stage stack⟩
    by_cases ht : t = me
    · subst ht
      rw [takes.thread_self, Thread.calls_wakeIf] at stands
      rcases takes.effect.calls stands with old | ⟨style, entering⟩
      · rcases goesOn old with ⟨style, entering⟩ | before
        · exact .inr ⟨[_], history, rfl, .begins style entering⟩
        · exact .inr before
      · refine .inl ⟨style, ?_⟩
        rw [takes.thread_self, entering]
        cases turn.wakes <;> rfl
    · rw [takes.thread_of_ne ht, Thread.calls_wakeIf] at stands
      rcases goesOn stands with ⟨style, entering⟩ | before
      · refine .inl ⟨style, ?_⟩
        rw [takes.thread_of_ne ht, entering]
        cases turn.wakes <;> rfl
      · exact .inr before

/-- When no thread can go on and none is held up in a module, a thread that took a turn once is in no
lookup. -/
theorem Traced.not_calls_of_stuck (h : Traced hosts modes m history) (mem : step ∈ history)
    (stuck : ∀ t, m.step host t = none) (free : ∀ t, ¬ (m.thread t).HeldInModule m.world) :
    ¬ (m.thread step.thread).Calls key below := by
  obtain ⟨_, -, turn, takes⟩ := h.exists_takes mem
  have lt := takes.lt.trans_le (h.length_before_le mem)
  obtain ⟨rest, returned⟩ := h.reachable.sound.returned_of_stuck stuck free lt
  rw [returned, Thread.calls_script]
  rintro ⟨upper, style, stage, stack⟩
  simp at stack

/-- A lookup has been under way since it began. -/
theorem Traced.underway {stage : Stage} (h : Traced hosts modes step.before history)
    (top : step.before.thread t = .lookup key style stage :: below) :
    ∃ during earlier, history = during ++ earlier ∧ Underway t key below (step :: during) := by
  rcases h.underway_of_calls ⟨[], style, stage, top⟩ with
    ⟨style', entering⟩ | ⟨during, earlier, all, before⟩
  · exact ⟨[], history, rfl, .begins style' entering⟩
  · exact ⟨during, earlier, all, before.goesOn [] style stage top⟩

/-- A load that a thread carries out was there at the first of the last steps, or began in one of
them. -/
theorem Traced.exists_starts_since {first : Step}
    (h : Traced hosts modes step.before (during ++ earlier))
    (last : (step :: during).getLast? = some first) (mem : job ∈ (step.before.thread u).jobs) :
    job ∈ (first.before.thread u).jobs ∨
      ∃ starts ∈ during, starts.thread = u ∧ starts.Starts job := by
  induction during generalizing step with
  | nil =>
    cases last
    exact .inl mem
  | cons latest during ih =>
    obtain ⟨traced, host, -, turn, takes⟩ := h.last_takes
    have carries : job ∈ (latest.after.thread u).jobs := by
      rcases h.thread_eq u with same | ⟨-, script, started⟩
      · rwa [← same]
      · rw [started] at mem
        cases mem
    rcases takes.mem_jobs carries with old | ⟨rfl, starts⟩
    · rw [List.getLast?_cons_cons] at last
      rcases ih traced last old with first | ⟨starts, mem, same, begun⟩
      · exact .inl first
      · exact .inr ⟨starts, List.mem_cons_of_mem _ mem, same, begun⟩
    · exact .inr ⟨latest, List.mem_cons_self, rfl, starts⟩

/-- A load that is in progress during the last steps, when no load of its key was as they began,
has begun in one of them. -/
theorem Traced.starts_of_idle {later : History} {first ends : Step}
    (h : Traced hosts modes m (later ++ step :: (during ++ earlier)))
    (last : (step :: during).getLast? = some first) (idle : first.before.Idle key)
    (mem : ends ∈ step :: during) (carries : .name key load ∈ (ends.before.thread u).jobs) :
    ∃ starts ∈ during, starts.Starts (.name key load) := by
  have sound : first.before.Sound := by
    refine h.sound_before (List.mem_append_right _ ?_)
    rw [← List.cons_append]
    exact List.mem_append_left _ (List.mem_of_getLast? last)
  obtain ⟨recent, since, all⟩ := List.append_of_mem mem
  have cut : Traced hosts modes m ((later ++ recent) ++ ends :: (since ++ earlier)) := by
    rw [← List.cons_append, all] at h
    simpa using h
  have last' : (ends :: since).getLast? = some first := by
    rw [← last, all, List.getLast?_append_of_ne_nil _ (List.cons_ne_nil ends since)]
  rcases cut.split.1.exists_starts_since last' carries with old | ⟨starts, begun, -, starting⟩
  · have busy := (LoaderState.owner?_name ..).1 ((sound.coherent.owned.iff _ u).2 old)
    unfold Idle at idle
    rw [idle] at busy
    cases busy
  · refine ⟨starts, ?_, starting⟩
    cases recent with
    | nil =>
      obtain ⟨-, rfl⟩ := List.cons.inj all
      exact begun
    | cons latest recent =>
      obtain ⟨-, rfl⟩ := List.cons.inj all
      exact List.mem_append_right _ (List.mem_cons_of_mem _ begun)

/-! ## Where failures come from -/

/-- A failure that a lookup answers with is what it finds itself, or that of a load of its key that
ended while it was under way. -/
theorem Traced.failure_origin (h : Traced hosts modes step.before (during ++ earlier))
    (underway : Underway step.thread key below (step :: during))
    (answers : step.Answers hosts key below ran (.error failure)) :
    ran.Finds hosts step.thread key step.before.world.state failure ∨
      ∃ ends ∈ step :: during, ∃ load,
        (ends.before.thread ends.thread).failing? = some (key, load, failure) := by
  have sound := h.reachable.sound
  obtain ⟨host, mem, -, style, stage, top, runs⟩ := answers.runs
  cases Section.answered runs answers.answer with
  | nameless empty => exact .inl (.nameless empty)
  | down down =>
    rcases down with down | closing
    · exact .inl (.down down)
    · subst closing
      have closing : .lookup key style .closingBulk ∈ step.before.thread step.thread := by
        rw [top]
        exact List.mem_cons_self
      exact .inl (.down (h.isShutDown_of_closingBulk closing))
  | absent mode =>
    rcases mode with mode | bulk
    · exact .inl (.absent mode)
    · refine .inl (.absent ?_)
      have busy := sound.coherent.busy_of_job top bulk
      rw [sound.coherent.wf.bulkMode _ _ busy]
      exact nofun
  | @mine load busy own _ =>
    have owned : step.before.world.state.owner? (.name key load.id) = some step.thread := by
      rw [LoaderState.owner?_name, busy, ← own]
    exact .inl (.mine owned)
  | refused refuses => exact .inl (.refused refuses)
  | invalid invalid => exact .inl (.invalid mem invalid)
  | @failed load _ failing =>
    refine .inr ⟨step, List.mem_cons_self, load, ?_⟩
    rw [top]
    exact failing style below
  | @shared load _ waits recorded =>
    rw [waits] at top
    obtain ⟨ends, within, failing⟩ := h.failing_of_underway underway top recorded
    exact .inr ⟨ends, List.mem_cons_of_mem _ within, load, failing⟩

/-- A lookup that begins when no load of its key is in progress begins one, and opens the file
next. -/
theorem Traced.reopens (h : Traced hosts modes m history) (mem : step ∈ history)
    (top : step.before.thread step.thread = .lookup key style .entering :: below)
    (named : key.name.isEmpty = false) (up : step.before.world.state.isShutDown = false)
    (mode : step.before.world.state.modes.get key.kind = .byName)
    (unregistered : step.before.world.state.registry.find? key = none)
    (idle : step.before.Idle key)
    (valid : ∀ host ∈ hosts, (host.resolver.one key.kind key.name).valid = true) :
    ∃ host ∈ hosts,
      step.after.thread step.thread = .lookup key style (.loadingName
        step.before.world.state.nextLoad (host.resolver.one key.kind key.name).path) :: below ∧
      step.Starts (.name key step.before.world.state.nextLoad) ∧
      ∀ host', ∃ turn, (step.after.thread step.thread).turn host' step.thread step.after.world =
        some turn ∧ .opened (host.resolver.one key.kind key.name).path ∈ turn.events := by
  have sound := h.sound_before mem
  obtain ⟨host, among, taken⟩ := h.taken mem
  have next : (step.before.world.state.enter host step.thread key).next = _ :=
    LoaderState.enter_of_idle named up sound.coherent.wf mode unregistered idle (valid host among)
  have runs : Stage.lockSection? host step.thread key step.before.world.state .entering =
      some (step.before.world.state.enter host step.thread key) := rfl
  obtain ⟨turn, turned, -, threads, -⟩ := step_of_runs taken top runs
  rw [Thread.afterSection_stage next] at turned
  have after : step.after.thread step.thread = .lookup key style (.loadingName
      step.before.world.state.nextLoad (host.resolver.one key.kind key.name).path) :: below := by
    rw [threads, moved_self, ← turned]
    dsimp only
    generalize Section.wakes _ = wakes
    cases wakes <;> rfl
  refine ⟨host, among, after, ⟨?_, fun old => ?_⟩, fun host' => ?_⟩
  · rw [after]
    exact List.mem_cons_self
  · exact absurd (sound.lt_nextLoad old) (Nat.lt_irrefl _)
  · rw [after]
    exact Thread.opened_of_loadingName ..

/-! ## The contract -/

/-- Failures are never served from a load that is over.  A lookup that answers has been under way
since it began; if it answers with a failure, it finds that itself in the state in which it has
the lock, or a load of its key has failed so, in a step that was taken meanwhile.  If no load of
the key was in progress as the lookup began, that load has begun meanwhile as well.  And a lookup
that begins when no load of its key is in progress opens the file anew, whatever is on record. -/
structure FreshFailures (hosts : Set Host) (history : History) : Prop where
  origin : ∀ later past step key below ran failure, history = later ++ step :: past →
    step.Answers hosts key below ran (.error failure) →
      ∃ during earlier, past = during ++ earlier ∧
        Underway step.thread key below (step :: during) ∧
        (ran.Finds hosts step.thread key step.before.world.state failure ∨
          ∃ ends ∈ step :: during, ∃ load,
            (ends.before.thread ends.thread).failing? = some (key, load, failure) ∧
            ends.before.world.state.owner? (.name key load) = some ends.thread ∧
            ∀ first, (step :: during).getLast? = some first → first.before.Idle key →
              ∃ starts ∈ during, starts.Starts (.name key load))
  reopens : ∀ step ∈ history, ∀ key style below,
    step.before.thread step.thread = .lookup key style .entering :: below →
      key.name.isEmpty = false → step.before.world.state.isShutDown = false →
        step.before.world.state.modes.get key.kind = .byName →
          step.before.world.state.registry.find? key = none → step.before.Idle key →
            (∀ host ∈ hosts, (host.resolver.one key.kind key.name).valid = true) →
              ∃ host ∈ hosts,
                step.after.thread step.thread = .lookup key style (.loadingName
                  step.before.world.state.nextLoad
                  (host.resolver.one key.kind key.name).path) :: below ∧
                step.Starts (.name key step.before.world.state.nextLoad) ∧
                ∀ host', ∃ turn,
                  (step.after.thread step.thread).turn host' step.thread step.after.world =
                    some turn ∧
                  .opened (host.resolver.one key.kind key.name).path ∈ turn.events

/-- Along every history failures are never served from a load that is over. -/
theorem Traced.freshFailures (h : Traced hosts modes m history) :
    FreshFailures hosts history := by
  constructor
  · rintro later past step key below ran failure rfl answers
    have traced := h.split.1
    obtain ⟨_, -, -, style, stage, top, -⟩ := answers.runs
    obtain ⟨during, earlier, rfl, underway⟩ := traced.underway top
    refine ⟨during, earlier, rfl, underway, ?_⟩
    rcases traced.failure_origin underway answers with finds | ⟨ends, mem, load, failing⟩
    · exact .inl finds
    · have carries := Thread.mem_jobs_of_failing failing
      have sound : ends.before.Sound := by
        refine h.sound_before (List.mem_append_right _ ?_)
        rw [← List.cons_append]
        exact List.mem_append_left _ mem
      refine .inr ⟨ends, mem, load, failing, (sound.coherent.owned.iff _ _).2 carries, ?_⟩
      exact fun first last idle => h.starts_of_idle last idle mem carries
  · intro step mem key style below top named up mode unregistered idle valid
    exact h.reopens mem top named up mode unregistered idle valid

/-- One thread looks `b` up twice, and no file provides it. -/
def failsTwice : Machine × History :=
  let b : Action := .request (.tryGet ⟨.filter, "b"⟩)
  ((Machine.initial (.ofFn fun _ => .byName)).spawn [b, b]).runWith History.note hastyHost
    (List.replicate 10 0) []

theorem traced_failsTwice :
    Traced {hastyHost} (.ofFn fun _ => .byName) failsTwice.1 failsTwice.2 :=
  (Recorded.initial.spawn _).runWith (Set.mem_singleton hastyHost) _

/-- The failure of the first load is on record when the load of the second lookup begins, and each
of the two lookups asks the linker. -/
theorem freshFailures_failsTwice :
    FreshFailures {hastyHost} failsTwice.2 ∧
      (∃ begins ∈ failsTwice.2,
        begins.before.OnRecord ⟨.filter, "b"⟩ 0 (.loadFailed ⟨[1]⟩ "missing") ∧
          begins.Starts (.name ⟨.filter, "b"⟩ 1)) ∧
      (failsTwice.1.trace.map Prod.snd).filter Event.isCall =
        [.opened ⟨[1]⟩, .resolvedOne ⟨.filter, "b"⟩, .opened ⟨[1]⟩,
          .resolvedOne ⟨.filter, "b"⟩] := by
  refine ⟨traced_failsTwice.freshFailures, ?_, rfl⟩
  refine ⟨_, List.mem_of_getElem? (i := 2) rfl, rfl, List.mem_cons_self, ?_⟩
  exact List.not_mem_nil

end Machine
end PluginHost
