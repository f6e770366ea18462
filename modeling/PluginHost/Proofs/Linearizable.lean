import PluginHost.Proofs.Directory

/-!
# The loader as one sequential directory

Calls come from any number of threads and from inside of modules, and a lookup takes the lock
many times, with the code of modules running in between.  Yet each call takes its effect in
one lock section: in the order of these sections the loader is one sequential directory, and a
lookup that succeeds has read it.  A lookup that finds its key registered when it begins goes
on no further than to a bulk load, after which it searches its key again.

Main results:

- Theorem `Section.met`: what a lookup does in a lock section when its key is registered.
- Theorem `Thread.Effect.leaves`: a turn changes no frame below the two on top.
- Theorem `Machine.Traced.seeks_of_underway`: a lookup of a registered key loads nothing by name.
- Theorem `Machine.Traced.linearizable`: the calls of a loader are those of one sequential
  directory.
-/

namespace PluginHost

/-! ## Lock sections of a lookup whose key is registered -/

/-- Whether a lookup has neither begun to load its key nor waits for such a load. -/
def Stage.early : Stage → Bool
  | entering | awaitingBulk _ | loadingBulk _ _ => true
  | _ => false

namespace Stage

variable {stage after : Stage} {path : Path}

/-- A lookup that waits for a load by name, or fails after one, has begun a load. -/
theorem not_early_of_failing {key : Key} {style : Style} {below : Thread}
    {failing : Key × Nat × LoadError}
    (h : Thread.failing? (.lookup key style stage :: below) = some failing) :
    stage.early = false := by
  unfold Thread.failing? at h
  split at h
  · next heq =>
    cases heq
    rfl
  · next heq =>
    cases heq
    rfl
  · cases h

theorem early_of_opening? (opening : stage.opening? = some (path, after))
    (early : stage.early = true) : after.early = true := by
  unfold opening? at opening
  split at opening
  · cases opening
    rfl
  · cases early
  · cases opening

theorem early_told (opens : stage.opens = true) (outcome : Except LoadError Handle)
    (early : stage.early = true) : (stage.told outcome).early = true := by
  unfold Stage.opens at opens
  split at opens
  · cases outcome <;> rfl
  · cases early
  · cases opens

end Stage

/-- What a lookup does in a lock section when its key is registered. -/
inductive Section.Met (key : Key) (payload : Payload) (stage : Stage) (s : LoaderState)
    (ran : Section) : Prop
  /-- It answers with what is registered. -/
  | found (answer : ran.next = .answer (.ok payload))
  /-- It makes sure of the bulk load of its kind first. -/
  | goesOn {after : Stage} (next : ran.next = .stage after) (early : after.early = true)
  /-- It shares the failure of the load of the key that it waited for. -/
  | shared {load : Nat} {failure : LoadError} (waits : stage = .awaitingLoad load true)
      (recorded : Assoc.find? key s.failures = some (load, failure))
      (answer : ran.next = .answer (.error failure))
  /-- Its own load of the key fails. -/
  | failed {load : Nat} {failure : LoadError}
      (failing : ∀ style below,
        Thread.failing? (.lookup key style stage :: below) = some (key, load, failure))
      (answer : ran.next = .answer (.error failure))

theorem Section.met {host : Host} {me : ThreadId} {key : Key} {stage : Stage} {s : LoaderState}
    {ran : Section} {payload : Payload} (runs : stage.lockSection? host me key s = some ran)
    (named : key.name.isEmpty = false) (up : s.isShutDown = false)
    (registered : s.registry.find? key = some payload) (keeps : stage ≠ .closingBulk) :
    Met key payload stage s ran := by
  have begun : ((s.begun me key stage).search host me key).next = .answer (.ok payload) := by
    apply LoaderState.search_found
    rw [(s.akin_begun me key stage).find?, registered]
  have down : s.isShutDown ≠ true := by simp [up]
  cases Stage.runs runs with
  | nameless empty =>
    rw [named] at empty
    cases empty
  | refused _ closed _ => exact absurd closed down
  | shared recorded => exact .shared rfl recorded rfl
  | again _ => exact .found begun
  | inside _ _ _ => exact .found begun
  | insists _ _ _ _ _ => exact .found begun
  | free _ _ _ _ => exact .found begun
  | awaits _ _ _ _ _ => exact .goesOn rfl rfl
  | lists _ _ _ _ => exact .goesOn rfl rfl
  | @settled opened _ =>
    have kept : ((s.endBulk key.kind).keep opened).registry.find? key = some payload := registered
    exact .found (LoaderState.search_found kept)
  | settledLate closed => exact absurd closed down
  | closed => exact absurd rfl keeps
  | adopted _ found =>
    rw [registered] at found
    cases found
    exact .found rfl
  | rejected _ absent =>
    rw [registered] at absent
    cases absent
  | openedLate closed => exact absurd closed down
  | unopened => exact .failed (fun _ _ => rfl) rfl
  | failed => exact .failed (fun _ _ => rfl) rfl

/-! ## What a turn leaves of a stack -/

namespace Thread

/-- What a turn makes of the frames below the top: it leaves them alone, tells the lookup there
what came of opening a file, or counts a module that was closed. -/
inductive Leaves : Thread → Thread → Prop
  | above {below : Thread} (upper : Thread) : Leaves below (upper ++ below)
  | told {key : Key} {style : Style} {stage : Stage} {below : Thread}
      (opens : stage.opens = true) (outcome : Except LoadError Handle) :
      Leaves (.lookup key style stage :: below) (.lookup key style (stage.told outcome) :: below)
  | counts {reason : CloseReason} {todo : List Handle} {report : ReleaseReport} {below : Thread}
      (report' : ReleaseReport) :
      Leaves (.closing reason todo report :: below) (.closing reason todo report' :: below)

variable {host : Host} {me : ThreadId} {w : World} {turn : Turn} {frame : Frame}
  {thread below upper after : Thread} {key : Key} {style : Style} {stage : Stage}

/-- A turn changes no frame below the two on top. -/
theorem Effect.leaves (h : Effect host me w turn (frame :: below)) : Leaves below turn.thread := by
  have above : ∀ upper, turn.thread = upper ++ below → Leaves below turn.thread := by
    intro upper stack
    rw [stack]
    exact .above upper
  cases h with
  | act back _ => exact above [_] back
  | call request called _ => exact above [_, _] called
  | seek other style _ began _ => exact above [_] began
  | serve _ back _ _ => exact above [] back
  | shut _ back _ _ _ _ => exact above [] back
  | release _ closes _ _ _ _ _ => exact above [_] closes
  | init pending script _ began _ => exact above [_, _] began
  | refused failure _ told _ => exact above [_] told
  | opened opens told _ _ _ _ =>
    rw [told]
    exact .told opens _
  | @locked other style stage _ ran _ eq =>
    subst eq
    cases next : ran.next with
    | answer result => exact above [] (afterSection_answer w other style below next).1
    | stage after => exact above [_] (congrArg Turn.thread (afterSection_stage next))
    | discard handles after =>
      exact above [_, _] (congrArg Turn.thread (afterSection_discard next))
  | @close reason handle todo report _ upper report' _ closes _ =>
    refine above (upper ++ [.closing reason todo report']) ?_
    rw [closes, List.append_assoc]
    rfl
  | closed report' back _ =>
    rw [back]
    exact .counts report'
  | finish back _ => exact above [] back

/-- A lookup below the top of a stack stays there, and may be told what came of opening a
file. -/
theorem Leaves.lookup (h : Leaves (upper ++ .lookup key style stage :: below) after) :
    ∃ upper' stage', after = upper' ++ .lookup key style stage' :: below ∧
      (stage.early = true → stage'.early = true) := by
  generalize stack : upper ++ .lookup key style stage :: below = rest at h
  cases h with
  | above more =>
    rw [← stack, ← List.append_assoc]
    exact ⟨_, stage, rfl, id⟩
  | told opens outcome =>
    cases upper with
    | nil =>
      cases stack
      exact ⟨[], _, rfl, Stage.early_told opens outcome⟩
    | cons frame upper =>
      cases stack
      exact ⟨_ :: upper, stage, rfl, id⟩
  | counts report' =>
    cases upper with
    | nil => cases stack
    | cons frame upper =>
      cases stack
      exact ⟨_ :: upper, stage, rfl, id⟩

/-! ## Lookups that have loaded nothing by name -/

/-- On top of `below` stands a lookup of a key that has neither begun to load the key nor waits
for such a load. -/
def Seeks (thread : Thread) (key : Key) (below : Thread) : Prop :=
  ∃ upper style stage, thread = upper ++ .lookup key style stage :: below ∧ stage.early = true

theorem Seeks.wakeIf (h : thread.Seeks key below) (wakes : Bool) :
    (thread.wakeIf wakes).Seeks key below := by
  cases wakes with
  | false => exact h
  | true =>
    obtain ⟨upper, style, stage, rfl, early⟩ := h
    cases upper with
    | nil =>
      cases stage with
      | entering => exact ⟨[], style, .entering, rfl, rfl⟩
      | awaitingBulk woken => exact ⟨[], style, .awaitingBulk true, rfl, rfl⟩
      | loadingBulk todo opened => exact ⟨[], style, .loadingBulk todo opened, rfl, rfl⟩
      | awaitingLoad _ _ | closingBulk | loadingName _ _ | openedName _ _ _ | closingName _ _ =>
        cases early
    | cons frame upper =>
      simp only [Thread.wakeIf, if_true, List.cons_append]
      unfold wake
      split
      · next heq =>
        cases heq
        exact ⟨_ :: upper, style, stage, rfl, early⟩
      · next heq =>
        cases heq
        exact ⟨_ :: upper, style, stage, rfl, early⟩
      · exact ⟨frame :: upper, style, stage, rfl, early⟩

/-- When its key is registered, a lookup that has loaded nothing by name goes on so, or is over. -/
theorem Effect.seeks {payload : Payload} (h : Effect host me w turn thread)
    (seeks : thread.Seeks key below) (named : key.name.isEmpty = false)
    (up : w.state.isShutDown = false) (registered : w.state.registry.find? key = some payload) :
    turn.thread.Seeks key below ∨ turn.thread = below := by
  obtain ⟨upper, style, stage, rfl, early⟩ := seeks
  cases upper with
  | cons frame upper =>
    obtain ⟨upper', stage', stack, keeps⟩ := h.leaves.lookup
    exact .inl ⟨upper', style, stage', stack, keeps early⟩
  | nil =>
    cases h with
    | init pending script opening began _ =>
      have early' := Stage.early_of_opening? opening early
      exact .inl ⟨[_], style, _, began, early'⟩
    | refused failure opening told _ =>
      have early' := Stage.early_of_opening? opening early
      have opens := Stage.opens_of_opening? opening
      exact .inl ⟨[], style, _, told, Stage.early_told opens _ early'⟩
    | locked ran runs eq =>
      subst eq
      have keeps : stage ≠ .closingBulk := by
        rintro rfl
        cases early
      cases Section.met runs named up registered keeps with
      | found answer => exact .inr (afterSection_answer w key style below answer).1
      | goesOn next early' =>
        rw [afterSection_stage next]
        exact .inl ⟨[], style, _, rfl, early'⟩
      | shared waits _ _ =>
        rw [waits] at early
        cases early
      | failed failing _ =>
        rw [Stage.not_early_of_failing (failing style below)] at early
        cases early

end Thread

/-! ## Steps of a lookup -/

namespace Machine

/-- Steps that are taken while a lookup of a key, which a thread begins on top of `below`, is
under way, the latest first. -/
inductive Underway (t : ThreadId) (key : Key) (below : Thread) : History → Prop
  | begins {step : Step} (style : Style)
      (top : step.before.thread t = .lookup key style .entering :: below) :
      Underway t key below [step]
  | goesOn {step : Step} {during : History} (before : Underway t key below during)
      (upper : Thread) (style : Style) (stage : Stage)
      (stands : step.before.thread t = upper ++ .lookup key style stage :: below) :
      Underway t key below (step :: during)

variable {hosts : Set Host} {modes : PerKind SearchMode} {m next : Machine}
  {history during earlier : History} {host : Host} {me t : ThreadId} {turn : Turn} {step : Step}
  {key : Key} {payload : Payload} {below : Thread} {ran : Section}
  {result : Except LoadError Payload}

/-- A key that is registered has a name, and the loader is up. -/
theorem Traced.registered (h : Traced hosts modes m history)
    (found : (Directory.replay history.calls).payload? key = some payload) :
    m.world.state.registry.find? key = some payload ∧ key.name.isEmpty = false ∧
      m.world.state.isShutDown = false := by
  refine ⟨h.payload? key ▸ found, Directory.named_replay found, ?_⟩
  have active := Directory.active_of_payload? found
  rw [← h.directory] at active
  simpa [LoaderState.directory] using active

/-- When its key is registered, a lookup that has loaded nothing by name goes on so, or is over. -/
theorem Takes.seeks (takes : Takes host m me turn next)
    (seeks : (m.thread t).Seeks key below) (named : key.name.isEmpty = false)
    (up : m.world.state.isShutDown = false)
    (registered : m.world.state.registry.find? key = some payload) :
    (next.thread t).Seeks key below ∨ ∃ wakes, next.thread t = below.wakeIf wakes := by
  by_cases ht : t = me
  · subst ht
    rw [takes.thread_self]
    rcases takes.effect.seeks seeks named up registered with still | gone
    · exact .inl (still.wakeIf _)
    · exact .inr ⟨turn.wakes, by rw [gone]⟩
  · rw [takes.thread_of_ne ht]
    exact .inl (seeks.wakeIf _)

/-- A lookup whose key was registered when it began, and has not been taken out since, has loaded
nothing by name. -/
theorem Traced.seeks_of_underway (h : Traced hosts modes step.before (during ++ earlier))
    (underway : Underway t key below (step :: during))
    (found : (Directory.replay earlier.calls).payload? key = some payload)
    (kept : ∀ call ∈ History.calls during, call ≠ .unregister key ∧ call ≠ .shutdown) :
    (step.before.thread t).Seeks key below := by
  induction during generalizing step with
  | nil =>
    cases underway with
    | begins style top => exact ⟨[], style, .entering, top, rfl⟩
    | goesOn before _ _ _ _ => cases before
  | cons last during ih =>
    cases underway with
    | goesOn before upper style stage stands =>
      obtain ⟨traced, host, -, turn, takes⟩ := h.last_takes
      have kept' : ∀ call ∈ History.calls during,
          call ≠ .unregister key ∧ call ≠ .shutdown := by
        intro call mem
        refine kept call ?_
        rw [History.calls_cons]
        exact List.mem_append_right _ mem
      have seeks := ih traced before kept'
      have stays := Directory.payload?_replay_append found kept'
      rw [← History.calls_append] at stays
      obtain ⟨registered, named, up⟩ := traced.registered stays
      rcases h.thread_eq t with same | ⟨-, script, started⟩
      · rw [same] at stands ⊢
        rcases takes.seeks seeks named up registered with still | ⟨wakes, gone⟩
        · exact still
        · -- The lookup is not over: its frame is still on the stack.
          have length := congrArg List.length (gone.symm.trans stands)
          rw [Thread.length_wakeIf] at length
          simp at length
          omega
      · rw [started] at stands
        rcases upper with _ | ⟨frame, _ | ⟨_, _⟩⟩ <;> cases stands

/-- A lookup leaves the stack by answering only. -/
theorem Takes.answers (takes : Takes host m me turn next) (mem : host ∈ hosts) {style : Style}
    {stage : Stage} (top : m.thread me = .lookup key style stage :: below)
    (gone : next.thread me = below) :
    ∃ ran result, Step.Answers hosts ⟨m, me, next⟩ key below ran result := by
  have length : turn.thread.length = below.length := by
    rw [← gone, takes.thread_self, Thread.length_wakeIf]
  have effect := takes.effect
  rw [top] at effect
  cases effect with
  | init pending script _ began _ =>
    rw [began] at length
    simp at length
    omega
  | refused failure _ told _ =>
    rw [told] at length
    simp at length
  | locked ran runs eq =>
    subst eq
    cases answer : ran.next with
    | stage after =>
      rw [Thread.afterSection_stage answer] at length
      simp at length
    | discard handles after =>
      rw [Thread.afterSection_discard answer] at length
      simp at length
      omega
    | answer result =>
      exact ⟨ran, result, ⟨host, mem, takes.taken, style, stage, top, runs⟩, answer⟩

/-- How a lookup answers that finds its key registered: with what is registered, unless the load
of the key that it waited for or carried out has failed. -/
theorem Traced.met (h : Traced hosts modes step.before earlier)
    (answers : step.Answers hosts key below ran result)
    (found : (Directory.replay earlier.calls).payload? key = some payload) :
    result = .ok payload ∨ ∃ load failure, result = .error failure ∧
      ((step.before.thread step.thread).failing? = some (key, load, failure) ∨
        (step.before.thread step.thread).awaited? = some (.name key load) ∧
          step.before.OnRecord key load failure) := by
  obtain ⟨registered, named, up⟩ := h.registered found
  obtain ⟨host, -, -, style, stage, top, runs⟩ := answers.runs
  have keeps : stage ≠ .closingBulk := by
    rintro rfl
    have closing : .lookup key style .closingBulk ∈ step.before.thread step.thread := by
      rw [top]
      exact List.mem_cons_self
    rw [h.isShutDown_of_closingBulk closing] at up
    cases up
  have same := answers.answer
  rw [top]
  cases Section.met runs named up registered keeps with
  | found answer =>
    rw [answer] at same
    cases same
    exact .inl rfl
  | goesOn next _ =>
    rw [next] at same
    cases same
  | @shared load failure waits recorded answer =>
    rw [answer] at same
    cases same
    exact .inr ⟨load, failure, rfl, .inr ⟨by rw [waits]; rfl, recorded⟩⟩
  | @failed load failure failing answer =>
    rw [answer] at same
    cases same
    exact .inr ⟨load, failure, rfl, .inl (failing style below)⟩

/-- A lookup whose key was registered when it began, and has not been taken out since, answers with
what is registered. -/
theorem Traced.ok_of_underway (h : Traced hosts modes step.before (during ++ earlier))
    (underway : Underway step.thread key below (step :: during))
    (found : (Directory.replay earlier.calls).payload? key = some payload)
    (kept : ∀ call ∈ History.calls during, call ≠ .unregister key ∧ call ≠ .shutdown)
    (answers : step.Answers hosts key below ran result) : result = .ok payload := by
  obtain ⟨upper, style, stage, stands, early⟩ := h.seeks_of_underway underway found kept
  obtain ⟨host, -, -, style', stage', top, -⟩ := answers.runs
  obtain ⟨rfl, same⟩ : upper = [] ∧ Frame.lookup key style stage = .lookup key style' stage' := by
    rw [top] at stands
    cases upper with
    | nil => exact ⟨rfl, (List.cons.inj stands).1.symm⟩
    | cons frame upper =>
      have length := congrArg List.length stands
      simp at length
      omega
  cases same
  have stays := Directory.payload?_replay_append found kept
  rw [← History.calls_append] at stays
  rcases h.met answers stays with ok | ⟨load, failure, -, failing | ⟨waits, -⟩⟩
  · exact ok
  · rw [top] at failing
    rw [Stage.not_early_of_failing failing] at early
    cases early
  · rw [top] at waits
    cases stage with
    | awaitingLoad _ _ => cases early
    | entering | awaitingBulk _ | loadingBulk _ _ | closingBulk | loadingName _ _
    | openedName _ _ _ | closingName _ _ => cases waits

/-! ## The contract -/

/-- In the order of its lock sections the loader is one sequential directory.  What is behind
the lock is what the calls before have made of it; each call to register a payload or to take
one out succeeds if the directory grants it, and its script is told so.  A lookup returns when
it answers; one that succeeds has the payload that the directory has for its key.  While a key
stays registered, each lookup of the key that begins finds it, and one that began before fails
only with a load of the key. -/
structure Linearizable (hosts : Set Host) (m : Machine) (history : History) : Prop where
  view : m.world.state.directory = Directory.replay history.calls
  legal : ∀ later earlier step request below reply, history = later ++ step :: earlier →
    step.before.thread step.thread = .request request :: below →
      request.reply? step.before.world.state = some reply →
        reply.granted = request.call?.any (Directory.replay (History.calls earlier)).grants
  served : ∀ step ∈ history, ∀ request role rest frames reply,
    step.before.thread step.thread = .request request :: .script role rest :: frames →
      request.reply? step.before.world.state = some reply →
        ∃ events, step.Emits (events ++ role.events reply)
  returns : ∀ step ∈ history, ∀ key style stage below,
    step.before.thread step.thread = .lookup key style stage :: below →
      step.after.thread step.thread = below →
        ∃ ran result, step.Answers hosts key below ran result
  told : ∀ step ∈ history, ∀ key style stage below ran result,
    step.before.thread step.thread = .lookup key style stage :: below →
      step.Answers hosts key below ran result →
        ∃ role rest frames, below = .script role rest :: frames ∧
          step.after.thread step.thread = below ∧
            step.Emits (ran.events ++ (Thread.lookupReply key style result).2 ++
              role.events (Thread.lookupReply key style result).1)
  found : ∀ later earlier step key below ran payload, history = later ++ step :: earlier →
    step.Answers hosts key below ran (.ok payload) →
      (Directory.replay (History.calls earlier)).payload? key = some payload
  finds : ∀ later during earlier step key below ran result payload,
    history = later ++ step :: (during ++ earlier) →
      Underway step.thread key below (step :: during) →
        (Directory.replay (History.calls earlier)).payload? key = some payload →
          (∀ call ∈ History.calls during, call ≠ .unregister key ∧ call ≠ .shutdown) →
            step.Answers hosts key below ran result → result = .ok payload
  meets : ∀ later earlier step key below ran result payload,
    history = later ++ step :: earlier → step.Answers hosts key below ran result →
      (Directory.replay (History.calls earlier)).payload? key = some payload →
        result = .ok payload ∨ ∃ load failure, result = .error failure ∧
          ((step.before.thread step.thread).failing? = some (key, load, failure) ∨
            (step.before.thread step.thread).awaited? = some (.name key load) ∧
              step.before.OnRecord key load failure)

/-- Along every history the loader is one sequential directory. -/
theorem Traced.linearizable (h : Traced hosts modes m history) : Linearizable hosts m history := by
  constructor
  · exact h.directory
  · rintro later earlier step request below reply rfl - replies
    rw [← h.split.1.directory]
    exact Thread.granted_reply replies
  · intro step mem request role rest frames reply top replies
    obtain ⟨host, -, taken⟩ := h.taken mem
    obtain ⟨turn, takes⟩ := step_takes (h.sound_before mem) taken
    exact takes.told top replies
  · intro step mem key style stage below top gone
    obtain ⟨host, among, taken⟩ := h.taken mem
    obtain ⟨turn, takes⟩ := step_takes (h.sound_before mem) taken
    exact takes.answers among top gone
  · intro step mem key style stage below ran result top answers
    exact answers.told (h.sound_before mem) top
  · rintro later earlier step key below ran payload rfl answers
    obtain ⟨_, -, -, _, _, -, runs⟩ := answers.runs
    rw [h.split.1.payload?]
    exact Section.registered_of_answer runs answers.answer
  · rintro later during earlier step key below ran result payload rfl underway found kept answers
    exact h.split.1.ok_of_underway underway found kept answers
  · rintro later earlier step key below ran result payload rfl answers found
    exact h.split.1.met answers found

/-- A thread looks up a filter.  While the module is being opened another thread registers the name
itself, so that the init of the module is refused.  The other thread looks the name up too, takes
it out, and shuts the loader down; the first one can register nothing any more. -/
def directoryRun : Machine × History :=
  let key : Key := ⟨.filter, "a"⟩
  (((Machine.initial (.ofFn fun _ => .byName)).spawn
    [.request (.tryGet key), .request (.register key (.word 6))]).spawn
    [.request (.register key (.word 5)), .request (.tryGet key), .request (.unregister key),
      .request .shutdown]).runWith History.note dutifulHost
        [0, 0, 0, 0, 1, 1, 0, 0, 1, 1, 1, 0, 0, 1, 1, 1, 1, 1, 0, 0, 1, 1] []

theorem traced_directoryRun :
    Traced {dutifulHost} (.ofFn fun _ => .byName) directoryRun.1 directoryRun.2 :=
  ((Recorded.initial.spawn _).spawn _).runWith (Set.mem_singleton dutifulHost) _

/-- The calls of the two threads and of the init were served in this order, and both lookups found
what was registered first. -/
theorem linearizable_directoryRun :
    Linearizable {dutifulHost} directoryRun.1 directoryRun.2 ∧
      directoryRun.2.calls = [.register ⟨.filter, "a"⟩ (.word 6), .shutdown,
        .unregister ⟨.filter, "a"⟩, .register ⟨.filter, "a"⟩ (.word 7),
        .register ⟨.filter, "a"⟩ (.word 5)] ∧
      (directoryRun.2.filterMap fun step => step.call?.map fun _ => step.thread) =
        [0, 1, 1, 0, 1] ∧
      (0, .acted (.accepted false)) ∈ directoryRun.1.trace ∧
      (0, .returned (.lookup (.ok (.word 5)))) ∈ directoryRun.1.trace ∧
      (1, .returned (.lookup (.ok (.word 5)))) ∈ directoryRun.1.trace := by
  refine ⟨traced_directoryRun.linearizable, rfl, rfl, ?_, ?_, ?_⟩
  · exact List.mem_of_getElem? (i := 11) rfl
  · exact List.mem_of_getElem? (i := 7) rfl
  · exact List.mem_of_getElem? (i := 9) rfl

end Machine
end PluginHost
