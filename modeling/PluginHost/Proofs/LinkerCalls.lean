import PluginHost.Proofs.History

/-!
# Calls of the linker

What the linker is asked to open is on record in the trace of a machine.  A turn asks it once
if a lookup on top of the stack is about to open a file, and else not at all.

Main results:

- Theorem `Thread.turn_linked`: what a turn asks the linker to open.
- Theorem `Machine.Traced.exists_opening`: whatever the linker was asked to open, a lookup opened.
-/

namespace PluginHost

/-- The path that the linker is asked to open. -/
def Event.linked? : Event → Option Path
  | opened path => some path
  | _ => none

/-- The paths that the linker is asked to open, in order. -/
def linkedPaths (events : List Event) : List Path :=
  events.filterMap Event.linked?

@[simp]
theorem linkedPaths_nil : linkedPaths [] = [] :=
  rfl

@[simp]
theorem linkedPaths_append (first second : List Event) :
    linkedPaths (first ++ second) = linkedPaths first ++ linkedPaths second :=
  List.filterMap_append

@[simp]
theorem linkedPaths_notice (n : Notice) (events : List Event) :
    linkedPaths (.notice n :: events) = linkedPaths events :=
  rfl

@[simp]
theorem linkedPaths_opened (path : Path) (events : List Event) :
    linkedPaths (.opened path :: events) = path :: linkedPaths events :=
  rfl

theorem mem_linkedPaths {path : Path} {events : List Event} :
    path ∈ linkedPaths events ↔ .opened path ∈ events := by
  unfold linkedPaths
  rw [List.mem_filterMap]
  constructor
  · rintro ⟨event, mem, linked⟩
    cases event with
    | opened other =>
      cases linked
      exact mem
    | resolvedOne _ | resolvedAll _ | acted _ | returned _ | closing _ | versionAsked _
    | initStarted _ | unmapped _ | notice _ => cases linked
  · exact fun mem => ⟨_, mem, rfl⟩

@[simp]
theorem linkedPaths_role (role : Role) (reply : Reply) : linkedPaths (role.events reply) = [] := by
  cases role with
  | program => rfl
  | teardown handle => rfl
  | init pending =>
    simp only [Role.events]
    split <;> rfl

@[simp]
theorem linkedPaths_libraryEvent (library : Library) (event : Path → Event)
    (other : ∀ path, (event path).linked? = none) :
    linkedPaths (Thread.libraryEvent library event) = [] := by
  unfold Thread.libraryEvent
  split
  · simp [linkedPaths, other]
  · rfl

namespace Thread

variable {host : Host} {me : ThreadId} {w : World} {turn : Turn} {thread below : Thread}
  {key : Key} {style : Style} {stage : Stage}

/-- The path that a thread asks the linker to open in its next turn. -/
def linking? : Thread → Option Path
  | .lookup _ _ stage :: _ => stage.opening?.map Prod.fst
  | _ => none

/-! ## Turns that ask nothing -/

@[simp]
theorem linkedPaths_answer (w : World) (below : Thread) (reply : Reply) (events : List Event)
    (wakes : Bool) :
    linkedPaths (answer w below reply events wakes).events = linkedPaths events := by
  unfold answer
  split <;> simp

@[simp]
theorem linkedPaths_deliver (w : World) (path : Path) (outcome : Except LoadError Handle)
    (events : List Event) (thread : Thread) :
    linkedPaths (deliver w path outcome events thread).events = linkedPaths events := by
  unfold deliver
  split
  · split <;> simp
  · rfl
  · rfl

@[simp]
theorem linkedPaths_unmap (w : World) (library : Library) :
    linkedPaths (unmap w library).2 = [] := by
  simp only [unmap]
  split
  · rfl
  · exact linkedPaths_libraryEvent library .unmapped fun _ => rfl

@[simp]
theorem linkedPaths_finishClosing (w : World) (path : Path) (failure : Option LoadError)
    (events : List Event) (thread : Thread) :
    linkedPaths (finishClosing w path failure events thread).events = linkedPaths events := by
  unfold finishClosing
  split
  · next reason todo report below => cases reason <;> cases failure <;> simp
  · rfl

@[simp]
theorem linkedPaths_register (s : LoaderState) (key : Key) (payload : Payload) :
    linkedPaths (register s key payload).2.2 = [] := by
  unfold register
  split
  · rfl
  · split
    · rfl
    · split <;> rfl

@[simp]
theorem linkedPaths_registerCall (s : LoaderState) (call : HostCall) :
    linkedPaths (registerCall s call).2.2 = [] := by
  unfold registerCall
  cases asked : call.registration with
  | error failure => rfl
  | ok bound =>
    obtain ⟨key, payload⟩ := bound
    dsimp only
    split
    · exact linkedPaths_register s key payload
    · simp [linkedPaths_register s key payload]

@[simp]
theorem linkedPaths_unregister (s : LoaderState) (key : Key) :
    linkedPaths (unregister s key).2.2 = [] := by
  unfold unregister
  split
  · rfl
  · split <;> rfl

theorem linkedPaths_shutDown (host : Host) (w : World) (below : Thread) :
    linkedPaths (shutDown host w below).events = [] := by
  unfold shutDown
  dsimp only
  split
  · simp
  · split
    · simp
    · rfl

theorem linkedPaths_serve (host : Host) (w : World) (below : Thread) (request : Request) :
    linkedPaths (serve host w below request).events = [] := by
  cases request with
  | shutdown => exact linkedPaths_shutDown ..
  | drop => exact linkedPaths_shutDown ..
  | get _ | tryGet _ => rfl
  | register _ _ | registrar _ | unregister _ | names _ | mode _ | moduleCount | isShutDown
  | policy => simp [serve]

theorem linkedPaths_begin {role : Role} {action : Action}
    (h : begin w role below action = some turn) : linkedPaths turn.events = [] := by
  have answered : ∀ reply, some (answer w below reply [] false) = some turn →
      linkedPaths turn.events = [] := by
    intro reply h
    cases h
    exact linkedPaths_answer ..
  have called : ∀ request, some (Turn.mk (.request request :: below) w [] false) = some turn →
      linkedPaths turn.events = [] := by
    intro request h
    cases h
    rfl
  cases action with
  | gate id =>
    simp only [begin] at h
    split at h
    · exact answered _ h
    · cases h
  | request request =>
    simp only [begin] at h
    split at h
    · exact answered _ h
    · exact called _ h
  | nullPayload => exact answered _ h
  | registrar call =>
    simp only [begin] at h
    split at h
    · split at h
      · exact answered _ h
      · exact called _ h
    · exact answered _ h
  | registrarNull =>
    simp only [begin] at h
    split at h
    · exact answered _ h
    · exact answered _ h

theorem linkedPaths_section {s : LoaderState} {ran : Section}
    (runs : stage.lockSection? host me key s = some ran) : linkedPaths ran.events = [] := by
  have searched : ∀ s' : LoaderState, linkedPaths (s'.search host me key).events = [] := by
    intro s'
    have outcome := LoaderState.search_cases host me key s'
    generalize s'.search host me key = ran at outcome
    cases outcome <;> rfl
  cases Stage.runs runs with
  | again _ => exact searched _
  | inside _ _ _ => exact searched _
  | insists _ _ _ _ _ => exact searched _
  | free _ _ _ _ => exact searched _
  | settled _ => exact searched _
  | nameless _ => rfl
  | refused _ _ _ => rfl
  | shared _ => rfl
  | awaits _ _ _ _ _ => rfl
  | lists _ _ _ _ => rfl
  | settledLate _ => rfl
  | closed => rfl
  | adopted _ _ => rfl
  | rejected _ _ => rfl
  | openedLate _ => rfl
  | unopened => rfl
  | failed => rfl

theorem linkedPaths_afterSection {ran : Section} :
    linkedPaths (afterSection w key style below ran).events = linkedPaths ran.events := by
  cases next : ran.next with
  | stage after => rw [afterSection_stage next]
  | discard handles after => rw [afterSection_discard next]
  | answer result =>
    have reported : linkedPaths (lookupReply key style result).2 = [] := by
      cases style with
      | full => rfl
      | quiet => cases result <;> rfl
    simp [afterSection, next, reported]

/-! ## Turns that open a file -/

theorem linkedPaths_beginOpening (host : Host) (w : World) (path : Path) (thread : Thread) :
    linkedPaths (beginOpening host w path thread).events = [path] := by
  have asked : ∀ library, linkedPaths (libraryEvent library .versionAsked) = [] := fun library =>
    linkedPaths_libraryEvent library .versionAsked fun _ => rfl
  have started : ∀ library, linkedPaths (libraryEvent library .initStarted) = [] := fun library =>
    linkedPaths_libraryEvent library .initStarted fun _ => rfl
  simp only [beginOpening]
  split
  · simp
  · rfl
  · next library _ =>
    have version : linkedPaths (if library.version.isSome then libraryEvent library .versionAsked
        else []) = [] := by
      split
      · exact asked library
      · rfl
    split
    · simp [version]
    · simp [version, started]

/-- A turn asks the linker to open the file that a lookup on top of the stack opens next, and else
nothing. -/
theorem turn_linked (h : thread.turn host me w = some turn) :
    linkedPaths turn.events = thread.linking?.toList := by
  cases thread with
  | nil => cases h
  | cons frame below =>
    cases frame with
    | request request =>
      cases h
      exact linkedPaths_serve ..
    | closing reason todo report =>
      cases todo with
      | nil =>
        cases reason with
        | shutdown =>
          cases h
          exact linkedPaths_answer ..
        | discard =>
          cases h
          rfl
      | cons handle todo =>
        rw [turn_closing, Option.some.injEq] at h
        rw [← h]
        unfold beginClosing
        split
        · rfl
        · simp [linking?]
    | script role rest =>
      cases rest with
      | cons action rest =>
        rw [turn_script] at h
        exact linkedPaths_begin h
      | nil =>
        cases role with
        | program => cases h
        | init pending =>
          cases h
          unfold finishOpening
          split <;> simp [linking?]
        | teardown handle =>
          cases h
          unfold finishTeardown
          split <;> simp [linking?]
    | lookup key style stage =>
      have locked : ∀ ran, stage.lockSection? host me key w.state = some ran →
          stage.opening? = none → afterSection w key style below ran = turn →
            linkedPaths turn.events =
              (linking? (.lookup key style stage :: below)).toList := by
        rintro ran runs none rfl
        rw [linkedPaths_afterSection, linkedPaths_section runs, linking?, none]
        rfl
      cases stage with
      | awaitingBulk woken =>
        cases woken with
        | false => cases h
        | true => exact locked _ rfl rfl (Option.some.inj h)
      | awaitingLoad load woken =>
        cases woken with
        | false => cases h
        | true => exact locked _ rfl rfl (Option.some.inj h)
      | loadingBulk todo opened =>
        cases todo with
        | nil => exact locked _ rfl rfl (Option.some.inj h)
        | cons path todo =>
          cases h
          exact linkedPaths_beginOpening ..
      | loadingName load path =>
        cases h
        exact linkedPaths_beginOpening ..
      | entering => exact locked _ rfl rfl (Option.some.inj h)
      | closingBulk => exact locked _ rfl rfl (Option.some.inj h)
      | openedName load path outcome => exact locked _ rfl rfl (Option.some.inj h)
      | closingName load failure => exact locked _ rfl rfl (Option.some.inj h)

theorem lookup_of_linking {path : Path} (h : thread.linking? = some path) :
    ∃ key style stage after below, thread = .lookup key style stage :: below ∧
      stage.opening? = some (path, after) := by
  unfold linking? at h
  split at h
  · next key style stage below =>
    obtain ⟨⟨_, after⟩, opening, rfl⟩ := Option.map_eq_some_iff.1 h
    exact ⟨key, style, stage, after, below, rfl, opening⟩
  · cases h

end Thread

namespace Machine

variable {hosts : Set Host} {modes : PerKind SearchMode} {m : Machine} {history : History}
  {t : ThreadId} {path : Path}

/-- Whatever the linker was asked to open, a lookup opened. -/
theorem Traced.exists_opening (h : Traced hosts modes m history)
    (asked : (t, .opened path) ∈ m.trace) :
    ∃ step ∈ history, step.thread = t ∧ ∃ key style stage after below,
      step.before.thread t = .lookup key style stage :: below ∧
        stage.opening? = some (path, after) := by
  refine h.invariant (P := fun m history => (t, .opened path) ∈ m.trace → ∃ step ∈ history,
    step.thread = t ∧ ∃ key style stage after below,
      step.before.thread t = .lookup key style stage :: below ∧
        stage.opening? = some (path, after)) ?_ ?_ ?_ asked
  · intro asked
    cases asked
  · intro m next history known untouched asked
    rw [untouched.trace] at asked
    exact known asked
  · intro m next history host me turn _ known _ takes asked
    obtain ⟨-, turn, turned, -, -, trace⟩ := step_eq takes.taken
    rw [trace, List.mem_append, List.mem_reverse, List.mem_map] at asked
    rcases asked with ⟨event, mem, same⟩ | old
    · cases same
      rw [← mem_linkedPaths, Thread.turn_linked turned, Option.mem_toList] at mem
      exact ⟨_, List.mem_cons_self, rfl, Thread.lookup_of_linking mem⟩
    · obtain ⟨step, mem, opening⟩ := known old
      exact ⟨step, List.mem_cons_of_mem _ mem, opening⟩

end Machine
end PluginHost
