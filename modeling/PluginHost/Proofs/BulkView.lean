import PluginHost.Proofs.Custody
import PluginHost.Proofs.Modes
import PluginHost.Proofs.Refusal

/-!
# No partial view of a bulk load

A lookup of a kind that started with all its candidates to be loaded answers from the registry
only once the kind is settled, that is after every candidate was opened, or failed to open,
and its init has returned.  There are two exceptions: a lookup of the bulk load itself, made by an
init that the load runs, and a lookup that must not wait for the load because that would
close a cycle of waits.

Main results:

- Theorem `Thread.turn_tried`: the candidates that a turn lists are either tried or remain.
- Theorem `Machine.Traced.tried_perm`: along every history the candidates that were listed are
  those that were tried and those that remain.
- Theorem `Section.settled_of_answer`: a lookup that answers has found its kind settled, or has
  settled it, unless it made one of the exceptions.
- Theorem `Machine.Traced.whole_view`: such an answer is what the registry holds after all
  candidates were tried.
-/

namespace PluginHost

/-! ## Candidates that remain -/

/-- The candidates of a kind that a lookup has yet to open. -/
def Stage.remaining (key : Key) (kind : Kind) : Stage → List Path
  | loadingBulk todo _ => if key.kind = kind then todo else []
  | _ => []

/-- The candidates of a kind that a lookup has yet to open as it goes on. -/
def Next.remaining (key : Key) (kind : Kind) : Next → List Path
  | .answer _ => []
  | .stage after | .discard _ after => after.remaining key kind

namespace Thread

/-- The candidates of a kind that a thread has yet to open, or whose init has not returned. -/
def remaining (kind : Kind) : Thread → List Path
  | .script (.init pending) _ :: below =>
    (if load? below = some (.bulk kind) then [pending.path] else []) ++ remaining kind below
  | .lookup key _ stage :: below => stage.remaining key kind ++ remaining kind below
  | _ :: below => remaining kind below
  | [] => []

/-- Whether a lookup is on top of a thread. -/
def looksUp : Thread → Bool
  | .lookup _ _ _ :: _ => true
  | _ => false

/-- The candidate of a kind that a thread has tried in a turn that took it from one stack
to another: its init has returned, or it did not open. -/
def tried (kind : Kind) (before after : Thread) : List Path :=
  match before with
  | .script (.init pending) [] :: below =>
    if load? below = some (.bulk kind) then [pending.path] else []
  | .lookup key _ (.loadingBulk (path :: _) _) :: _ =>
    if key.kind = kind ∧ after.looksUp then [path] else []
  | _ => []

/-- What is left of a script does not matter. -/
theorem remaining_script (kind : Kind) (role : Role) (rest rest' : Script) (below : Thread) :
    remaining kind (.script role rest :: below) = remaining kind (.script role rest' :: below) := by
  cases role with
  | program => rfl
  | init pending => rfl
  | teardown handle => rfl

/-- A script that goes on tries no candidate. -/
theorem tried_script (kind : Kind) (role : Role) (action : Action) (rest : Script)
    (below after : Thread) : tried kind (.script role (action :: rest) :: below) after = [] := by
  cases role with
  | program => rfl
  | init pending => rfl
  | teardown handle => rfl

@[simp]
theorem remaining_wakeIf (kind : Kind) (wakes : Bool) (thread : Thread) :
    (thread.wakeIf wakes).remaining kind = thread.remaining kind :=
  apply_wakeIf (remaining kind) (fun _ _ _ _ => rfl) (fun _ _ _ _ _ => rfl) wakes thread

@[simp]
theorem looksUp_wakeIf (wakes : Bool) (thread : Thread) :
    (thread.wakeIf wakes).looksUp = thread.looksUp :=
  apply_wakeIf looksUp (fun _ _ _ _ => rfl) (fun _ _ _ _ _ => rfl) wakes thread

/-- That a thread is woken after its turn does not matter. -/
@[simp]
theorem tried_wakeIf (kind : Kind) (before after : Thread) (wakes : Bool) :
    tried kind before (after.wakeIf wakes) = tried kind before after := by
  simp only [tried, looksUp_wakeIf]

theorem remaining_lookup (kind : Kind) (key : Key) (style : Style) (stage : Stage)
    (below : Thread) :
    remaining kind (.lookup key style stage :: below) =
      stage.remaining key kind ++ remaining kind below :=
  rfl

/-- A lookup with candidates that remain carries out the bulk load of their kind. -/
theorem stage_remaining_eq_nil {kind : Kind} {key : Key} {stage : Stage}
    (free : stage.job? key ≠ some (.bulk kind)) : stage.remaining key kind = [] := by
  cases stage with
  | loadingBulk todo opened => exact if_neg fun same => free (by rw [← same]; rfl)
  | entering => rfl
  | awaitingBulk woken => rfl
  | awaitingLoad load woken => rfl
  | closingBulk => rfl
  | loadingName load path => rfl
  | openedName load path outcome => rfl
  | closingName load failure => rfl

/-- A thread that does not carry out the bulk load of a kind has none of its candidates to
open. -/
theorem remaining_eq_nil {kind : Kind} {thread : Thread} (shaped : thread.Shaped)
    (free : .bulk kind ∉ thread.jobs) : thread.remaining kind = [] := by
  induction shaped with
  | program rest => rfl
  | @push _ _ below on shaped ih =>
    cases on with
    | initBulk pending script key style todo opened =>
      have other : load? (.lookup key style (.loadingBulk todo opened) :: below) ≠
          some (.bulk kind) := by
        intro same
        cases same
        exact free List.mem_cons_self
      rw [remaining, if_neg other, ih free]
      rfl
    | initName pending script key style load path =>
      rw [remaining, if_neg nofun, ih free]
      rfl
    | lookup key style stage role rest =>
      rw [jobs_lookup, List.mem_append, not_or] at free
      have other : stage.job? key ≠ some (.bulk kind) := by
        intro same
        rw [same] at free
        exact free.1 List.mem_cons_self
      rw [remaining_lookup, stage_remaining_eq_nil other, ih free.2]
      rfl
    | request => exact ih free
    | shutdown => exact ih free
    | discardBulk => exact ih free
    | discardName => exact ih free
    | teardown => exact ih free

end Thread

/-! ## Lock sections -/

namespace Section

/-- The candidates that a lookup has to open after a lock section are those that the section
lists: all of a kind, if the section asks for them, and else none. -/
def Lists (host : Host) (key : Key) (ran : Section) : Prop :=
  ∀ kind, ran.next.remaining key kind =
    if kind ∈ kindsAsked ran.events then host.resolver.all kind else []

variable {host : Host} {me : ThreadId} {key : Key} {stage : Stage} {s : LoaderState} {ran : Section}

theorem lists_of_nil (asked : kindsAsked ran.events = [])
    (none : ∀ kind, ran.next.remaining key kind = []) : ran.Lists host key := by
  intro kind
  rw [none, asked, if_neg List.not_mem_nil]

theorem search_lists (s : LoaderState) : (s.search host me key).Lists host key := by
  refine lists_of_nil (LoaderState.search_asks host me key s).1 fun kind => ?_
  have outcome := LoaderState.search_cases host me key s
  generalize s.search host me key = ran at outcome
  cases outcome <;> rfl

/-- The candidates that remain after a lock section are those that the section lists. -/
theorem lists (runs : stage.lockSection? host me key s = some ran) : ran.Lists host key := by
  cases Stage.runs runs with
  | nameless _ => exact lists_of_nil rfl fun _ => rfl
  | refused _ _ _ => exact lists_of_nil rfl fun _ => rfl
  | shared _ => exact lists_of_nil rfl fun _ => rfl
  | again _ => exact search_lists _
  | inside _ _ _ => exact search_lists _
  | insists _ _ _ _ _ => exact search_lists _
  | free _ _ _ _ => exact search_lists _
  | awaits _ _ _ _ _ => exact lists_of_nil rfl fun _ => rfl
  | lists _ _ _ _ =>
    intro kind
    show (if key.kind = kind then host.resolver.all key.kind else []) =
      if kind ∈ [key.kind] then host.resolver.all kind else []
    by_cases same : key.kind = kind
    · rw [if_pos same, same, if_pos (List.mem_singleton_self kind)]
    · rw [if_neg same, if_neg fun mem => same (List.mem_singleton.1 mem).symm]
  | settled _ => exact search_lists _
  | settledLate _ => exact lists_of_nil rfl fun _ => rfl
  | closed => exact lists_of_nil rfl fun _ => rfl
  | adopted _ _ => exact lists_of_nil rfl fun _ => rfl
  | rejected _ _ => exact lists_of_nil rfl fun _ => rfl
  | openedLate _ => exact lists_of_nil rfl fun _ => rfl
  | unopened => exact lists_of_nil rfl fun _ => rfl
  | failed => exact lists_of_nil rfl fun _ => rfl

end Section

/-! ## Answers -/

/-- The section that ends a bulk load settles the kind. -/
theorem LoaderState.modes_settled (host : Host) (me : ThreadId) (key : Key) (opened : List Handle)
    (s : LoaderState) :
    (s.settled host me key opened).state.modes.get key.kind = .settled := by
  have settles : (s.endBulk key.kind).modes.get key.kind = .settled := PerKind.get_set_self ..
  rw [settled_eq]
  split
  · exact settles
  · have same := (search_asks host me key ((s.endBulk key.kind).keep opened)).2.1.1
    show (((s.endBulk key.kind).keep opened).search host me key).state.modes.get key.kind = .settled
    rw [same]
    exact settles

/-- What a lookup answers from the registry alone. -/
def LoaderState.provided (s : LoaderState) (key : Key) : Except LoadError Payload :=
  match s.registry.find? key with
  | some payload => .ok payload
  | none => .error (.notFound (.notProvided key.kind key.name))

theorem LoaderState.Akin.provided {s s' : LoaderState} (h : s.Akin s') (key : Key) :
    s'.provided key = s.provided key := by
  rw [LoaderState.provided, LoaderState.provided, h.find?]

/-- A result of a lookup that says what there is: a payload, or that none was found. -/
inductive Decided : Except LoadError Payload → Prop
  | found (payload : Payload) : Decided (.ok payload)
  | absent (reason : Absence) : Decided (.error (.notFound reason))

/-- What is answered to a lookup of a kind that is not searched by name is what the registry
provides. -/
theorem LoaderState.search_provided (host : Host) (me : ThreadId) {key : Key} {s : LoaderState}
    {result : Except LoadError Payload} (mode : s.modes.get key.kind ≠ .byName)
    (answer : (s.search host me key).next = .answer result) : result = s.provided key := by
  have outcome := search_cases host me key s
  generalize s.search host me key = ran at outcome answer
  cases outcome with
  | found registered =>
    cases answer
    rw [provided, registered]
  | absent unregistered _ =>
    cases answer
    rw [provided, unregistered]
  | mine _ byName _ _ => exact absurd byName mode
  | refused _ byName _ _ _ => exact absurd byName mode
  | waits _ byName _ _ _ => exact absurd byName mode
  | starts _ byName _ _ => exact absurd byName mode
  | invalid _ byName _ _ => exact absurd byName mode

namespace Section

variable {host : Host} {me : ThreadId} {key : Key} {stage : Stage} {s : LoaderState} {ran : Section}
  {result : Except LoadError Payload}

/-- A lookup answers what the registry provides, and has found its kind settled or settles it
itself, if the kind is not searched by name, the lookup is not one of the bulk load's own, and
it does not refuse to wait. -/
theorem settled_of_answer (runs : stage.lockSection? host me key s = some ran)
    (answer : ran.next = .answer result) (decided : Decided result)
    (mode : s.modes.get key.kind ≠ .byName)
    (unnamed : ∀ load, stage.awaited? key ≠ some (.name key load) ∧
      stage.job? key ≠ some (.name key load))
    (outside : stage.job? key = none → s.bulk.get key.kind ≠ some me)
    (free : ∀ owner, ¬ ran.Refuses key s owner) :
    (s.modes.get key.kind = .settled ∨ ∃ opened, stage = .loadingBulk [] opened) ∧
      result = s.provided key := by
  cases Stage.runs runs with
  | nameless _ =>
    cases answer
    cases decided
  | refused _ _ _ =>
    cases answer
    cases decided
  | closed =>
    cases answer
    cases decided
  | shared _ => exact absurd rfl (unnamed _).1
  | again _ => exact absurd rfl (unnamed _).1
  | adopted _ _ => exact absurd rfl (unnamed _).2
  | unopened => exact absurd rfl (unnamed _).2
  | failed => exact absurd rfl (unnamed _).2
  | inside settles _ busy =>
    have unowned := outside (Stage.job?_of_ready (Stage.ready_of_settles settles))
    exact absurd busy unowned
  | insists _ _ busy _ _ => exact absurd (.bulk busy List.mem_cons_self) (free _)
  | free _ _ idle unlisted =>
    have akin := s.akin_begun me key stage
    have settled : s.modes.get key.kind = .settled := by
      cases found : s.modes.get key.kind with
      | byName => exact absurd found mode
      | loadAll => exact absurd found unlisted
      | settled => rfl
    rw [← akin.modes] at mode
    rw [← akin.provided]
    exact ⟨.inl settled, LoaderState.search_provided host me mode answer⟩
  | @settled opened _ =>
    have named : ((s.endBulk key.kind).keep opened).modes.get key.kind ≠ .byName := by
      simp [LoaderState.endBulk, LoaderState.keep]
    have eq := LoaderState.search_provided host me named answer
    exact ⟨.inr ⟨opened, rfl⟩, eq⟩
  | awaits _ _ _ _ _ => cases answer
  | lists _ _ _ _ => cases answer
  | settledLate _ => cases answer
  | rejected _ _ => cases answer
  | openedLate _ => cases answer

end Section

/-! ## Turns -/

namespace Thread

variable {host : Host} {me : ThreadId} {w : World} {turn : Turn} {thread below : Thread}
  {key : Key} {style : Style} {stage : Stage}

/-- The candidates of a kind that a turn of a host lists. -/
def listed (host : Host) (turn : Turn) (kind : Kind) : List Path :=
  if kind ∈ kindsAsked turn.events then host.resolver.all kind else []

theorem listed_of_silent (silent : turn.Silent) (kind : Kind) : listed host turn kind = [] := by
  rw [listed, (asked_of_silent silent).1]
  exact if_neg List.not_mem_nil

theorem remaining_afterSection (kind : Kind) (ran : Section) :
    (afterSection w key style below ran).thread.remaining kind =
      ran.next.remaining key kind ++ below.remaining kind := by
  cases next : ran.next with
  | answer result =>
    rw [(afterSection_answer w key style below next).1]
    rfl
  | stage after =>
    rw [afterSection_stage next]
    rfl
  | discard handles after =>
    rw [afterSection_discard next]
    rfl

/-- A lookup that runs a lock section has no candidate to open. -/
theorem nothing_of_runs {s : LoaderState} {ran : Section}
    (runs : stage.lockSection? host me key s = some ran) (kind : Kind) (style : Style)
    (below after : Thread) :
    stage.remaining key kind = [] ∧ tried kind (.lookup key style stage :: below) after = [] := by
  unfold Stage.lockSection? at runs
  split at runs
  · exact ⟨rfl, rfl⟩
  · exact ⟨rfl, rfl⟩
  · exact ⟨rfl, rfl⟩
  · exact ⟨ite_self [], rfl⟩
  · exact ⟨rfl, rfl⟩
  · exact ⟨rfl, rfl⟩
  · exact ⟨rfl, rfl⟩
  · cases runs

/-- The file that a lookup opens next is the first of the candidates that remain. -/
theorem remaining_of_opening? {after : Stage} {path : Path}
    (h : stage.opening? = some (path, after)) (key : Key) (kind : Kind) :
    (if after.load? key = some (.bulk kind) then [path] else []) ++ after.remaining key kind =
      stage.remaining key kind := by
  unfold Stage.opening? at h
  split at h
  · next todo opened =>
    cases h
    by_cases same : key.kind = kind
    · have mine : Stage.load? key (.loadingBulk todo opened) = some (.bulk kind) := by
        rw [← same]
        rfl
      rw [if_pos mine]
      simp [Stage.remaining, same]
    · have other : Stage.load? key (.loadingBulk todo opened) ≠ some (.bulk kind) := by
        intro eq
        cases eq
        exact same rfl
      rw [if_neg other]
      simp [Stage.remaining, same]
  · cases h
    exact congrArg (· ++ []) (if_neg nofun)
  · cases h

/-- What a lookup is told is about no candidate that remains. -/
theorem remaining_told (opens : stage.opens = true) (outcome : Except LoadError Handle)
    (key : Key) (kind : Kind) :
    (stage.told outcome).remaining key kind = stage.remaining key kind := by
  unfold Stage.opens at opens
  split at opens
  · cases outcome with
    | ok handle => rfl
    | error failure => rfl
  · rfl
  · cases opens

/-- A file that does not open has been tried; one whose init begins has not. -/
theorem tried_of_opening? {opened : Stage} {path : Path}
    (h : stage.opening? = some (path, opened)) (kind : Kind) (after : Thread) :
    tried kind (.lookup key style stage :: below) after =
      if after.looksUp then if opened.load? key = some (.bulk kind) then [path] else []
      else [] := by
  unfold Stage.opening? at h
  split at h
  · next todo opened =>
    cases h
    have loads : Stage.load? key (.loadingBulk todo opened) = some (.bulk kind) ↔
        key.kind = kind := by
      rw [show Stage.load? key (.loadingBulk todo opened) = some (.bulk key.kind) from rfl]
      simp
    rw [tried]
    simp only [loads]
    by_cases top : after.looksUp = true
    · simp [top]
    · simp [top]
  · cases h
    exact (ite_eq_right_iff.2 fun _ => if_neg nofun).symm
  · cases h

/-- The candidates of a kind that remain before a turn, and those that it lists, are tried in it
or remain after it. -/
theorem turn_tried (h : Effect host me w turn thread) (kind : Kind) :
    tried kind thread turn.thread ++ turn.thread.remaining kind =
      listed host turn kind ++ thread.remaining kind := by
  have mild : ∀ {before : Thread}, turn.Mild w → tried kind before turn.thread = [] →
      turn.thread.remaining kind = before.remaining kind →
        tried kind before turn.thread ++ turn.thread.remaining kind =
          listed host turn kind ++ before.remaining kind := by
    intro before mild nothing same
    rw [nothing, same, listed_of_silent mild.silent]
  cases h with
  | @act role action rest below back calm =>
    refine mild calm (tried_script ..) ?_
    rw [back]
    exact remaining_script ..
  | @call role action rest below request called calm =>
    refine mild calm (tried_script ..) ?_
    rw [called]
    exact remaining_script ..
  | seek key style up began calm =>
    refine mild calm rfl ?_
    rw [began]
    rfl
  | serve up back silent world =>
    rw [back, listed_of_silent silent]
    rfl
  | shut down back silent state serial none =>
    rw [back, listed_of_silent silent]
    rfl
  | release down closes silent state serial handles policy =>
    rw [closes, listed_of_silent silent]
    rfl
  | init pending script opening began calm =>
    refine mild calm ?_ ?_
    · rw [tried_of_opening? opening, began]
      rfl
    · rw [began, remaining_lookup, ← remaining_of_opening? opening, List.append_assoc]
      rfl
  | refused failure opening told calm =>
    have opens := Stage.opens_of_opening? opening
    have top : turn.thread.looksUp = true := by
      rw [told]
      rfl
    rw [tried_of_opening? opening, top, told, listed_of_silent calm.silent, remaining_lookup,
      remaining_lookup, remaining_told opens, ← remaining_of_opening? opening, List.append_assoc]
    rfl
  | opened opens told silent state serial dropping =>
    rw [told, listed_of_silent silent, remaining_lookup, remaining_told opens]
    rfl
  | @locked key style stage below ran runs eq =>
    obtain ⟨none, nothing⟩ := nothing_of_runs runs kind style below turn.thread
    obtain ⟨extra, silent, events⟩ := afterSection_events (w := w) key style below ran
    have same : listed host turn kind = ran.next.remaining key kind := by
      rw [listed, eq, events, (asked_append _ silent).1]
      exact (Section.lists runs kind).symm
    rw [nothing, same, eq, remaining_afterSection, remaining_lookup, none]
    rfl
  | @close reason handle todo report below upper report' script closes calm =>
    refine mild calm rfl ?_
    rw [closes]
    rcases script with rfl | ⟨script, rfl⟩
    · rfl
    · rfl
  | closed report back calm =>
    refine mild calm rfl ?_
    rw [back]
    rfl
  | finish back calm =>
    refine mild calm rfl ?_
    rw [back]
    rfl

end Thread

/-! ## Histories -/

namespace Machine

/-- The candidate of a kind that a step has tried. -/
def Step.tried (kind : Kind) (step : Step) : List Path :=
  (step.before.thread step.thread).tried kind (step.after.thread step.thread)

/-- The candidates of a kind that were tried: they were opened, or failed to open, and their
inits have returned. -/
def History.tried (kind : Kind) (history : History) : List Path :=
  history.flatMap (Step.tried kind)

/-- The candidates of a kind that were listed and have not been tried. -/
def remaining (kind : Kind) (m : Machine) : List Path :=
  m.threads.flatMap (Thread.remaining kind)

/-- A step begins the bulk load of a kind, with the candidates that a host lists. -/
def Step.Lists (hosts : Set Host) (kind : Kind) (candidates : List Path) (step : Step) : Prop :=
  ∃ host ∈ hosts, step.before.step host step.thread = some step.after ∧
    step.before.world.state.bulk.get kind = none ∧
      step.after.world.state.bulk.get kind = some step.thread ∧
        host.resolver.all kind = candidates

variable {hosts : Set Host} {modes : PerKind SearchMode} {m next : Machine} {history : History}
  {host : Host} {me t : ThreadId} {turn : Turn} {kind : Kind} {key : Key}

/-- The candidates that remain before a step, and those that it lists, are tried in it or
remain after it. -/
theorem Takes.tried_perm (takes : Takes host m me turn next) (kind : Kind) :
    (Step.tried kind ⟨m, me, next⟩ ++ next.remaining kind).Perm
      (Thread.listed host turn kind ++ m.remaining kind) := by
  refine List.perm_iff_count.2 fun path => ?_
  have moved := congrArg (List.count path) (Thread.turn_tried takes.effect kind)
  have others := (takes.flatMap_perm (Thread.remaining kind) (by simp)).count_eq path
  simp only [List.count_append, Step.tried, takes.thread_self, Thread.tried_wakeIf,
    Machine.remaining] at moved others ⊢
  omega

namespace Traced

/-- The candidates of a kind that were ever listed are those that were tried and those that
remain; none were listed before the kind was asked for. -/
theorem tried_perm (h : Traced hosts modes m history) (kind : Kind) :
    ∃ candidates, (history.tried kind ++ m.remaining kind).Perm candidates ∧
      (kind ∈ m.kindsAsked → ∃ begins ∈ history, begins.Lists hosts kind candidates) ∧
        (kind ∉ m.kindsAsked → candidates = []) := by
  refine h.invariant (P := fun m history => ∃ candidates,
    (history.tried kind ++ m.remaining kind).Perm candidates ∧
      (kind ∈ m.kindsAsked → ∃ begins ∈ history, begins.Lists hosts kind candidates) ∧
        (kind ∉ m.kindsAsked → candidates = [])) ?_ ?_ ?_
  · exact ⟨[], .refl _, nofun, fun _ => rfl⟩
  · intro m next history all untouched
    have same : next.remaining kind = m.remaining kind := by
      rcases untouched.threads with same | ⟨script, longer⟩
      · rw [Machine.remaining, same, Machine.remaining]
      · rw [Machine.remaining, longer, Machine.remaining]
        simp [Thread.remaining]
    rwa [Machine.kindsAsked, untouched.trace, same]
  · intro m next history host me turn before all mem takes
    obtain ⟨candidates, perm, listed, unlisted⟩ := all
    have tried : (History.tried kind (⟨m, me, next⟩ :: history) ++ next.remaining kind).Perm
        (Thread.listed host turn kind ++ (history.tried kind ++ m.remaining kind)) := by
      refine List.perm_iff_count.2 fun path => ?_
      have moved := (takes.tried_perm kind).count_eq path
      simp only [History.tried, List.flatMap_cons, List.count_append] at moved ⊢
      omega
    have goesOn : kind ∉ PluginHost.kindsAsked turn.events → ∃ candidates,
        (History.tried kind (⟨m, me, next⟩ :: history) ++ next.remaining kind).Perm candidates ∧
          (kind ∈ next.kindsAsked →
            ∃ begins ∈ (⟨m, me, next⟩ :: history), Step.Lists hosts kind candidates begins) ∧
            (kind ∉ next.kindsAsked → candidates = []) := by
      intro unasked
      have asked : kind ∈ next.kindsAsked ↔ kind ∈ m.kindsAsked := by
        rw [takes.kindsAsked, List.mem_append, List.mem_reverse]
        exact ⟨fun mem => mem.resolve_left unasked, .inr⟩
      rw [Thread.listed, if_neg unasked] at tried
      refine ⟨candidates, tried.trans perm, ?_, ?_⟩
      · intro mem
        obtain ⟨begins, earlier, lists⟩ := listed (asked.1 mem)
        exact ⟨begins, List.mem_cons_of_mem _ earlier, lists⟩
      · intro never
        exact unlisted fun mem => never (asked.2 mem)
    cases takes.bulkMove before.reachable.sound kind with
    | rest unasked _ _ => exact goesOn unasked
    | ends unasked _ _ _ _ => exact goesOn unasked
    | begins asks all _ idle mark =>
      have never : kind ∉ m.kindsAsked := by
        intro asked
        rcases ((before.asked_iff kind).1 asked).2 with busy | settled
        · exact busy idle
        · rw [all] at settled
          cases settled
      rw [Thread.listed, asks, if_pos (List.mem_singleton_self kind)] at tried
      rw [unlisted never] at perm
      refine ⟨host.resolver.all kind, ?_, ?_, ?_⟩
      · rw [List.perm_nil.1 perm, List.append_nil] at tried
        exact tried
      · intro _
        exact ⟨_, List.mem_cons_self, host, mem, takes.taken, idle, mark, rfl⟩
      · intro unasked
        rw [takes.kindsAsked, asks] at unasked
        exact absurd List.mem_cons_self unasked

/-- The mark of a bulk load that was begun, or the settled mode, says that the candidates of
its kind were listed; once none remain all of them were tried. -/
theorem all_tried (h : Traced hosts modes m history) (asked : kind ∈ m.kindsAsked)
    (none : m.remaining kind = []) :
    ∃ begins ∈ history, ∃ candidates, begins.Lists hosts kind candidates ∧
      (history.tried kind).Perm candidates := by
  obtain ⟨candidates, perm, listed, -⟩ := h.tried_perm kind
  obtain ⟨begins, mem, lists⟩ := listed asked
  rw [none, List.append_nil] at perm
  exact ⟨begins, mem, candidates, lists, perm⟩

end Traced

variable {step : Step} {below : Thread} {ran : Section} {result : Except LoadError Payload}

/-- A lookup of a kind that is to be loaded as a whole neither loads nor awaits a single name. -/
theorem Traced.unnamed (h : Traced hosts modes m history) (start : modes.get key.kind = .loadAll)
    {style : Style} {stage : Stage} (top : m.thread t = .lookup key style stage :: below)
    (load : Nat) : stage.awaited? key ≠ some (.name key load) ∧
      stage.job? key ≠ some (.name key load) := by
  constructor
  · intro awaits
    have waits : (m.thread t).awaited? = some (.name key load) := by
      rw [top]
      exact awaits
    have named := h.reachable.byName_of_awaited waits
    rw [start] at named
    cases named
  · intro carries
    have mem : .name key load ∈ (m.thread t).jobs := by
      rw [top, Thread.jobs_lookup, carries]
      exact List.mem_cons_self
    have sound := h.reachable.sound
    have busy := (LoaderState.owner?_name _ key load t).1 ((sound.coherent.owned.iff _ t).2 mem)
    have named := (h.byName_iff key.kind).1 (sound.coherent.wf.nameMode key _ busy)
    rw [start] at named
    cases named

/-- Nothing of a kind remains to be tried when a lookup from outside of its bulk load answers,
with the kind settled or about to be. -/
theorem Sound.remaining_eq_nil (sound : m.Sound) {style : Style} {stage : Stage}
    (top : m.thread t = .lookup key style stage :: below)
    (runs : stage.lockSection? host t key m.world.state = some ran)
    (settles : m.world.state.modes.get key.kind = .settled ∨
      ∃ opened, stage = .loadingBulk [] opened)
    (outside : .bulk key.kind ∉ below.jobs) : m.remaining key.kind = [] := by
  refine List.flatMap_eq_nil_iff.2 fun thread mem => ?_
  obtain ⟨u, lt, rfl⟩ := List.getElem_of_mem mem
  have self : m.threads[u] = m.thread u := by
    simp [Machine.thread, List.getElem?_eq_getElem lt]
  have shaped := sound.shaped u lt
  rw [self]
  by_cases hu : u = t
  · subst hu
    rw [top] at shaped ⊢
    obtain ⟨-, -, -, -, shapedBelow⟩ := shaped.below_lookup
    rw [Thread.remaining_lookup, (Thread.nothing_of_runs runs key.kind style below []).1,
      Thread.remaining_eq_nil shapedBelow outside]
    rfl
  · refine Thread.remaining_eq_nil shaped fun mem => ?_
    have mine : m.world.state.bulk.get key.kind = some u :=
      (sound.coherent.owned.iff (.bulk key.kind) u).2 mem
    rcases settles with settled | ⟨opened, rfl⟩
    · have all := sound.coherent.wf.bulkMode key.kind u mine
      rw [settled] at all
      cases all
    · have carries : .bulk key.kind ∈ (m.thread t).jobs := by
        rw [top, Thread.jobs_lookup]
        exact List.mem_cons_self
      have yours : m.world.state.bulk.get key.kind = some t :=
        (sound.coherent.owned.iff (.bulk key.kind) t).2 carries
      rw [mine] at yours
      exact hu (Option.some.inj yours)

/-- A lookup of a kind that started with all its candidates to be loaded, and that says what
there is, answers what the registry provides when the kind is settled and every candidate that
was listed has been tried, unless it is made inside the kind's bulk load or refuses to wait. -/
theorem Traced.whole_view (h : Traced hosts modes step.before history)
    (answers : step.Answers hosts key below ran result) (decided : Decided result)
    (start : modes.get key.kind = .loadAll) (outside : .bulk key.kind ∉ below.jobs)
    (free : ∀ owner, ¬ ran.Refuses key step.before.world.state owner) :
    step.after.world.state.modes.get key.kind = .settled ∧
      result = step.before.world.state.provided key ∧
      ∃ begins ∈ history, ∃ candidates, begins.Lists hosts key.kind candidates ∧
        (history.tried key.kind).Perm candidates := by
  obtain ⟨host, -, taken, style, stage, top, runs⟩ := answers.runs
  have sound := h.reachable.sound
  have mode : step.before.world.state.modes.get key.kind ≠ .byName := by
    intro named
    rw [h.byName_iff, start] at named
    cases named
  have unowned : stage.job? key = none →
      step.before.world.state.bulk.get key.kind ≠ some step.thread := by
    intro none mine
    have mem := (sound.coherent.owned.iff (.bulk key.kind) step.thread).1 mine
    rw [top, Thread.jobs_lookup, none] at mem
    exact outside mem
  obtain ⟨settles, provided⟩ := Section.settled_of_answer runs answers.answer decided mode
    (h.unnamed start top) unowned free
  have none := sound.remaining_eq_nil top runs settles outside
  have asked : key.kind ∈ step.before.kindsAsked := by
    refine (h.asked_iff key.kind).2 ⟨start, ?_⟩
    rcases settles with settled | ⟨opened, rfl⟩
    · exact .inr settled
    · have carries : .bulk key.kind ∈ (step.before.thread step.thread).jobs := by
        rw [top, Thread.jobs_lookup]
        exact List.mem_cons_self
      have busy : step.before.world.state.bulk.get key.kind = some step.thread :=
        (sound.coherent.owned.iff (.bulk key.kind) step.thread).2 carries
      exact .inl (by simp [busy])
  refine ⟨?_, provided, h.all_tried asked none⟩
  rcases settles with settled | ⟨opened, rfl⟩
  · obtain ⟨turn, takes⟩ := step_takes sound taken
    cases takes.bulkMove sound key.kind with
    | rest _ same _ => rw [same, settled]
    | begins _ all _ _ _ =>
      rw [settled] at all
      cases all
    | ends _ all _ _ _ =>
      rw [settled] at all
      cases all
  · cases runs
    rw [answers.state]
    exact LoaderState.modes_settled ..

/-- The second thread answers once the first one has loaded all converters, although its
converter was registered when it began. -/
def crossingAnswer : Step :=
  ⟨(converterRun crossing).1, 1, (converterRun (crossing ++ [1])).1⟩

theorem answers_crossingAnswer :
    crossingAnswer.Answers {converterHost} ⟨.converter, "a"⟩ [.script .program []]
      (crossingAnswer.before.world.state.resumeBulk converterHost 1 ⟨.converter, "a"⟩)
      (.ok (.word 7)) :=
  ⟨⟨converterHost, rfl, rfl, .full, .awaitingBulk true, rfl, rfl⟩, rfl⟩

/-- Both converters had been tried when the second thread answered. -/
theorem whole_view_crossing :
    crossingAnswer.after.world.state.modes.get .converter = .settled ∧
      .ok (.word 7) = crossingAnswer.before.world.state.provided ⟨.converter, "a"⟩ ∧
      ∃ begins ∈ (converterRun crossing).2, ∃ candidates,
        begins.Lists {converterHost} .converter candidates ∧
          ((converterRun crossing).2.tried .converter).Perm candidates := by
  refine (traced_converterRun crossing).whole_view answers_crossingAnswer (.found _) rfl
    List.not_mem_nil ?_
  intro owner refuses
  cases refuses with
  | bulk busy _ => cases busy
  | name busy _ => cases busy

end Machine

end PluginHost
