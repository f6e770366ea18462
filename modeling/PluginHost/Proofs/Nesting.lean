import Mathlib.Data.Set.Card
import PluginHost.Proofs.InProgress
import PluginHost.Proofs.NameLoads

/-!
# How deeply loads are nested

The init of a module may look up names, and so may a module that is being closed: while a file is
being opened others are opened on top of it.  A lookup of a key or a kind that its own thread is
already loading does not load it again, and so the loads on a stack differ in what they load.
The marks stay until a load is over, also while a module is closed that cannot be kept.

Main results:

- Theorem `Section.goesOn`: how a lookup goes on after a lock section.
- Theorem `Thread.Shaped.length_openings_le`: each module that is being opened has a load.
- Theorem `Machine.Traced.valid_of_job`: a key is loaded by name only if there is a file for it.
- Theorems `Machine.Sound.nodup_loadingKeys` and `Machine.Sound.nodup_loadingKinds`: no key is
  being loaded by name twice on a stack, and no kind is.
- Theorem `Machine.Traced.length_jobs_le`: there is a bound on the loads of a stack.
-/

namespace PluginHost

/-! ## How lookups go on -/

namespace Stage

variable {stage after : Stage} {path : Path}

/-- A lookup that opens a file goes on with its load. -/
theorem job?_of_opening? (h : stage.opening? = some (path, after)) (key : Key) :
    after.job? key = stage.job? key := by
  unfold opening? at h
  split at h <;> cases h <;> rfl

theorem job?_told (opens : stage.opens = true) (outcome : Except LoadError Handle) (key : Key) :
    (stage.told outcome).job? key = stage.job? key := by
  unfold Stage.opens at opens
  split at opens
  · cases outcome <;> rfl
  · rfl
  · cases opens

/-- A lookup that waits carries out no load. -/
theorem job?_of_parked (h : stage.parked = true) (key : Key) : stage.job? key = none := by
  unfold parked at h
  split at h
  · rfl
  · rfl
  · cases h

end Stage

/-- How a lookup goes on from a stage after the lock section that it runs there. -/
inductive Stage.GoesOn (host : Host) (key : Key) (s : LoaderState) : Stage → Next → Prop
  | answers {stage : Stage} (result : Except LoadError Payload) :
      GoesOn host key s stage (.answer result)
  | waits {stage after : Stage} (ready : stage.ready = true) (parked : after.parked = true) :
      GoesOn host key s stage (.stage after)
  | loads {stage : Stage} {load : Nat} {path : Path} (ready : stage.ready = true)
      (up : s.isShutDown = false) (valid : (host.resolver.one key.kind key.name).valid = true) :
      GoesOn host key s stage (.stage (.loadingName load path))
  | lists {stage : Stage} (paths : List Path) (ready : stage.ready = true)
      (up : s.isShutDown = false) : GoesOn host key s stage (.stage (.loadingBulk paths []))
  | closesBulk {opened : List Handle} (down : s.isShutDown = true) :
      GoesOn host key s (.loadingBulk [] opened) (.discard opened .closingBulk)
  | closesName {load : Nat} {path : Path} {handle : Handle} (failure : LoadError) :
      GoesOn host key s (.openedName load path (.ok handle))
        (.discard [handle] (.closingName load failure))

namespace Section

variable {host : Host} {me : ThreadId} {key : Key} {stage : Stage} {s s' : LoaderState}
  {ran : Section}

theorem search_goesOn (ready : stage.ready = true) (up : s.isShutDown = false) :
    stage.GoesOn host key s (s'.search host me key).next := by
  have outcome := LoaderState.search_cases host me key s'
  generalize s'.search host me key = ran at outcome
  cases outcome with
  | found _ => exact .answers _
  | absent _ _ => exact .answers _
  | mine _ _ _ _ => exact .answers _
  | refused _ _ _ _ _ => exact .answers _
  | invalid _ _ _ _ => exact .answers _
  | waits _ _ _ _ _ => exact .waits ready rfl
  | starts _ _ _ valid => exact .loads ready up valid

/-- How a lookup goes on after a lock section; one that goes on with its search wakes nobody. -/
theorem goesOn (runs : stage.lockSection? host me key s = some ran) :
    stage.GoesOn host key s ran.next ∧ (stage.ready = true → ran.wakes = false) := by
  have asleep : ∀ s' : LoaderState, (s'.search host me key).wakes = false := fun s' =>
    (s'.search_searched host me key).2
  have awake : ∀ {wakes : Bool}, false = true → wakes = false := fun ready => by cases ready
  cases Stage.runs runs with
  | nameless _ => exact ⟨.answers _, fun _ => rfl⟩
  | refused _ _ _ => exact ⟨.answers _, fun _ => rfl⟩
  | shared _ => exact ⟨.answers _, fun _ => rfl⟩
  | again up => exact ⟨search_goesOn rfl up, fun _ => asleep _⟩
  | inside settles up _ =>
    exact ⟨search_goesOn (Stage.ready_of_settles settles) up, fun _ => asleep _⟩
  | insists settles up _ _ _ =>
    exact ⟨search_goesOn (Stage.ready_of_settles settles) up, fun _ => asleep _⟩
  | free settles up _ _ =>
    exact ⟨search_goesOn (Stage.ready_of_settles settles) up, fun _ => asleep _⟩
  | awaits settles _ _ _ _ => exact ⟨.waits (Stage.ready_of_settles settles) rfl, fun _ => rfl⟩
  | lists settles up _ _ => exact ⟨.lists _ (Stage.ready_of_settles settles) up, fun _ => rfl⟩
  | @settled opened _ =>
    have mode : ((s.endBulk key.kind).keep opened).modes.get key.kind = .settled := by
      simp [LoaderState.endBulk, LoaderState.keep]
    obtain ⟨result, next, -⟩ := LoaderState.search_settled host me mode
    exact ⟨next ▸ .answers result, awake⟩
  | settledLate down => exact ⟨.closesBulk down, awake⟩
  | closed => exact ⟨.answers _, awake⟩
  | adopted _ _ => exact ⟨.answers _, awake⟩
  | rejected _ _ => exact ⟨.closesName _, awake⟩
  | openedLate _ => exact ⟨.closesName _, awake⟩
  | unopened => exact ⟨.answers _, awake⟩
  | failed => exact ⟨.answers _, awake⟩

end Section

/-! ## Loads on a stack -/

/-- The key of a load by name. -/
def Job.key? : Job → Option Key
  | .name key _ => some key
  | .bulk _ => none

/-- The kind of a bulk load. -/
def Job.kind? : Job → Option Kind
  | .name _ _ => none
  | .bulk kind => some kind

namespace Thread

/-- The keys that a thread is loading by name, the innermost first. -/
def loadingKeys (thread : Thread) : List Key :=
  thread.jobs.filterMap Job.key?

/-- The kinds that a thread is loading as a whole, the innermost first. -/
def loadingKinds (thread : Thread) : List Kind :=
  thread.jobs.filterMap Job.kind?

theorem mem_loadingKeys {thread : Thread} {key : Key} :
    key ∈ thread.loadingKeys ↔ ∃ load, .name key load ∈ thread.jobs := by
  rw [loadingKeys, List.mem_filterMap]
  constructor
  · rintro ⟨job, mem, eq⟩
    cases job with
    | bulk kind => cases eq
    | name key load =>
      cases eq
      exact ⟨load, mem⟩
  · rintro ⟨load, mem⟩
    exact ⟨_, mem, rfl⟩

theorem mem_loadingKinds {thread : Thread} {kind : Kind} :
    kind ∈ thread.loadingKinds ↔ .bulk kind ∈ thread.jobs := by
  rw [loadingKinds, List.mem_filterMap]
  constructor
  · rintro ⟨job, mem, eq⟩
    cases job with
    | bulk kind =>
      cases eq
      exact mem
    | name key load => cases eq
  · intro mem
    exact ⟨_, mem, rfl⟩

/-- Every load is one by name or one of a kind. -/
theorem length_jobs (thread : Thread) :
    thread.jobs.length = thread.loadingKeys.length + thread.loadingKinds.length := by
  rw [loadingKeys, loadingKinds]
  induction thread.jobs with
  | nil => rfl
  | cons job jobs ih =>
    cases job with
    | bulk kind =>
      rw [List.length_cons, ih]
      rfl
    | name key load =>
      rw [List.length_cons, ih]
      exact Nat.add_right_comm ..

/-- Each module that is being opened has a load that opens it, on which nothing else stands. -/
theorem Shaped.length_openings_le {thread : Thread} (shaped : thread.Shaped) :
    thread.openings.length + (thread.head?.bind Frame.job?).toList.length ≤
      thread.jobs.length := by
  induction shaped with
  | program rest => exact Nat.le_refl 0
  | @push upper lower below on shaped ih =>
    have bare : (openings (lower :: below)).length ≤ (jobs (lower :: below)).length :=
      (Nat.le_add_right _ _).trans ih
    cases on with
    | initBulk => exact ih
    | initName => exact ih
    | lookup key style stage role rest =>
      rw [jobs_lookup, List.length_append, Nat.add_comm]
      exact Nat.add_le_add_left bare _
    | request => exact bare
    | shutdown => exact bare
    | discardBulk => exact bare
    | discardName => exact bare
    | teardown => exact bare

theorem jobs_afterSection (w : World) (key : Key) (style : Style) (below : Thread) (ran : Section) :
    (afterSection w key style below ran).thread.jobs =
      (ran.next.resumed?.bind (Stage.job? key)).toList ++ jobs below := by
  cases next : ran.next with
  | answer result =>
    rw [(afterSection_answer w key style below next).1]
    rfl
  | stage after =>
    rw [afterSection_stage next]
    exact jobs_lookup ..
  | discard handles after =>
    rw [afterSection_discard next]
    exact jobs_lookup ..

variable {host : Host} {me : ThreadId} {w : World} {turn : Turn} {thread : Thread} {key : Key}
  {load : Nat}

/-- A load by name that a thread carries out after a turn was there before, or there is a file for
it. -/
theorem Effect.valid_of_job (h : Effect host me w turn thread)
    (mem : .name key load ∈ turn.thread.jobs) :
    .name key load ∈ thread.jobs ∨ (host.resolver.one key.kind key.name).valid = true := by
  cases h with
  | act back _ => exact .inl (by rwa [back] at mem)
  | call request called _ => exact .inl (by rwa [called] at mem)
  | seek other style _ began _ => exact .inl (by rwa [began] at mem)
  | serve _ back _ _ => exact .inl (by rwa [back] at mem)
  | shut _ back _ _ _ _ => exact .inl (by rwa [back] at mem)
  | release _ closes _ _ _ _ _ => exact .inl (by rwa [closes] at mem)
  | init pending script opening began _ =>
    rw [began, jobs_script, jobs_lookup, Stage.job?_of_opening? opening] at mem
    exact .inl (by rwa [jobs_lookup])
  | refused failure opening told _ =>
    rw [told, jobs_lookup, Stage.job?_told (Stage.opens_of_opening? opening),
      Stage.job?_of_opening? opening] at mem
    exact .inl (by rwa [jobs_lookup])
  | opened opens told _ _ _ _ =>
    rw [told, jobs_lookup, Stage.job?_told opens] at mem
    exact .inl (by rwa [jobs_script, jobs_lookup])
  | @locked other style stage below ran runs eq =>
    have goes := (Section.goesOn runs).1
    rw [eq, jobs_afterSection] at mem
    rw [jobs_lookup]
    rcases List.mem_append.1 mem with mine | old
    · generalize ran.next = next at goes mine
      cases goes with
      | answers result => cases mine
      | waits ready parked =>
        rw [Next.resumed?, Option.bind_some, Stage.job?_of_parked parked] at mine
        cases mine
      | loads ready up valid =>
        cases List.mem_singleton.1 mine
        exact .inr valid
      | lists paths ready up => cases List.mem_singleton.1 mine
      | closesBulk down => cases mine
      | closesName failure => exact .inl (List.mem_append_left _ mine)
    · exact .inl (List.mem_append_right _ old)
  | close upper report' script closes _ =>
    rw [closes] at mem
    rcases script with rfl | ⟨_, rfl⟩
    · exact .inl mem
    · exact .inl mem
  | closed report' back _ => exact .inl (by rwa [back] at mem)
  | finish back _ => exact .inl (by rwa [back] at mem)

end Thread

/-! ## Machines -/

/-- The keys for which there is a file to open, if only one of the hosts says so. -/
def validKeys (hosts : Set Host) : Set Key :=
  {key | ∃ host ∈ hosts, (host.resolver.one key.kind key.name).valid = true}

/-- The kinds that are loaded as a whole. -/
def bulkKinds (modes : PerKind SearchMode) : List Kind :=
  Kind.all.filter fun kind => modes.get kind = .loadAll

namespace Machine

variable {hosts : Set Host} {modes : PerKind SearchMode} {m : Machine} {history : History}
  {key : Key} {kind : Kind} {load : Nat}

namespace Sound

/-- No key is being loaded by name twice on a stack: its mark names one load. -/
theorem nodup_loadingKeys (sound : m.Sound) (t : ThreadId) : (m.thread t).loadingKeys.Nodup := by
  refine List.pairwise_filterMap.2 ((sound.coherent.owned.nodup t).imp_of_mem ?_)
  intro job job' mem mem' differ key eq key' eq' same
  subst same
  cases job with
  | bulk kind => cases eq
  | name key load =>
    cases job' with
    | bulk kind => cases eq'
    | name key' load' =>
      cases eq
      cases eq'
      exact differ (by rw [(sound.eq_of_mem_jobs mem mem').2])

/-- No kind is being loaded as a whole twice on a stack. -/
theorem nodup_loadingKinds (sound : m.Sound) (t : ThreadId) : (m.thread t).loadingKinds.Nodup := by
  refine List.pairwise_filterMap.2 ((sound.coherent.owned.nodup t).imp ?_)
  intro job job' differ kind eq kind' eq' same
  subst same
  cases job with
  | name key load => cases eq
  | bulk kind =>
    cases job' with
    | name key' load' => cases eq'
    | bulk kind' =>
      cases eq
      cases eq'
      exact differ rfl

end Sound

namespace Traced

variable (h : Traced hosts modes m history)
include h

/-- A key is loaded by name only if there is a file for it. -/
theorem valid_of_job {t : ThreadId} (mem : .name key load ∈ (m.thread t).jobs) :
    key ∈ validKeys hosts := by
  refine h.invariant (P := fun m _ => ∀ t, .name key load ∈ (m.thread t).jobs →
    key ∈ validKeys hosts) ?_ ?_ ?_ t mem
  · intro t mem
    rw [thread_eq_nil (Nat.zero_le t)] at mem
    cases mem
  · intro m next _ valid untouched t mem
    exact valid t (untouched.jobs t ▸ mem)
  · intro m next _ host me turn _ valid among takes t mem
    by_cases ht : t = me
    · subst ht
      rw [takes.thread_self, Thread.jobs_wakeIf] at mem
      rcases takes.effect.valid_of_job mem with old | file
      · exact valid t old
      · exact ⟨host, among, file⟩
    · rw [takes.thread_of_ne ht, Thread.jobs_wakeIf] at mem
      exact valid t mem

/-- A kind is loaded as a whole only if it was to be loaded so from the start. -/
theorem bulkKind_of_job {t : ThreadId} (mem : .bulk kind ∈ (m.thread t).jobs) :
    kind ∈ bulkKinds modes := by
  have sound := h.reachable.sound
  have busy := (sound.coherent.owned.iff _ t).2 mem
  have start := h.start_eq_loadAll (sound.coherent.wf.bulkMode kind t busy)
  exact List.mem_filter.2 ⟨Kind.mem_all kind, decide_eq_true start⟩

/-- There is a bound on the loads that a thread carries out at a time. -/
theorem length_jobs_le (finite : (validKeys hosts).Finite) (t : ThreadId) :
    (m.thread t).jobs.length ≤ (validKeys hosts).ncard + (bulkKinds modes).length := by
  have sound := h.reachable.sound
  rw [Thread.length_jobs]
  refine Nat.add_le_add ?_ ?_
  · rw [← List.toFinset_card_of_nodup (sound.nodup_loadingKeys t), ← Set.ncard_coe_finset]
    refine Set.ncard_le_ncard (fun key mem => ?_) finite
    obtain ⟨load, mem⟩ := Thread.mem_loadingKeys.1 (List.mem_toFinset.1 mem)
    exact h.valid_of_job mem
  · refine ((sound.nodup_loadingKinds t).subperm fun kind mem => ?_).length_le
    exact h.bulkKind_of_job (Thread.mem_loadingKinds.1 mem)

end Traced

end Machine
end PluginHost
