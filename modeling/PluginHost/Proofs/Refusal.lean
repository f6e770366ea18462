import Mathlib.Data.Set.Insert
import PluginHost.Proofs.Coherence

/-!
# Refused waits

A lookup refuses to wait for a load whose owner waits, directly or not, for the thread
that looks up.  The waits that count are those for a load in progress.  A wait stays on
record until the thread that waits has the lock again, so between the end of a load and
that moment a chain of waits may lead through a thread that is late: it is about to go
on, and the one it waited for may own no load any more.

Main results:

- Theorems `LoaderState.search_loadingByWaiter_iff` and
  `LoaderState.settle_bulkNotAwaited_iff`: when a search refuses to wait.
- Theorem `Machine.Sound.leadsFrom_of_refused`: whichever turn a wait is refused in, the
  owner of the load leads back to the lookup.
- Theorem `Machine.Reachable.refused_iff`: a refused wait would have closed a cycle
  exactly if no thread on the chain is late.
- Theorem `Machine.exists_refused_without_cycle`: a lookup may be refused although its
  thread owns no load.
-/

namespace PluginHost

open Relation

/-! ## Sections that refuse to wait -/

/-- The section that a lookup runs in its next turn to search its key, when it begins or
has been woken. -/
def Stage.searching? (host : Host) (me : ThreadId) (key : Key) (s : LoaderState) :
    Stage → Option Section
  | .entering => some (s.enter host me key)
  | .awaitingBulk true => some (s.resumeBulk host me key)
  | .awaitingLoad load true => some (s.resumeLoad host me key load)
  | _ => none

/-- A section of a lookup refuses to wait for a load in progress that a thread carries out:
it gives up waiting for the bulk load of its kind, or it fails because the load of its
name waits for the lookup. -/
inductive Section.Refuses (ran : Section) (key : Key) (s : LoaderState) : ThreadId → Prop
  | bulk {owner : ThreadId} (busy : s.bulk.get key.kind = some owner)
      (gaveUp : .notice (.bulkNotAwaited key.kind) ∈ ran.events) : Refuses ran key s owner
  | name {load : Load} (busy : Assoc.find? key s.byName = some load)
      (failed : ran.next = .answer (.error (.notFound (.loadingByWaiter key.kind key.name)))) :
      Refuses ran key s load.owner

/-- Whether a section refuses to wait depends on the loads in progress only. -/
theorem Section.Refuses.of_loads {ran : Section} {key : Key} {s s' : LoaderState}
    {owner : ThreadId} (h : ran.Refuses key s owner) (bulk : s'.bulk = s.bulk)
    (byName : s'.byName = s.byName) : ran.Refuses key s' owner := by
  cases h with
  | bulk busy gaveUp => exact .bulk (bulk ▸ busy) gaveUp
  | name busy failed => exact .name (byName ▸ busy) failed

/-- A lookup that fails in another way refuses nothing. -/
theorem Section.Refuses.failure_eq {key : Key} {s s' : LoaderState} {owner : ThreadId}
    {failure : LoadError}
    (h : Section.Refuses ⟨s', .answer (.error failure), [], false⟩ key s owner) :
    failure = .notFound (.loadingByWaiter key.kind key.name) := by
  cases h with
  | bulk busy gaveUp => cases gaveUp
  | name busy failed =>
    cases failed
    rfl

namespace LoaderState

variable {host : Host} {me owner : ThreadId} {key : Key} {s : LoaderState}

/-- A search fails because the load of its name waits for it exactly when it comes upon a
load of another thread that leads back to it. -/
theorem search_loadingByWaiter_iff :
    (s.search host me key).next =
        .answer (.error (.notFound (.loadingByWaiter key.kind key.name))) ↔
      s.registry.find? key = none ∧ s.modes.get key.kind = .byName ∧
        ∃ load, Assoc.find? key s.byName = some load ∧ load.owner ≠ me ∧
          s.closesCycle me load.owner = true := by
  have outcome := search_cases host me key s
  generalize s.search host me key = ran at outcome
  cases outcome with
  | found registered => simp [registered]
  | absent _ mode => simp [mode]
  | mine _ _ busy own => simp [busy, own]
  | refused unregistered mode busy other cycle => simp [unregistered, mode, busy, other, cycle]
  | waits _ _ busy _ free => simp [busy, free]
  | starts _ _ idle _ => simp [idle]
  | invalid _ _ idle _ => simp [idle]

theorem not_mem_search_events :
    .notice (.bulkNotAwaited key.kind) ∉ (s.search host me key).events := by
  have outcome := search_cases host me key s
  generalize s.search host me key = ran at outcome
  cases outcome <;> simp

/-- A lookup gives up waiting for the bulk load of its kind exactly when that is a load of
another thread that leads back to it. -/
theorem settle_bulkNotAwaited_iff :
    .notice (.bulkNotAwaited key.kind) ∈ (s.settle host me key).events ↔
      ∃ owner, s.bulk.get key.kind = some owner ∧ owner ≠ me ∧ s.closesCycle me owner = true := by
  unfold settle
  cases s.bulk.get key.kind with
  | none =>
    dsimp only
    split
    · simp
    · simp [not_mem_search_events]
  | some owner =>
    dsimp only
    split
    · next mine => simp [not_mem_search_events, mine]
    · next other =>
      split
      · next cycle => simp [other, cycle]
      · next free => simp [free]

/-- A search refuses to wait only for a load that leads back to the lookup. -/
theorem closesCycle_of_search_refuses (h : (s.search host me key).Refuses key s owner) :
    owner ≠ me ∧ s.closesCycle me owner = true := by
  cases h with
  | bulk busy gaveUp => exact absurd gaveUp not_mem_search_events
  | @name load busy failed =>
    obtain ⟨-, -, load', busy', other, cycle⟩ := search_loadingByWaiter_iff.1 failed
    obtain rfl : load = load' := Option.some.inj (busy.symm.trans busy')
    exact ⟨other, cycle⟩

theorem closesCycle_of_settle_refuses (h : (s.settle host me key).Refuses key s owner) :
    owner ≠ me ∧ s.closesCycle me owner = true := by
  cases h with
  | bulk busy gaveUp =>
    obtain ⟨owner', busy', other, cycle⟩ := settle_bulkNotAwaited_iff.1 gaveUp
    obtain rfl : owner = owner' := Option.some.inj (busy.symm.trans busy')
    exact ⟨other, cycle⟩
  | @name load busy failed =>
    -- A lookup that neither waits for a bulk load nor begins one searches its key.
    have refuses : (s.search host me key).Refuses key s load.owner := by
      refine .name busy ?_
      unfold settle at failed
      split at failed
      · split at failed
        · exact failed
        · split at failed
          · exact failed
          · cases failed
      · split at failed
        · cases failed
        · exact failed
    exact closesCycle_of_search_refuses refuses

theorem closesCycle_of_enter_refuses (h : (s.enter host me key).Refuses key s owner) :
    owner ≠ me ∧ s.closesCycle me owner = true := by
  unfold enter at h
  split at h
  · cases h.failure_eq
  · split at h
    · cases h.failure_eq
    · -- The table of the kind, which the section makes, has no part in this.
      have refuses : ((s.touch key.kind).settle host me key).Refuses key (s.touch key.kind) owner :=
        h.of_loads rfl rfl
      have cycle := closesCycle_of_settle_refuses refuses
      exact cycle

theorem closesCycle_of_resumeBulk_refuses (h : (s.resumeBulk host me key).Refuses key s owner) :
    owner ≠ me ∧ (s.unpark me).closesCycle me owner = true := by
  simp only [resumeBulk] at h
  split at h
  · cases h.failure_eq
  · exact closesCycle_of_settle_refuses (h.of_loads rfl rfl)

theorem closesCycle_of_resumeLoad_refuses {load : Nat} (wf : s.Wf)
    (h : (s.resumeLoad host me key load).Refuses key s owner) :
    owner ≠ me ∧ (s.unpark me).closesCycle me owner = true := by
  simp only [resumeLoad] at h
  split at h
  · cases h.failure_eq
  · split at h
    · next failed failure found =>
      split at h
      · -- A failure is on record only while no load of its key is in progress.
        exfalso
        cases h with
        | bulk busy gaveUp => cases gaveUp
        | name busy _ =>
          have lost := wf.unfailed key _ busy
          rw [show Assoc.find? key s.failures = some (failed, failure) from found] at lost
          cases lost
      · exact closesCycle_of_search_refuses (h.of_loads rfl rfl)
    · exact closesCycle_of_search_refuses (h.of_loads rfl rfl)

end LoaderState

namespace Machine

/-! ## Chains of waits -/

variable {hosts : Set Host} {modes : PerKind SearchMode} {m : Machine} {host : Host}
  {me owner : ThreadId}

/-- A thread waits for a load in progress, and another carries that load out. -/
def WaitsOn (m : Machine) (t u : ThreadId) : Prop :=
  Waits.Edge m.world.state.waits t u ∧
    ∃ job, (m.thread t).awaited? = some job ∧ m.world.state.owner? job = some u

/-- A thread still stands where it waited for a load that has ended. -/
def Late (m : Machine) (t : ThreadId) : Prop :=
  ∃ job, (m.thread t).awaited? = some job ∧ m.world.state.owner? job = none

/-- In its next turn a thread has the lock, and its lookup refuses to wait for a load that
another thread carries out. -/
def Refused (host : Host) (m : Machine) (me owner : ThreadId) : Prop :=
  ∃ key style stage below ran, m.thread me = .lookup key style stage :: below ∧
    stage.searching? host me key m.world.state = some ran ∧ ran.Refuses key m.world.state owner

/-- The waits as the lookup of a thread that has the lock finds them. -/
abbrev LeadsFrom (m : Machine) (me : ThreadId) : ThreadId → ThreadId → Prop :=
  Waits.Leads (m.world.state.unpark me).waits

/-- A wait is refused only for a load of another thread that leads back to the lookup. -/
theorem Sound.leadsFrom_of_refused (h : m.Sound) (refused : Refused host m me owner) :
    owner ≠ me ∧ m.LeadsFrom me owner me := by
  obtain ⟨key, style, stage, below, ran, before, searching, refuses⟩ := refused
  have cycle : owner ≠ me ∧ (m.world.state.unpark me).closesCycle me owner = true := by
    cases stage with
    | entering =>
      cases searching
      have awake : (m.thread me).awaited? = none := by rw [before]; rfl
      rw [LoaderState.unpark_of_not_waiting (h.coherent.waiting.find?_eq_none awake)]
      exact LoaderState.closesCycle_of_enter_refuses refuses
    | awaitingBulk woken =>
      cases woken <;> cases searching
      exact LoaderState.closesCycle_of_resumeBulk_refuses refuses
    | awaitingLoad load woken =>
      cases woken <;> cases searching
      exact LoaderState.closesCycle_of_resumeLoad_refuses h.coherent.wf refuses
    | loadingBulk todo opened => cases searching
    | closingBulk => cases searching
    | loadingName load path => cases searching
    | openedName load path outcome => cases searching
    | closingName load failure => cases searching
  exact ⟨cycle.1, (Waits.closesCycle_iff ..).1 cycle.2⟩

/-- A wait is for the owner of a load in progress, or its thread is late. -/
theorem Sound.waitsOn_or_late (h : m.Sound) {t u : ThreadId}
    (edge : Waits.Edge m.world.state.waits t u) : m.WaitsOn t u ∨ m.Late t := by
  obtain ⟨job, awaited, busy | ⟨-, ended⟩⟩ := h.coherent.waiting.exists_awaited edge
  · exact .inl ⟨edge, job, awaited, busy⟩
  · exact .inr ⟨job, awaited, ended.idle⟩

theorem WaitsOn.not_late {t u : ThreadId} (h : m.WaitsOn t u) : ¬ m.Late t := by
  rintro ⟨job, awaited, idle⟩
  obtain ⟨-, job', awaited', busy⟩ := h
  rw [awaited, Option.some.injEq] at awaited'
  rw [← awaited', idle] at busy
  cases busy

/-- The thread that a wait counts for carries out a load. -/
theorem Sound.jobs_of_waitsOn (h : m.Sound) {t u : ThreadId} (waits : m.WaitsOn t u) :
    (m.thread u).jobs ≠ [] := by
  obtain ⟨-, job, -, busy⟩ := waits
  exact List.ne_nil_of_mem ((h.coherent.owned.iff job u).1 busy)

theorem edge_unpark {t u : ThreadId} :
    Waits.Edge (m.world.state.unpark me).waits t u ↔
      t ≠ me ∧ Waits.Edge m.world.state.waits t u :=
  Waits.edge_erase

/-- Nothing but the thread itself follows it on its own chain. -/
theorem eq_of_leadsFrom_self {u : ThreadId} (h : m.LeadsFrom me me u) : u = me := by
  rcases ReflTransGen.cases_head h with rfl | ⟨v, edge, -⟩
  · rfl
  · exact absurd rfl (edge_unpark.1 edge).1

/-- If every wait on the way to a thread counts, nobody on the way is late. -/
theorem not_late_of_waitsOn {t u : ThreadId} (chain : ReflTransGen m.WaitsOn t me)
    (on : m.LeadsFrom me t u) (ne : u ≠ me) : ¬ m.Late u := by
  induction chain using ReflTransGen.head_induction_on with
  | refl => exact absurd (eq_of_leadsFrom_self on) ne
  | head waits _ ih =>
    rcases ReflTransGen.cases_head on with rfl | ⟨v, edge, rest⟩
    · exact waits.not_late
    · obtain rfl := waits.1.unique (edge_unpark.1 edge).2
      exact ih rest

/-- If nobody on the way to a thread is late, every wait on the way counts. -/
theorem Sound.waitsOn_of_not_late (h : m.Sound) {t : ThreadId} (chain : m.LeadsFrom me t me)
    (prompt : ∀ u, m.LeadsFrom me t u → u ≠ me → ¬ m.Late u) : ReflTransGen m.WaitsOn t me := by
  induction chain using ReflTransGen.head_induction_on with
  | refl => exact .refl
  | head edge _ ih =>
    obtain ⟨ne, edge'⟩ := edge_unpark.1 edge
    have waits := (h.waitsOn_or_late edge').resolve_right (prompt _ .refl ne)
    exact .head waits (ih fun u on => prompt u (.head edge on))

/-! ## Refused lookups -/

/-- A refused wait would have closed a cycle of waits for loads in progress, and so its
thread owns a load, exactly if nobody on the chain is late.  A thread without a load is
refused only because of a late thread that waited for it. -/
theorem Reachable.refused_iff (h : Reachable hosts modes m) (refused : Refused host m me owner) :
    ((m.thread me).jobs ≠ [] ∧ ReflTransGen m.WaitsOn owner me ↔
        ∀ u, m.LeadsFrom me owner u → u ≠ me → ¬ m.Late u) ∧
      ((m.thread me).jobs = [] →
        ∃ u, m.LeadsFrom me owner u ∧ Waits.Edge m.world.state.waits u me ∧ m.Late u) := by
  obtain ⟨other, chain⟩ := h.sound.leadsFrom_of_refused refused
  obtain rfl | ⟨last, before, edge⟩ := ReflTransGen.cases_tail chain
  · exact absurd rfl other
  have counts := h.sound.waitsOn_or_late (edge_unpark.1 edge).2
  refine ⟨⟨fun cycle u => not_late_of_waitsOn cycle.2, fun prompt => ?_⟩, fun none => ?_⟩
  · refine ⟨?_, h.sound.waitsOn_of_not_late chain prompt⟩
    have waits := counts.resolve_right (prompt last before (edge_unpark.1 edge).1)
    exact h.sound.jobs_of_waitsOn waits
  · refine ⟨last, before, (edge_unpark.1 edge).2, counts.resolve_left fun waits => ?_⟩
    exact h.sound.jobs_of_waitsOn waits none

/-- A host with two modules: one looks up `b` while it is opened, the other fails to
open. -/
def dependentHost : Host :=
  let opening (path : Path) : Opening :=
    if path = ⟨[0]⟩ then .run [.request (.tryGet ⟨.filter, "b"⟩)] none (.run [] none)
    else .run [] (some (.loadFailed path "broken")) (.run [] none)
  ⟨⟨fun _ name => ⟨⟨[if name = "a" then 0 else 1]⟩, true⟩, fun _ => []⟩, ⟨opening⟩, .release⟩

/-- A machine in which the load of `b` has just failed, and the thread that carried it out
looks up `a` next.  The thread that loads `a` waited for `b`; it has been woken, but has
not had the lock since. -/
def lateWaiter : Machine :=
  let a : Action := .request (.tryGet ⟨.filter, "a"⟩)
  let b : Action := .request (.tryGet ⟨.filter, "b"⟩)
  (((Machine.initial (.ofFn fun _ => .byName)).spawn [b, a]).spawn [a]).run dependentHost
    [0, 0, 0, 0, 1, 1, 1, 1, 1, 1, 1, 0, 0, 0, 0]

theorem reachable_lateWaiter :
    Reachable {dependentHost} (.ofFn fun _ => .byName) lateWaiter :=
  ((Reachable.initial.spawn _).spawn _).run (Set.mem_singleton dependentHost) _

theorem refused_lateWaiter : Refused dependentHost lateWaiter 0 1 :=
  ⟨⟨.filter, "a"⟩, .full, .entering, [.script .program []], _, rfl, rfl,
    @Section.Refuses.name _ _ _ ⟨1, 1⟩ rfl rfl⟩

/-- The thread that looks up `a` owns no load, and is refused because of the late thread. -/
theorem refused_iff_lateWaiter :
    Refused dependentHost lateWaiter 0 1 ∧ (lateWaiter.thread 0).jobs = [] ∧
      ∃ u, lateWaiter.LeadsFrom 0 1 u ∧ Waits.Edge lateWaiter.world.state.waits u 0 ∧
        lateWaiter.Late u :=
  ⟨refused_lateWaiter, rfl, (reachable_lateWaiter.refused_iff refused_lateWaiter).2 rfl⟩

/-- Not every refused wait would have closed a cycle of waits for loads in progress. -/
theorem exists_refused_without_cycle :
    ¬ ∀ m me owner, Reachable {dependentHost} (.ofFn fun _ => .byName) m →
      Refused dependentHost m me owner →
        (m.thread me).jobs ≠ [] ∧ ReflTransGen m.WaitsOn owner me := by
  intro genuine
  exact (genuine lateWaiter 0 1 reachable_lateWaiter refused_lateWaiter).1 rfl

end Machine
end PluginHost
