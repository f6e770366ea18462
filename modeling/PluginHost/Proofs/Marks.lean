import Mathlib.Data.List.Nodup
import Mathlib.Logic.Function.Basic
import PluginHost.Proofs.Turn

/-!
# The marks of the loads in progress

A load that begins sets a mark with its owner, and a load that ends takes it away.  This
module says what the operations do to the marks, and which facts about loads, modes and
failures they keep.

Main results:

- Theorems `Owned.start` and `Owned.stop`: the marks and the loads on the stacks agree
  before and after a load begins or ends.
- Theorems `LoaderState.Wf.startLoad`, `LoaderState.Wf.finishLoad`,
  `LoaderState.Wf.startBulk` and `LoaderState.Wf.endBulk`: loads are numbered in order, and
  the mode of a kind says which loads it may have.
- Theorems `LoaderState.Over.startLoad`, `LoaderState.Over.finishLoad`,
  `LoaderState.Over.startBulk` and `LoaderState.Over.endBulk`: a load that is over stays
  over.
-/

namespace PluginHost

/-! ## Who carries out which load -/

/-- Every load in progress is carried out by one thread, its owner, and there once. -/
structure Owned (owner? : Job → Option ThreadId) (jobs : ThreadId → List Job) : Prop where
  iff : ∀ job t, owner? job = some t ↔ job ∈ jobs t
  nodup : ∀ t, (jobs t).Nodup

namespace Owned

variable {owner? : Job → Option ThreadId} {jobs : ThreadId → List Job} {me : ThreadId} {job : Job}

/-- A load that was not in progress is begun. -/
theorem start (h : Owned owner? jobs) (idle : owner? job = none) :
    Owned (Function.update owner? job (some me)) (Function.update jobs me (job :: jobs me)) where
  iff other t := by
    have fresh : ∀ u, job ∉ jobs u := fun u hu => by simp [(h.iff job u).2 hu] at idle
    by_cases hj : other = job
    · subst hj
      by_cases ht : t = me
      · subst ht
        simp
      · simp [ht, Ne.symm ht, fresh t]
    · by_cases ht : t = me
      · subst ht
        simp [hj, h.iff]
      · simp [hj, ht, h.iff]
  nodup t := by
    by_cases ht : t = me
    · subst ht
      have fresh : job ∉ jobs t := fun hu => by simp [(h.iff job t).2 hu] at idle
      simpa using ⟨fresh, h.nodup t⟩
    · simpa [ht] using h.nodup t

/-- The innermost load of a thread ends. -/
theorem stop {rest : List Job} (h : Owned owner? jobs) (mine : jobs me = job :: rest) :
    Owned (Function.update owner? job none) (Function.update jobs me rest) where
  iff other t := by
    have once := h.nodup me
    rw [mine, List.nodup_cons] at once
    have owner : owner? job = some me := (h.iff job me).2 (by simp [mine])
    by_cases hj : other = job
    · subst hj
      by_cases ht : t = me
      · subst ht
        simpa using once.1
      · have : other ∉ jobs t := fun hu => ht (by
          have := (h.iff other t).2 hu
          rw [owner] at this
          exact (Option.some.inj this).symm)
        simpa [ht] using this
    · by_cases ht : t = me
      · subst ht
        simp [hj, h.iff, mine]
      · simp [hj, ht, h.iff]
  nodup t := by
    by_cases ht : t = me
    · subst ht
      have once := h.nodup t
      rw [mine, List.nodup_cons] at once
      simpa using once.2
    · simpa [ht] using h.nodup t

end Owned

namespace LoaderState

/-! ## What the operations do to owners -/

variable (s : LoaderState) (me owner : ThreadId) (key : Key) (kind : Kind) (job : Job)

@[simp]
theorem owner?_unpark : (s.unpark me).owner? = s.owner? := by
  funext job
  cases job <;> rfl

@[simp]
theorem owner?_park : (s.park me owner).owner? = s.owner? := by
  funext job
  cases job <;> rfl

theorem SameLoads.owner? {s s' : LoaderState} (h : s.SameLoads s') : s'.owner? = s.owner? := by
  obtain ⟨_, _, rfl⟩ := h
  funext job
  cases job <;> rfl

theorem owner?_startLoad {s : LoaderState} {key : Key}
    (idle : Assoc.find? key s.byName = none) :
    (s.startLoad me key).owner? =
      Function.update s.owner? (.name key s.nextLoad) (some me) := by
  funext job
  cases job with
  | bulk kind => simp [startLoad]
  | name other load =>
    by_cases hk : other = key
    · subst hk
      simp only [owner?, find?_startLoad, idle, Function.update_apply, Job.name.injEq, true_and,
        if_true]
      by_cases hl : load = s.nextLoad
      · simp [hl]
      · simp [hl, Ne.symm hl]
    · simp [owner?, find?_startLoad, hk]

theorem owner?_finishLoad {s : LoaderState} {key : Key} {load : Nat}
    (busy : s.owner? (.name key load) = some me) (result : Except LoadError Payload) :
    (s.finishLoad key load result).owner? = Function.update s.owner? (.name key load) none := by
  rw [owner?_name] at busy
  funext job
  cases job with
  | bulk kind => simp [finishLoad]
  | name other load' =>
    by_cases hk : other = key
    · subst hk
      simp only [owner?, find?_finishLoad, busy, Function.update_apply, Job.name.injEq, true_and,
        if_true]
      by_cases hl : load' = load
      · simp [hl]
      · simp [hl, Ne.symm hl]
    · simp [owner?, find?_finishLoad, hk]

theorem owner?_startBulk :
    (s.startBulk me kind).owner? = Function.update s.owner? (.bulk kind) (some me) := by
  funext job
  cases job with
  | bulk other =>
    by_cases hk : other = kind
    · subst hk
      simp [startBulk]
    · simp [startBulk, hk, PerKind.get_set_of_ne hk]
  | name other load => simp [owner?, startBulk]

theorem owner?_endBulk :
    (s.endBulk kind).owner? = Function.update s.owner? (.bulk kind) none := by
  funext job
  cases job with
  | bulk other =>
    by_cases hk : other = kind
    · subst hk
      simp [endBulk]
    · simp [endBulk, hk, PerKind.get_set_of_ne hk]
  | name other load => simp [owner?, endBulk]

/-! ## Marks and modes -/

/-- Loads by name are numbered in the order in which they begin, a kind has a load in
progress only while its mode provides for it, and the failure on record for a key is that
of a load that has ended, with no other load of the key in progress. -/
structure Wf (s : LoaderState) : Prop where
  fresh : ∀ key load, Assoc.find? key s.byName = some load → load.id < s.nextLoad
  bulkMode : ∀ kind owner, s.bulk.get kind = some owner → s.modes.get kind = .loadAll
  nameMode : ∀ key load, Assoc.find? key s.byName = some load → s.modes.get key.kind = .byName
  failed : ∀ key load failure, Assoc.find? key s.failures = some (load, failure) →
    load < s.nextLoad ∧ s.owner? (.name key load) = none
  unfailed : ∀ key load, Assoc.find? key s.byName = some load → Assoc.find? key s.failures = none

/-- A load has ended: it is not in progress, and it cannot begin again. -/
def Over (s : LoaderState) : Job → Prop
  | .bulk kind => s.bulk.get kind = none ∧ s.modes.get kind ≠ .loadAll
  | .name key load => s.owner? (.name key load) = none ∧ load < s.nextLoad

variable {s : LoaderState} {me owner : ThreadId} {key : Key} {kind : Kind} {job : Job}

theorem Over.idle (h : s.Over job) : s.owner? job = none := by
  cases job with
  | bulk kind => exact h.1
  | name key load => exact h.1

theorem Wf.sameLoads {s' : LoaderState} (h : s.Wf) (same : s.SameLoads s') : s'.Wf := by
  obtain ⟨_, _, rfl⟩ := same
  exact ⟨h.fresh, h.bulkMode, h.nameMode, h.failed, h.unfailed⟩

theorem Over.sameLoads {s' : LoaderState} (h : s.Over job) (same : s.SameLoads s') :
    s'.Over job := by
  obtain ⟨_, _, rfl⟩ := same
  cases job <;> exact h

theorem Wf.unpark (h : s.Wf) (me : ThreadId) : (s.unpark me).Wf :=
  ⟨h.fresh, h.bulkMode, h.nameMode, h.failed, h.unfailed⟩

theorem Wf.park (h : s.Wf) (me owner : ThreadId) : (s.park me owner).Wf :=
  ⟨h.fresh, h.bulkMode, h.nameMode, h.failed, h.unfailed⟩

theorem Over.unpark (h : s.Over job) (me : ThreadId) : (s.unpark me).Over job := by
  cases job <;> exact h

theorem Over.park (h : s.Over job) (me owner : ThreadId) : (s.park me owner).Over job := by
  cases job <;> exact h

/-- The load that begins next is not in progress. -/
theorem Wf.owner?_nextLoad (h : s.Wf) (key : Key) : s.owner? (.name key s.nextLoad) = none := by
  cases owner : s.owner? (.name key s.nextLoad) with
  | none => rfl
  | some t => exact absurd (h.fresh key _ ((owner?_name ..).1 owner)) (Nat.lt_irrefl _)

theorem Wf.startLoad (h : s.Wf) (idle : Assoc.find? key s.byName = none)
    (mode : s.modes.get key.kind = .byName) (me : ThreadId) : (s.startLoad me key).Wf where
  fresh other load found := by
    rw [find?_startLoad] at found
    by_cases hk : other = key
    · rw [if_pos hk, Option.some.injEq] at found
      subst found
      exact Nat.lt_succ_self s.nextLoad
    · rw [if_neg hk] at found
      exact Nat.lt_succ_of_lt (h.fresh other load found)
  bulkMode := h.bulkMode
  nameMode other load found := by
    rw [find?_startLoad] at found
    by_cases hk : other = key
    · rw [hk]
      exact mode
    · rw [if_neg hk] at found
      exact h.nameMode other load found
  failed other load failure found := by
    have found : Assoc.find? other (Assoc.erase key s.failures) = some (load, failure) := found
    rw [Assoc.find?_erase] at found
    by_cases hk : other = key
    · simp [hk] at found
    · rw [if_neg hk] at found
      obtain ⟨old, ended⟩ := h.failed other load failure found
      refine ⟨Nat.lt_succ_of_lt old, ?_⟩
      rw [owner?_startLoad me idle, Function.update_of_ne (by simp [hk])]
      exact ended
  unfailed other load found := by
    rw [find?_startLoad] at found
    show Assoc.find? other (Assoc.erase key s.failures) = none
    rw [Assoc.find?_erase]
    by_cases hk : other = key
    · rw [if_pos hk]
    · rw [if_neg hk] at found ⊢
      exact h.unfailed other load found

theorem Over.startLoad (h : s.Over job) (idle : Assoc.find? key s.byName = none)
    (me : ThreadId) : (s.startLoad me key).Over job := by
  cases job with
  | bulk kind => exact h
  | name other load =>
    obtain ⟨ended, old⟩ := h
    refine ⟨?_, Nat.lt_succ_of_lt old⟩
    rw [owner?_startLoad me idle, Function.update_of_ne (by simp [Nat.ne_of_lt old])]
    exact ended

theorem Wf.startBulk (h : s.Wf) (mode : s.modes.get kind = .loadAll) (me : ThreadId) :
    (s.startBulk me kind).Wf where
  fresh := h.fresh
  bulkMode other owner found := by
    by_cases hk : other = kind
    · rw [hk]
      exact mode
    · simp only [LoaderState.startBulk, PerKind.get_set_of_ne hk] at found
      exact h.bulkMode other owner found
  nameMode := h.nameMode
  failed := h.failed
  unfailed := h.unfailed

theorem Over.startBulk (h : s.Over job) (mode : s.modes.get kind = .loadAll) (me : ThreadId) :
    (s.startBulk me kind).Over job := by
  cases job with
  | bulk other =>
    have hk : other ≠ kind := fun heq => h.2 (heq ▸ mode)
    exact ⟨by simpa [LoaderState.startBulk, PerKind.get_set_of_ne hk] using h.1, h.2⟩
  | name key load => exact h

/-- A failure that is on record when a load has ended was there before, or is the one that
load ended with. -/
theorem find?_failures_finishLoad {load failed : Nat} {other : Key} {failure : LoadError}
    {result : Except LoadError Payload}
    (h : Assoc.find? other (s.finishLoad key load result).failures = some (failed, failure)) :
    Assoc.find? other s.failures = some (failed, failure) ∨
      other = key ∧ failed = load ∧ result = .error failure := by
  cases result with
  | ok payload => exact .inl h
  | error e =>
    by_cases down : e = .shutDown
    · subst down
      exact .inl h
    · have recorded : (s.finishLoad key load (.error e)).failures =
          Assoc.insert key (load, e) s.failures := by
        cases e <;> first | rfl | exact absurd rfl down
      rw [recorded, Assoc.find?_insert] at h
      by_cases hk : other = key
      · rw [if_pos hk] at h
        cases h
        exact .inr ⟨hk, rfl, rfl⟩
      · rw [if_neg hk] at h
        exact .inl h

theorem find?_failures_finishLoad_of_ne {other : Key} (h : other ≠ key) (load : Nat)
    (result : Except LoadError Payload) :
    Assoc.find? other (s.finishLoad key load result).failures =
      Assoc.find? other s.failures := by
  cases result with
  | ok payload => rfl
  | error failure => cases failure <;> first | rfl | exact Assoc.find?_insert_of_ne h

theorem Wf.finishLoad {load : Nat} (h : s.Wf) (busy : s.owner? (.name key load) = some me)
    (result : Except LoadError Payload) : (s.finishLoad key load result).Wf where
  fresh other found_load found := by
    rw [find?_finishLoad] at found
    by_cases hk : other = key
    · simp [hk] at found
    · rw [if_neg hk] at found
      exact h.fresh other found_load found
  bulkMode := h.bulkMode
  nameMode other found_load found := by
    rw [find?_finishLoad] at found
    by_cases hk : other = key
    · simp [hk] at found
    · rw [if_neg hk] at found
      exact h.nameMode other found_load found
  failed other failedLoad failure found := by
    rw [owner?_finishLoad me busy]
    rcases find?_failures_finishLoad found with old | ⟨rfl, rfl, -⟩
    · obtain ⟨lt, idle⟩ := h.failed other failedLoad failure old
      refine ⟨lt, ?_⟩
      rw [Function.update_apply]
      split
      · rfl
      · exact idle
    · exact ⟨h.fresh _ _ ((owner?_name ..).1 busy), Function.update_self ..⟩
  unfailed other found_load found := by
    rw [find?_finishLoad] at found
    by_cases hk : other = key
    · simp [hk] at found
    · rw [if_neg hk] at found
      cases recorded : Assoc.find? other (s.finishLoad key load result).failures with
      | none => rfl
      | some failure =>
        rcases find?_failures_finishLoad recorded with old | ⟨heq, -, -⟩
        · rw [h.unfailed other found_load found] at old
          cases old
        · exact absurd heq hk

theorem Over.finishLoad {load : Nat} (h : s.Over job) (busy : s.owner? (.name key load) = some me)
    (result : Except LoadError Payload) : (s.finishLoad key load result).Over job := by
  cases job with
  | bulk kind => exact h
  | name other old =>
    refine ⟨?_, h.2⟩
    rw [owner?_finishLoad me busy, Function.update_apply]
    split
    · rfl
    · exact h.1

/-- A load by name that has just ended is over. -/
theorem Wf.over_finishLoad {load : Nat} (h : s.Wf) (busy : s.owner? (.name key load) = some me)
    (result : Except LoadError Payload) : (s.finishLoad key load result).Over (.name key load) := by
  refine ⟨?_, h.fresh key _ ((owner?_name ..).1 busy)⟩
  rw [owner?_finishLoad me busy, Function.update_self]

theorem Wf.endBulk (h : s.Wf) (busy : s.bulk.get kind = some me) : (s.endBulk kind).Wf where
  fresh := h.fresh
  bulkMode other owner found := by
    by_cases hk : other = kind
    · simp [LoaderState.endBulk, hk] at found
    · simp only [LoaderState.endBulk, PerKind.get_set_of_ne hk] at found ⊢
      exact h.bulkMode other owner found
  nameMode other load found := by
    have byName := h.nameMode other load found
    have hk : other.kind ≠ kind := by
      intro heq
      rw [heq, h.bulkMode kind me busy] at byName
      cases byName
    simpa only [LoaderState.endBulk, PerKind.get_set_of_ne hk] using byName
  failed := h.failed
  unfailed := h.unfailed

theorem over_endBulk (s : LoaderState) (kind : Kind) : (s.endBulk kind).Over (.bulk kind) := by
  simp [Over, LoaderState.endBulk]

theorem Over.endBulk (h : s.Over job) (kind : Kind) : (s.endBulk kind).Over job := by
  cases job with
  | bulk other =>
    by_cases hk : other = kind
    · rw [hk]
      exact s.over_endBulk kind
    · simpa [Over, LoaderState.endBulk, PerKind.get_set_of_ne hk] using h
  | name key load => exact h

end LoaderState
end PluginHost
