import Mathlib.Data.Finset.Card
import Mathlib.Data.Nat.Find
import Mathlib.Logic.Relation
import PluginHost.Loader.State

/-!
# The graph of waits

A thread waits for at most one other, so the waits form the graph of a partial
function.  This module relates the bounded search of `LoaderState.closesCycle` to paths
in that graph, and says what adding and removing one wait does to it.

Main results:

- Theorem `Waits.leadsTo_iff`: the bounded search finds every chain of waits.
- Theorem `Waits.Acyclic.insert`: a wait that closes no cycle keeps the graph acyclic.
- Theorem `Waits.acyclic_insert_iff`: of all waits, only these do.
- Theorem `Waits.Acyclic.exists_end`: without cycles every chain of waits ends.
- Theorem `Waits.closesCycle_decides`: the search tells which waits may be added.
-/

namespace PluginHost
namespace Waits

open Relation

variable {waits : Assoc ThreadId ThreadId} {me owner : ThreadId}

/-- One thread waits for another. -/
def Edge (waits : Assoc ThreadId ThreadId) (t u : ThreadId) : Prop :=
  Assoc.find? t waits = some u

/-- Following the waits, zero or more times, leads from one thread to another. -/
abbrev Leads (waits : Assoc ThreadId ThreadId) : ThreadId → ThreadId → Prop :=
  ReflTransGen (Edge waits)

/-- No thread waits for itself, directly or not. -/
def Acyclic (waits : Assoc ThreadId ThreadId) : Prop :=
  ∀ t, ¬ TransGen (Edge waits) t t

/-- A thread waits for one other at most. -/
theorem Edge.unique {t u v : ThreadId} (hu : Edge waits t u) (hv : Edge waits t v) : u = v :=
  Option.some.inj (hu.symm.trans hv)

theorem Edge.mem_keys {t u : ThreadId} (h : Edge waits t u) : t ∈ Assoc.keys waits := by
  rw [Assoc.mem_keys_iff, show Assoc.find? t waits = some u from h]
  rfl

/-! ## Chains of a given length -/

/-- The thread that a number of waits leads to, if the chain is that long. -/
def hops (waits : Assoc ThreadId ThreadId) : Nat → ThreadId → Option ThreadId
  | 0, t => some t
  | n + 1, t => (Assoc.find? t waits).bind (hops waits n)

theorem hops_succ_eq_some {n : Nat} {t u : ThreadId} :
    hops waits (n + 1) t = some u ↔ ∃ v, Edge waits t v ∧ hops waits n v = some u := by
  simp only [hops, Option.bind_eq_some_iff]
  rfl

theorem hops_add (m n : Nat) (t : ThreadId) :
    hops waits (m + n) t = (hops waits m t).bind (hops waits n) := by
  induction m generalizing t with
  | zero => simp [hops]
  | succ m ih =>
    have h : m + 1 + n = (m + n) + 1 := by omega
    rw [h]
    simp only [hops, Option.bind_assoc]
    congr 1
    funext u
    exact ih u

theorem leads_iff_hops {t u : ThreadId} : Leads waits t u ↔ ∃ n, hops waits n t = some u := by
  constructor
  · intro h
    induction h using ReflTransGen.head_induction_on with
    | refl => exact ⟨0, rfl⟩
    | head edge _ ih =>
      obtain ⟨n, hn⟩ := ih
      exact ⟨n + 1, hops_succ_eq_some.2 ⟨_, edge, hn⟩⟩
  · rintro ⟨n, hn⟩
    induction n generalizing t with
    | zero =>
      obtain rfl : t = u := Option.some.inj hn
      exact .refl
    | succ n ih =>
      obtain ⟨v, edge, hv⟩ := hops_succ_eq_some.1 hn
      exact .head edge (ih hv)

/-- A chain of one wait or more leads from a thread to another. -/
theorem transGen_of_hops {n : Nat} {t u : ThreadId} (h : hops waits (n + 1) t = some u) :
    TransGen (Edge waits) t u := by
  obtain ⟨v, edge, hv⟩ := hops_succ_eq_some.1 h
  exact TransGen.head' edge (leads_iff_hops.2 ⟨n, hv⟩)

/-- The search with a bound finds the chains that are shorter than the bound. -/
theorem leadsTo_iff_hops {n : Nat} {t : ThreadId} :
    LoaderState.leadsTo waits me n t = true ↔ ∃ k < n, hops waits k t = some me := by
  induction n generalizing t with
  | zero => simp [LoaderState.leadsTo]
  | succ n ih =>
    unfold LoaderState.leadsTo
    by_cases ht : t = me
    · subst ht
      rw [if_pos rfl]
      exact iff_of_true rfl ⟨0, Nat.succ_pos n, rfl⟩
    · simp only [if_neg ht]
      constructor
      · intro h
        split at h
        · next u hu =>
          obtain ⟨k, hk, hops⟩ := ih.1 h
          exact ⟨k + 1, by omega, hops_succ_eq_some.2 ⟨u, hu, hops⟩⟩
        · simp at h
      · rintro ⟨k, hk, h⟩
        cases k with
        | zero => exact absurd (Option.some.inj h) ht
        | succ k =>
          obtain ⟨u, edge, hu⟩ := hops_succ_eq_some.1 h
          rw [show Assoc.find? t waits = some u from edge]
          exact ih.2 ⟨k, by omega, hu⟩

/-! ## The bound -/

/-- A chain whose threads all wait is no longer than there are waits, or it meets one of
its threads twice. -/
theorem exists_repeat {t : ThreadId} {n : Nat} (long : waits.length < n)
    (busy : ∀ k < n, ∃ u v, hops waits k t = some u ∧ Edge waits u v) :
    ∃ i j, i < j ∧ j < n ∧ hops waits i t = hops waits j t := by
  classical
  have maps : ∀ k ∈ Finset.range n, ((hops waits k t).getD t) ∈ (Assoc.keys waits).toFinset := by
    intro k hk
    obtain ⟨u, v, hu, edge⟩ := busy k (Finset.mem_range.1 hk)
    simp [hu, edge.mem_keys]
  have few : (Assoc.keys waits).toFinset.card < (Finset.range n).card := by
    rw [Finset.card_range]
    calc
      (Assoc.keys waits).toFinset.card ≤ (Assoc.keys waits).length := List.toFinset_card_le _
      _ = waits.length := List.length_map _
      _ < n := long
  obtain ⟨i, hi, j, hj, hne, heq⟩ := Finset.exists_ne_map_eq_of_card_lt_of_maps_to few maps
  rw [Finset.mem_range] at hi hj
  obtain ⟨u, -, hu, -⟩ := busy i hi
  obtain ⟨v, -, hv, -⟩ := busy j hj
  have huv : u = v := by simpa [hu, hv] using heq
  subst huv
  rcases Nat.lt_or_gt_of_ne hne with h | h
  · exact ⟨i, j, h, hj, hu.trans hv.symm⟩
  · exact ⟨j, i, h, hi, hv.trans hu.symm⟩

/-- A part of a chain that leads back to where it began can be left out. -/
theorem hops_shortcut {t u : ThreadId} {i j k : Nat} (hjk : j ≤ k)
    (same : hops waits i t = hops waits j t) (h : hops waits k t = some u) :
    hops waits (i + (k - j)) t = some u := by
  rw [hops_add, same, ← hops_add, show j + (k - j) = k by omega]
  exact h

/-- A thread that some chain leads to is led to by a chain no longer than there are waits. -/
theorem exists_short_hops {t u : ThreadId} (h : Leads waits t u) :
    ∃ k < waits.length + 1, hops waits k t = some u := by
  classical
  have reached := leads_iff_hops.1 h
  refine ⟨Nat.find reached, ?_, Nat.find_spec reached⟩
  by_contra long
  have shortest : hops waits (Nat.find reached) t = some u := Nat.find_spec reached
  have busy : ∀ k < Nat.find reached, ∃ v w, hops waits k t = some v ∧ Edge waits v w := by
    intro k hk
    have split := shortest
    rw [show Nat.find reached = k + ((Nat.find reached - k - 1) + 1) by omega, hops_add,
      Option.bind_eq_some_iff] at split
    obtain ⟨v, hv, rest⟩ := split
    obtain ⟨w, edge, -⟩ := hops_succ_eq_some.1 rest
    exact ⟨v, w, hv, edge⟩
  obtain ⟨i, j, hij, hj, same⟩ := exists_repeat (by omega) busy
  exact Nat.find_min reached (by omega) (hops_shortcut hj.le same shortest)

/-- The search finds every chain of waits with any bound above the number of waits. -/
theorem leadsTo_iff_of_lt {bound : Nat} (large : waits.length < bound) :
    LoaderState.leadsTo waits me bound owner = true ↔ Leads waits owner me := by
  rw [leadsTo_iff_hops]
  constructor
  · rintro ⟨k, -, hk⟩
    exact leads_iff_hops.2 ⟨k, hk⟩
  · intro h
    obtain ⟨k, hk, found⟩ := exists_short_hops h
    exact ⟨k, by omega, found⟩

/-- The bounded search finds every chain of waits. -/
theorem leadsTo_iff :
    LoaderState.leadsTo waits me (waits.length + 1) owner = true ↔ Leads waits owner me :=
  leadsTo_iff_of_lt (Nat.lt_succ_self _)

theorem closesCycle_iff (s : LoaderState) (me owner : ThreadId) :
    s.closesCycle me owner = true ↔ Leads s.waits owner me :=
  leadsTo_iff

/-! ## Acyclic waits -/

theorem acyclic_nil : Acyclic [] := by
  intro t h
  obtain ⟨u, edge, -⟩ := TransGen.head'_iff.1 h
  simp [Edge] at edge

/-- A graph with fewer waits is no less acyclic. -/
theorem Acyclic.mono {waits' : Assoc ThreadId ThreadId} (acyclic : Acyclic waits)
    (sub : ∀ t u, Edge waits' t u → Edge waits t u) : Acyclic waits' :=
  fun t h => acyclic t (TransGen.mono sub _ _ h)

theorem edge_erase {t u : ThreadId} :
    Edge (Assoc.erase me waits) t u ↔ t ≠ me ∧ Edge waits t u := by
  unfold Edge
  rw [Assoc.find?_erase]
  split <;> simp_all

theorem edge_insert {t u : ThreadId} :
    Edge (Assoc.insert me owner waits) t u ↔
      (t = me ∧ u = owner) ∨ (t ≠ me ∧ Edge waits t u) := by
  unfold Edge
  rw [Assoc.find?_insert]
  split <;> simp_all [eq_comm]

theorem Acyclic.erase (acyclic : Acyclic waits) (me : ThreadId) :
    Acyclic (Assoc.erase me waits) :=
  acyclic.mono fun _ _ h => (edge_erase.1 h).2

/-- A chain in the graph with one more wait either does without the new wait or passes
through it. -/
theorem transGen_insert {t u : ThreadId}
    (h : TransGen (Edge (Assoc.insert me owner waits)) t u) :
    TransGen (Edge waits) t u ∨ (Leads waits t me ∧ Leads waits owner u) := by
  induction h with
  | single edge =>
    rcases edge_insert.1 edge with ⟨rfl, rfl⟩ | ⟨-, edge⟩
    · exact Or.inr ⟨.refl, .refl⟩
    · exact Or.inl (.single edge)
  | tail _ edge ih =>
    rcases edge_insert.1 edge with ⟨rfl, rfl⟩ | ⟨-, edge⟩
    · rcases ih with h | h
      · exact Or.inr ⟨h.to_reflTransGen, .refl⟩
      · exact Or.inr ⟨h.1, .refl⟩
    · rcases ih with h | h
      · exact Or.inl (h.tail edge)
      · exact Or.inr ⟨h.1, h.2.tail edge⟩

/-- A wait that closes no cycle keeps the graph acyclic. -/
theorem Acyclic.insert (acyclic : Acyclic waits) (free : ¬ Leads waits owner me) :
    Acyclic (Assoc.insert me owner waits) := by
  intro t h
  rcases transGen_insert h with h | ⟨hin, hout⟩
  · exact acyclic t h
  · exact free (hout.trans hin)

/-- A chain that leads to a thread does without the wait of that thread. -/
theorem leads_erase_iff : Leads (Assoc.erase me waits) owner me ↔ Leads waits owner me := by
  constructor
  · exact fun h => ReflTransGen.mono (fun _ _ edge => (edge_erase.1 edge).2) _ _ h
  · intro h
    induction h using ReflTransGen.head_induction_on with
    | refl => exact .refl
    | @head t u edge _ ih =>
      by_cases ht : t = me
      · subst ht
        exact .refl
      · exact .head (edge_erase.2 ⟨ht, edge⟩) ih

/-- The graph in which a thread waits anew is acyclic exactly when the other waits are, and the
new wait closes no cycle. -/
theorem acyclic_insert_iff :
    Acyclic (Assoc.insert me owner waits) ↔
      Acyclic (Assoc.erase me waits) ∧ ¬ Leads waits owner me := by
  have kept : ∀ t u, Edge (Assoc.erase me waits) t u → Edge (Assoc.insert me owner waits) t u :=
    fun _ _ edge => edge_insert.2 (Or.inr (edge_erase.1 edge))
  constructor
  · intro acyclic
    refine ⟨acyclic.mono kept, fun cycle => ?_⟩
    have wait : Edge (Assoc.insert me owner waits) me owner := edge_insert.2 (Or.inl ⟨rfl, rfl⟩)
    have back : Leads (Assoc.insert me owner waits) owner me :=
      ReflTransGen.mono kept _ _ (leads_erase_iff.2 cycle)
    exact acyclic me (TransGen.head' wait back)
  · rintro ⟨acyclic, free⟩
    have other : ¬ Leads (Assoc.erase me waits) owner me := fun h => free (leads_erase_iff.1 h)
    refine (acyclic.insert other).mono fun t u edge => ?_
    rcases edge_insert.1 edge with new | ⟨ht, edge⟩
    · exact edge_insert.2 (Or.inl new)
    · exact edge_insert.2 (Or.inr ⟨ht, edge_erase.2 ⟨ht, edge⟩⟩)

/-- Without cycles every chain of waits ends. -/
theorem Acyclic.exists_end (acyclic : Acyclic waits) (t : ThreadId) :
    ∃ u, Leads waits t u ∧ Assoc.find? u waits = none := by
  by_contra endless
  push Not at endless
  have next : ∀ u, Leads waits t u → ∃ v, Edge waits u v := fun u hu =>
    Option.ne_none_iff_exists'.1 (endless u hu)
  have busy : ∀ k, ∃ u v, hops waits k t = some u ∧ Edge waits u v := by
    intro k
    induction k with
    | zero =>
      obtain ⟨v, edge⟩ := next t .refl
      exact ⟨t, v, rfl, edge⟩
    | succ k ih =>
      obtain ⟨u, v, hu, edge⟩ := ih
      have hv : hops waits (k + 1) t = some v := by
        rw [hops_add, hu]
        exact hops_succ_eq_some.2 ⟨v, edge, rfl⟩
      obtain ⟨w, edge'⟩ := next v (leads_iff_hops.2 ⟨k + 1, hv⟩)
      exact ⟨v, w, hv, edge'⟩
  obtain ⟨i, j, hij, -, same⟩ :=
    exists_repeat (Nat.lt_succ_self waits.length) fun k _ => busy k
  obtain ⟨u, -, hu, -⟩ := busy i
  refine acyclic u (transGen_of_hops (n := j - i - 1) ?_)
  have split : hops waits j t = (hops waits i t).bind (hops waits (j - i - 1 + 1)) := by
    rw [← hops_add]
    congr 1
    omega
  rw [← same, hu] at split
  exact split.symm

/-! ## What the search decides -/

/-- The search tells whether a chain of waits leads from `owner` to `me`, which no larger bound
changes; and of waits without a cycle it tells whether they stay so when `me` waits for `owner`,
be it that `me` waits already or not. -/
theorem closesCycle_decides (s : LoaderState) (me owner : ThreadId) :
    (s.closesCycle me owner = true ↔ Leads s.waits owner me) ∧
      (∀ bound, s.waits.length < bound →
        LoaderState.leadsTo s.waits me bound owner = s.closesCycle me owner) ∧
      (Acyclic s.waits →
        (Acyclic (s.park me owner).waits ↔ s.closesCycle me owner = false)) := by
  have decides := closesCycle_iff s me owner
  refine ⟨decides, fun bound large => ?_, fun acyclic => ?_⟩
  · rw [Bool.eq_iff_iff, decides]
    exact leadsTo_iff_of_lt large
  · rw [Bool.eq_false_iff, ne_eq, decides]
    constructor
    · exact fun kept => (acyclic_insert_iff.1 kept).2
    · exact acyclic.insert

/-- A loader in which three threads wait in a line. -/
def waitingLine : LoaderState :=
  (((LoaderState.initial (.ofFn fun _ => .byName)).park 0 1).park 1 2).park 2 3

theorem closesCycle_decides_waitingLine :
    Acyclic waitingLine.waits ∧
      (Assoc.find? 3 waitingLine.waits = none ∧ ¬ Acyclic (waitingLine.park 3 0).waits) ∧
      (Assoc.find? 4 waitingLine.waits = none ∧ Acyclic (waitingLine.park 4 0).waits) ∧
      LoaderState.leadsTo waitingLine.waits 3 9 0 = true := by
  have first : Acyclic ((LoaderState.initial (.ofFn fun _ => .byName)).park 0 1).waits :=
    ((closesCycle_decides _ 0 1).2.2 acyclic_nil).2 rfl
  have second := ((closesCycle_decides _ 1 2).2.2 first).2 rfl
  have acyclic : Acyclic waitingLine.waits := ((closesCycle_decides _ 2 3).2.2 second).2 rfl
  have closes : waitingLine.closesCycle 3 0 = true := rfl
  obtain ⟨-, bounds, closing⟩ := closesCycle_decides waitingLine 3 0
  obtain ⟨-, -, free⟩ := closesCycle_decides waitingLine 4 0
  refine ⟨acyclic, ⟨rfl, fun kept => ?_⟩, ⟨rfl, (free acyclic).2 rfl⟩, ?_⟩
  · have unclosed := (closing acyclic).1 kept
    rw [closes] at unclosed
    cases unclosed
  · rw [bounds 9 (by decide), closes]

end Waits
end PluginHost
