import Mathlib
import PluginHost.Registry

/-!
# The registry as one map per kind

A catalog is what a registry is for: one finite map from names to payloads for each kind, and
beside it whether the kind has been touched.  A registry keeps tables that come into being with the
first use of a kind, and entries with names of their own; whatever is asked of it, in whatever
order, it answers like a catalog.

Main results:

- Theorem `Registry.perform_represents`: an operation on a registry is the operation on the catalog
  that it represents, and has the same answer.
- Theorem `Registry.runAll_represents`: so is every sequence of operations.
- Theorem `Catalog.touched_runAll_iff`: a kind has been touched exactly if an operation has touched
  it since everything was dropped.
- Theorem `Registry.perKind`: every sequence of operations on a fresh registry is answered as by a
  catalog.
-/

namespace PluginHost

/-! ## Operations and answers -/

namespace Registry

/-- What may be asked of a registry. -/
inductive Operation where
  | insert (key : Key) (payload : Payload)
  | lookup (key : Key)
  | remove (key : Key)
  /-- Create the table of a kind if there is none, and look at it. -/
  | ensure (kind : Kind)
  | names (kind : Kind)
  | size
  | isInitialized (kind : Kind)
  | clear
deriving DecidableEq

/-- What is answered. -/
inductive Answer where
  | done
  | failed (failure : LoadError)
  | found (payload : Option Payload)
  | removed (entry : Entry)
  /-- A table, as the entries that its names lead to. -/
  | table (entries : String → Option Entry)
  | names (names : List String)
  | size (n : Nat)
  | initialized (is : Bool)

namespace Operation

/-- The kind that an operation is about. -/
def kind? : Operation → Option Kind
  | insert key _ => some key.kind
  | lookup key => some key.kind
  | remove key => some key.kind
  | ensure kind => some kind
  | names kind => some kind
  | isInitialized kind => some kind
  | size => none
  | clear => none

/-- Whether an operation touches a kind: it looks a name up, registers one that is not empty, or
asks for the table. -/
def Touches (kind : Kind) : Operation → Prop
  | insert key _ => key.kind = kind ∧ key.name ≠ ""
  | lookup key => key.kind = kind
  | ensure other => other = kind
  | _ => False

end Operation

/-- The answer of a registry to one operation, and the registry afterwards.  The table that a name
is to go into is created before the name is looked up in it. -/
def perform (registry : Registry) : Operation → Answer × Registry
  | .insert key payload =>
    match registry.insert key payload with
    | .ok next => (.done, next)
    | .error failure =>
      (.failed failure, if key.name = "" then registry else registry.touch key.kind)
  | .lookup key => (.found (registry.lookup key).1, (registry.lookup key).2)
  | .remove key =>
    match registry.remove key with
    | .ok (entry, next) => (.removed entry, next)
    | .error failure => (.failed failure, registry)
  | .ensure kind =>
    (.table fun name => (registry.touch kind).stored? ⟨kind, name⟩, registry.touch kind)
  | .names kind => (.names (registry.names kind), registry)
  | .size => (.size registry.size, registry)
  | .isInitialized kind => (.initialized (registry.isInitialized kind), registry)
  | .clear => (.done, registry.clear)

end Registry

/-- The answers to some operations in order, and the state afterwards. -/
def runAll {σ : Type} (step : σ → Registry.Operation → Registry.Answer × σ) (s : σ) :
    List Registry.Operation → List Registry.Answer × σ
  | [] => ([], s)
  | operation :: rest =>
    ((step s operation).1 :: (runAll step (step s operation).2 rest).1,
      (runAll step (step s operation).2 rest).2)

/-! ## Catalogs -/

/-- One map from names to payloads for each kind, and whether the kind has been touched. -/
structure Catalog where
  bindings : Kind → Finmap fun _ : String => Payload
  touched : Kind → Bool

namespace Catalog

open Registry (Operation Answer)

/-- The catalog without bindings, of which no kind has been touched. -/
def empty : Catalog :=
  ⟨fun _ => ∅, fun _ => false⟩

/-- The catalog of which a kind has been touched. -/
def touch (catalog : Catalog) (kind : Kind) : Catalog :=
  { catalog with touched := Function.update catalog.touched kind true }

theorem touch_eq_self {catalog : Catalog} {kind : Kind} (touched : catalog.touched kind = true) :
    catalog.touch kind = catalog := by
  rw [touch, ← touched, Function.update_eq_self]

/-- The catalog with another map for a kind. -/
def setKind (catalog : Catalog) (kind : Kind) (names : Finmap fun _ : String => Payload) :
    Catalog :=
  { catalog with bindings := Function.update catalog.bindings kind names }

/-- The payload of a key. -/
def find? (catalog : Catalog) (key : Key) : Option Payload :=
  (catalog.bindings key.kind).lookup key.name

/-- The names of a kind in increasing order. -/
def names (catalog : Catalog) (kind : Kind) : List String :=
  (catalog.bindings kind).keys.sort

/-- How many names there are over all kinds. -/
def size (catalog : Catalog) : Nat :=
  (Kind.all.map fun kind => (catalog.bindings kind).keys.card).sum

/-- The answer of a catalog to one operation, and the catalog afterwards. -/
def perform (catalog : Catalog) : Operation → Answer × Catalog
  | .insert key payload =>
    if key.name = "" then (.failed (.invalidArgument .emptyName), catalog)
    else
      match catalog.find? key with
      | some _ => (.failed (.alreadyRegistered key.kind key.name), catalog.touch key.kind)
      | none =>
        (.done, (catalog.touch key.kind).setKind key.kind
          ((catalog.bindings key.kind).insert key.name payload))
  | .lookup key => (.found (catalog.find? key), catalog.touch key.kind)
  | .remove key =>
    if catalog.touched key.kind then
      match catalog.find? key with
      | some payload =>
        (.removed ⟨key.name, payload⟩,
          catalog.setKind key.kind ((catalog.bindings key.kind).erase key.name))
      | none => (.failed (.notFound (.unregistered key.kind key.name)), catalog)
    else (.failed (.notFound (.untouchedKind key.kind)), catalog)
  | .ensure kind =>
    (.table fun name => (catalog.find? ⟨kind, name⟩).map (Registry.Entry.mk name),
      catalog.touch kind)
  | .names kind => (.names (catalog.names kind), catalog)
  | .size => (.size catalog.size, catalog)
  | .isInitialized kind => (.initialized (catalog.touched kind), catalog)
  | .clear => (.done, empty)

end Catalog

/-! ## The catalog of a registry -/

namespace Registry

variable {registry : Registry} {catalog : Catalog} {kind : Kind} {key : Key}

/-- A registry represents a catalog: its entries are the bindings, each under its own name, and its
tables are those of the kinds that have been touched. -/
structure Represents (registry : Registry) (catalog : Catalog) : Prop where
  entries : ∀ key, registry.stored? key = (catalog.find? key).map (Entry.mk key.name)
  initialized : ∀ kind, registry.isInitialized kind = catalog.touched kind
  distinct : ∀ kind, (Assoc.keys (registry.table kind)).Nodup

theorem empty_represents : empty.Represents .empty where
  entries key := by simp [empty, stored?, table, Catalog.find?, Catalog.empty]
  initialized kind := by simp [empty, isInitialized, Catalog.empty]
  distinct kind := by simp [empty, table, Assoc.keys]

theorem isInitialized_of_stored? {entry : Entry} (stored : registry.stored? key = some entry) :
    registry.isInitialized key.kind = true := by
  unfold isInitialized
  cases there : registry.tables.get key.kind with
  | none => simp [stored?, table, there] at stored
  | some table => rfl

theorem perm_names (registry : Registry) (kind : Kind) :
    (registry.names kind).Perm (Assoc.keys (registry.table kind)) :=
  List.mergeSort_perm _ _

theorem pairwise_names (registry : Registry) (kind : Kind) :
    (registry.names kind).Pairwise (· ≤ ·) :=
  List.pairwise_mergeSort' (· ≤ ·) _

theorem mem_names_iff {name : String} :
    name ∈ registry.names kind ↔ (registry.find? ⟨kind, name⟩).isSome = true := by
  rw [(perm_names registry kind).mem_iff, Assoc.mem_keys_iff, find?, Option.isSome_map]
  rfl

theorem length_names (registry : Registry) (kind : Kind) :
    (registry.names kind).length = (registry.table kind).length := by
  rw [(perm_names registry kind).length_eq, Assoc.keys, List.length_map]

theorem size_eq (registry : Registry) :
    registry.size = (Kind.all.map fun kind => (registry.names kind).length).sum := by
  simp [size, Kind.all, length_names, Nat.add_assoc]

namespace Represents

theorem find?_eq (h : registry.Represents catalog) (key : Key) :
    registry.find? key = catalog.find? key := by
  rw [find?, h.entries key]
  cases catalog.find? key <;> rfl

/-- The names of a kind are in strictly increasing order. -/
theorem sorted (h : registry.Represents catalog) (kind : Kind) :
    (registry.names kind).Pairwise (· < ·) := by
  have distinct := (perm_names registry kind).nodup_iff.2 (h.distinct kind)
  refine ((pairwise_names registry kind).and distinct).imp ?_
  rintro a b ⟨le, ne⟩
  exact lt_of_le_of_ne le ne

theorem names_eq (h : registry.Represents catalog) (kind : Kind) :
    registry.names kind = catalog.names kind := by
  have distinct := (perm_names registry kind).nodup_iff.2 (h.distinct kind)
  have perm : (registry.names kind).Perm (catalog.names kind) := by
    refine (List.perm_ext_iff_of_nodup distinct (Finset.sort_nodup _ _)).2 fun name => ?_
    rw [mem_names_iff, h.find?_eq, Finset.mem_sort, Finmap.mem_keys, ← Finmap.lookup_isSome]
    rfl
  exact List.Perm.eq_of_pairwise (fun _ _ _ _ => le_antisymm) (pairwise_names registry kind)
    (Finset.pairwise_sort _ _) perm

theorem size_eq (h : registry.Represents catalog) : registry.size = catalog.size := by
  rw [Registry.size_eq, Catalog.size]
  congr 1
  refine List.map_congr_left fun kind _ => ?_
  rw [h.names_eq]
  exact Finset.length_sort _

/-- To put another table in the place of that of a kind is to give the kind another map. -/
theorem set (h : registry.Represents catalog) (kind : Kind) {table : Table}
    {names : Finmap fun _ : String => Payload}
    (entries : ∀ name, Assoc.find? name table = (names.lookup name).map (Entry.mk name))
    (distinct : (Assoc.keys table).Nodup) :
    Represents ⟨registry.tables.set kind (some table)⟩ ((catalog.touch kind).setKind kind names) := by
  refine ⟨fun key => ?_, fun other => ?_, fun other => ?_⟩
  · rw [stored?_set]
    by_cases same : key.kind = kind
    · simp [same, entries key.name, Catalog.find?, Catalog.setKind]
    · simp [same, h.entries key, Catalog.find?, Catalog.setKind, Catalog.touch]
  · rw [isInitialized_set, h.initialized other]
    by_cases same : other = kind
    · simp [same, Catalog.setKind, Catalog.touch]
    · simp [same, Catalog.setKind, Catalog.touch]
  · rw [table_set]
    split
    · exact distinct
    · exact h.distinct other

theorem touch (h : registry.Represents catalog) (kind : Kind) :
    (registry.touch kind).Represents (catalog.touch kind) := by
  have same := @set _ _ h kind (registry.table kind) (catalog.bindings kind)
    (fun name => h.entries ⟨kind, name⟩) (h.distinct kind)
  have kept : (catalog.touch kind).setKind kind (catalog.bindings kind) = catalog.touch kind := by
    simp [Catalog.setKind, Catalog.touch]
  rwa [kept] at same

/-- Where a key is registered, its kind has been touched. -/
theorem touched_of_find? (h : registry.Represents catalog) {payload : Payload}
    (found : catalog.find? key = some payload) : catalog.touched key.kind = true := by
  have stored := h.entries key
  rw [found] at stored
  rw [← h.initialized, isInitialized_of_stored? stored]

end Represents

/-- A registry and a catalog give the same answer, and the one represents the other afterwards. -/
structure Agree {α : Type} (out : α × Registry) (out' : α × Catalog) : Prop where
  answer : out.1 = out'.1
  next : out.2.Represents out'.2

/-- An insertion into a registry is the insertion into the catalog. -/
theorem insert_represents (h : registry.Represents catalog) (key : Key) (payload : Payload) :
    Agree (registry.perform (.insert key payload)) (catalog.perform (.insert key payload)) := by
  have same := h.find?_eq key
  unfold perform Catalog.perform insert
  dsimp only
  rw [same]
  by_cases nameless : key.name = ""
  · simp only [nameless, String.isEmpty_iff, if_true]
    exact ⟨rfl, h⟩
  · cases found : catalog.find? key with
    | some taken =>
      simp only [nameless, String.isEmpty_iff, if_false, Option.isSome_some, if_true]
      exact ⟨rfl, h.touch key.kind⟩
    | none =>
      simp only [nameless, String.isEmpty_iff, if_false, Option.isSome_none, Bool.false_eq_true]
      refine ⟨rfl, h.set key.kind (fun name => ?_) (Assoc.nodup_insert (h.distinct key.kind))⟩
      rw [Assoc.find?_insert]
      by_cases own : name = key.name
      · rw [own, Finmap.lookup_insert]
        simp
      · rw [if_neg own, Finmap.lookup_insert_of_ne _ own]
        exact h.entries ⟨key.kind, name⟩

/-- A removal from a registry is the removal from the catalog. -/
theorem remove_represents (h : registry.Represents catalog) (key : Key) :
    Agree (registry.perform (.remove key)) (catalog.perform (.remove key)) := by
  have entry := h.entries key
  unfold perform Catalog.perform
  dsimp only
  cases found : catalog.find? key with
  | none =>
    rw [found] at entry
    rw [remove_of_stored?_eq_none entry, h.initialized]
    cases catalog.touched key.kind <;> exact ⟨rfl, h⟩
  | some payload =>
    rw [found] at entry
    have touched := h.touched_of_find? found
    have erased := @Represents.set _ _ h key.kind (Assoc.erase key.name (registry.table key.kind))
      ((catalog.bindings key.kind).erase key.name) (fun name => ?_)
      (Assoc.nodup_erase (h.distinct key.kind))
    · rw [Catalog.touch_eq_self touched] at erased
      rw [remove_eq_ok_iff.2 ⟨entry, rfl⟩, touched]
      exact ⟨rfl, erased⟩
    · rw [Assoc.find?_erase]
      by_cases own : name = key.name
      · rw [own, Finmap.lookup_erase]
        simp
      · rw [if_neg own, Finmap.lookup_erase_ne own]
        exact h.entries ⟨key.kind, name⟩

/-- An operation on a registry is the operation on the catalog that it represents. -/
theorem perform_represents (h : registry.Represents catalog) (operation : Operation) :
    Agree (registry.perform operation) (catalog.perform operation) := by
  cases operation with
  | insert key payload => exact insert_represents h key payload
  | lookup key => exact ⟨congrArg Answer.found (h.find?_eq key), h.touch key.kind⟩
  | remove key => exact remove_represents h key
  | ensure kind =>
    refine ⟨congrArg Answer.table (funext fun name => ?_), h.touch kind⟩
    rw [stored?, table_touch]
    exact h.entries ⟨kind, name⟩
  | names kind => exact ⟨congrArg Answer.names (h.names_eq kind), h⟩
  | size => exact ⟨congrArg Answer.size h.size_eq, h⟩
  | isInitialized kind => exact ⟨congrArg Answer.initialized (h.initialized kind), h⟩
  | clear => exact ⟨rfl, empty_represents⟩

/-- A sequence of operations on a registry is the sequence on the catalog that it represents. -/
theorem runAll_represents (h : registry.Represents catalog) (operations : List Operation) :
    Agree (runAll perform registry operations) (runAll Catalog.perform catalog operations) := by
  induction operations generalizing registry catalog with
  | nil => exact ⟨rfl, h⟩
  | cons operation rest ih =>
    obtain ⟨answer, next⟩ := perform_represents h operation
    obtain ⟨answers, last⟩ := ih next
    refine ⟨?_, last⟩
    rw [runAll, runAll, answer, answers]

end Registry

/-! ## Which kinds have been touched -/

namespace Catalog

open Registry (Operation)

theorem touched_perform_iff (catalog : Catalog) (operation : Operation) (kind : Kind) :
    (catalog.perform operation).2.touched kind = true ↔
      operation ≠ .clear ∧ (catalog.touched kind = true ∨ operation.Touches kind) := by
  have touches (other : Kind) : (catalog.touch other).touched kind = true ↔
      catalog.touched kind = true ∨ other = kind := by
    by_cases same : kind = other
    · simp [touch, same]
    · simp [touch, same, Ne.symm same]
  cases operation with
  | insert key payload =>
    by_cases nameless : key.name = ""
    · simp [perform, nameless, Operation.Touches]
    · cases found : catalog.find? key <;>
        simp [perform, nameless, found, Operation.Touches, touches, setKind]
  | lookup key => simp [perform, touches, Operation.Touches]
  | ensure other => simp [perform, touches, Operation.Touches]
  | remove key =>
    cases touched : catalog.touched key.kind <;> cases found : catalog.find? key <;>
      simp [perform, touched, found, Operation.Touches, setKind]
  | names other => simp [perform, Operation.Touches]
  | size => simp [perform, Operation.Touches]
  | isInitialized other => simp [perform, Operation.Touches]
  | clear => simp [perform, empty]

/-- A kind has been touched if it was at first and nothing was dropped, or if an operation touched
it after which nothing was dropped. -/
theorem touched_runAll_iff (catalog : Catalog) (operations : List Operation) (kind : Kind) :
    (runAll perform catalog operations).2.touched kind = true ↔
      catalog.touched kind = true ∧ .clear ∉ operations ∨
        ∃ operation rest, operation :: rest <:+ operations ∧ operation.Touches kind ∧
          .clear ∉ rest := by
  induction operations generalizing catalog with
  | nil => simp [runAll]
  | cons first operations ih =>
    have split : (∃ operation rest, operation :: rest <:+ first :: operations ∧
        operation.Touches kind ∧ .clear ∉ rest) ↔ first.Touches kind ∧ .clear ∉ operations ∨
          ∃ operation rest, operation :: rest <:+ operations ∧ operation.Touches kind ∧
            .clear ∉ rest := by
      simp only [List.suffix_cons_iff, List.cons.injEq]
      constructor
      · rintro ⟨operation, rest, ⟨rfl, rfl⟩ | within, touches, kept⟩
        · exact .inl ⟨touches, kept⟩
        · exact .inr ⟨operation, rest, within, touches, kept⟩
      · rintro (⟨touches, kept⟩ | ⟨operation, rest, within, touches, kept⟩)
        · exact ⟨first, operations, .inl ⟨rfl, rfl⟩, touches, kept⟩
        · exact ⟨operation, rest, .inr within, touches, kept⟩
    rw [runAll, ih, touched_perform_iff, split]
    by_cases drops : first = .clear
    · simp [drops, Operation.Touches]
    · simp only [drops, ne_eq, not_false_eq_true, true_and, List.mem_cons, Ne.symm drops, false_or]
      rw [or_and_right, or_assoc]

end Catalog

/-! ## A registry is a map per kind -/

namespace Registry

variable {registry : Registry} {kind : Kind} {key : Key}

/-- A table that there is is not created again. -/
theorem touch_eq_self (initialized : registry.isInitialized kind = true) :
    registry.touch kind = registry := by
  obtain ⟨table, there⟩ := Option.isSome_iff_exists.1 initialized
  have same (other : Kind) :
      (registry.touch kind).tables.get other = registry.tables.get other := by
    by_cases own : other = kind
    · simp [touch, own, Registry.table, there]
    · simp [touch, PerKind.get_set_of_ne own]
  exact congrArg Registry.mk (PerKind.ext_get same)

/-- An operation that fails changes nothing: a name that is taken stands in a table. -/
theorem perform_of_failed {operation : Operation} {failure : LoadError}
    (failed : (registry.perform operation).1 = .failed failure) :
    (registry.perform operation).2 = registry := by
  cases operation with
  | insert key payload =>
    cases inserted : registry.insert key payload with
    | ok next => simp [perform, inserted] at failed
    | error refusal =>
      by_cases nameless : key.name = ""
      · simp [perform, inserted, nameless]
      · have taken : registry.find? key ≠ none := by
          intro free
          have granted := (isOk_insert_iff registry key payload).2 ⟨by simpa using nameless, free⟩
          rw [inserted] at granted
          cases granted
        rw [find?, Ne, Option.map_eq_none_iff] at taken
        obtain ⟨entry, stored⟩ := Option.ne_none_iff_exists'.1 taken
        simp [perform, inserted, nameless, touch_eq_self (isInitialized_of_stored? stored)]
  | remove key =>
    cases removed : registry.remove key with
    | ok out => simp [perform, removed] at failed
    | error refusal => simp [perform, removed]
  | lookup key => cases failed
  | ensure kind => cases failed
  | names kind => rfl
  | size => rfl
  | isInitialized kind => rfl
  | clear => cases failed

/-- An operation on a kind, other than to drop everything, changes no other kind. -/
theorem get_perform_of_ne {operation : Operation} (kept : operation ≠ .clear)
    (other : operation.kind? ≠ some kind) :
    (registry.perform operation).2.tables.get kind = registry.tables.get kind := by
  have set (own : Kind) (table : Table) (ne : some own ≠ some kind) :
      (registry.tables.set own (some table)).get kind = registry.tables.get kind :=
    PerKind.get_set_of_ne fun same => ne (congrArg some same.symm)
  cases operation with
  | insert key payload =>
    cases inserted : registry.insert key payload with
    | ok next =>
      obtain ⟨-, -, rfl⟩ := insert_eq_ok_iff.1 inserted
      simp only [perform, inserted]
      exact set _ _ other
    | error refusal =>
      simp only [perform, inserted]
      split
      · rfl
      · exact set _ _ other
  | remove key =>
    cases removed : registry.remove key with
    | ok out =>
      obtain ⟨entry, next⟩ := out
      obtain ⟨-, rfl⟩ := remove_eq_ok_iff.1 removed
      simp only [perform, removed]
      exact set _ _ other
    | error refusal => simp only [perform, removed]
  | lookup key => exact set _ _ other
  | ensure own => exact set _ _ other
  | names own => rfl
  | size => rfl
  | isInitialized own => rfl
  | clear => exact absurd rfl kept

/-- The registry after some operations, from the fresh one on. -/
def after (operations : List Operation) : Registry :=
  (runAll perform empty operations).2

/-- What some operations on a fresh registry come to. -/
structure PerKindMaps (operations : List Operation) : Prop where
  /-- Every answer is that of one map per kind. -/
  answers : (runAll perform empty operations).1 = (runAll Catalog.perform .empty operations).1
  /-- A table exists exactly if an operation touched its kind after which nothing was dropped. -/
  initialized : ∀ kind, (after operations).isInitialized kind = true ↔
    ∃ operation rest, operation :: rest <:+ operations ∧ operation.Touches kind ∧ .clear ∉ rest
  /-- A removal fails exactly if the kind is untouched or the name absent. -/
  removes : ∀ key, (∃ failure, ((after operations).perform (.remove key)).1 = .failed failure) ↔
    (after operations).isInitialized key.kind = false ∨ (after operations).find? key = none
  /-- Otherwise it answers with the name and the payload that were stored. -/
  removed : ∀ key payload, (after operations).find? key = some payload →
    ((after operations).perform (.remove key)).1 = .removed ⟨key.name, payload⟩
  /-- The names of a kind are those that are present, in strictly increasing order. -/
  names : ∀ kind, ((after operations).names kind).Pairwise (· < ·) ∧
    ∀ name, name ∈ (after operations).names kind ↔
      ((after operations).find? ⟨kind, name⟩).isSome = true
  /-- There are as many entries as there are names over all kinds. -/
  size : (after operations).size =
    (Kind.all.map fun kind => ((after operations).names kind).length).sum
  /-- An entry has the name that it stands under. -/
  own : ∀ key entry, (after operations).stored? key = some entry → entry.name = key.name
  /-- An operation that fails changes nothing. -/
  failing : ∀ operation failure, ((after operations).perform operation).1 = .failed failure →
    ((after operations).perform operation).2 = after operations
  /-- An operation on a kind, other than to drop everything, changes no other kind. -/
  apart : ∀ operation kind, operation ≠ .clear → operation.kind? ≠ some kind →
    ((after operations).perform operation).2.tables.get kind = (after operations).tables.get kind

/-- Any operations, in any order, are answered as by one map per kind. -/
theorem perKind (operations : List Operation) : PerKindMaps operations := by
  obtain ⟨answers, last⟩ := runAll_represents empty_represents operations
  have own (key : Key) (entry : Entry) (stored : (after operations).stored? key = some entry) :
      entry.name = key.name := by
    have bound := last.entries key
    unfold after at stored
    rw [stored] at bound
    obtain ⟨payload, -, rfl⟩ := Option.map_eq_some_iff.1 bound.symm
    rfl
  refine ⟨answers, fun kind => ?_, fun key => ?_, fun key payload found => ?_,
    fun kind => ⟨last.sorted kind, fun name => mem_names_iff⟩, size_eq _, own,
    fun operation failure => perform_of_failed, fun operation kind => get_perform_of_ne⟩
  · unfold after
    rw [last.initialized, Catalog.touched_runAll_iff]
    simp [Catalog.empty]
  · cases stored : (after operations).stored? key with
    | none => simp [perform, remove_of_stored?_eq_none stored, find?, stored]
    | some entry =>
      simp [perform, remove_eq_ok_iff.2 ⟨stored, rfl⟩, find?, stored,
        isInitialized_of_stored? stored]
  · obtain ⟨⟨name, payload⟩, stored, rfl⟩ := Option.map_eq_some_iff.1 found
    obtain rfl : name = key.name := own key _ stored
    simp [perform, remove_eq_ok_iff.2 ⟨stored, rfl⟩]

end Registry

end PluginHost
