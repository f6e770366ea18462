import PluginHost.Assoc
import PluginHost.Error
import PluginHost.Payload

/-!
# The registry of payloads

The registry keeps the payloads that modules have registered, in one table per
kind.  A table exists from the first use of its kind until the registry is cleared.
A payload that is registered is never overwritten.  Each entry of a table has its own
copy of the name that it is registered under.

Main results:

- Theorem `Registry.find?_insert`: a successful insertion binds its own key and
  leaves every other key alone.
- Theorem `Registry.find?_remove`: a successful removal unbinds its own key only.
- Theorem `Registry.find?_touch`: creating a table changes no binding.
- Theorems `Registry.insert_eq_ok_iff` and `Registry.remove_eq_ok_iff`: what an insertion and a
  removal do where they succeed.
- Theorems `Registry.isOk_insert_iff` and `Registry.isOk_remove_iff`: which insertions and which
  removals succeed.
-/

namespace PluginHost

/-- What a payload is registered under. -/
structure Key where
  kind : Kind
  name : String
deriving DecidableEq, Repr

/-- What a table keeps of a registration. -/
structure Registry.Entry where
  /-- The name that it was registered under. -/
  name : String
  payload : Payload
deriving DecidableEq, Repr

/-- The entries of one kind by name. -/
abbrev Table := Assoc String Registry.Entry

/-- One table per kind; a kind that was never used has none. -/
structure Registry where
  tables : PerKind (Option Table)
deriving DecidableEq

namespace Registry

/-- The registry in which no kind has been used. -/
def empty : Registry :=
  ⟨PerKind.ofFn fun _ => none⟩

/-! ## Operations -/

/-- The entries of a kind; a kind without a table has none. -/
def table (registry : Registry) (kind : Kind) : Table :=
  (registry.tables.get kind).getD []

/-- Whether the table of a kind exists. -/
def isInitialized (registry : Registry) (kind : Kind) : Bool :=
  (registry.tables.get kind).isSome

/-- Create the table of a kind if there is none. -/
def touch (registry : Registry) (kind : Kind) : Registry :=
  ⟨registry.tables.set kind (some (registry.table kind))⟩

/-- The entry under a key. -/
def stored? (registry : Registry) (key : Key) : Option Entry :=
  Assoc.find? key.name (registry.table key.kind)

/-- The payload registered under a key. -/
def find? (registry : Registry) (key : Key) : Option Payload :=
  (registry.stored? key).map Entry.payload

/-- Look a key up.  The table of its kind exists afterwards. -/
def lookup (registry : Registry) (key : Key) : Option Payload × Registry :=
  (registry.find? key, registry.touch key.kind)

/-- Register a payload under a key that is free. -/
def insert (registry : Registry) (key : Key) (payload : Payload) : Except LoadError Registry :=
  if key.name.isEmpty then
    .error (.invalidArgument .emptyName)
  else if (registry.find? key).isSome then
    .error (.alreadyRegistered key.kind key.name)
  else
    .ok ⟨registry.tables.set key.kind
      (some (Assoc.insert key.name ⟨key.name, payload⟩ (registry.table key.kind)))⟩

/-- Take a key out of the registry, with the entry that stood under it. -/
def remove (registry : Registry) (key : Key) : Except LoadError (Entry × Registry) :=
  match registry.tables.get key.kind with
  | none => .error (.notFound (.untouchedKind key.kind))
  | some table =>
    match Assoc.find? key.name table with
    | none => .error (.notFound (.unregistered key.kind key.name))
    | some entry =>
      .ok (entry, ⟨registry.tables.set key.kind (some (Assoc.erase key.name table))⟩)

/-- The registered names of a kind in increasing order. -/
def names (registry : Registry) (kind : Kind) : List String :=
  (Assoc.keys (registry.table kind)).mergeSort fun a b => a ≤ b

/-- How many entries there are over all kinds. -/
def size (registry : Registry) : Nat :=
  Kind.all.foldl (fun n kind => n + (registry.table kind).length) 0

/-- Drop every table. -/
def clear (_ : Registry) : Registry :=
  empty

/-! ## What the operations do to the tables -/

theorem table_set (registry : Registry) (kind other : Kind) (table : Table) :
    Registry.table ⟨registry.tables.set kind (some table)⟩ other =
      if other = kind then table else registry.table other := by
  by_cases same : other = kind
  · subst same
    simp [Registry.table]
  · simp [Registry.table, PerKind.get_set_of_ne same, same]

theorem stored?_set (registry : Registry) (kind : Kind) (table : Table) (key : Key) :
    stored? ⟨registry.tables.set kind (some table)⟩ key =
      if key.kind = kind then Assoc.find? key.name table else registry.stored? key := by
  rw [stored?, table_set]
  split <;> rfl

theorem isInitialized_set (registry : Registry) (kind other : Kind) (table : Table) :
    isInitialized ⟨registry.tables.set kind (some table)⟩ other =
      (other = kind || registry.isInitialized other) := by
  by_cases same : other = kind
  · subst same
    simp [isInitialized]
  · simp [isInitialized, PerKind.get_set_of_ne same, same]

@[simp]
theorem table_touch (registry : Registry) (kind other : Kind) :
    (registry.touch kind).table other = registry.table other := by
  rw [touch, table_set]
  split
  · next same => rw [same]
  · rfl

@[simp]
theorem table_clear (registry : Registry) (kind : Kind) : registry.clear.table kind = [] := by
  simp [clear, empty, table]

@[simp]
theorem isInitialized_clear (registry : Registry) (kind : Kind) :
    registry.clear.isInitialized kind = false := by
  simp [clear, empty, isInitialized]

@[simp]
theorem names_clear (registry : Registry) (kind : Kind) : registry.clear.names kind = [] := by
  simp [names, Assoc.keys]

/-- What an insertion does, where it succeeds. -/
theorem insert_eq_ok_iff {registry next : Registry} {key : Key} {payload : Payload} :
    registry.insert key payload = .ok next ↔
      key.name.isEmpty = false ∧ registry.find? key = none ∧
        next = ⟨registry.tables.set key.kind
          (some (Assoc.insert key.name ⟨key.name, payload⟩ (registry.table key.kind)))⟩ := by
  unfold insert
  split
  · next nameless => simp [nameless]
  · next named =>
    split
    · next taken => simp [Option.isSome_iff_ne_none.1 taken]
    · next free =>
      rw [Bool.not_eq_true, Option.isSome_eq_false_iff, Option.isNone_iff_eq_none] at free
      simp [named, free, eq_comm]

/-- What a removal does, where it succeeds. -/
theorem remove_eq_ok_iff {registry next : Registry} {key : Key} {entry : Entry} :
    registry.remove key = .ok (entry, next) ↔
      registry.stored? key = some entry ∧
        next = ⟨registry.tables.set key.kind
          (some (Assoc.erase key.name (registry.table key.kind)))⟩ := by
  unfold remove stored? table
  cases registry.tables.get key.kind with
  | none => simp
  | some table =>
    simp only [Option.getD_some]
    cases Assoc.find? key.name table with
    | none => simp
    | some found => simp [eq_comm]

/-- Why a removal fails, where it does. -/
theorem remove_of_stored?_eq_none {registry : Registry} {key : Key}
    (absent : registry.stored? key = none) :
    registry.remove key = .error (.notFound (if registry.isInitialized key.kind then
      .unregistered key.kind key.name else .untouchedKind key.kind)) := by
  unfold stored? table at absent
  unfold remove isInitialized
  cases there : registry.tables.get key.kind with
  | none => rfl
  | some table =>
    rw [there, Option.getD_some] at absent
    simp [absent]

/-! ## What the operations do to the bindings -/

@[simp]
theorem find?_touch (registry : Registry) (kind : Kind) (key : Key) :
    (registry.touch kind).find? key = registry.find? key := by
  simp [find?, stored?]

@[simp]
theorem find?_clear (registry : Registry) (key : Key) : registry.clear.find? key = none := by
  simp [find?, stored?]

theorem find?_insert {registry next : Registry} {key : Key} {payload : Payload}
    (h : registry.insert key payload = .ok next) (other : Key) :
    next.find? other = if other = key then some payload else registry.find? other := by
  obtain ⟨-, -, rfl⟩ := insert_eq_ok_iff.1 h
  obtain ⟨kind, name⟩ := key
  obtain ⟨otherKind, otherName⟩ := other
  by_cases sameKind : otherKind = kind
  · subst sameKind
    by_cases sameName : otherName = name <;>
      simp [find?, stored?, table_set, Assoc.find?_insert, sameName]
  · simp [find?, stored?_set, sameKind]

theorem find?_remove {registry next : Registry} {key : Key} {entry : Entry}
    (h : registry.remove key = .ok (entry, next)) (other : Key) :
    next.find? other = if other = key then none else registry.find? other := by
  obtain ⟨-, rfl⟩ := remove_eq_ok_iff.1 h
  obtain ⟨kind, name⟩ := key
  obtain ⟨otherKind, otherName⟩ := other
  by_cases sameKind : otherKind = kind
  · subst sameKind
    by_cases sameName : otherName = name <;>
      simp [find?, stored?, table_set, Assoc.find?_erase, sameName]
  · simp [find?, stored?_set, sameKind]

/-- A registration succeeds exactly for a name that is not empty under a free key. -/
theorem isOk_insert_iff (registry : Registry) (key : Key) (payload : Payload) :
    (registry.insert key payload).isOk = true ↔
      key.name.isEmpty = false ∧ registry.find? key = none := by
  cases inserted : registry.insert key payload with
  | ok next =>
    obtain ⟨named, free, -⟩ := insert_eq_ok_iff.1 inserted
    simp [Except.isOk, Except.toBool, named, free]
  | error failure =>
    simp only [Except.isOk, Except.toBool, Bool.false_eq_true, false_iff]
    rintro ⟨named, free⟩
    rw [insert_eq_ok_iff.2 ⟨named, free, rfl⟩] at inserted
    cases inserted

/-- A removal succeeds exactly for a key that is registered. -/
theorem isOk_remove_iff (registry : Registry) (key : Key) :
    (registry.remove key).isOk = true ↔ (registry.find? key).isSome = true := by
  rw [find?, Option.isSome_map]
  cases removed : registry.remove key with
  | ok out =>
    obtain ⟨found, -⟩ := remove_eq_ok_iff.1 removed
    simp [Except.isOk, Except.toBool, found]
  | error failure =>
    simp only [Except.isOk, Except.toBool, Bool.false_eq_true, false_iff]
    intro registered
    obtain ⟨entry, found⟩ := Option.isSome_iff_exists.1 registered
    rw [remove_eq_ok_iff.2 ⟨found, rfl⟩] at removed
    cases removed

end Registry

end PluginHost
