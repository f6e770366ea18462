/-!
# Finite maps

A finite map is the list of its bindings, the latest first, with at most one
binding for each key.

Main results:

- Theorem `Assoc.find?_insert`: an insertion answers at its own key and nowhere else.
- Theorem `Assoc.find?_erase`: an erasure removes its own key and nothing else.
- Theorem `Assoc.mem_keys_iff`: the keys are those that have a value.
- Theorems `Assoc.nodup_insert` and `Assoc.nodup_erase`: no key is bound twice.
-/

namespace PluginHost

/-- A finite map as the list of its bindings. -/
abbrev Assoc (α β : Type) := List (α × β)

namespace Assoc

variable {α β : Type} [DecidableEq α]

/-- The value of a key. -/
def find? (key : α) : Assoc α β → Option β
  | [] => none
  | (k, value) :: rest => if k = key then some value else find? key rest

/-- The map without a key. -/
def erase (key : α) (m : Assoc α β) : Assoc α β :=
  m.filter fun binding => binding.1 ≠ key

/-- The map with a key bound to a value, whatever it was bound to before. -/
def insert (key : α) (value : β) (m : Assoc α β) : Assoc α β :=
  (key, value) :: erase key m

/-- The keys that are bound. -/
def keys (m : Assoc α β) : List α :=
  m.map Prod.fst

@[simp]
theorem find?_nil (key : α) : find? key ([] : Assoc α β) = none :=
  rfl

theorem find?_cons (key k : α) (value : β) (m : Assoc α β) :
    find? key ((k, value) :: m) = if k = key then some value else find? key m :=
  rfl

theorem find?_erase (key other : α) (m : Assoc α β) :
    find? other (erase key m) = if other = key then none else find? other m := by
  induction m with
  | nil => simp [erase]
  | cons binding m ih =>
    obtain ⟨k, value⟩ := binding
    simp only [erase, List.filter_cons] at ih ⊢
    grind [find?]

@[simp]
theorem find?_erase_self (key : α) (m : Assoc α β) : find? key (erase key m) = none := by
  simp [find?_erase]

theorem find?_erase_of_ne {key other : α} {m : Assoc α β} (h : other ≠ key) :
    find? other (erase key m) = find? other m := by
  simp [find?_erase, h]

theorem find?_insert (key other : α) (value : β) (m : Assoc α β) :
    find? other (insert key value m) = if other = key then some value else find? other m := by
  simp only [insert, find?_cons, find?_erase]
  grind

@[simp]
theorem find?_insert_self (key : α) (value : β) (m : Assoc α β) :
    find? key (insert key value m) = some value := by
  simp [find?_insert]

theorem find?_insert_of_ne {key other : α} {value : β} {m : Assoc α β} (h : other ≠ key) :
    find? other (insert key value m) = find? other m := by
  simp [find?_insert, h]

theorem mem_keys_iff (key : α) (m : Assoc α β) : key ∈ keys m ↔ (find? key m).isSome := by
  induction m with
  | nil => simp [keys]
  | cons binding m ih =>
    obtain ⟨k, value⟩ := binding
    simp only [keys, List.map_cons, List.mem_cons, find?_cons] at ih ⊢
    grind

/-- A map in which no key has a value has no binding. -/
theorem eq_nil_of_find? {m : Assoc α β} (h : ∀ key, find? key m = none) : m = [] := by
  cases m with
  | nil => rfl
  | cons binding m =>
    have first := h binding.1
    rw [find?_cons, if_pos rfl] at first
    cases first

theorem keys_erase (key : α) (m : Assoc α β) :
    keys (erase key m) = (keys m).filter fun k => k ≠ key := by
  simp [keys, erase, List.filter_map, Function.comp_def]

theorem nodup_erase {key : α} {m : Assoc α β} (h : (keys m).Nodup) :
    (keys (erase key m)).Nodup := by
  rw [keys_erase]
  exact h.filter _

theorem nodup_insert {key : α} {value : β} {m : Assoc α β} (h : (keys m).Nodup) :
    (keys (insert key value m)).Nodup := by
  have fresh : key ∉ keys (erase key m) := by
    rw [keys_erase]
    simp
  exact List.nodup_cons.2 ⟨fresh, nodup_erase h⟩

end Assoc

end PluginHost
