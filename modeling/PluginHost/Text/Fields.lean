/-!
# Separated fields

A text with separators is a list of fields; between two neighbouring fields stands
one separator.  A text without a separator is one field, also when it is empty.

Main results:

- Theorem `Fields.join_split`: the fields, joined again, are the text.
- Theorem `Fields.split_append`: a separator ends the fields in front of it.
- Theorem `Fields.not_mem_of_mem_split`: no field holds a separator.
-/

namespace PluginHost

namespace Fields

variable {α : Type} [DecidableEq α]

/-- The fields of a text, in order. -/
def split (separator : α) : List α → List (List α)
  | [] => [[]]
  | c :: rest =>
    if c = separator then
      [] :: split separator rest
    else
      match split separator rest with
      | [] => [[c]]
      | field :: fields => (c :: field) :: fields

/-- The text with the given fields. -/
def join (separator : α) : List (List α) → List α
  | [] => []
  | [field] => field
  | field :: fields => field ++ separator :: join separator fields

theorem split_ne_nil (separator : α) (text : List α) : split separator text ≠ [] := by
  cases text with
  | nil => simp [split]
  | cons c rest =>
    unfold split
    split
    · simp
    · split <;> simp

theorem join_split (separator : α) (text : List α) :
    join separator (split separator text) = text := by
  induction text with
  | nil => rfl
  | cons c rest ih =>
    unfold split
    split
    · next h =>
      rcases hs : split separator rest with _ | ⟨field, fields⟩
      · exact absurd hs (split_ne_nil separator rest)
      · rw [hs] at ih
        simp [join, ih, h]
    · rcases hs : split separator rest with _ | ⟨field, fields⟩
      · exact absurd hs (split_ne_nil separator rest)
      · rw [hs] at ih
        cases fields with
        | nil => simpa [join] using ih
        | cons next fields => simpa [join] using ih

theorem split_append (separator : α) (front back : List α) :
    split separator (front ++ separator :: back) =
      split separator front ++ split separator back := by
  induction front with
  | nil => simp [split]
  | cons c front ih =>
    simp only [List.cons_append, split, ih]
    split
    · rfl
    · rcases parts : split separator front with _ | ⟨field, fields⟩
      · exact absurd parts (split_ne_nil separator front)
      · rfl

theorem split_of_not_mem {separator : α} {text : List α} (h : separator ∉ text) :
    split separator text = [text] := by
  induction text with
  | nil => rfl
  | cons c text ih =>
    simp only [List.mem_cons, not_or] at h
    rw [split, if_neg (Ne.symm h.1), ih h.2]

theorem not_mem_of_mem_split {separator : α} {text field : List α}
    (h : field ∈ split separator text) : separator ∉ field := by
  induction text generalizing field with
  | nil =>
    simp only [split, List.mem_singleton] at h
    simp [h]
  | cons c rest ih =>
    unfold split at h
    split at h
    · rcases List.mem_cons.1 h with rfl | h
      · simp
      · exact ih h
    · next hc =>
      rcases hs : split separator rest with _ | ⟨first, fields⟩
      · exact absurd hs (split_ne_nil separator rest)
      · rw [hs] at h ih
        rcases List.mem_cons.1 h with rfl | h
        · simp only [List.mem_cons, not_or]
          exact ⟨fun e => hc e.symm, ih List.mem_cons_self⟩
        · exact ih (List.mem_cons_of_mem _ h)

end Fields

end PluginHost
