import Mathlib
import PluginHost.Proofs.FileNames

/-!
# The search directories of an environment

The variable of a kind lists directories, separated by colons, and the kind has a default
directory.  The directories of the variable are searched in their order; the default directory
comes after them, unless the variable names it.  It may do so in any spelling: directories are
compared by their components, so that a slash more and a part `.` make no difference.

Main results:

- Theorem `Fields.segments_iff`: a text has one list of segments.
- Theorem `Path.filterMap_ofPart?_eq_iff`: the names in the parts of a path.
- Theorem `Config.same_defaultPath_iff`: the spellings of the default directory.
- Theorem `Config.environmentSearch`: the list of each kind, from its own variable alone.
-/

namespace PluginHost

/-! ## Segments -/

namespace Fields

variable {α : Type} [DecidableEq α] {separator : α} {text : List α} {segments : List (List α)}

/-- The segments of a text are what stands between its separators. -/
structure Segments (separator : α) (text : List α) (segments : List (List α)) : Prop where
  nonempty : segments ≠ []
  whole : ∀ segment ∈ segments, separator ∉ segment
  joined : join separator segments = text

theorem segments_split (separator : α) (text : List α) :
    Segments separator text (split separator text) where
  nonempty := split_ne_nil separator text
  whole _ mem := not_mem_of_mem_split mem
  joined := join_split separator text

theorem split_join (nonempty : segments ≠ []) (whole : ∀ segment ∈ segments, separator ∉ segment) :
    split separator (join separator segments) = segments := by
  induction segments with
  | nil => exact absurd rfl nonempty
  | cons segment rest ih =>
    have first := split_of_not_mem (whole segment List.mem_cons_self)
    cases rest with
    | nil => exact first
    | cons next rest =>
      have others := ih (by simp) fun other mem => whole other (List.mem_cons_of_mem _ mem)
      rw [join, split_append, first, others]
      · rfl
      · simp

theorem segments_iff : Segments separator text segments ↔ segments = split separator text := by
  constructor
  · rintro ⟨nonempty, whole, rfl⟩
    exact (split_join nonempty whole).symm
  · rintro rfl
    exact segments_split separator text

end Fields

/-! ## Spellings of a path -/

namespace Path

/-- The parts of a path say the given names and nothing else, if they are the names once each part
`.` is left out. -/
theorem filterMap_ofPart?_eq_iff {parts names : List Bytes}
    (plain : ∀ name ∈ names, name ≠ [dot] ∧ name ≠ [dot, dot]) :
    parts.filterMap Component.ofPart? = names.map Component.name ↔
      parts.filter (fun part => part ≠ [dot]) = names := by
  induction parts generalizing names with
  | nil => simp [eq_comm]
  | cons part parts ih =>
    by_cases current : part = [dot]
    · simp [current, Component.ofPart?, ih plain]
    · by_cases parent : part = [dot, dot]
      · -- A part `..` is a component, but no name.
        have left : (part :: parts).filterMap Component.ofPart? ≠ names.map Component.name := by
          cases names <;> simp [Component.ofPart?, parent, dot]
        have right : (part :: parts).filter (fun part => part ≠ [dot]) ≠ names := by
          rintro rfl
          exact (plain part (by simp [current])).2 parent
        exact iff_of_false left right
      · cases names with
        | nil => simp [Component.ofPart?, current, parent]
        | cons name names =>
          have rest := ih fun other mem => plain other (List.mem_cons_of_mem _ mem)
          simp [Component.ofPart?, current, parent, rest]

end Path

namespace Config

variable {environment : String → Option Bytes} {kind : Kind} {path : Path}

/-- The names on the way from the root to the default directory of a kind. -/
def defaultNames (kind : Kind) : List Bytes :=
  [Utf8.encode "usr", Utf8.encode "lib", Utf8.encode "subplug", Utf8.encode kind.directory]

/-- Whether a path spells the default directory of a kind: it begins at the root, and between its
slashes stand the names on the way there, apart from what is empty or a dot. -/
def SpellsDefault (kind : Kind) (path : Path) : Prop :=
  path.bytes.head? = some Path.slash ∧
    (Fields.split Path.slash path.bytes).filter (fun part => part ≠ [] ∧ part ≠ [Path.dot]) =
      defaultNames kind

instance (kind : Kind) : DecidablePred (SpellsDefault kind) :=
  fun _ => inferInstanceAs (Decidable (_ ∧ _))

theorem components_defaultPath (kind : Kind) :
    (defaultPath kind).components = .root :: (defaultNames kind).map Component.name := by
  cases kind <;> decide

theorem plain_defaultNames (kind : Kind) :
    ∀ name ∈ defaultNames kind, name ≠ [Path.dot] ∧ name ≠ [Path.dot, Path.dot] := by
  cases kind <;> decide

/-- The paths that are the same as the default directory are its spellings. -/
theorem same_defaultPath_iff : path.same (defaultPath kind) = true ↔ SpellsDefault kind path := by
  have parts : (Fields.split Path.slash path.bytes).filter
      (fun part => part ≠ [] ∧ part ≠ [Path.dot]) =
        path.parts.filter (fun part => part ≠ [Path.dot]) := by
    rw [Path.parts, List.filter_filter]
    congr 1
    funext part
    cases part <;> simp
  rw [Path.same_iff, components_defaultPath, SpellsDefault, parts,
    ← Path.filterMap_ofPart?_eq_iff (plain_defaultNames kind)]
  unfold Path.components
  by_cases absolute : path.bytes.head? = some Path.slash
  · simp [Path.isAbsolute, absolute]
  · simp only [Path.isAbsolute, absolute, beq_eq_false_iff_ne.2 absolute, false_and, iff_false]
    -- A relative path begins with no root.
    have noRoot : .root ∉ path.parts.filterMap Component.ofPart? := by
      intro mem
      obtain ⟨part, -, is⟩ := List.mem_filterMap.1 mem
      unfold Component.ofPart? at is
      split at is
      · cases is
      · split at is <;> cases is
    intro same
    split at same
    · contradiction
    · split at same
      · cases same
      · exact noRoot (by rw [same]; exact List.mem_cons_self)

example : SpellsDefault .filter (.ofText "//usr/./lib/subplug///filters/.") ∧
    ¬ SpellsDefault .filter (.ofText "/usr/lib/../lib/subplug/filters") := by
  decide

/-! ## The lists of an environment -/

/-- The directories that the variable of a kind lists. -/
def variablePaths (environment : String → Option Bytes) (kind : Kind) : List Path :=
  ((environment kind.searchVariable).map listedPaths).getD []

/-- The directories that an environment makes a kind search. -/
def searchedPaths (environment : String → Option Bytes) (kind : Kind) : List Path :=
  (ofEnvironment environment).searchPaths.get kind

theorem searchedPaths_eq (environment : String → Option Bytes) (kind : Kind) :
    searchedPaths environment kind = environmentPaths kind (environment kind.searchVariable) := by
  simp [searchedPaths, ofEnvironment]

/-- The default directory is added exactly if the variable does not spell it. -/
theorem searchedPaths_eq_ite (environment : String → Option Bytes) (kind : Kind) :
    searchedPaths environment kind =
      if ∃ path ∈ variablePaths environment kind, SpellsDefault kind path then
        variablePaths environment kind
      else variablePaths environment kind ++ [defaultPath kind] := by
  have spelled : ((variablePaths environment kind).any fun path => path.same (defaultPath kind)) =
      true ↔ ∃ path ∈ variablePaths environment kind, SpellsDefault kind path := by
    simp only [List.any_eq_true, same_defaultPath_iff]
  rw [searchedPaths_eq]
  unfold environmentPaths
  dsimp only
  rw [← variablePaths, if_congr spelled rfl rfl]

theorem spellsDefault_defaultPath (kind : Kind) : SpellsDefault kind (defaultPath kind) :=
  same_defaultPath_iff.1 (by simp [Path.same])

theorem map_bytes_listedPaths (value : Bytes) :
    (listedPaths value).map Path.bytes =
      (Fields.split listSeparator value).filter fun segment => segment ≠ [] := by
  rw [listedPaths, List.map_map]
  have back : Path.bytes ∘ Path.mk = id := rfl
  rw [back, List.map_id]
  congr 1
  funext segment
  cases segment <;> rfl

/-- Different kinds have different variables. -/
theorem searchVariable_injective {kind other : Kind}
    (same : kind.searchVariable = other.searchVariable) : kind = other := by
  revert same
  cases kind <;> cases other <;> decide

/-! ## The contract -/

/-- Where an environment makes a kind search: in the segments of the kind's own variable that are
not empty, all of them in order, and after them in the default directory, which is added exactly if
no segment spells it.  So it is always there; it is added only once and at the end; and no variable
of another kind matters. -/
structure EnvironmentSearch (environment : String → Option Bytes) (kind : Kind) : Prop where
  unset : environment kind.searchVariable = none → variablePaths environment kind = []
  listed : ∀ value, environment kind.searchVariable = some value →
    ∃ segments, (∀ others, Fields.Segments listSeparator value others ↔ others = segments) ∧
      (variablePaths environment kind).map Path.bytes =
        segments.filter fun segment => segment ≠ []
  kept : (∃ path ∈ variablePaths environment kind, SpellsDefault kind path) →
    searchedPaths environment kind = variablePaths environment kind
  added : (∀ path ∈ variablePaths environment kind, ¬ SpellsDefault kind path) →
    searchedPaths environment kind = variablePaths environment kind ++ [defaultPath kind]
  always : ∃ path ∈ searchedPaths environment kind, SpellsDefault kind path
  once : (searchedPaths environment kind).countP (fun path => SpellsDefault kind path) =
    max 1 ((variablePaths environment kind).countP fun path => SpellsDefault kind path)
  last : ∀ before path after, searchedPaths environment kind = before ++ path :: after →
    SpellsDefault kind path → after ≠ [] → before ++ [path] <+: variablePaths environment kind
  apart : ∀ other, other ≠ kind → ∀ value,
    searchedPaths (Function.update environment other.searchVariable value) kind =
      searchedPaths environment kind
  only : ∀ environment', environment' kind.searchVariable = environment kind.searchVariable →
    searchedPaths environment' kind = searchedPaths environment kind

/-- Every environment makes every kind search so. -/
theorem environmentSearch (environment : String → Option Bytes) (kind : Kind) :
    EnvironmentSearch environment kind := by
  have whole := searchedPaths_eq_ite environment kind
  have only : ∀ environment', environment' kind.searchVariable = environment kind.searchVariable →
      searchedPaths environment' kind = searchedPaths environment kind := by
    intro environment' same
    rw [searchedPaths_eq, searchedPaths_eq, same]
  refine ⟨?unset, ?listed, ?kept, ?added, ?always, ?once, ?last, ?apart, only⟩
  case unset =>
    intro none
    simp [variablePaths, none]
  case listed =>
    intro value some
    refine ⟨_, fun others => Fields.segments_iff, ?_⟩
    rw [variablePaths, some]
    exact map_bytes_listedPaths value
  case kept =>
    intro spelled
    rw [whole, if_pos spelled]
  case added =>
    intro none
    rw [whole, if_neg (by simpa using none)]
  case always =>
    rw [whole]
    split
    · next spelled => exact spelled
    · exact ⟨defaultPath kind, by simp, spellsDefault_defaultPath kind⟩
  case once =>
    rw [whole]
    split
    · next spelled =>
      obtain ⟨path, mem, spells⟩ := spelled
      have one : 0 < (variablePaths environment kind).countP fun path => SpellsDefault kind path :=
        List.countP_pos_iff.2 ⟨path, mem, decide_eq_true spells⟩
      omega
    · next none =>
      have zero : (variablePaths environment kind).countP (fun path => SpellsDefault kind path) =
          0 := by
        simpa using none
      rw [List.countP_append, zero]
      simp [spellsDefault_defaultPath]
  case last =>
    intro before path after cut spells more
    rw [whole] at cut
    split at cut
    · exact ⟨after, by simp [cut]⟩
    · -- Only what stands last has been added.
      obtain ⟨front, final, rfl⟩ := List.eq_nil_or_concat after |>.resolve_left more
      have cut : variablePaths environment kind ++ [defaultPath kind] =
          (before ++ [path] ++ front) ++ [final] := by
        simpa using cut
      obtain ⟨same, -⟩ := List.append_inj' cut rfl
      exact ⟨front, same.symm⟩
  case apart =>
    intro other ne value
    apply only
    exact Function.update_of_ne (fun same => ne (searchVariable_injective same).symm) ..

end Config

end PluginHost
