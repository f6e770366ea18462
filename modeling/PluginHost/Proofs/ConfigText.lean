import PluginHost.Config.Json
import PluginHost.Proofs.JsonText

/-!
# Configurations outlive their text

A configuration is written if every search directory is text, and then it is read back as it was:
every directory byte for byte and in order, and the extension.  What a text describes can always be
written, because the directories that are read are texts.

Main results:

- Theorem `Config.parse?_of_render?`: the text of a configuration describes it.
- Theorem `Config.isSome_text?_of_ofJson?`: the directories that are read are texts.
- Theorem `Config.survivesText`: what is written is read back, and what is read can be written.
-/

namespace PluginHost

namespace Config

variable {config : Config}

/-- What is read from a list of parts comes from one of them. -/
theorem exists_of_mem_mapM {α β : Type} {read : α → Option β} {parts : List α} {values : List β}
    (all : parts.mapM read = some values) {value : β} (mem : value ∈ values) :
    ∃ part ∈ parts, read part = some value := by
  induction parts generalizing values with
  | nil =>
    cases all
    cases mem
  | cons part parts ih =>
    simp only [List.mapM_cons, Option.bind_eq_bind, Option.bind_eq_some_iff, Option.pure_def,
      Option.some.injEq] at all
    obtain ⟨first, head, rest, tail, rfl⟩ := all
    cases mem with
    | head => exact ⟨part, List.mem_cons_self, head⟩
    | tail _ later =>
      obtain ⟨source, within, gives⟩ := ih tail later
      exact ⟨source, List.mem_cons_of_mem part within, gives⟩

/-! ## What is written is read back -/

theorem numberless_of_pathsToJson? {paths : List Path} {value : Json}
    (written : pathsToJson? paths = some value) : value.Numberless := by
  obtain ⟨texts, -, rfl⟩ := Option.map_eq_some_iff.1 written
  apply Json.numberless_array
  intro item mem
  obtain ⟨text, -, rfl⟩ := List.mem_map.1 mem
  exact Json.numberless_string (some text)

theorem numberless_of_toJson? {value : Json} (written : config.toJson? = some value) :
    value.Numberless := by
  obtain ⟨members, listed, rfl⟩ := Option.map_eq_some_iff.1 written
  have paths : (Json.object members).Numberless := by
    apply Json.numberless_object
    intro member mem
    obtain ⟨kind, -, listed⟩ := exists_of_mem_mapM listed mem
    obtain ⟨value, written, rfl⟩ := Option.map_eq_some_iff.1 listed
    exact numberless_of_pathsToJson? written
  apply Json.numberless_object
  simp only [List.forall_mem_cons]
  exact ⟨paths, Json.numberless_string _, by simp⟩

/-- The text of a configuration describes it. -/
theorem parse?_of_render? {text : String} (written : config.render? = some text) :
    parse? text = some config := by
  obtain ⟨value, given, rfl⟩ := Option.map_eq_some_iff.1 written
  rw [parse?, Json.parse?_render (numberless_of_toJson? given)]
  exact ofJson?_toJson? given

/-! ## What is read can be written -/

theorem isSome_text?_of_pathsOfJson? {value : Json} {paths : List Path}
    (read : pathsOfJson? value = some paths) : ∀ path ∈ paths, path.text?.isSome = true := by
  intro path mem
  cases value with
  | array items =>
    obtain ⟨item, -, given⟩ := exists_of_mem_mapM read mem
    obtain ⟨text, -, rfl⟩ := Option.map_eq_some_iff.1 given
    simp [Path.text?, Path.ofText]
  | _ => cases read

/-- A field of a record is its default or is read from a part of the record. -/
theorem readField?_cases {α : Type} {value : Json} {name : String} {position : Nat}
    {default field : α} {read : Json → Option α}
    (found : value.readField? name position default read = some field) :
    field = default ∨ ∃ part, read part = some field := by
  unfold Json.readField? at found
  split at found
  · cases found
  · cases found
    exact .inl rfl
  · exact .inr ⟨_, found⟩

theorem isSome_text?_of_searchPathsOfJson? {value : Json} {searchPaths : PerKind (List Path)}
    (read : searchPathsOfJson? value = some searchPaths) (kind : Kind) :
    ∀ path ∈ searchPaths.get kind, path.text?.isSome = true := by
  have each {name : String} {position : Nat} {paths : List Path}
      (found : value.readField? name position [] pathsOfJson? = some paths) :
      ∀ path ∈ paths, path.text?.isSome = true := by
    obtain rfl | ⟨part, given⟩ := readField?_cases found
    · simp
    · exact isSome_text?_of_pathsOfJson? given
  unfold searchPathsOfJson? at read
  split at read
  · simp only [Option.bind_eq_bind, Option.bind_eq_some_iff, Option.pure_def,
      Option.some.injEq] at read
    obtain ⟨filter, hf, decoder, hd, easyCustomFilter, he, converter, hc, rfl⟩ := read
    cases kind with
    | filter => exact each hf
    | decoder => exact each hd
    | easyCustomFilter => exact each he
    | converter => exact each hc
  · cases read

theorem isSome_text?_of_ofJson? {value : Json} (read : ofJson? value = some config) (kind : Kind) :
    ∀ path ∈ config.searchPaths.get kind, path.text?.isSome = true := by
  unfold ofJson? at read
  split at read
  · simp only [Option.bind_eq_bind, Option.bind_eq_some_iff, Option.pure_def,
      Option.some.injEq] at read
    obtain ⟨searchPaths, found, extension, -, rfl⟩ := read
    obtain rfl | ⟨part, given⟩ := readField?_cases found
    · simp [empty]
    · exact isSome_text?_of_searchPathsOfJson? given kind
  · cases read

/-! ## A configuration survives its text -/

/-- How a configuration fares as text. -/
structure SurvivesText (config : Config) : Prop where
  /-- It can be written exactly if the bytes of every search directory are those of a text. -/
  written : config.render?.isSome = true ↔
    ∀ kind, ∀ path ∈ config.searchPaths.get kind, ∃ text, Utf8.encode text = path.bytes
  /-- What is written describes it. -/
  read : ∀ text, config.render? = some text → parse? text = some config
  /-- If there is a text that describes it, then it can be written, and is read back. -/
  reread : ∀ text, parse? text = some config →
    ∃ written, config.render? = some written ∧ parse? written = some config

theorem survivesText (config : Config) : SurvivesText config := by
  have written : config.render?.isSome = true ↔
      ∀ kind, ∀ path ∈ config.searchPaths.get kind, ∃ text, Utf8.encode text = path.bytes := by
    rw [render?, Option.isSome_map, isSome_toJson?_iff]
    simp only [Path.text?, Utf8.isSome_decode?_iff]
  refine ⟨written, fun text => parse?_of_render?, fun text read => ?_⟩
  obtain ⟨value, -, described⟩ := Option.bind_eq_some_iff.1 read
  have texts (kind : Kind) (path : Path) (mem : path ∈ config.searchPaths.get kind) :=
    (Utf8.isSome_decode?_iff path.bytes).1 (isSome_text?_of_ofJson? described kind path mem)
  obtain ⟨again, written⟩ := Option.isSome_iff_exists.1 (written.2 texts)
  exact ⟨again, written, parse?_of_render? written⟩

end Config

end PluginHost
