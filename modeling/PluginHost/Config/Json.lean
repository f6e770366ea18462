import PluginHost.Config
import PluginHost.Json.Value
import PluginHost.Search

/-!
# Configurations as JSON text

A record is written as an object with its fields in order.  It is read from an object
whose members may come in any order, or from an array of the fields in order.  A field
that is missing has its default; a member that is no field is skipped; a field that
comes twice, or that has another shape, makes the text unreadable.

Main results:

- Theorem `Config.ofJson?_toJson?`: a configuration that can be written is read back.
- Theorem `Config.isSome_toJson?_iff`: a configuration can be written exactly when
  every search directory is text.
-/

namespace PluginHost

/-- The name of a kind's search directories in a configuration text. -/
def Kind.fieldName : Kind → String
  | .filter => "filters"
  | .decoder => "decoders"
  | .easyCustomFilter => "custom_filters"
  | .converter => "converters"

namespace Json

/-! ## Records -/

/-- The field of a record by its name and its position: nothing if the value is no
record or names the field twice, and no value if the field is missing. -/
def field? (value : Json) (name : String) (position : Nat) : Option (Option Json) :=
  match value with
  | object members => member? name members
  | array items => some items[position]?
  | _ => none

/-- Whether a value is a record with at most the given number of fields: an array that
is not longer, or an object whose members' names are texts. -/
def isRecord (value : Json) (fields : Nat) : Bool :=
  match value with
  | object members => members.all fun member => member.1.isSome
  | array items => items.length ≤ fields
  | _ => false

/-- The field of a record, read in a given way; a missing field has its default. -/
def readField? {α : Type} (value : Json) (name : String) (position : Nat) (default : α)
    (read : Json → Option α) : Option α :=
  match value.field? name position with
  | none => none
  | some none => some default
  | some (some part) => read part

/-! ## Names -/

/-- The name that a value gives: a string, or an object with one member that has
nothing to say. -/
def tag? : Json → Option String
  | string value => value
  | object [(name, null)] => name
  | _ => none

end Json

/-- The kind that a JSON value names. -/
def Kind.ofJson? (value : Json) : Option Kind :=
  value.tag?.bind Kind.ofName?

/-- The mode that a JSON value names. -/
def SearchMode.ofJson? (value : Json) : Option SearchMode :=
  value.tag?.bind SearchMode.ofName?

namespace Config

/-! ## Writing -/

/-- Search directories as an array of strings, if each is text. -/
def pathsToJson? (paths : List Path) : Option Json :=
  (paths.mapM Path.text?).map fun texts => .array (texts.map fun text => .string (some text))

/-- The search directories of one kind as a member of an object. -/
def pathsMember? (config : Config) (kind : Kind) : Option (Option String × Json) :=
  (pathsToJson? (config.searchPaths.get kind)).map fun paths => (some kind.fieldName, paths)

/-- A configuration as a JSON value, if every search directory is text. -/
def toJson? (config : Config) : Option Json :=
  (Kind.all.mapM config.pathsMember?).map fun members =>
    .object
      [(some "search_paths", .object members),
       (some "library_extension", .string (some config.extension))]

/-- The text of a configuration, if every search directory is text. -/
def render? (config : Config) : Option String :=
  config.toJson?.map Json.render

/-! ## Reading -/

/-- The search directories that an array of strings lists. -/
def pathsOfJson? : Json → Option (List Path)
  | .array items => items.mapM fun item => item.text?.map Path.ofText
  | _ => none

/-- The search directories of every kind that a record lists. -/
def searchPathsOfJson? (value : Json) : Option (PerKind (List Path)) :=
  if value.isRecord Kind.count then do
    let read (kind : Kind) := value.readField? kind.fieldName kind.number [] pathsOfJson?
    return {
      filter := ← read .filter
      decoder := ← read .decoder
      easyCustomFilter := ← read .easyCustomFilter
      converter := ← read .converter }
  else none

/-- The configuration that a JSON value describes. -/
def ofJson? (value : Json) : Option Config :=
  if value.isRecord 2 then do
    let searchPaths ← value.readField? "search_paths" 0 empty.searchPaths searchPathsOfJson?
    let extension ← value.readField? "library_extension" 1 empty.extension Json.text?
    return ⟨searchPaths, extension⟩
  else none

/-- The configuration that a text describes. -/
def parse? (text : String) : Option Config :=
  (Json.parse? text).bind ofJson?

/-! ## Reading what was written -/

theorem pathsOfJson?_of_pathsToJson? {paths : List Path} {value : Json}
    (h : pathsToJson? paths = some value) : pathsOfJson? value = some paths := by
  obtain ⟨texts, ht, rfl⟩ := Option.map_eq_some_iff.1 h
  simp only [pathsOfJson?]
  induction paths generalizing texts with
  | nil =>
    simp only [List.mapM_nil, Option.pure_def, Option.some.injEq] at ht
    subst ht
    rfl
  | cons path paths ih =>
    simp only [List.mapM_cons, Option.bind_eq_bind, Option.bind_eq_some_iff,
      Option.pure_def, Option.some.injEq] at ht
    obtain ⟨text, hp, more, hm, rfl⟩ := ht
    have tail := ih more hm (by simp [pathsToJson?, hm])
    have head : Path.ofText text = path := by
      have := Utf8.encode_of_decode? hp
      cases path
      simp_all [Path.ofText]
    simp only [List.map_cons, List.mapM_cons, tail]
    simp [Json.text?, head]

/-- The search directories of a kind can be written exactly when each is text. -/
theorem isSome_pathsToJson?_iff (paths : List Path) :
    (pathsToJson? paths).isSome = true ↔ ∀ path ∈ paths, path.text?.isSome = true := by
  simp only [pathsToJson?, Option.isSome_map]
  induction paths with
  | nil => simp
  | cons path paths ih =>
    rw [List.mapM_cons]
    cases hp : path.text? with
    | none => simp [hp]
    | some text =>
      cases hm : paths.mapM Path.text? with
      | none => simp_all
      | some texts => simp_all

theorem isSome_toJson?_iff (config : Config) :
    config.toJson?.isSome = true ↔
      ∀ kind, ∀ path ∈ config.searchPaths.get kind, path.text?.isSome = true := by
  have each (kind : Kind) : (config.pathsMember? kind).isSome = true ↔
      ∀ path ∈ config.searchPaths.get kind, path.text?.isSome = true := by
    rw [pathsMember?, Option.isSome_map, isSome_pathsToJson?_iff]
  have whole : config.toJson?.isSome = true ↔
      ∀ kind, (config.pathsMember? kind).isSome = true := by
    simp only [toJson?, Option.isSome_map, Kind.all, List.mapM_cons, List.mapM_nil]
    constructor
    · intro h kind
      cases hf : config.pathsMember? .filter <;> cases hd : config.pathsMember? .decoder <;>
        cases he : config.pathsMember? .easyCustomFilter <;>
        cases hc : config.pathsMember? .converter <;> cases kind <;> simp_all
    · intro h
      obtain ⟨f, hf⟩ := Option.isSome_iff_exists.1 (h .filter)
      obtain ⟨d, hd⟩ := Option.isSome_iff_exists.1 (h .decoder)
      obtain ⟨e, he⟩ := Option.isSome_iff_exists.1 (h .easyCustomFilter)
      obtain ⟨c, hc⟩ := Option.isSome_iff_exists.1 (h .converter)
      simp [hf, hd, he, hc]
  rw [whole]
  exact forall_congr' each

theorem ofJson?_toJson? {config : Config} {value : Json} (h : config.toJson? = some value) :
    ofJson? value = some config := by
  obtain ⟨members, hm, rfl⟩ := Option.map_eq_some_iff.1 h
  simp only [Kind.all, List.mapM_cons, List.mapM_nil, Option.bind_eq_bind,
    Option.bind_eq_some_iff, Option.pure_def, Option.some.injEq, pathsMember?,
    Option.map_eq_some_iff] at hm
  obtain ⟨f, ⟨fj, hf, rfl⟩, ds, ⟨d, ⟨dj, hd, rfl⟩, es, ⟨e, ⟨ej, he, rfl⟩, cs,
    ⟨c, ⟨cj, hc, rfl⟩, xs, rfl, rfl⟩, rfl⟩, rfl⟩, rfl⟩ := hm
  have hf := pathsOfJson?_of_pathsToJson? hf
  have hd := pathsOfJson?_of_pathsToJson? hd
  have he := pathsOfJson?_of_pathsToJson? he
  have hc := pathsOfJson?_of_pathsToJson? hc
  simp only [PerKind.get] at hf hd he hc
  simp [ofJson?, searchPathsOfJson?, Json.isRecord, Json.readField?, Json.field?, Json.member?,
    Kind.fieldName, Json.text?, hf, hd, he, hc]

end Config

end PluginHost
