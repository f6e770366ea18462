import Mathlib
import PluginHost.Proofs.FileNames

/-!
# Searching the file of a name

The resolver over search directories puts the file name for a name together from the stem of the
kind, the name and the extension, and looks in one directory after the other for a regular file that
is called so.  Before it takes the file it reads stem and extension off the path again, and the
extension of a path is only what follows the last dot.  So an extension with a dot in it is never
found again; with any other extension the check says what it ought to.

Main results:

- Theorem `Config.isPlainName_iff`: which names are searched at all.
- Theorem `Config.accepts_candidate_iff`: below a directory the file of a name belongs to the kind
  exactly if the directory holds it and the extension has no dot.
- Theorem `Config.nameSearch`: the first directory that holds the file is taken, unless the
  extension has a dot.
-/

namespace PluginHost

/-! ## Names -/

namespace Config

/-- A name that can be part of a file name and is no way to another directory. -/
structure IsPlain (name : String) : Prop where
  named : name ≠ ""
  noSlash : '/' ∉ name.toList
  noBackslash : '\\' ∉ name.toList
  noDoubleDot : ¬ ['.', '.'] <:+: name.toList

theorem hasDoubleDot_iff (text : List Char) : hasDoubleDot text = true ↔ ['.', '.'] <:+: text := by
  fun_induction hasDoubleDot text with
  | case1 rest => exact ⟨fun _ => (List.prefix_append ['.', '.'] rest).isInfix, fun _ => rfl⟩
  | case2 c rest other ih =>
    rw [ih, List.infix_cons_iff]
    refine ⟨.inr, fun infix' => infix'.resolve_left ?_⟩
    rintro ⟨back, same⟩
    obtain ⟨rfl, rfl⟩ := List.cons.inj same
    exact other back rfl rfl
  | case3 => simp

theorem isPlainName_iff (name : String) : isPlainName name = true ↔ IsPlain name := by
  have dots := hasDoubleDot_iff name.toList
  constructor
  · intro plain
    simp only [isPlainName, Bool.and_eq_true, Bool.not_eq_true', ← Bool.not_eq_true, dots,
      String.isEmpty_iff, List.contains_iff_mem] at plain
    obtain ⟨⟨⟨named, noSlash⟩, noBackslash⟩, noDoubleDot⟩ := plain
    exact ⟨named, noSlash, noBackslash, noDoubleDot⟩
  · rintro ⟨named, noSlash, noBackslash, noDoubleDot⟩
    simp only [isPlainName, Bool.and_eq_true, Bool.not_eq_true', ← Bool.not_eq_true, dots,
      String.isEmpty_iff, List.contains_iff_mem]
    exact ⟨⟨⟨named, noSlash⟩, noBackslash⟩, noDoubleDot⟩

end Config

/-! ## Directories that hold a file -/

/-- A directory holds a regular file of a name; links are followed. -/
structure Disk.Holds (disk : Disk) (dir : Path) (name : Bytes) : Prop where
  single : name.IsFileName
  isFile : disk.isFile (dir.join ⟨name⟩) = true

namespace Config

variable {config : Config} {disk : Disk} {kind : Kind} {dir path : Path} {name : String}

/-- The path of the file of a name below a directory. -/
def candidate (config : Config) (kind : Kind) (name : String) (dir : Path) : Path :=
  dir.join (.ofText (config.fileName kind name))

/-- The extension is read off the file name of a name exactly if it has no dot. -/
theorem extensionOf?_fileName_iff (config : Config) (kind : Kind) (name : String) :
    Path.extensionOf? (Utf8.encode (config.fileName kind name)) =
        some (Utf8.encode config.extension) ↔ '.' ∉ config.extension.toList := by
  rw [Path.extensionOf?_eq_some_iff, Utf8.mem_encode_iff_char (c := '.') (by decide) rfl,
    and_iff_left_iff_imp]
  intro _
  refine ⟨Utf8.encode (kind.fileStem ++ name), ?_, ?_⟩
  · rw [Utf8.encode_append]
    refine List.append_ne_nil_of_left_ne_nil ?_ _
    cases kind <;> decide
  · rw [fileName, Utf8.encode_append, Utf8.encode_append, List.append_assoc]
    rfl

/-- Below a directory the file of a name belongs to the kind exactly if the directory holds it and
the extension has no dot. -/
theorem accepts_candidate_iff (plain : IsPlain name) :
    config.accepts disk kind (config.candidate kind name dir) = true ↔
      '.' ∉ config.extension.toList ∧
        disk.Holds dir (Utf8.encode (config.fileName kind name)) := by
  constructor
  · intro accepted
    have single := isFileName_fileName kind plain.noSlash (noSlash_of_accepts accepted)
    obtain ⟨isFile, -, -, extension⟩ := (accepts_join_iff single).1 accepted
    exact ⟨(config.extensionOf?_fileName_iff kind name).1 extension, single, isFile⟩
  · rintro ⟨noDot, single, isFile⟩
    refine (accepts_join_iff single).2 ⟨isFile, ?_, config.stem_prefix_fileName kind name,
      (config.extensionOf?_fileName_iff kind name).2 noDot⟩
    rw [Utf8.decode?_encode]
    rfl

/-! ## The first directory -/

/-- The candidate that is named when no file is found: the one in the first search directory, or
the bare file name. -/
def firstCandidate (config : Config) (kind : Kind) (name : String) : Path :=
  match config.searchPaths.get kind with
  | dir :: _ => config.candidate kind name dir
  | [] => .ofText (config.fileName kind name)

/-- A plain name is searched in the directories in order. -/
theorem resolveOne_eq (plain : IsPlain name) :
    config.resolveOne disk kind name =
      match (config.searchPaths.get kind).find? fun dir =>
        config.accepts disk kind (config.candidate kind name dir) with
      | some dir => ⟨config.candidate kind name dir, true⟩
      | none => ⟨config.firstCandidate kind name, false⟩ := by
  have first : (config.candidates kind name).headD (.ofText (config.fileName kind name)) =
      config.firstCandidate kind name := by
    unfold candidates firstCandidate
    cases config.searchPaths.get kind <;> rfl
  have found : (config.candidates kind name).find? (config.accepts disk kind) =
      ((config.searchPaths.get kind).find? fun dir =>
        config.accepts disk kind (config.candidate kind name dir)).map
          (config.candidate kind name) := by
    unfold candidates
    rw [List.find?_map]
    rfl
  rw [resolveOne, if_pos ((isPlainName_iff name).2 plain), found, first]
  cases (config.searchPaths.get kind).find? fun dir =>
    config.accepts disk kind (config.candidate kind name dir) <;> rfl

/-- Nothing is found if no directory has a candidate that belongs to the kind. -/
theorem resolveOne_of_none (plain : IsPlain name)
    (none : ∀ dir ∈ config.searchPaths.get kind,
      ¬ config.accepts disk kind (config.candidate kind name dir) = true) :
    config.resolveOne disk kind name = ⟨config.firstCandidate kind name, false⟩ := by
  rw [resolveOne_eq plain, List.find?_eq_none.2 none]

/-- The first directory whose candidate belongs to the kind is taken. -/
theorem resolveOne_of_first (plain : IsPlain name) {before after : List Path}
    (searched : config.searchPaths.get kind = before ++ dir :: after)
    (skipped : ∀ other ∈ before,
      ¬ config.accepts disk kind (config.candidate kind name other) = true)
    (accepted : config.accepts disk kind (config.candidate kind name dir) = true) :
    config.resolveOne disk kind name = ⟨config.candidate kind name dir, true⟩ := by
  have found : ((config.searchPaths.get kind).find? fun dir =>
      config.accepts disk kind (config.candidate kind name dir)) = some dir := by
    refine List.find?_eq_some_iff_append.2 ⟨accepted, before, after, searched, fun other mem => ?_⟩
    simpa using skipped other mem
  rw [resolveOne_eq plain, found]

/-- With a dot in the extension nothing is found. -/
theorem resolveOne_of_dot (plain : IsPlain name) (dot : '.' ∈ config.extension.toList) :
    config.resolveOne disk kind name = ⟨config.firstCandidate kind name, false⟩ := by
  refine resolveOne_of_none plain fun dir mem accepted => ?_
  exact ((accepts_candidate_iff plain).1 accepted).1 dot

/-! ## The contract -/

/-- How the file of a name is found.  With an extension that has no dot it is the file in the first
search directory that holds one of its file name, whatever else has that name in the directories
before; if no directory holds one, the verdict is negative, and the candidate in the first directory
is named.  With a dot in the extension no file is ever found, also one that is there. -/
structure NameSearch (config : Config) (disk : Disk) (kind : Kind) (name : String) : Prop where
  first : '.' ∉ config.extension.toList → ∀ before dir after,
    config.searchPaths.get kind = before ++ dir :: after →
      (∀ other ∈ before, ¬ disk.Holds other (Utf8.encode (config.fileName kind name))) →
        disk.Holds dir (Utf8.encode (config.fileName kind name)) →
          config.resolveOne disk kind name = ⟨config.candidate kind name dir, true⟩
  missing : (∀ dir ∈ config.searchPaths.get kind,
    ¬ disk.Holds dir (Utf8.encode (config.fileName kind name))) →
      config.resolveOne disk kind name = ⟨config.firstCandidate kind name, false⟩
  dotted : '.' ∈ config.extension.toList →
    config.resolveOne disk kind name = ⟨config.firstCandidate kind name, false⟩

/-- The file of every plain name is found so. -/
theorem nameSearch (config : Config) (disk : Disk) (kind : Kind) (plain : IsPlain name) :
    NameSearch config disk kind name := by
  constructor
  · intro noDot before dir after searched skipped holds
    refine resolveOne_of_first plain searched (fun other mem accepted => ?_) ?_
    · exact skipped other mem ((accepts_candidate_iff plain).1 accepted).2
    · exact (accepts_candidate_iff plain).2 ⟨noDot, holds⟩
  · intro none
    refine resolveOne_of_none plain fun dir mem accepted => ?_
    exact none dir mem ((accepts_candidate_iff plain).1 accepted).2
  · exact resolveOne_of_dot plain

/-- A tree with a directory, a link to a file, and a file that are called like the modules of two
names, each in a search directory. -/
def linkedTree : FileTree Unit :=
  .ofEntries [(.ofText "a/libsubplug_filter_x.y.so", .directory),
    (.ofText "b/libsubplug_filter_x.y.so", .link (.ofText "../store/x")),
    (.ofText "b/libsubplug_filter_x.so.1", .file ()), (.ofText "store/x", .file ())]

/-- A configuration that searches the directories of the tree, with an extension. -/
def linkedConfig (extension : String) : Config :=
  (((Config.empty.addPath .filter (.ofText "a")).addPath .filter (.ofText "b")).addPath .filter
    (.ofText "store")).setExtension extension

/-- The directory is passed over, and the link is taken. -/
theorem nameSearch_linkedTree :
    IsPlain "x.y" ∧ NameSearch (linkedConfig "so") linkedTree.disk .filter "x.y" ∧
      (linkedConfig "so").resolveOne linkedTree.disk .filter "x.y" =
        ⟨.ofText "b/libsubplug_filter_x.y.so", true⟩ := by
  have plain : IsPlain "x.y" := (isPlainName_iff "x.y").1 (by decide)
  exact ⟨plain, nameSearch _ _ .filter plain, by cbv⟩

/-- The second search directory holds a regular file of the right file name, and yet nothing is
found. -/
theorem exists_file_not_found :
    ∃ (config : Config) (disk : Disk) (kind : Kind) (name : String) (dir : Path),
      IsPlain name ∧ dir ∈ config.searchPaths.get kind ∧
        disk.Holds dir (Utf8.encode (config.fileName kind name)) ∧
          (config.resolveOne disk kind name).valid = false := by
  have plain : IsPlain "x" := (isPlainName_iff "x").1 (by decide)
  refine ⟨linkedConfig "so.1", linkedTree.disk, .filter, "x", .ofText "b", plain, by decide,
    ⟨isFileName_fileName _ plain.noSlash (by decide), by cbv⟩, ?_⟩
  rw [resolveOne_of_dot plain (by decide)]

end Config

end PluginHost
