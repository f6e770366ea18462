import PluginHost.Config
import PluginHost.FileTree
import PluginHost.Registry

/-!
# Finding the files of modules

A resolver names the one file that should provide a name, with a verdict on it, and
lists every file that belongs to a kind.  The resolver over search directories takes
the file from the first directory that has it; a file belongs to a kind when it is a
regular file and its name has the kind's stem and the configured extension.

Main results:

- Theorem `Resolver.path_of_valid`: a valid candidate lies in a search directory of its
  kind under the file name of the kind and the name.
- Theorem `Resolver.accepts_of_mem_all`: every listed file belongs to its kind.
-/

namespace PluginHost

/-- A file that may provide a name, and whether it may be opened. -/
structure Candidate where
  path : Path
  valid : Bool
deriving DecidableEq, Repr

/-- How names are turned into files. -/
structure Resolver where
  /-- The file that should provide a name. -/
  one : Kind → String → Candidate
  /-- Every file of a kind. -/
  all : Kind → List Path

/-- What a resolver asks of the file system. -/
structure Disk where
  /-- Whether a path leads to a regular file. -/
  isFile : Path → Bool
  /-- The names in a directory that can be listed. -/
  list? : Path → Option (List Bytes)

/-- A directory tree as a file system. -/
def FileTree.disk {α : Type} (tree : FileTree α) : Disk where
  isFile path := (tree.file? path).isSome
  list? := tree.list?

namespace Config

/-! ## Files of a kind -/

/-- Whether the file name of a path is text with the stem of a kind and the configured
extension. -/
def names (config : Config) (kind : Kind) (path : Path) : Bool :=
  match path.fileName? with
  | none => false
  | some bytes =>
    (Utf8.decode? bytes).isSome && (Utf8.encode kind.fileStem).isPrefixOf bytes &&
      Path.extensionOf? bytes == some (Utf8.encode config.extension)

/-- Whether a path leads to a regular file that is named like a module of a kind. -/
def accepts (config : Config) (disk : Disk) (kind : Kind) (path : Path) : Bool :=
  disk.isFile path && config.names kind path

/-! ## One file -/

/-- Whether two dots stand next to each other in a text. -/
def hasDoubleDot : List Char → Bool
  | '.' :: '.' :: _ => true
  | _ :: rest => hasDoubleDot rest
  | [] => false

/-- Whether a name is a part of a file name and never a way to another directory. -/
def isPlainName (name : String) : Bool :=
  !name.isEmpty && !name.toList.contains '/' && !name.toList.contains '\\' &&
    !hasDoubleDot name.toList

/-- The paths at which a name is searched, in order. -/
def candidates (config : Config) (kind : Kind) (name : String) : List Path :=
  (config.searchPaths.get kind).map fun dir => dir.join (.ofText (config.fileName kind name))

/-- The file that should provide a name: the first candidate that belongs to the kind.
Without one the verdict is negative, and the candidate is the first of all. -/
def resolveOne (config : Config) (disk : Disk) (kind : Kind) (name : String) : Candidate :=
  let bare := Path.ofText (config.fileName kind name)
  if isPlainName name then
    match (config.candidates kind name).find? (config.accepts disk kind) with
    | some path => ⟨path, true⟩
    | none => ⟨(config.candidates kind name).headD bare, false⟩
  else ⟨bare, false⟩

/-! ## Every file -/

/-- The files of a kind in one directory, in the order of their names. -/
def filesIn (config : Config) (disk : Disk) (kind : Kind) (dir : Path) : List Path :=
  ((((disk.list? dir).getD []).mergeSort Bytes.precedes).map fun name => dir.join ⟨name⟩).filter
    (config.accepts disk kind)

/-- Some paths and a further one, unless one of them has its file name. -/
def keepNew (found : List Path) (path : Path) : List Path :=
  if found.any fun other => other.fileName? == path.fileName? then found else found ++ [path]

/-- Every file of a kind: the search directories in order, and of files with the same
name only the first. -/
def resolveAll (config : Config) (disk : Disk) (kind : Kind) : List Path :=
  ((config.searchPaths.get kind).flatMap (config.filesIn disk kind)).foldl keepNew []

end Config

namespace Resolver

/-! ## Resolvers -/

/-- The resolver over the search directories of a configuration. -/
def ofConfig (config : Config) (disk : Disk) : Resolver where
  one := config.resolveOne disk
  all := config.resolveAll disk

/-- The path that stands for a file that no table mentions. -/
def missing (kind : Kind) (name : String) : Path :=
  .ofText ("missing/" ++ kind.name ++ "/" ++ name)

/-- The resolver that answers from tables. -/
def ofTables (files : Assoc Key Candidate) (lists : PerKind (List Path)) : Resolver where
  one kind name := (Assoc.find? ⟨kind, name⟩ files).getD ⟨missing kind name, false⟩
  all := lists.get

theorem path_of_valid {config : Config} {disk : Disk} {kind : Kind} {name : String}
    (h : (config.resolveOne disk kind name).valid = true) :
    (config.resolveOne disk kind name).path ∈ config.candidates kind name ∧
      config.accepts disk kind (config.resolveOne disk kind name).path = true := by
  revert h
  unfold Config.resolveOne
  dsimp only
  split
  · split
    · next path hp => exact fun _ => ⟨List.mem_of_find?_eq_some hp, List.find?_some hp⟩
    · simp
  · simp

theorem mem_keepNew {found : List Path} {path other : Path}
    (h : other ∈ Config.keepNew found path) : other ∈ found ∨ other = path := by
  unfold Config.keepNew at h
  split at h
  · exact Or.inl h
  · simpa using h

theorem mem_of_mem_foldl_keepNew {paths found : List Path} {path : Path}
    (h : path ∈ paths.foldl Config.keepNew found) : path ∈ found ∨ path ∈ paths := by
  induction paths generalizing found with
  | nil => exact Or.inl h
  | cons next paths ih =>
    rcases ih h with h | h
    · rcases mem_keepNew h with h | rfl
      · exact Or.inl h
      · exact Or.inr List.mem_cons_self
    · exact Or.inr (List.mem_cons_of_mem _ h)

theorem accepts_of_mem_all {config : Config} {disk : Disk} {kind : Kind} {path : Path}
    (h : path ∈ config.resolveAll disk kind) : config.accepts disk kind path = true := by
  rcases mem_of_mem_foldl_keepNew h with h | h
  · simp at h
  · obtain ⟨dir, -, hd⟩ := List.mem_flatMap.1 h
    exact (List.mem_filter.1 hd).2

end Resolver

end PluginHost
