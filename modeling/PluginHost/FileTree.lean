import PluginHost.Assoc
import PluginHost.Path

/-!
# Directory trees

A directory tree holds regular files, directories and symbolic links.  A path is
followed from the root of the tree, name by name: a link is replaced by its target,
and every step needs to start from a directory.  What lies outside the tree is a
directory without entries.

Main results:

- Theorem `FileTree.walk_nil`: the empty way leads nowhere else.
- Theorem `FileTree.walk_stay`: a step that stays in a directory may be left out.
-/

namespace PluginHost

/-! ## Entries and places -/

/-- Something in a directory. -/
inductive Entry (α : Type) where
  | file (content : α)
  | directory
  | link (target : Path)
deriving Repr

/-- A place in a tree, as the names that lead there from its root. -/
abbrev Location := List Bytes

/-- A place that a path may lead to. -/
inductive Place where
  | inside (location : Location)
  | outside
deriving DecidableEq, Repr

/-- A directory tree; its entries by their locations. -/
structure FileTree (α : Type) where
  entries : Assoc Location (Entry α)

/-- One step along a path. -/
inductive Step where
  | stay
  | up
  | into (name : Bytes)
deriving DecidableEq, Repr

/-- The steps that a path describes.  A slash at its end needs a directory there. -/
def Path.steps (path : Path) : List Step :=
  let steps := path.parts.map fun part =>
    if part = [Path.dot] then Step.stay
    else if part = [Path.dot, Path.dot] then .up
    else .into part
  if path.bytes.getLast? = some Path.slash then steps ++ [.stay] else steps

/-- Whether a path can be followed at all: it is not empty, holds no zero byte, is not
too long and stays relative to the tree. -/
def Path.isFollowable (path : Path) : Bool :=
  !path.bytes.isEmpty && !path.bytes.contains 0 && path.bytes.length ≤ 4095 && !path.isAbsolute

namespace FileTree

variable {α : Type}

/-- The tree with an empty root directory. -/
def empty : FileTree α :=
  ⟨[]⟩

/-- The longest name that a directory can hold, in bytes. -/
def maxName : Nat :=
  255

/-- How many links may be followed on one way. -/
def maxLinks : Nat :=
  40

/-- The entry at a location; the root is a directory. -/
def entryAt? (tree : FileTree α) (location : Location) : Option (Entry α) :=
  if location = [] then some .directory else Assoc.find? location tree.entries

/-- Whether a place is a directory. -/
def isDirectory (tree : FileTree α) : Place → Bool
  | .outside => true
  | .inside location =>
    match tree.entryAt? location with
    | some .directory => true
    | _ => false

/-- The place above a place. -/
def above : Place → Place
  | .inside [] => .outside
  | .inside location => .inside location.dropLast
  | .outside => .outside

/-! ## Following a way -/

/-- The place that some steps lead to from a place, following at most the given number
of links. -/
def walk (tree : FileTree α) : Nat → Place → List Step → Option Place
  | _, place, [] => some place
  | links, place, step :: rest =>
    if tree.isDirectory place then
      match step, place with
      | .stay, _ => tree.walk links place rest
      | .up, _ => tree.walk links (above place) rest
      | .into _, .outside => none
      | .into name, .inside location =>
        if name.length ≤ maxName then
          match tree.entryAt? (location ++ [name]) with
          | none => none
          | some (.link target) =>
            match links with
            | 0 => none
            | links + 1 =>
              if target.isFollowable then tree.walk links place (target.steps ++ rest) else none
          | some _ => tree.walk links (.inside (location ++ [name])) rest
        else none
    else none
termination_by links _ steps => (links, steps.length)

/-- The place that a path leads to. -/
def place? (tree : FileTree α) (path : Path) : Option Place :=
  if path.isFollowable then tree.walk maxLinks (.inside []) path.steps else none

/-- The regular file that a path leads to: where it lies, and its content. -/
def file? (tree : FileTree α) (path : Path) : Option (Location × α) :=
  match tree.place? path with
  | some (.inside location) =>
    match tree.entryAt? location with
    | some (.file content) => some (location, content)
    | _ => none
  | _ => none

/-- The names in the directory that a path leads to; none if it leads to no directory. -/
def list? (tree : FileTree α) (path : Path) : Option (List Bytes) :=
  match tree.place? path with
  | none => none
  | some .outside => some []
  | some (.inside location) =>
    if tree.isDirectory (.inside location) then
      some (tree.entries.filterMap fun entry =>
        if entry.1 ≠ [] ∧ entry.1.dropLast = location then entry.1.getLast? else none)
    else none

/-! ## Building a tree -/

/-- The tree with an entry at a location, whatever was there. -/
def put (tree : FileTree α) (location : Location) (entry : Entry α) : FileTree α :=
  ⟨Assoc.insert location entry tree.entries⟩

/-- The tree with an entry at the end of a way; directories that lack on the way are
created. -/
def create (tree : FileTree α) (entry : Entry α) : Place → List Step → FileTree α
  | _, [] => tree
  | .inside location, [.into name] =>
    match entry, tree.walk maxLinks (.inside location) [.into name] with
    | .directory, some _ => tree
    | _, _ => tree.put (location ++ [name]) entry
  | place, step :: rest =>
    match tree.walk maxLinks place [step] with
    | some next => tree.create entry next rest
    | none =>
      match step, place with
      | .into name, .inside location =>
        (tree.put (location ++ [name]) .directory).create entry (.inside (location ++ [name])) rest
      | _, _ => tree

/-- The tree with an entry at a path. -/
def add (tree : FileTree α) (path : Path) (entry : Entry α) : FileTree α :=
  tree.create entry (.inside []) path.steps

/-- The tree with the given entries, added in order. -/
def ofEntries (entries : List (Path × Entry α)) : FileTree α :=
  entries.foldl (fun tree entry => tree.add entry.1 entry.2) empty

/-- The path of a location. -/
def pathOf (location : Location) : Path :=
  ⟨Fields.join Path.slash location⟩

/-! ## Small facts -/

@[simp]
theorem walk_nil (tree : FileTree α) (links : Nat) (place : Place) :
    tree.walk links place [] = some place := by
  simp [walk]

theorem walk_stay (tree : FileTree α) (links : Nat) (place : Place) (rest : List Step)
    (h : tree.isDirectory place = true) :
    tree.walk links place (.stay :: rest) = tree.walk links place rest := by
  rw [walk]
  simp [h]

end FileTree

end PluginHost
