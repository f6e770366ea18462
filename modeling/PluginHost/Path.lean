import PluginHost.Text.Utf8
import PluginHost.Text.Fields

/-!
# Paths

A path is a byte string.  Two paths lead through the same components when they
differ only in repeated slashes, trailing slashes and components `.` that do not
begin the path; a path is compared by its components and shown by its bytes.

Main results:

- Theorem `Path.same_iff`: the comparison of paths is equality of their components.
- Theorem `Path.join_bytes`: below a directory a relative path is appended after
  one slash, which a directory that ends in a slash already brings.
-/

namespace PluginHost

/-- A path in the file system. -/
structure Path where
  bytes : Bytes
deriving DecidableEq, Repr

/-- One step on the way that a path describes. -/
inductive Component where
  | root
  | current
  | parent
  | name (bytes : Bytes)
deriving DecidableEq, Repr

namespace Path

/-- The byte that separates components. -/
def slash : UInt8 := 0x2F

/-- The byte that begins an extension. -/
def dot : UInt8 := 0x2E

/-- The path with a given text. -/
def ofText (text : String) : Path :=
  ⟨Utf8.encode text⟩

/-- How a path is shown in a message. -/
def shown (path : Path) : String :=
  Utf8.shown path.bytes

/-- The text of a path that is well-formed text. -/
def text? (path : Path) : Option String :=
  Utf8.decode? path.bytes

/-- Whether a path begins at the root. -/
def isAbsolute (path : Path) : Bool :=
  path.bytes.head? == some slash

end Path

/-- A part of a path as a component; a part `.` within a path is no step. -/
def Component.ofPart? (part : Bytes) : Option Component :=
  if part = [Path.dot] then none
  else if part = [Path.dot, Path.dot] then some .parent
  else some (.name part)

namespace Path

/-! ## Components -/

/-- The parts of a path between its slashes that are not empty. -/
def parts (path : Path) : List Bytes :=
  (Fields.split slash path.bytes).filter fun part => !part.isEmpty

/-- The components of a path, in order. -/
def components (path : Path) : List Component :=
  let steps := path.parts.filterMap Component.ofPart?
  if path.isAbsolute then .root :: steps
  else if path.parts.head? = some [dot] then .current :: steps
  else steps

/-- Whether two paths lead through the same components. -/
def same (a b : Path) : Bool :=
  a.components = b.components

theorem same_iff (a b : Path) : a.same b = true ↔ a.components = b.components := by
  simp [same]

/-! ## File names -/

/-- The last component of a path, where it is a name. -/
def fileName? (path : Path) : Option Bytes :=
  match path.components.getLast? with
  | some (.name bytes) => some bytes
  | _ => none

/-- What follows the last dot of a file name.  A file name that has no dot, or only
one at its beginning, has no extension. -/
def extensionOf? (fileName : Bytes) : Option Bytes :=
  let stem := (fileName.reverse.dropWhile (· ≠ dot)).drop 1
  if stem.isEmpty then none
  else some (fileName.reverse.takeWhile (· ≠ dot)).reverse

/-- The extension of the file name of a path. -/
def extension? (path : Path) : Option Bytes :=
  path.fileName?.bind extensionOf?

/-! ## Paths below a directory -/

/-- The path that leads to `path` from the directory `dir`. -/
def join (dir path : Path) : Path :=
  if path.isAbsolute then path
  else if dir.bytes.isEmpty || dir.bytes.getLast? = some slash then ⟨dir.bytes ++ path.bytes⟩
  else ⟨dir.bytes ++ slash :: path.bytes⟩

theorem join_bytes {dir path : Path} (relative : path.isAbsolute = false)
    (nonempty : dir.bytes ≠ []) :
    (dir.join path).bytes =
      if dir.bytes.getLast? = some slash then dir.bytes ++ path.bytes
      else dir.bytes ++ slash :: path.bytes := by
  unfold join
  simp only [relative, Bool.false_eq_true, if_false]
  by_cases h : dir.bytes.getLast? = some slash <;> simp [h, nonempty]

end Path

/-! ## The order of byte strings -/

/-- Whether a byte string comes before another or is equal to it, byte by byte. -/
def Bytes.precedes : Bytes → Bytes → Bool
  | [], _ => true
  | _ :: _, [] => false
  | a :: as, b :: bs => a < b || (a == b && Bytes.precedes as bs)

end PluginHost
