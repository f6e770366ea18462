import PluginHost.FileTree
import PluginHost.Loader.Script

/-!
# Opening modules

A linker says what comes of opening a path: a refusal, a module that a table describes,
or a library of the file system.  A library is mapped once for each open handle; it is
usable when it speaks the host's version of the registration interface, or does not say
which, and has an init.

Main results:

- Theorem `Library.fault?_eq_none_iff`: which libraries are usable.
-/

namespace PluginHost

/-! ## Modules -/

/-- A mapped library. -/
structure Library where
  /-- The file it was mapped from. -/
  file : Path
  /-- Whether what happens to it is recorded. -/
  recorded : Bool
  /-- The version of the registration interface that it reports. -/
  version : Option Nat
  /-- What its init does. -/
  init : Option Script
deriving DecidableEq

/-- What closing a module takes. -/
inductive Teardown where
  /-- Run a script; the module fails to close with the given failure, if any. -/
  | run (script : Script) (failure : Option LoadError)
  /-- Unmap a library once. -/
  | unmap (library : Library)
deriving DecidableEq

/-- An open module.  No two modules that were ever open have the same serial number. -/
structure Handle where
  serial : Nat
  path : Path
  teardown : Teardown
deriving DecidableEq

/-- What comes of opening a path. -/
inductive Opening where
  | refused (failure : LoadError)
  /-- Run an init; the module fails to open with the given failure, if any. -/
  | run (init : Script) (failure : Option LoadError) (teardown : Teardown)
  | map (library : Library)
deriving DecidableEq

/-- What comes of opening each path. -/
structure Linker where
  opening : Path → Opening

/-! ## Libraries -/

/-- Stands for every text of the system's own linker. -/
def systemReason : String :=
  "<os>"

namespace Library

/-- Why a mapped library cannot be used. -/
def fault? (library : Library) : Option String :=
  match library.version with
  | some version =>
    if version ≠ registrarVersion then
      some ("incompatible ABI version: expected " ++ toString registrarVersion ++ ", got "
        ++ toString version)
    else if library.init.isNone then some ("missing subplug_init: " ++ systemReason)
    else none
  | none =>
    if library.init.isNone then some ("missing subplug_init: " ++ systemReason) else none

theorem fault?_eq_none_iff (library : Library) :
    library.fault? = none ↔
      (∀ version ∈ library.version, version = registrarVersion) ∧ library.init ≠ none := by
  obtain ⟨file, recorded, version, init⟩ := library
  cases version with
  | none => cases init <;> simp [fault?]
  | some version => by_cases h : version = registrarVersion <;> cases init <;> simp [fault?, h]

end Library

/-- What a regular file holds. -/
inductive Content where
  /-- Nothing that can be mapped. -/
  | other
  | library (version : Option Nat) (init : Option Script)
  /-- A library that registers one payload under two names. -/
  | echo
deriving DecidableEq

namespace Linker

/-! ## Linkers -/

/-- A module as a table describes it. -/
structure ModuleEntry where
  path : Path
  init : Script
  failure : Option LoadError
  /-- Whether a failure comes after the init instead of before it. -/
  failsLate : Bool
  release : Script
  releaseFailure : Option LoadError

/-- What comes of opening a module that a table describes. -/
def ModuleEntry.opening (entry : ModuleEntry) : Opening :=
  match entry.failure, entry.failsLate with
  | some failure, false => .refused failure
  | failure, _ => .run entry.init failure (.run entry.release entry.releaseFailure)

/-- The linker over a table of modules; of two entries for one path the later counts. -/
def ofTable (entries : List ModuleEntry) : Linker where
  opening path :=
    match entries.reverse.find? fun entry => entry.path = path with
    | none => .refused (.loadFailed path "no such module")
    | some entry => entry.opening

/-- The library that a file holds. -/
def libraryOf? (location : Location) : Content → Option Library
  | .other => none
  | .library version init => some ⟨FileTree.pathOf location, true, version, init⟩
  | .echo =>
    some ⟨FileTree.pathOf location, false, some registrarVersion,
      some (echoCalls.map Action.registrar)⟩

/-- The path that the system is asked for: a zero byte at the end only ends it. -/
def asked (path : Path) : Path :=
  if path.bytes.getLast? = some 0 then ⟨path.bytes.dropLast⟩ else path

/-- The linker of the system over a directory tree.  A path without a slash is searched
where there are no modules, and the empty path is the host itself, which is no module. -/
def native (tree : FileTree Content) : Linker where
  opening path :=
    let file := asked path
    if file.bytes.isEmpty then .map ⟨file, false, none, none⟩
    else if !file.bytes.contains Path.slash then .refused (.loadFailed path systemReason)
    else
      match (tree.file? file).bind fun found => libraryOf? found.1 found.2 with
      | none => .refused (.loadFailed path systemReason)
      | some library => .map library

end Linker

/-! ## Handle sets -/

/-- The open modules of a host, the latest last. -/
abbrev HandleSet := List Handle

namespace HandleSet

/-- A handle set in a developer listing. -/
def listing (handles : HandleSet) (quoted : Path → String) : String :=
  "[" ++ ", ".intercalate (handles.map fun handle => "ModuleHandle(" ++ quoted handle.path ++ ")")
    ++ "]"

/-- The handles that are closed when a set is released, in order: the latest first, or
none at all. -/
def closingOrder (handles : HandleSet) : ReleasePolicy → List Handle
  | .release => handles.reverse
  | .skip => []

/-- Whether a module closes without a failure. -/
def closes (handle : Handle) : Bool :=
  match handle.teardown with
  | .run _ (some _) => false
  | _ => true

/-- What becomes of a set that is released. -/
def report (handles : HandleSet) (policy : ReleasePolicy) : ReleaseReport :=
  match policy with
  | .skip => { ReleaseReport.zero with skipped := handles.length }
  | .release =>
    (handles.closingOrder .release).foldl (fun report handle => report.count (closes handle)) .zero

end HandleSet

end PluginHost
