import PluginHost.Kind
import PluginHost.Path

/-!
# Where modules are searched

A configuration lists the search directories of each kind, in order, and the
extension of module files.  It is built up step by step, or read off the environment:
there each kind has a variable with further directories, separated by colons, and the
default directory of the kind comes last unless a variable already names it.
-/

namespace PluginHost

/-- The search directories of each kind and the extension of module files. -/
structure Config where
  searchPaths : PerKind (List Path)
  extension : String
deriving DecidableEq

namespace Config

/-! ## Building -/

/-- The extension of module files on this platform. -/
def platformExtension : String :=
  "so"

/-- The root below which modules are installed by default. -/
def installRoot : String :=
  "/usr/lib/subplug"

/-- The configuration without a search directory. -/
def empty : Config where
  searchPaths := PerKind.ofFn fun _ => []
  extension := platformExtension

/-- The configuration with one more search directory of a kind, which is searched last. -/
def addPath (config : Config) (kind : Kind) (path : Path) : Config :=
  { config with searchPaths := config.searchPaths.set kind (config.searchPaths.get kind ++ [path]) }

/-- The configuration with another extension. -/
def setExtension (config : Config) (extension : String) : Config :=
  { config with extension := extension }

/-- The file name of the module of a kind that provides a name. -/
def fileName (config : Config) (kind : Kind) (name : String) : String :=
  kind.fileStem ++ name ++ "." ++ config.extension

/-- Whether two configurations have the same extension and search the same directories
in the same order. -/
def same (a b : Config) : Bool :=
  a.extension = b.extension &&
    Kind.all.all fun kind =>
      (a.searchPaths.get kind).map Path.components = (b.searchPaths.get kind).map Path.components

/-! ## The environment -/

/-- The byte that separates the directories in a variable. -/
def listSeparator : UInt8 := 0x3A

/-- The default directory of a kind. -/
def defaultPath (kind : Kind) : Path :=
  .ofText (installRoot ++ "/" ++ kind.directory)

/-- The directories that the value of a variable lists. -/
def listedPaths (value : Bytes) : List Path :=
  ((Fields.split listSeparator value).filter fun field => !field.isEmpty).map Path.mk

/-- The search directories of a kind, by the value of its variable. -/
def environmentPaths (kind : Kind) (value : Option Bytes) : List Path :=
  let listed := (value.map listedPaths).getD []
  if listed.any fun path => path.same (defaultPath kind) then listed
  else listed ++ [defaultPath kind]

/-- The configuration that an environment describes. -/
def ofEnvironment (environment : String → Option Bytes) : Config :=
  { empty with
    searchPaths := PerKind.ofFn fun kind => environmentPaths kind (environment kind.searchVariable) }

end Config

end PluginHost
