import PluginHost.Kind

/-!
# How a kind is searched

A lookup that misses the registry is satisfied in one of three ways, by the mode of
its kind.
-/

namespace PluginHost

/-- How a lookup that misses the registry is satisfied. -/
inductive SearchMode where
  /-- Open the one file that should provide the name. -/
  | byName
  /-- Open every candidate of the kind on the first lookup. -/
  | loadAll
  /-- Nothing of the kind is left to open. -/
  | settled
deriving DecidableEq, Repr

namespace SearchMode

/-- Every mode. -/
def all : List SearchMode :=
  [byName, loadAll, settled]

/-- The name of a mode in configuration texts. -/
def name : SearchMode → String
  | byName => "by_name"
  | loadAll => "load_all"
  | settled => "settled"

/-- The mode with a given name. -/
def ofName? (text : String) : Option SearchMode :=
  all.find? fun mode => mode.name == text

/-- The mode in which a kind starts.  Converters claim their names themselves, so
all of them are opened. -/
def initial : Kind → SearchMode
  | .filter | .decoder | .easyCustomFilter => byName
  | .converter => loadAll

/-- The modes in which the kinds start. -/
def defaults : PerKind SearchMode :=
  PerKind.ofFn initial

end SearchMode

end PluginHost
