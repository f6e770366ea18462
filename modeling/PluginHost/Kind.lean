/-!
# Kinds of subplugins

A host manages four families of subplugins.  Each family has its own name space,
its own file-name stem and its own search directory.  On the registration
interface a kind travels as its number.

Main results:

- Theorem `Kind.ofNumber?_number`: every kind is recovered from its number.
- Theorem `Kind.ofNumber?_eq_none_iff`: exactly the numbers from `Kind.count` on
  name no kind.
- Theorems `PerKind.get_set_self` and `PerKind.get_set_of_ne`: a per-kind table
  is read back where it was written and nowhere else.
-/

namespace PluginHost

/-! ## The four families -/

/-- The families of subplugins, in the order of their numbers. -/
inductive Kind where
  | filter
  | decoder
  | easyCustomFilter
  | converter
deriving DecidableEq, Repr

namespace Kind

/-- Every kind, in the order of their numbers. -/
def all : List Kind :=
  [filter, decoder, easyCustomFilter, converter]

/-- How many kinds there are. -/
def count : Nat :=
  all.length

/-- The number of a kind on the registration interface. -/
def number : Kind → Nat
  | filter => 0
  | decoder => 1
  | easyCustomFilter => 2
  | converter => 3

/-- The kind with a given number. -/
def ofNumber? : Nat → Option Kind
  | 0 => some filter
  | 1 => some decoder
  | 2 => some easyCustomFilter
  | 3 => some converter
  | _ => none

/-- The name of a kind in messages and in configuration texts. -/
def name : Kind → String
  | filter => "filter"
  | decoder => "decoder"
  | easyCustomFilter => "easy_custom_filter"
  | converter => "converter"

/-- The kind with a given name. -/
def ofName? (text : String) : Option Kind :=
  all.find? fun kind => kind.name == text

/-- The name of a kind in developer listings. -/
def listingName : Kind → String
  | filter => "Filter"
  | decoder => "Decoder"
  | easyCustomFilter => "EasyCustomFilter"
  | converter => "Converter"

/-- How the file name of every module of a kind begins. -/
def fileStem : Kind → String
  | filter => "libsubplug_filter_"
  | decoder => "libsubplug_decoder_"
  | easyCustomFilter => "libsubplug_customfilter_"
  | converter => "libsubplug_converter_"

/-- The directory of a kind below the install root. -/
def directory : Kind → String
  | filter => "filters"
  | decoder => "decoders"
  | easyCustomFilter => "customfilters"
  | converter => "converters"

/-- The environment variable that lists further search directories of a kind. -/
def searchVariable : Kind → String
  | filter => "SUBPLUG_FILTERS"
  | decoder => "SUBPLUG_DECODERS"
  | easyCustomFilter => "SUBPLUG_CUSTOMFILTERS"
  | converter => "SUBPLUG_CONVERTERS"

/-- The kinds of a list in the order of their numbers; equal kinds are kept. -/
def sorted (kinds : List Kind) : List Kind :=
  kinds.mergeSort fun a b => a.number ≤ b.number

@[simp]
theorem mem_all (kind : Kind) : kind ∈ all := by
  cases kind <;> decide

@[simp]
theorem ofNumber?_number (kind : Kind) : ofNumber? kind.number = some kind := by
  cases kind <;> rfl

theorem ofNumber?_eq_none_iff (n : Nat) : ofNumber? n = none ↔ count ≤ n := by
  match n with
  | 0 | 1 | 2 | 3 => decide
  | n + 4 => simp [ofNumber?, count, all]

end Kind

/-! ## Tables with one entry per kind -/

/-- One value for each kind. -/
structure PerKind (α : Type) where
  filter : α
  decoder : α
  easyCustomFilter : α
  converter : α
deriving DecidableEq, Repr

namespace PerKind

variable {α β : Type}

/-- The entry of a kind. -/
def get (table : PerKind α) : Kind → α
  | .filter => table.filter
  | .decoder => table.decoder
  | .easyCustomFilter => table.easyCustomFilter
  | .converter => table.converter

/-- Replace the entry of one kind. -/
def set (table : PerKind α) (kind : Kind) (value : α) : PerKind α :=
  match kind with
  | .filter => { table with filter := value }
  | .decoder => { table with decoder := value }
  | .easyCustomFilter => { table with easyCustomFilter := value }
  | .converter => { table with converter := value }

/-- The table whose entries are given by a function of the kind. -/
def ofFn (f : Kind → α) : PerKind α :=
  ⟨f .filter, f .decoder, f .easyCustomFilter, f .converter⟩

/-- The entries in the order of the kinds. -/
def toList (table : PerKind α) : List α :=
  Kind.all.map table.get

@[simp]
theorem get_ofFn (f : Kind → α) (kind : Kind) : (ofFn f).get kind = f kind := by
  cases kind <;> rfl

@[simp]
theorem get_set_self (table : PerKind α) (kind : Kind) (value : α) :
    (table.set kind value).get kind = value := by
  cases kind <;> rfl

@[simp]
theorem get_set_of_ne {table : PerKind α} {kind other : Kind} {value : α} (h : other ≠ kind) :
    (table.set kind value).get other = table.get other := by
  cases kind <;> cases other <;> simp_all [set, get]

/-- Two tables with the same entries are equal. -/
theorem ext_get {a b : PerKind α} (h : ∀ kind, a.get kind = b.get kind) : a = b := by
  cases a
  cases b
  have h0 := h .filter
  have h1 := h .decoder
  have h2 := h .easyCustomFilter
  have h3 := h .converter
  simp only [get] at h0 h1 h2 h3
  simp [h0, h1, h2, h3]

end PerKind

end PluginHost
