import Mathlib
import PluginHost.Proofs.KindFiles

/-!
# What is listed for a kind

To list the files of a kind, a resolver over search directories goes through the directories in
order.  In each one it takes the files that are named like modules of the kind, in the order of
their names, and leaves out those whose name it has seen before.  The operating system may list a
directory in any order; nothing of that order is left in the result.

A listed file is described by its source: the position of its directory in the search path, and
its name.  The sources that are listed are those which no earlier directory offers too, and they
are in order.

Main results:

- Theorem `Bytes.precedes_iff`: the order of byte strings is the lexicographic one.
- Theorem `Path.precedes_join_iff`: below one directory the order of paths is that of names.
- Theorem `Config.mem_fresh_iff`: of the sources with one name the first is kept.
- Theorem `Config.resolveAll_eq`: the listed files are those of the kept sources.
- Theorem `Config.resolveAll_of_relisted`: the order in which directories are listed is irrelevant.
- Theorem `Config.kindListing`: the files that are listed, and their order.
-/

namespace PluginHost

/-! ## Order -/

/-- One byte string comes before another if it is smaller or equal in lexicographic order. -/
theorem Bytes.precedes_iff (a b : Bytes) : Bytes.precedes a b = true ↔ a ≤ b := by
  induction a generalizing b with
  | nil => simp [Bytes.precedes]
  | cons x a ih =>
    cases b with
    | nil => simp [Bytes.precedes]
    | cons y b => simp [Bytes.precedes, List.cons_le_cons_iff, ih b]

/-- The code of a component.  Codes are ordered like components: the root comes first, then the
directory itself, the one above it, and the names by their bytes. -/
def Component.code : Component → Bytes
  | .root => [0]
  | .current => [1]
  | .parent => [2]
  | .name bytes => 3 :: bytes

/-- Whether a path comes before another or leads through the same components: the first component
in which they differ decides. -/
def Path.precedes (a b : Path) : Bool :=
  a.components.map Component.code ≤ b.components.map Component.code

namespace Path

variable {dir : Path} {name other : Bytes}

theorem append_le_append_iff (front a b : List Bytes) : front ++ a ≤ front ++ b ↔ a ≤ b := by
  induction front with
  | nil => rfl
  | cons x front ih => simp [List.cons_le_cons_iff, List.lt_irrefl, ih]

/-- Below a directory a file name is one component more. -/
theorem components_join (dir : Path) (single : name.IsFileName) :
    (dir.join ⟨name⟩).components = dir.components ++ [.name name] := by
  have relative := isAbsolute_of_isFileName single
  have parts : (dir.join ⟨name⟩).parts = dir.parts ++ [name] := by
    by_cases bare : dir.bytes = []
    · have joined : dir.join ⟨name⟩ = ⟨name⟩ := by simp [join, bare, relative]
      rw [joined, Path.parts, Path.parts, bare, Fields.split_of_not_mem single.noSlash]
      simp [Fields.split, single.nonempty]
    · exact (parts_join bare single).1
  have start : (dir.join ⟨name⟩).isAbsolute = dir.isAbsolute := by
    by_cases bare : dir.bytes = []
    · have joined : dir.join ⟨name⟩ = ⟨name⟩ := by simp [join, bare, relative]
      rw [joined, relative]
      simp [isAbsolute, bare]
    · have first : ∀ back : Bytes, (dir.bytes ++ back).head? = dir.bytes.head? := by
        intro back
        rw [List.head?_append, Option.or_of_isSome (by simp [bare])]
      unfold isAbsolute
      rw [join_bytes relative bare]
      split <;> rw [first]
  have last : [name].filterMap Component.ofPart? = [.name name] := by
    simp [Component.ofPart?, single.notCurrent, single.notParent]
  unfold components
  rw [start, parts, List.filterMap_append, last]
  by_cases absolute : dir.isAbsolute = true
  · simp [absolute]
  · cases dir.parts with
    | nil => simp [absolute, single.notCurrent]
    | cons part rest =>
      by_cases current : part = [dot]
      · simp [absolute, current]
      · simp [absolute, current]

/-- Below a directory paths are ordered like the names. -/
theorem precedes_join_iff (dir : Path) (single : name.IsFileName) (single' : other.IsFileName) :
    (dir.join ⟨name⟩).precedes (dir.join ⟨other⟩) = true ↔ name ≤ other := by
  rw [precedes, decide_eq_true_iff, components_join dir single, components_join dir single',
    List.map_append, List.map_append, append_le_append_iff]
  simp [Component.code, List.le_iff_lt_or_eq, List.cons_lt_cons_iff]

end Path

/-! ## Sources -/

/-- Where a file is listed: the position of a directory in the search path, and the name of the
file there. -/
structure Source where
  position : Nat
  name : Bytes
deriving DecidableEq

namespace Source

/-- One source comes before another: its directory does, or its name in the same directory. -/
def Before (a b : Source) : Prop :=
  a.position < b.position ∨ a.position = b.position ∧ a.name < b.name

/-- The file of a source, for the directories that are searched. -/
def path (dirs : List Path) (source : Source) : Path :=
  (dirs.getD source.position ⟨[]⟩).join ⟨source.name⟩

end Source

namespace Config

variable {config : Config} {disk other : Disk} {kind : Kind} {dir : Path} {dirs : List Path}
  {name : Bytes} {seen : List Bytes} {source : Source} {given : List Source}

/-- A directory provides a file name for a kind: it is listed there, its path leads to a regular
file, and it is text with the stem of the kind and the configured extension.  The extension of a
file name is what follows its last dot. -/
structure Provides (config : Config) (disk : Disk) (kind : Kind) (dir : Path) (name : Bytes) :
    Prop where
  listed : ∃ names, disk.list? dir = some names ∧ name ∈ names
  isFile : disk.isFile (dir.join ⟨name⟩) = true
  text : ∃ text, Utf8.encode text = name
  stem : Utf8.encode kind.fileStem <+: name
  extension : Path.extensionOf? name = some (Utf8.encode config.extension)

/-- Whether the directory of a source provides its name. -/
def Offers (config : Config) (disk : Disk) (kind : Kind) (source : Source) : Prop :=
  ∃ dir, (config.searchPaths.get kind)[source.position]? = some dir ∧
    config.Provides disk kind dir source.name

/-! ### One directory -/

/-- The names of the files of a kind in a directory, in order. -/
def namesIn (config : Config) (disk : Disk) (kind : Kind) (dir : Path) : List Bytes :=
  (((disk.list? dir).getD []).mergeSort Bytes.precedes).filter fun name =>
    config.accepts disk kind (dir.join ⟨name⟩)

theorem filesIn_eq_map :
    config.filesIn disk kind dir = (config.namesIn disk kind dir).map fun name => dir.join ⟨name⟩ := by
  rw [filesIn, namesIn, List.filter_map]
  rfl

theorem mem_list?_of_mem_namesIn (mem : name ∈ config.namesIn disk kind dir) :
    ∃ names, disk.list? dir = some names ∧ name ∈ names := by
  have mem := List.mem_mergeSort.1 (List.mem_filter.1 mem).1
  cases listed : disk.list? dir with
  | none =>
    rw [listed] at mem
    cases mem
  | some names =>
    rw [listed] at mem
    exact ⟨names, rfl, mem⟩

theorem mem_namesIn_iff (named : disk.WellNamed) :
    name ∈ config.namesIn disk kind dir ↔ config.Provides disk kind dir name := by
  constructor
  · intro mem
    obtain ⟨names, listed, among⟩ := mem_list?_of_mem_namesIn mem
    obtain ⟨isFile, text, stem, extension⟩ :=
      (accepts_join_iff (named dir names listed name among)).1 (List.mem_filter.1 mem).2
    exact ⟨⟨names, listed, among⟩, isFile, (Utf8.isSome_decode?_iff name).1 text, stem, extension⟩
  · rintro ⟨⟨names, listed, among⟩, isFile, text, stem, extension⟩
    refine List.mem_filter.2 ⟨List.mem_mergeSort.2 (by rw [listed]; exact among), ?_⟩
    exact (accepts_join_iff (named dir names listed name among)).2
      ⟨isFile, (Utf8.isSome_decode?_iff name).2 text, stem, extension⟩

theorem pairwise_mergeSort (names : List Bytes) :
    (names.mergeSort Bytes.precedes).Pairwise (· ≤ ·) := by
  have sorted := @List.pairwise_mergeSort _ Bytes.precedes
    (fun a b c first second => by
      rw [Bytes.precedes_iff] at first second ⊢
      exact List.le_trans first second)
    (fun a b => by
      rw [Bool.or_eq_true, Bytes.precedes_iff, Bytes.precedes_iff]
      exact List.le_total a b)
    names
  simpa only [Bytes.precedes_iff] using sorted

theorem pairwise_namesIn (config : Config) (disk : Disk) (kind : Kind) (dir : Path) :
    (config.namesIn disk kind dir).Pairwise (· ≤ ·) :=
  (pairwise_mergeSort _).sublist List.filter_sublist

/-- Two lists of the same names are equal if both are in order. -/
theorem eq_of_perm_of_pairwise {names names' : List Bytes} (perm : names.Perm names')
    (sorted : names.Pairwise (· ≤ ·)) (sorted' : names'.Pairwise (· ≤ ·)) : names = names' :=
  List.Perm.eq_of_pairwise (fun _ _ _ _ => List.le_antisymm) sorted sorted' perm

theorem mergeSort_filter (names : List Bytes) (p : Bytes → Bool) :
    (names.mergeSort Bytes.precedes).filter p = (names.filter p).mergeSort Bytes.precedes := by
  refine eq_of_perm_of_pairwise ?_ ((pairwise_mergeSort names).sublist List.filter_sublist)
    (pairwise_mergeSort _)
  exact ((List.mergeSort_perm _ _).filter p).trans (List.mergeSort_perm _ _).symm

/-- It makes no difference whether the names in a directory are put in order, or the paths of the
files that are left. -/
theorem filesIn_eq_mergeSort (named : disk.WellNamed) :
    config.filesIn disk kind dir =
      ((((disk.list? dir).getD []).map fun name => dir.join ⟨name⟩).filter
        (config.accepts disk kind)).mergeSort Path.precedes := by
  have single : ∀ name ∈ (disk.list? dir).getD [], name.IsFileName := by
    intro name mem
    cases listed : disk.list? dir with
    | none =>
      rw [listed] at mem
      cases mem
    | some names =>
      rw [listed] at mem
      exact named dir names listed name mem
  have order : ∀ a ∈ (disk.list? dir).getD [], ∀ b ∈ (disk.list? dir).getD [],
      Bytes.precedes a b = (dir.join ⟨a⟩).precedes (dir.join ⟨b⟩) := by
    intro a mem b mem'
    rw [Bool.eq_iff_iff, Bytes.precedes_iff]
    exact (Path.precedes_join_iff dir (single a mem) (single b mem')).symm
  rw [filesIn_eq_map, namesIn, mergeSort_filter, List.filter_map]
  refine List.map_mergeSort fun a mem b mem' => ?_
  exact order a (List.mem_filter.1 mem).1 b (List.mem_filter.1 mem').1

/-- A directory that lists the same names in another order has the same files. -/
theorem filesIn_of_relisted (same : other.isFile = disk.isFile)
    (lists : Option.Rel List.Perm (disk.list? dir) (other.list? dir)) :
    config.filesIn other kind dir = config.filesIn disk kind dir := by
  have accepts : config.accepts other kind = config.accepts disk kind := by
    funext path
    rw [Config.accepts, Config.accepts, same]
  have perm : ((other.list? dir).getD []).Perm ((disk.list? dir).getD []) := by
    generalize disk.list? dir = listed, other.list? dir = listed' at lists
    cases lists with
    | some perm => exact perm.symm
    | none => exact List.Perm.refl _
  rw [filesIn_eq_map, filesIn_eq_map]
  congr 1
  refine eq_of_perm_of_pairwise ?_ (pairwise_namesIn ..) (pairwise_namesIn ..)
  rw [namesIn, namesIn, accepts]
  refine List.Perm.filter _ ?_
  exact (List.mergeSort_perm _ _).trans (perm.trans (List.mergeSort_perm _ _).symm)

/-! ### All directories -/

/-- The sources of all files of a kind. -/
def sources (config : Config) (disk : Disk) (kind : Kind) : List Source :=
  (config.searchPaths.get kind).zipIdx.flatMap fun (dir, position) =>
    (config.namesIn disk kind dir).map (Source.mk position)

/-- The sources whose names are new, for the names that have been seen. -/
def fresh (seen : List Bytes) : List Source → List Source
  | [] => []
  | source :: rest =>
    if source.name ∈ seen then fresh seen rest
    else source :: fresh (source.name :: seen) rest

theorem mem_sources_iff (named : disk.WellNamed) :
    source ∈ config.sources disk kind ↔ config.Offers disk kind source := by
  obtain ⟨position, name⟩ := source
  rw [sources, List.mem_flatMap]
  constructor
  · rintro ⟨⟨dir, place⟩, mem, provides⟩
    obtain ⟨other, provides, same⟩ := List.mem_map.1 provides
    cases same
    exact ⟨dir, List.mem_zipIdx_iff_getElem?.1 mem, (mem_namesIn_iff named).1 provides⟩
  · rintro ⟨dir, searched, provides⟩
    refine ⟨(dir, position), List.mem_zipIdx_iff_getElem?.2 searched, ?_⟩
    exact List.mem_map.2 ⟨name, (mem_namesIn_iff named).2 provides, rfl⟩

/-- The sources are in order; one name may still come several times. -/
theorem pairwise_sources (config : Config) (disk : Disk) (kind : Kind) :
    (config.sources disk kind).Pairwise fun a b =>
      a.position < b.position ∨ a.position = b.position ∧ a.name ≤ b.name := by
  refine List.pairwise_flatMap.2 ⟨?_, ?_⟩
  · rintro ⟨dir, position⟩ -
    refine List.pairwise_map.2 ?_
    exact (pairwise_namesIn config disk kind dir).imp fun le => .inr ⟨rfl, le⟩
  · have places : ((config.searchPaths.get kind).zipIdx.map Prod.snd).Pairwise (· < ·) := by
      rw [List.zipIdx_map_snd]
      exact List.pairwise_lt_range' 1
    refine (List.pairwise_map.1 places).imp ?_
    rintro ⟨dir, position⟩ ⟨dir', position'⟩ less source mem source' mem'
    obtain ⟨name, -, rfl⟩ := List.mem_map.1 mem
    obtain ⟨name', -, rfl⟩ := List.mem_map.1 mem'
    exact .inl less

theorem fresh_sublist (seen : List Bytes) (given : List Source) :
    (fresh seen given).Sublist given := by
  induction given generalizing seen with
  | nil => exact List.Sublist.slnil
  | cons source rest ih =>
    rw [fresh]
    split
    · exact (ih seen).cons source
    · exact (ih _).cons_cons source

/-- Of the sources with one name the first is kept, unless the name has been seen. -/
theorem mem_fresh_iff (seen : List Bytes) (given : List Source) :
    source ∈ fresh seen given ↔
      source.name ∉ seen ∧ given.find? (fun other => other.name = source.name) = some source := by
  induction given generalizing seen with
  | nil => simp [fresh]
  | cons next rest ih =>
    rw [fresh, List.find?_cons]
    by_cases same : next.name = source.name
    · by_cases known : source.name ∈ seen
      · simp [same, known, ih]
      · simp [same, known, ih, eq_comm]
    · by_cases known : next.name ∈ seen
      · simp [same, known, ih]
      · have ne : source ≠ next := by
          rintro rfl
          exact same rfl
        simp [same, known, ih, ne, Ne.symm same]

theorem nodup_fresh (seen : List Bytes) (given : List Source) :
    ((fresh seen given).map Source.name).Nodup := by
  induction given generalizing seen with
  | nil => exact List.nodup_nil
  | cons source rest ih =>
    rw [fresh]
    split
    · exact ih seen
    · refine List.nodup_cons.2 ⟨fun mem => ?_, ih _⟩
      obtain ⟨other, kept, same⟩ := List.mem_map.1 mem
      exact ((mem_fresh_iff _ _).1 kept).1 (by simp [same])

/-- To keep of some paths the first of each file name is to keep their sources so. -/
theorem foldl_keepNew_map (dirs : List Path) {found : List Path}
    (named : ∀ source ∈ given, (source.path dirs).fileName? = some source.name)
    (known : ∀ name, name ∈ seen ↔ ∃ path ∈ found, path.fileName? = some name) :
    (given.map (Source.path dirs)).foldl keepNew found =
      found ++ (fresh seen given).map (Source.path dirs) := by
  induction given generalizing found seen with
  | nil => simp [fresh]
  | cons source rest ih =>
    have own := named source List.mem_cons_self
    have others := fun other mem => named other (List.mem_cons_of_mem _ mem)
    have taken : (found.any fun other => other.fileName? == (source.path dirs).fileName?) = true ↔
        source.name ∈ seen := by
      rw [known source.name, own]
      simp
    rw [List.map_cons, List.foldl_cons, keepNew, fresh, if_congr taken rfl rfl]
    split
    · exact ih others known
    · have known : ∀ name, name ∈ source.name :: seen ↔
          ∃ path ∈ found ++ [source.path dirs], path.fileName? = some name := by
        intro name
        rw [List.mem_cons, known name]
        constructor
        · rintro (rfl | ⟨path, mem, named⟩)
          · exact ⟨_, by simp, own⟩
          · exact ⟨path, by simp [mem], named⟩
        · rintro ⟨path, mem, named⟩
          rcases List.mem_append.1 mem with old | new
          · exact .inr ⟨path, old, named⟩
          · rw [List.mem_singleton.1 new, own] at named
            exact .inl (Option.some_inj.1 named).symm
      rw [ih others known, List.map_cons, List.append_assoc, List.singleton_append]

/-- The files in all directories are those of the sources. -/
theorem flatMap_filesIn (config : Config) (disk : Disk) (kind : Kind) :
    (config.searchPaths.get kind).flatMap (config.filesIn disk kind) =
      (config.sources disk kind).map (Source.path (config.searchPaths.get kind)) := by
  generalize searched : config.searchPaths.get kind = dirs
  have each : ∀ place ∈ dirs.zipIdx, config.filesIn disk kind place.1 =
      ((config.namesIn disk kind place.1).map (Source.mk place.2)).map (Source.path dirs) := by
    rintro ⟨dir, position⟩ mem
    have there : dirs.getD position ⟨[]⟩ = dir := by
      rw [List.getD_eq_getElem?_getD, List.mem_zipIdx_iff_getElem?.1 mem, Option.getD_some]
    rw [filesIn_eq_map, List.map_map]
    refine List.map_congr_left fun name _ => ?_
    rw [Function.comp_apply, Source.path, there]
  calc dirs.flatMap (config.filesIn disk kind)
      = dirs.zipIdx.flatMap fun place => config.filesIn disk kind place.1 := by
        rw [← List.flatMap_map Prod.fst, List.zipIdx_map_fst]
    _ = dirs.zipIdx.flatMap fun place =>
          ((config.namesIn disk kind place.1).map (Source.mk place.2)).map (Source.path dirs) :=
        List.flatMap_congr each
    _ = (config.sources disk kind).map (Source.path dirs) := by
        rw [sources, searched, List.map_flatMap]

theorem fileName?_path (named : disk.WellNamed) (mem : source ∈ config.sources disk kind)
    (dirs : List Path) : (source.path dirs).fileName? = some source.name := by
  obtain ⟨dir, -, ⟨names, listed, among⟩, -⟩ := (mem_sources_iff named).1 mem
  exact Path.fileName?_join _ (named dir names listed _ among)

/-- The files that are listed are those of the sources that are kept. -/
theorem resolveAll_eq (named : disk.WellNamed) :
    config.resolveAll disk kind =
      (fresh [] (config.sources disk kind)).map (Source.path (config.searchPaths.get kind)) := by
  have none : ∀ name, name ∈ ([] : List Bytes) ↔
      ∃ path ∈ ([] : List Path), path.fileName? = some name := by
    simp
  rw [resolveAll, flatMap_filesIn,
    foldl_keepNew_map _ (fun source mem => fileName?_path named mem _) none, List.nil_append]

theorem exists_first (mem : source ∈ given) :
    ∃ first, given.find? (fun other => other.name = source.name) = some first ∧
      first.name = source.name := by
  have isSome : (given.find? fun other => other.name = source.name).isSome = true := by
    rw [List.find?_isSome]
    exact ⟨source, mem, decide_eq_true rfl⟩
  obtain ⟨first, found⟩ := Option.isSome_iff_exists.1 isSome
  exact ⟨first, found, by simpa using List.find?_some found⟩

/-- The first source of a name is in the earliest directory. -/
theorem position_le_of_find? {first : Source}
    (found : (config.sources disk kind).find? (fun other => other.name = name) = some first)
    (mem : source ∈ config.sources disk kind) (same : source.name = name) :
    first.position ≤ source.position := by
  obtain ⟨-, before, after, cut, none⟩ := List.find?_eq_some_iff_append.1 found
  have sorted := pairwise_sources config disk kind
  rw [cut] at mem sorted
  rcases List.mem_append.1 mem with early | late
  · simpa [same] using none source early
  · rcases List.mem_cons.1 late with rfl | late
    · exact Nat.le_refl _
    · have next := (List.pairwise_cons.1 (List.pairwise_append.1 sorted).2.1).1 source late
      omega

/-- The first source of a name is the one which no earlier directory offers too. -/
theorem find?_sources_iff (named : disk.WellNamed) :
    (config.sources disk kind).find? (fun other => other.name = source.name) = some source ↔
      config.Offers disk kind source ∧
        ∀ other, config.Offers disk kind other → other.name = source.name →
          source.position ≤ other.position := by
  simp only [← mem_sources_iff named]
  constructor
  · intro found
    exact ⟨List.mem_of_find?_eq_some found, fun other mem same =>
      position_le_of_find? found mem same⟩
  · rintro ⟨mem, least⟩
    obtain ⟨first, found, same⟩ := exists_first mem
    have low := least first (List.mem_of_find?_eq_some found) same
    have high := position_le_of_find? found mem rfl
    have place : first.position = source.position := by omega
    rw [found]
    cases first
    cases source
    cases same
    cases place
    rfl

end Config

/-! ## The contract -/

/-- The other file system has the same files, and a directory lists the same names there, in any
order. -/
structure Disk.Relisted (disk other : Disk) : Prop where
  isFile : other.isFile = disk.isFile
  lists : ∀ dir, Option.Rel List.Perm (disk.list? dir) (other.list? dir)

/-- The file system in which every directory is listed the other way round. -/
def Disk.backwards (disk : Disk) : Disk :=
  { disk with list? := fun dir => (disk.list? dir).map List.reverse }

theorem Disk.relisted_backwards (disk : Disk) : disk.Relisted disk.backwards := by
  refine ⟨rfl, fun dir => ?_⟩
  show Option.Rel List.Perm (disk.list? dir) ((disk.list? dir).map List.reverse)
  cases disk.list? dir with
  | none => exact .none
  | some names => exact .some (List.reverse_perm names).symm

namespace Config

variable {config : Config} {disk other : Disk} {kind : Kind}

/-- The order in which directories are listed is irrelevant. -/
theorem resolveAll_of_relisted (relisted : disk.Relisted other) :
    config.resolveAll other kind = config.resolveAll disk kind := by
  rw [resolveAll, resolveAll]
  congr 1
  exact List.flatMap_congr fun dir _ => filesIn_of_relisted relisted.isFile (relisted.lists dir)

/-- Which files are listed for a kind.  They are those of some sources: exactly of those which a
search directory offers and no earlier one does too.  The sources are in order, by the position of
the directory in the search path and then by the bytes of the name; and no name comes twice.  The
order in which the operating system lists the directories makes no difference, and neither does it
whether the names in a directory are put in order or the paths of the files. -/
structure KindListing (config : Config) (disk : Disk) (kind : Kind) : Prop where
  sources : ∃ found : List Source,
    config.resolveAll disk kind = found.map (Source.path (config.searchPaths.get kind)) ∧
      (∀ source, source ∈ found ↔ config.Offers disk kind source ∧
        ∀ other, config.Offers disk kind other → other.name = source.name →
          source.position ≤ other.position) ∧
      found.Pairwise Source.Before ∧
      (config.resolveAll disk kind).map Path.fileName? = found.map fun source => some source.name
  distinct : ((config.resolveAll disk kind).map Path.fileName?).Nodup
  mem_iff : ∀ name, some name ∈ (config.resolveAll disk kind).map Path.fileName? ↔
    ∃ dir ∈ config.searchPaths.get kind, config.Provides disk kind dir name
  relisted : ∀ other, disk.Relisted other →
    config.resolveAll other kind = config.resolveAll disk kind
  ordered : ∀ dir, config.filesIn disk kind dir =
    ((((disk.list? dir).getD []).map fun name => dir.join ⟨name⟩).filter
      (config.accepts disk kind)).mergeSort Path.precedes

/-- The files of every kind are listed so. -/
theorem kindListing (config : Config) (kind : Kind) (named : disk.WellNamed) :
    KindListing config disk kind := by
  have whole := @resolveAll_eq config disk kind named
  have kept : ∀ source, source ∈ fresh [] (config.sources disk kind) ↔
      config.Offers disk kind source ∧ ∀ other, config.Offers disk kind other →
        other.name = source.name → source.position ≤ other.position := by
    intro source
    rw [mem_fresh_iff, find?_sources_iff named]
    simp
  have names : (config.resolveAll disk kind).map Path.fileName? =
      (fresh [] (config.sources disk kind)).map fun source => some source.name := by
    rw [whole, List.map_map]
    refine List.map_congr_left fun source mem => ?_
    exact fileName?_path named ((fresh_sublist _ _).subset mem) _
  have distinct := nodup_fresh [] (config.sources disk kind)
  refine ⟨⟨_, whole, kept, ?sorted, names⟩, ?distinct, ?mem_iff,
    fun other relisted => resolveAll_of_relisted relisted, fun dir => filesIn_eq_mergeSort named⟩
  case sorted =>
    have weak := (pairwise_sources config disk kind).sublist (fresh_sublist [] _)
    refine (weak.and (List.pairwise_map.1 distinct)).imp ?_
    rintro a b ⟨less | ⟨same, le⟩, ne⟩
    · exact .inl less
    · exact .inr ⟨same, Std.lt_of_le_of_ne le ne⟩
  case distinct =>
    rw [names, ← Function.comp_def some Source.name, ← List.map_map]
    exact distinct.map (Option.some_injective _)
  case mem_iff =>
    intro name
    rw [names]
    constructor
    · intro mem
      obtain ⟨source, mem, same⟩ := List.mem_map.1 mem
      obtain ⟨dir, searched, provides⟩ := ((kept source).1 mem).1
      cases same
      exact ⟨dir, List.mem_of_getElem? searched, provides⟩
    · rintro ⟨dir, searched, provides⟩
      obtain ⟨position, place⟩ := List.getElem?_of_mem searched
      have offers : ⟨position, name⟩ ∈ config.sources disk kind :=
        (mem_sources_iff named).2 ⟨dir, place, provides⟩
      obtain ⟨first, found, same⟩ := exists_first offers
      refine List.mem_map.2 ⟨first, (mem_fresh_iff _ _).2 ⟨by simp, ?_⟩, congrArg some same⟩
      rw [same]
      exact found

/-- A tree with two directories that hold converters, one of them in both; what is called like
a converter may also be a directory, and a link. -/
def converterTree : FileTree Unit :=
  .ofEntries [(.ofText "a/libsubplug_converter_b.so", .file ()),
    (.ofText "a/libsubplug_converter_B.so", .link (.ofText "../b/libsubplug_converter_b.so")),
    (.ofText "a/libsubplug_converter_c.txt", .file ()),
    (.ofText "a/libsubplug_converter_d.so", .directory),
    (.ofText "b/libsubplug_converter_d.so", .file ()),
    (.ofText "b/libsubplug_converter_b.so", .file ())]

/-- A configuration that searches the directories of the tree, one of them twice, and one that is
not there. -/
def converterConfig : Config :=
  { Config.empty with
    searchPaths := PerKind.ofFn fun _ => ["none", "a", "b", "./a"].map Path.ofText }

theorem kindListing_converterTree :
    converterTree.disk.WellNamed ∧ KindListing converterConfig converterTree.disk .converter ∧
      converterConfig.resolveAll converterTree.disk.backwards .converter =
        converterConfig.resolveAll converterTree.disk .converter ∧
      converterConfig.resolveAll converterTree.disk .converter =
        ["a/libsubplug_converter_B.so", "a/libsubplug_converter_b.so",
          "b/libsubplug_converter_d.so"].map Path.ofText := by
  have named : converterTree.disk.WellNamed := (FileTree.wellNamed_ofEntries _).disk
  have listing := kindListing converterConfig .converter named
  exact ⟨named, listing, listing.relisted _ (Disk.relisted_backwards _), by cbv⟩

end Config

end PluginHost
