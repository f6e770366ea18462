import PluginHost.Resolver

/-!
# The file names of modules

Names and the extension are texts from outside that become part of a path.  A resolver over
search directories looks at the path that results: at its file name, which is the last part
between slashes, and at the file that the path leads to.  This module says that a path passes
only if the directory is a configured one and all that follows it is one file name.

Main results:

- Theorem `Path.fileName?_join`: below a directory a file name is the file name of the path.
- Theorem `FileTree.wellNamed_ofEntries`: the directories of a tree list file names.
- Theorem `Config.moduleFile_of_valid`: the file of a name is a file of the name's kind with the
  name that the configuration says.
- Theorem `Config.moduleFile_of_mem`: every listed file is a file of the kind.
-/

namespace PluginHost

/-! ## File names -/

/-- Whether a byte string names a file in a directory, as one part of a path. -/
structure Bytes.IsFileName (name : Bytes) : Prop where
  nonempty : name ≠ []
  noSlash : Path.slash ∉ name
  notCurrent : name ≠ [Path.dot]
  notParent : name ≠ [Path.dot, Path.dot]

namespace Path

variable {path dir : Path} {name extension : Bytes}

theorem mem_parts (h : name ∈ path.parts) : name ≠ [] ∧ slash ∉ name := by
  obtain ⟨mem, nonempty⟩ := List.mem_filter.1 h
  exact ⟨by simpa using nonempty, Fields.not_mem_of_mem_split mem⟩

theorem isFileName_of_ofPart? (h : name ∈ path.parts)
    (part : Component.ofPart? name = some (.name name)) : name.IsFileName := by
  obtain ⟨nonempty, noSlash⟩ := mem_parts h
  refine ⟨nonempty, noSlash, ?_, ?_⟩
  · rintro rfl
    cases part
  · rintro rfl
    cases part

/-- The file name of a path is one part of it. -/
theorem isFileName_of_fileName? (h : path.fileName? = some name) : name.IsFileName := by
  unfold fileName? at h
  split at h
  · next bytes last =>
    cases h
    have mem := List.mem_of_getLast? last
    have step : .name name ∈ path.parts.filterMap Component.ofPart? := by
      unfold components at mem
      dsimp only at mem
      split at mem
      · simpa using mem
      · split at mem
        · simpa using mem
        · exact mem
    obtain ⟨part, among, is⟩ := List.mem_filterMap.1 step
    have same : part = name := by
      unfold Component.ofPart? at is
      split at is
      · cases is
      · split at is <;> cases is
        rfl
    subst same
    exact isFileName_of_ofPart? among is
  · cases h

/-- A file name is the last part of a path that it ends, below a directory or alone. -/
theorem fileName?_of_ends (single : name.IsFileName)
    (ends : path.bytes = name ∨ ∃ front, path.bytes = front ++ slash :: name) :
    path.fileName? = some name := by
  have nonempty : name.isEmpty = false := by simp [single.nonempty]
  have last : ∃ front, path.parts = front ++ [name] := by
    unfold parts
    rcases ends with alone | ⟨front, below⟩
    · rw [alone, Fields.split_of_not_mem single.noSlash]
      exact ⟨[], by simp [nonempty]⟩
    · rw [below, Fields.split_append, Fields.split_of_not_mem single.noSlash, List.filter_append]
      exact ⟨_, congrArg _ (by simp [nonempty])⟩
  obtain ⟨front, parts⟩ := last
  have steps : path.parts.filterMap Component.ofPart? =
      front.filterMap Component.ofPart? ++ [.name name] := by
    rw [parts, List.filterMap_append]
    simp [Component.ofPart?, single.notCurrent, single.notParent]
  have ending : path.components.getLast? = some (.name name) := by
    unfold components
    dsimp only
    rw [steps]
    split
    · exact List.getLast?_concat (l := .root :: front.filterMap Component.ofPart?)
    · split
      · exact List.getLast?_concat (l := .current :: front.filterMap Component.ofPart?)
      · exact List.getLast?_concat
  rw [fileName?, ending]

/-- A file name is a relative path. -/
theorem isAbsolute_of_isFileName (single : name.IsFileName) : isAbsolute ⟨name⟩ = false := by
  have first : name.head? ≠ some slash := fun head =>
    single.noSlash (List.mem_of_mem_head? head)
  simpa [isAbsolute] using first

/-- Below a directory a file name is the file name of the path. -/
theorem fileName?_join (dir : Path) (single : name.IsFileName) :
    (dir.join ⟨name⟩).fileName? = some name := by
  refine fileName?_of_ends single ?_
  unfold join
  rw [if_neg (by simp [isAbsolute_of_isFileName single])]
  split
  · next bare =>
    rw [Bool.or_eq_true, List.isEmpty_iff, decide_eq_true_eq] at bare
    rcases bare with empty | ends
    · exact .inl (by simp [empty])
    · obtain ⟨front, bytes⟩ := List.getLast?_eq_some_iff.1 ends
      exact .inr ⟨front, by simp [bytes]⟩
  · exact .inr ⟨dir.bytes, rfl⟩

/-- What follows the last dot of a file name is an extension, if something stands before it. -/
theorem extensionOf?_eq_some_iff :
    extensionOf? name = some extension ↔
      dot ∉ extension ∧ ∃ stem, stem ≠ [] ∧ name = stem ++ dot :: extension := by
  unfold extensionOf?
  dsimp only
  constructor
  · intro h
    split at h
    · cases h
    · next nonempty =>
      cases h
      have noDot := List.all_eq_true.1 (List.all_takeWhile (p := (· ≠ dot)) (l := name.reverse))
      refine ⟨fun mem => by simpa using noDot dot (List.mem_reverse.1 mem), ?_⟩
      have first := List.head?_dropWhile_not (· ≠ dot) name.reverse
      have whole := List.takeWhile_append_dropWhile (p := (· ≠ dot)) (l := name.reverse)
      generalize name.reverse.dropWhile (· ≠ dot) = rest at nonempty first whole
      cases rest with
      | nil => exact absurd rfl nonempty
      | cons b before =>
        obtain rfl : b = dot := by simpa using first
        refine ⟨before.reverse, by simpa using nonempty, ?_⟩
        have whole := congrArg List.reverse whole
        rw [List.reverse_reverse] at whole
        exact whole.symm.trans (by simp)
  · rintro ⟨noDot, stem, nonempty, rfl⟩
    have passes : ∀ b ∈ extension.reverse, decide (b ≠ dot) = true := by
      intro b mem
      have : b ≠ dot := by
        rintro rfl
        exact noDot (List.mem_reverse.1 mem)
      simpa using this
    rw [List.reverse_append, List.reverse_cons, List.append_assoc, List.singleton_append,
      List.takeWhile_append_of_pos passes, List.dropWhile_append_of_pos passes]
    simp [nonempty]

/-- What follows the last dot of a file name is part of it. -/
theorem mem_of_mem_extensionOf? {b : UInt8} (h : extensionOf? name = some extension)
    (mem : b ∈ extension) : b ∈ name := by
  obtain ⟨-, stem, -, rfl⟩ := extensionOf?_eq_some_iff.1 h
  exact List.mem_append_right _ (List.mem_cons_of_mem _ mem)

end Path

/-! ## Text -/

/-- A text has a byte below 128 exactly if it has the character with that number. -/
theorem Utf8.mem_encode_iff_char {text : String} {c : Char} {b : UInt8} (low : b.toNat < 128)
    (number : c.toNat = b.toNat) : b ∈ encode text ↔ c ∈ text.toList := by
  rw [mem_encode_iff low]
  constructor
  · rintro ⟨other, mem, same⟩
    rwa [Char.toNat_inj.1 (same.trans number.symm)] at mem
  · exact fun mem => ⟨c, mem, number⟩

theorem Utf8.exists_of_flatMap_eq {cs : List Char} {front back : Bytes} {b : UInt8}
    (low : b.toNat < 128) (h : cs.flatMap String.utf8EncodeChar = front ++ b :: back) :
    ∃ before after : List Char, before.flatMap String.utf8EncodeChar = front ∧
      after.flatMap String.utf8EncodeChar = back := by
  induction cs generalizing front with
  | nil => exact absurd h.symm (by simp)
  | cons c cs ih =>
    rw [List.flatMap_cons] at h
    rcases List.append_eq_append_iff.1 h with ⟨rest, rfl, later⟩ | ⟨rest, first, later⟩
    · obtain ⟨before, after, rfl, back⟩ := ih later
      exact ⟨c :: before, after, List.flatMap_cons, back⟩
    · cases rest with
      | nil =>
        obtain ⟨before, after, none, back⟩ := @ih [] later.symm
        exact ⟨c :: before, after, by rw [List.flatMap_cons, none, first]; simp, back⟩
      | cons b' rest =>
        obtain ⟨rfl, rfl⟩ := List.cons.inj later
        have mem : b ∈ String.utf8EncodeChar c := by simp [first]
        have one := encodeChar_of_toNat low (toNat_of_mem_encodeChar low mem)
        rw [one] at first
        cases front with
        | nil =>
          cases first
          exact ⟨[], cs, rfl, rfl⟩
        | cons _ front => simp at first

/-- What stands in a text before and after a byte below 128 is text. -/
theorem Utf8.exists_of_encode_eq {text : String} {front back : Bytes} {b : UInt8}
    (low : b.toNat < 128) (h : encode text = front ++ b :: back) :
    ∃ before after, encode before = front ∧ encode after = back := by
  rw [encode_eq_flatMap] at h
  obtain ⟨before, after, rfl, rfl⟩ := exists_of_flatMap_eq low h
  exact ⟨.ofList before, .ofList after, by simp [encode_eq_flatMap], by simp [encode_eq_flatMap]⟩

/-! ## Directories -/

/-- Whether a file system lists nothing but file names. -/
def Disk.WellNamed (disk : Disk) : Prop :=
  ∀ dir names, disk.list? dir = some names → ∀ name ∈ names, name.IsFileName

/-- Whether each step into a directory names a file in it. -/
def Step.WellNamed (steps : List Step) : Prop :=
  ∀ name, .into name ∈ steps → name.IsFileName

/-- Whether each name on the way to a place in a tree is a file name. -/
def Place.WellNamed : Place → Prop
  | .inside location => ∀ name ∈ location, name.IsFileName
  | .outside => True

namespace Step

variable {step : Step} {steps rest : List Step} {name : Bytes}

theorem WellNamed.head (h : WellNamed (.into name :: rest)) : name.IsFileName :=
  h name List.mem_cons_self

theorem WellNamed.tail (h : WellNamed (step :: rest)) : WellNamed rest :=
  fun name mem => h name (List.mem_cons_of_mem _ mem)

theorem WellNamed.take (h : WellNamed (step :: rest)) : WellNamed [step] :=
  fun name mem => h name (List.mem_cons.2 (.inl (List.mem_singleton.1 mem)))

theorem WellNamed.append (h : WellNamed steps) (h' : WellNamed rest) : WellNamed (steps ++ rest) :=
  fun name mem => (List.mem_append.1 mem).elim (h name) (h' name)

theorem wellNamed_steps (path : Path) : Step.WellNamed path.steps := by
  have parts : Step.WellNamed (path.parts.map fun part =>
      if part = [Path.dot] then Step.stay
      else if part = [Path.dot, Path.dot] then .up else .into part) := by
    intro name mem
    obtain ⟨part, among, step⟩ := List.mem_map.1 mem
    split at step
    · cases step
    · next notCurrent =>
      split at step
      · cases step
      · next notParent =>
        cases step
        obtain ⟨nonempty, noSlash⟩ := Path.mem_parts among
        exact ⟨nonempty, noSlash, notCurrent, notParent⟩
  intro name mem
  unfold Path.steps at mem
  dsimp only at mem
  split at mem
  · exact parts name (by simpa using mem)
  · exact parts name mem

end Step

namespace FileTree

variable {α : Type} {tree : FileTree α}

/-- Whether each name in a tree is a file name. -/
def WellNamed (tree : FileTree α) : Prop :=
  ∀ entry ∈ tree.entries, ∀ name ∈ entry.1, name.IsFileName

theorem wellNamed_above {place : Place} (h : place.WellNamed) : (above place).WellNamed := by
  unfold above
  split
  · trivial
  · exact fun name mem => h name (List.dropLast_subset _ mem)
  · trivial

theorem wellNamed_into {location : Location} {name : Bytes}
    (h : (Place.inside location).WellNamed) (single : name.IsFileName) :
    (Place.inside (location ++ [name])).WellNamed := by
  intro other mem
  rcases List.mem_append.1 mem with old | new
  · exact h other old
  · rw [List.mem_singleton.1 new]
    exact single

/-- A way whose steps name files leads to a place whose names are file names; links lead on by
steps of that kind. -/
theorem wellNamed_walk (tree : FileTree α) {links : Nat} {place after : Place} {steps : List Step}
    (h : place.WellNamed) (named : Step.WellNamed steps)
    (leads : tree.walk links place steps = some after) : after.WellNamed := by
  fun_induction walk tree links place steps with
  | case1 =>
    cases leads
    exact h
  | case2 links place rest directory ih => exact ih h (named.tail) leads
  | case3 links place rest directory ih => exact ih (wellNamed_above h) (named.tail) leads
  | case4 => cases leads
  | case5 => cases leads
  | case6 => cases leads
  | case7 rest name location short target link links followable directory ih =>
    exact ih h (.append (Step.wellNamed_steps target) named.tail) leads
  | case8 => cases leads
  | case9 links rest name location short entry other found directory ih =>
    exact ih (wellNamed_into h named.head) named.tail leads
  | case10 => cases leads
  | case11 => cases leads

theorem wellNamed_put {location : Location} {entry : Entry α} (h : tree.WellNamed)
    (named : (Place.inside location).WellNamed) : (tree.put location entry).WellNamed := by
  intro binding mem
  rcases List.mem_cons.1 mem with rfl | old
  · exact named
  · exact h binding (List.mem_filter.1 old).1

theorem wellNamed_create {place : Place} {steps : List Step} (entry : Entry α)
    (h : tree.WellNamed) (start : place.WellNamed) (named : Step.WellNamed steps) :
    (tree.create entry place steps).WellNamed := by
  fun_induction create tree entry place steps with
  | case1 => exact h
  | case2 => exact h
  | case3 tree location name _ => exact wellNamed_put h (wellNamed_into start named.head)
  | case4 tree place step rest _ next leads ih =>
    exact ih h (wellNamed_walk tree start named.take leads) named.tail
  | case5 tree rest name location _ _ ih =>
    have further := wellNamed_into start named.head
    exact ih (wellNamed_put h further) further named.tail
  | case6 => exact h

/-- A tree that is built of entries at paths has file names only. -/
theorem wellNamed_ofEntries (entries : List (Path × Entry α)) : (ofEntries entries).WellNamed := by
  have adds : ∀ tree : FileTree α, tree.WellNamed →
      (entries.foldl (fun tree entry => tree.add entry.1 entry.2) tree).WellNamed := by
    induction entries with
    | nil => exact fun tree h => h
    | cons entry entries ih =>
      refine fun tree h => ih _ (wellNamed_create entry.2 h ?_ (Step.wellNamed_steps entry.1))
      exact fun name mem => absurd mem List.not_mem_nil
  exact adds empty fun entry mem => absurd mem List.not_mem_nil

/-- The directories of a tree with file names only list file names. -/
theorem WellNamed.disk (h : tree.WellNamed) : tree.disk.WellNamed := by
  intro dir names listed name mem
  have listed : tree.list? dir = some names := listed
  unfold list? at listed
  split at listed
  · cases listed
  · cases listed
    cases mem
  · split at listed
    · cases listed
      obtain ⟨entry, among, last⟩ := List.mem_filterMap.1 mem
      split at last
      · exact h entry among name (List.mem_of_getLast? last)
      · cases last
    · cases listed

end FileTree

/-! ## Files that resolvers find -/

/-- A path leads to a module file of a kind: below one of the search directories of the kind lies
a regular file whose name has the stem of the kind and the configured extension. -/
structure Config.ModuleFile (config : Config) (disk : Disk) (kind : Kind) (name : Bytes)
    (path : Path) : Prop where
  single : name.IsFileName
  joined : ∃ dir ∈ config.searchPaths.get kind, path = dir.join ⟨name⟩
  fileName : path.fileName? = some name
  stem : Utf8.encode kind.fileStem <+: name
  extension : path.extension? = some (Utf8.encode config.extension)
  isFile : disk.isFile path = true

namespace Config

variable {config : Config} {disk : Disk} {kind : Kind} {dir path : Path} {name : String}
  {bytes : Bytes}

/-- Whether a path below a directory belongs to a kind is a matter of the file name and of the file
that it leads to. -/
theorem accepts_join_iff (single : bytes.IsFileName) :
    config.accepts disk kind (dir.join ⟨bytes⟩) = true ↔
      disk.isFile (dir.join ⟨bytes⟩) = true ∧ (Utf8.decode? bytes).isSome = true ∧
        Utf8.encode kind.fileStem <+: bytes ∧
          Path.extensionOf? bytes = some (Utf8.encode config.extension) := by
  simp only [accepts, names, Path.fileName?_join dir single, Bool.and_eq_true,
    List.isPrefixOf_iff_prefix, beq_iff_eq, and_assoc]

/-- A path below a search directory that belongs to a kind leads to a module file of the kind. -/
theorem moduleFile_of_accepts (single : bytes.IsFileName)
    (searched : dir ∈ config.searchPaths.get kind)
    (accepted : config.accepts disk kind (dir.join ⟨bytes⟩) = true) :
    config.ModuleFile disk kind bytes (dir.join ⟨bytes⟩) := by
  obtain ⟨isFile, -, stem, extension⟩ := (accepts_join_iff single).1 accepted
  have fileName := Path.fileName?_join dir single
  refine ⟨single, ⟨dir, searched, rfl⟩, fileName, stem, ?_, isFile⟩
  rw [Path.extension?, fileName]
  exact extension

/-- A file name with the stem of a kind is not a dot or two. -/
theorem isFileName_of_stem (stem : Utf8.encode kind.fileStem <+: bytes)
    (noSlash : Path.slash ∉ bytes) : bytes.IsFileName := by
  have long : 2 < (Utf8.encode kind.fileStem).length := by cases kind <;> decide
  have length := Nat.lt_of_lt_of_le long stem.length_le
  refine ⟨?_, noSlash, ?_, ?_⟩ <;> rintro rfl <;> simp at length

/-- The extension of an accepted path is free of slashes. -/
theorem noSlash_of_accepts (accepted : config.accepts disk kind path = true) :
    Path.slash ∉ Utf8.encode config.extension := by
  rw [accepts, Bool.and_eq_true, names] at accepted
  cases fileName : path.fileName? with
  | none =>
    rw [fileName] at accepted
    cases accepted.2
  | some bytes =>
    rw [fileName] at accepted
    simp only [Bool.and_eq_true, beq_iff_eq] at accepted
    exact fun mem =>
      (Path.isFileName_of_fileName? fileName).noSlash (Path.mem_of_mem_extensionOf? accepted.2.2 mem)

/-- The file name for a name begins with the stem of the kind. -/
theorem stem_prefix_fileName (config : Config) (kind : Kind) (name : String) :
    Utf8.encode kind.fileStem <+: Utf8.encode (config.fileName kind name) := by
  rw [fileName, Utf8.encode_append, Utf8.encode_append, Utf8.encode_append, List.append_assoc,
    List.append_assoc]
  exact List.prefix_append _ _

/-- The file name for a name is a single one, if name and extension have no slash. -/
theorem isFileName_fileName (kind : Kind) (inName : '/' ∉ name.toList)
    (inExtension : Path.slash ∉ Utf8.encode config.extension) :
    (Utf8.encode (config.fileName kind name)).IsFileName := by
  refine isFileName_of_stem (config.stem_prefix_fileName kind name) ?_
  have inStem : Path.slash ∉ Utf8.encode kind.fileStem := by cases kind <;> decide
  have inName : Path.slash ∉ Utf8.encode name := by
    rwa [Utf8.mem_encode_iff_char (c := '/') (by decide) rfl]
  have inDot : Path.slash ∉ Utf8.encode "." := by decide
  rw [fileName, Utf8.encode_append, Utf8.encode_append, Utf8.encode_append]
  simp only [List.mem_append, not_or]
  exact ⟨⟨⟨inStem, inName⟩, inDot⟩, inExtension⟩

/-- The file of a name is a file of the name's kind with the name that the configuration says. -/
theorem moduleFile_of_valid (valid : (config.resolveOne disk kind name).valid = true) :
    config.ModuleFile disk kind (Utf8.encode (config.fileName kind name))
      (config.resolveOne disk kind name).path := by
  obtain ⟨candidate, accepted⟩ := Resolver.path_of_valid valid
  obtain ⟨dir, searched, path⟩ := List.mem_map.1 candidate
  rw [← path] at accepted ⊢
  have inName : '/' ∉ name.toList := by
    intro slash
    have plain : isPlainName name = false := by simp [isPlainName, slash]
    simp [resolveOne, plain] at valid
  exact moduleFile_of_accepts (isFileName_fileName kind inName (noSlash_of_accepts accepted))
    searched accepted

/-- Every listed file is a file of the kind. -/
theorem moduleFile_of_mem (named : disk.WellNamed) (mem : path ∈ config.resolveAll disk kind) :
    ∃ bytes, config.ModuleFile disk kind bytes path := by
  have found : path ∈ (config.searchPaths.get kind).flatMap (config.filesIn disk kind) := by
    rcases Resolver.mem_of_mem_foldl_keepNew mem with none | found
    · cases none
    · exact found
  obtain ⟨dir, searched, inDir⟩ := List.mem_flatMap.1 found
  obtain ⟨entry, accepted⟩ := List.mem_filter.1 inDir
  obtain ⟨bytes, sorted, rfl⟩ := List.mem_map.1 entry
  rw [List.mem_mergeSort] at sorted
  have single : bytes.IsFileName := by
    cases listed : disk.list? dir with
    | none =>
      rw [listed] at sorted
      cases sorted
    | some names =>
      rw [listed] at sorted
      exact named dir names listed bytes sorted
  exact ⟨bytes, moduleFile_of_accepts single searched accepted⟩

end Config

end PluginHost
