import Mathlib
import PluginHost.Proofs.NameSearch

/-!
# Two ways to the files of a kind

A resolver over search directories finds files in two ways.  For a name it puts a path together in
each directory and looks what is there; for a kind it lists each directory, keeps the files that
are named like modules of the kind, and of files with one file name the first.  Where directories
can be listed, both ways lead to the same files: every listed file provides one name, and that name
leads to the file.

Main results:

- Theorem `FileTree.WellNamed.listable`: in a directory tree every directory can be listed.
- Theorem `Config.exists_fileName`: what is named like a module of a kind is named for a name.
- Theorem `Config.mem_foldl_keepNew_iff`: of some paths the first of each file name is kept.
- Theorem `Config.agreement`: the files that names lead to are those that are listed.
-/

namespace PluginHost

/-! ## Ways below a directory -/

namespace Path

variable {dir : Path} {name : Bytes}

theorem parts_join (nonempty : dir.bytes ≠ []) (single : name.IsFileName) :
    (dir.join ⟨name⟩).parts = dir.parts ++ [name] ∧
      (dir.join ⟨name⟩).bytes.getLast? ≠ some slash := by
  have last : ∀ front : Bytes, (front ++ name).getLast? ≠ some slash := by
    intro front ends
    rw [List.getLast?_append, Option.or_of_isSome (by simp [single.nonempty])] at ends
    exact single.noSlash (List.mem_of_getLast? ends)
  have kept : name.isEmpty = false := by simp [single.nonempty]
  unfold parts
  rw [join_bytes (isAbsolute_of_isFileName single) nonempty]
  split
  · next ends =>
    obtain ⟨front, bytes⟩ := List.getLast?_eq_some_iff.1 ends
    refine ⟨?_, last _⟩
    rw [bytes, List.append_assoc, List.singleton_append, Fields.split_append, Fields.split_append,
      Fields.split_of_not_mem single.noSlash]
    simp [kept, Fields.split]
  · refine ⟨?_, ?_⟩
    · rw [Fields.split_append, Fields.split_of_not_mem single.noSlash]
      simp [kept]
    · have := last (dir.bytes ++ [slash])
      simpa using this

/-- The steps to a file are those to its directory and one more; a slash at the end of the directory
asks for nothing else. -/
theorem steps_join (nonempty : dir.bytes ≠ []) (single : name.IsFileName) :
    ∃ inner, (dir.steps = inner ∨ dir.steps = inner ++ [.stay]) ∧
      (dir.join ⟨name⟩).steps = inner ++ [.into name] := by
  obtain ⟨parts, noSlash⟩ := parts_join nonempty single
  refine ⟨dir.parts.map fun part =>
    if part = [dot] then Step.stay else if part = [dot, dot] then .up else .into part, ?_, ?_⟩
  · unfold steps
    dsimp only
    split
    · exact .inr rfl
    · exact .inl rfl
  · unfold steps
    simp only [noSlash, if_false, parts, List.map_append, List.map_cons, List.map_nil,
      single.notCurrent, single.notParent]

/-- A directory can be followed if a file below it can. -/
theorem isFollowable_of_join (nonempty : dir.bytes ≠ []) (single : name.IsFileName)
    (followable : (dir.join ⟨name⟩).isFollowable = true) : dir.isFollowable = true := by
  obtain ⟨back, below⟩ : ∃ back, (dir.join ⟨name⟩).bytes = dir.bytes ++ back := by
    rw [join_bytes (isAbsolute_of_isFileName single) nonempty]
    split
    · exact ⟨name, rfl⟩
    · exact ⟨slash :: name, rfl⟩
  have start : (dir.join ⟨name⟩).isAbsolute = dir.isAbsolute := by
    rw [isAbsolute, below, List.head?_append, Option.or_of_isSome (by simp [nonempty]), isAbsolute]
  simp only [isFollowable, below, start, Bool.and_eq_true, Bool.not_eq_true',
    ← Bool.not_eq_true, List.isEmpty_iff, List.contains_iff_mem, List.mem_append, not_or,
    List.length_append, decide_eq_true_eq] at followable ⊢
  obtain ⟨⟨⟨-, noZero, -⟩, short⟩, relative⟩ := followable
  exact ⟨⟨⟨nonempty, noZero⟩, by omega⟩, relative⟩

end Path

namespace FileTree
variable {α : Type} {tree : FileTree α} {links : Nat} {place middle : Place} {steps : List Step}

/-- A link is replaced by its target. -/
theorem walk_link {location : Location} {name : Bytes} {target : Path}
    (directory : tree.isDirectory (.inside location) = true) (short : name.length ≤ maxName)
    (entry : tree.entryAt? (location ++ [name]) = some (.link target))
    (followable : target.isFollowable = true) (rest : List Step) :
    tree.walk (links + 1) (.inside location) (.into name :: rest) =
      tree.walk links (.inside location) (target.steps ++ rest) := by
  rw [walk]
  simp [directory, short, entry, followable]

/-- Anything else is stepped into. -/
theorem walk_entry {location : Location} {name : Bytes} {found : Entry α}
    (directory : tree.isDirectory (.inside location) = true) (short : name.length ≤ maxName)
    (entry : tree.entryAt? (location ++ [name]) = some found)
    (other : ∀ target, found ≠ .link target) (rest : List Step) :
    tree.walk links (.inside location) (.into name :: rest) =
      tree.walk links (.inside (location ++ [name])) rest := by
  rw [walk]
  simp only [directory, short, entry, if_true]

/-- A way may be followed in two parts. -/
theorem walk_append (tree : FileTree α) (links : Nat) (place : Place) (steps : List Step) :
    ∃ left, ∀ more, tree.walk links place (steps ++ more) =
      (tree.walk links place steps).bind fun middle => tree.walk left middle more := by
  fun_induction walk tree links place steps with
  | case1 links place => exact ⟨links, fun more => rfl⟩
  | case2 links place rest directory ih =>
    obtain ⟨left, goesOn⟩ := ih
    exact ⟨left, fun more => by rw [← goesOn, List.cons_append, walk, if_pos directory]⟩
  | case3 links place rest directory ih =>
    obtain ⟨left, goesOn⟩ := ih
    exact ⟨left, fun more => by rw [← goesOn, List.cons_append, walk, if_pos directory]⟩
  | case7 rest name location short target entry links followable directory ih =>
    obtain ⟨left, goesOn⟩ := ih
    refine ⟨left, fun more => ?_⟩
    rw [← goesOn, List.cons_append, walk_link directory short entry followable, List.append_assoc]
  | case9 links rest name location short entry other found directory ih =>
    obtain ⟨left, goesOn⟩ := ih
    refine ⟨left, fun more => ?_⟩
    rw [← goesOn, List.cons_append, walk_entry directory short found other]
  -- The way ends early: nothing is outside, there is no such entry, there are too many links or the
  -- link cannot be followed, the name is too long, or the step does not begin in a directory.
  | case4 | case5 | case6 | case8 | case10 => exact ⟨0, fun more => by simp [walk, *]⟩
  | case11 _ _ _ _ elsewhere =>
    refine ⟨0, fun more => ?_⟩
    rw [List.cons_append, walk.eq_def]
    simp [elsewhere]

/-- A last step into an entry leads out of a directory that has it. -/
theorem exists_of_walk_into {place after : Place} {name : Bytes}
    (leads : tree.walk links place [.into name] = some after) :
    ∃ location, place = .inside location ∧ tree.isDirectory (.inside location) = true ∧
      (tree.entryAt? (location ++ [name])).isSome = true := by
  cases place with
  | outside =>
    rw [walk] at leads
    simp [isDirectory] at leads
  | inside location =>
    refine ⟨location, rfl, ?_⟩
    rw [walk] at leads
    split at leads
    · next directory =>
      refine ⟨directory, ?_⟩
      split at leads
      · split at leads
        · cases leads
        · next entry => simp [entry]
        · next entry => simp [entry]
      · cases leads
    · cases leads

/-- A directory that holds a regular file of a name can be listed, and it lists the name. -/
theorem exists_list?_of_file? {dir : Path} {name : Bytes} (nonempty : dir.bytes ≠ [])
    (single : name.IsFileName) (isFile : (tree.file? (dir.join ⟨name⟩)).isSome = true) :
    ∃ names, tree.list? dir = some names ∧ name ∈ names := by
  obtain ⟨after, leads⟩ : ∃ after, tree.place? (dir.join ⟨name⟩) = some after := by
    cases place : tree.place? (dir.join ⟨name⟩) with
    | none => simp [file?, place] at isFile
    | some after => exact ⟨after, rfl⟩
  rw [place?] at leads
  split at leads
  · next followable =>
    obtain ⟨inner, own, further⟩ := Path.steps_join nonempty single
    obtain ⟨left, goesOn⟩ := tree.walk_append maxLinks (.inside []) inner
    rw [further, goesOn, Option.bind_eq_some_iff] at leads
    obtain ⟨place, before, last⟩ := leads
    obtain ⟨location, rfl, directory, entry⟩ := exists_of_walk_into last
    have reached : tree.place? dir = some (.inside location) := by
      rw [place?, if_pos (Path.isFollowable_of_join nonempty single followable)]
      rcases own with same | slash
      · rw [same, before]
      · rw [slash, goesOn, before, Option.bind_some, walk_stay _ _ _ _ directory, walk_nil]
    refine ⟨_, by rw [list?, reached]; exact if_pos directory, ?_⟩
    have named : location ++ [name] ∈ Assoc.keys tree.entries := by
      rw [entryAt?, if_neg (by simp)] at entry
      exact (Assoc.mem_keys_iff _ _).2 entry
    obtain ⟨binding, mem, same⟩ := List.mem_map.1 named
    refine List.mem_filterMap.2 ⟨binding, mem, ?_⟩
    simp [same]
  · cases leads

end FileTree

/-- A file system in which directories can be listed: a directory lists file names, and among them
that of each regular file in it. -/
structure Disk.Listable (disk : Disk) : Prop where
  named : disk.WellNamed
  lists : ∀ dir name, dir.bytes ≠ [] → Bytes.IsFileName name →
    disk.isFile (dir.join ⟨name⟩) = true → ∃ names, disk.list? dir = some names ∧ name ∈ names

/-- In a directory tree every directory can be listed. -/
theorem FileTree.WellNamed.listable {α : Type} {tree : FileTree α} (h : tree.WellNamed) :
    tree.disk.Listable where
  named := h.disk
  lists _ _ nonempty single isFile := exists_list?_of_file? nonempty single isFile

namespace Config

variable {config : Config} {disk : Disk} {kind other : Kind} {dir path : Path} {name : String}
  {bytes : Bytes}

/-! ## The name in a file name -/

/-- A file name has the stem of one kind at most. -/
theorem eq_of_stem_prefix (stem : Utf8.encode kind.fileStem <+: bytes)
    (stem' : Utf8.encode other.fileStem <+: bytes) : kind = other := by
  have apart : ∀ kind other : Kind,
      Utf8.encode kind.fileStem <+: Utf8.encode other.fileStem → kind = other := by
    intro kind other
    cases kind <;> cases other <;> decide
  rcases List.prefix_or_prefix_of_prefix stem stem' with first | first
  · exact apart kind other first
  · exact (apart other kind first).symm

/-- What stands between the stem and the last dot of a text is a name. -/
theorem exists_fileName (text : Utf8.decode? bytes ≠ none)
    (stem : Utf8.encode kind.fileStem <+: bytes)
    (extension : Path.extensionOf? bytes = some (Utf8.encode config.extension)) :
    ∃ name, bytes = Utf8.encode (config.fileName kind name) := by
  obtain ⟨whole, decoded⟩ := Option.ne_none_iff_exists'.1 text
  obtain ⟨-, front, -, cut⟩ := Path.extensionOf?_eq_some_iff.1 extension
  obtain ⟨rest, rfl⟩ := stem
  -- A stem ends in an underscore, so that what follows it is text, and it has no dot.
  have ends : Utf8.encode kind.fileStem = (Utf8.encode kind.fileStem).dropLast ++ [0x5F] := by
    cases kind <;> decide
  have noDot : Path.dot ∉ Utf8.encode kind.fileStem := by cases kind <;> decide
  have afterStem : ∃ after, Utf8.encode after = rest := by
    have bytes := Utf8.encode_of_decode? decoded
    rw [ends, List.append_assoc, List.singleton_append] at bytes
    obtain ⟨-, after, -, rest⟩ := Utf8.exists_of_encode_eq (by decide) bytes
    exact ⟨after, rest⟩
  obtain ⟨after, rfl⟩ := afterStem
  have dotAfter : ∃ mid, Utf8.encode after = mid ++ Path.dot :: Utf8.encode config.extension := by
    rcases List.append_eq_append_iff.1 cut with ⟨mid, -, later⟩ | ⟨mid, stem, later⟩
    · exact ⟨mid, later⟩
    · cases mid with
      | nil => exact ⟨[], later.symm⟩
      | cons b mid =>
        obtain ⟨rfl, -⟩ := List.cons.inj later
        exact absurd (by simp [stem]) noDot
  obtain ⟨mid, later⟩ := dotAfter
  obtain ⟨name, -, rfl, -⟩ := Utf8.exists_of_encode_eq (by decide) later
  refine ⟨name, ?_⟩
  rw [fileName, Utf8.encode_append, Utf8.encode_append, Utf8.encode_append, later]
  simp only [List.append_assoc]
  rfl

/-- Different names have different file names. -/
theorem fileName_injective {first second : String}
    (same : Utf8.encode (config.fileName kind first) = Utf8.encode (config.fileName kind second)) :
    first = second := by
  simp only [fileName, Utf8.encode_append, List.append_assoc, List.append_cancel_left_eq,
    List.append_cancel_right_eq] at same
  exact Utf8.encode_injective same

/-! ## Files of the same name -/

/-- Of some paths those are kept that are the first of their file name. -/
theorem mem_foldl_keepNew_iff (paths found : List Path) :
    path ∈ paths.foldl keepNew found ↔
      path ∈ found ∨ (∀ other ∈ found, other.fileName? ≠ path.fileName?) ∧
        paths.find? (fun other => other.fileName? == path.fileName?) = some path := by
  induction paths generalizing found with
  | nil => simp
  | cons next paths ih =>
    rw [List.foldl_cons, ih, keepNew, List.find?_cons]
    by_cases same : next.fileName? = path.fileName?
    · simp only [same, beq_self_eq_true]
      split
      · next known =>
        -- Then the path is not new either.
        have known : ¬ ∀ other ∈ found, other.fileName? ≠ path.fileName? := by
          simpa using known
        simp only [known, false_and]
      · next new =>
        have new : ∀ other ∈ found, other.fileName? ≠ path.fileName? := by simpa using new
        simp only [List.mem_append, List.mem_singleton, Option.some_inj]
        grind
    · rw [beq_false_of_ne same]
      split
      · exact Iff.rfl
      · grind

theorem mem_resolveAll_iff :
    path ∈ config.resolveAll disk kind ↔
      ((config.searchPaths.get kind).flatMap (config.filesIn disk kind)).find?
        (fun other => other.fileName? == path.fileName?) = some path := by
  rw [resolveAll, mem_foldl_keepNew_iff]
  simp

/-- The files of a kind in a directory, by their file names. -/
theorem mem_filesIn_iff (listable : disk.Listable) (nonempty : dir.bytes ≠ []) :
    path ∈ config.filesIn disk kind dir ↔
      ∃ bytes, Bytes.IsFileName bytes ∧ path = dir.join ⟨bytes⟩ ∧
        config.accepts disk kind path = true := by
  rw [filesIn, List.mem_filter, List.mem_map]
  simp only [List.mem_mergeSort]
  constructor
  · rintro ⟨⟨bytes, mem, rfl⟩, accepted⟩
    cases listed : disk.list? dir with
    | none =>
      rw [listed] at mem
      cases mem
    | some names =>
      rw [listed] at mem
      exact ⟨bytes, listable.named dir names listed bytes mem, rfl, accepted⟩
  · rintro ⟨bytes, single, rfl, accepted⟩
    refine ⟨⟨bytes, ?_, rfl⟩, accepted⟩
    obtain ⟨names, listed, mem⟩ :=
      listable.lists dir bytes nonempty single ((accepts_join_iff single).1 accepted).1
    rw [listed]
    exact mem

/-- In a directory there is one file of a file name, or none. -/
theorem find?_filesIn (listable : disk.Listable) (nonempty : dir.bytes ≠ [])
    (single : bytes.IsFileName) :
    (config.filesIn disk kind dir).find? (fun other => other.fileName? == some bytes) =
      if config.accepts disk kind (dir.join ⟨bytes⟩) then some (dir.join ⟨bytes⟩) else none := by
  have unique : ∀ path ∈ config.filesIn disk kind dir, path.fileName? = some bytes →
      path = dir.join ⟨bytes⟩ ∧ config.accepts disk kind (dir.join ⟨bytes⟩) = true := by
    intro path mem named
    obtain ⟨other, single', rfl, accepted⟩ := (mem_filesIn_iff listable nonempty).1 mem
    rw [Path.fileName?_join dir single', Option.some_inj] at named
    subst named
    exact ⟨rfl, accepted⟩
  split
  · next accepted =>
    have mem : dir.join ⟨bytes⟩ ∈ config.filesIn disk kind dir :=
      (mem_filesIn_iff listable nonempty).2 ⟨bytes, single, rfl, accepted⟩
    cases found : (config.filesIn disk kind dir).find? fun other =>
      other.fileName? == some bytes with
    | none =>
      have other := List.find?_eq_none.1 found _ mem
      simp [Path.fileName?_join dir single] at other
    | some path =>
      have named := List.find?_some found
      rw [(unique path (List.mem_of_find?_eq_some found) (by simpa using named)).1]
  · next refused =>
    refine List.find?_eq_none.2 fun path mem named => refused ?_
    exact (unique path mem (by simpa using named)).2

/-- Of the files of a kind in some directories the first of a file name is that in the first
directory which has one. -/
theorem find?_flatMap_filesIn (listable : disk.Listable) {dirs : List Path}
    (nonempty : ∀ dir ∈ dirs, dir.bytes ≠ []) (single : bytes.IsFileName) :
    (dirs.flatMap (config.filesIn disk kind)).find? (fun other => other.fileName? == some bytes) =
      (dirs.find? fun dir => config.accepts disk kind (dir.join ⟨bytes⟩)).map
        fun dir => dir.join ⟨bytes⟩ := by
  induction dirs with
  | nil => rfl
  | cons dir dirs ih =>
    rw [List.flatMap_cons, List.find?_append, List.find?_cons,
      find?_filesIn listable (nonempty dir List.mem_cons_self) single,
      ih fun dir mem => nonempty dir (List.mem_cons_of_mem _ mem)]
    cases config.accepts disk kind (dir.join ⟨bytes⟩) <;> rfl

/-- The file of a file name that is listed is that in the first directory which has one. -/
theorem mem_resolveAll_iff_find? (listable : disk.Listable)
    (nonempty : ∀ dir ∈ config.searchPaths.get kind, dir.bytes ≠ []) (single : bytes.IsFileName)
    (named : path.fileName? = some bytes) :
    path ∈ config.resolveAll disk kind ↔
      ∃ dir, (config.searchPaths.get kind).find? (fun dir =>
        config.accepts disk kind (dir.join ⟨bytes⟩)) = some dir ∧ dir.join ⟨bytes⟩ = path := by
  rw [mem_resolveAll_iff, named, find?_flatMap_filesIn listable nonempty single,
    Option.map_eq_some_iff]

/-- The file of a name is that which is listed under its file name. -/
theorem resolveOne_eq_iff (listable : disk.Listable)
    (nonempty : ∀ dir ∈ config.searchPaths.get kind, dir.bytes ≠ []) (plain : IsPlain name) :
    config.resolveOne disk kind name = ⟨path, true⟩ ↔
      path ∈ config.resolveAll disk kind ∧
        path.fileName? = some (Utf8.encode (config.fileName kind name)) := by
  constructor
  · intro found
    have valid : (config.resolveOne disk kind name).valid = true := by rw [found]
    obtain ⟨single, -, named, -, -, -⟩ := moduleFile_of_valid valid
    rw [found] at named
    refine ⟨(mem_resolveAll_iff_find? listable nonempty single named).2 ?_, named⟩
    rw [resolveOne_eq plain] at found
    split at found
    · next dir first =>
      exact ⟨dir, first, congrArg Candidate.path found⟩
    · cases congrArg Candidate.valid found
  · rintro ⟨mem, named⟩
    have single := Path.isFileName_of_fileName? named
    obtain ⟨dir, first, same⟩ := (mem_resolveAll_iff_find? listable nonempty single named).1 mem
    have first : ((config.searchPaths.get kind).find? fun dir =>
      config.accepts disk kind (config.candidate kind name dir)) = some dir := first
    rw [resolveOne_eq plain, first, ← same]
    rfl

/-! ## The contract -/

/-- How the two ways of finding the files of a kind agree.  A name leads to a file exactly if that
file is listed under the name's file name; the file name of a listed file is that of one name, and
no other kind lists the file. -/
structure Agreement (config : Config) (disk : Disk) (kind : Kind) : Prop where
  one_iff : ∀ name path, IsPlain name →
    (config.resolveOne disk kind name = ⟨path, true⟩ ↔
      path ∈ config.resolveAll disk kind ∧
        path.fileName? = some (Utf8.encode (config.fileName kind name)))
  named : ∀ path ∈ config.resolveAll disk kind,
    ∃! name, path.fileName? = some (Utf8.encode (config.fileName kind name))
  apart : ∀ path ∈ config.resolveAll disk kind, ∀ other,
    path ∈ config.resolveAll disk other → other = kind

/-- The two ways agree on every file system in which the directories can be listed. -/
theorem agreement (listable : disk.Listable)
    (nonempty : ∀ dir ∈ config.searchPaths.get kind, dir.bytes ≠ []) :
    Agreement config disk kind := by
  refine ⟨fun name path plain => resolveOne_eq_iff listable nonempty plain, ?_, ?_⟩
  · intro path mem
    obtain ⟨bytes, single, ⟨dir, searched, rfl⟩, named, stem, -, -⟩ :=
      moduleFile_of_mem listable.named mem
    obtain ⟨-, text, -, extension⟩ := (accepts_join_iff single).1 (Resolver.accepts_of_mem_all mem)
    obtain ⟨name, rfl⟩ := exists_fileName (Option.isSome_iff_ne_none.1 text) stem extension
    refine ⟨name, named, fun other named' => ?_⟩
    rw [named, Option.some_inj] at named'
    exact (fileName_injective named').symm
  · intro path mem other mem'
    obtain ⟨bytes, -, -, named, stem, -, -⟩ := moduleFile_of_mem listable.named mem
    obtain ⟨bytes', -, -, named', stem', -, -⟩ := moduleFile_of_mem listable.named mem'
    rw [named, Option.some_inj] at named'
    subst named'
    exact eq_of_stem_prefix stem' stem

/-- A tree with two directories that hold modules of two kinds, one of them in both. -/
def sharedTree : FileTree Unit :=
  .ofEntries [(.ofText "a/libsubplug_decoder_x.so", .file ()),
    (.ofText "b/libsubplug_filter_x.so", .file ()), (.ofText "a/libsubplug_filter_x.so", .file ()),
    (.ofText "b/libsubplug_filter_x.y.so", .link (.ofText "libsubplug_filter_x.so")),
    (.ofText "b/libsubplug_filter_z.so", .directory)]

/-- A configuration in which two kinds search the directories of the tree. -/
def sharedConfig : Config :=
  { Config.empty with
    searchPaths := PerKind.ofFn fun _ => [.ofText "a", .ofText "b"], extension := "so" }

/-- Both kinds search both directories, and each lists its own files. -/
theorem agreement_sharedTree :
    (sharedTree.disk.Listable ∧ ∀ dir ∈ sharedConfig.searchPaths.get .filter, dir.bytes ≠ []) ∧
      Agreement sharedConfig sharedTree.disk .filter ∧
        sharedConfig.resolveAll sharedTree.disk .filter =
          [.ofText "a/libsubplug_filter_x.so", .ofText "b/libsubplug_filter_x.y.so"] ∧
        sharedConfig.resolveAll sharedTree.disk .decoder =
          [.ofText "a/libsubplug_decoder_x.so"] := by
  have listable := (FileTree.wellNamed_ofEntries _ : sharedTree.WellNamed).listable
  have nonempty : ∀ dir ∈ sharedConfig.searchPaths.get .filter, dir.bytes ≠ [] := by decide
  exact ⟨⟨listable, nonempty⟩, agreement listable nonempty, by cbv, by cbv⟩

end Config

end PluginHost
