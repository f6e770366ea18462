import Mathlib
import PluginHost.Proofs.FileNames
import PluginHost.Proofs.LinkerCalls
import PluginHost.Proofs.Registered

/-!
# Only module files from the search path are opened

A loader takes from its resolver the files that it asks its linker to open: a file is decided on
in a lock section and opened later, when other threads and other modules have been running.  Over
a directory tree that does not change, whatever names are looked up, each path that the linker
is asked to open leads to a module file of the kind that is looked up, in one of the search
directories of the kind.

Main results:

- Theorem `Section.resolved`: a lock section decides on files that the resolver has found.
- Theorem `Thread.Effect.resolved`: lookups are about to open files that the resolver has found.
- Theorem `Machine.Traced.resolved`: the same along every history.
- Theorem `Machine.Traced.searchedFiles`: only module files from the search path are opened.
-/

namespace PluginHost

/-! ## Files that lookups are about to open -/

/-- Whether a resolver has found the files that a lookup of a key is about to open at a stage. -/
def Stage.Resolved (resolver : Resolver) (key : Key) : Stage → Prop
  | loadingBulk todo _ => todo ⊆ resolver.all key.kind
  | loadingName _ path => resolver.one key.kind key.name = ⟨path, true⟩
  | _ => True

/-- Whether a resolver has found the files that a frame is about to open. -/
def Frame.Resolved (resolver : Resolver) : Frame → Prop
  | .lookup key _ stage => stage.Resolved resolver key
  | _ => True

namespace Stage

variable {resolver : Resolver} {key : Key} {stage after : Stage} {path : Path}

theorem Resolved.told (h : stage.Resolved resolver key) (opens : stage.opens = true)
    (outcome : Except LoadError Handle) : (stage.told outcome).Resolved resolver key := by
  unfold Stage.opens at opens
  split at opens
  · cases outcome <;> exact h
  · trivial
  · cases opens

theorem Resolved.opening (h : stage.Resolved resolver key)
    (opening : stage.opening? = some (path, after)) : after.Resolved resolver key := by
  unfold opening? at opening
  split at opening
  · cases opening
    exact fun other mem => h (List.mem_cons_of_mem _ mem)
  · cases opening
    exact h
  · cases opening

end Stage

/-- A lock section decides on files that the resolver has found. -/
theorem Section.resolved {host : Host} {me : ThreadId} {key : Key} {stage after : Stage}
    {s : LoaderState} {ran : Section} (runs : stage.lockSection? host me key s = some ran)
    (next : ran.next.resumed? = some after) : after.Resolved host.resolver key := by
  have searched : ∀ s' : LoaderState, (s'.search host me key).next.resumed? = some after →
      after.Resolved host.resolver key := by
    intro s' next
    have outcome := LoaderState.search_cases host me key s'
    generalize s'.search host me key = ran at outcome next
    cases outcome with
    | starts _ _ _ valid =>
      cases next
      show host.resolver.one key.kind key.name = ⟨_, true⟩
      rw [← valid]
    | waits _ _ _ _ _ =>
      cases next
      trivial
    | found _ | absent _ _ | mine _ _ _ _ | refused _ _ _ _ _ | invalid _ _ _ _ => cases next
  cases Stage.runs runs with
  | again _ => exact searched _ next
  | inside _ _ _ => exact searched _ next
  | insists _ _ _ _ _ => exact searched _ next
  | free _ _ _ _ => exact searched _ next
  | settled _ => exact searched _ next
  | awaits _ _ _ _ _ =>
    cases next
    trivial
  | lists _ _ _ _ =>
    cases next
    exact List.Subset.refl _
  | settledLate _ =>
    cases next
    trivial
  | rejected _ _ =>
    cases next
    trivial
  | openedLate _ =>
    cases next
    trivial
  | nameless _ | refused _ _ _ | shared _ | closed | adopted _ _ | unopened | failed => cases next

namespace Thread

/-- Whether a resolver has found the files that the lookups on a stack are about to open. -/
def Resolved (resolver : Resolver) (thread : Thread) : Prop :=
  ∀ frame ∈ thread, frame.Resolved resolver

variable {host : Host} {me : ThreadId} {w : World} {turn : Turn} {frame : Frame}
  {thread : Thread} {resolver : Resolver}

@[simp]
theorem resolved_nil : Resolved resolver [] :=
  List.forall_mem_nil _

@[simp]
theorem resolved_cons :
    Resolved resolver (frame :: thread) ↔ frame.Resolved resolver ∧ thread.Resolved resolver :=
  List.forall_mem_cons

@[simp]
theorem resolved_script {role : Role} {rest : Script} :
    (Frame.script role rest).Resolved resolver :=
  trivial

@[simp]
theorem resolved_request {request : Request} : (Frame.request request).Resolved resolver :=
  trivial

@[simp]
theorem resolved_closing {reason : CloseReason} {todo : List Handle} {report : ReleaseReport} :
    (Frame.closing reason todo report).Resolved resolver :=
  trivial

theorem Resolved.wakeIf (h : thread.Resolved resolver) (wakes : Bool) :
    (thread.wakeIf wakes).Resolved resolver := by
  cases wakes with
  | false => exact h
  | true =>
    simp only [Thread.wakeIf, if_true]
    unfold wake
    split
    · exact resolved_cons.2 ⟨trivial, (resolved_cons.1 h).2⟩
    · exact resolved_cons.2 ⟨trivial, (resolved_cons.1 h).2⟩
    · exact h

/-- After a turn, too, lookups are about to open files that the resolver has found. -/
theorem Effect.resolved (h : Effect host me w turn thread) (found : thread.Resolved host.resolver) :
    turn.thread.Resolved host.resolver := by
  cases h with
  | act back _ =>
    rw [back]
    simpa using found
  | call request called _ =>
    rw [called]
    simpa using found
  | seek key style _ began _ =>
    rw [began]
    exact resolved_cons.2 ⟨trivial, (resolved_cons.1 found).2⟩
  | serve _ back _ _ =>
    rw [back]
    exact (resolved_cons.1 found).2
  | shut _ back _ _ _ _ =>
    rw [back]
    exact (resolved_cons.1 found).2
  | release _ closes _ _ _ _ _ =>
    rw [closes]
    simpa using found
  | @init key style stage after below pending script opening began _ =>
    obtain ⟨top, rest⟩ := resolved_cons.1 found
    rw [began]
    exact resolved_cons.2 ⟨trivial, resolved_cons.2 ⟨Stage.Resolved.opening top opening, rest⟩⟩
  | @refused key style stage after below path failure opening told _ =>
    obtain ⟨top, rest⟩ := resolved_cons.1 found
    have opens := Stage.opens_of_opening? opening
    rw [told]
    exact resolved_cons.2 ⟨(Stage.Resolved.opening top opening).told opens _, rest⟩
  | @opened pending key style stage below opens told _ _ _ _ =>
    obtain ⟨-, both⟩ := resolved_cons.1 found
    obtain ⟨top, rest⟩ := resolved_cons.1 both
    rw [told]
    exact resolved_cons.2 ⟨Stage.Resolved.told top opens _, rest⟩
  | @locked key style stage below ran runs eq =>
    obtain ⟨-, rest⟩ := resolved_cons.1 found
    subst eq
    cases next : ran.next with
    | answer result =>
      rw [(afterSection_answer w key style below next).1]
      exact rest
    | stage after =>
      rw [afterSection_stage next]
      exact resolved_cons.2 ⟨Section.resolved runs (by rw [next]; rfl), rest⟩
    | discard handles after =>
      rw [afterSection_discard next]
      refine resolved_cons.2 ⟨trivial, resolved_cons.2 ⟨?_, rest⟩⟩
      exact Section.resolved runs (by rw [next]; rfl)
  | close upper _ script closes _ =>
    rw [closes]
    rcases script with rfl | ⟨_, rfl⟩
    · simpa using found
    · simpa using found
  | closed _ back _ =>
    rw [back]
    simpa using found
  | finish back _ =>
    rw [back]
    exact (resolved_cons.1 found).2

end Thread

namespace Machine

variable {hosts : Set Host} {modes : PerKind SearchMode} {m : Machine} {history : History}
  {t : ThreadId} {resolver : Resolver} {config : Config} {disk : Disk} {key : Key} {style : Style}
  {stage after : Stage} {below : Thread} {path : Path}

/-- Along every history lookups are about to open files that the resolver has found. -/
theorem Traced.resolved (h : Traced hosts modes m history)
    (same : ∀ host ∈ hosts, host.resolver = resolver) (t : ThreadId) :
    (m.thread t).Resolved resolver := by
  refine h.invariant (P := fun m _ => ∀ t, (m.thread t).Resolved resolver) ?_ ?_ ?_ t
  · intro t
    rw [thread_eq_nil (Nat.zero_le t)]
    exact Thread.resolved_nil
  · intro m next _ found untouched t
    rcases untouched.thread t with kept | ⟨-, script, started⟩
    · rw [kept]
      exact found t
    · rw [started]
      simp
  · intro m next _ host me turn _ found mem takes t
    by_cases ht : t = me
    · subst ht
      rw [takes.thread_self]
      have before := found t
      rw [← same host mem] at before ⊢
      exact (takes.effect.resolved before).wakeIf _
    · rw [takes.thread_of_ne ht]
      exact (found t).wakeIf _

/-- A file that a lookup opens is a module file of its kind, and one that is opened by name has
the name that the configuration says. -/
theorem Traced.moduleFile (named : disk.WellNamed)
    (h : Traced {host | host.resolver = .ofConfig config disk} modes m history)
    (top : m.thread t = .lookup key style stage :: below)
    (opening : stage.opening? = some (path, after)) :
    ∃ name, config.ModuleFile disk key.kind name path ∧
      ∀ load file, stage = .loadingName load file →
        name = Utf8.encode (config.fileName key.kind key.name) := by
  have found := h.resolved (fun host mem => mem) t
  rw [top, Thread.resolved_cons] at found
  have found : stage.Resolved (.ofConfig config disk) key := found.1
  unfold Stage.opening? at opening
  split at opening
  · cases opening
    obtain ⟨name, file⟩ := Config.moduleFile_of_mem named (found List.mem_cons_self)
    exact ⟨name, file, nofun⟩
  · cases opening
    have one : config.resolveOne disk key.kind key.name = ⟨path, true⟩ := found
    have file := Config.moduleFile_of_valid (congrArg Candidate.valid one)
    rw [one] at file
    exact ⟨_, file, fun _ _ _ => rfl⟩
  · cases opening

/-! ## The contract -/

/-- Only module files from the search path are opened.  Each file that a lookup opens lies in a
search directory of the kind that is looked up; its name is a single file name with the stem of
the kind and the configured extension, and for a load by name it is the one that the configuration
says.  And whatever the linker was asked to open, a lookup opened. -/
structure SearchedFiles (config : Config) (disk : Disk) (m : Machine) (history : History) :
    Prop where
  opens : ∀ step ∈ history, ∀ key style stage below path after,
    step.before.thread step.thread = .lookup key style stage :: below →
      stage.opening? = some (path, after) →
        ∃ name, config.ModuleFile disk key.kind name path ∧
          ∀ load file, stage = .loadingName load file →
            name = Utf8.encode (config.fileName key.kind key.name)
  asked : ∀ t path, (t, .opened path) ∈ m.trace →
    ∃ step ∈ history, step.thread = t ∧ ∃ key style stage after below,
      step.before.thread t = .lookup key style stage :: below ∧
        stage.opening? = some (path, after)

/-- Over a file system that does not change, only module files from the search path are opened. -/
theorem Traced.searchedFiles (named : disk.WellNamed)
    (h : Traced {host | host.resolver = .ofConfig config disk} modes m history) :
    SearchedFiles config disk m history := by
  constructor
  · intro step mem key style stage below path after top opening
    obtain ⟨later, earlier, rfl⟩ := List.append_of_mem mem
    exact h.split.1.moduleFile named top opening
  · intro t path asked
    exact h.exists_opening asked

/-- A tree with two module files in a directory and one outside. -/
def moduleTree : FileTree Unit :=
  .ofEntries [(.ofText "lib/libsubplug_filter_x.so", .file ()),
    (.ofText "lib/libsubplug_converter_c.so", .file ()),
    (.ofText "libsubplug_filter_x.so", .file ())]

/-- A host that searches the directory; none of its files opens. -/
def moduleHost : Host where
  resolver := .ofConfig
    ((Config.empty.addPath .filter (.ofText "lib")).addPath .converter (.ofText "lib"))
    moduleTree.disk
  linker := ⟨fun path => .refused (.loadFailed path "damaged")⟩
  policy := .release

/-- A thread looks up a filter, the same by a way to another directory, and a converter. -/
def searchesModules : Machine × History :=
  let lookup (kind : Kind) (name : String) : Action := .request (.tryGet ⟨kind, name⟩)
  ((Machine.initial SearchMode.defaults).spawn [lookup .filter "x", lookup .filter "../x",
    lookup .converter "c"]).runWith History.note moduleHost (List.replicate 16 0) []

theorem searchedFiles_searchesModules :
    moduleTree.disk.WellNamed ∧
      SearchedFiles
        ((Config.empty.addPath .filter (.ofText "lib")).addPath .converter (.ofText "lib"))
        moduleTree.disk searchesModules.1 searchesModules.2 ∧
      linkedPaths (searchesModules.1.trace.map Prod.snd) =
        [.ofText "lib/libsubplug_converter_c.so", .ofText "lib/libsubplug_filter_x.so"] := by
  have named : moduleTree.disk.WellNamed := (FileTree.wellNamed_ofEntries _).disk
  have mem : moduleHost ∈ {host : Host | host.resolver = .ofConfig
      ((Config.empty.addPath .filter (.ofText "lib")).addPath .converter (.ofText "lib"))
      moduleTree.disk} := rfl
  have traced : Traced _ SearchMode.defaults searchesModules.1 searchesModules.2 :=
    (Recorded.initial.spawn _).runWith mem _
  exact ⟨named, Traced.searchedFiles named traced, by cbv⟩

end Machine
end PluginHost
