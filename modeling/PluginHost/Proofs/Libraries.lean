import Mathlib
import PluginHost.Proofs.Frames
import PluginHost.Proofs.LinkerCalls

/-!
# Libraries of the system

The linker of the system maps a library for each open handle, and looks at it before its init runs:
it must speak the host's version of the registration interface, or not say which, and it must have
an init.  A library that fails one of these checks is unmapped in the same turn.  All others are
unmapped when their modules are closed, which happens in many places, so that no library stays
mapped is a matter of the whole run: a library is mapped as often as there are modules of it that
are being opened, are in the hands of a load or a shutdown, are open, or have been left open.

Main results:

- Theorem `Thread.turn_opensNative`: an open is all or nothing.
- Theorem `Thread.turn_mapped`: what a turn maps and unmaps.
- Theorem `Machine.Traced.mapped_perm`: for which modules a library is mapped.
- Theorem `Machine.Traced.nativeOpens`: along every history each library is unmapped as often as it
  was mapped, once the loader is out of use.
-/

namespace PluginHost

/-! ## The linker of the system -/

/-- Whether a path leads to a library that can be used, and what its init does: the library is
mapped, it reports no version of the registration interface but that of the host, and it has an
init. -/
structure Linker.Loads (linker : Linker) (path : Path) (library : Library) (script : Script) :
    Prop where
  maps : linker.opening path = .map library
  version : ∀ version ∈ library.version, version = registrarVersion
  init : library.init = some script

/-- Whether a host opens modules through the linker of the system, over some directory tree. -/
def Host.Native (host : Host) : Prop :=
  ∃ tree, host.linker = Linker.native tree

/-- The library that is mapped to open a module, if one is. -/
def Opening.library? : Opening → Option Library
  | .map library => some library
  | _ => none

/-- The file of the library that is unmapped to close a module. -/
def Teardown.file? : Teardown → Option Path
  | .unmap library => some library.file
  | .run _ _ => none

/-- The file that is mapped for a module whose init is running. -/
def Pending.file? (pending : Pending) : Option Path :=
  pending.teardown.file?

/-- The file that is mapped for a module. -/
def Handle.file? (handle : Handle) : Option Path :=
  handle.teardown.file?

/-- The linker of the system maps a library, or it refuses the path. -/
theorem Linker.native_cases (tree : FileTree Content) (path : Path) :
    (∃ library, (native tree).opening path = .map library) ∨
      (native tree).opening path = .refused (.loadFailed path systemReason) := by
  simp only [native]
  split
  · exact .inl ⟨_, rfl⟩
  · split
    · exact .inr rfl
    · split
      · exact .inr rfl
      · exact .inl ⟨_, rfl⟩

namespace Thread

variable {host : Host} {me : ThreadId} {w : World} {turn : Turn} {thread below : Thread}
  {key : Key} {style : Style} {stage after : Stage} {path : Path}

/-! ## Opening a path -/

/-- A library that has just been mapped is unmapped without a trace. -/
theorem unmap_mapped (w : World) (library : Library) :
    (unmap { w with mapped := library.file :: w.mapped } library).1 = w := by
  simp [unmap]

/-- What comes of it when a lookup on top of `below` opens a path through the linker of the system.
-/
inductive OpensNative (linker : Linker) (w : World) (path : Path) (key : Key) (style : Style)
    (after : Stage) (below : Thread) (turn : Turn) : Prop
  /-- The library can be used: it stays mapped, and its init begins. -/
  | begins {library : Library} {script : Script} (loads : linker.Loads path library script)
      (thread : turn.thread =
        .script (.init ⟨path, none, .unmap library, library.recorded⟩) script ::
          .lookup key style after :: below)
      (world : turn.world = { w with mapped := library.file :: w.mapped })
  /-- It cannot be used, or there is none: the open fails, and nothing is left of it. -/
  | fails (reason : String) (unusable : ∀ library script, ¬ linker.Loads path library script)
      (thread : turn.thread =
        .lookup key style (after.told (.error (.loadFailed path reason))) :: below)
      (world : turn.world = w)

/-- An open through the linker of the system is all or nothing. -/
theorem turn_opensNative (native : host.Native) (opening : stage.opening? = some (path, after))
    (turned : Thread.turn host me w (.lookup key style stage :: below) = some turn) :
    OpensNative host.linker w path key style after below turn := by
  have opens := Stage.opens_of_opening? opening
  rw [turn_of_opening? opening, Option.some.injEq] at turned
  subst turned
  obtain ⟨tree, linker⟩ := native
  rcases Linker.native_cases tree path with ⟨library, maps⟩ | refused
  · rw [← linker] at maps
    simp only [beginOpening, maps]
    cases fault : library.fault? with
    | some reason =>
      refine .fails reason ?_ (deliver_opens _ _ _ opens) ?_
      · rintro other script ⟨maps', version, init⟩
        rw [maps] at maps'
        cases maps'
        have usable := library.fault?_eq_none_iff.2
          ⟨version, by rw [init]; exact Option.some_ne_none _⟩
        rw [fault] at usable
        cases usable
      · rw [deliver_world, unmap_mapped]
    | none =>
      obtain ⟨version, init⟩ := library.fault?_eq_none_iff.1 fault
      obtain ⟨script, init⟩ := Option.ne_none_iff_exists'.1 init
      refine .begins ⟨maps, version, init⟩ ?_ rfl
      rw [init]
      rfl
  · rw [← linker] at refused
    simp only [beginOpening, refused]
    refine .fails systemReason ?_ (deliver_opens _ _ _ opens) (deliver_world ..)
    rintro library script ⟨maps, -, -⟩
    rw [refused] at maps
    cases maps

/-! ## Mapping and unmapping -/

/-- The library that a thread maps in its next turn. -/
def mapping? (linker : Linker) (thread : Thread) : Option Library :=
  thread.linking?.bind fun path => (linker.opening path).library?

/-- The files that a thread maps in its next turn. -/
def maps (linker : Linker) (thread : Thread) : List Path :=
  (thread.mapping? linker).toList.map Library.file

/-- The files that a thread unmaps in its next turn because they cannot be used. -/
def faulty (linker : Linker) (thread : Thread) : List Path :=
  ((thread.mapping? linker).toList.filter fun library => library.fault?.isSome).map Library.file

/-- The files that a thread unmaps in its next turn: those that cannot be used, and those of modules
that are closed. -/
def unmaps (linker : Linker) (thread : Thread) : List Path :=
  thread.faulty linker ++ thread.released.filterMap Handle.file?

/-- A turn that neither opens nor closes a module maps nothing and unmaps nothing. -/
theorem mapped_of_same (linking : thread.linking? = none) (released : thread.released = [])
    (same : turn.world.mapped = w.mapped) :
    turn.world.mapped = (thread.maps host.linker ++ w.mapped).diff (thread.unmaps host.linker) := by
  simp [maps, unmaps, faulty, mapping?, linking, released, same]

theorem begin_mapped {role : Role} {action : Action} (h : begin w role below action = some turn) :
    turn.world.mapped = w.mapped := by
  cases action with
  | gate id =>
    simp only [begin] at h
    split at h
    · cases h
      rw [answer_world]
    · cases h
  | request request =>
    simp only [begin] at h
    split at h
    · cases h
      rw [answer_world]
    · cases h
      rfl
  | nullPayload =>
    cases h
    rw [answer_world]
  | registrar call =>
    simp only [begin] at h
    split at h
    · split at h
      · cases h
        rw [answer_world]
      · cases h
        rfl
    · cases h
      rw [answer_world]
  | registrarNull =>
    simp only [begin] at h
    split at h
    · cases h
      rw [answer_world]
    · cases h
      rw [answer_world]

theorem shutDown_mapped (host : Host) (w : World) (below : Thread) :
    (shutDown host w below).world.mapped = w.mapped := by
  unfold shutDown
  dsimp only
  split
  · rw [answer_world]
  · split
    · rw [answer_world]
    · rfl

theorem serve_mapped (host : Host) (w : World) (below : Thread) (request : Request) :
    (serve host w below request).world.mapped = w.mapped := by
  cases request with
  | get _ | tryGet _ => rfl
  | shutdown => exact shutDown_mapped host w below
  | drop => exact shutDown_mapped host { w with dropping := true } below
  | register _ _ | registrar _ | unregister _ | names _ | mode _ | moduleCount | isShutDown
  | policy => rw [serve, answer_world]

@[simp]
theorem finishClosing_world (w : World) (path : Path) (failure : Option LoadError)
    (events : List Event) (thread : Thread) :
    (finishClosing w path failure events thread).world = w := by
  unfold finishClosing
  split <;> rfl

theorem beginClosing_mapped (w : World) (handle : Handle) (thread : Thread) :
    (beginClosing w handle thread).world.mapped = w.mapped.diff handle.file?.toList := by
  unfold beginClosing Handle.file?
  cases handle.teardown with
  | run script failure => rfl
  | unmap library =>
    rw [finishClosing_world]
    simp [unmap, Teardown.file?]

theorem beginOpening_mapped (host : Host) (w : World) (path : Path) (thread : Thread) :
    (beginOpening host w path thread).world.mapped =
      ((host.linker.opening path).library?.toList.map Library.file ++ w.mapped).diff
        (((host.linker.opening path).library?.toList.filter
          fun library => library.fault?.isSome).map Library.file) := by
  simp only [beginOpening]
  split
  · next refused => simp [refused, Opening.library?]
  · next runs => simp [runs, Opening.library?]
  · next library maps =>
    simp only [maps, Opening.library?]
    split
    · next reason fault => simp [fault, unmap]
    · next usable => simp [usable]

/-- What a turn makes of the mapped libraries. -/
theorem turn_mapped (h : thread.turn host me w = some turn) :
    turn.world.mapped = (thread.maps host.linker ++ w.mapped).diff (thread.unmaps host.linker) := by
  cases thread with
  | nil => cases h
  | cons frame below =>
    cases frame with
    | request request =>
      cases h
      exact mapped_of_same rfl rfl (serve_mapped ..)
    | closing reason todo report =>
      cases todo with
      | nil =>
        cases reason with
        | shutdown =>
          cases h
          exact mapped_of_same rfl rfl (by rw [answer_world])
        | discard =>
          cases h
          exact mapped_of_same rfl rfl rfl
      | cons handle todo =>
        rw [turn_closing, Option.some.injEq] at h
        rw [← h, beginClosing_mapped]
        cases file : handle.file? <;>
          simp [maps, unmaps, faulty, mapping?, linking?, released, file]
    | script role rest =>
      cases rest with
      | cons action rest =>
        rw [turn_script] at h
        exact mapped_of_same rfl rfl (begin_mapped h)
      | nil =>
        cases role with
        | program => cases h
        | init pending =>
          cases h
          refine mapped_of_same rfl rfl ?_
          unfold finishOpening
          split <;> rw [deliver_world]
        | teardown handle =>
          cases h
          refine mapped_of_same rfl rfl ?_
          unfold finishTeardown
          split <;> rw [finishClosing_world]
    | lookup key style stage =>
      cases opening : stage.opening? with
      | some opened =>
        obtain ⟨path, after⟩ := opened
        rw [turn_of_opening? opening, Option.some.injEq] at h
        subst h
        rw [beginOpening_mapped]
        simp [maps, unmaps, faulty, mapping?, linking?, opening, released]
      | none =>
        have linking : linking? (.lookup key style stage :: below) = none := by
          rw [linking?, opening]
          rfl
        refine mapped_of_same linking rfl ?_
        have locked : ∀ ran, some (afterSection w key style below ran) = some turn →
            turn.world.mapped = w.mapped := by
          rintro ran same
          cases same
          rw [afterSection_world]
        cases stage with
        | awaitingBulk woken =>
          cases woken with
          | false => cases h
          | true => exact locked _ h
        | awaitingLoad load woken =>
          cases woken with
          | false => cases h
          | true => exact locked _ h
        | loadingBulk todo opened =>
          cases todo with
          | nil => exact locked _ h
          | cons path todo => cases opening
        | loadingName load path => cases opening
        | entering | closingBulk | openedName _ _ _ | closingName _ _ => exact locked _ h

/-! ## Modules whose libraries are mapped -/

/-- The modules whose inits are on the stack. -/
def pendings : Thread → List Pending
  | .script (.init pending) _ :: below => pending :: pendings below
  | _ :: below => pendings below
  | [] => []

/-- The files that are mapped for the modules of a thread: for those whose inits are running, and
for those in the hands of its loads and shutdowns. -/
def files (thread : Thread) : List Path :=
  thread.pendings.filterMap Pending.file? ++ thread.modules.filterMap Handle.file?

/-- What is left of a script does not matter. -/
theorem pendings_script (role : Role) (rest rest' : Script) (below : Thread) :
    pendings (.script role rest :: below) = pendings (.script role rest' :: below) := by
  cases role <;> rfl

@[simp]
theorem pendings_wakeIf (wakes : Bool) (thread : Thread) :
    (thread.wakeIf wakes).pendings = thread.pendings :=
  apply_wakeIf pendings (fun _ _ _ _ => rfl) (fun _ _ _ _ _ => rfl) wakes thread

@[simp]
theorem files_wakeIf (wakes : Bool) (thread : Thread) :
    (thread.wakeIf wakes).files = thread.files := by
  simp [files, modules]

theorem pendings_afterSection (w : World) (key : Key) (style : Style) (below : Thread)
    (ran : Section) : (afterSection w key style below ran).thread.pendings = below.pendings := by
  cases next : ran.next with
  | answer result => rw [(afterSection_answer w key style below next).1]
  | stage after =>
    rw [afterSection_stage next]
    rfl
  | discard handles after =>
    rw [afterSection_discard next]
    rfl

/-- What a turn makes of the inits on a stack: what it maps is for an init that begins or cannot be
used, and the file of an init that ends is that of the module which it opens. -/
structure Inits (linker : Linker) (serial : Nat) (thread : Thread) (turn : Turn) : Prop where
  conserved : (thread.maps linker ++ thread.pendings.filterMap Pending.file?).Perm
    (thread.faulty linker ++ ((thread.acquired serial).map Prod.snd).filterMap Handle.file? ++
      turn.thread.pendings.filterMap Pending.file?)
  succeed : (∀ pending ∈ thread.pendings, pending.failure = none) →
    ∀ pending ∈ turn.thread.pendings, pending.failure = none

theorem Inits.of_same {linker : Linker} {serial : Nat}
    (same : turn.thread.pendings = thread.pendings) (linking : thread.linking? = none)
    (acquired : thread.acquired serial = []) :
    Inits linker serial thread turn := by
  constructor
  · simp [maps, faulty, mapping?, linking, acquired, same]
  · rw [same]
    exact id

theorem inits_of_opensNative {linker : Linker} {serial : Nat}
    (opening : stage.opening? = some (path, after))
    (opens : OpensNative linker w path key style after below turn) :
    Inits linker serial (.lookup key style stage :: below) turn := by
  have mapped : mapping? linker (.lookup key style stage :: below) =
      (linker.opening path).library? := by
    rw [mapping?, linking?, opening]
    rfl
  cases opens with
  | @begins library script loads thread world =>
    have usable := library.fault?_eq_none_iff.2
      ⟨loads.version, by rw [loads.init]; exact Option.some_ne_none _⟩
    constructor
    · simp [maps, faulty, mapped, loads.maps, Opening.library?, usable, thread, pendings, acquired,
        Pending.file?, Teardown.file?]
    · intro succeed pending mem
      rw [thread] at mem
      rcases List.mem_cons.1 mem with rfl | mem
      · rfl
      · exact succeed pending mem
  | fails reason unusable thread world =>
    have faults : ∀ library, (linker.opening path).library? = some library →
        library.fault?.isSome = true := by
      intro library maps
      have maps : linker.opening path = .map library := by
        unfold Opening.library? at maps
        split at maps
        · cases maps
          assumption
        · cases maps
      by_contra sound
      rw [Bool.not_eq_true, Option.isSome_eq_false_iff, Option.isNone_iff_eq_none,
        Library.fault?_eq_none_iff] at sound
      obtain ⟨script, init⟩ := Option.ne_none_iff_exists'.1 sound.2
      exact unusable library script ⟨maps, sound.1, init⟩
    have same : maps linker (.lookup key style stage :: below) =
        faulty linker (.lookup key style stage :: below) := by
      rw [maps, faulty, mapped]
      cases mapped' : (linker.opening path).library? with
      | none => rfl
      | some library => simp [faults _ mapped']
    constructor
    · rw [same, thread]
      simp [acquired, pendings]
    · rw [thread]
      exact id

theorem turn_inits (native : host.Native) (h : Effect host me w turn thread)
    (turned : thread.turn host me w = some turn)
    (succeed : ∀ pending ∈ thread.pendings, pending.failure = none) :
    Inits host.linker w.nextSerial thread turn := by
  cases h with
  | act back _ =>
    exact .of_same (by rw [back]; exact pendings_script ..) rfl (acquired_script ..)
  | call request called _ =>
    exact .of_same (by rw [called]; exact pendings_script ..) rfl (acquired_script ..)
  | seek key style _ began _ => exact .of_same (by rw [began]; rfl) rfl rfl
  | serve _ back _ _ => exact .of_same (by rw [back]; rfl) rfl rfl
  | shut _ back _ _ _ _ => exact .of_same (by rw [back]; rfl) rfl rfl
  | release _ closes _ _ _ _ _ => exact .of_same (by rw [closes]; rfl) rfl rfl
  | init pending script opening _ _ =>
    exact inits_of_opensNative opening (turn_opensNative native opening turned)
  | refused failure opening _ _ =>
    exact inits_of_opensNative opening (turn_opensNative native opening turned)
  | @opened pending key style stage below opens told _ _ _ _ =>
    have well := succeed pending List.mem_cons_self
    constructor
    · cases file : pending.teardown.file? <;>
        simp [maps, faulty, mapping?, linking?, acquired, Pending.outcome, well, Except.toOption,
          told, pendings, Pending.file?, Handle.file?, file]
    · intro _ other mem
      rw [told] at mem
      exact succeed other (List.mem_cons_of_mem _ mem)
  | @locked key style stage below ran runs eq =>
    have idle := Stage.opening?_of_locked runs
    refine .of_same ?_ (by rw [linking?, idle]; rfl) rfl
    rw [eq]
    exact pendings_afterSection ..
  | close upper report script closes _ =>
    refine .of_same ?_ rfl rfl
    rw [closes]
    rcases script with rfl | ⟨script, rfl⟩ <;> rfl
  | closed report back _ => exact .of_same (by rw [back]; rfl) rfl rfl
  | finish back _ => exact .of_same (by rw [back]; rfl) rfl rfl

/-- What a turn makes of the files that are mapped for modules. -/
theorem turn_files (native : host.Native) (h : Effect host me w turn thread)
    (turned : thread.turn host me w = some turn)
    (succeed : ∀ pending ∈ thread.pendings, pending.failure = none) :
    (thread.maps host.linker ++
        (thread.files ++ w.state.openModules.filterMap Handle.file?)).Perm
      (thread.unmaps host.linker ++
        (turn.thread.files ++ turn.world.state.openModules.filterMap Handle.file?) ++
          (thread.abandoned host.policy w.state).filterMap Handle.file?) := by
  refine List.perm_iff_count.2 fun file => ?_
  have inits := (turn_inits native h turned succeed).conserved.count_eq file
  have modules := ((turn_balance h).conserved.filterMap Handle.file?).count_eq file
  simp only [List.filterMap_append, List.count_append] at inits modules
  simp only [files, unmaps, List.count_append]
  omega

end Thread

/-! ## Histories -/

namespace Machine

/-- The files that were mapped and those that were unmapped along a history, each once for each
time: every step is a turn with some host. -/
inductive Ledger (hosts : Set Host) : History → List Path → List Path → Prop
  | nil : Ledger hosts [] [] []
  | step {history : History} {step : Step} {host : Host} {maps unmaps : List Path}
      (before : Ledger hosts history maps unmaps) (mem : host ∈ hosts)
      (taken : step.before.step host step.thread = some step.after) :
      Ledger hosts (step :: history) ((step.before.thread step.thread).maps host.linker ++ maps)
        ((step.before.thread step.thread).unmaps host.linker ++ unmaps)

/-- The files that are mapped for the modules of a machine. -/
def files (m : Machine) : List Path :=
  m.threads.flatMap Thread.files ++ m.world.state.openModules.filterMap Handle.file?

variable {hosts : Set Host} {modes : PerKind SearchMode} {m next : Machine}
  {history later earlier : History} {host : Host} {me t : ThreadId} {turn : Turn} {step : Step}
  {policy : ReleasePolicy} {maps unmaps : List Path}

/-- Nothing is left open if modules are closed at all. -/
theorem History.abandoned_of_release (history : History) : history.abandoned .release = [] := by
  refine List.flatMap_eq_nil_iff.2 fun step _ => ?_
  unfold Thread.abandoned
  split
  · simp
  · rfl

/-- A library is mapped once for each module of it that is being opened, is in the hands of a load
or a shutdown, is open, or has been left open. -/
def Mapped (policy : ReleasePolicy) (m : Machine) (history : History) : Prop :=
  m.world.mapped.Perm (m.files ++ (history.abandoned policy).filterMap Handle.file?)

/-- What was mapped and what a step maps is what it unmaps and what is mapped then. -/
theorem Takes.mapped (takes : Takes host m me turn next)
    (turned : (m.thread me).turn host me m.world = some turn) (native : host.Native)
    (same : host.policy = policy)
    (succeed : ∀ pending ∈ (m.thread me).pendings, pending.failure = none)
    (mapped : Mapped policy m history) :
    ((m.thread me).maps host.linker ++ m.world.mapped).Perm
        ((m.thread me).unmaps host.linker ++ next.world.mapped) ∧
      Mapped policy next (⟨m, me, next⟩ :: history) := by
  have conserved := Thread.turn_files native takes.effect turned succeed
  have threads := takes.flatMap_perm Thread.files (Thread.files_wakeIf _)
  have world : next.world.mapped = _ := takes.world ▸ Thread.turn_mapped turned
  -- What is unmapped was mapped, for it is no more than what is mapped for modules.
  have counts : ∀ file,
      next.world.mapped.count file + ((m.thread me).unmaps host.linker).count file =
      ((m.thread me).maps host.linker).count file + m.world.mapped.count file ∧
        next.world.mapped.count file = (next.files ++ (History.abandoned policy
          (⟨m, me, next⟩ :: history)).filterMap Handle.file?).count file := by
    intro file
    have conserved := conserved.count_eq file
    have threads := threads.count_eq file
    have mapped := mapped.count_eq file
    rw [world, List.count_diff]
    simp only [History.abandoned, List.flatMap_cons, List.filterMap_append, same, Machine.files,
      takes.world, List.count_append] at conserved threads mapped ⊢
    omega
  constructor
  · refine List.perm_iff_count.2 fun file => ?_
    have counted := (counts file).1
    simp only [List.count_append]
    omega
  · exact List.perm_iff_count.2 fun file => (counts file).2

namespace Traced

section native

variable (h : Traced hosts modes m history) (native : ∀ host ∈ hosts, host.Native)
include h native

/-- Where modules are opened through the linker of the system, an init that returns has opened its
module. -/
theorem pendings_succeed (t : ThreadId) :
    ∀ pending ∈ (m.thread t).pendings, pending.failure = none := by
  refine h.invariant (P := fun m _ => ∀ t, ∀ pending ∈ (m.thread t).pendings,
    pending.failure = none) ?_ ?_ ?_ t
  · intro t pending mem
    rw [Machine.thread_eq_nil (Nat.zero_le t)] at mem
    cases mem
  · intro m next _ succeed untouched t pending mem
    rcases untouched.thread t with same | ⟨-, script, started⟩
    · rw [same] at mem
      exact succeed t pending mem
    · rw [started] at mem
      cases mem
  · intro m next _ host me turn traced succeed mem takes t
    obtain ⟨-, turn, turned, -⟩ := step_eq takes.taken
    have takes := takes_of_turn traced.reachable.sound takes.taken turned
    by_cases ht : t = me
    · subst ht
      rw [takes.thread_self, Thread.pendings_wakeIf]
      have inits := Thread.turn_inits (native host mem) takes.effect turned (succeed t)
      exact inits.succeed (succeed t)
    · rw [takes.thread_of_ne ht, Thread.pendings_wakeIf]
      exact succeed t

variable (same : ∀ host ∈ hosts, host.policy = policy)
include same

/-- Along every history it is known for which modules a library is mapped. -/
theorem mapped_perm : Mapped policy m history := by
  induction h with
  | initial => exact .refl _
  | spawn before script ih =>
    unfold Mapped at ih ⊢
    simpa [Machine.files, Machine.spawn, Thread.files, Thread.pendings, Thread.modules, Thread.held,
      Thread.taken] using ih
  | openGate before id ih => exact ih
  | @step m next history host me before mem taken ih =>
    obtain ⟨-, turn, turned, -⟩ := step_eq taken
    have takes := takes_of_turn before.reachable.sound taken turned
    exact (takes.mapped turned (native host mem) (same host mem)
      (Traced.pendings_succeed before native me) ih).2

end native

/-- What is mapped is what was mapped when the last step was over. -/
theorem mapped_eq (h : Traced hosts modes m (step :: history)) :
    m.world.mapped = step.after.world.mapped := by
  generalize all : step :: history = whole at h
  induction h with
  | initial => cases all
  | spawn before script ih => exact ih all
  | openGate before id ih => exact ih all
  | step before mem taken ih =>
    cases all
    rfl

/-- Every history has a ledger. -/
theorem exists_ledger (h : Traced hosts modes m history) :
    ∃ maps unmaps, Ledger hosts history maps unmaps := by
  induction h with
  | initial => exact ⟨[], [], .nil⟩
  | spawn before script ih => exact ih
  | openGate before id ih => exact ih
  | step before mem taken ih =>
    obtain ⟨maps, unmaps, ledger⟩ := ih
    exact ⟨_, _, ledger.step mem taken⟩

/-- Each library has been unmapped as often as it was mapped, but for those that are mapped still.
-/
theorem ledger_perm (h : Traced hosts modes m history) (native : ∀ host ∈ hosts, host.Native)
    (same : ∀ host ∈ hosts, host.policy = policy) (ledger : Ledger hosts history maps unmaps) :
    maps.Perm (unmaps ++ m.world.mapped) := by
  induction ledger generalizing m with
  | nil =>
    generalize all : ([] : History) = history at h
    induction h with
    | initial => exact .refl _
    | spawn before script ih => exact ih all
    | openGate before id ih => exact ih all
    | step before mem taken ih => cases all
  | @step history step host maps unmaps before mem taken ih =>
    obtain ⟨traced, -⟩ := h.last_takes
    obtain ⟨-, turn, turned, -⟩ := step_eq taken
    have takes := takes_of_turn traced.reachable.sound taken turned
    have conserved := (takes.mapped turned (native host mem) (same host mem)
      (traced.pendings_succeed native step.thread) (traced.mapped_perm native same)).1
    have balance := ih traced
    rw [h.mapped_eq]
    refine List.perm_iff_count.2 fun file => ?_
    have conserved := conserved.count_eq file
    have balance := balance.count_eq file
    simp only [List.count_append] at conserved balance ⊢
    omega

end Traced

/-! ## The contract -/

/-- What becomes of an open through the linker of the system in the steps after the one that begins
it; `after` is the stage of the lookup on top of `below` that it is for. -/
inductive NativeCourse (hosts : Set Host) (m : Machine) (later : History) (step : Step)
    (path : Path) (key : Key) (style : Style) (after : Stage) (below : Thread) : Prop
  /-- It fails at once, and nothing is left of it. -/
  | fails {host : Host} (reason : String) (mem : host ∈ hosts)
      (unusable : ∀ library script, ¬ host.linker.Loads path library script)
      (world : step.after.world = step.before.world)
      (told : step.after.thread step.thread =
        .lookup key style (after.told (.error (.loadFailed path reason))) :: below)
  /-- The library can be used, and its init is running. -/
  | running {host : Host} {library : Library} {script : Script} (mem : host ∈ hosts)
      (loads : host.linker.Loads path library script)
      (runs : (m.thread step.thread).Runs (.init ⟨path, none, .unmap library, library.recorded⟩)
        script (.lookup key style after :: below))
  /-- The library can be used, its init has run once, and then the module was open. -/
  | opened {host : Host} {library : Library} {script : Script} {recent during : History}
      {last : Step} (serial : Nat) (mem : host ∈ hosts)
      (loads : host.linker.Loads path library script)
      (split : later = recent ++ last :: during) (mine : last.thread = step.thread)
      (runs : ∀ step' ∈ during, (step'.before.thread step.thread).Runs
        (.init ⟨path, none, .unmap library, library.recorded⟩) script
          (.lookup key style after :: below))
      (ends : last.before.thread step.thread =
        .script (.init ⟨path, none, .unmap library, library.recorded⟩) [] ::
          .lookup key style after :: below)
      (told : last.after.thread step.thread =
        .lookup key style (after.told (.ok ⟨serial, path, .unmap library⟩)) :: below)

/-- What it is to open modules through the linker of the system.  An open is all or nothing, in
every state of the loader: a library that can be used stays mapped and its init begins, and of
anything else nothing is left.  The init runs once, and when it returns the module is open; it has
returned when no thread can go on and none is held up in a module.  A library is mapped once for
each module of it that is being opened, is in the hands of a load or a shutdown, is open, or has
been left open; so once the loader is out of use each library has been unmapped as often as it was
mapped, if modules are closed at all. -/
structure NativeOpens (hosts : Set Host) (policy : ReleasePolicy) (m : Machine)
    (history : History) : Prop where
  turns : ∀ host ∈ hosts, ∀ me w key style stage below path after,
    stage.opening? = some (path, after) →
      ∃ turn, Thread.turn host me w (.lookup key style stage :: below) = some turn ∧
        Thread.OpensNative host.linker w path key style after below turn
  courses : ∀ later earlier step key style stage below path after,
    history = later ++ step :: earlier →
      step.before.thread step.thread = .lookup key style stage :: below →
        stage.opening? = some (path, after) →
          NativeCourse hosts m later step path key style after below
  returns : ∀ host, (∀ t, m.step host t = none) → (∀ t, ¬ (m.thread t).HeldInModule m.world) →
    ∀ t pending script below, ¬ (m.thread t).Runs (.init pending) script below
  mapped : m.world.mapped.Perm
    (m.threads.flatMap Thread.files ++ m.world.state.openModules.filterMap Handle.file? ++
      (history.abandoned policy).filterMap Handle.file?)
  ledger : ∃ maps unmaps, Ledger hosts history maps unmaps
  balance : ∀ maps unmaps, Ledger hosts history maps unmaps → maps.Perm (unmaps ++ m.world.mapped)
  ended : policy = .release → m.world.state.isShutDown = true →
    (∀ t < m.threads.length, (m.thread t).Returned) →
      m.world.mapped = [] ∧ ∀ maps unmaps, Ledger hosts history maps unmaps → maps.Perm unmaps

namespace Traced

/-- Each open through the linker of the system takes one of these courses. -/
theorem nativeCourse {key : Key} {style : Style} {stage after : Stage} {below : Thread}
    {path : Path} (h : Traced hosts modes m (later ++ step :: earlier))
    (native : ∀ host ∈ hosts, host.Native)
    (top : step.before.thread step.thread = .lookup key style stage :: below)
    (opening : stage.opening? = some (path, after)) :
    NativeCourse hosts m later step path key style after below := by
  have opens := Stage.opens_of_opening? opening
  obtain ⟨traced, host, mem, taken⟩ := h.split
  obtain ⟨-, turn, turned, -⟩ := step_eq taken
  have takes := takes_of_turn traced.reachable.sound taken turned
  rw [top] at turned
  cases Thread.turn_opensNative (native host mem) opening turned with
  | fails reason unusable thread world =>
    refine .fails reason mem unusable (takes.world.trans world) ?_
    rw [takes.thread_self, thread]
    exact Thread.wakeIf_of_calm (Stage.awaited?_told opens _ key)
  | @begins library script loads thread _ =>
    have began : step.after.thread step.thread =
        .script (.init ⟨path, none, .unmap library, library.recorded⟩) script ::
          .lookup key style after :: below := by
      rw [takes.thread_self, thread]
      exact Thread.wakeIf_of_calm rfl
    have runs : (step.after.thread step.thread).Runs
        (.init ⟨path, none, .unmap library, library.recorded⟩) script
          (.lookup key style after :: below) := ⟨[], script, List.suffix_rfl, began⟩
    rcases h.runs_or_ended runs with still | ⟨recent, last, during, rfl, mine, ends, runs⟩
    · exact .running mem loads still
    · rw [List.append_assoc, List.cons_append] at h
      obtain ⟨-, host, -, turn, takes⟩ := h.split_takes
      rw [mine] at takes
      exact .opened _ mem loads rfl mine runs ends (takes.ended ends).2.2

/-- When no thread can go on and none is held up in a module, no init is running. -/
theorem not_runs_of_stuck (h : Traced hosts modes m history) (stuck : ∀ t, m.step host t = none)
    (free : ∀ t, ¬ (m.thread t).HeldInModule m.world) (t : ThreadId) (pending : Pending)
    (script : Script) (below : Thread) : ¬ (m.thread t).Runs (.init pending) script below := by
  intro runs
  have there : t < m.threads.length := not_le.1 fun outside =>
    runs.ne_nil (Machine.thread_eq_nil outside)
  obtain ⟨rest, returned⟩ := h.reachable.sound.returned_of_stuck stuck free there
  obtain ⟨upper, left, -, stack⟩ := runs
  rw [returned] at stack
  cases upper with
  | nil => cases stack
  | cons frame upper => simp at stack

/-- Once the loader is out of use no library is mapped, if modules are closed at all. -/
theorem mapped_eq_nil (h : Traced hosts modes m history) (native : ∀ host ∈ hosts, host.Native)
    (release : ∀ host ∈ hosts, host.policy = .release) (down : m.world.state.isShutDown = true)
    (returned : ∀ t < m.threads.length, (m.thread t).Returned) : m.world.mapped = [] := by
  have mapped := h.mapped_perm native release
  have idle : m.threads.flatMap Thread.files = [] := by
    refine List.flatMap_eq_nil_iff.2 fun thread mem => ?_
    obtain ⟨t, lt, rfl⟩ := List.getElem_of_mem mem
    obtain ⟨rest, program⟩ := returned t lt
    rw [Machine.thread, List.getElem?_eq_getElem lt, Option.getD_some] at program
    rw [program]
    rfl
  rw [Mapped, Machine.files, idle, LoaderState.openModules_of_shutDown down,
    History.abandoned_of_release] at mapped
  exact mapped.eq_nil

/-- Along every history of a loader over the linker of the system, opens are all or nothing and no
library stays mapped. -/
theorem nativeOpens (h : Traced hosts modes m history) (native : ∀ host ∈ hosts, host.Native)
    (same : ∀ host ∈ hosts, host.policy = policy) : NativeOpens hosts policy m history where
  turns host mem me w key style stage below path after opening := by
    have turned := Thread.turn_of_opening? opening host me w key style below
    exact ⟨_, turned, Thread.turn_opensNative (native host mem) opening turned⟩
  courses := by
    rintro later earlier step key style stage below path after rfl top opening
    exact h.nativeCourse native top opening
  returns _ := h.not_runs_of_stuck
  mapped := h.mapped_perm native same
  ledger := h.exists_ledger
  balance maps unmaps := h.ledger_perm native same
  ended := by
    rintro rfl down returned
    have none := h.mapped_eq_nil native same down returned
    refine ⟨none, fun maps unmaps ledger => ?_⟩
    have balance := h.ledger_perm native same ledger
    rwa [none, List.append_nil] at balance

end Traced

/-- A directory with a library that can be used, one with another version of the registration
interface, one without an init, and a file that is no library. -/
def libraryTree : FileTree Content :=
  let register : Script := [.registrar (.checked ⟨.filter, "a"⟩ (.word 7))]
  .ofEntries [(.ofText "m/a", .file (.library (some 1) (some register))),
    (.ofText "m/b", .file (.library (some 2) (some register))),
    (.ofText "m/c", .file (.library none none)), (.ofText "m/d", .file .other)]

/-- A host that opens all of them. -/
def libraryHost : Host where
  resolver := ⟨fun _ name => ⟨.ofText name, false⟩,
    fun _ => [.ofText "m/a", .ofText "m/b", .ofText "m/c", .ofText "m/d", .ofText "m/a"]⟩
  linker := .native libraryTree
  policy := .release

/-- A thread looks up what the first library registers, and lets the loader go out of use. -/
def libraryRun : Machine × History :=
  ((Machine.initial (.ofFn fun _ => .loadAll)).spawn
    [.request (.tryGet ⟨.filter, "a"⟩), .request .drop]).runWith
      History.note libraryHost (List.replicate 24 0) []

theorem traced_libraryRun :
    Traced {libraryHost} (.ofFn fun _ => .loadAll) libraryRun.1 libraryRun.2 :=
  (Recorded.initial.spawn _).runWith (Set.mem_singleton libraryHost) _

/-- The first library was opened and closed twice; it alone was ever kept. -/
theorem nativeOpens_libraryRun :
    (∀ host ∈ ({libraryHost} : Set Host), host.Native) ∧
      (∀ host ∈ ({libraryHost} : Set Host), host.policy = .release) ∧
      NativeOpens {libraryHost} .release libraryRun.1 libraryRun.2 ∧
      libraryRun.1.world.state.isShutDown = true ∧
      libraryRun.1.threads.map List.length = [1] ∧
      libraryRun.2.released.map Handle.path = [.ofText "m/a", .ofText "m/a"] := by
  have native : ∀ host ∈ ({libraryHost} : Set Host), host.Native := by
    intro host mem
    rw [Set.mem_singleton_iff.1 mem]
    exact ⟨libraryTree, rfl⟩
  have release : ∀ host ∈ ({libraryHost} : Set Host), host.policy = .release := by
    intro host mem
    rw [Set.mem_singleton_iff.1 mem]
    rfl
  exact ⟨native, release, traced_libraryRun.nativeOpens native release, by cbv, by cbv, by cbv⟩

end Machine
end PluginHost
