import PluginHost.Proofs.History

/-!
# Bulk loads run once

A kind that is searched by loading all its candidates is loaded once: the section that asks
the resolver for the candidates sets the mark of the kind's bulk load, the mark stands until
the section that settles the kind, and a settled kind is never loaded again.  A file for a
single name is asked for only while the kind is searched by name, which no section changes.

Main results:

- Theorem `Section.inquiry`: what a lock section asks the resolver, and what it makes of
  modes and marks.
- Theorem `Machine.inquiry_of_takes`: the same of a step.
- Theorem `Machine.Traced.asked_iff`: the candidates of a kind have been asked for exactly if
  its bulk load is in progress or over.
- Theorem `Machine.Reachable.byName_of_awaited`: a lookup waits for a load by name only if its
  kind is searched by name.
- Theorem `Machine.Traced.bulkOnce`: along every history a kind is loaded at most once and
  changes its mode at most once, from all candidates to settled, as its mark goes.
-/

namespace PluginHost

/-! ## What the resolver is asked -/

namespace Event

/-- The kind of which all candidates are asked for. -/
def resolvedKind? : Event → Option Kind
  | resolvedAll kind => some kind
  | _ => none

/-- The key whose file is asked for. -/
def resolvedKey? : Event → Option Key
  | resolvedOne key => some key
  | _ => none

theorem resolvedKind?_of_silent {event : Event} (h : event.asks = false) :
    event.resolvedKind? = none := by
  cases event <;> first | rfl | cases h

theorem resolvedKey?_of_silent {event : Event} (h : event.asks = false) :
    event.resolvedKey? = none := by
  cases event <;> first | rfl | cases h

end Event

/-- The kinds of which all candidates are asked for. -/
def kindsAsked (events : List Event) : List Kind :=
  events.filterMap Event.resolvedKind?

/-- The keys whose files are asked for. -/
def keysAsked (events : List Event) : List Key :=
  events.filterMap Event.resolvedKey?

theorem asked_of_silent {events : List Event} (h : ∀ event ∈ events, event.asks = false) :
    kindsAsked events = [] ∧ keysAsked events = [] := by
  constructor
  · exact List.filterMap_eq_nil_iff.2 fun event mem => Event.resolvedKind?_of_silent (h event mem)
  · exact List.filterMap_eq_nil_iff.2 fun event mem => Event.resolvedKey?_of_silent (h event mem)

/-- What follows without a question changes nothing of what was asked. -/
theorem asked_append (events : List Event) {extra : List Event}
    (h : ∀ event ∈ extra, event.asks = false) :
    kindsAsked (events ++ extra) = kindsAsked events ∧
      keysAsked (events ++ extra) = keysAsked events := by
  obtain ⟨kinds, keys⟩ := asked_of_silent h
  constructor
  · rw [kindsAsked, List.filterMap_append, ← kindsAsked, ← kindsAsked, kinds, List.append_nil]
  · rw [keysAsked, List.filterMap_append, ← keysAsked, ← keysAsked, keys, List.append_nil]

/-! ## Lock sections -/

/-- The other state has the same modes and the same marks of bulk loads. -/
def LoaderState.SameModes (s s' : LoaderState) : Prop :=
  s'.modes = s.modes ∧ s'.bulk = s.bulk

/-- What a turn of `me` asks the resolver, and what it makes of modes and marks: it asks
nothing and changes nothing; it asks for the file of a name of a kind that is searched by
name; it asks for all candidates of a kind that is to be loaded and not being loaded, and
sets its mark; or it settles a kind whose mark is its own. -/
inductive Inquiry (me : ThreadId) (s s' : LoaderState) : List Kind → List Key → Prop
  | nothing (same : s.SameModes s') : Inquiry me s s' [] []
  | name (key : Key) (mode : s.modes.get key.kind = .byName) (same : s.SameModes s') :
      Inquiry me s s' [] [key]
  | bulk (kind : Kind) (mode : s.modes.get kind = .loadAll) (idle : s.bulk.get kind = none)
      (same : (s.startBulk me kind).SameModes s') : Inquiry me s s' [kind] []
  | settled (kind : Kind) (busy : s.bulk.get kind = some me)
      (same : (s.endBulk kind).SameModes s') : Inquiry me s s' [] []

/-- What is asked depends on the modes and marks of the first state only. -/
theorem Inquiry.of_same {me : ThreadId} {s s' s'' : LoaderState} {kinds : List Kind}
    {keys : List Key} (h : Inquiry me s' s'' kinds keys) (same : s.SameModes s') :
    Inquiry me s s'' kinds keys := by
  obtain ⟨modes, bulk⟩ := same
  cases h with
  | nothing after => exact .nothing ⟨after.1.trans modes, after.2.trans bulk⟩
  | name key mode after =>
    rw [modes] at mode
    exact .name key mode ⟨after.1.trans modes, after.2.trans bulk⟩
  | bulk kind mode idle after =>
    rw [modes] at mode
    rw [bulk] at idle
    refine .bulk kind mode idle ⟨after.1.trans modes, after.2.trans ?_⟩
    rw [LoaderState.startBulk, LoaderState.startBulk, bulk]
  | settled kind busy after =>
    rw [bulk] at busy
    refine .settled kind busy ⟨after.1.trans ?_, after.2.trans ?_⟩
    · rw [LoaderState.endBulk, LoaderState.endBulk, modes]
    · rw [LoaderState.endBulk, LoaderState.endBulk, bulk]

/-- What a lock section asks the resolver, and what it makes of modes and marks. -/
abbrev Section.Inquires (me : ThreadId) (s : LoaderState) (ran : Section) : Prop :=
  Inquiry me s ran.state (kindsAsked ran.events) (keysAsked ran.events)

namespace LoaderState

variable (host : Host) (me : ThreadId) (key : Key)

/-- A search asks for the file of its key, or for nothing. -/
theorem search_asks (s : LoaderState) :
    kindsAsked (s.search host me key).events = [] ∧
      s.SameModes (s.search host me key).state ∧
      (keysAsked (s.search host me key).events = [] ∨
        keysAsked (s.search host me key).events = [key] ∧ s.modes.get key.kind = .byName) := by
  have outcome := search_cases host me key s
  generalize s.search host me key = ran at outcome
  cases outcome with
  | found _ => exact ⟨rfl, ⟨rfl, rfl⟩, .inl rfl⟩
  | absent _ _ => exact ⟨rfl, ⟨rfl, rfl⟩, .inl rfl⟩
  | mine _ _ _ _ => exact ⟨rfl, ⟨rfl, rfl⟩, .inl rfl⟩
  | refused _ _ _ _ _ => exact ⟨rfl, ⟨rfl, rfl⟩, .inl rfl⟩
  | waits _ _ _ _ _ => exact ⟨rfl, ⟨rfl, rfl⟩, .inl rfl⟩
  | starts _ mode _ _ => exact ⟨rfl, ⟨rfl, rfl⟩, .inr ⟨rfl, mode⟩⟩
  | invalid _ mode _ _ => exact ⟨rfl, ⟨rfl, rfl⟩, .inr ⟨rfl, mode⟩⟩

theorem search_inquires (s : LoaderState) : (s.search host me key).Inquires me s := by
  obtain ⟨kinds, same, keys⟩ := search_asks host me key s
  rcases keys with keys | ⟨keys, mode⟩
  · rw [Section.Inquires, kinds, keys]
    exact .nothing same
  · rw [Section.Inquires, kinds, keys]
    exact .name key mode same

end LoaderState

/-- What a lock section of `me` asks the resolver, and what it makes of modes and marks. -/
theorem Section.inquiry {host : Host} {me : ThreadId} {key : Key} {stage : Stage}
    {s : LoaderState} {ran : Section} (runs : stage.lockSection? host me key s = some ran)
    (busy : ∀ job, stage.job? key = some job → s.owner? job = some me) : ran.Inquires me s := by
  have akin := s.akin_begun me key stage
  have begun : s.SameModes (s.begun me key stage) := ⟨akin.modes, akin.bulk⟩
  have searches : ((s.begun me key stage).search host me key).Inquires me s :=
    (LoaderState.search_inquires host me key _).of_same begun
  cases Stage.runs runs with
  | nameless _ => exact .nothing ⟨rfl, rfl⟩
  | refused _ _ state =>
    rcases state with rfl | rfl
    · exact .nothing ⟨rfl, rfl⟩
    · exact .nothing ⟨rfl, rfl⟩
  | shared _ => exact .nothing ⟨rfl, rfl⟩
  | again _ => exact searches
  | inside _ _ _ => exact searches
  | insists _ _ _ _ _ => exact searches
  | free _ _ _ _ => exact searches
  | awaits _ _ _ _ _ => exact .nothing begun
  | lists _ _ idle mode =>
    refine .bulk key.kind mode idle ⟨akin.modes, ?_⟩
    rw [LoaderState.startBulk, LoaderState.startBulk, akin.bulk]
  | @settled opened _ =>
    have mode : ((s.endBulk key.kind).keep opened).modes.get key.kind = .settled := by
      simp [LoaderState.endBulk, LoaderState.keep]
    obtain ⟨kinds, same, keys⟩ :=
      LoaderState.search_asks host me key ((s.endBulk key.kind).keep opened)
    rcases keys with keys | ⟨-, byName⟩
    · have asked := Inquiry.settled key.kind (busy _ rfl) same
      rwa [← kinds, ← keys] at asked
    · rw [mode] at byName
      cases byName
  | settledLate _ => exact .settled key.kind (busy _ rfl) ⟨rfl, rfl⟩
  | closed => exact .nothing ⟨rfl, rfl⟩
  | adopted _ _ => exact .nothing ⟨rfl, rfl⟩
  | rejected _ _ => exact .nothing ⟨rfl, rfl⟩
  | openedLate _ => exact .nothing ⟨rfl, rfl⟩
  | unopened => exact .nothing ⟨rfl, rfl⟩
  | failed => exact .nothing ⟨rfl, rfl⟩

/-! ## Steps -/

theorem Thread.served_sameModes (s : LoaderState) (request : Request) :
    s.SameModes (request.served s) := by
  have same := served_sameLoads s request
  obtain ⟨registry, handles, same⟩ := same
  rw [same]
  exact ⟨rfl, rfl⟩

namespace Machine

variable {hosts : Set Host} {modes : PerKind SearchMode} {m next : Machine} {history : History}
  {host : Host} {me t : ThreadId} {turn : Turn} {kind : Kind}

/-- What a step asks the resolver, and what it makes of modes and marks. -/
theorem inquiry_of_takes (sound : m.Sound) (takes : Takes host m me turn next) :
    Inquiry me m.world.state next.world.state (kindsAsked turn.events)
      (keysAsked turn.events) := by
  have quiet : turn.Silent → m.world.state.SameModes turn.world.state →
      Inquiry me m.world.state turn.world.state (kindsAsked turn.events)
        (keysAsked turn.events) := by
    intro silent same
    obtain ⟨kinds, keys⟩ := asked_of_silent silent
    rw [kinds, keys]
    exact .nothing same
  rw [takes.world]
  have locked := takes.effect.locked_cases
  generalize thread : m.thread me = before at locked
  cases locked with
  | nothing silent state =>
    refine quiet silent ?_
    rw [state]
    exact ⟨rfl, rfl⟩
  | serves silent state =>
    refine quiet silent ?_
    rw [state]
    exact Thread.served_sameModes ..
  | closes silent state =>
    refine quiet silent ?_
    rw [state]
    exact ⟨rfl, rfl⟩
  | @runs key style stage below ran runs eq =>
    have busy : ∀ job, stage.job? key = some job → m.world.state.owner? job = some me := by
      intro job carries
      refine (sound.coherent.owned.iff job me).2 ?_
      rw [thread, Thread.jobs_lookup, carries]
      exact List.mem_cons_self
    obtain ⟨extra, silent, events⟩ := Thread.afterSection_events (w := m.world) key style below ran
    obtain ⟨kinds, keys⟩ := asked_append ran.events silent
    rw [eq, events, kinds, keys, Thread.afterSection_world]
    exact Section.inquiry runs busy

end Machine

/-- What a turn of `me` does about one kind: nothing, it begins the kind's bulk load, or it
ends that. -/
inductive BulkMove (me : ThreadId) (kind : Kind) (s s' : LoaderState) (kinds : List Kind) : Prop
  | rest (asked : kind ∉ kinds) (mode : s'.modes.get kind = s.modes.get kind)
      (mark : s'.bulk.get kind = s.bulk.get kind)
  | begins (asked : kinds = [kind]) (mode : s.modes.get kind = .loadAll)
      (mode' : s'.modes.get kind = .loadAll) (idle : s.bulk.get kind = none)
      (mark : s'.bulk.get kind = some me)
  | ends (asked : kind ∉ kinds) (mode : s.modes.get kind = .loadAll)
      (mode' : s'.modes.get kind = .settled) (busy : s.bulk.get kind = some me)
      (mark : s'.bulk.get kind = none)

/-- What a turn asks and changes, kind by kind. -/
theorem Inquiry.bulkMove {me : ThreadId} {s s' : LoaderState} {kinds : List Kind}
    {keys : List Key} (h : Inquiry me s s' kinds keys) (wf : s.Wf) (kind : Kind) :
    BulkMove me kind s s' kinds := by
  cases h with
  | nothing same => exact .rest List.not_mem_nil (by rw [same.1]) (by rw [same.2])
  | name key mode same => exact .rest List.not_mem_nil (by rw [same.1]) (by rw [same.2])
  | bulk begun mode idle same =>
    by_cases hk : kind = begun
    · subst hk
      refine .begins rfl mode (by rw [same.1]; exact mode) idle ?_
      rw [same.2]
      exact PerKind.get_set_self ..
    · refine .rest ?_ (by rw [same.1]; rfl) ?_
      · rw [List.mem_singleton]
        exact hk
      · rw [same.2]
        exact PerKind.get_set_of_ne hk ..
  | settled ended busy same =>
    by_cases hk : kind = ended
    · subst hk
      refine .ends List.not_mem_nil (wf.bulkMode kind me busy) ?_ busy ?_
      · rw [same.1]
        exact PerKind.get_set_self ..
      · rw [same.2]
        exact PerKind.get_set_self ..
    · refine .rest List.not_mem_nil ?_ ?_
      · rw [same.1]
        exact PerKind.get_set_of_ne hk ..
      · rw [same.2]
        exact PerKind.get_set_of_ne hk ..

/-! ## Histories -/

namespace Machine

/-- The kinds of which all candidates were ever asked for, once for each time. -/
def kindsAsked (m : Machine) : List Kind :=
  PluginHost.kindsAsked (m.trace.map Prod.snd)

/-- The keys whose files were ever asked for. -/
def keysAsked (m : Machine) : List Key :=
  PluginHost.keysAsked (m.trace.map Prod.snd)

/-- Whether a step changes the mode of a kind. -/
def Step.changes (kind : Kind) (step : Step) : Bool :=
  step.after.world.state.modes.get kind ≠ step.before.world.state.modes.get kind

variable {hosts : Set Host} {modes : PerKind SearchMode} {m next : Machine} {history : History}
  {host : Host} {me t : ThreadId} {turn : Turn} {kind : Kind}

theorem Takes.kindsAsked (takes : Takes host m me turn next) :
    next.kindsAsked = (PluginHost.kindsAsked turn.events).reverse ++ m.kindsAsked := by
  simp [Machine.kindsAsked, PluginHost.kindsAsked, takes.trace, List.map_reverse,
    Function.comp_def]

theorem Takes.keysAsked (takes : Takes host m me turn next) :
    next.keysAsked = (PluginHost.keysAsked turn.events).reverse ++ m.keysAsked := by
  simp [Machine.keysAsked, PluginHost.keysAsked, takes.trace, List.map_reverse,
    Function.comp_def]

theorem Takes.bulkMove (sound : m.Sound) (takes : Takes host m me turn next) (kind : Kind) :
    BulkMove me kind m.world.state next.world.state (PluginHost.kindsAsked turn.events) :=
  (inquiry_of_takes sound takes).bulkMove sound.coherent.wf kind

namespace Traced

/-- A kind has the mode in which it started, or it started with all its candidates to be
loaded and is settled. -/
theorem mode (h : Traced hosts modes m history) (kind : Kind) :
    m.world.state.modes.get kind = modes.get kind ∨
      modes.get kind = .loadAll ∧ m.world.state.modes.get kind = .settled := by
  refine h.invariant (P := fun m _ => m.world.state.modes.get kind = modes.get kind ∨
    modes.get kind = .loadAll ∧ m.world.state.modes.get kind = .settled) ?_ ?_ ?_
  · exact .inl rfl
  · intro m next _ mode untouched
    rwa [untouched.state]
  · intro m next history host me turn before mode _ takes
    cases takes.bulkMove before.reachable.sound kind with
    | rest asked same mark => rwa [same]
    | begins asked all same idle mark =>
      rw [all] at mode
      rwa [same]
    | ends asked all settled busy mark =>
      refine .inr ⟨?_, settled⟩
      rcases mode with start | ⟨start, -⟩
      · rw [← start, all]
      · exact start

/-- A kind that is to be loaded was so from the start. -/
theorem start_eq_loadAll (h : Traced hosts modes m history)
    (all : m.world.state.modes.get kind = .loadAll) : modes.get kind = .loadAll := by
  rcases h.mode kind with start | ⟨start, -⟩
  · rw [← start, all]
  · exact start

/-- The candidates of a kind have been asked for exactly if the kind started with all of them
to be loaded, and its bulk load is in progress or over. -/
theorem asked_iff (h : Traced hosts modes m history) (kind : Kind) :
    kind ∈ m.kindsAsked ↔ modes.get kind = .loadAll ∧
      (m.world.state.bulk.get kind ≠ none ∨ m.world.state.modes.get kind = .settled) := by
  refine h.invariant (P := fun m _ => kind ∈ m.kindsAsked ↔ modes.get kind = .loadAll ∧
    (m.world.state.bulk.get kind ≠ none ∨ m.world.state.modes.get kind = .settled)) ?_ ?_ ?_
  · have idle : (Machine.initial modes).world.state.bulk.get kind = none := by
      cases kind <;> rfl
    constructor
    · intro mem
      cases mem
    · rintro ⟨all, busy | settled⟩
      · exact absurd idle busy
      · have same : modes.get kind = .settled := settled
        rw [all] at same
        cases same
  · intro m next _ asked untouched
    rwa [Machine.kindsAsked, untouched.trace, untouched.state]
  · intro m next history host me turn before asked _ takes
    rw [takes.kindsAsked, List.mem_append, List.mem_reverse]
    cases takes.bulkMove before.reachable.sound kind with
    | rest unasked same mark =>
      rw [same, mark, ← asked]
      exact ⟨fun mem => mem.resolve_left unasked, .inr⟩
    | begins asks all same idle mark =>
      rw [asks, mark]
      simp [before.start_eq_loadAll all]
    | ends unasked all settled busy mark =>
      rw [settled, mark, asked, busy]
      simp [unasked]

/-- The candidates of a kind are asked for once at most. -/
theorem nodup_kindsAsked (h : Traced hosts modes m history) : m.kindsAsked.Nodup := by
  refine h.invariant (P := fun m _ => m.kindsAsked.Nodup) ?_ ?_ ?_
  · exact List.nodup_nil
  · intro m next _ once untouched
    rwa [Machine.kindsAsked, untouched.trace]
  · intro m next history host me turn before once _ takes
    have inquiry := inquiry_of_takes before.reachable.sound takes
    rw [takes.kindsAsked]
    generalize PluginHost.kindsAsked turn.events = kinds at inquiry
    generalize PluginHost.keysAsked turn.events = keys at inquiry
    cases inquiry with
    | nothing _ => exact once
    | name _ _ _ => exact once
    | settled _ _ _ => exact once
    | bulk kind mode idle _ =>
      have fresh : kind ∉ m.kindsAsked := by
        intro mem
        rcases ((before.asked_iff kind).1 mem).2 with busy | settled
        · exact busy idle
        · rw [mode] at settled
          cases settled
      exact List.nodup_cons.2 ⟨fresh, once⟩

/-- A kind has changed its mode once if it has another than at the start, and else never. -/
theorem countP_changes (h : Traced hosts modes m history) (kind : Kind) :
    history.countP (Step.changes kind) =
      if m.world.state.modes.get kind = modes.get kind then 0 else 1 := by
  refine h.invariant (P := fun m history => history.countP (Step.changes kind) =
    if m.world.state.modes.get kind = modes.get kind then 0 else 1) ?_ ?_ ?_
  · exact (if_pos rfl).symm
  · intro m next history count untouched
    rwa [untouched.state]
  · intro m next history host me turn before count _ takes
    have unchanged : next.world.state.modes.get kind = m.world.state.modes.get kind →
        (⟨m, me, next⟩ :: history).countP (Step.changes kind) =
          if next.world.state.modes.get kind = modes.get kind then 0 else 1 := by
      intro same
      rw [same, ← count]
      refine List.countP_cons_of_neg ?_
      simp [Step.changes, same]
    cases takes.bulkMove before.reachable.sound kind with
    | rest _ same _ => exact unchanged same
    | begins _ all same _ _ => exact unchanged (same.trans all.symm)
    | ends _ all settled _ _ =>
      have start := before.start_eq_loadAll all
      have changes : Step.changes kind ⟨m, me, next⟩ = true := by
        simp [Step.changes, all, settled]
      rw [List.countP_cons_of_pos changes, count, all, settled, start]
      rfl

/-- A kind is searched by name exactly if it was so from the start. -/
theorem byName_iff (h : Traced hosts modes m history) (kind : Kind) :
    m.world.state.modes.get kind = .byName ↔ modes.get kind = .byName := by
  rcases h.mode kind with same | ⟨start, settled⟩
  · rw [same]
  · rw [start, settled]
    exact ⟨nofun, nofun⟩

/-- The file of a name has been asked for only if its kind is searched by name. -/
theorem start_of_keysAsked (h : Traced hosts modes m history) {key : Key}
    (asked : key ∈ m.keysAsked) : modes.get key.kind = .byName := by
  refine h.invariant (P := fun m _ => ∀ key ∈ m.keysAsked, modes.get key.kind = .byName)
    ?_ ?_ ?_ key asked
  · intro key mem
    cases mem
  · intro m next _ named untouched
    rwa [Machine.keysAsked, untouched.trace]
  · intro m next history host me turn before named _ takes key mem
    have inquiry := inquiry_of_takes before.reachable.sound takes
    rw [takes.keysAsked, List.mem_append, List.mem_reverse] at mem
    rcases mem with mem | mem
    · generalize PluginHost.kindsAsked turn.events = kinds at inquiry
      generalize PluginHost.keysAsked turn.events = keys at inquiry mem
      cases inquiry with
      | nothing _ => cases mem
      | bulk _ _ _ _ => cases mem
      | settled _ _ _ => cases mem
      | name asked mode _ =>
        rw [List.mem_singleton.1 mem]
        exact (before.byName_iff asked.kind).1 mode
    · exact named key mem

/-- What each step of a history does about a kind. -/
theorem bulkMove (h : Traced hosts modes m history) {step : Step} (mem : step ∈ history)
    (kind : Kind) :
    ∃ kinds, BulkMove step.thread kind step.before.world.state step.after.world.state kinds := by
  obtain ⟨host, -, turn, takes⟩ := h.exists_takes mem
  exact ⟨_, takes.bulkMove (h.sound_before mem) kind⟩

end Traced

/-- A lookup waits for a load by name only if its kind is searched by name. -/
theorem Reachable.byName_of_awaited (h : Reachable hosts modes m) {key : Key} {load : Nat}
    (awaits : (m.thread t).awaited? = some (.name key load)) : modes.get key.kind = .byName := by
  induction h generalizing t key load with
  | initial =>
    rw [thread_eq_nil (Nat.zero_le t)] at awaits
    cases awaits
  | @change m next before change ih =>
    rcases before.sound.awaited_of_change change awaits with old | ⟨owner, busy⟩
    · exact ih old
    · have after : Reachable hosts modes next := .change before change
      obtain ⟨history, traced⟩ := Traced.of_reachable after
      have loading := (LoaderState.owner?_name _ key load owner).1 busy
      exact (traced.byName_iff key.kind).1 (after.sound.coherent.wf.nameMode key _ loading)

/-- Bulk loads run once, and loads by name are for kinds that are searched by name.  All
candidates of a kind have been asked for once at most, and only if the kind started with all
of them to be loaded.  A kind changes its mode once at most, from all candidates to settled,
in a section of the thread that owns the kind's bulk load, and in just that section the mark
of the load goes; the mark stands only while all candidates are to be loaded.  The file of
a name has been asked for, and is being loaded, only for a kind that is searched by name and
always was. -/
structure BulkOnce (modes : PerKind SearchMode) (m : Machine) (history : History) : Prop where
  once : m.kindsAsked.Nodup
  started : ∀ kind ∈ m.kindsAsked, modes.get kind = .loadAll
  changed : ∀ kind, history.countP (Step.changes kind) ≤ 1
  settles : ∀ kind, ∀ step ∈ history, Step.changes kind step = true →
    step.before.world.state.modes.get kind = .loadAll ∧
      step.after.world.state.modes.get kind = .settled ∧
        step.before.world.state.bulk.get kind = some step.thread ∧
          step.after.world.state.bulk.get kind = none
  clears : ∀ kind, ∀ step ∈ history, step.before.world.state.bulk.get kind ≠ none →
    step.after.world.state.bulk.get kind = none → Step.changes kind step = true
  marked : ∀ kind, m.world.state.bulk.get kind ≠ none → m.world.state.modes.get kind = .loadAll
  named : ∀ key ∈ m.keysAsked, m.world.state.modes.get key.kind = .byName ∧
    ∀ step ∈ history, step.before.world.state.modes.get key.kind = .byName
  loading : ∀ key, Assoc.find? key m.world.state.byName ≠ none →
    m.world.state.modes.get key.kind = .byName

/-- Along every history bulk loads run once. -/
theorem Traced.bulkOnce (h : Traced hosts modes m history) : BulkOnce modes m history := by
  have wf := h.reachable.sound.coherent.wf
  constructor
  · exact h.nodup_kindsAsked
  · intro kind asked
    exact ((h.asked_iff kind).1 asked).1
  · intro kind
    rw [h.countP_changes kind]
    split
    · exact Nat.zero_le 1
    · exact le_rfl
  · intro kind step mem changes
    have changed : step.after.world.state.modes.get kind ≠
        step.before.world.state.modes.get kind := of_decide_eq_true changes
    obtain ⟨kinds, move⟩ := h.bulkMove mem kind
    cases move with
    | rest _ same _ => exact absurd same changed
    | begins _ all same _ _ => exact absurd (same.trans all.symm) changed
    | ends _ all settled busy mark => exact ⟨all, settled, busy, mark⟩
  · intro kind step mem busy gone
    obtain ⟨kinds, move⟩ := h.bulkMove mem kind
    cases move with
    | rest _ _ same =>
      rw [gone] at same
      exact absurd same.symm busy
    | begins _ _ _ _ mark =>
      rw [gone] at mark
      cases mark
    | ends _ all settled _ _ => simp [Step.changes, all, settled]
  · intro kind busy
    obtain ⟨owner, mark⟩ := Option.ne_none_iff_exists'.1 busy
    exact wf.bulkMode kind owner mark
  · intro key asked
    have start := h.start_of_keysAsked asked
    refine ⟨(h.byName_iff key.kind).2 start, ?_⟩
    intro step mem
    obtain ⟨later, earlier, rfl⟩ := List.append_of_mem mem
    exact (h.split.1.byName_iff key.kind).2 start
  · intro key busy
    obtain ⟨load, mark⟩ := Option.ne_none_iff_exists'.1 busy
    exact wf.nameMode key load mark

/-- A host with two converters: the init of the first one looks up the name of the second. -/
def converterHost : Host :=
  let key (name : String) : Key := ⟨.converter, name⟩
  let opening (path : Path) : Opening :=
    if path = .ofText "a" then
      .run [.registrar (.checked (key "a") (.word 7)), .request (.tryGet (key "b"))] none
        (.run [] none)
    else .run [.registrar (.checked (key "b") (.word 8))] none (.run [] none)
  ⟨⟨fun _ name => ⟨.ofText name, true⟩, fun _ => [.ofText "a", .ofText "b"]⟩, ⟨opening⟩, .release⟩

/-- Two threads look up converters, and take turns by a schedule. -/
def converterRun (schedule : List ThreadId) : Machine × History :=
  let lookup (name : String) : Action := .request (.tryGet ⟨.converter, name⟩)
  (((Machine.initial SearchMode.defaults).spawn [lookup "b"]).spawn [lookup "a"]).runWith
    History.note converterHost schedule []

/-- The second thread looks its converter up while the first one loads all of them; then
the first thread goes on to the end. -/
def crossing : List ThreadId :=
  List.replicate 7 0 ++ List.replicate 3 1 ++ List.replicate 8 0

theorem traced_converterRun (schedule : List ThreadId) :
    Traced {converterHost} SearchMode.defaults (converterRun schedule).1
      (converterRun schedule).2 :=
  ((Recorded.initial.spawn _).spawn _).runWith (Set.mem_singleton converterHost) _

/-- The converters have been asked for once, and are settled. -/
theorem bulkOnce_crossing :
    BulkOnce SearchMode.defaults (converterRun crossing).1 (converterRun crossing).2 ∧
      (converterRun crossing).1.kindsAsked = [.converter] ∧
        (converterRun crossing).1.world.state.modes.get .converter = .settled :=
  ⟨(traced_converterRun crossing).bulkOnce, rfl, rfl⟩

end Machine

end PluginHost
