import PluginHost.Proofs.Directory

/-!
# Registrar calls

A module registers through its registrar, with a text that is encoded on its side and decoded on
the side of the loader, or with plain arguments of its own making.  Either way the call is one
direct registration or none: it registers what its arguments mean, all of it, or it is refused and
changes nothing.

Main results:

- Theorem `HostCall.registration_eq_ok_iff`: plain arguments mean one key and one payload, or none.
- Theorem `RegistrarCall.served_checked`: a checked call is a direct registration, unless its name
  has a zero byte.
- Theorem `RegistrarCall.served_raw_of_means` and `RegistrarCall.served_raw_of_meaningless`: so is a
  call with plain arguments that mean something.
- Theorem `World.agrees_with_direct`: the calls of a registrar agree with direct registrations.
-/

namespace PluginHost

/-! ## What plain arguments mean -/

namespace Kind

theorem ofNumber?_eq_some_iff {n : Nat} {kind : Kind} :
    ofNumber? n = some kind ↔ kind.number = n := by
  constructor
  · intro named
    match n with
    | 0 | 1 | 2 | 3 =>
      cases named
      rfl
    | n + 4 => cases named
  · rintro rfl
    exact ofNumber?_number kind

/-- Exactly the numbers below four are those of kinds. -/
theorem exists_number_iff (n : Nat) : (∃ kind : Kind, kind.number = n) ↔ n < 4 := by
  have all := not_congr (ofNumber?_eq_none_iff n)
  rw [← ne_eq, Option.ne_none_iff_exists', not_le] at all
  simp only [ofNumber?_eq_some_iff] at all
  exact all

end Kind

namespace RegistrarCall

/-- Whether plain arguments mean a key and a payload: the number is that of the kind, the bytes of
the name before its first zero byte are those of the text, and the address is that of the payload.
-/
structure Means (number : Nat) (name : Option Bytes) (pointer : Payload.Pointer) (key : Key)
    (payload : Payload) : Prop where
  kind : key.kind.number = number
  text : ∃ bytes, name = some bytes ∧ Utf8.encode key.name = bytes.takeWhile (· ≠ 0)
  payload : pointer = some payload

end RegistrarCall

namespace HostCall

theorem registration_eq_ok_iff {call : HostCall} {key : Key} {payload : Payload} :
    call.registration = .ok (key, payload) ↔
      key.kind.number = call.number ∧ call.name = some (Utf8.encode key.name) ∧
        call.pointer = some payload := by
  constructor
  · intro asked
    unfold registration at asked
    split at asked
    · cases asked
    next kind numbered =>
    split at asked
    · cases asked
    next bytes named =>
    split at asked
    · cases asked
    next text decoded =>
    split at asked
    · cases asked
    next pointed =>
    cases asked
    exact ⟨Kind.ofNumber?_eq_some_iff.1 numbered, by rw [named, Utf8.encode_of_decode? decoded],
      pointed⟩
  · obtain ⟨number, name, pointer⟩ := call
    rintro ⟨rfl, rfl, rfl⟩
    simp [registration, Payload.ofPointer?]

end HostCall

/-! ## Direct registrations -/

/-- Whether a state is another one with one more payload, under a key that was free. -/
structure LoaderState.Gains (s : LoaderState) (key : Key) (payload : Payload) (s' : LoaderState) :
    Prop where
  free : s.registry.find? key = none
  found : ∀ other, s'.registry.find? other = if other = key then some payload
    else s.registry.find? other
  rest : s' = { s with registry := s'.registry }

namespace Thread

variable {s : LoaderState} {key : Key} {payload : Payload}

theorem register_isOk_iff (s : LoaderState) (key : Key) (payload : Payload) :
    (register s key payload).2.1.isOk = true ↔
      key.name ≠ "" ∧ s.isShutDown = false ∧ s.registry.find? key = none := by
  rw [(register_directory s key payload).2]
  simp [Directory.grants, LoaderState.directory, and_assoc, and_left_comm]

theorem register_of_refused (refused : (register s key payload).2.1.isOk = false) :
    (register s key payload).1 = s := by
  unfold register at refused ⊢
  split
  · rfl
  · split
    · rfl
    · split
      · next inserted => simp_all [Except.isOk, Except.toBool]
      · rfl

theorem register_gains (accepted : (register s key payload).2.1.isOk = true) :
    s.Gains key payload (register s key payload).1 := by
  have free := ((register_isOk_iff s key payload).1 accepted).2.2
  unfold register at accepted ⊢
  split
  · simp_all [Except.isOk, Except.toBool]
  · split
    · simp_all [Except.isOk, Except.toBool]
    · split
      · next inserted => exact ⟨free, fun other => Registry.find?_insert inserted other, rfl⟩
      · next refused => simp_all [Except.isOk, Except.toBool]

end Thread

/-! ## Calls of a registrar -/

namespace RegistrarCall

variable {s : LoaderState} {number : Nat} {name : Option Bytes} {pointer : Payload.Pointer}
  {key : Key} {payload : Payload}

/-- What a call of a registrar makes of the state of the loader, and whether it is accepted.  A call
that does not reach the loader is not. -/
def served (s : LoaderState) (call : RegistrarCall) : LoaderState × Bool :=
  match call.hostCall? with
  | none => (s, false)
  | some hostCall =>
    ((Thread.registerCall s hostCall).1, (Thread.registerCall s hostCall).2.1.isOk)

/-- A text has a zero byte exactly where it has the zero character. -/
theorem zero_mem_encode_iff (text : String) : 0 ∈ Utf8.encode text ↔ '\x00' ∈ text.toList := by
  rw [Utf8.mem_encode_iff (by decide)]
  constructor
  · rintro ⟨c, mem, number⟩
    rwa [Char.toNat_inj.1 (show c.toNat = '\x00'.toNat from number)] at mem
  · exact fun mem => ⟨_, mem, rfl⟩

/-- A call that asks for a registration is served as that registration. -/
theorem served_of_registration {call : RegistrarCall} {hostCall : HostCall}
    (reaches : call.hostCall? = some hostCall) (asks : hostCall.registration = .ok (key, payload)) :
    call.served s =
      ((Thread.register s key payload).1, (Thread.register s key payload).2.1.isOk) := by
  simp only [served, reaches, Thread.registerCall_fst, Thread.registerCall_isOk, asks]

/-- A checked call is a direct registration, unless its name has a zero byte. -/
theorem served_checked (s : LoaderState) (key : Key) (payload : Payload) :
    (checked key payload).served s =
      if '\x00' ∈ key.name.toList then (s, false)
      else ((Thread.register s key payload).1, (Thread.register s key payload).2.1.isOk) := by
  cases reaches : (checked key payload).hostCall? with
  | some hostCall =>
    have asks := HostCall.registration_of_checked reaches
    have clean : '\x00' ∉ key.name.toList := by
      have reached : (checked key payload).hostCall? ≠ none := by simp [reaches]
      rw [ne_eq, hostCall?_checked_eq_none_iff, not_or, List.contains_iff_mem,
        zero_mem_encode_iff] at reached
      exact reached.2
    rw [if_neg clean, served_of_registration reaches asks]
  | none =>
    have stays : (checked key payload).served s = (s, false) := by simp only [served, reaches]
    rw [stays]
    split
    · rfl
    · next clean =>
      -- Only an empty name is left, and the loader refuses it as well.
      rw [hostCall?_checked_eq_none_iff, List.contains_iff_mem, zero_mem_encode_iff] at reaches
      have nameless := reaches.resolve_right clean
      simp [Thread.register, nameless, Except.isOk, Except.toBool]

theorem Means.registration (means : Means number name pointer key payload) :
    HostCall.registration ⟨number, name.map terminated, pointer⟩ = .ok (key, payload) := by
  obtain ⟨bytes, rfl, text⟩ := means.text
  exact HostCall.registration_eq_ok_iff.2 ⟨means.kind, congrArg some text.symm, means.payload⟩

theorem means_of_registration
    (asks : HostCall.registration ⟨number, name.map terminated, pointer⟩ = .ok (key, payload)) :
    Means number name pointer key payload := by
  obtain ⟨kind, text, pointed⟩ := HostCall.registration_eq_ok_iff.1 asks
  obtain ⟨bytes, named, encoded⟩ := Option.map_eq_some_iff.1 text
  exact ⟨kind, ⟨bytes, named, encoded.symm⟩, pointed⟩

/-- A call whose plain arguments mean something is the registration of that. -/
theorem served_raw_of_means (means : Means number name pointer key payload) :
    (raw number name pointer).served s =
      ((Thread.register s key payload).1, (Thread.register s key payload).2.1.isOk) :=
  served_of_registration rfl means.registration

/-- A call whose plain arguments mean nothing is refused. -/
theorem served_raw_of_meaningless
    (meaningless : ∀ key payload, ¬ Means number name pointer key payload) :
    (raw number name pointer).served s = (s, false) := by
  simp only [served, hostCall?, Thread.registerCall_fst, Thread.registerCall_isOk]
  cases asks : HostCall.registration ⟨number, name.map terminated, pointer⟩ with
  | error failure => rfl
  | ok bound => exact absurd (means_of_registration asks) (meaningless bound.1 bound.2)

/-- A call with plain arguments is accepted exactly when they mean something that can be registered.
-/
theorem served_raw_iff (s : LoaderState) (number : Nat) (name : Option Bytes)
    (pointer : Payload.Pointer) :
    ((raw number name pointer).served s).2 = true ↔
      ∃ key payload, Means number name pointer key payload ∧ key.name ≠ "" ∧
        s.isShutDown = false ∧ s.registry.find? key = none := by
  constructor
  · intro accepted
    by_cases means : ∃ key payload, Means number name pointer key payload
    · obtain ⟨key, payload, means⟩ := means
      rw [served_raw_of_means means] at accepted
      exact ⟨key, payload, means, (Thread.register_isOk_iff s key payload).1 accepted⟩
    · push Not at means
      rw [served_raw_of_meaningless means] at accepted
      cases accepted
  · rintro ⟨key, payload, means, can⟩
    rw [served_raw_of_means means]
    exact (Thread.register_isOk_iff s key payload).2 can

/-- A call that is refused changes nothing. -/
theorem served_of_refused {call : RegistrarCall} (refused : (call.served s).2 = false) :
    (call.served s).1 = s := by
  cases call with
  | checked key payload =>
    rw [served_checked] at refused ⊢
    split
    · rfl
    · next clean =>
      rw [if_neg clean] at refused
      exact Thread.register_of_refused refused
  | raw number name pointer =>
    by_cases means : ∃ key payload, Means number name pointer key payload
    · obtain ⟨key, payload, means⟩ := means
      rw [served_raw_of_means means] at refused ⊢
      exact Thread.register_of_refused refused
    · push Not at means
      rw [served_raw_of_meaningless means]

end RegistrarCall

namespace Thread

/-! ## Inits that call their registrar -/

/-- A thread with an init whose call of the registrar is about to be answered: the loader has been
reached, if the call reaches it. -/
def calling (pending : Pending) (rest : Script) (below : Thread) (call : RegistrarCall) : Thread :=
  match call.hostCall? with
  | none => .script (.init pending) (.registrar call :: rest) :: below
  | some hostCall => .request (.registrar hostCall) :: .script (.init pending) rest :: below

variable {host : Host} {me : ThreadId} {w : World} {pending : Pending} {rest : Script}
  {below : Thread} {call : RegistrarCall}

/-- A call that reaches the loader changes nothing before it is served. -/
theorem turn_registrar {hostCall : HostCall} (reaches : call.hostCall? = some hostCall) :
    turn host me w (.script (.init pending) (.registrar call :: rest) :: below) =
      some ⟨calling pending rest below call, w, [], false⟩ := by
  simp only [turn, begin, calling, reaches]

/-- The turn that answers a call of a registrar. -/
theorem turn_calling (host : Host) (me : ThreadId) (w : World) (pending : Pending) (rest : Script)
    (below : Thread) (call : RegistrarCall) :
    ∃ notices, turn host me w (calling pending rest below call) =
      some ⟨.script (.init pending) rest :: below, { w with state := (call.served w.state).1 },
        notices ++ (Role.init pending).events (.accepted (call.served w.state).2), false⟩ := by
  unfold calling RegistrarCall.served
  split
  · next stays => exact ⟨[], by simp [turn, begin, stays, answer]⟩
  · next hostCall reaches => exact ⟨_, rfl⟩

end Thread

/-! ## Agreement -/

/-- How the calls of a registrar and direct registrations agree in a world. -/
structure World.AgreesWithDirect (w : World) : Prop where
  /-- A call with a kind, a text and a payload is accepted exactly when the text has no zero
  character and the payload could be registered directly. -/
  checked : ∀ key payload, ((RegistrarCall.checked key payload).served w.state).2 = true ↔
    '\x00' ∉ key.name.toList ∧ (Thread.register w.state key payload).2.1 = .ok ()
  /-- Accepted, it makes what the direct registration makes: no shorter name is registered. -/
  alike : ∀ key payload, ((RegistrarCall.checked key payload).served w.state).2 = true →
    ((RegistrarCall.checked key payload).served w.state).1 =
        (Thread.register w.state key payload).1 ∧
      w.state.Gains key payload (Thread.register w.state key payload).1
  /-- Exactly the numbers below four name kinds. -/
  numbers : ∀ number, (∃ kind : Kind, kind.number = number) ↔ number < 4
  /-- A call with plain arguments is accepted exactly when they mean a key and a payload, the text
  is not empty, the loader is in use and the key is free. -/
  raw : ∀ number name pointer, ((RegistrarCall.raw number name pointer).served w.state).2 = true ↔
    ∃ key payload, RegistrarCall.Means number name pointer key payload ∧ key.name ≠ "" ∧
      w.state.isShutDown = false ∧ w.state.registry.find? key = none
  /-- Accepted, it registers that payload under that key, and nothing else. -/
  inserts : ∀ number name pointer key payload,
    RegistrarCall.Means number name pointer key payload →
    ((RegistrarCall.raw number name pointer).served w.state).2 = true →
    ((RegistrarCall.raw number name pointer).served w.state).1 =
        (Thread.register w.state key payload).1 ∧
      w.state.Gains key payload (Thread.register w.state key payload).1
  /-- A call that is refused changes nothing. -/
  refused : ∀ call : RegistrarCall, (call.served w.state).2 = false →
    (call.served w.state).1 = w.state
  /-- The init of a module that is being opened reaches the loader without a change, ... -/
  reached : ∀ host me pending rest below (call : RegistrarCall), call.hostCall? ≠ none →
    Thread.turn host me w (.script (.init pending) (.registrar call :: rest) :: below) =
      some ⟨Thread.calling pending rest below call, w, [], false⟩
  /-- ... and is answered in one turn, which changes nothing but the state of the loader. -/
  answered : ∀ host me pending rest below (call : RegistrarCall), ∃ notices,
    Thread.turn host me w (Thread.calling pending rest below call) =
      some ⟨.script (.init pending) rest :: below, { w with state := (call.served w.state).1 },
        notices ++ (Role.init pending).events (.accepted (call.served w.state).2), false⟩

theorem World.agrees_with_direct (w : World) : w.AgreesWithDirect where
  checked key payload := by
    have granted : (Thread.register w.state key payload).2.1.isOk = true ↔
        (Thread.register w.state key payload).2.1 = .ok () := by
      cases (Thread.register w.state key payload).2.1 <;> simp [Except.isOk, Except.toBool]
    rw [RegistrarCall.served_checked, ← granted]
    split <;> simp_all
  alike key payload accepted := by
    rw [RegistrarCall.served_checked] at accepted ⊢
    split at accepted
    · cases accepted
    · next clean =>
      rw [if_neg clean]
      exact ⟨rfl, Thread.register_gains accepted⟩
  numbers := Kind.exists_number_iff
  raw := RegistrarCall.served_raw_iff w.state
  inserts number name pointer key payload means accepted := by
    rw [RegistrarCall.served_raw_of_means means] at accepted ⊢
    exact ⟨rfl, Thread.register_gains accepted⟩
  refused _ := RegistrarCall.served_of_refused
  reached host me pending rest below call reaches := by
    obtain ⟨hostCall, reaches⟩ := Option.ne_none_iff_exists'.1 reaches
    exact Thread.turn_registrar reaches
  answered host me pending rest below := Thread.turn_calling host me w pending rest below

/-- The bytes of a name from its first zero byte on mean nothing; a text with a zero character is
not registered under what stands before it. -/
example :
    RegistrarCall.Means 3 (some (Utf8.encode "a" ++ [0, 0xFF])) (some (.word 7))
      ⟨.converter, "a"⟩ (.word 7) :=
  ⟨rfl, ⟨_, rfl, by decide⟩, rfl⟩

end PluginHost
