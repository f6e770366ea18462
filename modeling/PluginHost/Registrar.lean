import PluginHost.Registry
import PluginHost.Text.Utf8

/-!
# The registration interface

While a module is being opened it may register payloads through a registrar.  A call
reaches the host with plain arguments: a number, a name that ends before its first
zero byte or is null, and an address that may be null.  A module that names a kind and
gives a text and a payload is spared what plain arguments cannot carry: an empty name
and a name with a zero byte never reach the host.

Main results:

- Theorem `RegistrarCall.hostCall?_checked_eq_none_iff`: which checked calls stay away
  from the host.
- Theorem `HostCall.registration_of_checked`: a checked call that reaches the host asks for
  exactly the kind, the name and the payload it was given.
-/

namespace PluginHost

/-- The version of the registration interface. -/
def registrarVersion : Nat :=
  1

/-- A registration as the host receives it. -/
structure HostCall where
  number : Nat
  name : Option Bytes
  pointer : Payload.Pointer
deriving DecidableEq, Repr

/-- A registration as a module asks for it. -/
inductive RegistrarCall where
  /-- Register a payload under a text. -/
  | checked (key : Key) (payload : Payload)
  /-- Pass plain arguments on. -/
  | raw (number : Nat) (name : Option Bytes) (pointer : Payload.Pointer)
deriving DecidableEq, Repr

namespace RegistrarCall

/-- What the host reads of a name: the bytes before the first zero byte. -/
def terminated (name : Bytes) : Bytes :=
  name.takeWhile (· ≠ 0)

/-- The call that reaches the host, if one does. -/
def hostCall? : RegistrarCall → Option HostCall
  | checked key payload =>
    let name := Utf8.encode key.name
    if key.name.isEmpty || name.contains 0 then none
    else some ⟨key.kind.number, some name, payload.pointer⟩
  | raw number name pointer => some ⟨number, name.map terminated, pointer⟩

theorem hostCall?_checked_eq_none_iff (key : Key) (payload : Payload) :
    (checked key payload).hostCall? = none ↔
      key.name.isEmpty = true ∨ (Utf8.encode key.name).contains 0 = true := by
  simp only [hostCall?]
  split <;> simp_all

end RegistrarCall

namespace HostCall

/-- The registration that plain arguments ask for, if they are all in order. -/
def registration (call : HostCall) : Except LoadError (Key × Payload) :=
  match Kind.ofNumber? call.number with
  | none => .error (.invalidArgument (.unknownKind call.number))
  | some kind =>
    match call.name with
    | none => .error (.invalidArgument .nullName)
    | some bytes =>
      match Utf8.decode? bytes with
      | none => .error (.invalidArgument .undecodableName)
      | some name =>
        match Payload.ofPointer? call.pointer with
        | none => .error (.invalidArgument (.nullPayload kind name))
        | some payload => .ok (⟨kind, name⟩, payload)

theorem registration_of_checked {key : Key} {payload : Payload} {call : HostCall}
    (h : (RegistrarCall.checked key payload).hostCall? = some call) :
    call.registration = .ok (key, payload) := by
  simp only [RegistrarCall.hostCall?] at h
  split at h
  · simp at h
  · simp only [Option.some.injEq] at h
    subst h
    simp [registration]

end HostCall

/-! ## A host that only listens -/

/-- The answers and the calls received by a host that gives the next of some prepared
answers to each call, and accepts once they are used up. -/
def listen : List RegistrarCall → List Bool → List Bool × List HostCall
  | [], _ => ([], [])
  | call :: calls, answers =>
    match call.hostCall? with
    | none =>
      let (results, received) := listen calls answers
      (false :: results, received)
    | some hostCall =>
      let (results, received) := listen calls answers.tail
      (answers.headD true :: results, hostCall :: received)

/-- A module with two names for one payload, a word of its own. -/
def echoCalls : List RegistrarCall :=
  ["echo", "echo_alias"].map fun name => .checked ⟨.filter, name⟩ (.word 0x5EC00001)

end PluginHost
