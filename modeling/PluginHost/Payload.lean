/-!
# Payloads

A payload is the non-null address that a module registers under a name.  The host
never looks behind it.  An address is given by its value; of a word that is
statically allocated in a module only the word is known, so such a payload is
described by what it points to.

Main results:

- Theorem `Payload.ofPointer?_pointer`: a payload survives being passed on as a plain address.
-/

namespace PluginHost

/-- A non-null address that a module registers under a name. -/
inductive Payload where
  /-- The payload lies at this address. -/
  | address (value : UInt64) (nonnull : value ≠ 0)
  /-- The payload is a statically allocated word with this value. -/
  | word (value : UInt32)
deriving DecidableEq, Repr

namespace Payload

/-- The payload at an address; the null address is refused. -/
def ofAddress? (value : UInt64) : Option Payload :=
  if h : value = 0 then none else some (address value h)

/-- The address of a payload, where it is known. -/
def address? : Payload → Option UInt64
  | address value _ => some value
  | word _ => none

/-- The word that a payload points to, where it is known. -/
def word? : Payload → Option UInt32
  | address _ _ => none
  | word value => some value

/-- The address of a payload in a developer listing; none where it is not known. -/
def listing? (payload : Payload) : Option String :=
  payload.address?.map fun value =>
    "SubpluginData(0x" ++ String.ofList (Nat.toDigits 16 value.toNat) ++ ")"

/-- A plain address: null, or that of a payload. -/
abbrev Pointer := Option Payload

/-- A payload as a plain address. -/
def pointer (payload : Payload) : Pointer :=
  some payload

/-- The payload at a plain address; null is refused. -/
def ofPointer? (pointer : Pointer) : Option Payload :=
  pointer

@[simp]
theorem ofPointer?_pointer (payload : Payload) : ofPointer? payload.pointer = some payload :=
  rfl

end Payload

end PluginHost
