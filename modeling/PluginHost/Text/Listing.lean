import PluginHost.Text.Picture
import PluginHost.Text.Utf8

/-!
# Byte strings in developer listings

In a listing a byte string stands in double quotes.  A character that would be hard
to read there is escaped, and each byte of a stray run is written in hexadecimal.
-/

namespace PluginHost

namespace Listing

/-- A number in hexadecimal, with digits from the given alphabet. -/
def hexadecimal (n : Nat) : List Char :=
  Nat.toDigits 16 n

/-- The two hexadecimal digits of a byte, in upper case. -/
def byteDigits (b : UInt8) : List Char :=
  let digit (n : Nat) : Char := if n < 10 then Char.ofNat (48 + n) else Char.ofNat (55 + n)
  [digit (b.toNat / 16), digit (b.toNat % 16)]

/-- A character as it is written in a listing. -/
def escape (c : Char) : List Char :=
  match c with
  | '\x00' => ['\\', '0']
  | '\t' => ['\\', 't']
  | '\r' => ['\\', 'r']
  | '\n' => ['\\', 'n']
  | '\'' => ['\\', '\'']
  | '"' => ['\\', '"']
  | '\\' => ['\\', '\\']
  | c =>
    if Picture.isPictured c then [c]
    else '\\' :: 'u' :: '\x7b' :: hexadecimal c.toNat ++ ['\x7d']

/-- A piece of a byte string as it is written in a listing. -/
def ofPiece : Utf8.Piece → List Char
  | .scalar value => escape value
  | .stray run => run.flatMap fun b => '\\' :: 'x' :: byteDigits b

/-- A byte string as it is written in a listing. -/
def quoted (bytes : Bytes) : String :=
  String.ofList ('"' :: (Utf8.pieces bytes).flatMap ofPiece ++ ['"'])

end Listing

end PluginHost
