/-! # Reading UTF-8

`decode` takes bytes to the text that they encode. When they encode none, it says where the first
fault is: bytes that start no character, or a character that the end of the bytes cuts off.
-/

namespace LintRepair.Text.Utf8

/-- Why bytes are no text. `start` is the length of the longest part at the beginning that is. -/
inductive DecodeFault where
  | invalid (length start : Nat)
  | incomplete (start : Nat)
  deriving DecidableEq, Repr

/-- What stands at the beginning of bytes: a character, bytes that start one and cannot go on, or
    the beginning of one. -/
inductive Chunk where
  | complete (length : Nat)
  | broken (length : Nat)
  | cut
  deriving DecidableEq, Repr

/-- The number of bytes that follow the first byte of a character, and the bounds of the first of
    these. The bounds rule out longer forms of smaller code points, surrogates, and code points that
    are too large. -/
def lead? (b : UInt8) : Option (Nat × UInt8 × UInt8) :=
  if b < 0xC2 then none
  else if b < 0xE0 then some (1, 0x80, 0xBF)
  else if b = 0xE0 then some (2, 0xA0, 0xBF)
  else if b = 0xED then some (2, 0x80, 0x9F)
  else if b < 0xF0 then some (2, 0x80, 0xBF)
  else if b = 0xF0 then some (3, 0x90, 0xBF)
  else if b < 0xF4 then some (3, 0x80, 0xBF)
  else if b = 0xF4 then some (3, 0x80, 0x8F)
  else none

/-- Reads the bytes that are still owed after so many, the next of them within bounds. -/
def tail (seen : Nat) : Nat → UInt8 → UInt8 → List UInt8 → Chunk
  | 0, _, _, _ => .complete seen
  | _ + 1, _, _, [] => .cut
  | owed + 1, lo, hi, b :: rest =>
    if lo ≤ b && b ≤ hi then tail (seen + 1) owed 0x80 0xBF rest else .broken seen

/-- What stands at the beginning of bytes, of which there is at least one. -/
def chunk (b : UInt8) (rest : List UInt8) : Chunk :=
  if b < 0x80 then .complete 1
  else match lead? b with
    | none => .broken 1
    | some (owed, lo, hi) => tail 1 owed lo hi rest

/-- The first fault from an index on, after so many bytes of the character at hand. -/
def faultFrom (index : Nat) : Nat → List UInt8 → Option DecodeFault
  | _, [] => none
  | skip + 1, _ :: rest => faultFrom (index + 1) skip rest
  | 0, b :: rest =>
    match chunk b rest with
    | .complete length => faultFrom (index + 1) (length - 1) rest
    | .broken length => some (.invalid length index)
    | .cut => some (.incomplete index)

/-- The first fault of bytes. -/
def fault? (bytes : ByteArray) : Option DecodeFault := faultFrom 0 0 bytes.toList

/-- The text that bytes encode. -/
def decode (bytes : ByteArray) : Except DecodeFault String :=
  match String.fromUTF8? bytes with
  | some text => .ok text
  | none => .error ((fault? bytes).getD (.invalid 1 0))

/-- The wording of a fault. -/
def DecodeFault.message : DecodeFault → String
  | .invalid length start =>
    "invalid utf-8 sequence of " ++ toString length ++ " bytes from index " ++ toString start
  | .incomplete start => "incomplete utf-8 byte sequence from index " ++ toString start

end LintRepair.Text.Utf8
