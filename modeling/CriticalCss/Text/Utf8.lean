/-!
# UTF-8

Characters as bytes and back.  A decoding failure is described by the place of the first byte that
does not belong to a character, by how many bytes belong to the failed attempt, and by what was
wrong.  Bytes are natural numbers below 256.
-/

namespace CriticalCss.Text

/-- How bytes fail to be a character. -/
inductive Undecodable where
  | unexpectedEnd
  | invalidStart
  | invalidContinuation
  deriving DecidableEq

/-- A description of the failure. -/
def Undecodable.message : Undecodable → String
  | unexpectedEnd => "unexpected end of data"
  | invalidStart => "invalid start byte"
  | invalidContinuation => "invalid continuation byte"

/-- The bytes of a code point. -/
def encodeCode (code : Nat) : List Nat :=
  if code < 0x80 then [code]
  else if code < 0x800 then [0xC0 + code / 0x40, 0x80 + code % 0x40]
  else if code < 0x10000 then
    [0xE0 + code / 0x1000, 0x80 + code / 0x40 % 0x40, 0x80 + code % 0x40]
  else
    [0xF0 + code / 0x40000, 0x80 + code / 0x1000 % 0x40, 0x80 + code / 0x40 % 0x40,
      0x80 + code % 0x40]

/-- The bytes of a text. -/
def encode (text : List Char) : List Nat := text.flatMap fun char => encodeCode char.toNat

/-- How many bytes follow a first byte, and the bits of the code point that the first byte holds. -/
def leadByte? (lead : Nat) : Option (Nat × Nat) :=
  if lead < 0x80 then some (0, lead)
  else if lead < 0xC2 then none
  else if lead < 0xE0 then some (1, lead - 0xC0)
  else if lead < 0xF0 then some (2, lead - 0xE0)
  else if lead < 0xF5 then some (3, lead - 0xF0)
  else none

/-- The range of the second byte, which excludes overlong forms, halves of characters and code
points that are too large. -/
def secondRange (lead : Nat) : Nat × Nat :=
  if lead = 0xE0 then (0xA0, 0xBF)
  else if lead = 0xED then (0x80, 0x9F)
  else if lead = 0xF0 then (0x90, 0xBF)
  else if lead = 0xF4 then (0x80, 0x8F)
  else (0x80, 0xBF)

/-- Bytes that are no character: how many belong to the attempt, and what was wrong. -/
structure BadBytes where
  count : Nat
  how : Undecodable
  deriving DecidableEq

/-- Reads further bytes of a code point, of which `code` holds the bits so far; `taken` bytes have
been read. -/
def decodeRest : (needed low high taken code : Nat) → List Nat → Except BadBytes (Nat × List Nat)
  | 0, _, _, _, code, bytes => .ok (code, bytes)
  | _ + 1, _, _, taken, _, [] => .error ⟨taken, .unexpectedEnd⟩
  | needed + 1, low, high, taken, code, byte :: rest =>
    if low ≤ byte ∧ byte ≤ high then
      decodeRest needed 0x80 0xBF (taken + 1) (code * 0x40 + (byte - 0x80)) rest
    else .error ⟨taken, .invalidContinuation⟩

/-- Reads the code point that begins with a byte. -/
def decodeCode (lead : Nat) (rest : List Nat) : Except BadBytes (Nat × List Nat) :=
  match leadByte? lead with
  | none => .error ⟨1, .invalidStart⟩
  | some (needed, bits) =>
    let (low, high) := secondRange lead
    decodeRest needed low high 1 bits rest

/-- A decoding failure: where, and which bytes. -/
structure DecodeError where
  position : Nat
  bytes : List Nat
  how : Undecodable
  deriving DecidableEq

/-- Reads bytes as text, from a position on. -/
def decodeFrom : (fuel position : Nat) → List Nat → Except DecodeError (List Char)
  | 0, _, _ => .ok []
  | _ + 1, _, [] => .ok []
  | fuel + 1, position, lead :: rest =>
    match decodeCode lead rest with
    | .error bad => .error ⟨position, (lead :: rest).take bad.count, bad.how⟩
    | .ok (code, left) => do
      let chars ← decodeFrom fuel (position + (rest.length + 1 - left.length)) left
      return Char.ofNat code :: chars

/-- Reads bytes as text. -/
def decode (bytes : List Nat) : Except DecodeError (List Char) := decodeFrom bytes.length 0 bytes

/-- Reads bytes as text, with a replacement character for every failure. -/
def decodeLossyFrom : (fuel : Nat) → List Nat → List Char
  | 0, _ => []
  | _ + 1, [] => []
  | fuel + 1, lead :: rest =>
    match decodeCode lead rest with
    | .error bad => '\ufffd' :: decodeLossyFrom fuel ((lead :: rest).drop bad.count)
    | .ok (code, left) => Char.ofNat code :: decodeLossyFrom fuel left

/-- Reads bytes as text, with a replacement character for every failure. -/
def decodeLossy (bytes : List Nat) : List Char := decodeLossyFrom bytes.length bytes

end CriticalCss.Text
