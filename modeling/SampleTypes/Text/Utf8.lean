import SampleTypes.Decimal
import SampleTypes.Text.Quoted

/-!
Bytes as texts: UTF-8 with the place of the first fault, line ends, bytes written in 64 characters, and
texts that are decoded as they are read.

A fault of UTF-8 names the bytes that the broken sequence had used up. The second byte of a sequence
decides whether more of it can follow: over-long forms and surrogates are refused there. Of the 64
characters others are passed over; the text ends at the padding that completes a group. Bytes are read in
chunks, and a chunk is decoded as a whole: a fault in it is placed from its start. A sequence that a chunk
breaks off goes to the next one, and so does a carriage return, since a line feed may follow it.
-/

namespace SampleTypes.Text

inductive Utf8Cause where
  | invalidStart
  | invalidContinuation
  | endOfData
  deriving DecidableEq, Repr

def Utf8Cause.message : Utf8Cause → String
  | .invalidStart => "invalid start byte"
  | .invalidContinuation => "invalid continuation byte"
  | .endOfData => "unexpected end of data"

structure Utf8Fault where
  position : Nat
  bytes : List UInt8
  cause : Utf8Cause
  deriving DecidableEq, Repr

def Utf8Fault.message (f : Utf8Fault) : String :=
  let place := Decimal.natText f.position
  "'utf-8' codec can't decode " ++
    (match f.bytes with
      | [b] => "byte 0x" ++ String.ofList (hexDigits false 2 b.toNat) ++ " in position " ++ place
      | bytes => "bytes in position " ++ place ++ "-" ++
          Decimal.natText (f.position + bytes.length - 1)) ++
    ": " ++ f.cause.message

/-- Least and greatest second byte after a given first byte, and the length of the sequence. -/
def sequenceHead (b : Nat) : Option (Nat × Nat × Nat) :=
  if 0xC2 ≤ b && b ≤ 0xDF then some (2, 0x80, 0xBF)
  else if b = 0xE0 then some (3, 0xA0, 0xBF)
  else if b = 0xED then some (3, 0x80, 0x9F)
  else if 0xE1 ≤ b && b ≤ 0xEF then some (3, 0x80, 0xBF)
  else if b = 0xF0 then some (4, 0x90, 0xBF)
  else if 0xF1 ≤ b && b ≤ 0xF3 then some (4, 0x80, 0xBF)
  else if b = 0xF4 then some (4, 0x80, 0x8F)
  else none

/-- A sequence that has begun: the bytes read so far, how many are owed, what the next may be and
the value collected. -/
structure Pending where
  read : List UInt8
  owed : Nat
  low : Nat
  high : Nat
  value : Nat

def decodeFrom : Nat → Option Pending → List UInt8 → Except Utf8Fault (List Char)
  | _, none, [] => .ok []
  | pos, some p, [] => .error ⟨pos - p.read.length, p.read, .endOfData⟩
  | pos, none, b :: bs =>
    if b.toNat < 0x80 then
      (decodeFrom (pos + 1) none bs).map (Char.ofNat b.toNat :: ·)
    else
      match sequenceHead b.toNat with
      | none => .error ⟨pos, [b], .invalidStart⟩
      | some (len, low, high) =>
        let bits := if len = 2 then b.toNat % 32 else if len = 3 then b.toNat % 16 else b.toNat % 8
        decodeFrom (pos + 1) (some ⟨[b], len - 1, low, high, bits⟩) bs
  | pos, some p, b :: bs =>
    if p.low ≤ b.toNat && b.toNat ≤ p.high then
      let value := p.value * 64 + b.toNat % 64
      if p.owed = 1 then
        (decodeFrom (pos + 1) none bs).map (Char.ofNat value :: ·)
      else
        decodeFrom (pos + 1) (some ⟨p.read ++ [b], p.owed - 1, 0x80, 0xBF, value⟩) bs
    else
      .error ⟨pos - p.read.length, p.read, .invalidContinuation⟩

def decodeUtf8 (bytes : List UInt8) : Except Utf8Fault (List Char) :=
  decodeFrom 0 none bytes

def encodeChar (c : Char) : List UInt8 :=
  let n := c.toNat
  if n < 0x80 then [n.toUInt8]
  else if n < 0x800 then [(0xC0 + n / 64).toUInt8, (0x80 + n % 64).toUInt8]
  else if n < 0x10000 then
    [(0xE0 + n / 4096).toUInt8, (0x80 + n / 64 % 64).toUInt8, (0x80 + n % 64).toUInt8]
  else
    [(0xF0 + n / 262144).toUInt8, (0x80 + n / 4096 % 64).toUInt8, (0x80 + n / 64 % 64).toUInt8,
      (0x80 + n % 64).toUInt8]

def encodeUtf8 (cs : List Char) : List UInt8 :=
  cs.flatMap encodeChar

/-- Every carriage return, with the line feed after it if there is one, becomes a line feed. -/
def normalizeLines : List Char → List Char
  | [] => []
  | '\r' :: '\n' :: cs => '\n' :: normalizeLines cs
  | '\r' :: cs => '\n' :: normalizeLines cs
  | c :: cs => c :: normalizeLines cs

def sextet? (c : Char) : Option Nat :=
  if 'A' ≤ c && c ≤ 'Z' then some (c.toNat - 0x41)
  else if 'a' ≤ c && c ≤ 'z' then some (c.toNat - 0x61 + 26)
  else if '0' ≤ c && c ≤ '9' then some (c.toNat - 0x30 + 52)
  else if c = '+' then some 62
  else if c = '/' then some 63
  else none

/-- The byte that a further character completes, given how many of its group have been read and the
bits left over from them. -/
def completed (place left value : Nat) : List UInt8 :=
  if place = 0 then []
  else if place = 1 then [(left * 4 + value / 16).toUInt8]
  else if place = 2 then [(left % 16 * 16 + value / 4).toUInt8]
  else [(left % 4 * 64 + value).toUInt8]

/-- The bytes of a text, given how many characters of a group have been read, the value of the last of
them and the number of paddings since. -/
def decodeGroups : Nat → Nat → Nat → List Char → Option (List UInt8)
  | place, _, _, [] => if place = 0 then some [] else none
  | place, left, pads, c :: cs =>
    if c = '=' then
      if 2 ≤ place && 4 ≤ place + (pads + 1) then some []
      else decodeGroups place left (if 2 ≤ place then pads + 1 else pads) cs
    else
      match sextet? c with
      | none => decodeGroups place left pads cs
      | some value =>
        (decodeGroups ((place + 1) % 4) value 0 cs).map (completed place left value ++ ·)

def decodeBase64? (cs : List Char) : Option (List UInt8) :=
  decodeGroups 0 0 0 cs

def beginsSurrogate : List UInt8 → Bool
  | [a, b] => a = 0xED && 0xA0 ≤ b && b ≤ 0xBF
  | _ => false

/-- The characters of bytes that may end inside a sequence, and what there is of that sequence. A
surrogate is refused only when it is there as a whole. -/
def decodeStart (bytes : List UInt8) : Except Utf8Fault (List Char × List UInt8) :=
  match decodeUtf8 bytes with
  | .ok cs => .ok (cs, [])
  | .error f =>
    let left := bytes.drop f.position
    if f.cause = .endOfData || beginsSurrogate left then
      (decodeUtf8 (bytes.take f.position)).map (·, left)
    else .error f

/-- Bytes that are being read, with the characters that have been decoded but not asked for. -/
structure Stream where
  bytes : List UInt8
  decoded : List Char := []
  broken : List UInt8 := []
  heldReturn : Bool := false
  lastSize : Nat × Nat := (0, 0)

namespace Stream

def chunkSize : Nat := 8192

/-- The number of bytes that so many characters take if they are like those of the last chunk; a
character is taken for no less than a byte. -/
def expectedSize (s : Stream) (count : Nat) : Nat :=
  let (bytes, chars) := s.lastSize
  max count (count * bytes / chars)

def isSpent (s : Stream) : Bool :=
  s.bytes.isEmpty && s.broken.isEmpty && !s.heldReturn

/-- A character that was held back is put in front, and a carriage return at the end is held back
while more may follow. -/
def settleReturn (held final : Bool) (cs : List Char) : List Char × Bool :=
  let cs := if held && (final || !cs.isEmpty) then '\r' :: cs else cs
  if !final && cs.getLast? = some '\r' then (cs.dropLast, true)
  else (cs, held && !final && cs.isEmpty)

def decodeChunk (wanted : Nat) (s : Stream) : Except Utf8Fault Stream := do
  let (chunk, rest) := s.bytes.splitAt (max chunkSize (s.expectedSize wanted))
  let final := chunk.isEmpty
  let (cs, broken) ←
    if final then (decodeUtf8 s.broken).map (·, []) else decodeStart (s.broken ++ chunk)
  let (cs, held) := settleReturn s.heldReturn final cs
  let cs := normalizeLines cs
  return ⟨rest, s.decoded ++ cs, broken, held, (chunk.length, cs.length)⟩

/-- Chunks until so many characters are there, or the bytes end. The first argument bounds the
work; a chunk of the usual size gives a character, a shorter one is the last, and one more settles
what was held back. -/
def supply (wanted : Nat) : Nat → Stream → Except Utf8Fault Stream
  | 0, s => .ok s
  | fuel + 1, s =>
    if wanted ≤ s.decoded.length || s.isSpent then .ok s
    else do supply wanted fuel (← s.decodeChunk (wanted - s.decoded.length))

def read (wanted : Nat) (s : Stream) : Except Utf8Fault (List Char × Stream) := do
  let s ← s.supply wanted (wanted + 3)
  let (cs, rest) := s.decoded.splitAt wanted
  return (cs, { s with decoded := rest })

end Stream

end SampleTypes.Text
