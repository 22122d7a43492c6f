import AutoProxy.Text.Basic

/-! Text as bytes: the UTF-8 encoding, its strict reading and its forgiving one. -/
namespace AutoProxy

abbrev Bytes := List UInt8

namespace Utf8

/-- The continuation byte of the six bits that start at `shift`. -/
def continuation (n shift : Nat) : UInt8 := UInt8.ofNat (0x80 + n >>> shift % 64)

def encodeChar (c : Char) : Bytes :=
  let n := c.toNat
  if n < 0x80 then [UInt8.ofNat n]
  else if n < 0x800 then [UInt8.ofNat (0xC0 + n >>> 6), continuation n 0]
  else if n < 0x10000 then
    [UInt8.ofNat (0xE0 + n >>> 12), continuation n 6, continuation n 0]
  else
    [UInt8.ofNat (0xF0 + n >>> 18), continuation n 12, continuation n 6, continuation n 0]

def encode (t : Text) : Bytes := t.flatMap encodeChar

inductive Reason where
  | startByte
  | continuationByte
  | endOfData
  deriving DecidableEq

/-- A character, or a maximal ill-formed part with its first byte and its length. -/
inductive Piece where
  | char (c : Char)
  | illFormed (first : UInt8) (length : Nat) (reason : Reason)
  deriving DecidableEq

/-- A sequence under way: its bytes so far, their value, and the bounds of the bytes to come. -/
structure Sequence where
  first : UInt8
  length : Nat
  value : Nat
  bounds : List (Nat × Nat)

/-- What a byte begins; the bounds keep out overlong forms, surrogates and values past the last. -/
def start (b : UInt8) : Piece ⊕ Sequence :=
  let n := b.toNat
  let tail := (0x80, 0xBF)
  if n < 0x80 then .inl (.char (Char.ofNat n))
  else if n < 0xC2 then .inl (.illFormed b 1 .startByte)
  else if n < 0xE0 then .inr ⟨b, 1, n - 0xC0, [tail]⟩
  else if n = 0xE0 then .inr ⟨b, 1, 0, [(0xA0, 0xBF), tail]⟩
  else if n = 0xED then .inr ⟨b, 1, 0xD, [(0x80, 0x9F), tail]⟩
  else if n < 0xF0 then .inr ⟨b, 1, n - 0xE0, [tail, tail]⟩
  else if n = 0xF0 then .inr ⟨b, 1, 0, [(0x90, 0xBF), tail, tail]⟩
  else if n < 0xF4 then .inr ⟨b, 1, n - 0xF0, [tail, tail, tail]⟩
  else if n = 0xF4 then .inr ⟨b, 1, 4, [(0x80, 0x8F), tail, tail]⟩
  else .inl (.illFormed b 1 .startByte)

/-- One more byte, if it is within the bounds. -/
def Sequence.push (s : Sequence) (b : UInt8) : Option (Piece ⊕ Sequence) :=
  match s.bounds with
  | [] => none
  | (low, high) :: bounds =>
    if low ≤ b.toNat && b.toNat ≤ high then
      let value := s.value * 64 + b.toNat % 64
      if bounds.isEmpty then some (.inl (.char (Char.ofNat value)))
      else some (.inr ⟨s.first, s.length + 1, value, bounds⟩)
    else none

def piecesFrom : Option Sequence → Bytes → List Piece
  | none, [] => []
  | some s, [] => [.illFormed s.first s.length .endOfData]
  | none, b :: bytes =>
    match start b with
    | .inl p => p :: piecesFrom none bytes
    | .inr s => piecesFrom (some s) bytes
  | some s, b :: bytes =>
    match s.push b with
    | some (.inl p) => p :: piecesFrom none bytes
    | some (.inr s) => piecesFrom (some s) bytes
    | none =>
      .illFormed s.first s.length .continuationByte ::
        match start b with
        | .inl p => p :: piecesFrom none bytes
        | .inr s => piecesFrom (some s) bytes

def pieces (bytes : Bytes) : List Piece := piecesFrom none bytes

/-- Each ill-formed part reads as one replacement character. -/
def decodeLossy (bytes : Bytes) : Text :=
  (pieces bytes).map fun
    | .char c => c
    | .illFormed .. => '\uFFFD'

/-- The first ill-formed part and where it stands. -/
structure Fault where
  position : Nat
  first : UInt8
  length : Nat
  reason : Reason
  deriving DecidableEq

def decodeFrom (position : Nat) : List Piece → Except Fault Text
  | [] => .ok []
  | .illFormed first length reason :: _ => .error ⟨position, first, length, reason⟩
  | .char c :: ps =>
    match decodeFrom (position + (encodeChar c).length) ps with
    | .ok t => .ok (c :: t)
    | .error e => .error e

def decode (bytes : Bytes) : Except Fault Text := decodeFrom 0 (pieces bytes)

def Reason.message : Reason → String
  | .startByte => "invalid start byte"
  | .continuationByte => "invalid continuation byte"
  | .endOfData => "unexpected end of data"

def Fault.message (e : Fault) : Text :=
  let place :=
    if e.length = 1 then
      "byte 0x".toList ++ Text.hex 2 e.first.toNat ++ " in position ".toList
        ++ Text.ofNat e.position
    else
      "bytes in position ".toList ++ Text.ofNat e.position ++ ['-']
        ++ Text.ofNat (e.position + e.length - 1)
  "'utf-8' codec can't decode ".toList ++ place ++ ": ".toList ++ e.reason.message.toList

end Utf8

end AutoProxy
