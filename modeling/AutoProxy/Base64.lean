import AutoProxy.Text.Blank
import AutoProxy.Text.Utf8

/-! Base64 read leniently: what is not in the alphabet is passed over. -/
namespace AutoProxy.Base64

inductive Fault where
  | notAscii
  | oddCharacter (count : Nat)
  | padding
  | notUtf8 (cause : Utf8.Fault)
  deriving DecidableEq

/-- The six bits of a character of the alphabet. -/
def sextet? (c : Char) : Option Nat :=
  if c.isUpper then some (c.toNat - 65)
  else if c.isLower then some (c.toNat - 97 + 26)
  else if c.isDigit then some (c.toNat - 48 + 52)
  else if c = '+' then some 62
  else if c = '/' then some 63
  else none

/-- A place in the text: data characters so far in the group of four and in all, the bits they leave
over, and the pads since the last of them. -/
structure Cursor where
  place : Nat
  count : Nat
  bits : Nat
  pads : Nat

def Cursor.start : Cursor := ⟨0, 0, 0, 0⟩

/-- One data character more, and the byte that it completes. -/
def Cursor.push (k : Cursor) (six : Nat) : Bytes × Cursor :=
  match k.place with
  | 0 => ([], ⟨1, k.count + 1, six, 0⟩)
  | 1 => ([UInt8.ofNat (k.bits * 4 + six / 16)], ⟨2, k.count + 1, six % 16, 0⟩)
  | 2 => ([UInt8.ofNat (k.bits * 16 + six / 4)], ⟨3, k.count + 1, six % 4, 0⟩)
  | _ => ([UInt8.ofNat (k.bits * 64 + six)], ⟨0, k.count + 1, 0, 0⟩)

/-- The first group that pads complete ends the data, whatever follows. -/
def decodeFrom (k : Cursor) : Text → Except Fault Bytes
  | [] =>
    if k.place = 0 then .ok []
    else if k.place = 1 then .error (.oddCharacter k.count)
    else .error .padding
  | c :: t =>
    if c = '=' then
      if k.place < 2 then decodeFrom k t
      else if 4 ≤ k.place + (k.pads + 1) then .ok []
      else decodeFrom { k with pads := k.pads + 1 } t
    else
      match sextet? c with
      | none => decodeFrom k t
      | some six =>
        let (bytes, k) := k.push six
        match decodeFrom k t with
        | .ok rest => .ok (bytes ++ rest)
        | .error e => .error e

def decode (t : Text) : Except Fault Bytes :=
  if t.all (·.toNat < 0x80) then decodeFrom .start t else .error .notAscii

/-- The text whose encoding `t` is, blanks aside. -/
def decodeText (t : Text) : Except Fault Text :=
  match decode (t.filter (!Text.isBlank ·)) with
  | .error e => .error e
  | .ok bytes =>
    match Utf8.decode bytes with
    | .ok text => .ok text
    | .error e => .error (.notUtf8 e)

/-- An encoded list holds the alphabet and blanks alone, a plain one has two bars somewhere. -/
def looksEncoded (t : Text) : Bool :=
  !Text.isAllBlank t && t.all (fun c => (sextet? c).isSome || c = '=' || Text.isBlank c)

def Fault.message : Fault → Text
  | .notAscii => "string argument should contain only ASCII characters".toList
  | .oddCharacter count =>
    "Invalid base64-encoded string: number of data characters (".toList ++ Text.ofNat count
      ++ ") cannot be 1 more than a multiple of 4".toList
  | .padding => "Incorrect padding".toList
  | .notUtf8 cause => cause.message

end AutoProxy.Base64
