import AutoProxy.Text.Basic

/-! Internet addresses: the short ones of four numbers and the form of the long ones. -/
namespace AutoProxy

structure Address where
  a : Nat
  b : Nat
  c : Nat
  d : Nat
  deriving DecidableEq

namespace Address

/-- A number up to 255 in one to three digits, without a leading zero. -/
def part? (t : Text) : Option Nat :=
  let n := t.foldl (fun n c => 10 * n + (c.toNat - 48)) 0
  if t.isEmpty || 3 < t.length || !t.all Char.isDigit then none
  else if t.head? = some '0' && t.length ≠ 1 then none
  else if 255 < n then none
  else some n

def ofText? (t : Text) : Option Address :=
  match Text.split (· = '.') t with
  | [a, b, c, d] =>
    match part? a, part? b, part? c, part? d with
    | some a, some b, some c, some d => some ⟨a, b, c, d⟩
    | _, _, _, _ => none
  | _ => none

/-- The loopback net and the three private ones. -/
def isLocal (x : Address) : Bool :=
  x.a = 127 || x.a = 10 || (x.a = 172 && 16 ≤ x.b && x.b ≤ 31) || (x.a = 192 && x.b = 168)

def isHexDigit (c : Char) : Bool := c.isDigit || ('a' ≤ c && c ≤ 'f') || ('A' ≤ c && c ≤ 'F')

def isHextet (t : Text) : Bool := !t.isEmpty && t.length ≤ 4 && t.all isHexDigit

/-- How many groups of sixteen bits the parts stand for; the last part may be an address of four
numbers. -/
def groups? (parts : List Text) : Option Nat :=
  match parts.reverse with
  | [] => some 0
  | last :: front =>
    if !front.all isHextet then none
    else if isHextet last then some parts.length
    else if (ofText? last).isSome then some (parts.length + 1)
    else none

/-- Cuts the parts at the first empty one. -/
def cutAtEmpty (parts : List Text) : Option (List Text × List Text) :=
  match parts.dropWhile (!·.isEmpty) with
  | [] => none
  | _ :: after => some (parts.takeWhile (!·.isEmpty), after)

/-- Eight groups between colons, or fewer with one gap of two colons. -/
def isLong (t : Text) : Bool :=
  let parts := Text.split (· = ':') t
  match cutAtEmpty parts with
  | none => groups? parts = some 8
  | some (before, after) =>
    let gap? := match before, after with
      | [], [] :: after => some ([], after)
      | [], _ => none
      | _, [] => none
      | before, after => some (before, after)
    match gap? with
    | none => false
    | some (before, after) =>
      3 ≤ parts.length && before.all isHextet
        && match groups? (if after = [[]] then [] else after) with
          | some n => before.length + n < 8
          | none => false

/-- A zone may follow a percent sign. -/
def isLongScoped (t : Text) : Bool :=
  match Text.split (· = '%') t with
  | [a] => isLong a
  | [a, zone] => isLong a && !zone.isEmpty
  | _ => false

end Address

end AutoProxy
