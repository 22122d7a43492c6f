import AutoProxy.Text.Basic
import AutoProxy.Text.CompositionTable
import AutoProxy.Text.MarkTable

/-! Whether letters and their marks are written in as few characters as there are for them. -/
namespace AutoProxy.Text

/-- Numbers of characters, and of what is none. -/
abbrev Codes := List Nat

/-- The place of a mark around the character before it, zero for all that has none. -/
def place (n : Nat) : Nat :=
  ((places.find? fun (first, last, _) => first ≤ n && n ≤ last).map (·.2.2)).getD 0

def firstSyllable : Nat := 0xAC00

def isSyllable (n : Nat) : Bool := firstSyllable ≤ n && n < firstSyllable + 11172

/-- The two characters that one stands for. A syllable of three letters is one of two with a letter
behind it. -/
def apart? (n : Nat) : Option (Nat × Nat) :=
  if isSyllable n then
    let k := n - firstSyllable
    if k % 28 = 0 then some (0x1100 + k / 588, 0x1161 + k / 28 % 21)
    else some (n - k % 28, 0x11A7 + k % 28)
  else compositions.findSome? fun (a, b, c) => if c = n then some (a, b) else none

/-- The one character for two. -/
def together? (a b : Nat) : Option Nat :=
  if 0x1100 ≤ a && a < 0x1113 && 0x1161 ≤ b && b < 0x1176 then
    some (firstSyllable + (21 * (a - 0x1100) + (b - 0x1161)) * 28)
  else if isSyllable a && (a - firstSyllable) % 28 = 0 && 0x11A8 ≤ b && b < 0x11C3 then
    some (a + (b - 0x11A7))
  else compositions.findSome? fun (x, y, c) => if x = a && y = b then some c else none

/-- No character stands for more than a letter and three marks. -/
def maxMarks : Nat := 3

/-- A character taken apart `depth` times. -/
def partsOf : Nat → Nat → Codes
  | 0, n => [n]
  | depth + 1, n =>
    match apart? n with
    | some (a, b) => partsOf depth a ++ [b]
    | none => [n]

/-- A mark goes behind those with a lower place. -/
def insertMark (n : Nat) : Codes → Codes
  | [] => [n]
  | m :: rest => if place m ≠ 0 && place m < place n then m :: insertMark n rest else n :: m :: rest

/-- What is joined already, the character that marks are joined to, and the marks behind it that
were not. The first and the last are in reverse. -/
structure Joining where
  done : Codes
  letter : Nat
  marks : Codes

def Joining.toCodes (j : Joining) : Codes := (j.marks ++ j.letter :: j.done).reverse

/-- A mark is kept from the letter by one between them whose place is not lower. -/
def Joining.push (j : Joining) (n : Nat) : Joining :=
  let near := match j.marks with
    | [] => true
    | m :: _ => place m < place n
  match if near then together? j.letter n else none with
  | some c => { j with letter := c }
  | none =>
    if place n = 0 then ⟨j.marks ++ j.letter :: j.done, n, []⟩
    else { j with marks := n :: j.marks }

def joined : Codes → Codes
  | [] => []
  | n :: rest => (rest.foldl Joining.push ⟨[], n, []⟩).toCodes

/-- All is taken apart, put in order, and joined again: that changes nothing. -/
def isComposed (t : Codes) : Bool :=
  !t.any (holds replaced) && joined ((t.flatMap (partsOf maxMarks)).foldr insertMark []) = t

end AutoProxy.Text
