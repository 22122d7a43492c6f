import AutoProxy.Text.Basic

/-! Labels beyond ASCII, written with ASCII letters. -/
namespace AutoProxy.Punycode

def digit (n : Nat) : Char := Char.ofNat (if n < 26 then 97 + n else 22 + n)

def digitValue? (c : Char) : Option Nat :=
  if 'a' ≤ c && c ≤ 'z' then some (c.toNat - 97)
  else if '0' ≤ c && c ≤ '9' then some (c.toNat - 22)
  else none

def threshold (k bias : Nat) : Nat :=
  if k ≤ bias + 1 then 1 else if bias + 26 ≤ k then 26 else k - bias

/-- A number in digits of growing weight, the last one below its threshold. -/
def number (bias : Nat) : Nat → Nat → Nat → Text
  | 0, _, _ => []
  | fuel + 1, k, q =>
    let t := threshold k bias
    if q < t then [digit q]
    else digit (t + (q - t) % (36 - t)) :: number bias fuel (k + 36) ((q - t) / (36 - t))

/-- The number at the front, and what follows it. -/
def readNumber (bias : Nat) : Nat → Nat → Nat → Text → Option (Nat × Text)
  | _, _, _, [] => none
  | k, weight, sum, c :: rest =>
    match digitValue? c with
    | none => none
    | some d =>
      let t := threshold k bias
      if d < t then some (sum + d * weight, rest)
      else readNumber bias (k + 36) (weight * (36 - t)) (sum + d * weight) rest

def shrink : Nat → Nat → Nat → Nat × Nat
  | 0, k, delta => (k, delta)
  | fuel + 1, k, delta => if 455 < delta then shrink fuel (k + 36) (delta / 35) else (k, delta)

def adapt (delta points : Nat) (first : Bool) : Nat :=
  let delta := if first then delta / 700 else delta / 2
  let (k, delta) := shrink delta 0 (delta + delta / points)
  k + 36 * delta / (delta + 38)

structure State where
  delta : Nat
  bias : Nat
  handled : Nat
  first : Bool
  out : Text

/-- All places where the code point `n` stands, from the front. -/
def place (n : Nat) (s : State) (c : Char) : State :=
  if c.toNat < n then { s with delta := s.delta + 1 }
  else if c.toNat = n then
    { delta := 0, bias := adapt s.delta (s.handled + 1) s.first, handled := s.handled + 1,
      first := false, out := s.out ++ number s.bias (s.delta + 1) 36 s.delta }
  else s

/-- The code points from `n` up, each with the distance to its turn. -/
def encodeFrom (label : Text) : Nat → Nat → State → State
  | 0, _, s => s
  | fuel + 1, n, s =>
    match (label.map Char.toNat).filter (n ≤ ·) with
    | [] => s
    | p :: ps =>
      let m := ps.foldl min p
      let s := { s with delta := s.delta + (m - n) * (s.handled + 1) }
      let s := label.foldl (place m) s
      encodeFrom label fuel (m + 1) { s with delta := s.delta + 1 }

def encode (label : Text) : Text :=
  let basic := label.filter (·.toNat < 0x80)
  let start := if basic.isEmpty then [] else basic ++ ['-']
  (encodeFrom label label.length 0x80 ⟨0, 72, basic.length, true, start⟩).out

/-- The number of the last character put in, the place for the next one, and what there is. -/
structure Progress where
  code : Nat
  position : Nat
  bias : Nat
  first : Bool
  out : List Nat

def maxCode : Nat := 0x10FFFF

/-- Each number says how far on the next character is put in. Its steps pass all places of one
character before those of the next. -/
def decodeFrom : Nat → Progress → Text → Option (List Nat)
  | _, s, [] => some s.out
  | 0, _, _ :: _ => none
  | fuel + 1, s, t =>
    match readNumber s.bias 36 1 0 t with
    | none => none
    | some (delta, rest) =>
      let count := s.out.length + 1
      let code := s.code + (s.position + delta) / count
      let position := (s.position + delta) % count
      if maxCode < code then none
      else
        let out := s.out.take position ++ code :: s.out.drop position
        decodeFrom fuel ⟨code, position + 1, adapt delta count s.first, false, out⟩ rest

/-- What an encoded label in lower case stands for. It may hold numbers that are no characters. -/
def decode? (t : Text) : Option (List Nat) :=
  let numbers := (t.reverse.takeWhile (· ≠ '-')).reverse
  let basic := (t.take (t.length - numbers.length)).dropLast
  decodeFrom numbers.length ⟨0x80, 0, 72, true, basic.map Char.toNat⟩ numbers

end AutoProxy.Punycode
