import AutoProxy.Text.Basic

/-! Values of JSON, and the value that a text of JSON stands for. -/
namespace AutoProxy.Json

/-- A number is its digits without the point and a power of ten. Members of an object stay in the
order and the number in which they are written. -/
inductive Value where
  | null
  | boolean (b : Bool)
  | number (digits power : Int)
  | string (t : Text)
  | array (items : List Value)
  | object (members : List (Text × Value))

def isSpace (c : Char) : Bool := c = ' ' || c = '\t' || c = '\n' || c = '\r'

def skip (t : Text) : Text := t.dropWhile isSpace

/-- The character behind a backslash and what the two stand for, numbers apart. -/
def shortEscapes : List (Char × Char) :=
  [('"', '"'), ('\\', '\\'), ('/', '/'), ('b', '\x08'), ('f', '\x0C'), ('n', '\n'), ('r', '\r'),
    ('t', '\t')]

def hexDigit? (c : Char) : Option Nat :=
  if c.isDigit then some (c.toNat - 0x30)
  else if 'a' ≤ c ∧ c ≤ 'f' then some (c.toNat - 0x57)
  else if 'A' ≤ c ∧ c ≤ 'F' then some (c.toNat - 0x37)
  else none

def hexNumber? (t : Text) : Option Nat :=
  t.foldl (fun n c => n.bind fun n => (hexDigit? c).map (16 * n + ·)) (some 0)

/-- The numbers of the characters up to the closing mark, and what follows it. -/
def codes? : Text → Option (List Nat × Text)
  | [] => none
  | '"' :: t => some ([], t)
  | '\\' :: 'u' :: a :: b :: c :: d :: t => do
    let n ← hexNumber? [a, b, c, d]
    let (ns, rest) ← codes? t
    return (n :: ns, rest)
  | '\\' :: c :: t => do
    let d ← shortEscapes.lookup c
    let (ns, rest) ← codes? t
    return (d.toNat :: ns, rest)
  | c :: t =>
    if c.toNat < 0x20 then none else (codes? t).map fun (ns, rest) => (c.toNat :: ns, rest)

/-- Two halves of a pair make one character; a half alone makes none. -/
def characters? : List Nat → Option Text
  | [] => some []
  | n :: ns =>
    if n.isValidChar then (characters? ns).map (Char.ofNat n :: ·)
    else
      match ns with
      | m :: ns =>
        if n < 0xDC00 ∧ 0xDC00 ≤ m ∧ m < 0xE000 then
          (characters? ns).map (Char.ofNat (0x10000 + (n - 0xD800) * 0x400 + (m - 0xDC00)) :: ·)
        else none
      | [] => none

/-- A string behind its opening mark. -/
def string? (t : Text) : Option (Text × Text) := do
  let (ns, rest) ← codes? t
  let s ← characters? ns
  return (s, rest)

def digitsValue (t : Text) : Int := t.foldl (fun n c => 10 * n + (c.toNat - 0x30 : Nat)) 0

/-- One digit or more. -/
def digits? (t : Text) : Option (Text × Text) :=
  match t.takeWhile Char.isDigit with
  | [] => none
  | ds => some (ds, t.dropWhile Char.isDigit)

def fraction? : Text → Option (Text × Text)
  | '.' :: t => digits? t
  | t => some ([], t)

def power? : Text → Option (Int × Text)
  | c :: t =>
    if c = 'e' ∨ c = 'E' then
      match t with
      | '-' :: t => (digits? t).map fun (ds, t) => (-digitsValue ds, t)
      | '+' :: t => (digits? t).map fun (ds, t) => (digitsValue ds, t)
      | t => (digits? t).map fun (ds, t) => (digitsValue ds, t)
    else some (0, c :: t)
  | [] => some (0, [])

/-- Only a zero alone starts with a zero. -/
def unsigned? (t : Text) : Option (Int × Int × Text) := do
  let (whole, t) ← digits? t
  if whole.length ≠ 1 ∧ whole.head? = some '0' then none
  let (fraction, t) ← fraction? t
  let (power, t) ← power? t
  return (digitsValue (whole ++ fraction), power - fraction.length, t)

def number? : Text → Option (Value × Text)
  | '-' :: t => (unsigned? t).map fun (digits, power, t) => (.number (-digits) power, t)
  | t => (unsigned? t).map fun (digits, power, t) => (.number digits power, t)

def words : List (Text × Value) :=
  [("null".toList, .null), ("true".toList, .boolean true), ("false".toList, .boolean false)]

def word? (t : Text) : Option (Value × Text) :=
  words.findSome? fun (word, v) => (Text.after? word t).map (v, ·)

section Items

variable {α : Type} (item : Text → Option (α × Text)) (close : Char)

/-- Items with commas between them, up to the closing bracket. -/
def items? : Nat → Text → Option (List α × Text)
  | 0, _ => none
  | n + 1, t =>
    match item t with
    | none => none
    | some (x, t) =>
      match skip t with
      | [] => none
      | c :: t =>
        if c = ',' then (items? n t).map fun (xs, rest) => (x :: xs, rest)
        else if c = close then some ([x], t)
        else none

/-- Items behind the opening bracket, or none. -/
def bracketed? (n : Nat) (t : Text) : Option (List α × Text) :=
  if (skip t).head? = some close then some ([], (skip t).tail) else items? item close n t

end Items

def member? (value : Text → Option (Value × Text)) (t : Text) : Option ((Text × Value) × Text) :=
  match skip t with
  | '"' :: t => do
    let (name, t) ← string? t
    match skip t with
    | ':' :: t => (value t).map fun (v, rest) => ((name, v), rest)
    | _ => none
  | _ => none

/-- A value at the front of a text, and what follows it. Neither the depth of the value nor the
items of one of its brackets number more than `n`. -/
def value? : Nat → Text → Option (Value × Text)
  | 0, _ => none
  | n + 1, t =>
    match skip t with
    | '"' :: t => (string? t).map fun (s, rest) => (.string s, rest)
    | '[' :: t => (bracketed? (value? n) ']' n t).map fun (vs, rest) => (.array vs, rest)
    | '{' :: t => (bracketed? (member? (value? n)) '}' n t).map fun (ms, rest) => (.object ms, rest)
    | t => (number? t).or (word? t)

/-- The value of a whole text, which has fewer brackets and commas than characters. -/
def read (t : Text) : Option Value :=
  match value? (t.length + 1) t with
  | some (v, rest) => if (skip rest).isEmpty then some v else none
  | none => none

end AutoProxy.Json
