/-! Text as a list of code points, and the searches that the rest of the library needs. -/
namespace AutoProxy

/-- Lengths and positions count code points. -/
abbrev Text := List Char

namespace Text

variable {part t : Text}

/-- Whether a number lies in one of the ranges, their ends included. -/
def holds (ranges : List (Nat × Nat)) (n : Nat) : Bool :=
  ranges.any fun (first, last) => first ≤ n && n ≤ last

/-- A missing text reads as the empty one. -/
def orEmpty (t : Option Text) : Text := t.getD []

/-- What follows `start`, if the text begins with it. -/
def after? : Text → Text → Option Text
  | [], t => some t
  | _ :: _, [] => none
  | a :: start, b :: t => if a = b then after? start t else none

/-- Whether `part` stands somewhere in the text; the empty part stands everywhere. -/
def occursIn (part : Text) : Text → Bool
  | [] => part.isEmpty
  | c :: t => part.isPrefixOf (c :: t) || occursIn part t

/-- The first place where `old` stands gets `new`; the rest of the text is kept. -/
def replaceFirst (old new : Text) : Text → Text
  | [] => if old.isEmpty then new else []
  | c :: t =>
    match after? old (c :: t) with
    | some rest => new ++ rest
    | none => c :: replaceFirst old new t

/-- The parts between the marks, in order: one more than there are marks. -/
def split (isMark : Char → Bool) : Text → List Text
  | [] => [[]]
  | c :: t =>
    match split isMark t with
    | [] => [[c]]
    | p :: ps => if isMark c then [] :: p :: ps else (c :: p) :: ps

/-- The parts with the separator between each two. -/
def join (separator : Text) : List Text → Text
  | [] => []
  | [p] => p
  | p :: ps => p ++ separator ++ join separator ps

/-- What stands before the first `c`, or the whole text. -/
def beforeFirst (c : Char) (t : Text) : Text := t.takeWhile (· ≠ c)

/-- What stands behind the first `c`. -/
def afterFirst? (c : Char) (t : Text) : Option Text :=
  match t.dropWhile (· ≠ c) with
  | [] => none
  | _ :: rest => some rest

/-- A final line feed does not count. -/
def chomp : Text → Text
  | [] => []
  | ['\n'] => []
  | c :: t => c :: chomp t

/-- Decimal digits, without leading zeros. -/
def ofNat (n : Nat) : Text := Nat.toDigits 10 n

def ofInt (n : Int) : Text :=
  if n < 0 then '-' :: ofNat n.natAbs else ofNat n.natAbs

/-- Zeros fill the front up to the width. -/
def padded (width n : Nat) : Text :=
  let digits := ofNat n
  List.replicate (width - digits.length) '0' ++ digits

/-- Lower-case hexadecimal digits, filled with zeros up to the width. -/
def hex (width n : Nat) : Text :=
  let digits := Nat.toDigits 16 n
  List.replicate (width - digits.length) '0' ++ digits

theorem after?_append (start rest : Text) : after? start (start ++ rest) = some rest := by
  induction start with
  | nil => rfl
  | cons c start ih => simp [after?, ih]

theorem eq_append_of_after? {start t rest : Text} (h : after? start t = some rest) :
    t = start ++ rest := by
  fun_induction after? start t with
  | case1 => simpa using h
  | case2 => simp at h
  | case3 _ _ _ ih => simp [ih h]
  | case4 => simp at h

theorem after?_eq_some_iff {start t rest : Text} :
    after? start t = some rest ↔ t = start ++ rest :=
  ⟨eq_append_of_after?, fun h => h ▸ after?_append start rest⟩

theorem occursIn_iff : occursIn part t = true ↔ part <:+: t := by
  induction t with
  | nil => simp [occursIn]
  | cons c t ih => simp [occursIn, ih, List.infix_cons_iff]

theorem split_ne_nil (isMark : Char → Bool) (t : Text) : split isMark t ≠ [] := by
  cases t with
  | nil => simp [split]
  | cons c t => simp only [split]; repeat' split <;> simp

end Text

end AutoProxy
