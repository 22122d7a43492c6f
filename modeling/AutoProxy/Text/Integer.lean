import AutoProxy.Text.Blank
import AutoProxy.Text.Digit
import AutoProxy.Text.Quoted

/-! Integer literals: a sign, then decimal digits of any script with single underscores between. -/
namespace AutoProxy.Integer

inductive Fault where
  | malformed (text : Text)
  | tooLong (digits : Nat)
  deriving DecidableEq

def maxDigits : Nat := 4300

/-- Blanks may stand around a literal, the four information separators may not. -/
def isMargin (c : Char) : Bool := Text.isBlank c && !(0x1C ≤ c.toNat && c.toNat ≤ 0x1F)

/-- The digits at the front and the text behind them. An underscore must stand between two digits:
`none` if one does not. -/
def digits? (needDigit : Bool) : Text → Option (List Nat × Text)
  | [] => if needDigit then none else some ([], [])
  | c :: t =>
    match Text.digitValue? c with
    | some d => (digits? false t).map fun (ds, rest) => (d :: ds, rest)
    | none =>
      if needDigit then none
      else if c = '_' then digits? true t
      else some ([], c :: t)

def ofDigits (ds : List Nat) : Nat := ds.foldl (fun n d => 10 * n + d) 0

/-- Whether there is a minus in front, and the text behind the sign. -/
def signed : Text → Bool × Text
  | '-' :: t => (true, t)
  | '+' :: t => (false, t)
  | t => (false, t)

/-- The number in a literal behind its sign, where `given` is the whole text. The length is looked
at before what follows the digits. -/
def unsigned (given body : Text) : Except Fault Nat :=
  match digits? true body with
  | none => .error (.malformed given)
  | some (ds, rest) =>
    if maxDigits < ds.length then .error (.tooLong ds.length)
    else if rest.all isMargin then .ok (ofDigits ds)
    else .error (.malformed given)

def ofText (text : Text) : Except Fault Int :=
  let (negative, body) := signed (text.dropWhile isMargin)
  match unsigned text body with
  | .ok n => .ok (if negative then -(n : Int) else n)
  | .error e => .error e

/-- A long text is shown by its first two hundred characters. -/
def Fault.message : Fault → Text
  | .malformed text =>
    "invalid literal for int() with base 10: ".toList ++ (Text.quote text).take 200
  | .tooLong digits =>
    "Exceeds the limit (4300 digits) for integer string conversion: value has ".toList
      ++ Text.ofNat digits
      ++ " digits; use sys.set_int_max_str_digits() to increase the limit".toList

end AutoProxy.Integer
