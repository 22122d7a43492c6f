import AutoProxy.Text.Basic

/-! Blank characters and trimming. -/
namespace AutoProxy.Text

/-- The white space of Unicode, with the four information separators. -/
def isBlank (c : Char) : Bool :=
  let n := c.toNat
  (0x09 ≤ n && n ≤ 0x0D) || (0x1C ≤ n && n ≤ 0x20) || n == 0x85 || n == 0xA0 || n == 0x1680
    || (0x2000 ≤ n && n ≤ 0x200A) || n == 0x2028 || n == 0x2029 || n == 0x202F || n == 0x205F
    || n == 0x3000

def trimStart (t : Text) : Text := t.dropWhile isBlank

def trimEnd (t : Text) : Text := (t.reverse.dropWhile isBlank).reverse

def trim (t : Text) : Text := trimEnd (trimStart t)

/-- Blank characters only, or none at all. -/
def isAllBlank (t : Text) : Bool := t.all isBlank

theorem trimStart_eq_nil_iff {t : Text} : trimStart t = [] ↔ isAllBlank t = true := by
  induction t with
  | nil => simp [trimStart, isAllBlank]
  | cons c t ih =>
    by_cases h : isBlank c <;> simp_all [trimStart, isAllBlank]

end AutoProxy.Text
