import AutoProxy.Text.Blank

/-! Messages made fit for one bounded line. -/
namespace AutoProxy.Text

def isControl (c : Char) : Bool := c.toNat < 0x20 || c.toNat = 0x7F

/-- Blanks and controls stand between words. -/
def isSeparator (c : Char) : Bool := isBlank c || isControl c

def words (t : Text) : List Text := (split isSeparator t).filter (!·.isEmpty)

/-- The first `n` characters; a negative `n` counts from the end. -/
def front (n : Int) (t : Text) : Text :=
  if 0 ≤ n then t.take n.toNat else t.take (t.length - n.natAbs)

/-- A text longer than the limit is cut for an ellipsis to fit; the limit zero does not cut. -/
def clip (limit : Int) (t : Text) : Text :=
  if limit = 0 ∨ (t.length : Int) ≤ limit then t
  else trimEnd (front (limit - 1) t) ++ ['\u2026']

/-- The words with one blank between each two, within the limit. -/
def clean (limit : Int) (t : Text) : Text := clip limit (join [' '] (words t))

end AutoProxy.Text
