import AutoProxy.Text.Basic
import AutoProxy.Text.CaseTable

/-! Lower case for the letters of all scripts. -/
namespace AutoProxy.Text

/-- The lower case of a character wherever it stands; only a dotted capital i takes two. -/
def lowerChar (c : Char) : Text :=
  if c.toNat < 0x80 then [c.toLower]
  else if c = '\u0130' then ['i', '\u0307']
  else
    match lowerRuns.find? (·.holds c.toNat) with
    | some r => [Char.ofNat (c.toNat + r.shift).toNat]
    | none => [c]

/-- Whether the next character that counts for letter case is a letter with case. -/
def meetsCased (t : Text) : Bool :=
  match t.dropWhile (holds caseIgnorable ·.toNat) with
  | [] => false
  | c :: _ => holds cased c.toNat

/-- Lower case of `t` behind the reversed text `before`: a sigma that ends a word has a form of its
own. -/
def lowerAfter (before : Text) : Text → Text
  | [] => []
  | c :: t =>
    (if c = '\u03A3' && meetsCased before && !meetsCased t then ['\u03C2'] else lowerChar c)
      ++ lowerAfter (c :: before) t

def lower (t : Text) : Text := lowerAfter [] t

theorem lowerAfter_ascii (before : Text) {t : Text} (h : ∀ c ∈ t, c.toNat < 0x80) :
    lowerAfter before t = t.map Char.toLower := by
  induction t generalizing before with
  | nil => rfl
  | cons c t ih =>
    have hc : c.toNat < 0x80 := h c (by simp)
    have hs : c ≠ '\u03A3' := by
      rintro rfl
      revert hc
      decide
    simp [lowerAfter, lowerChar, hc, hs, ih (c :: before) (fun d hd => h d (by simp [hd]))]

end AutoProxy.Text
