import AutoProxy.Text.Basic
import Mathlib

/-! Facts about ASCII characters, shown number by number. -/
namespace AutoProxy.Text

variable {c : Char}

/-- What holds of each ASCII character by its number holds of all. -/
theorem forall_ascii {P : Char → Prop} (h : ∀ n < 0x80, P (Char.ofNat n)) (hc : c.toNat < 0x80) :
    P c := by
  have hn := h c.toNat hc
  rwa [Char.ofNat_toNat] at hn

theorem toNat_lt_of_isAlphanum (h : c.isAlphanum = true) : c.toNat < 0x80 := by
  simp only [Char.isAlphanum, Char.isAlpha, Char.isUpper, Char.isLower, Char.isDigit,
    Bool.or_eq_true, Bool.and_eq_true, decide_eq_true_eq, ge_iff_le, UInt32.le_iff_toNat_le] at h
  have hval : c.val.toNat = c.toNat := rfl
  have hZ : 'Z'.val.toNat = 90 := rfl
  have hz : 'z'.val.toNat = 122 := rfl
  have h9 : '9'.val.toNat = 57 := rfl
  omega

/-- What no capital letter tells by its case no character does. -/
theorem toLower_congr {α : Type} {f : Char → α}
    (h : ∀ k < 26, f (Char.ofNat (0x41 + k)).toLower = f (Char.ofNat (0x41 + k))) (c : Char) :
    f c.toLower = f c := by
  by_cases hc : c.isUpper
  · simp only [Char.isUpper, ge_iff_le, decide_eq_true_eq] at hc
    have hfirst : 0x41 ≤ c.toNat := hc.1
    have hlast : c.toNat ≤ 0x5A := hc.2
    have hk := h (c.toNat - 0x41) (by omega)
    rwa [Nat.add_sub_cancel' hfirst, Char.ofNat_toNat] at hk
  · rw [Char.toLower_eq_of_not_isUpper hc]

end AutoProxy.Text
