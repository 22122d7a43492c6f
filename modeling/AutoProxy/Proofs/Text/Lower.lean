import AutoProxy.Proofs.Text.Ascii
import AutoProxy.Text.Lower
import Mathlib

/-! Lower case is a form that lower case leaves alone. -/
namespace AutoProxy.Text

variable {c d : Char} {t : Text} {q r : LowerRun} {n : Nat}

/-- The first number that a run leads to. -/
def LowerRun.image (r : LowerRun) : Nat := (r.first + r.shift).toNat

/-- No number that `r` leads to is one of `q`: the ranges are apart, or the steps never meet. -/
def LowerRun.isApart (r q : LowerRun) : Bool :=
  Nat.blt q.last r.image || Nat.blt (r.image + (r.last - r.first)) q.first ||
    (q.step == 2 && (r.step == 2 || r.first == r.last) && (r.image + q.first) % 2 == 1)

/-- Where a run leads, no run that is apart from it goes on. -/
theorem not_holds_image (h : r.isApart q = true) (hshift : 0 ≤ r.first + r.shift)
    (hn : r.holds n = true) : q.holds (n + r.shift).toNat = false := by
  simp only [LowerRun.holds, LowerRun.isApart, LowerRun.image, Bool.and_eq_true, Bool.or_eq_true,
    decide_eq_true_eq, beq_iff_eq, Nat.blt_eq] at h hn
  rw [← Bool.not_eq_true]
  intro hq
  simp only [LowerRun.holds, Bool.and_eq_true, decide_eq_true_eq, beq_iff_eq] at hq
  obtain ⟨⟨hfirst, hlast⟩, hstep⟩ := hn
  obtain ⟨⟨hqfirst, hqlast⟩, hqstep⟩ := hq
  rcases h with (h | h) | ⟨⟨h2, h | h⟩, hodd⟩
  · omega
  · omega
  · rw [h] at hstep
    rw [h2] at hqstep
    omega
  · rw [h2] at hqstep
    omega

/-- The runs, and the dotted capital i as a run of its own. -/
def changed : List LowerRun := ⟨0x130, 0x130, 1, 0⟩ :: lowerRuns

/-- No run of the table leads into one that changes anything, the dotted capital i included. -/
theorem lowerRuns_isApart :
    (lowerRuns.all fun r => changed.all r.isApart) = true := by
  decide +kernel

/-- No run leads back to capital letters of ASCII, which have no run of their own. -/
theorem lowerRuns_image :
    (lowerRuns.all fun r => 0 ≤ r.first + r.shift && Nat.blt 0x5A r.image) = true := by
  decide +kernel

/-- A character that is its own lower case wherever it stands. -/
def IsSmall (c : Char) : Prop := lowerChar c = [c] ∧ c ≠ '\u03A3'

instance : Decidable (IsSmall c) := inferInstanceAs (Decidable (_ ∧ _))

/-- Beyond ASCII a character is changed by the runs of the table or not at all. The final sigma is
ruled out as well, for the capital sigma is in a run. -/
theorem isSmall_of_not_changed (h : ∀ q ∈ changed, q.holds c.toNat = false)
    (hc : 0x5A < c.toNat) : IsSmall c := by
  have hupper : ¬ c.isUpper := by
    intro hupper
    have hle : c.toNat ≤ 0x5A := by
      simp only [Char.isUpper, decide_eq_true_eq] at hupper
      exact hupper.2
    omega
  have hnone : lowerRuns.find? (·.holds c.toNat) = none := by
    rw [List.find?_eq_none]
    intro q hq
    simp [h q (List.mem_cons_of_mem _ hq)]
  constructor
  · rw [lowerChar, Char.toLower_eq_of_not_isUpper hupper]
    split
    · rfl
    · split
      · next hdotted =>
        subst hdotted
        exact absurd (h _ List.mem_cons_self) (by decide)
      · rw [hnone]
  · rintro rfl
    have hrun : (lowerRuns.any (·.holds 0x3A3)) = true := by decide +kernel
    obtain ⟨q, hq, hholds⟩ := List.any_eq_true.mp hrun
    exact absurd hholds (by simpa using h q (List.mem_cons_of_mem _ hq))

/-- A number that is no character stands for the first one, which is small too. -/
theorem isSmall_image (hr : r ∈ lowerRuns) (hn : r.holds n = true) :
    IsSmall (Char.ofNat (n + r.shift).toNat) := by
  by_cases hvalid : (n + r.shift).toNat.isValidChar
  · have hapart := List.all_eq_true.mp (List.all_eq_true.mp lowerRuns_isApart r hr)
    have himage := List.all_eq_true.mp lowerRuns_image r hr
    simp only [Bool.and_eq_true, decide_eq_true_eq, Nat.blt_eq, LowerRun.image] at himage
    have hfirst : r.first ≤ n := by
      simp only [LowerRun.holds, Bool.and_eq_true, decide_eq_true_eq] at hn
      exact hn.1.1
    have htoNat : (Char.ofNat (n + r.shift).toNat).toNat = (n + r.shift).toNat := by
      rw [Char.toNat_ofNat, if_pos hvalid]
    apply isSmall_of_not_changed
    · intro q hq
      rw [htoNat]
      exact not_holds_image (hapart q hq) himage.1 hn
    · omega
  · rw [Char.ofNat, dif_neg hvalid]
    decide

/-- One step is enough: ASCII by its table, the dotted capital i by its two characters, all else by
a run or because no run holds it. -/
theorem isSmall_lowerChar (hd : d ∈ lowerChar c) : IsSmall d := by
  rw [lowerChar] at hd
  split at hd
  · next hc =>
    rw [List.mem_singleton] at hd
    subst hd
    exact forall_ascii (P := fun c => IsSmall c.toLower) (by decide +kernel) hc
  · next hc =>
    split at hd
    · simp only [List.mem_cons, List.not_mem_nil, or_false] at hd
      rcases hd with rfl | rfl <;> decide +kernel
    · next hdotted =>
      split at hd
      · next r hr =>
        rw [List.mem_singleton] at hd
        subst hd
        have hholds := List.find?_some hr
        exact isSmall_image (List.mem_of_find?_eq_some hr) hholds
      · next hnone =>
        rw [List.mem_singleton] at hd
        subst hd
        refine isSmall_of_not_changed ?_ (by omega)
        intro q hq
        rcases List.mem_cons.mp hq with rfl | hq
        · have hne : d.toNat ≠ 0x130 := fun he => hdotted (by rw [← Char.ofNat_toNat d, he])
          simp only [LowerRun.holds, Bool.and_eq_false_iff, decide_eq_false_iff_not]
          omega
        · simpa using List.find?_eq_none.mp hnone q hq

/-- This goes for both kinds of small sigma, too. -/
theorem isSmall_of_mem_lowerAfter {before : Text} (hd : d ∈ lowerAfter before t) : IsSmall d := by
  induction t generalizing before with
  | nil => simp [lowerAfter] at hd
  | cons c t ih =>
    rw [lowerAfter, List.mem_append] at hd
    rcases hd with hd | hd
    · split at hd
      · rw [List.mem_singleton] at hd
        subst hd
        decide +kernel
      · exact isSmall_lowerChar hd
    · exact ih hd

/-- Where every character is small, it does not matter what stands before. -/
theorem lowerAfter_of_isSmall (before : Text) (h : ∀ c ∈ t, IsSmall c) :
    lowerAfter before t = t := by
  induction t generalizing before with
  | nil => rfl
  | cons c t ih =>
    obtain ⟨hc, hsigma⟩ := h c List.mem_cons_self
    rw [lowerAfter, ih _ fun d hd => h d (List.mem_cons_of_mem _ hd)]
    simp [hsigma, hc]

theorem lower_lower (t : Text) : lower (lower t) = lower t :=
  lowerAfter_of_isSmall _ fun _ => isSmall_of_mem_lowerAfter

end AutoProxy.Text
