import AutoProxy.Proofs.Text.Ascii

/-! Decimal numbers: the digits that are written, and that a number has one written form. -/
namespace AutoProxy.Text

variable {c : Char} {t : Text} {m n : Nat}

theorem isDigit_of_mem_ofNat (h : c ∈ ofNat n) : c.isDigit = true :=
  Nat.isDigit_of_mem_toDigits (by decide) (by decide) h

theorem not_mem_ofNat (hc : c.isDigit = false) : c ∉ ofNat n := by
  intro h
  rw [isDigit_of_mem_ofNat h] at hc
  cases hc

theorem ofNat_inj : ofNat m = ofNat n ↔ m = n := by
  refine ⟨fun h => ?_, congrArg ofNat⟩
  have hvalue := congrArg (Nat.ofDigitChars 10 · 0) h
  simpa only [ofNat, Nat.ofDigitChars_toDigits (by decide : 1 < 10) (Nat.le_refl 10)] using hvalue

theorem digitChar_of_isDigit (hc : c.isDigit = true) :
    c.toNat - '0'.toNat < 10 ∧ (c.toNat - '0'.toNat).digitChar = c := by
  have hascii : c.toNat < 0x80 := toNat_lt_of_isAlphanum (by simp [Char.isAlphanum, hc])
  exact forall_ascii (P := fun c => c.isDigit = true →
    c.toNat - '0'.toNat < 10 ∧ (c.toNat - '0'.toNat).digitChar = c) (by decide +kernel) hascii hc

/-- Digits without a leading zero are the written form of their value. -/
theorem ofNat_ofDigitChars (hne : t ≠ []) (hdigits : ∀ c ∈ t, c.isDigit = true)
    (hzero : t.head? = some '0' → t.length = 1) : ofNat (Nat.ofDigitChars 10 t 0) = t := by
  induction t using List.reverseRecOn with
  | nil => exact absurd rfl hne
  | append_singleton t c ih =>
    obtain ⟨hlt, hchar⟩ := digitChar_of_isDigit (hdigits c (by simp))
    have hc : Nat.toDigits 10 (c.toNat - '0'.toNat) = [c] := by
      rw [Nat.toDigits_of_lt_base hlt, hchar]
    rw [Nat.ofDigitChars_append, Nat.ofDigitChars_cons, Nat.ofDigitChars_nil, ofNat]
    rcases eq_or_ne t [] with rfl | ht
    · simpa using hc
    · have hhead : t.head? ≠ some '0' := by
        intro hhead
        have hlength := hzero (by simp [List.head?_append, hhead])
        simp [ht] at hlength
      have hfront := ih ht (fun d hd => hdigits d (List.mem_append_left _ hd))
        fun h => absurd h hhead
      have hpos : 0 < Nat.ofDigitChars 10 t 0 := by
        refine Nat.pos_of_ne_zero fun hvalue => hhead ?_
        rw [← hfront, hvalue]
        rfl
      rw [← Nat.toDigits_append_toDigits (by decide) hpos hlt, hc]
      exact congrArg (· ++ [c]) hfront

end AutoProxy.Text
