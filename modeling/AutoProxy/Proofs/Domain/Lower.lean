import AutoProxy.Proofs.Domain.Form
import AutoProxy.Proofs.Text.Lower

/-! Letter case in domains and tokens. -/
namespace AutoProxy.Domain

variable {isLetter p q : Char → Bool} {c d : Char} {t : Text}

/-- All letters of domains are in ASCII. -/
theorem lt_of_isInner (h : isInner Char.isAlpha c = true) : c.toNat < 0x80 := by
  simp only [isInner, Bool.or_eq_true, decide_eq_true_eq] at h
  rcases h with ((h | h) | rfl) | rfl
  · exact Text.toNat_lt_of_isAlphanum (by simp [Char.isAlphanum, h])
  · exact Text.toNat_lt_of_isAlphanum (by simp [Char.isAlphanum, h])
  · decide
  · decide

/-- What holds of each inner character by its number holds of all. -/
theorem forall_inner {P : Char → Prop}
    (h : ∀ n < 0x80, isInner Char.isAlpha (Char.ofNat n) = true → P (Char.ofNat n))
    (hc : isInner Char.isAlpha c = true) : P c :=
  Text.forall_ascii (P := fun c => isInner Char.isAlpha c = true → P c) h (lt_of_isInner hc) hc

/-- Full lower case and the lower case of ASCII agree on what domains and tokens are made of. -/
theorem text_lower_eq (h : ∀ c ∈ t, isInner Char.isAlpha c) : Text.lower t = lower t :=
  Text.lowerAfter_ascii [] fun c hc => lt_of_isInner (h c hc)

/-- Only capital letters are changed, and only into letters. -/
theorem toLower_eq_iff (hd : d.isAlpha = false) : c.toLower = d ↔ c = d := by
  by_cases hc : c.isUpper
  · have halpha : c.isAlpha = true := by simp [Char.isAlpha, hc]
    constructor
    · rintro rfl
      simp [halpha] at hd
    · rintro rfl
      simp [halpha] at hd
  · rw [Char.toLower_eq_of_not_isUpper hc]

theorem isDigit_toLower (c : Char) : c.toLower.isDigit = c.isDigit :=
  Text.toLower_congr (by decide) c

theorem isInner_toLower (c : Char) : isInner Char.isAlpha c.toLower = isInner Char.isAlpha c := by
  simp [isInner, isDigit_toLower, toLower_eq_iff]

theorem lower_lower (t : Text) : lower (lower t) = lower t := by
  simp [lower]

theorem lower_eq_self_iff : lower t = t ↔ ∀ c ∈ t, c.toLower = c := by
  have h := List.map_eq_map_iff (f := Char.toLower) (g := id) (l := t)
  simpa [lower] using h

theorem isInner_imp (hpq : p c = true → q c = true) (h : isInner p c = true) :
    isInner q c = true := by
  simp only [isInner, Bool.or_eq_true] at h ⊢
  rcases h with ((h | h) | h) | h
  · exact Or.inl (Or.inl (Or.inl (hpq h)))
  · exact Or.inl (Or.inl (Or.inr h))
  · exact Or.inl (Or.inr h)
  · exact Or.inr h

theorem end_imp (hpq : p c = true → q c = true) (h : (p c || c.isDigit) = true) :
    (q c || c.isDigit) = true := by
  rw [Bool.or_eq_true] at h ⊢
  exact h.imp_left hpq

/-- A domain over some letters is one over any letters that include those it is made of. -/
theorem IsDomainOver.imp (hpq : ∀ c ∈ t, p c = true → q c = true) (h : IsDomainOver p t) :
    IsDomainOver q t := by
  obtain ⟨c, front, letters, rfl, hc, hf, hl, hn⟩ := h
  refine ⟨c, front, letters, rfl, end_imp (hpq c (by simp)) hc, ?_, ?_, hn⟩
  · intro d hd
    exact isInner_imp (hpq d (by simp [hd])) (hf d hd)
  · intro d hd
    exact hpq d (by simp [hd]) (hl d hd)

theorem IsTokenOver.imp (hpq : ∀ c ∈ t, p c = true → q c = true) (h : IsTokenOver p t) :
    IsTokenOver q t := by
  obtain ⟨c, inner, d, rfl, hc, hi, hd⟩ := h
  refine ⟨c, inner, d, rfl, end_imp (hpq c (by simp)) hc, ?_, end_imp (hpq d (by simp)) hd⟩
  intro x hx
  exact isInner_imp (hpq x (by simp [hx])) (hi x hx)

theorem isAlpha_of_isLower (h : c.isLower = true) : c.isAlpha = true := by
  simp [Char.isAlpha, h]

/-- Small letters are their own lower case, as are digits, hyphens and dots. -/
theorem toLower_of_isInner (h : isInner Char.isLower c = true) : c.toLower = c := by
  have hascii : isInner Char.isAlpha c = true := isInner_imp isAlpha_of_isLower h
  exact forall_inner (P := fun c => isInner Char.isLower c = true → c.toLower = c)
    (by decide +kernel) hascii h

theorem isLower_of_toLower (h : lower t = t) : ∀ c ∈ t, c.isAlpha = true → c.isLower = true := by
  intro c hc halpha
  rw [← lower_eq_self_iff.mp h c hc, Char.isLower_toLower_eq_isAlpha]
  exact halpha

/-- A domain in small letters is a domain that is its own lower case. -/
theorem isDomainOver_isLower_iff : IsDomainOver Char.isLower t ↔ IsDomain t ∧ lower t = t := by
  constructor
  · intro h
    have hinner := isInner_of_isDomainOver h
    exact ⟨h.imp fun _ _ => isAlpha_of_isLower,
      lower_eq_self_iff.mpr fun c hc => toLower_of_isInner (hinner c hc)⟩
  · rintro ⟨h, hlower⟩
    exact h.imp (isLower_of_toLower hlower)

theorem isTokenOver_isLower_iff : IsTokenOver Char.isLower t ↔ IsToken t ∧ lower t = t := by
  constructor
  · intro h
    have hinner := isInner_of_isTokenOver h
    exact ⟨h.imp fun _ _ => isAlpha_of_isLower,
      lower_eq_self_iff.mpr fun c hc => toLower_of_isInner (hinner c hc)⟩
  · rintro ⟨h, hlower⟩
    exact h.imp (isLower_of_toLower hlower)

/-- Case does not make a domain, nor does it unmake one. -/
theorem isDomain_lower_iff : IsDomain (lower t) ↔ IsDomain t := by
  constructor
  · rintro ⟨c, front, letters, heq, hc, hf, hl, hn⟩
    obtain ⟨start, tail, rfl, hstart, htail⟩ := List.map_eq_append_iff.mp heq
    obtain ⟨c, front, rfl, rfl, rfl⟩ := List.map_eq_cons_iff.mp hstart
    obtain ⟨dot, letters, rfl, hdot, rfl⟩ := List.map_eq_cons_iff.mp htail
    rw [(toLower_eq_iff (by decide)).mp hdot]
    refine ⟨c, front, letters, rfl, ?_, ?_, ?_, by simpa using hn⟩
    · simpa [isDigit_toLower] using hc
    · intro d hd
      exact (isInner_toLower d).symm.trans (hf _ (List.mem_map_of_mem hd))
    · intro d hd
      rw [← Char.isAlpha_toLower_eq_isAlpha]
      exact hl _ (List.mem_map_of_mem hd)
  · rintro ⟨c, front, letters, rfl, hc, hf, hl, hn⟩
    refine ⟨c.toLower, lower front, lower letters, by simp [lower], ?_, ?_, ?_, ?_⟩
    · simpa [isDigit_toLower] using hc
    · intro x hx
      obtain ⟨y, hy, rfl⟩ := List.mem_map.mp hx
      exact (isInner_toLower y).trans (hf y hy)
    · intro x hx
      obtain ⟨y, hy, rfl⟩ := List.mem_map.mp hx
      rw [Char.isAlpha_toLower_eq_isAlpha]
      exact hl y hy
    · simpa [lower] using hn

theorem isToken_lower (h : IsToken t) : IsToken (lower t) := by
  obtain ⟨c, inner, d, rfl, hc, hi, hd⟩ := h
  refine ⟨c.toLower, lower inner, d.toLower, by simp [lower], ?_, ?_, ?_⟩
  · simpa [isDigit_toLower] using hc
  · intro x hx
    obtain ⟨y, hy, rfl⟩ := List.mem_map.mp hx
    exact (isInner_toLower y).trans (hi y hy)
  · simpa [isDigit_toLower] using hd

end AutoProxy.Domain
