import AutoProxy.Domain

/-! Domains and tokens as patterns over their letters, and the tests and searches that read them. -/
namespace AutoProxy

namespace Text

variable {P : Text → Prop} {g h t : Text}

/-- `h` has the property and stands at the front of `t`, and nothing longer does. -/
def IsLongestFront (P : Text → Prop) (h t : Text) : Prop :=
  P h ∧ h <+: t ∧ ∀ g, P g → g <+: t → g.length ≤ h.length

/-- Of two fronts of one text, the one that is not longer is a front of the other. -/
theorem IsLongestFront.unique (hg : IsLongestFront P g t) (hh : IsLongestFront P h t) : g = h := by
  have hle := hh.2.2 g hg.1 hg.2.1
  have hge := hg.2.2 h hh.1 hh.2.1
  exact (List.prefix_of_prefix_length_le hg.2.1 hh.2.1 hle).eq_of_length (by omega)

end Text

namespace Domain

variable {isLetter : Char → Bool} {c : Char} {t e h : Text}

/-- A character of a domain over these letters. -/
def isInner (isLetter : Char → Bool) (c : Char) : Bool :=
  isLetter c || c.isDigit || c = '-' || c = '.'

/-- Inner characters, then a dot with two letters or more behind it. -/
def IsEnding (isLetter : Char → Bool) (t : Text) : Prop :=
  ∃ front letters, t = front ++ '.' :: letters ∧ (∀ c ∈ front, isInner isLetter c) ∧
    (∀ c ∈ letters, isLetter c) ∧ 2 ≤ letters.length

/-- A letter or digit, then inner characters, then a dot with two letters or more behind it. -/
def IsDomainOver (isLetter : Char → Bool) (t : Text) : Prop :=
  ∃ c front letters, t = c :: front ++ '.' :: letters ∧ (isLetter c || c.isDigit) ∧
    (∀ d ∈ front, isInner isLetter d) ∧ (∀ d ∈ letters, isLetter d) ∧ 2 ≤ letters.length

/-- A letter or digit at each end, and inner characters between. -/
def IsTokenOver (isLetter : Char → Bool) (t : Text) : Prop :=
  ∃ c inner d, t = c :: inner ++ [d] ∧ (isLetter c || c.isDigit) ∧
    (∀ x ∈ inner, isInner isLetter x) ∧ (isLetter d || d.isDigit)

/-- A domain in letters of either case. -/
def IsDomain : Text → Prop := IsDomainOver Char.isAlpha

/-- A token in letters of either case. -/
def IsToken : Text → Prop := IsTokenOver Char.isAlpha

/-- A domain is a letter or digit with an ending behind it. -/
theorem isDomainOver_cons_iff :
    IsDomainOver isLetter (c :: t) ↔ (isLetter c || c.isDigit) ∧ IsEnding isLetter t := by
  constructor
  · rintro ⟨d, front, letters, heq, hd, hf, hl, hn⟩
    rw [List.cons_append, List.cons.injEq] at heq
    obtain ⟨rfl, rfl⟩ := heq
    exact ⟨hd, front, letters, rfl, hf, hl, hn⟩
  · rintro ⟨hc, front, letters, rfl, hf, hl, hn⟩
    exact ⟨c, front, letters, rfl, hc, hf, hl, hn⟩

theorem not_isDomainOver_nil : ¬ IsDomainOver isLetter [] := by
  rintro ⟨c, front, letters, heq, -⟩
  simp at heq

theorem isInner_of_end (h : (isLetter c || c.isDigit) = true) : isInner isLetter c = true := by
  simp_all [isInner]

theorem isInner_of_letter (h : isLetter c = true) : isInner isLetter c = true := by
  simp [isInner, h]

theorem ne_of_isInner {d : Char} (hc : isInner isLetter c = true)
    (hd : isInner isLetter d = false) : c ≠ d := by
  rintro rfl
  simp [hc] at hd

/-- The last letters and the dot before them are inner characters, too. -/
theorem isInner_of_isEnding (h : IsEnding isLetter t) : ∀ c ∈ t, isInner isLetter c := by
  obtain ⟨front, letters, rfl, hf, hl, -⟩ := h
  intro c hc
  rcases List.mem_append.mp hc with hc | hc
  · exact hf c hc
  · rcases List.mem_cons.mp hc with rfl | hc
    · simp [isInner]
    · exact isInner_of_letter (hl c hc)

theorem isInner_of_isDomainOver (h : IsDomainOver isLetter t) : ∀ c ∈ t, isInner isLetter c := by
  cases t with
  | nil => simp
  | cons d t =>
    obtain ⟨hd, he⟩ := isDomainOver_cons_iff.mp h
    intro c hc
    rcases List.mem_cons.mp hc with rfl | hc
    · exact isInner_of_end hd
    · exact isInner_of_isEnding he c hc

theorem isInner_of_isTokenOver (h : IsTokenOver isLetter t) : ∀ c ∈ t, isInner isLetter c := by
  obtain ⟨c, inner, d, rfl, hc, hi, hd⟩ := h
  intro x hx
  simp only [List.cons_append, List.mem_cons, List.mem_append, List.not_mem_nil, or_false] at hx
  rcases hx with rfl | hx | rfl
  · exact isInner_of_end hc
  · exact hi x hx
  · exact isInner_of_end hd

/-- Every domain is a token: it ends in a letter. -/
theorem IsDomainOver.isTokenOver (h : IsDomainOver isLetter t) : IsTokenOver isLetter t := by
  obtain ⟨c, front, letters, rfl, hc, hf, hl, hn⟩ := h
  have hne : letters ≠ [] := by rintro rfl; simp at hn
  refine ⟨c, front ++ '.' :: letters.dropLast, letters.getLast hne, ?_, hc, ?_, ?_⟩
  · simp [List.dropLast_concat_getLast hne]
  · intro x hx
    rcases List.mem_append.mp hx with hx | hx
    · exact hf x hx
    · rcases List.mem_cons.mp hx with rfl | hx
      · simp [isInner]
      · exact isInner_of_letter (hl x (List.dropLast_subset _ hx))
  · simp [hl _ (List.getLast_mem hne)]

theorem isDomainChar_eq : isDomainChar = isInner Char.isAlpha := rfl

theorem takeWhile_ne_append_cons {a b : Text} (h : c ∉ a) :
    (a ++ c :: b).takeWhile (· ≠ c) = a := by
  have ha : ∀ x ∈ a, decide (x ≠ c) = true := by
    intro x hx
    rw [decide_eq_true_eq]
    rintro rfl
    exact h hx
  rw [List.takeWhile_append_of_pos ha, List.takeWhile_cons_of_neg (by simp), List.append_nil]

/-- What counts is the last dot: there is none in what stands behind it. -/
theorem endsInLetters_append (h : '.' ∉ e) :
    endsInLetters (t ++ '.' :: e) = (e.all Char.isAlpha && decide (2 ≤ e.length)) := by
  have hrev : (t ++ '.' :: e).reverse = e.reverse ++ '.' :: t.reverse := by simp
  have hlabel : (t ++ '.' :: e).reverse.takeWhile (· ≠ '.') = e.reverse := by
    rw [hrev]
    exact takeWhile_ne_append_cons (by simpa using h)
  simp only [endsInLetters, hlabel, List.all_reverse, List.length_reverse]
  simp

/-- The test looks for the last dot, which every ending has before its letters. -/
theorem isEnding_iff_of_inner (ht : ∀ c ∈ t, isInner Char.isAlpha c) :
    IsEnding Char.isAlpha t ↔ endsInLetters t = true := by
  constructor
  · rintro ⟨front, letters, rfl, -, hl, hn⟩
    have hdot : '.' ∉ letters := fun hm => by simpa using hl '.' hm
    rw [endsInLetters_append hdot]
    simpa using ⟨hl, hn⟩
  · intro h
    have hdot : '.' ∈ t.reverse := by
      simp only [endsInLetters, Bool.and_eq_true, List.contains_iff_mem] at h
      exact List.mem_reverse.mpr h.1.1
    obtain ⟨label, front, heq, hlabel⟩ := List.eq_append_cons_of_mem hdot
    have heq : t = front.reverse ++ '.' :: label.reverse := by
      rw [← List.reverse_reverse t, heq]
      simp
    rw [heq, endsInLetters_append (by simpa using hlabel)] at h
    simp only [Bool.and_eq_true, List.all_eq_true, decide_eq_true_eq] at h
    exact ⟨front.reverse, label.reverse, heq,
      fun c hc => ht c (heq ▸ List.mem_append_left _ hc), h.1, h.2⟩

/-- The test of a whole text and the pattern say the same. -/
theorem isDomain_iff : isDomain t = true ↔ IsDomain t := by
  cases t with
  | nil =>
    constructor
    · intro h
      simp [isDomain] at h
    · intro h
      exact absurd h not_isDomainOver_nil
  | cons c t =>
    rw [IsDomain, isDomainOver_cons_iff]
    simp only [isDomain, Bool.and_eq_true, List.all_eq_true, isDomainChar_eq]
    constructor
    · rintro ⟨⟨hc, ht⟩, he⟩
      exact ⟨hc, (isEnding_iff_of_inner ht).mpr he⟩
    · rintro ⟨hc, he⟩
      have ht := isInner_of_isEnding he
      exact ⟨⟨hc, ht⟩, (isEnding_iff_of_inner ht).mp he⟩

theorem isToken_iff : isToken t = true ↔ IsToken t := by
  constructor
  · intro h
    unfold isToken at h
    split at h
    · next c d rest x hlast =>
      simp only [Bool.and_eq_true, List.all_eq_true, isDomainChar_eq] at h
      obtain ⟨⟨hc, hx⟩, hall⟩ := h
      obtain ⟨init, hinit⟩ := List.getLast?_eq_some_iff.mp hlast
      cases init with
      | nil => simp at hinit
      | cons c' inner =>
        rw [List.cons_append, List.cons.injEq] at hinit
        obtain ⟨rfl, hrest⟩ := hinit
        refine ⟨c, inner, x, by rw [hrest]; rfl, hc, fun y hy => ?_, hx⟩
        exact hall y (List.mem_cons_of_mem _ (hrest ▸ List.mem_append_left _ hy))
    · simp at h
  · intro h
    have hall := isInner_of_isTokenOver h
    obtain ⟨c, inner, d, rfl, hc, -, hd⟩ := h
    have hlast : (c :: inner ++ [d]).getLast? = some d := List.getLast?_concat
    cases hinner : inner ++ [d] with
    | nil => simp at hinner
    | cons x rest =>
      rw [List.cons_append, hinner] at hall hlast ⊢
      simp only [isToken, hlast, Bool.and_eq_true, List.all_eq_true, isDomainChar_eq]
      exact ⟨⟨hc, hd⟩, hall⟩

/-- A first character goes on before an ending, or it is the dot of the shortest one. -/
theorem isEnding_cons_iff :
    IsEnding isLetter (c :: t) ↔
      (isInner isLetter c ∧ IsEnding isLetter t) ∨
        (c = '.' ∧ (∀ d ∈ t, isLetter d) ∧ 2 ≤ t.length) := by
  constructor
  · rintro ⟨front, letters, heq, hf, hl, hn⟩
    cases front with
    | nil =>
      rw [List.nil_append, List.cons.injEq] at heq
      obtain ⟨rfl, rfl⟩ := heq
      exact Or.inr ⟨rfl, hl, hn⟩
    | cons d front =>
      rw [List.cons_append, List.cons.injEq] at heq
      obtain ⟨rfl, rfl⟩ := heq
      exact Or.inl ⟨hf c (by simp), front, letters, rfl,
        fun x hx => hf x (List.mem_cons_of_mem _ hx), hl, hn⟩
  · rintro (⟨hc, front, letters, rfl, hf, hl, hn⟩ | ⟨rfl, hl, hn⟩)
    · refine ⟨c :: front, letters, rfl, ?_, hl, hn⟩
      intro x hx
      rcases List.mem_cons.mp hx with rfl | hx
      · exact hc
      · exact hf x hx
    · exact ⟨[], t, rfl, by simp, hl, hn⟩

theorem not_isEnding_nil : ¬ IsEnding isLetter [] := by
  rintro ⟨front, letters, heq, -⟩
  simp at heq

/-- Letters at the front do not reach past an ending: it has a dot. -/
theorem length_le_of_isEnding {letters : Text} (hdot : isLetter '.' = false)
    (he : IsEnding isLetter e) (het : e <+: t) (hlt : letters <+: t)
    (hl : ∀ c ∈ letters, isLetter c) : letters.length ≤ e.length := by
  refine Nat.le_of_not_lt fun hlong => ?_
  have hpre : e <+: letters := List.prefix_of_prefix_length_le het hlt (by omega)
  obtain ⟨front, tail, rfl, -⟩ := he
  have hmem : '.' ∈ letters := hpre.subset (by simp)
  simp [hl '.' hmem] at hdot

/-- One more inner character at the front makes the longest ending longer by it. -/
theorem isLongestFront_cons (hc : isInner Char.isAlpha c)
    (h : Text.IsLongestFront (IsEnding Char.isAlpha) e t) :
    Text.IsLongestFront (IsEnding Char.isAlpha) (c :: e) (c :: t) := by
  obtain ⟨he, het, hmax⟩ := h
  refine ⟨isEnding_cons_iff.mpr (Or.inl ⟨hc, he⟩), List.cons_prefix_cons.mpr ⟨rfl, het⟩, ?_⟩
  intro g hg hgt
  cases g with
  | nil => simp
  | cons d g =>
    have hgt := (List.cons_prefix_cons.mp hgt).2
    rcases isEnding_cons_iff.mp hg with ⟨-, hg⟩ | ⟨-, hl, -⟩
    · exact Nat.succ_le_succ (hmax g hg hgt)
    · exact Nat.succ_le_succ (length_le_of_isEnding (by decide) he het hgt hl)

/-- With no ending further on, only the letters right behind the first character can end one. -/
theorem isEnding_cons_of_none (hnone : ∀ e, e <+: t → ¬ IsEnding Char.isAlpha e)
    (hc : isInner Char.isAlpha c) (het : e <+: c :: t) :
    IsEnding Char.isAlpha e ↔
      ∃ letters, e = '.' :: letters ∧ c = '.' ∧ letters <+: t.takeWhile Char.isAlpha ∧
        2 ≤ letters.length := by
  constructor
  · intro he
    cases e with
    | nil => exact absurd he not_isEnding_nil
    | cons d g =>
      obtain ⟨rfl, hgt⟩ := List.cons_prefix_cons.mp het
      rcases isEnding_cons_iff.mp he with ⟨-, hg⟩ | ⟨rfl, hl, hn⟩
      · exact absurd hg (hnone g hgt)
      · obtain ⟨rest, rfl⟩ := hgt
        refine ⟨g, rfl, rfl, ?_, hn⟩
        rw [List.takeWhile_append_of_pos hl]
        exact List.prefix_append _ _
  · rintro ⟨letters, rfl, rfl, hl, hn⟩
    refine isEnding_cons_iff.mpr (Or.inr ⟨rfl, ?_, hn⟩)
    intro d hd
    exact List.all_eq_true.mp List.all_takeWhile d (hl.subset hd)

/-- If nothing behind a dot ends a domain, its letters do, as far as they go. -/
theorem isLongestFront_dot (hnone : ∀ e, e <+: t → ¬ IsEnding Char.isAlpha e)
    (hn : 2 ≤ (t.takeWhile Char.isAlpha).length) :
    Text.IsLongestFront (IsEnding Char.isAlpha) ('.' :: t.takeWhile Char.isAlpha) ('.' :: t) := by
  have hdot : isInner Char.isAlpha '.' = true := rfl
  have hpre : '.' :: t.takeWhile Char.isAlpha <+: '.' :: t :=
    List.cons_prefix_cons.mpr ⟨rfl, List.takeWhile_prefix _⟩
  refine ⟨?_, hpre, ?_⟩
  · exact (isEnding_cons_of_none hnone hdot hpre).mpr ⟨_, rfl, rfl, List.prefix_rfl, hn⟩
  · intro g hg hgt
    obtain ⟨letters, rfl, -, hl, -⟩ := (isEnding_cons_of_none hnone hdot hgt).mp hg
    exact Nat.succ_le_succ hl.length_le

theorem not_isEnding_of_head (hc : isInner Char.isAlpha c = false) (het : e <+: c :: t) :
    ¬ IsEnding Char.isAlpha e := by
  intro he
  cases e with
  | nil => exact not_isEnding_nil he
  | cons d g =>
    obtain ⟨rfl, -⟩ := List.cons_prefix_cons.mp het
    simp [isInner_of_isEnding he d List.mem_cons_self] at hc

/-- What the search finds at each place is the longest ending from there. -/
theorem longestEnding?_spec (t : Text) :
    (∀ e, longestEnding? t = some e → Text.IsLongestFront (IsEnding Char.isAlpha) e t) ∧
      (longestEnding? t = none → ∀ e, e <+: t → ¬ IsEnding Char.isAlpha e) := by
  induction t with
  | nil =>
    refine ⟨by simp [longestEnding?], fun _ e he => ?_⟩
    rw [List.prefix_nil.mp he]
    exact not_isEnding_nil
  | cons c t ih =>
    rw [longestEnding?]
    by_cases hc : isDomainChar c = true
    · rw [if_pos hc]
      cases hrest : longestEnding? t with
      | some e =>
        refine ⟨?_, by simp⟩
        rintro _ ⟨⟩
        exact isLongestFront_cons hc (ih.1 e hrest)
      | none =>
        have hnone := ih.2 hrest
        dsimp only
        split
        · next h =>
          simp only [Bool.and_eq_true, decide_eq_true_eq] at h
          obtain ⟨rfl, hn⟩ := h
          refine ⟨?_, by simp⟩
          rintro _ ⟨⟩
          exact isLongestFront_dot hnone hn
        · next h =>
          refine ⟨by simp, fun _ e het he => h ?_⟩
          obtain ⟨letters, -, rfl, hl, hn⟩ := (isEnding_cons_of_none hnone hc het).mp he
          simpa using Nat.le_trans hn hl.length_le
    · rw [if_neg hc]
      exact ⟨by simp, fun _ e het => not_isEnding_of_head (Bool.eq_false_iff.mpr hc) het⟩

theorem isLongestFront_domain_cons_iff (hc : (c.isAlpha || c.isDigit) = true) :
    Text.IsLongestFront IsDomain (c :: e) (c :: t) ↔
      Text.IsLongestFront (IsEnding Char.isAlpha) e t := by
  have hcons (g : Text) : IsDomain (c :: g) ↔ IsEnding Char.isAlpha g := by
    rw [IsDomain, isDomainOver_cons_iff]
    exact and_iff_right hc
  constructor
  · rintro ⟨he, het, hmax⟩
    refine ⟨(hcons e).mp he, (List.cons_prefix_cons.mp het).2, fun g hg hgt => ?_⟩
    exact Nat.le_of_succ_le_succ
      (hmax (c :: g) ((hcons g).mpr hg) (List.cons_prefix_cons.mpr ⟨rfl, hgt⟩))
  · rintro ⟨he, het, hmax⟩
    refine ⟨(hcons e).mpr he, List.cons_prefix_cons.mpr ⟨rfl, het⟩, fun g hg hgt => ?_⟩
    cases g with
    | nil => simp
    | cons d g =>
      have hdt := List.cons_prefix_cons.mp hgt
      rw [hdt.1] at hg
      exact Nat.succ_le_succ (hmax g ((hcons g).mp hg) hdt.2)

theorem isLongestFront_of_longestFront? (h : longestFront? t = some e) :
    Text.IsLongestFront IsDomain e t := by
  cases t with
  | nil => simp [longestFront?] at h
  | cons c t =>
    rw [longestFront?] at h
    split at h
    · next hc =>
      obtain ⟨e, he, rfl⟩ := Option.map_eq_some_iff.mp h
      exact (isLongestFront_domain_cons_iff hc).mpr ((longestEnding?_spec t).1 e he)
    · simp at h

theorem not_isDomain_of_longestFront? (h : longestFront? t = none) (het : e <+: t) :
    ¬ IsDomain e := by
  intro he
  cases e with
  | nil => exact not_isDomainOver_nil he
  | cons c e =>
    obtain ⟨rest, rfl⟩ := het
    obtain ⟨hc, he⟩ := isDomainOver_cons_iff.mp he
    have hc : c.isAlphanum = true := hc
    rw [List.cons_append, longestFront?, if_pos hc, Option.map_eq_none_iff] at h
    exact (longestEnding?_spec _).2 h e (List.prefix_append e rest) he

/-- The search finds the longest domain at the front, and nothing if there is none. -/
theorem longestFront?_eq_some_iff :
    longestFront? t = some e ↔ Text.IsLongestFront IsDomain e t := by
  refine ⟨isLongestFront_of_longestFront?, fun h => ?_⟩
  cases hfront : longestFront? t with
  | none => exact absurd h.1 (not_isDomain_of_longestFront? hfront h.2.1)
  | some g => rw [(isLongestFront_of_longestFront? hfront).unique h]

end Domain

end AutoProxy
