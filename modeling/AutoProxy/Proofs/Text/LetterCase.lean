import AutoProxy.Proofs.Domain.Lower
import AutoProxy.Proofs.Text.Blank

/-! Texts that are equal but for the case of ASCII letters. -/
namespace AutoProxy.Text

/-- Equal up to the case of ASCII letters, character by character. -/
def SameLetters (t u : Text) : Prop := t.map Char.toLower = u.map Char.toLower

instance (t u : Text) : Decidable (SameLetters t u) := inferInstanceAs (Decidable (_ = _))

variable {c d : Char} {s t u : Text} {p : Char → Bool}

theorem isBlank_toLower (c : Char) : isBlank c.toLower = isBlank c :=
  toLower_congr (by decide +kernel) c

/-- A test that takes no notice of case stops in the same place. -/
theorem dropWhile_map_toLower (hp : ∀ c, p c.toLower = p c) (t : Text) :
    (t.map Char.toLower).dropWhile p = (t.dropWhile p).map Char.toLower := by
  rw [List.dropWhile_map]
  congr 2
  funext c
  exact hp c

theorem trim_map_toLower (t : Text) :
    trim (t.map Char.toLower) = (trim t).map Char.toLower := by
  rw [trim, trimStart, dropWhile_map_toLower isBlank_toLower, trimEnd, ← List.map_reverse,
    dropWhile_map_toLower isBlank_toLower, ← List.map_reverse]
  rfl

theorem lowerChar_toLower (c : Char) : lowerChar c.toLower = lowerChar c :=
  toLower_congr (by decide +kernel) c

/-- Whether a character has case is asked of letters in either case alike. -/
theorem meetsCased_map_toLower (t : Text) : meetsCased (t.map Char.toLower) = meetsCased t := by
  have hcased (c : Char) : holds cased c.toLower.toNat = holds cased c.toNat :=
    toLower_congr (f := fun c => holds cased c.toNat) (by decide +kernel) c
  have hignorable (c : Char) : holds caseIgnorable c.toLower.toNat = holds caseIgnorable c.toNat :=
    toLower_congr (f := fun c => holds caseIgnorable c.toNat) (by decide +kernel) c
  rw [meetsCased, dropWhile_map_toLower hignorable, meetsCased]
  cases t.dropWhile (holds caseIgnorable ·.toNat) with
  | nil => rfl
  | cons c t => exact hcased c

/-- Full lower case takes no notice of the case of ASCII letters, nor does it by those around a
sigma. -/
theorem lowerAfter_map_toLower (before t : Text) :
    lowerAfter (before.map Char.toLower) (t.map Char.toLower) = lowerAfter before t := by
  induction t generalizing before with
  | nil => rfl
  | cons c t ih =>
    have hsigma : c.toLower = '\u03A3' ↔ c = '\u03A3' := Domain.toLower_eq_iff (by decide)
    rw [List.map_cons, lowerAfter, lowerAfter, ← List.map_cons, ih, meetsCased_map_toLower,
      meetsCased_map_toLower, lowerChar_toLower]
    simp only [hsigma]

namespace SameLetters

theorem symm (h : SameLetters t u) : SameLetters u t := Eq.symm h

theorem lower_eq (h : SameLetters t u) : lower t = lower u := by
  have hmap (t : Text) : lower t = lowerAfter [] (t.map Char.toLower) :=
    (lowerAfter_map_toLower [] t).symm
  rw [hmap t, hmap u, h]

theorem trim (h : SameLetters t u) : SameLetters (trim t) (trim u) := by
  rw [SameLetters, ← trim_map_toLower, ← trim_map_toLower, h]

theorem drop (h : SameLetters t u) (n : Nat) : SameLetters (t.drop n) (u.drop n) := by
  rw [SameLetters, List.map_drop, List.map_drop, h]

theorem length_eq (h : SameLetters t u) : t.length = u.length := by
  have hlength := congrArg List.length h
  rwa [List.length_map, List.length_map] at hlength

theorem nil_left (h : SameLetters [] u) : u = [] := List.map_eq_nil_iff.mp (Eq.symm h)

theorem cons_left (h : SameLetters (c :: t) u) :
    ∃ d v, u = d :: v ∧ d.toLower = c.toLower ∧ SameLetters t v := by
  obtain ⟨d, v, rfl, hd, hv⟩ := List.map_eq_cons_iff.mp (Eq.symm h)
  exact ⟨d, v, rfl, hd, Eq.symm hv⟩

/-- A text that is alike is cut where the other one is. -/
theorem append_left (h : SameLetters (s ++ t) u) :
    ∃ s' t', u = s' ++ t' ∧ SameLetters s s' ∧ SameLetters t t' := by
  rw [SameLetters, List.map_append] at h
  obtain ⟨s', t', rfl, hs, ht⟩ := List.map_eq_append_iff.mp (Eq.symm h)
  exact ⟨s', t', rfl, Eq.symm hs, Eq.symm ht⟩

theorem forall_mem (hp : ∀ c, p c.toLower = p c) (h : SameLetters t u)
    (ht : ∀ c ∈ t, p c = true) : ∀ c ∈ u, p c = true := by
  intro c hc
  have hlower : c.toLower ∈ t.map Char.toLower := h ▸ List.mem_map_of_mem hc
  obtain ⟨d, hd, heq⟩ := List.mem_map.mp hlower
  rw [← hp c, ← heq, hp d]
  exact ht d hd

/-- A character that is no letter stands in the same place of both. -/
theorem mark_left (hc : c.isAlpha = false) (h : SameLetters (c :: t) u) :
    ∃ v, u = c :: v ∧ SameLetters t v := by
  obtain ⟨d, v, rfl, hd, hv⟩ := h.cons_left
  have hself : c.toLower = c := (Domain.toLower_eq_iff hc).mpr rfl
  rw [hself, Domain.toLower_eq_iff hc] at hd
  exact ⟨v, by rw [hd], hv⟩

/-- Only letters have a case, so anything else is alike only to itself. -/
theorem eq_of_marks (hs : ∀ c ∈ s, c.isAlpha = false) (h : SameLetters s u) : u = s := by
  induction s generalizing u with
  | nil => exact h.nil_left
  | cons c s ih =>
    obtain ⟨hc, hs⟩ := List.forall_mem_cons.mp hs
    obtain ⟨v, rfl, hv⟩ := h.mark_left hc
    rw [ih hs hv]

theorem head_mark (hc : c.isAlpha = false) (h : SameLetters t u) (ht : t.head? = some c) :
    u.head? = some c := by
  obtain ⟨rest, rfl⟩ := List.head?_eq_some_iff.mp ht
  obtain ⟨v, rfl, -⟩ := h.mark_left hc
  rfl

theorem isPrefix_marks (hs : ∀ c ∈ s, c.isAlpha = false) (h : SameLetters t u) (ht : s <+: t) :
    s <+: u := by
  obtain ⟨rest, rfl⟩ := ht
  obtain ⟨s', v, rfl, hs', -⟩ := h.append_left
  rw [hs'.eq_of_marks hs]
  exact List.prefix_append s v

end SameLetters

end AutoProxy.Text
