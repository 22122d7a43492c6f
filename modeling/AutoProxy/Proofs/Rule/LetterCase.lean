import AutoProxy.Proofs.Rule.RoundTrip
import AutoProxy.Proofs.Text.LetterCase

/-! Lines that differ in letter case name the same rule, the body of an expression aside. -/
namespace AutoProxy

namespace Domain

open Text

variable {t u : Text}

theorem isDomain_of_sameLetters (h : SameLetters t u) (ht : IsDomain t) : IsDomain u := by
  have hlower : lower t = lower u := h
  rw [← isDomain_lower_iff, ← hlower]
  exact isDomain_lower_iff.mpr ht

theorem isToken_of_sameLetters (h : SameLetters t u) (ht : IsToken t) : IsToken u := by
  have hend (c : Char) : (c.toLower.isAlpha || c.toLower.isDigit) = (c.isAlpha || c.isDigit) := by
    rw [Char.isAlpha_toLower_eq_isAlpha, isDigit_toLower]
  obtain ⟨c, inner, d, rfl, hc, hi, hd⟩ := ht
  obtain ⟨front, last, rfl, hfront, hlast⟩ := h.append_left
  obtain ⟨c', inner', rfl, hcc', hinner⟩ := hfront.cons_left
  obtain ⟨d', rest, rfl, hdd', hrest⟩ := hlast.cons_left
  rw [hrest.nil_left]
  refine ⟨c', inner', d', rfl, ?_, hinner.forall_mem isInner_toLower hi, ?_⟩
  · rwa [← hend, hcc', hend]
  · rwa [← hend, hdd', hend]

end Domain

namespace Rule

open Domain Text

/-- The same kind and side, and the same value unless it is the body of an expression. -/
structure Alike (r s : Rule) : Prop where
  kind : r.kind = s.kind
  whitelist : r.whitelist = s.whitelist
  value : r.kind ≠ .regex → r.value = s.value

variable {a c d : Char} {t u s h z v word line line' : Text} {k : Kind} {r : Rule}

theorem isCaseOf_of_toLower (ha : a.isUpper = false) (hcd : d.toLower = c.toLower)
    (h : IsCaseOf a c) : IsCaseOf a d := by
  have hlong : '\u017F'.isAlpha = false := by decide
  rw [← isSchemeLetter_iff ha, isSchemeLetter, Bool.or_eq_true, Bool.and_eq_true] at h ⊢
  simp only [decide_eq_true_eq] at h ⊢
  rcases h with hlower | ⟨hs, rfl⟩
  · exact .inl (hcd.trans hlower)
  · rw [(toLower_eq_iff hlong).mpr rfl, toLower_eq_iff hlong] at hcd
    exact .inr ⟨hs, hcd⟩

theorem forall₂_of_sameLetters (hword : ∀ a ∈ word, a.isUpper = false)
    (ht : List.Forall₂ IsCaseOf word t) (h : SameLetters t u) : List.Forall₂ IsCaseOf word u := by
  induction ht generalizing u with
  | nil =>
    rw [h.nil_left]
    exact .nil
  | cons hc _ ih =>
    obtain ⟨ha, hword⟩ := List.forall_mem_cons.mp hword
    obtain ⟨d, v, rfl, hd, hv⟩ := h.cons_left
    exact .cons (isCaseOf_of_toLower ha hd hc) (ih hword hv)

theorem isScheme_of_sameLetters (h : SameLetters t u) (ht : IsScheme t) : IsScheme u := by
  refine ht.imp (fun hhttp => ?_) fun hhttps => ?_
  · exact forall₂_of_sameLetters (by simp) hhttp h
  · exact forall₂_of_sameLetters (by simp) hhttps h

theorem endsHost_of_sameLetters (h : SameLetters t u) (ht : EndsHost t) : EndsHost u := by
  rcases ht with rfl | hslash | hcaret
  · exact .inl h.nil_left
  · exact .inr (.inl (h.head_mark (by decide) hslash))
  · exact .inr (.inr (h.head_mark (by decide) hcaret))

theorem withoutWildcard_of_sameLetters (h : SameLetters t u) :
    SameLetters (withoutWildcard t) (withoutWildcard u) := by
  by_cases hstar : "*.".toList <+: t
  · obtain ⟨rest, rfl⟩ := hstar
    obtain ⟨mark, v, rfl, hmark, hv⟩ := h.append_left
    rw [hmark.eq_of_marks (by simp)]
    exact hv
  · have hnone : ¬"*.".toList <+: u := fun hu => hstar (h.symm.isPrefix_marks (by simp) hu)
    have hkeep {t : Text} (ht : ¬"*.".toList <+: t) : withoutWildcard t = t := by
      unfold withoutWildcard
      split
      · next rest => exact absurd (List.prefix_append "*.".toList rest) ht
      · rfl
    rwa [hkeep hstar, hkeep hnone]

/-- Each front of one text is a front of the other in other letters. -/
theorem isLongestFront_of_sameLetters (h : SameLetters t u) (hs : IsLongestFront IsDomain s t) :
    ∃ s', SameLetters s s' ∧ IsLongestFront IsDomain s' u := by
  obtain ⟨hdomain, ⟨rest, rfl⟩, hlongest⟩ := hs
  obtain ⟨s', rest', rfl, hs', hrest⟩ := h.append_left
  refine ⟨s', hs', isDomain_of_sameLetters hs' hdomain, List.prefix_append s' rest', ?_⟩
  -- A longer front of the one text would be a longer front of the other.
  rintro g hg ⟨tail, htail⟩
  rw [← htail] at h
  obtain ⟨g', tail', heq, hgg', -⟩ := h.symm.append_left
  have hle := hlongest g' (isDomain_of_sameLetters hgg' hg) ⟨tail', heq.symm⟩
  rw [hgg'.length_eq, ← hs'.length_eq]
  exact hle

/-- A text in other letters names the same. -/
theorem names_of_sameLetters (h : SameLetters t u) (ht : Names t k v) :
    ∃ v', Names u k v' ∧ (k ≠ .regex → v' = v) := by
  cases ht with
  | slash =>
    obtain ⟨rest, rfl, hrest⟩ := h.mark_left (by decide)
    rw [hrest.nil_left]
    exact ⟨[], .slash, fun _ => rfl⟩
  | regex =>
    obtain ⟨front, last, rfl, hfront, hlast⟩ := h.append_left
    obtain ⟨v', rfl, -⟩ := hfront.mark_left (by decide)
    rw [hlast.eq_of_marks (by simp)]
    exact ⟨v', .regex, fun hk => absurd rfl hk⟩
  | url hs hh hz =>
    obtain ⟨front, z', rfl, hfront, hzz'⟩ := h.append_left
    obtain ⟨scheme, h', rfl, hscheme, hhh'⟩ := hfront.append_left
    obtain ⟨bar, marks, rfl, hbar, hmarks⟩ := hscheme.append_left
    obtain ⟨s', rfl, hss'⟩ := hbar.mark_left (by decide)
    rw [hmarks.eq_of_marks (by simp), hhh'.lower_eq]
    exact ⟨_, .url (isScheme_of_sameLetters hss' hs) (isDomain_of_sameLetters hhh' hh)
      (endsHost_of_sameLetters hzz' hz), fun _ => rfl⟩
  | anchor hh hz =>
    obtain ⟨front, z', rfl, hfront, hzz'⟩ := h.append_left
    obtain ⟨rest, rfl, hrest⟩ := hfront.mark_left (by decide)
    obtain ⟨h', rfl, hhh'⟩ := hrest.mark_left (by decide)
    rw [hhh'.lower_eq]
    exact ⟨_, .anchor (isDomain_of_sameLetters hhh' hh) (endsHost_of_sameLetters hzz' hz),
      fun _ => rfl⟩
  | domain hh =>
    rw [h.lower_eq]
    exact ⟨_, .domain (isDomain_of_sameLetters h hh), fun _ => rfl⟩
  | keyword ht hh =>
    rw [h.lower_eq]
    have hdomain : ¬IsDomain u := fun hu => hh (isDomain_of_sameLetters h.symm hu)
    exact ⟨_, .keyword (isToken_of_sameLetters h ht) hdomain, fun _ => rfl⟩
  | front ht hfront =>
    -- What is excluded is excluded for both: the letters can be changed back.
    have htoken : ¬IsToken u := fun hu => ht (isToken_of_sameLetters h.symm hu)
    have hrest := withoutWildcard_of_sameLetters h
    obtain ⟨s', hs', hfront'⟩ := isLongestFront_of_sameLetters hrest hfront
    rw [hs'.lower_eq]
    exact ⟨_, .front htoken hfront', fun _ => rfl⟩

theorem spills_of_sameLetters (h : SameLetters t u) (ht : Spills t k v) : Spills u k v := by
  cases ht with
  | url hs hh hz =>
    obtain ⟨front, tail, rfl, hfront, htail⟩ := h.append_left
    obtain ⟨scheme, h', rfl, hscheme, hhh'⟩ := hfront.append_left
    obtain ⟨bar, marks, rfl, hbar, hmarks⟩ := hscheme.append_left
    obtain ⟨s', rfl, hss'⟩ := hbar.mark_left (by decide)
    obtain ⟨z', rfl, hzz'⟩ := htail.mark_left (by decide)
    rw [hmarks.eq_of_marks (by simp), hhh'.lower_eq]
    exact .url (isScheme_of_sameLetters hss' hs) (isDomain_of_sameLetters hhh' hh)
      (endsHost_of_sameLetters hzz' hz)
  | anchor hh hz =>
    obtain ⟨front, tail, rfl, hfront, htail⟩ := h.append_left
    obtain ⟨rest, rfl, hrest⟩ := hfront.mark_left (by decide)
    obtain ⟨h', rfl, hhh'⟩ := hrest.mark_left (by decide)
    obtain ⟨z', rfl, hzz'⟩ := htail.mark_left (by decide)
    rw [hhh'.lower_eq]
    exact .anchor (isDomain_of_sameLetters hhh' hh) (endsHost_of_sameLetters hzz' hz)

theorem isMarked_of_sameLetters (h : SameLetters line line') : isMarked line = isMarked line' := by
  have hmarks : ∀ c ∈ marker, c.isAlpha = false := by simp [marker]
  rw [Bool.eq_iff_iff, isMarked, isMarked, List.isPrefixOf_iff_prefix, List.isPrefixOf_iff_prefix]
  exact ⟨h.trim.isPrefix_marks hmarks, h.trim.symm.isPrefix_marks hmarks⟩

theorem unmarked_of_sameLetters (h : SameLetters line line') :
    SameLetters (unmarked line) (unmarked line') := by
  rw [unmarked, unmarked, isMarked_of_sameLetters h]
  split
  · exact h.trim.drop _
  · exact h.trim

/-- What derives the one line derives the other, by the same constructor. -/
theorem exists_parse_of_sameLetters (h : SameLetters line line') (hr : parse line = some r) :
    ∃ s, parse line' = some s ∧ r.Alike s := by
  obtain ⟨hmarked, hbody⟩ := parse_eq_some_iff.mp hr
  have hunmarked := unmarked_of_sameLetters h
  rw [isMarked_of_sameLetters h] at hmarked
  rcases hbody with hnames | hspills
  · obtain ⟨v, hv, hvalue⟩ := names_of_sameLetters hunmarked hnames
    refine ⟨⟨r.kind, v, r.whitelist⟩, parse_eq_some_iff.mpr ⟨hmarked, .inl hv⟩, rfl, rfl, ?_⟩
    intro hkind
    exact (hvalue hkind).symm
  · refine ⟨r, parse_eq_some_iff.mpr ⟨hmarked, .inr ?_⟩, rfl, rfl, fun _ => rfl⟩
    exact spills_of_sameLetters hunmarked hspills

/-- If one of the lines names nothing, neither does the other, for likeness goes both ways. -/
theorem parse_of_sameLetters (h : SameLetters line line') :
    Option.Rel Alike (parse line) (parse line') := by
  cases hr : parse line with
  | some r =>
    obtain ⟨s, hs, halike⟩ := exists_parse_of_sameLetters h hr
    rw [hs]
    exact .some halike
  | none =>
    cases hs : parse line' with
    | none => exact .none
    | some s =>
      obtain ⟨r, hr', -⟩ := exists_parse_of_sameLetters h.symm hs
      rw [hr] at hr'
      cases hr'

theorem lineClass_of_sameLetters (h : SameLetters line line') :
    LineClass.of line = LineClass.of line' := by
  have htrim := h.trim
  rw [LineClass.of, LineClass.of]
  cases hline : Text.trim line with
  | nil =>
    rw [hline] at htrim
    rw [htrim.nil_left]
  | cons c t =>
    rw [hline] at htrim
    obtain ⟨d, v, hline', hd, -⟩ := htrim.cons_left
    have hmark {m : Char} (hm : m.isAlpha = false) : c = m ↔ d = m := by
      rw [← toLower_eq_iff hm, ← hd, toLower_eq_iff hm]
    rw [hline']
    simp only [hmark (m := '!') rfl, hmark (m := '[') rfl]

end Rule

end AutoProxy
