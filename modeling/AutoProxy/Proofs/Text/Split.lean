import AutoProxy.Text.Basic
import Mathlib

/-! The parts of a text between its marks when the text is put together from others. -/
namespace AutoProxy.Text

variable {isMark : Char → Bool} {c : Char} {s t : Text}

theorem split_mark (hc : isMark c = true) : split isMark (c :: t) = [] :: split isMark t := by
  rw [split]
  split
  · next hnil => exact absurd hnil (split_ne_nil isMark t)
  · next p ps hsplit => rw [if_pos hc, hsplit]

theorem split_cons (hc : isMark c = false) :
    split isMark (c :: t) = (split isMark t).modifyHead (c :: ·) := by
  rw [split]
  split
  · next hnil => exact absurd hnil (split_ne_nil isMark t)
  · next p ps hsplit => simp [hc, hsplit]

theorem split_append_mark (hc : isMark c = true) :
    split isMark (s ++ c :: t) = split isMark s ++ split isMark t := by
  induction s with
  | nil => exact split_mark hc
  | cons d s ih =>
    cases hd : isMark d with
    | true => rw [List.cons_append, split_mark hd, split_mark hd, ih, List.cons_append]
    | false =>
      obtain ⟨p, ps, hs⟩ := List.exists_cons_of_ne_nil (split_ne_nil isMark s)
      rw [List.cons_append, split_cons hd, split_cons hd, ih, hs]
      rfl

theorem split_of_unmarked (h : ∀ c ∈ t, isMark c = false) : split isMark t = [t] := by
  induction t with
  | nil => rfl
  | cons c t ih =>
    rw [split_cons (h c List.mem_cons_self), ih fun d hd => h d (List.mem_cons_of_mem c hd)]
    rfl

theorem split_of_not_mem (h : c ∉ t) : split (· = c) t = [t] := by
  refine split_of_unmarked fun d hd => decide_eq_false ?_
  rintro rfl
  exact h hd

/-- What holds no mark in front of a text is part of its first part. -/
theorem split_append_of_unmarked (h : ∀ c ∈ s, isMark c = false) :
    split isMark (s ++ t) = (split isMark t).modifyHead (s ++ ·) := by
  induction s with
  | nil => cases h : split isMark t <;> exact h
  | cons c s ih =>
    obtain ⟨hc, hs⟩ := List.forall_mem_cons.mp h
    rw [List.cons_append, split_cons hc, ih hs, List.modifyHead_modifyHead]
    rfl

/-- A text closes some parts of its own and begins the first part of what follows it. -/
theorem exists_split_left (isMark : Char → Bool) (s : Text) : ∃ before last, ∀ t,
    split isMark (s ++ t) = before ++ (split isMark t).modifyHead (last ++ ·) := by
  induction s with
  | nil =>
    refine ⟨[], [], fun t => ?_⟩
    cases h : split isMark t <;> exact h
  | cons c s ih =>
    obtain ⟨before, last, hsplit⟩ := ih
    cases hc : isMark c with
    | true =>
      refine ⟨[] :: before, last, fun t => ?_⟩
      rw [List.cons_append, split_mark hc, hsplit, List.cons_append]
    | false =>
      cases before with
      | nil =>
        refine ⟨[], c :: last, fun t => ?_⟩
        rw [List.cons_append, split_cons hc, hsplit, List.nil_append, List.modifyHead_modifyHead]
        rfl
      | cons b before =>
        refine ⟨(c :: b) :: before, last, fun t => ?_⟩
        rw [List.cons_append, split_cons hc, hsplit]
        rfl

/-- What holds no mark is added to the last part. -/
theorem exists_split_concat (isMark : Char → Bool) (t : Text) : ∃ front last, ∀ m : Text,
    (∀ c ∈ m, isMark c = false) → split isMark (t ++ m) = front ++ [last ++ m] := by
  obtain ⟨front, last, hsplit⟩ := exists_split_left isMark t
  refine ⟨front, last, fun m hm => ?_⟩
  rw [hsplit, split_of_unmarked hm]
  rfl

theorem sublist_of_mem_split {part : Text} (h : part ∈ split isMark t) : part.Sublist t := by
  induction t generalizing part with
  | nil =>
    rw [List.mem_singleton.mp h]
  | cons c t ih =>
    cases hc : isMark c with
    | true =>
      rw [split_mark hc] at h
      rcases List.mem_cons.mp h with rfl | h
      · exact List.nil_sublist _
      · exact (ih h).cons c
    | false =>
      obtain ⟨p, ps, hsplit⟩ := List.exists_cons_of_ne_nil (split_ne_nil isMark t)
      rw [split_cons hc, hsplit] at h
      rcases List.mem_cons.mp h with rfl | h
      · exact (ih (hsplit ▸ List.mem_cons_self)).cons_cons c
      · exact (ih (hsplit ▸ List.mem_cons_of_mem p h)).cons c

theorem not_isMark_of_mem_split {part : Text} (h : part ∈ split isMark t) :
    ∀ c ∈ part, isMark c = false := by
  induction t generalizing part with
  | nil =>
    rw [List.mem_singleton.mp h]
    exact List.forall_mem_nil _
  | cons d t ih =>
    cases hd : isMark d with
    | true =>
      rw [split_mark hd] at h
      rcases List.mem_cons.mp h with rfl | h
      · exact List.forall_mem_nil _
      · exact ih h
    | false =>
      obtain ⟨p, ps, hsplit⟩ := List.exists_cons_of_ne_nil (split_ne_nil isMark t)
      rw [split_cons hd, hsplit] at h
      rcases List.mem_cons.mp h with rfl | h
      · exact List.forall_mem_cons.mpr ⟨hd, ih (hsplit ▸ List.mem_cons_self)⟩
      · exact ih (hsplit ▸ List.mem_cons_of_mem p h)

/-- Between two texts, what holds no mark joins the last part of the first and the first part of the
second, and the other parts do not depend on it. -/
theorem exists_split_append (isMark : Char → Bool) (s t : Text) :
    ∃ before p q after, ∀ m : Text, (∀ c ∈ m, isMark c = false) →
      split isMark (s ++ m ++ t) = before ++ (p ++ m ++ q) :: after := by
  obtain ⟨before, p, hsplit⟩ := exists_split_left isMark s
  obtain ⟨q, after, ht⟩ := List.exists_cons_of_ne_nil (split_ne_nil isMark t)
  refine ⟨before, p, q, after, fun m hm => ?_⟩
  rw [List.append_assoc, hsplit, split_append_of_unmarked hm, ht, List.append_assoc]
  rfl

theorem join_cons {ps : List Text} (h : ps ≠ []) (separator p : Text) :
    join separator (p :: ps) = p ++ separator ++ join separator ps := by
  cases ps with
  | nil => exact absurd rfl h
  | cons q ps => rfl

/-- The parts with the mark between each two are the text again. -/
theorem join_split (c : Char) (t : Text) : join [c] (split (· = c) t) = t := by
  induction t with
  | nil => rfl
  | cons d t ih =>
    by_cases hd : d = c
    · rw [split_mark (decide_eq_true hd), join_cons (split_ne_nil _ t), ih, hd]
      rfl
    · obtain ⟨p, ps, hsplit⟩ := List.exists_cons_of_ne_nil (split_ne_nil (· = c) t)
      rw [hsplit] at ih
      rw [split_cons (decide_eq_false hd), hsplit, List.modifyHead_cons]
      cases ps with
      | nil => exact congrArg (d :: ·) ih
      | cons q ps => exact congrArg (d :: ·) ih

/-- Parts without the mark are found again when it stands between them. -/
theorem split_join {ps : List Text} (hne : ps ≠ []) (h : ∀ p ∈ ps, c ∉ p) :
    split (· = c) (join [c] ps) = ps := by
  induction ps with
  | nil => exact absurd rfl hne
  | cons p ps ih =>
    obtain ⟨hp, hrest⟩ := List.forall_mem_cons.mp h
    by_cases hps : ps = []
    · subst hps
      exact split_of_not_mem hp
    · rw [join_cons hps, List.append_assoc, List.singleton_append,
        split_append_mark (decide_eq_true rfl), split_of_not_mem hp, ih hps hrest,
        List.singleton_append]

end AutoProxy.Text
