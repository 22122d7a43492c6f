import AutoProxy.Text.Basic
import Mathlib

/-! What replacing the first occurrence of a text changes. -/
namespace AutoProxy.Text

variable {old new s t rest : Text}

theorem replaceFirst_of_after? (h : after? old t = some rest) :
    replaceFirst old new t = new ++ rest := by
  cases t with
  | nil =>
    obtain ⟨rfl, rfl⟩ := List.append_eq_nil_iff.mp (eq_append_of_after? h).symm
    simp [replaceFirst]
  | cons c t => rw [replaceFirst, h]

/-- One occurrence is replaced, or there is none. -/
theorem replaceFirst_cases (old t : Text) :
    (∀ new, replaceFirst old new t = t) ∨
      ∃ p q, t = p ++ old ++ q ∧ ∀ new, replaceFirst old new t = p ++ new ++ q := by
  induction t with
  | nil =>
    cases old with
    | nil => exact .inr ⟨[], [], rfl, fun new => by simp [replaceFirst]⟩
    | cons d old => exact .inl fun new => rfl
  | cons c t ih =>
    cases hafter : after? old (c :: t) with
    | some rest =>
      refine .inr ⟨[], rest, eq_append_of_after? hafter, fun new => ?_⟩
      exact replaceFirst_of_after? hafter
    | none =>
      have hstep (new : Text) : replaceFirst old new (c :: t) = c :: replaceFirst old new t := by
        rw [replaceFirst, hafter]
      rcases ih with hnone | ⟨p, q, ht, hreplace⟩
      · exact .inl fun new => by rw [hstep, hnone]
      · refine .inr ⟨c :: p, q, by rw [ht]; rfl, fun new => ?_⟩
        rw [hstep, hreplace]
        rfl

/-- What ends in a character foreign to `old` and does not hold it stays in front of it. -/
theorem replaceFirst_append (hout : ¬ old <:+: s) (hlast : ∀ c ∈ s.getLast?, c ∉ old) :
    replaceFirst old new (s ++ old ++ t) = s ++ new ++ t := by
  induction s with
  | nil => exact replaceFirst_of_after? (after?_append old t)
  | cons c s ih =>
    have hnone : after? old (c :: (s ++ old ++ t)) = none := by
      rw [Option.eq_none_iff_forall_ne_some]
      intro rest hafter
      have hold : old <+: c :: s ++ (old ++ t) := ⟨rest, by simp [← eq_append_of_after? hafter]⟩
      rcases List.prefix_or_prefix_of_prefix hold (List.prefix_append (c :: s) _) with h | h
      · exact hout h.isInfix
      · have hmem := List.getLast_mem (List.cons_ne_nil c s)
        exact hlast _ (List.getLast?_eq_some_getLast (List.cons_ne_nil c s)) (h.subset hmem)
    rw [List.cons_append, List.cons_append, replaceFirst, hnone]
    refine congrArg _ (ih (fun h => hout (List.infix_cons h)) fun d hd => hlast d ?_)
    cases s with
    | nil => simp at hd
    | cons e s => rwa [List.getLast?_cons_cons]

end AutoProxy.Text
