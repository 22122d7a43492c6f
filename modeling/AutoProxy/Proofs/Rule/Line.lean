import AutoProxy.Proofs.Rule.RoundTrip

/-! What a line has that names a rule: a front that no comment has, and a dot if the rule is about
domains. -/
namespace AutoProxy.Rule

open Domain Text

/-- The text is not empty, and its first character begins no comment. -/
def BeginsRule (t : Text) : Prop := ∃ c, t.head? = some c ∧ c ≠ '!' ∧ c ≠ '['

variable {c : Char} {t h v line : Text} {k : Kind} {r : Rule}

theorem dot_mem_of_isDomain (h : IsDomain t) : '.' ∈ t := by
  obtain ⟨c, front, letters, rfl, -⟩ := h
  simp

/-- The domain is part of the text, in an anchor as well as without one. -/
theorem dot_mem_of_names (h : Names t k v) (hk : k = .suffix ∨ k = .exact) : '.' ∈ t := by
  cases h with
  | slash | regex | keyword => simp at hk
  | url hs hh hz =>
    have hdot := dot_mem_of_isDomain hh
    simp [hdot]
  | anchor hh hz =>
    have hdot := dot_mem_of_isDomain hh
    simp [hdot]
  | domain hh => exact dot_mem_of_isDomain hh
  | front ht hfront =>
    obtain ⟨hh, hpre, -⟩ := hfront
    have hdot := hpre.subset (dot_mem_of_isDomain hh)
    unfold withoutWildcard at hdot
    split at hdot
    · simp
    · exact hdot

theorem dot_mem_of_spills (h : Spills t k v) : '.' ∈ t := by
  cases h with
  | url hs hh hz | anchor hh hz =>
    have hdot := dot_mem_of_isDomain hh
    simp [hdot]

theorem dot_mem_of_parse (h : parse line = some r) (hk : r.kind = .suffix ∨ r.kind = .exact) :
    '.' ∈ line := by
  by_contra hdot
  apply not_mem_unmarked hdot
  obtain ⟨-, hnames | hspills⟩ := parse_eq_some_iff.mp h
  · exact dot_mem_of_names hnames hk
  · exact dot_mem_of_spills hspills

theorem beginsRule_of_isToken (h : IsToken t) : BeginsRule t := by
  obtain ⟨c, inner, d, rfl, hc, -⟩ := h
  have hinner := isInner_of_end hc
  exact ⟨c, rfl, ne_of_isInner hinner (by decide), ne_of_isInner hinner (by decide)⟩

theorem beginsRule_of_names (h : Names t k v) : BeginsRule t := by
  cases h with
  | slash | regex => exact ⟨'/', rfl, by decide, by decide⟩
  | url | anchor => exact ⟨'|', rfl, by decide, by decide⟩
  | domain hh => exact beginsRule_of_isToken hh.isTokenOver
  | keyword ht => exact beginsRule_of_isToken ht
  | @front _ h ht hfront =>
    obtain ⟨hh, ⟨rest, hrest⟩, -⟩ := hfront
    obtain ⟨c, hc, hne⟩ := beginsRule_of_isToken hh.isTokenOver
    unfold withoutWildcard at hrest
    split at hrest
    · exact ⟨'*', rfl, by decide, by decide⟩
    · refine ⟨c, ?_, hne⟩
      rw [← hrest, List.head?_append, hc]
      rfl

theorem beginsRule_of_spills (h : Spills t k v) : BeginsRule t := by
  cases h with
  | url | anchor => exact ⟨'|', rfl, by decide, by decide⟩

theorem lineClass_of_parse (h : parse line = some r) : LineClass.of line = .candidate := by
  have hbegins : BeginsRule (Text.trim line) := by
    obtain ⟨-, hbody⟩ := parse_eq_some_iff.mp h
    have hbody : BeginsRule (unmarked line) := hbody.elim beginsRule_of_names beginsRule_of_spills
    rw [unmarked] at hbody
    split at hbody
    · next hmarked =>
      obtain ⟨rest, hrest⟩ := List.isPrefixOf_iff_prefix.mp hmarked
      exact ⟨'@', by rw [← hrest]; rfl, by decide, by decide⟩
    · exact hbody
  obtain ⟨c, hc, hmark, hbracket⟩ := hbegins
  obtain ⟨rest, hrest⟩ := List.head?_eq_some_iff.mp hc
  rw [LineClass.of, hrest]
  simp [hmark, hbracket]

end AutoProxy.Rule
