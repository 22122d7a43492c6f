import AutoProxy.Proofs.RuleSet.Membership

/-! Collected rules are the union of what the lines name. The order of the lines, how often one of
them stands there and which of the two lists it is in leave no trace. -/
namespace AutoProxy

/-- Each place holds what it holds in one of the two sets, and nothing else. -/
def RuleSet.IsUnion (s a b : RuleSet) : Prop := ∀ c v, v ∈ s.get c ↔ v ∈ a.get c ∨ v ∈ b.get c

namespace Collection

variable {tally tally' : Tally} {feed feed' : List Text} {user user' : Option (List Text)}
  {c : Category} {v line : Text}

/-- Blank lines, comments, lines that name no rule, and keywords on the whitelist. -/
def IsIdle (line : Text) : Prop :=
  LineClass.of line = .blank ∨ LineClass.of line = .comment ∨ Rule.parse line = none ∨
    ∃ v, Rule.parse line = some ⟨.keyword, v, true⟩

theorem not_isIdle_of_addition (h : RuleSet.addition? line = some (c, v)) : ¬ IsIdle line := by
  obtain ⟨hclass, hparse⟩ := RuleSet.addition?_eq_some_iff.mp h
  rintro (hblank | hcomment | hnone | ⟨u, hkeyword⟩)
  · simp [hclass] at hblank
  · simp [hclass] at hcomment
  · simp [hparse] at hnone
  · rw [hparse, Option.some_inj, Rule.mk.injEq] at hkeyword
    cases c <;> simp [Category.kind, Category.whitelist] at hkeyword

/-- The lines of both lists, the feed first. -/
def allLines (feed : List Text) (user : Option (List Text)) : List Text := feed ++ user.getD []

theorem mem_allLines_iff :
    line ∈ allLines feed user ↔ line ∈ feed ∨ ∃ own, user = some own ∧ line ∈ own := by
  cases user <;> simp [allLines]

theorem isListed_iff {r : Rule} : IsListed feed user r ↔
    ∃ line ∈ allLines feed user, LineClass.of line = .candidate ∧ Rule.parse line = some r := by
  simp only [IsListed, mem_allLines_iff]

theorem mem_get_ofLists_iff_addition : v ∈ (ofLists tally feed user).rules.get c ↔
    ∃ line ∈ allLines feed user, RuleSet.addition? line = some (c, v) := by
  rw [mem_get_ofLists, isListed_iff]
  simp only [RuleSet.addition?_eq_some_iff]

/-- Sets are equal if the lines that are not idle are the same. -/
theorem rules_congr
    (h : ∀ line, ¬ IsIdle line → (line ∈ allLines feed user ↔ line ∈ allLines feed' user')) :
    (ofLists tally feed user).rules = (ofLists tally' feed' user').rules := by
  refine RuleSet.ext_get fun c => TextSet.ext_mem fun v => ?_
  rw [mem_get_ofLists_iff_addition, mem_get_ofLists_iff_addition]
  constructor
  · rintro ⟨line, hline, hadd⟩
    exact ⟨line, (h line (not_isIdle_of_addition hadd)).mp hline, hadd⟩
  · rintro ⟨line, hline, hadd⟩
    exact ⟨line, (h line (not_isIdle_of_addition hadd)).mpr hline, hadd⟩

theorem isUnion_append (tally tally' : Tally) (xs ys : List Text) :
    (ofLists tally (xs ++ ys) none).rules.IsUnion (ofLists tally' xs none).rules
      (ofLists tally' ys none).rules := by
  intro c v
  simp only [mem_get_ofLists_iff_addition, allLines, Option.getD_none, List.append_nil,
    List.mem_append, or_and_right, exists_or]

/-- A value is in its place exactly if a line names it there. So lists that are joined give the
union of what each gives, two lists can be exchanged or read as one, a missing list is an empty one,
and lists with the same lines, idle ones aside, give the same rules: lines may be moved, repeated or
left out where they are repeated. -/
theorem ofLists_union (tally tally' : Tally) :
    (∀ feed user c v, v ∈ (ofLists tally feed user).rules.get c ↔
      ∃ line ∈ allLines feed user,
        LineClass.of line = .candidate ∧ Rule.parse line = some ⟨c.kind, v, c.whitelist⟩) ∧
    (∀ xs ys, (ofLists tally (xs ++ ys) none).rules.IsUnion (ofLists tally' xs none).rules
      (ofLists tally' ys none).rules) ∧
    (∀ xs ys, (ofLists tally xs (some ys)).rules = (ofLists tally' ys (some xs)).rules ∧
      (ofLists tally xs (some ys)).rules = (ofLists tally' (xs ++ ys) none).rules) ∧
    (∀ xs, (ofLists tally xs none).rules = (ofLists tally' xs (some [])).rules) ∧
    ∀ feed user feed' user',
      (∀ line, ¬ IsIdle line → (line ∈ allLines feed user ↔ line ∈ allLines feed' user')) →
        (ofLists tally feed user).rules = (ofLists tally' feed' user').rules := by
  refine ⟨?_, ?_, ?_, ?_, ?_⟩
  · intro feed user c v
    rw [mem_get_ofLists, isListed_iff]
  · intro xs ys
    exact isUnion_append tally tally' xs ys
  · intro xs ys
    constructor
    · apply rules_congr
      intro line _
      simp [allLines, or_comm]
    · apply rules_congr
      intro line _
      simp [allLines]
  · intro xs
    apply rules_congr
    intro line _
    simp [allLines]
  · intro feed user feed' user' h
    exact rules_congr h

theorem ofLists_union_idle_lines :
    let feed := ["||a.com".toList, "! x".toList, "ads".toList, "||a.com".toList]
    let feed' := ["ads".toList]
    let own := [[], "@@ads".toList, "a b".toList, "||a.com".toList]
    (∀ line, ¬ IsIdle line → (line ∈ allLines feed none ↔ line ∈ allLines feed' (some own))) ∧
      (ofLists .zero feed none).rules = (ofLists .zero feed' (some own)).rules := by
  intro feed feed' own
  have hcomment : IsIdle "! x".toList := .inr (.inl (by decide))
  have hblank : IsIdle [] := .inl (by decide)
  have hkeyword : IsIdle "@@ads".toList := .inr (.inr (.inr ⟨"ads".toList, by decide⟩))
  have hnone : IsIdle "a b".toList := .inr (.inr (.inl (by decide)))
  have hlines : ∀ line, ¬ IsIdle line →
      (line ∈ allLines feed none ↔ line ∈ allLines feed' (some own)) := by
    intro line hline
    have hne {idle : Text} (h : IsIdle idle) : line ≠ idle := by
      rintro rfl
      exact hline h
    have hsides : line ∈ allLines feed none ↔
        line = "||a.com".toList ∨ line = "! x".toList ∨ line = "ads".toList := by
      simp only [allLines, feed, Option.getD_none, List.append_nil, List.mem_cons, List.not_mem_nil]
      tauto
    rw [hsides]
    simp only [allLines, feed', own, Option.getD_some, List.cons_append, List.nil_append,
      List.mem_cons, List.not_mem_nil, hne hcomment, hne hblank, hne hkeyword, hne hnone]
    tauto
  exact ⟨hlines, (ofLists_union .zero .zero).2.2.2.2 feed none feed' (some own) hlines⟩

end Collection

end AutoProxy
