import AutoProxy.Proofs.Rule.Canonical
import AutoProxy.Proofs.RuleSet.Membership

/-! A rule set read back from its own lines. -/
namespace AutoProxy

namespace RuleSet

variable {s : RuleSet} {c d : Category} {r : Rule} {v line : Text} {lines : List Text}

/-- Every value in the set is canonical for its place. -/
def IsCanonical (s : RuleSet) : Prop := ∀ c, ∀ v ∈ s.get c, Rule.Canonical ⟨c.kind, v, c.whitelist⟩

theorem mem_rules : r ∈ s.rules ↔ ∃ c, ∃ v ∈ s.get c, r = ⟨c.kind, v, c.whitelist⟩ := by
  have hall (c : Category) : c ∈ Category.all := by cases c <;> decide
  simp only [rules, List.mem_flatMap, List.mem_map, hall, true_and, @eq_comm _ _ r]
  exact Iff.rfl

theorem addition?_format (h : r.Canonical) (hr : r = ⟨c.kind, v, c.whitelist⟩) :
    addition? r.format = some (c, v) := by
  rw [addition?_eq_some_iff, ← hr]
  exact ⟨Rule.lineClass_format h, Rule.parse_format h⟩

theorem addition?_of_mem_lines (hs : s.IsCanonical) (hline : line ∈ s.lines) :
    ∃ c, ∃ v ∈ s.get c, addition? line = some (c, v) := by
  obtain ⟨r, hr, rfl⟩ := List.mem_map.mp hline
  obtain ⟨c, v, hv, rfl⟩ := mem_rules.mp hr
  exact ⟨c, v, hv, addition?_format (hs c v hv) rfl⟩

/-- The lines of a canonical set add to another set what the set holds, and nothing else. -/
theorem exists_mem_lines_iff (hs : s.IsCanonical) :
    (∃ line ∈ s.lines, addition? line = some (c, v)) ↔ v ∈ s.get c := by
  constructor
  · rintro ⟨line, hline, hadd⟩
    obtain ⟨d, u, hu, hadd'⟩ := addition?_of_mem_lines hs hline
    obtain ⟨rfl, rfl⟩ : d = c ∧ u = v := by simpa [hadd] using hadd'.symm
    exact hu
  · intro hv
    have hrule : (⟨c.kind, v, c.whitelist⟩ : Rule) ∈ s.rules := mem_rules.mpr ⟨c, v, hv, rfl⟩
    exact ⟨_, List.mem_map_of_mem hrule, addition?_format (hs c v hv) rfl⟩

theorem fst_addLines_lines (hs : s.IsCanonical) : (empty.addLines s.lines).1 = s := by
  refine ext_get fun c => TextSet.ext_mem fun v => ?_
  rw [mem_get_addLines, exists_mem_lines_iff hs]
  simp [not_mem_get_empty]

/-- How many values a set holds in all places. -/
def size (s : RuleSet) : Nat := (Category.all.map fun c => (s.get c).size).sum

theorem length_lines (s : RuleSet) : s.lines.length = s.size := by
  simp [lines, rules, size, List.length_flatMap, TextSet.size]

theorem account_lines (hs : s.IsCanonical) : account s.lines = ⟨s.size, 0, 0, s.size, 0⟩ := by
  have hclass : ∀ line ∈ s.lines, LineClass.of line = .candidate := by
    intro line hline
    obtain ⟨c, v, -, hadd⟩ := addition?_of_mem_lines hs hline
    exact (addition?_eq_some_iff.mp hadd).1
  have hkept : ∀ line ∈ s.lines, (addition? line).isNone = false := by
    intro line hline
    obtain ⟨c, v, -, hadd⟩ := addition?_of_mem_lines hs hline
    rw [hadd]
    rfl
  simp only [account, Count.mk.injEq]
  refine ⟨length_lines s, ?_, ?_, ?_, ?_⟩
  · rw [List.countP_eq_zero]
    intro line hline
    simp [hclass line hline]
  · rw [List.countP_eq_zero]
    intro line hline
    simp [hclass line hline]
  · rw [← length_lines, List.countP_eq_length]
    intro line hline
    simp [hclass line hline]
  · rw [List.countP_eq_zero]
    intro line hline
    simp [hkept line hline]

end RuleSet

namespace Collection

variable {tally : Tally} {feed : List Text} {user : Option (List Text)}

theorem isCanonical_ofLists (hfeed : ∀ line ∈ feed, '\n' ∉ line)
    (huser : ∀ own, user = some own → ∀ line ∈ own, '\n' ∉ line) :
    (ofLists tally feed user).rules.IsCanonical := by
  intro c v hv
  obtain ⟨line, hline, -, hparse⟩ := mem_get_ofLists.mp hv
  refine Rule.canonical_of_parse ?_ hparse
  rcases hline with hline | ⟨own, hown, hline⟩
  · exact hfeed line hline
  · exact huser own hown line hline

/-- The lines of a rule set give the same set again, each line kept, and so the same lines. -/
theorem ofLists_lines (tally : Tally) (hfeed : ∀ line ∈ feed, '\n' ∉ line)
    (huser : ∀ own, user = some own → ∀ line ∈ own, '\n' ∉ line) :
    let s := (ofLists tally feed user).rules
    let n := (Category.all.map fun c => (s.get c).size).sum
    let again := ofLists .zero s.lines none
    again.rules = s ∧ again.tally.overall = ⟨n, 0, 0, n, 0⟩ ∧
      again.tally.bySource = [(feedName, ⟨n, 0, 0, n, 0⟩)] ∧ again.rules.lines = s.lines := by
  have hcanonical : (ofLists tally feed user).rules.IsCanonical := isCanonical_ofLists hfeed huser
  have hrules := RuleSet.fst_addLines_lines hcanonical
  have hcount := (RuleSet.snd_addLines .empty _).trans (RuleSet.account_lines hcanonical)
  refine ⟨hrules, ?_, ?_, congrArg _ hrules⟩
  · rw [← RuleSet.size, ← hcount]
    exact Count.zero_add _
  · rw [← RuleSet.size, ← hcount]
    rfl

theorem ofLists_lines_odd_expressions :
    let feed := ["/".toList, " / a^/ ".toList, "@@//".toList]
    let own := ["Ads".toList, "*.b.com/x".toList]
    ((∀ line ∈ feed, '\n' ∉ line) ∧ ∀ line ∈ own, '\n' ∉ line) ∧
      (ofLists .zero (ofLists .zero feed (some own)).rules.lines none).tally.overall =
        ⟨5, 0, 0, 5, 0⟩ := by
  intro feed own
  have hfeed : ∀ line ∈ feed, '\n' ∉ line := by decide
  have hown : ∀ line ∈ own, '\n' ∉ line := by decide
  have huser : ∀ lines, some own = some lines → ∀ line ∈ lines, '\n' ∉ line := by
    rintro _ ⟨⟩
    exact hown
  have hsize : (ofLists .zero feed (some own)).rules.size = 5 := by decide +kernel
  have hagain := (ofLists_lines .zero hfeed huser).2.1
  rw [← RuleSet.size, hsize] at hagain
  exact ⟨⟨hfeed, hown⟩, hagain⟩

end Collection

end AutoProxy
