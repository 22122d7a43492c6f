import AutoProxy.Proofs.RuleSet.RoundTrip

/-! How many rules the lines of a list add to a rule set. -/
namespace AutoProxy.RuleSet

variable {s : RuleSet} {c : Category} {r : Rule} {line : Text} {lines : List Text}

theorem length_rules (s : RuleSet) : s.rules.length = s.size := by
  rw [← length_lines, lines, List.length_map]

theorem nodup_rules (s : RuleSet) : s.rules.Nodup := by
  have hplace (c : Category) :
      ((s.get c).toList.map fun v => (⟨c.kind, v, c.whitelist⟩ : Rule)).Nodup := by
    apply List.Nodup.map
    · intro u v h
      simpa using h
    · refine (s.get c).sorted.imp fun {u v} h => ?_
      rintro rfl
      exact List.lt_irrefl u h
  refine List.nodup_flatMap.mpr ⟨fun c _ => hplace c, ?_⟩
  -- Two places differ in their kind or in their side.
  have hapart :
      Category.all.Pairwise fun c d => ¬ (c.kind = d.kind ∧ c.whitelist = d.whitelist) := by
    decide
  refine hapart.imp fun {c d} hne => ?_
  rw [Function.onFun, List.disjoint_left]
  intro r hc hd
  obtain ⟨u, -, rfl⟩ := List.mem_map.mp hc
  obtain ⟨v, -, hr⟩ := List.mem_map.mp hd
  rw [Rule.mk.injEq] at hr
  exact hne ⟨hr.1.symm, hr.2.2.symm⟩

/-- The line adds its rule to a set, or finds it there. -/
def isKept (line : Text) : Bool := (addition? line).isSome

/-- What the lines that are kept read as, each for itself. -/
def keptRules (lines : List Text) : List (Option Rule) := (lines.filter isKept).map Rule.parse

theorem parse_eq_some_of_isKept (h : isKept line = true) :
    ∃ c v, addition? line = some (c, v) ∧ Rule.parse line = some ⟨c.kind, v, c.whitelist⟩ := by
  obtain ⟨⟨c, v⟩, hadd⟩ := Option.isSome_iff_exists.mp h
  exact ⟨c, v, hadd, (addition?_eq_some_iff.mp hadd).2⟩

theorem none_not_mem_keptRules : none ∉ keptRules lines := by
  intro h
  obtain ⟨line, hline, hnone⟩ := List.mem_map.mp h
  obtain ⟨c, v, -, hparse⟩ := parse_eq_some_of_isKept (List.mem_filter.mp hline).2
  rw [hnone] at hparse
  cases hparse

theorem mem_keptRules_iff : some r ∈ keptRules lines ↔
    ∃ c v, r = ⟨c.kind, v, c.whitelist⟩ ∧ ∃ line ∈ lines, addition? line = some (c, v) := by
  rw [keptRules, List.mem_map]
  constructor
  · rintro ⟨line, hline, hparse⟩
    obtain ⟨hmem, hkept⟩ := List.mem_filter.mp hline
    obtain ⟨c, v, hadd, hparse'⟩ := parse_eq_some_of_isKept hkept
    rw [hparse, Option.some_inj] at hparse'
    exact ⟨c, v, hparse', line, hmem, hadd⟩
  · rintro ⟨c, v, rfl, line, hline, hadd⟩
    refine ⟨line, List.mem_filter.mpr ⟨hline, ?_⟩, (addition?_eq_some_iff.mp hadd).2⟩
    rw [isKept, hadd]
    rfl

theorem mem_rules_addLines :
    r ∈ (s.addLines lines).1.rules ↔ r ∈ s.rules ∨ some r ∈ keptRules lines := by
  simp only [mem_rules, mem_keptRules_iff, mem_get_addLines]
  constructor
  · rintro ⟨c, v, hv | hadd, rfl⟩
    · exact .inl ⟨c, v, hv, rfl⟩
    · exact .inr ⟨c, v, rfl, hadd⟩
  · rintro (⟨c, v, hv, rfl⟩ | ⟨c, v, rfl, hadd⟩)
    · exact ⟨c, v, .inl hv, rfl⟩
    · exact ⟨c, v, .inr hadd, rfl⟩

/-- Each line that is processed and not dropped is kept. -/
theorem length_keptRules (lines : List Text) :
    (keptRules lines).length + (account lines).dropped = (account lines).processed := by
  have hkept (line : Text) : isKept line = true → LineClass.of line = .candidate := by
    intro h
    obtain ⟨c, v, hadd, -⟩ := parse_eq_some_of_isKept h
    exact (addition?_eq_some_iff.mp hadd).1
  rw [keptRules, List.length_map, ← List.countP_eq_length_filter]
  simp only [account]
  induction lines with
  | nil => rfl
  | cons line lines ih =>
    simp only [List.countP_cons]
    cases h : isKept line with
    | true =>
      have hclass := hkept line h
      rw [isKept] at h
      simp [hclass, Option.isNone_eq_false_iff.mpr h]
      omega
    | false =>
      rw [isKept, Option.isSome_eq_false_iff] at h
      by_cases hclass : LineClass.of line = .candidate
      · simp [hclass, h]
        omega
      · simp [hclass]
        omega

/-- The rules of the second set that the first one has not. -/
def gained (s t : RuleSet) : List Rule := t.rules.filter (· ∉ s.rules)

/-- No line adds more than its own rule, and what the set has already is not added. -/
theorem length_gained_addLines (s : RuleSet) (lines : List Text) :
    (gained s (s.addLines lines).1).length ≤ (keptRules lines).length := by
  have hnodup : ((gained s (s.addLines lines).1).map some).Nodup :=
    ((nodup_rules _).filter _).map (Option.some_injective Rule)
  have hsub : (gained s (s.addLines lines).1).map some ⊆ keptRules lines := by
    intro x hx
    obtain ⟨r, hr, rfl⟩ := List.mem_map.mp hx
    obtain ⟨hmem, hnew⟩ := List.mem_filter.mp hr
    rcases mem_rules_addLines.mp hmem with hold | hkept
    · simp [hold] at hnew
    · exact hkept
  have hle := (hnodup.subperm hsub).length_le
  rwa [List.length_map] at hle

/-- A set that holds what the lines add and nothing else has no more rules than lines were kept, and
as many only if each of these lines has a rule of its own. -/
theorem size_of_mem_rules_iff (h : ∀ r, r ∈ s.rules ↔ some r ∈ keptRules lines) :
    s.size ≤ (keptRules lines).length ∧
      (s.size = (keptRules lines).length ↔ (keptRules lines).Nodup) := by
  have hnodup : (s.rules.map some).Nodup := (nodup_rules s).map (Option.some_injective Rule)
  have hlength : (s.rules.map some).length = s.size := by rw [List.length_map, length_rules]
  have hmem (x : Option Rule) : x ∈ s.rules.map some ↔ x ∈ keptRules lines := by
    cases x with
    | none => simp [none_not_mem_keptRules]
    | some r => simp [h]
  have hsub : (s.rules.map some).Subperm (keptRules lines) :=
    hnodup.subperm fun x hx => (hmem x).mp hx
  rw [← hlength]
  refine ⟨hsub.length_le, fun heq => ?_, fun hkept => ?_⟩
  · have hperm := hsub.perm_of_length_le heq.ge
    exact hperm.nodup_iff.mp hnodup
  · exact ((List.perm_ext_iff_of_nodup hnodup hkept).mpr hmem).length_eq

end AutoProxy.RuleSet
