import AutoProxy.Proofs.Rule.RoundTrip
import AutoProxy.Proofs.RuleSet.Membership

/-! The form of the values in a rule set, whatever the lines are that it was collected from. A line
feed before the end of an anchored host is taken for the end of the host, and is stored with it. -/
namespace AutoProxy

namespace Collection

variable {tally : Tally} {feed : List Text} {user : Option (List Text)} {c : Category} {v : Text}

open Domain Rule

/-- One of the lines has a line feed at the end of the host of an anchor, in the place `c`. -/
def IsSpilt (feed : List Text) (user : Option (List Text)) (c : Category) (v : Text) : Prop :=
  ∃ line, (line ∈ feed ∨ ∃ own, user = some own ∧ line ∈ own) ∧ LineClass.of line = .candidate ∧
    isMarked line = c.whitelist ∧ Spills (unmarked line) c.kind v

theorem mem_get_of_isSpilt (h : IsSpilt feed user c v) :
    v ∈ (ofLists tally feed user).rules.get c := by
  obtain ⟨line, hline, hclass, hmarked, hspills⟩ := h
  exact mem_get_ofLists.mpr
    ⟨line, hline, hclass, parse_eq_some_iff.mpr ⟨hmarked.symm, .inr hspills⟩⟩

theorem canonical_or_isSpilt (h : v ∈ (ofLists tally feed user).rules.get c) :
    Canonical ⟨c.kind, v, c.whitelist⟩ ∨ IsSpilt feed user c v := by
  obtain ⟨line, hline, hclass, hparse⟩ := mem_get_ofLists.mp h
  obtain ⟨hmarked, hnames | hspills⟩ := parse_eq_some_iff.mp hparse
  · exact .inl (canonical_of_names hnames)
  · exact .inr ⟨line, hline, hclass, hmarked.symm, hspills⟩

theorem isDomainOver_of_canonical (hkind : c.kind = .exact ∨ c.kind = .suffix)
    (h : Canonical ⟨c.kind, v, c.whitelist⟩) : IsDomainOver Char.isLower v := by
  rcases hkind with hkind | hkind <;> rwa [hkind] at h

/-- The values of a place for domains are domains in small letters, or such a domain with a line
feed behind it; all are domains exactly if no anchor spills. Keywords are tokens and no domains,
whatever the lines are. -/
theorem form_of_mem_get (tally : Tally) (feed : List Text) (user : Option (List Text)) :
    let s := (ofLists tally feed user).rules
    (∀ c, c.kind = .exact ∨ c.kind = .suffix →
      (∀ v ∈ s.get c,
        IsDomainOver Char.isLower v ∨ ∃ d, IsDomainOver Char.isLower d ∧ v = d ++ ['\n']) ∧
      ((∀ v ∈ s.get c, IsDomainOver Char.isLower v) ↔ ∀ v, ¬IsSpilt feed user c v)) ∧
    ∀ v ∈ s.get .keywords, IsTokenOver Char.isLower v ∧ ¬IsDomainOver Char.isLower v := by
  intro s
  refine ⟨fun c hkind => ⟨fun v hv => ?_, fun hall v hspilt => ?_, fun hnone v hv => ?_⟩,
    fun v hv => ?_⟩
  · rcases canonical_or_isSpilt hv with h | ⟨_, _, _, _, hspills⟩
    · exact .inl (isDomainOver_of_canonical hkind h)
    · exact .inr (domain_of_spills hspills).2
  · have hdomain := hall v (mem_get_of_isSpilt hspilt)
    obtain ⟨_, _, _, _, hspills⟩ := hspilt
    obtain ⟨d, -, rfl⟩ := (domain_of_spills hspills).2
    exact not_isDomainOver_line_feed d hdomain
  · have h := (canonical_or_isSpilt hv).resolve_right (hnone v)
    exact isDomainOver_of_canonical hkind h
  · rcases canonical_or_isSpilt hv with h | ⟨_, _, _, _, hspills⟩
    · exact h
    · rcases (domain_of_spills hspills).1 with hkind | hkind <;> cases hkind

/-- A line feed before the path of an anchor is stored as the end of its domain. -/
theorem not_isDomainOver_line_feed_before_slash :
    let s := (ofLists .zero ["||a.com\n/x".toList] none).rules
    "a.com\n".toList ∈ s.get .suffixBlock ∧ ¬IsDomainOver Char.isLower "a.com\n".toList := by
  intro s
  have hmem : "a.com\n".toList ∈ (s.get .suffixBlock).toList := by decide +kernel
  exact ⟨hmem, not_isDomainOver_line_feed "a.com".toList⟩

end Collection

end AutoProxy
