import AutoProxy.Proofs.Rule.Canonical

/-! Which rules are read back from their own text. A value with a line feed at its end, which an
anchor can leave, is not: the line feed is trimmed off the text. -/
namespace AutoProxy.Rule

open Domain Text

variable {t h v z line d : Text} {k : Kind} {w : Bool} {r x : Rule}

theorem chomp_append_line_feed (t : Text) : (t ++ ['\n']).chomp = t := by
  induction t with
  | nil => rfl
  | cons c t ih =>
    rw [List.cons_append, Text.chomp, ih]
    simp

theorem hostRule?_of_line_feed (hh : IsDomain h) :
    hostRule? k w (h ++ ['\n']) = some ⟨k, Text.lower h ++ ['\n'], w⟩ := by
  have hlower : Domain.lower (h ++ ['\n']) = Domain.lower h ++ ['\n'] := List.map_append
  rw [hostRule?, isValid, chomp_append_line_feed, if_pos (isDomain_iff.mpr hh), hlower,
    text_lower_eq (isInner_of_isDomainOver hh)]

theorem anchoredHost_append_line_feed (hh : IsDomain h) (hz : EndsHost z) :
    anchoredHost (h ++ '\n' :: z) = h ++ ['\n'] := by
  have hmarks : ∀ c ∈ h ++ ['\n'], c ≠ '/' ∧ c ≠ '^' :=
    List.forall_mem_append.mpr ⟨ne_marks_of_isDomain hh, by simp⟩
  rw [← List.singleton_append, ← List.append_assoc, anchoredHost_append_of_marks hmarks hz]

theorem parseBody_of_spills (h : Spills t k v) : parseBody w t = some ⟨k, v, w⟩ := by
  cases h with
  | url hs hh hz =>
    rw [List.append_assoc, parseBody_of_isScheme hs, anchoredHost_append_line_feed hh hz,
      hostRule?_of_line_feed hh]
  | anchor hh hz =>
    exact (congrArg _ (anchoredHost_append_line_feed hh hz)).trans (hostRule?_of_line_feed hh)

theorem parse_eq_some_iff : parse line = some x ↔ x.whitelist = isMarked line ∧
    (Names (unmarked line) x.kind x.value ∨ Spills (unmarked line) x.kind x.value) := by
  rw [parse_eq_parseBody]
  constructor
  · exact names_or_spills_of_parseBody
  · rintro ⟨hw, hnames | hspills⟩
    · rw [parseBody_of_names hnames, ← hw]
    · rw [parseBody_of_spills hspills, ← hw]

theorem domain_of_spills (h : Spills t k v) :
    (k = .exact ∨ k = .suffix) ∧ ∃ d, IsDomainOver Char.isLower d ∧ v = d ++ ['\n'] := by
  cases h with
  | url _ hh _ => exact ⟨.inl rfl, _, isDomainOver_lower hh, rfl⟩
  | anchor hh _ => exact ⟨.inr rfl, _, isDomainOver_lower hh, rfl⟩

theorem not_isDomainOver_line_feed (d : Text) : ¬IsDomainOver Char.isLower (d ++ ['\n']) := by
  intro h
  have hinner := isInner_of_isDomainOver h '\n' (by simp)
  exact absurd hinner (by decide)

theorem parse_append_line_feed (line : Text) : parse (line ++ ['\n']) = parse line := by
  rw [parse, trim_append_blank rfl, parse]

/-- A domain ends the text of its rule, and so does what stands behind it. -/
theorem format_append (hk : k = .exact ∨ k = .suffix) (v t : Text) :
    format ⟨k, v ++ t, w⟩ = format ⟨k, v, w⟩ ++ t := by
  rcases hk with rfl | rfl <;> cases w <;> simp [format, body]

theorem parse_format_line_feed (hk : k = .exact ∨ k = .suffix) (hd : IsDomainOver Char.isLower d) :
    parse (format ⟨k, d ++ ['\n'], w⟩) = some ⟨k, d, w⟩ := by
  rw [format_append hk, parse_append_line_feed]
  refine parse_format ?_
  rcases hk with rfl | rfl <;> exact hd

/-- Only a canonical rule is read back: a line feed at the end of a domain would be lost. -/
theorem canonical_of_parse_format (h : parse r.format = some r) : r.Canonical := by
  obtain ⟨-, hnames | hspills⟩ := parse_eq_some_iff.mp h
  · exact canonical_of_names hnames
  · obtain ⟨k, v, w⟩ := r
    obtain ⟨hk, d, hd, rfl⟩ := domain_of_spills hspills
    rw [parse_format_line_feed hk hd] at h
    simp at h

/-- The canonical rules are those that are read back from their own text, and no line without a line
feed names any other. -/
theorem parse_format_iff_canonical :
    (∀ r : Rule, parse r.format = some r ↔ r.Canonical) ∧
      ∀ line r, '\n' ∉ line → parse line = some r → r.Canonical :=
  ⟨fun _ => ⟨canonical_of_parse_format, parse_format⟩, fun _ _ => canonical_of_parse⟩

theorem parse_format_iff_canonical_wildcard :
    let line := " @@*.Example.COM/x ".toList
    let r : Rule := ⟨.suffix, "example.com".toList, true⟩
    let s : Rule := ⟨.suffix, "example.com\n".toList, true⟩
    ('\n' ∉ line ∧ parse line = some r) ∧ r.Canonical ∧ parse r.format = some r ∧
      parse s.format = some r ∧ ¬ s.Canonical := by
  intro line r s
  have hline : '\n' ∉ line := by decide
  have hparse : parse line = some r := by decide
  have hcanonical := parse_format_iff_canonical.2 line r hline hparse
  have hlost : parse s.format = some r := by decide
  refine ⟨⟨hline, hparse⟩, hcanonical, (parse_format_iff_canonical.1 r).mpr hcanonical, hlost, ?_⟩
  intro hs
  have hback := (parse_format_iff_canonical.1 s).mpr hs
  rw [hlost] at hback
  exact absurd hback (by decide)

end AutoProxy.Rule
