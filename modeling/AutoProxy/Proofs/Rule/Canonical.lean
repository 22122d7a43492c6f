import AutoProxy.Proofs.Rule.Grammar

/-! Rules that their own text stands for. -/
namespace AutoProxy.Rule

open Domain Text

/-- Values in small letters that the grammar can name for the kind; any expression will do. -/
def Canonical (r : Rule) : Prop :=
  match r.kind with
  | .regex => True
  | .suffix | .exact => IsDomainOver Char.isLower r.value
  | .keyword => IsTokenOver Char.isLower r.value ∧ ¬ IsDomainOver Char.isLower r.value

variable {c : Char} {t v line : Text} {k : Kind} {w : Bool} {r : Rule}

theorem isBlank_of_isInner (hc : isInner Char.isAlpha c = true) : isBlank c = false :=
  forall_inner (P := fun c => isBlank c = false) (by decide +kernel) hc

theorem isDomainOver_lower (h : IsDomain t) : IsDomainOver Char.isLower (Text.lower t) := by
  rw [text_lower_eq (isInner_of_isDomainOver h), isDomainOver_isLower_iff]
  exact ⟨isDomain_lower_iff.mpr h, Domain.lower_lower t⟩

/-- One case for each constructor: the value is in small letters, and of the form that its kind
needs. -/
theorem canonical_of_names (h : Names t k v) : Canonical ⟨k, v, w⟩ := by
  cases h with
  | slash => trivial
  | regex => trivial
  | url _ hh _ => exact isDomainOver_lower hh
  | anchor hh _ => exact isDomainOver_lower hh
  | domain hh => exact isDomainOver_lower hh
  | keyword ht hh =>
    have hlower := text_lower_eq (isInner_of_isTokenOver ht)
    constructor
    · rw [hlower, isTokenOver_isLower_iff]
      exact ⟨isToken_lower ht, Domain.lower_lower t⟩
    · rw [hlower, isDomainOver_isLower_iff, isDomain_lower_iff]
      exact fun hdomain => hh hdomain.1
  | front _ hfront => exact isDomainOver_lower hfront.1

/-- Whatever a line without a line feed names is canonical. -/
theorem canonical_of_parse (hline : '\n' ∉ line) (h : parse line = some r) : r.Canonical := by
  rw [parse_eq_parseBody] at h
  exact canonical_of_names (names_of_parseBody (not_mem_unmarked hline) h).2

theorem text_lower_of_isLower (h : IsDomainOver Char.isLower v) :
    IsDomain v ∧ Text.lower v = v := by
  obtain ⟨hdomain, hlower⟩ := isDomainOver_isLower_iff.mp h
  exact ⟨hdomain, (text_lower_eq (isInner_of_isDomainOver hdomain)).trans hlower⟩

/-- The text without the whitelist marker names the rule by the constructor of its kind. -/
theorem names_body (h : r.Canonical) : Names r.body r.kind r.value := by
  obtain ⟨k, v, w⟩ := r
  cases k with
  | regex => exact .regex
  | suffix =>
    obtain ⟨hdomain, hlower⟩ := text_lower_of_isLower h
    have hnames := Names.anchor hdomain (Or.inl rfl : EndsHost [])
    rwa [hlower, List.append_nil] at hnames
  | exact =>
    obtain ⟨hdomain, hlower⟩ := text_lower_of_isLower h
    have hscheme : IsScheme "http".toList := Or.inl (List.forall₂_same.mpr fun c _ => Or.inl rfl)
    have hnames := Names.url hscheme hdomain (Or.inl rfl : EndsHost [])
    rw [hlower, List.append_nil] at hnames
    simpa [body] using hnames
  | keyword =>
    obtain ⟨htoken, hdomain⟩ := h
    obtain ⟨htoken, hlower⟩ := isTokenOver_isLower_iff.mp htoken
    have hlower' := (text_lower_eq (isInner_of_isTokenOver htoken)).trans hlower
    have hnames := Names.keyword htoken fun hd =>
      hdomain (isDomainOver_isLower_iff.mpr ⟨hd, hlower⟩)
    rwa [hlower'] at hnames

/-- A token begins and ends with a letter or digit. -/
theorem ends_of_isToken (h : IsToken t) :
    (∃ c, t.head? = some c ∧ isInner Char.isAlpha c = true) ∧
      ∃ d, t.getLast? = some d ∧ isInner Char.isAlpha d = true := by
  obtain ⟨c, inner, d, rfl, hc, -, hd⟩ := h
  exact ⟨⟨c, rfl, isInner_of_end hc⟩, ⟨d, List.getLast?_concat, isInner_of_end hd⟩⟩

/-- The text of a canonical rule starts like an anchor, an expression or a token. -/
theorem head_body (h : r.Canonical) :
    ∃ c, r.body.head? = some c ∧ (c = '/' ∨ c = '|' ∨ isInner Char.isAlpha c = true) := by
  obtain ⟨k, v, w⟩ := r
  cases k with
  | regex => exact ⟨'/', rfl, Or.inl rfl⟩
  | suffix => exact ⟨'|', rfl, Or.inr (Or.inl rfl)⟩
  | exact => exact ⟨'|', by simp [body], Or.inr (Or.inl rfl)⟩
  | keyword =>
    obtain ⟨⟨c, hc, hinner⟩, -⟩ := ends_of_isToken (isTokenOver_isLower_iff.mp h.1).1
    exact ⟨c, hc, Or.inr (Or.inr hinner)⟩

/-- No text of a rule ends in a blank: it ends in a letter, a digit or a slash. -/
theorem getLast_body (h : r.Canonical) : ∃ d, r.body.getLast? = some d ∧ isBlank d = false := by
  have hend (front : Text) (hv : IsToken r.value) :
      ∃ d, (front ++ r.value).getLast? = some d ∧ isBlank d = false := by
    obtain ⟨-, d, hd, hinner⟩ := ends_of_isToken hv
    exact ⟨d, by simp [List.getLast?_append, hd], isBlank_of_isInner hinner⟩
  obtain ⟨k, v, w⟩ := r
  cases k with
  | regex => exact ⟨'/', List.getLast?_concat (l := '/' :: v), by decide⟩
  | suffix => exact hend ['|', '|'] (text_lower_of_isLower h).1.isTokenOver
  | exact => exact hend _ (text_lower_of_isLower h).1.isTokenOver
  | keyword => exact hend [] (isTokenOver_isLower_iff.mp h.1).1

theorem ne_of_head {d : Char} (h : c = '/' ∨ c = '|' ∨ isInner Char.isAlpha c = true)
    (hd : d ≠ '/' ∧ d ≠ '|' ∧ isInner Char.isAlpha d = false) : c ≠ d := by
  rintro rfl
  simp [hd] at h

theorem isBlank_of_head (h : c = '/' ∨ c = '|' ∨ isInner Char.isAlpha c = true) :
    isBlank c = false := by
  rcases h with rfl | rfl | h
  · decide
  · decide
  · exact isBlank_of_isInner h

/-- No text of a rule begins like a comment. -/
theorem head_format (h : r.Canonical) :
    ∃ c, r.format.head? = some c ∧ c ≠ '!' ∧ c ≠ '[' ∧ isBlank c = false := by
  rw [format]
  split
  · exact ⟨'@', by simp [marker], by decide⟩
  · obtain ⟨c, hc, hhead⟩ := head_body h
    exact ⟨c, hc, ne_of_head hhead (by decide), ne_of_head hhead (by decide), isBlank_of_head hhead⟩

theorem getLast_format (h : r.Canonical) : ∃ d, r.format.getLast? = some d ∧ isBlank d = false := by
  obtain ⟨d, hd, hblank⟩ := getLast_body h
  rw [format]
  split
  · exact ⟨d, by simp [List.getLast?_append, hd], hblank⟩
  · exact ⟨d, hd, hblank⟩

theorem trim_format (h : r.Canonical) : Text.trim r.format = r.format := by
  obtain ⟨c, hc, -, -, hfirst⟩ := head_format h
  obtain ⟨d, hd, hlast⟩ := getLast_format h
  exact trim_of_ends (by simpa [hc] using hfirst) (by simpa [hd] using hlast)

theorem lineClass_format (h : r.Canonical) : LineClass.of r.format = .candidate := by
  obtain ⟨c, hc, hcomment, hheader, -⟩ := head_format h
  obtain ⟨rest, hrest⟩ := List.head?_eq_some_iff.mp hc
  rw [LineClass.of, trim_format h, hrest]
  simp [hcomment, hheader]

/-- The body of a rule does not begin with an at-sign, so the marker is there only if it was put
there. -/
theorem isMarked_format (h : r.Canonical) : isMarked r.format = r.whitelist := by
  rw [isMarked, trim_format h, format]
  split
  · next hw =>
    rw [hw, List.isPrefixOf_iff_prefix]
    exact List.prefix_append _ _
  · next hw =>
    rw [Bool.not_eq_true] at hw
    rw [hw, ← Bool.not_eq_true, List.isPrefixOf_iff_prefix]
    rintro ⟨rest, hrest⟩
    obtain ⟨c, hc, hhead⟩ := head_body h
    rw [← hrest] at hc
    exact ne_of_head hhead (d := '@') (by decide) (by simpa [marker, eq_comm] using hc)

theorem unmarked_format (h : r.Canonical) : unmarked r.format = r.body := by
  rw [unmarked, isMarked_format h, trim_format h, format]
  split
  · exact List.drop_left
  · rfl

/-- A canonical rule is read back from its text. -/
theorem parse_format (h : r.Canonical) : parse r.format = some r := by
  rw [parse_eq_parseBody, isMarked_format h, unmarked_format h, parseBody_of_names (names_body h)]

end AutoProxy.Rule
