import AutoProxy.Proofs.Feed
import AutoProxy.Proofs.RuleSet.Form
import AutoProxy.Proofs.RuleSet.RoundTrip
import AutoProxy.Proofs.RuleSet.Size

/-! Rule sets that are saved as lists and got again from the file. What looks encoded is not. -/
namespace AutoProxy

open Text

namespace Rule

variable {r : Rule} {line : Text} {c : Char}

theorem not_isLineEnd_of_isInner (h : Domain.isInner Char.isLower c = true) :
    isLineEnd c = false :=
  Domain.forall_inner (P := fun c => isLineEnd c = false) (by decide +kernel)
    (Domain.isInner_imp Domain.isAlpha_of_isLower h)

/-- An expression is part of its line, and other values hold no such character at all. -/
theorem not_isLineEnd_of_parse (hline : ∀ c ∈ line, isLineEnd c = false)
    (h : parse line = some r) : ∀ c ∈ r.value, isLineEnd c = false := by
  have hcanonical := canonical_of_parse (line_feed_not_mem hline) h
  obtain ⟨k, v, w⟩ := r
  cases k with
  | regex =>
    obtain ⟨-, hnames | hspills⟩ := parse_eq_some_iff.mp h
    · generalize ht : unmarked line = t at hnames
      cases hnames with
      | slash => exact List.forall_mem_nil _
      | regex =>
        intro c hc
        by_contra hend
        have hmem : c ∉ unmarked line := not_mem_unmarked fun hmem => hend (hline c hmem)
        exact hmem (ht ▸ by simp [hc])
    · exact absurd (domain_of_spills hspills).1 (by simp)
  | suffix =>
    intro c hc
    exact not_isLineEnd_of_isInner (Domain.isInner_of_isDomainOver hcanonical c hc)
  | exact =>
    intro c hc
    exact not_isLineEnd_of_isInner (Domain.isInner_of_isDomainOver hcanonical c hc)
  | keyword =>
    intro c hc
    exact not_isLineEnd_of_isInner (Domain.isInner_of_isTokenOver hcanonical.1 c hc)

/-- Even an empty expression is written with its slashes. -/
theorem format_ne_nil (h : r.Canonical) : r.format ≠ [] := by
  obtain ⟨c, hhead, -⟩ := head_format h
  intro hnil
  rw [hnil] at hhead
  cases hhead

/-- A line that names a rule is not passed over as blank. -/
theorem not_isAllBlank_format (h : r.Canonical) : ¬ isAllBlank r.format = true := by
  obtain ⟨c, hhead, -, -, hblank⟩ := head_format h
  intro hall
  have hc := List.all_eq_true.mp hall c (List.mem_of_head? hhead)
  rw [hblank] at hc
  cases hc

theorem not_isLineEnd_format (h : ∀ c ∈ r.value, isLineEnd c = false) :
    ∀ c ∈ r.format, isLineEnd c = false := by
  obtain ⟨k, v, w⟩ := r
  have hbody : ∀ c ∈ body ⟨k, v, w⟩, isLineEnd c = false := by
    cases k with
    | regex =>
      exact List.forall_mem_cons.mpr
        ⟨rfl, List.forall_mem_append.mpr ⟨h, List.forall_mem_singleton.mpr rfl⟩⟩
    | suffix => exact List.forall_mem_cons.mpr ⟨rfl, List.forall_mem_cons.mpr ⟨rfl, h⟩⟩
    | exact => exact List.forall_mem_append.mpr ⟨by simp [isLineEnd], h⟩
    | keyword => exact h
  rw [format]
  split
  · exact List.forall_mem_append.mpr ⟨by simp [marker, isLineEnd], hbody⟩
  · exact hbody

theorem length_unmarked_le (line : Text) : (unmarked line).length ≤ line.length := by
  have htrim : (trim line).length ≤ line.length :=
    (trimEnd_isPrefix _).length_le.trans (trimStart_isSuffix line).length_le
  rw [unmarked]
  split
  · rw [List.length_drop]
    omega
  · exact htrim

/-- The empty expression, which a lone slash names. -/
def slashes : Rule := ⟨.regex, [], false⟩

/-- A line that names a keyword or an expression is no shorter than the text of the rule, the lone
slash aside. -/
theorem length_format_le (hw : r.whitelist = false) (hkind : r.kind = .keyword ∨ r.kind = .regex)
    (h : parse line = some r) : r.format.length ≤ line.length + if r = slashes then 1 else 0 := by
  have hlength := length_unmarked_le line
  obtain ⟨k, v, w⟩ := r
  obtain rfl : w = false := hw
  obtain ⟨-, hnames | hspills⟩ := parse_eq_some_iff.mp h
  · generalize unmarked line = t at hlength hnames
    cases hnames with
    | slash => simpa [format, body, slashes] using hlength
    | regex => exact hlength.trans (Nat.le_add_right _ _)
    | keyword htoken =>
      have hlower := Domain.text_lower_eq (Domain.isInner_of_isTokenOver htoken)
      have hvalue : (Text.lower t).length = t.length := by
        rw [hlower, Domain.lower, List.length_map]
      exact (hvalue.trans_le hlength).trans (Nat.le_add_right _ _)
    | url => simp at hkind
    | anchor => simp at hkind
    | domain => simp at hkind
    | front => simp at hkind
  · rcases (domain_of_spills hspills).1 with rfl | rfl <;> simp at hkind

/-- Nothing tells the text of the rule from encoded data. -/
def IsCodelike (r : Rule) : Prop :=
  r.whitelist = false ∧ (r.kind = .keyword ∨ r.kind = .regex) ∧
    ∀ c ∈ r.value, Base64.isEncodedChar c = true ∨ isBlank c = true

/-- Only blocked keywords and expressions are written without a mark that no encoding has. -/
theorem all_format_iff :
    (r.format.all fun c => Base64.isEncodedChar c || isBlank c) = true ↔ r.IsCodelike := by
  have hslash : Base64.isEncodedChar '/' = true := rfl
  have hbar : Base64.isEncodedChar '|' = false := rfl
  have hat : Base64.isEncodedChar '@' = false := rfl
  have hbar' : isBlank '|' = false := rfl
  have hat' : isBlank '@' = false := rfl
  obtain ⟨k, v, w⟩ := r
  cases w with
  | true => simp [format, marker, hat, hat', IsCodelike]
  | false => cases k <;> simp [format, body, hslash, hbar, hbar', IsCodelike]

end Rule

namespace RuleSet

variable {a : RuleSet} {r : Rule} {t : Text}

/-- The lines of a rule set as one text. -/
def saved (a : RuleSet) : Text := join ['\n'] a.lines

theorem canonical_of_mem_rules (h : a.IsCanonical) (hr : r ∈ a.rules) : r.Canonical := by
  obtain ⟨c, v, hv, rfl⟩ := mem_rules.mp hr
  exact h c v hv

/-- The text of the lines looks encoded if each of them does and there is one. -/
theorem looksEncoded_saved_iff (h : a.IsCanonical) :
    Base64.looksEncoded a.saved = true ↔ a.rules ≠ [] ∧ ∀ r ∈ a.rules, r.IsCodelike := by
  have hall : (a.saved.all fun c => Base64.isEncodedChar c || isBlank c) = true ↔
      ∀ r ∈ a.rules, r.IsCodelike := by
    rw [saved, all_join rfl, List.all_eq_true, lines, List.forall_mem_map]
    exact forall₂_congr fun r _ => Rule.all_format_iff
  have hblank : isAllBlank a.saved = true ↔ a.rules = [] := by
    rw [saved, isAllBlank, all_join rfl, List.all_eq_true, lines, List.forall_mem_map]
    constructor
    · intro hall
      refine List.eq_nil_iff_forall_not_mem.mpr fun r hr => ?_
      exact Rule.not_isAllBlank_format (canonical_of_mem_rules h hr) (hall r hr)
    · intro hnil
      rw [hnil]
      exact List.forall_mem_nil _
  rw [← hall, Ne, ← hblank, Base64.looksEncoded, Bool.and_eq_true, Bool.not_eq_true',
    Bool.not_eq_true]
  exact Iff.rfl

/-- The lines can be told apart in one text: none is empty, and none holds a line end. -/
theorem lines_saved (h : a.IsCanonical)
    (hvalues : ∀ r ∈ a.rules, ∀ c ∈ r.value, isLineEnd c = false) :
    Text.lines a.saved = a.lines := by
  refine lines_join fun line hline => ?_
  obtain ⟨r, hr, rfl⟩ := List.mem_map.mp hline
  exact ⟨Rule.format_ne_nil (canonical_of_mem_rules h hr), Rule.not_isLineEnd_format (hvalues r hr)⟩

/-- Of a list with no repetitions, the sum is no more than that of any list that holds it. -/
theorem sum_map_le_of_subset {α : Type} {xs ys : List α} (f : α → Nat) (hnodup : xs.Nodup)
    (h : xs ⊆ ys) : (xs.map f).sum ≤ (ys.map f).sum := by
  obtain ⟨zs, hperm, hsub⟩ := hnodup.subperm h
  rw [← (hperm.map f).sum_eq]
  exact (hsub.map f).sum_le_sum (fun _ _ => Nat.zero_le _)

theorem sum_ite_eq_count (rs : List Rule) (r : Rule) :
    (rs.map fun x => if x = r then 1 else 0).sum = rs.count r := by
  induction rs with
  | nil => rfl
  | cons x rs ih => simp [ih, List.count_cons, Nat.add_comm]

/-- Each keyword and each expression has a line of its own, which is as long as its text. -/
theorem sum_length_format_le {ls : List Text} (hcodelike : ∀ r ∈ a.rules, r.IsCodelike)
    (h : ∀ r ∈ a.rules, ∃ line ∈ ls, Rule.parse line = some r) :
    (a.rules.map fun r => r.format.length + 1).sum ≤
      (ls.map fun l => l.length + 1).sum + a.rules.count Rule.slashes := by
  choose! line hline hparse using h
  have hnodup : (a.rules.map line).Nodup := by
    refine List.Nodup.map_on (fun r hr r' hr' heq => ?_) a.nodup_rules
    have hsame := hparse r hr
    rw [heq, hparse r' hr'] at hsame
    exact (Option.some.inj hsame).symm
  have hsub : a.rules.map line ⊆ ls := by
    intro l hl
    obtain ⟨r, hr, rfl⟩ := List.mem_map.mp hl
    exact hline r hr
  calc (a.rules.map fun r => r.format.length + 1).sum
      ≤ (a.rules.map fun r => (line r).length + 1 + if r = Rule.slashes then 1 else 0).sum := by
        refine List.sum_le_sum fun r hr => ?_
        obtain ⟨hw, hkind, -⟩ := hcodelike r hr
        have hle := Rule.length_format_le hw hkind (hparse r hr)
        omega
    _ = ((a.rules.map line).map fun l => l.length + 1).sum + a.rules.count Rule.slashes := by
        rw [List.sum_map_add, List.map_map, sum_ite_eq_count]
        rfl
    _ ≤ (ls.map fun l => l.length + 1).sum + a.rules.count Rule.slashes :=
        Nat.add_le_add_right (sum_map_le_of_subset _ hnodup hsub) _

/-- The line feeds between the rules are blanks and do not count. -/
theorem length_filter_saved_le (a : RuleSet) :
    (a.saved.filter (!isBlank ·)).length ≤ (a.rules.map fun r => r.format.length).sum := by
  rw [saved, filter_join rfl]
  refine (List.length_filter_le _ _).trans_eq ?_
  rw [List.length_flatten, lines, List.map_map]
  rfl

/-- Each rule takes one character at least. -/
theorem length_rules_le (h : a.IsCanonical) :
    a.rules.length ≤ (a.rules.map fun r => r.format.length).sum := by
  have hpos : ∀ n ∈ a.rules.map fun r => r.format.length, 1 ≤ n := by
    refine List.forall_mem_map.mpr fun r hr => ?_
    exact List.length_pos_iff.mpr (Rule.format_ne_nil (canonical_of_mem_rules h hr))
  have hlength := List.length_le_sum_of_one_le _ hpos
  rwa [List.length_map] at hlength

/-- What the saved text decodes to is shorter by a quarter, and has no room for the same rules. -/
theorem ofLists_ne_of_decodeText (h : a.IsCanonical) (hne : a.rules ≠ [])
    (hcodelike : ∀ r ∈ a.rules, r.IsCodelike) (hdecode : Base64.decodeText a.saved = .ok t) :
    (Collection.ofLists .zero (Text.lines t) none).rules ≠ a := by
  intro hrules
  have hlines : ∀ r ∈ a.rules, ∃ line ∈ Text.lines t, Rule.parse line = some r := by
    intro r hr
    obtain ⟨c, v, hv, rfl⟩ := mem_rules.mp hr
    rw [← hrules] at hv
    obtain ⟨line, hline, -, hparse⟩ := Collection.mem_get_ofLists.mp hv
    exact ⟨line, by simpa using hline, hparse⟩
  have hcount : a.rules.count Rule.slashes ≤ 1 := List.nodup_iff_count_le_one.mp a.nodup_rules _
  have hsum := sum_length_format_le hcodelike hlines
  have htext := sum_length_lines_le t
  have hlength := Base64.length_le_of_decodeText hdecode
  have hsaved := length_filter_saved_le a
  have hrest := length_rules_le h
  have hpos := List.length_pos_iff.mpr hne
  have hones : (a.rules.map fun _ => 1).sum = a.rules.length := by simp
  rw [List.sum_map_add, hones] at hsum
  -- The text of the rules and four characters more for each is at most four, or eight with a lone
  -- slash for the empty expression.
  have hone : a.rules.length = 1 ∧ 0 < a.rules.count Rule.slashes := by omega
  obtain ⟨r, hr⟩ := List.length_eq_one_iff.mp hone.1
  have hmem := List.count_pos_iff.mp hone.2
  rw [hr, List.mem_singleton] at hmem
  -- There is room for the empty expression, but two characters are no whole number of bytes.
  have htwo : a.saved = "//".toList := by
    rw [saved, lines, hr, ← hmem]
    rfl
  have hpadding : Base64.decodeText "//".toList = .error .padding := by decide
  rw [htwo, hpadding] at hdecode
  cases hdecode

/-- The list in the file at `path` is got, and has the rules of the set and no others. -/
def LoadsFrom (a : RuleSet) (s : Scene) (path : Text) : Prop :=
  ∃ text s', (Feed.ofFile path).run.run s = (.ok text, s') ∧
    (Collection.ofLists .zero (Text.lines text) none).rules = a

/-- If the text is not taken for an encoding, its lines come back. If it is, what it decodes to is
too short for all the rules. -/
theorem loadsFrom_iff {s : Scene} {path : Text} (h : a.IsCanonical)
    (hvalues : ∀ r ∈ a.rules, ∀ c ∈ r.value, isLineEnd c = false)
    (hread : s.files.read path = .ok (Utf8.encode a.saved)) :
    a.LoadsFrom s path ↔ Base64.looksEncoded a.saved = false := by
  obtain ⟨s', hrun⟩ := Feed.run_ofFile hread
  cases hlooks : Base64.looksEncoded a.saved with
  | true =>
    refine iff_of_false ?_ Bool.noConfusion
    obtain ⟨hne, hcodelike⟩ := (looksEncoded_saved_iff h).mp hlooks
    rintro ⟨text, t, hok, hrules⟩
    rw [hrun, hlooks, if_pos rfl] at hok
    cases hdecode : Base64.decodeText a.saved with
    | ok text' =>
      rw [hdecode] at hok
      cases hok
      exact ofLists_ne_of_decodeText h hne hcodelike hdecode hrules
    | error e =>
      rw [hdecode] at hok
      cases hok
  | false =>
    refine iff_of_true ⟨unifyLineEnds a.saved, s', ?_, ?_⟩ rfl
    · rw [hrun, hlooks]
      rfl
    · rw [lines_unifyLineEnds, lines_saved h hvalues]
      exact fst_addLines_lines h

end RuleSet

namespace Collection

open RuleSet

variable {feed : Text} {user : Option Text} {r : Rule}

/-- The rules in the lines of a feed and of the user's own list. -/
def ofTexts (feed : Text) (user : Option Text) : RuleSet :=
  (ofLists .zero (Text.lines feed) (user.map Text.lines)).rules

theorem not_isLineEnd_of_line (feed : Text) (user : Option Text) {line : Text}
    (h : line ∈ Text.lines feed ∨ ∃ own, user.map Text.lines = some own ∧ line ∈ own) :
    ∀ c ∈ line, isLineEnd c = false := by
  intro c hc
  rcases h with hline | ⟨own, hown, hline⟩
  · exact not_isLineEnd_of_mem_lines hline hc
  · obtain ⟨t, -, rfl⟩ := Option.map_eq_some_iff.mp hown
    exact not_isLineEnd_of_mem_lines hline hc

/-- No line of a text has a line feed in it, so every collected rule is read back from its own
text. -/
theorem isCanonical_ofTexts (feed : Text) (user : Option Text) :
    (ofTexts feed user).IsCanonical := by
  refine isCanonical_ofLists ?_ ?_
  · intro line hline
    exact line_feed_not_mem (not_isLineEnd_of_line feed user (.inl hline))
  · intro own hown line hline
    exact line_feed_not_mem (not_isLineEnd_of_line feed user (.inr ⟨own, hown, hline⟩))

theorem not_isLineEnd_of_mem_rules (h : r ∈ (ofTexts feed user).rules) :
    ∀ c ∈ r.value, isLineEnd c = false := by
  obtain ⟨c, v, hv, rfl⟩ := mem_rules.mp h
  obtain ⟨line, hline, -, hparse⟩ := mem_get_ofLists.mp hv
  exact Rule.not_isLineEnd_of_parse (not_isLineEnd_of_line feed user hline) hparse

/-- A rule set that is saved loads back exactly if the text that it is saved as does not look
encoded. It does if there are rules, and all of them are blocked keywords and expressions of no
other characters than encoded data has. -/
theorem loadsFrom_saved_iff (feed : Text) (user : Option Text) {s : Scene} {path : Text}
    (hread : s.files.read path = .ok (Utf8.encode (ofTexts feed user).saved)) :
    ((ofTexts feed user).LoadsFrom s path ↔
        Base64.looksEncoded (ofTexts feed user).saved = false) ∧
      (Base64.looksEncoded (ofTexts feed user).saved = true ↔
        (ofTexts feed user).rules ≠ [] ∧ ∀ r ∈ (ofTexts feed user).rules, r.IsCodelike) := by
  have hcanonical := isCanonical_ofTexts feed user
  exact ⟨loadsFrom_iff hcanonical (fun r => not_isLineEnd_of_mem_rules) hread,
    looksEncoded_saved_iff hcanonical⟩

theorem loadsFrom_saved_iff_whitelisted_domain :
    let feed := "adtracker\n@@b.com\r\n".toList
    let user := "/ a.b/\x0b//".toList
    let a := ofTexts feed (some user)
    let s : Scene :=
      ⟨⟨2024, 1, 1, 0, 0, 0, 0, none⟩, ⟨[], [(["list".toList], .file (Utf8.encode a.saved))]⟩,
        [], [], [], [], .scripted⟩
    s.files.read "/list".toList = .ok (Utf8.encode a.saved) ∧ a.saved =
        "adtracker\n//\n/ a.b/\n@@||b.com".toList ∧ a.LoadsFrom s "/list".toList := by
  intro feed user a s
  have hsaved : a.saved = "adtracker\n//\n/ a.b/\n@@||b.com".toList := by decide +kernel
  have hread : s.files.read "/list".toList = .ok (Utf8.encode a.saved) := rfl
  have hplain : Base64.looksEncoded a.saved = false := by
    rw [hsaved]
    decide
  exact ⟨hread, hsaved, (loadsFrom_saved_iff feed (some user) hread).1.mpr hplain⟩

/-- A token is a keyword, and base64 with characters missing. -/
theorem not_loadsFrom_lone_keyword :
    let a := ofTexts "adtracker".toList none
    let s : Scene :=
      ⟨⟨2024, 1, 1, 0, 0, 0, 0, none⟩, ⟨[], [(["list".toList], .file (Utf8.encode a.saved))]⟩,
        [], [], [], [], .scripted⟩
    s.files.read "/list".toList = .ok (Utf8.encode a.saved) ∧ a.saved = "adtracker".toList ∧
      ((Feed.ofFile "/list".toList).run.run s).1 = .error (.decoding (.oddCharacter 9)) ∧
      ¬ a.LoadsFrom s "/list".toList := by
  intro a s
  have hsaved : a.saved = "adtracker".toList := by decide +kernel
  have hread : s.files.read "/list".toList = .ok (Utf8.encode a.saved) := rfl
  have herror : ((Feed.ofFile "/list".toList).run.run s).1 =
      .error (.decoding (.oddCharacter 9)) := by
    obtain ⟨s', hrun⟩ := Feed.run_ofFile hread
    rw [hrun, hsaved]
    rfl
  refine ⟨hread, hsaved, herror, ?_⟩
  rintro ⟨text, s', hok, -⟩
  rw [hok] at herror
  cases herror

end Collection

end AutoProxy
