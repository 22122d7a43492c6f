import AutoProxy.Proofs.Feed
import AutoProxy.Proofs.Rule.Line
import AutoProxy.Proofs.RuleSet.RoundTrip

/-! A list with a rule on a domain is taken as it is. The domain has a dot, and no encoding has
one. -/
namespace AutoProxy

/-- One of the lines names a rule on a domain, of either side. -/
def Text.HoldsDomainRule (t : Text) : Prop :=
  ∃ line ∈ Text.lines t, ∃ r, Rule.parse line = some r ∧ (r.kind = .suffix ∨ r.kind = .exact)

namespace Collection

variable {tally : Tally} {feed : List Text} {user : Option (List Text)} {line : Text} {r : Rule}

/-- The rule of a line is collected if there is a place for it. -/
theorem mem_rules_of_parse (hline : line ∈ feed) (hparse : Rule.parse line = some r)
    (hplace : ¬(r.kind = .keyword ∧ r.whitelist = true)) :
    r ∈ (ofLists tally feed user).rules.rules := by
  have hcategory : ∃ c, Category.of? r.kind r.whitelist = some c := by
    cases hkind : r.kind <;> cases hside : r.whitelist <;> simp_all [Category.of?]
  obtain ⟨c, hc⟩ := hcategory
  obtain ⟨hkind, hside⟩ := Category.of?_eq_some_iff.mp hc
  have hr : r = ⟨c.kind, r.value, c.whitelist⟩ := by rw [← hkind, ← hside]
  rw [RuleSet.mem_rules]
  refine ⟨c, r.value, mem_get_ofLists.mpr ?_, hr⟩
  exact ⟨line, .inl hline, Rule.lineClass_of_parse hparse, hr ▸ hparse⟩

end Collection

namespace Feed

open Run

variable {s : Scene} {r : Response} {bytes : Bytes} {t url path : Text} {limit : Int}

theorem looksEncoded_eq_false (h : t.HoldsDomainRule) : Base64.looksEncoded t = false := by
  obtain ⟨line, hline, r, hparse, hkind⟩ := h
  have hdot : '.' ∈ t := Text.mem_of_mem_lines hline (Rule.dot_mem_of_parse hparse hkind)
  rw [Base64.looksEncoded, Bool.and_eq_false_iff, List.all_eq_false]
  exact .inr ⟨'.', hdot, by decide⟩

theorem decoded_of_holdsDomainRule (h : t.HoldsDomainRule) : decoded t = .ok t := by
  rw [decoded, looksEncoded_eq_false h]
  rfl

theorem holdsDomainRule_unifyLineEnds (h : t.HoldsDomainRule) :
    (Text.unifyLineEnds t).HoldsDomainRule := by
  rwa [Text.HoldsDomainRule, Text.lines_unifyLineEnds]

theorem run_ofFile_of_holdsDomainRule (h : t.HoldsDomainRule)
    (hread : s.files.read path = .ok bytes) (hdecode : Utf8.decode bytes = .ok t) :
    ∃ s', (ofFile path).run.run s = (.ok (Text.unifyLineEnds t), s') := by
  rw [← Utf8.encode_of_decode hdecode] at hread
  obtain ⟨s', hrun⟩ := run_ofFile_eq_decoded hread
  rw [decoded_of_holdsDomainRule (holdsDomainRule_unifyLineEnds h)] at hrun
  exact ⟨s', hrun⟩

theorem run_download_of_holdsDomainRule (proxy : Option Text) (timeout : Seconds)
    (ownTransport : Bool) (h : (Utf8.decodeLossy r.body.bytes).HoldsDomainRule)
    (hanswer : Answers s (clientFor proxy timeout ownTransport) url r) (hstatus : r.status < 400)
    (hlength : AdmitsLength limit r) (hbody : r.body.failure? = none)
    (hlimit : (r.body.bytes.length : Int) ≤ limit) :
    ∃ s', (download url proxy timeout limit ownTransport).run.run s =
      (.ok (Utf8.decodeLossy r.body.bytes), s') := by
  obtain ⟨s', hrun, -⟩ := run_download_of_admits proxy timeout ownTransport
    hanswer hstatus hlength (by omega : 0 ≤ limit)
  have houtcome : (outcome url limit r.body).1 = .ok (Utf8.decodeLossy r.body.bytes) := by
    rw [outcome, if_neg (Int.not_lt.mpr hlimit), hbody, decoded_of_holdsDomainRule h]
  rw [houtcome] at hrun
  exact ⟨s', hrun⟩

/-- A list with a rule on a domain does not look encoded. A file gives it with its line ends
unified, a response gives what its body reads as, and each rule of a line is collected but for
keywords on the whitelist. -/
theorem domain_rule_is_never_decoded {t : Text} (h : t.HoldsDomainRule) :
    Base64.looksEncoded t = false ∧
      (∀ (s : Scene) path bytes, s.files.read path = .ok bytes → Utf8.decode bytes = .ok t →
        ∃ s', (ofFile path).run.run s = (.ok (Text.unifyLineEnds t), s')) ∧
      (∀ (s : Scene) url proxy timeout limit ownTransport r,
        Answers s (clientFor proxy timeout ownTransport) url r → r.status < 400 →
        AdmitsLength limit r → r.body.failure? = none → r.body.bytes.length ≤ limit →
        Utf8.decodeLossy r.body.bytes = t →
        ∃ s', (download url proxy timeout limit ownTransport).run.run s = (.ok t, s')) ∧
      ∀ text, text = t ∨ text = Text.unifyLineEnds t → ∀ line ∈ Text.lines text,
        ∀ r, Rule.parse line = some r → ¬(r.kind = .keyword ∧ r.whitelist = true) →
          ∀ tally user, r ∈ (Collection.ofLists tally (Text.lines text) user).rules.rules := by
  refine ⟨looksEncoded_eq_false h, ?_, ?_, ?_⟩
  · intro s path bytes hread hdecode
    exact run_ofFile_of_holdsDomainRule h hread hdecode
  · rintro s url proxy timeout limit ownTransport r hanswer hstatus hlength hbody hlimit rfl
    exact run_download_of_holdsDomainRule proxy timeout ownTransport h hanswer hstatus hlength hbody
      hlimit
  · intro text _ line hline r hparse hplace tally user
    exact Collection.mem_rules_of_parse hline hparse hplace

theorem domain_rule_is_never_decoded_anchor :
    let list : Text := "@@||A.com/\r\nQUJD".toList
    let bytes := Utf8.encode list
    let r : Response := ⟨200, [("Content-Length".toList, "16".toList)], [.data bytes]⟩
    let s : Scene :=
      ⟨⟨2024, 1, 1, 0, 0, 0, 0, none⟩, ⟨[], [(["list".toList], .file bytes)]⟩, [.response r],
        [], [], [], .scripted⟩
    list.HoldsDomainRule ∧ Base64.looksEncoded list = false ∧
      (∃ s', (ofFile "/list".toList).run.run s = (.ok "@@||A.com/\nQUJD".toList, s')) ∧
      (∃ s', (download "http://a.b/list".toList none ⟨30, 0⟩ 16 false).run.run s = (.ok list, s')) ∧
      (⟨.suffix, "a.com".toList, true⟩ : Rule) ∈
        (Collection.ofLists .zero (Text.lines list) none).rules.rules := by
  intro list bytes r s
  have hmem : "@@||A.com/".toList ∈ Text.lines list := by decide
  have hparse : Rule.parse "@@||A.com/".toList = some ⟨.suffix, "a.com".toList, true⟩ := by decide
  have hholds : list.HoldsDomainRule := ⟨_, hmem, _, hparse, .inl rfl⟩
  have hanswer : Answers s (clientFor none ⟨30, 0⟩ false) "http://a.b/list".toList r :=
    ⟨by decide, rfl, rfl⟩
  have hlength : AdmitsLength 16 r := by
    intro length hlength _ _
    obtain rfl : length = "16".toList := (Option.some.inj hlength).symm
    exact ⟨16, by decide, Int.le_refl 16⟩
  have hbody : r.body = ⟨bytes, none⟩ :=
    Network.ofChunks_of_carries (Response.carries_of_pieces [bytes] rfl rfl)
  obtain ⟨hplain, hfile, hweb, hrules⟩ := domain_rule_is_never_decoded hholds
  refine ⟨hholds, hplain, ?_, ?_, ?_⟩
  · exact hfile s "/list".toList bytes (by decide) (Utf8.decode_encode list)
  · have hfailure : r.body.failure? = none := by rw [hbody]
    have hlimit : (r.body.bytes.length : Int) ≤ 16 := by
      rw [hbody]
      decide
    have htext : Utf8.decodeLossy r.body.bytes = list := by
      rw [hbody]
      exact Utf8.decodeLossy_encode list
    exact hweb s "http://a.b/list".toList none ⟨30, 0⟩ 16 false r hanswer (by decide) hlength
      hfailure hlimit htext
  · exact hrules list (.inl rfl) _ hmem _ hparse (by decide) .zero none

/-- A keyword on the whitelist beside a domain is lost, for there is no place for it. -/
theorem keyword_on_whitelist_is_not_collected :
    let list : Text := "||a.com\n@@ads".toList
    list.HoldsDomainRule ∧ "@@ads".toList ∈ Text.lines list ∧
      Rule.parse "@@ads".toList = some ⟨.keyword, "ads".toList, true⟩ ∧
      (⟨.keyword, "ads".toList, true⟩ : Rule) ∉
        (Collection.ofLists .zero (Text.lines list) none).rules.rules := by
  intro list
  have hmem : "||a.com".toList ∈ Text.lines list := by decide
  have hparse : Rule.parse "||a.com".toList = some ⟨.suffix, "a.com".toList, false⟩ := by decide
  refine ⟨⟨_, hmem, _, hparse, .inl rfl⟩, by decide, by decide, ?_⟩
  intro hkeyword
  obtain ⟨c, v, -, heq⟩ := RuleSet.mem_rules.mp hkeyword
  cases c <;> cases heq

end Feed

end AutoProxy
