import AutoProxy.Proofs.Decision
import AutoProxy.Proofs.Rule.LetterCase
import AutoProxy.Proofs.RuleSet.Account
import AutoProxy.Proofs.RuleSet.Union

/-! Letter case in lists and hosts: what is collected, how it is counted and what is decided do not
depend on it. -/
namespace AutoProxy

open Text

namespace RuleSet

variable {c : Category} {v line line' : Text} {lines lines' : List Text} {a b : RuleSet}

theorem addition?_isNone_of_sameLetters (h : SameLetters line line') :
    (addition? line).isNone = (addition? line').isNone := by
  have hparse := Rule.parse_of_sameLetters h
  rw [addition?, addition?, Rule.lineClass_of_sameLetters h]
  generalize Rule.parse line = x, Rule.parse line' = y at hparse ⊢
  split
  · cases hparse with
    | none => rfl
    | some halike =>
      simp only [Option.bind_some, Option.isNone_map, halike.kind, halike.whitelist]
  · rfl

/-- Outside the places for expressions a line adds the same value in whatever letters. -/
theorem addition?_of_sameLetters (hc : c.kind ≠ .regex) (h : SameLetters line line')
    (hadd : addition? line = some (c, v)) : addition? line' = some (c, v) := by
  obtain ⟨hclass, hparse⟩ := addition?_eq_some_iff.mp hadd
  obtain ⟨⟨k, u, w⟩, hparse', hkind, hside, hvalue⟩ := Rule.exists_parse_of_sameLetters h hparse
  obtain rfl : c.kind = k := hkind
  obtain rfl : c.whitelist = w := hside
  obtain rfl : v = u := hvalue hc
  exact addition?_eq_some_iff.mpr ⟨Rule.lineClass_of_sameLetters h ▸ hclass, hparse'⟩

theorem account_of_sameLetters (h : List.Forall₂ SameLetters lines lines') :
    account lines = account lines' := by
  induction h with
  | nil => rfl
  | @cons line line' lines lines' hline _ ih =>
    rw [account_cons line, account_cons line', ih]
    simp only [account, List.length_singleton, List.countP_singleton,
      Rule.lineClass_of_sameLetters hline, addition?_isNone_of_sameLetters hline]

theorem exists_addition_of_sameLetters (hc : c.kind ≠ .regex)
    (h : List.Forall₂ SameLetters lines lines')
    (hadd : ∃ line ∈ lines, addition? line = some (c, v)) :
    ∃ line ∈ lines', addition? line = some (c, v) := by
  induction h with
  | nil => simp at hadd
  | @cons line line' lines lines' hline _ ih =>
    obtain ⟨l, hl, hl'⟩ := hadd
    rcases List.mem_cons.mp hl with rfl | hl
    · exact ⟨line', List.mem_cons_self, addition?_of_sameLetters hc hline hl'⟩
    · obtain ⟨m, hm, hm'⟩ := ih ⟨l, hl, hl'⟩
      exact ⟨m, List.mem_cons_of_mem line' hm, hm'⟩

/-- No decision reads an expression. -/
theorem decideName_congr (h : ∀ c : Category, c.kind ≠ .regex → a.get c = b.get c) (name : Text) :
    a.index.decideName name = b.index.decideName name := by
  have hexact : a.exactBlock = b.exactBlock := h .exactBlock (by decide)
  have hsuffix : a.suffixBlock = b.suffixBlock := h .suffixBlock (by decide)
  have hkeywords : a.keywords = b.keywords := h .keywords (by decide)
  have hexact' : a.exactWhitelist = b.exactWhitelist := h .exactWhitelist (by decide)
  have hsuffix' : a.suffixWhitelist = b.suffixWhitelist := h .suffixWhitelist (by decide)
  rw [Index.decideName, Index.decideName, index, index, hexact, hsuffix, hkeywords, hexact',
    hsuffix']

end RuleSet

namespace Collection

variable {tally : Tally} {feed feed' : List Text} {user user' : Option (List Text)} {c : Category}

theorem allLines_of_sameLetters (hfeed : List.Forall₂ SameLetters feed feed')
    (huser : Option.Rel (List.Forall₂ SameLetters) user user') :
    List.Forall₂ SameLetters (allLines feed user) (allLines feed' user') := by
  cases huser with
  | none => exact List.rel_append hfeed .nil
  | some hown => exact List.rel_append hfeed hown

theorem get_ofLists_of_sameLetters (tally : Tally) (hc : c.kind ≠ .regex)
    (hfeed : List.Forall₂ SameLetters feed feed')
    (huser : Option.Rel (List.Forall₂ SameLetters) user user') :
    (ofLists tally feed user).rules.get c = (ofLists tally feed' user').rules.get c := by
  have hlines := allLines_of_sameLetters hfeed huser
  have hlines' : List.Forall₂ SameLetters (allLines feed' user') (allLines feed user) :=
    hlines.flip.imp fun _ _ => SameLetters.symm
  refine TextSet.ext_mem fun v => ?_
  rw [mem_get_ofLists_iff_addition, mem_get_ofLists_iff_addition]
  exact ⟨RuleSet.exists_addition_of_sameLetters hc hlines,
    RuleSet.exists_addition_of_sameLetters hc hlines'⟩

theorem tally_ofLists_of_sameLetters (tally : Tally) (hfeed : List.Forall₂ SameLetters feed feed')
    (huser : Option.Rel (List.Forall₂ SameLetters) user user') :
    (ofLists tally feed user).tally = (ofLists tally feed' user').tally := by
  cases huser with
  | none => rw [tally_ofLists_none, tally_ofLists_none, RuleSet.account_of_sameLetters hfeed]
  | some hown =>
    rw [tally_ofLists_some, tally_ofLists_some, RuleSet.account_of_sameLetters hfeed,
      RuleSet.account_of_sameLetters hown]

/-- Lists in other letters have the same rules in the same places, expressions aside, and the same
account, and hosts in other letters are decided alike. The letters are those of ASCII. -/
theorem letter_case_is_ignored {host host' : Text} (tally : Tally)
    (hfeed : List.Forall₂ SameLetters feed feed')
    (huser : Option.Rel (List.Forall₂ SameLetters) user user') (hhost : SameLetters host host') :
    let k := ofLists tally feed user
    let k' := ofLists tally feed' user'
    List.Forall₂ (fun line line' => Option.Rel Rule.Alike (Rule.parse line) (Rule.parse line'))
        (allLines feed user) (allLines feed' user') ∧
      (∀ c : Category, c.kind ≠ .regex → k.rules.get c = k'.rules.get c) ∧ k.tally = k'.tally ∧
      k.rules.index.decide host = k'.rules.index.decide host' := by
  intro k k'
  have hrules : ∀ c : Category, c.kind ≠ .regex → k.rules.get c = k'.rules.get c :=
    fun c hc => get_ofLists_of_sameLetters tally hc hfeed huser
  refine ⟨?_, hrules, tally_ofLists_of_sameLetters tally hfeed huser, ?_⟩
  · exact (allLines_of_sameLetters hfeed huser).imp fun _ _ => Rule.parse_of_sameLetters
  · rw [Index.decide, Index.decide, hhost.lower_eq]
    exact RuleSet.decideName_congr hrules _

theorem letter_case_is_ignored_shouted :
    let feed := ["||A.com".toList, "@@|Http://www.a.com/x".toList, "/Ab/".toList]
    let feed' := ["||a.COM".toList, "@@|HTTP://WWW.A.COM/X".toList, "/AB/".toList]
    let own := ["ads".toList, "@@x.Com".toList]
    let own' := ["Ads".toList, "@@X.com".toList]
    let k := ofLists .zero feed (some own)
    let k' := ofLists .zero feed' (some own')
    (List.Forall₂ SameLetters feed feed' ∧
        Option.Rel (List.Forall₂ SameLetters) (some own) (some own') ∧
        SameLetters "Mail.a.com".toList "MAIL.A.COM".toList) ∧
      k.rules.suffixBlock = k'.rules.suffixBlock ∧ k.rules.regexBlock ≠ k'.rules.regexBlock ∧
      k.tally = k'.tally ∧ k.rules.index.decide "Mail.a.com".toList = .proxy ∧
      k'.rules.index.decide "MAIL.A.COM".toList = .proxy := by
  intro feed feed' own own' k k'
  have hfeed : List.Forall₂ SameLetters feed feed' :=
    .cons (by decide) (.cons (by decide) (.cons (by decide) .nil))
  have hown : List.Forall₂ SameLetters own own' := .cons (by decide) (.cons (by decide) .nil)
  have hhost : SameLetters "Mail.a.com".toList "MAIL.A.COM".toList := by decide
  have hproxy : k.rules.index.decide "Mail.a.com".toList = .proxy := by decide +kernel
  have hregex : k.rules.regexBlock ≠ k'.rules.regexBlock := by decide +kernel
  obtain ⟨-, hrules, htally, hdecide⟩ := letter_case_is_ignored .zero hfeed (.some hown) hhost
  exact ⟨⟨hfeed, .some hown, hhost⟩, hrules .suffixBlock (by decide), hregex, htally, hproxy,
    hdecide ▸ hproxy⟩

end Collection

end AutoProxy
