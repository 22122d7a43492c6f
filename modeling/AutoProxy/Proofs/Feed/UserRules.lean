import AutoProxy.Proofs.Feed
import AutoProxy.Proofs.Files.Tree
import AutoProxy.Proofs.RuleSet.Account
import AutoProxy.Proofs.RuleSet.Union
import AutoProxy.Proofs.Text.Blank

/-! The user's own rules without their blank lines: the same rules, and an account that differs in
the blank lines alone. -/
namespace AutoProxy

variable {line path : Text} {lines : List Text} {s : Scene} {bytes : Bytes} {t : Text}

/-- The reader of the file and the reader of the rules mean the same lines by blank ones. -/
theorem LineClass.of_eq_blank_iff : of line = .blank ↔ Text.trim line = [] := by
  rw [of]
  cases Text.trim line with
  | nil => simp
  | cons c t =>
    simp only [List.cons_ne_nil, iff_false]
    split <;> simp

theorem Text.not_isAllBlank_eq (line : Text) :
    (!isAllBlank line) = decide (trim line ≠ []) := by
  rw [Bool.eq_iff_iff, Bool.not_eq_true', decide_eq_true_iff, ne_eq, Text.trim_eq_nil_iff,
    Bool.not_eq_true]

/-- The lines that are not blank, in their order. -/
def Text.inked (lines : List Text) : List Text := lines.filter (trim · ≠ [])

theorem Text.mem_inked_iff : line ∈ inked lines ↔ line ∈ lines ∧ trim line ≠ [] := by
  simp [inked]

namespace RuleSet

/-- What blank lines add to the account of a list. -/
def blankLines (n : Nat) : Count := ⟨n, n, 0, 0, 0⟩

theorem account_of_blank (h : Text.trim line = []) : account [line] = blankLines 1 := by
  have hclass : LineClass.of line = .blank := LineClass.of_eq_blank_iff.mpr h
  simp [account, blankLines, hclass]

/-- Each line is counted by itself, so blank lines can be counted apart from the others. -/
theorem account_eq_add (lines : List Text) : account lines =
    account (Text.inked lines) + blankLines (lines.countP (Text.trim · = [])) := by
  induction lines with
  | nil => rfl
  | cons line lines ih =>
    rw [account_cons, ih]
    by_cases hline : Text.trim line = []
    · have hinked : Text.inked (line :: lines) = Text.inked lines :=
        List.filter_cons_of_neg (by simpa using hline)
      rw [hinked, account_of_blank hline, List.countP_cons_of_pos (by simpa using hline)]
      simp only [blankLines, Count.add_eq, Count.mk.injEq]
      omega
    · have hinked : Text.inked (line :: lines) = line :: Text.inked lines :=
        List.filter_cons_of_pos (by simpa using hline)
      rw [hinked, account_cons line (Text.inked lines), Count.add_assoc,
        List.countP_cons_of_neg (by simpa using hline)]

theorem empty_account_inked (lines : List Text) : (account (Text.inked lines)).empty = 0 := by
  rw [account, List.countP_eq_zero]
  intro line hline
  have hinked : Text.trim line ≠ [] := (Text.mem_inked_iff.mp hline).2
  simpa [LineClass.of_eq_blank_iff] using hinked

end RuleSet

theorem Tally.lookup_record (t : Tally) (source : Text) (n : Count) :
    (t.record source n).bySource.lookup source = some n := by
  rw [record, List.lookup_append, lookup_filter_self, Option.none_or]
  exact List.lookup_cons_self

namespace Collection

theorem lookup_user_ofLists (tally : Tally) (feed own : List Text) :
    (ofLists tally feed (some own)).tally.bySource.lookup userName =
      some (RuleSet.account own) := by
  rw [tally_ofLists_some, Tally.lookup_record]

theorem rules_ofLists_inked (tally : Tally) (feed own : List Text) :
    (ofLists tally feed (some (Text.inked own))).rules =
      (ofLists tally feed (some own)).rules := by
  apply rules_congr
  intro line hidle
  have hline : Text.trim line ≠ [] := fun h => hidle (.inl (LineClass.of_eq_blank_iff.mpr h))
  simp [allLines, Text.mem_inked_iff, hline]

end Collection

namespace Feed

open Run

theorem run_rulesOfFile (hread : s.files.read path = .ok bytes)
    (htext : Utf8.decode bytes = .ok t) : ∃ s', (rulesOfFile path).run.run s =
      (.ok (Text.inked (Text.lines (Text.unifyLineEnds t))), s') := by
  rw [← Utf8.encode_of_decode htext] at hread
  have hrun : (rulesOfFile path).run.run s = _ :=
    (run_bind_of_ok run_log).trans (run_bind_of_ok (run_readText hread))
  rw [Text.inked, ← funext Text.not_isAllBlank_eq]
  exact ⟨_, hrun⟩

/-- A file of the user's own rules that can be read gives its lines but the blank ones. Whatever the
feed is, they name the rules that all the lines name, and of their account the blank lines alone are
missing. -/
theorem rulesOfFile_loses_nothing (hread : s.files.read path = .ok bytes)
    (htext : Utf8.decode bytes = .ok t) :
    let all := Text.lines (Text.unifyLineEnds t)
    let own := all.filter (Text.trim · ≠ [])
    (∃ s', (rulesOfFile path).run.run s = (.ok own, s')) ∧
    (∀ line ∈ own, ∀ c ∈ line, Text.isLineEnd c = false) ∧
    ∀ (tally : Tally) (feed : List Text),
      let k := Collection.ofLists tally feed (some own)
      let k' := Collection.ofLists tally feed (some all)
      k.rules = k'.rules ∧ ∃ n n',
        k.tally.bySource.lookup Collection.userName = some n ∧
        k'.tally.bySource.lookup Collection.userName = some n' ∧
        n.comments = n'.comments ∧ n.processed = n'.processed ∧ n.dropped = n'.dropped ∧
        n.empty = 0 ∧ n'.total = n.total + all.countP (Text.trim · = []) := by
  intro all own
  refine ⟨run_rulesOfFile hread htext, ?_, ?_⟩
  · intro line hline c hc
    exact Text.not_isLineEnd_of_mem_lines (Text.mem_inked_iff.mp hline).1 hc
  · intro tally feed k k'
    have hsum := RuleSet.account_eq_add all
    rw [RuleSet.blankLines, Count.add_eq] at hsum
    refine ⟨Collection.rules_ofLists_inked tally feed all, RuleSet.account own,
      RuleSet.account all, Collection.lookup_user_ofLists tally feed own,
      Collection.lookup_user_ofLists tally feed all, ?_, ?_, ?_,
      RuleSet.empty_account_inked all, ?_⟩
    · exact (congrArg Count.comments hsum).symm
    · exact (congrArg Count.processed hsum).symm
    · exact (congrArg Count.dropped hsum).symm
    · exact congrArg Count.total hsum

/-- A line of a separator and an ideographic space is blank, one of a space of no width is not. -/
theorem rulesOfFile_loses_nothing_odd_blanks :
    let text := "||a.com\r\n\u001f\u3000\r! x\n\u200b\n\u2028ads".toList
    let own := ["||a.com".toList, "! x".toList, "\u200b".toList, "ads".toList]
    let s : Scene := ⟨⟨2024, 1, 1, 0, 0, 0, 0, none⟩,
      ⟨[], [(["mine".toList], .file (Utf8.encode text))]⟩, [], [], [], [], .scripted⟩
    s.files.read "mine".toList = .ok (Utf8.encode text) ∧
      Utf8.decode (Utf8.encode text) = .ok text ∧
      (∃ s', (rulesOfFile "mine".toList).run.run s = (.ok own, s')) ∧
      ∃ n, (Collection.ofLists .zero [] (some own)).tally.bySource.lookup Collection.userName =
        some n ∧ n.empty = 0 ∧ n.total + 2 = 6 := by
  intro text own s
  have hread : s.files.read "mine".toList = .ok (Utf8.encode text) := by decide
  have htext : Utf8.decode (Utf8.encode text) = .ok text := Utf8.decode_encode text
  obtain ⟨hrun, -, haccount⟩ := rulesOfFile_loses_nothing hread htext
  have hown : (Text.lines (Text.unifyLineEnds text)).filter (Text.trim · ≠ []) = own := by decide
  rw [hown] at hrun haccount
  obtain ⟨-, n, n', hn, hn', -, -, -, hempty, htotal⟩ := haccount .zero []
  refine ⟨hread, htext, hrun, n, hn, hempty, ?_⟩
  have hblank : (Text.lines (Text.unifyLineEnds text)).countP (Text.trim · = []) = 2 := by decide
  have hall : n'.total = 6 := by
    rw [Collection.lookup_user_ofLists] at hn'
    cases hn'
    decide
  omega

end Feed

end AutoProxy
