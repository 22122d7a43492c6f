import AutoProxy.Proofs.RuleSet.Union
import AutoProxy.Proofs.Script.Lines

/-! A script shows its tables and how many expressions there are, and no more of its index. -/
namespace AutoProxy

/-- The two differ in their expressions at most, of which they have equally many. -/
structure Index.Agrees (i j : Index) : Prop where
  exactBlock : ∀ d, d ∈ i.exactBlock ↔ d ∈ j.exactBlock
  exactWhitelist : ∀ d, d ∈ i.exactWhitelist ↔ d ∈ j.exactWhitelist
  suffixBlock : ∀ d, d ∈ i.suffixBlock ↔ d ∈ j.suffixBlock
  suffixWhitelist : ∀ d, d ∈ i.suffixWhitelist ↔ d ∈ j.suffixWhitelist
  keywords : i.keywords = j.keywords
  regexBlock : i.regexBlock.length = j.regexBlock.length
  regexWhitelist : i.regexWhitelist.length = j.regexWhitelist.length

namespace Script

variable {i j : Index} {placeholder : Text} {time : Timestamp} {ls ms : List Text}
  {block block' whitelist whitelist' : Nat}

/-- The line of counts is left out if there is nothing to count. -/
theorem counted_eq (i : Index) : counted i =
    if i.regexBlock.length = 0 ∧ i.regexWhitelist.length = 0 then []
    else [countLine i.regexBlock.length i.regexWhitelist.length] := by
  simp only [counted, Bool.and_eq_true, List.isEmpty_iff, List.length_eq_zero_iff]

theorem line_feed_not_mem_counted : ∀ l ∈ counted i, '\n' ∉ l := by
  rw [counted]
  split
  · exact List.forall_mem_nil _
  · exact List.forall_mem_singleton.mpr (line_feed_not_mem_countLine _ _)

/-- The comma stands between the two numbers and nowhere else. -/
theorem countLine_inj :
    countLine block whitelist = countLine block' whitelist' ↔
      block = block' ∧ whitelist = whitelist' := by
  constructor
  · intro h
    have hcomma (n : Nat) : ',' ∉ Text.ofNat n := Text.not_mem_ofNat (by decide)
    have hsplit (m n : Nat) : countLine m n =
        ("// Regex rules not evaluated: ".toList ++ (Text.ofNat m ++ " block".toList)) ++
          ',' :: (' ' :: (Text.ofNat n ++ " whitelist".toList)) := by
      simp [countLine_eq]
    rw [hsplit, hsplit, List.append_cons_inj_of_notMem (by simp [hcomma]) (by simp [hcomma])] at h
    obtain ⟨hblock, -, hwhitelist⟩ := h
    rw [List.append_cancel_left_eq, List.append_cancel_right_eq, Text.ofNat_inj] at hblock
    rw [List.cons_inj_right, List.append_cancel_right_eq, Text.ofNat_inj] at hwhitelist
    exact ⟨hblock, hwhitelist⟩
  · rintro ⟨rfl, rfl⟩
    rfl

/-- A line of counts is no empty line, so that it is seen whether there is one. -/
theorem counted_append_inj : counted i ++ [] :: ls = counted j ++ [] :: ms ↔
    (i.regexBlock.length = j.regexBlock.length ∧
      i.regexWhitelist.length = j.regexWhitelist.length) ∧ ls = ms := by
  have hne (m n : Nat) : countLine m n ≠ [] := by simp [countLine_eq]
  rw [counted_eq, counted_eq]
  split_ifs with hi hj hj
  · simp [hi, hj]
  · simp only [List.nil_append, List.singleton_append, List.cons_eq_cons, (hne _ _).symm, false_and,
      false_iff]
    rintro ⟨⟨hblock, hwhitelist⟩, -⟩
    omega
  · simp only [List.nil_append, List.singleton_append, List.cons_eq_cons, hne, false_and, false_iff]
    rintro ⟨⟨hblock, hwhitelist⟩, -⟩
    omega
  · simp only [List.singleton_append, List.cons_eq_cons, countLine_inj, true_and]

theorem declaration_inj {name value value' : Text} :
    declaration name value = declaration name value' ↔ value = value' := by
  rw [declaration_eq, declaration_eq, List.append_cancel_right_eq, List.append_cancel_left_eq]

theorem table_toList_inj {r s : TextSet} :
    Json.table r.toList = Json.table s.toList ↔ ∀ d, d ∈ r ↔ d ∈ s := by
  rw [Json.table_inj]
  constructor
  · intro h d
    have hmem : d ∈ r.toList ↔ d ∈ s.toList := by rw [h]
    exact hmem
  · intro h
    rw [TextSet.ext_mem h]

theorem tables_inj : tables i = tables j ↔
    (∀ d, d ∈ i.exactBlock ↔ d ∈ j.exactBlock) ∧
      (∀ d, d ∈ i.exactWhitelist ↔ d ∈ j.exactWhitelist) ∧
      (∀ d, d ∈ i.suffixBlock ↔ d ∈ j.suffixBlock) ∧
      (∀ d, d ∈ i.suffixWhitelist ↔ d ∈ j.suffixWhitelist) ∧ i.keywords = j.keywords := by
  simp only [tables, List.cons_eq_cons, declaration_inj, table_toList_inj, Json.array_inj, and_true]

theorem tail_inj : tail i = tail j ↔ tables i = tables j := by
  rw [tail, tail, List.append_cancel_right_eq, List.append_cancel_left_eq]

theorem lines_render_eq_append (i : Index) (placeholder : Text) (time : Timestamp) :
    lines (render i placeholder time) = (notes placeholder time).flatMap lines ++
      (counted i ++ [] :: proxyLine placeholder :: (tail i ++ [[]])) := by
  rw [lines_render, head, List.flatMap_append, flatMap_lines line_feed_not_mem_counted,
    List.append_assoc]

theorem lines_inj {s t : Text} : lines s = lines t ↔ s = t := by
  refine ⟨fun h => ?_, congrArg lines⟩
  rw [← Text.join_split '\n' s, ← Text.join_split '\n' t]
  exact congrArg _ h

theorem render_inj : render i placeholder time = render j placeholder time ↔ i.Agrees j := by
  rw [← lines_inj, lines_render_eq_append, lines_render_eq_append, List.append_cancel_left_eq,
    counted_append_inj, List.cons_inj_right, List.append_cancel_right_eq, tail_inj, tables_inj]
  constructor
  · rintro ⟨⟨hblock, hwhitelist⟩, h⟩
    exact ⟨h.1, h.2.1, h.2.2.1, h.2.2.2.1, h.2.2.2.2, hblock, hwhitelist⟩
  · intro h
    exact ⟨⟨h.regexBlock, h.regexWhitelist⟩, h.exactBlock, h.exactWhitelist, h.suffixBlock,
      h.suffixWhitelist, h.keywords⟩

/-- Scripts are equal exactly if their indexes have the same domains, the same keywords in the same
order and as many expressions of either side. So no expression shows in a script, and lists with the
same lines, idle ones aside, have one script, whatever the order and the number of the lines and the
list that each is in. -/
theorem render_is_canonical (placeholder : Text) (time : Timestamp) :
    (∀ i j, render i placeholder time = render j placeholder time ↔ i.Agrees j) ∧
      (∀ i block whitelist, block.length = i.regexBlock.length →
        whitelist.length = i.regexWhitelist.length →
        render { i with regexBlock := block, regexWhitelist := whitelist } placeholder time =
          render i placeholder time) ∧
      ∀ tally tally' feed user feed' user',
        (∀ line, ¬ Collection.IsIdle line →
          (line ∈ Collection.allLines feed user ↔ line ∈ Collection.allLines feed' user')) →
        render (Collection.ofLists tally feed user).rules.index placeholder time =
          render (Collection.ofLists tally' feed' user').rules.index placeholder time := by
  refine ⟨fun i j => render_inj, ?_, ?_⟩
  · intro i block whitelist hblock hwhitelist
    exact render_inj.mpr ⟨fun _ => .rfl, fun _ => .rfl, fun _ => .rfl, fun _ => .rfl, rfl, hblock,
      hwhitelist⟩
  · intro tally tally' feed user feed' user' hlines
    rw [Collection.rules_congr hlines]

theorem render_is_canonical_other_list :
    let feed := ["||a.com".toList, "/x+/".toList, "ads".toList]
    let feed' := ["ads".toList, "/x+/".toList]
    let own := ["||a.com".toList, "/x+/".toList, "||a.com".toList]
    let i := (Collection.ofLists .zero feed none).rules.index
    let j := (Collection.ofLists .zero feed' (some own)).rules.index
    let time : Timestamp := ⟨2024, 1, 2, 3, 4, 5, 0, some 0⟩
    (∀ line, ¬ Collection.IsIdle line →
        (line ∈ Collection.allLines feed none ↔ line ∈ Collection.allLines feed' (some own))) ∧
      render i [] time = render j [] time ∧ i.Agrees j ∧ i.regexBlock.length = 1 ∧
      render { i with regexBlock := ["y".toList], regexWhitelist := [] } [] time =
        render i [] time ∧
      render { i with regexBlock := [] } [] time ≠ render i [] time := by
  intro feed feed' own i j time
  have hlines : ∀ line, ¬ Collection.IsIdle line →
      (line ∈ Collection.allLines feed none ↔ line ∈ Collection.allLines feed' (some own)) := by
    intro line _
    simp only [Collection.allLines, feed, feed', own, Option.getD_none, Option.getD_some,
      List.mem_append, List.mem_cons, List.not_mem_nil]
    tauto
  obtain ⟨hagrees, hexpressions, hlists⟩ := render_is_canonical [] time
  have hsame : render i [] time = render j [] time := hlists .zero .zero _ _ _ _ hlines
  have hone : i.regexBlock.length = 1 := by decide
  refine ⟨hlines, hsame, (hagrees i j).mp hsame, hone, ?_, ?_⟩
  · exact hexpressions i _ _ hone.symm (by decide)
  · intro hequal
    have hnone := ((hagrees _ _).mp hequal).regexBlock
    exact absurd (hnone.trans hone) (by decide)

end Script

end AutoProxy
