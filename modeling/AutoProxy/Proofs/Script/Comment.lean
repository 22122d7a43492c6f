import AutoProxy.Proofs.Script.Substitution
import AutoProxy.RuleSet.Collection

/-! What stands before the line that declares the proxy is a comment, unless the placeholder ends
the line that shows it. -/
namespace AutoProxy.Script

variable {i : Index} {placeholder line t u : Text} {time : Timestamp}

/-- A line of the script's own language ends here, and with it a comment. -/
def isTerminator (c : Char) : Bool := c = '\n' || c = '\r' || c = '\u2028' || c = '\u2029'

/-- A line that nothing is done for. -/
def IsComment (line : Text) : Prop := line = [] ∨ "//".toList <+: line

/-- Each line that the placeholder begins is a comment again. In the head a blank follows it. -/
def StaysComment (placeholder : Text) : Prop :=
  ∀ l ∈ (Text.split isTerminator (placeholder ++ [' '])).tail, IsComment l

theorem isComment_append (h : "//".toList <+: t) : IsComment (t ++ u) :=
  .inr (h.trans (List.prefix_append t u))

/-- Whether a line is a comment is settled by what stands before its first blank. -/
theorem isComment_append_blank_iff : IsComment (t ++ ' ' :: u) ↔ "//".toList <+: t := by
  constructor
  · rintro (hnil | hslashes)
    · simp at hnil
    · cases t with
      | nil => simp at hslashes
      | cons a t =>
        cases t with
        | nil => simp at hslashes
        | cons b t => simpa using hslashes
  · exact isComment_append

theorem split_opening (i : Index) (placeholder : Text) (time : Timestamp) :
    Text.split isTerminator (opening i placeholder time) =
      (head i placeholder time).flatMap (Text.split isTerminator) ++ [[], []] := by
  have hopening : Text.split isTerminator (opening i placeholder time ++ []) = _ :=
    split_unlines_append rfl (head i placeholder time ++ [[]]) []
  rw [List.append_nil, List.flatMap_append, List.append_assoc] at hopening
  exact hopening

theorem eq_of_isTerminator {c : Char} (h : isTerminator c = true) :
    c = '\n' ∨ c = '\r' ∨ c = '\u2028' ∨ c = '\u2029' := by
  simpa [isTerminator, or_assoc] using h

theorem isTerminator_of_isDigit {c : Char} (h : c.isDigit = true) : isTerminator c = false := by
  rw [← Bool.not_eq_true]
  intro hmark
  rcases eq_of_isTerminator hmark with rfl | rfl | rfl | rfl <;> exact absurd h (by decide)

theorem isTerminator_of_mem_ofNat {c : Char} {n : Nat} (h : c ∈ Text.ofNat n) :
    isTerminator c = false :=
  isTerminator_of_isDigit (Text.isDigit_of_mem_ofNat h)

theorem isTerminator_of_mem_toText {c : Char} (h : c ∈ time.toText) : isTerminator c = false := by
  rcases time.isMark_toText c h with hdigit | hmark
  · exact isTerminator_of_isDigit hdigit
  · have hplain : ∀ d ∈ ['-', 'T', ':', '.', '+'], isTerminator d = false := by
      simp [isTerminator]
    exact hplain c hmark

/-- A line of the head that shows no text but the script's own is one comment. -/
theorem isComment_of_slashes (hslashes : "//".toList <+: t)
    (h : ∀ c ∈ t, isTerminator c = false) : ∀ l ∈ Text.split isTerminator t, IsComment l := by
  rw [Text.split_of_unmarked h, List.forall_mem_singleton]
  exact .inr hslashes

/-- The line that shows the placeholder is cut where the placeholder is. -/
theorem isComment_shown_iff (placeholder : Text) (hfirst : "//".toList <+: t)
    (ht : ∀ c ∈ t, isTerminator c = false) (hu : ∀ c ∈ u, isTerminator c = false) :
    (∀ l ∈ Text.split isTerminator (t ++ placeholder ++ ' ' :: u), IsComment l) ↔
      StaysComment placeholder := by
  obtain ⟨before, last, hsplit⟩ := Text.exists_split_concat isTerminator placeholder
  have hblank : isTerminator ' ' = false := rfl
  have hshown := hsplit (' ' :: u) (List.forall_mem_cons.mpr ⟨hblank, hu⟩)
  have hstays := hsplit [' '] (List.forall_mem_singleton.mpr hblank)
  rw [List.append_assoc, Text.split_append_of_unmarked ht, hshown, StaysComment, hstays]
  -- The last part ends in a blank on both sides; only what stands before it tells.
  cases before with
  | nil => simp [isComment_append hfirst]
  | cons b before =>
    simp only [List.cons_append, List.modifyHead_cons, List.tail_cons, List.forall_mem_cons,
      List.forall_mem_append, isComment_append hfirst, true_and, isComment_append_blank_iff]

theorem isComment_countLine (block whitelist : Nat) :
    ∀ l ∈ Text.split isTerminator (countLine block whitelist), IsComment l := by
  refine isComment_of_slashes ⟨_, rfl⟩ ?_
  simp only [countLine_eq, List.forall_mem_append]
  refine ⟨⟨⟨⟨by simp [isTerminator], ?_⟩, by simp [isTerminator]⟩, ?_⟩, by simp [isTerminator]⟩
  · exact fun c => isTerminator_of_mem_ofNat
  · exact fun c => isTerminator_of_mem_ofNat

theorem isComment_counted (i : Index) :
    ∀ t ∈ counted i, ∀ l ∈ Text.split isTerminator t, IsComment l := by
  unfold counted
  split
  · exact List.forall_mem_nil _
  · exact List.forall_mem_singleton.mpr (isComment_countLine _ _)

/-- Of the lines of the head, only the one that shows the placeholder can be more than a comment. -/
theorem isComment_head_iff (i : Index) (placeholder : Text) (time : Timestamp) :
    (∀ t ∈ head i placeholder time, ∀ l ∈ Text.split isTerminator t, IsComment l) ↔
      StaysComment placeholder := by
  have hfirst : ∀ l ∈ Text.split isTerminator "// PAC file generated by gfwpac".toList,
      IsComment l :=
    isComment_of_slashes ⟨_, rfl⟩ (by simp [isTerminator])
  have htime : ∀ l ∈ Text.split isTerminator ("// Generated at: ".toList ++ time.toText),
      IsComment l := by
    refine isComment_of_slashes ⟨_, rfl⟩ (List.forall_mem_append.mpr ⟨by simp [isTerminator], ?_⟩)
    exact fun c => isTerminator_of_mem_toText
  have hshown := isComment_shown_iff placeholder (t := "// Replace ".toList)
    (u := "with your proxy server, e.g.: SOCKS5 127.0.0.1:1080; DIRECT".toList) ⟨_, rfl⟩
    (by simp [isTerminator]) (by simp [isTerminator])
  rw [← hshown, head, notes, List.forall_mem_append, List.forall_mem_cons, List.forall_mem_cons,
    List.forall_mem_singleton]
  exact ⟨fun h => h.1.2.2, fun h => ⟨⟨hfirst, htime, h⟩, isComment_counted i⟩⟩

theorem isComment_opening_iff (i : Index) (placeholder : Text) (time : Timestamp) :
    (∀ l ∈ Text.split isTerminator (opening i placeholder time), IsComment l) ↔
      StaysComment placeholder := by
  have hends : ∀ l ∈ ([[], []] : List Text), IsComment l := by
    intro l hl
    exact .inl (by simpa using hl)
  rw [← isComment_head_iff i placeholder time, split_opening, List.forall_mem_append,
    List.forall_mem_flatMap]
  exact ⟨fun h => h.1, fun h => ⟨h, hends⟩⟩

theorem staysComment_of_unbroken (h : ∀ c ∈ placeholder, isTerminator c = false) :
    StaysComment placeholder := by
  have hone : ∀ c ∈ placeholder ++ [' '], isTerminator c = false :=
    List.forall_mem_append.mpr ⟨h, List.forall_mem_singleton.mpr rfl⟩
  rw [StaysComment, Text.split_of_unmarked hone]
  exact List.forall_mem_nil _

/-- Nothing is done before the proxy is declared exactly if each line that the placeholder begins is
a comment again. A placeholder of one line begins none. -/
theorem isComment_before_proxyLine (i : Index) (placeholder : Text) (time : Timestamp) :
    render i placeholder time =
        opening i placeholder time ++ proxyLine placeholder ++ '\n' :: unlines (tail i) ∧
      ¬ proxyLine placeholder <:+: opening i placeholder time ∧
      ((∀ l ∈ Text.split isTerminator (opening i placeholder time), IsComment l) ↔
        StaysComment placeholder) ∧
      ((∀ c ∈ placeholder, isTerminator c = false) → StaysComment placeholder) :=
  ⟨render_eq_append i placeholder time, not_proxyLine_infix_opening,
    isComment_opening_iff i placeholder time, staysComment_of_unbroken⟩

/-- What follows a line feed in the placeholder is done before the proxy is declared. -/
theorem not_isComment_after_line_feed :
    let i := (Collection.ofLists .zero ["||a.com".toList] none).rules.index
    let script := opening i "X\nalert(1);//".toList ⟨2024, 1, 2, 3, 4, 5, 0, some 0⟩
    let line := "alert(1);// with your proxy server, e.g.: SOCKS5 127.0.0.1:1080; DIRECT".toList
    line ∈ Text.split isTerminator script ∧ ¬ IsComment line := by
  intro i script line
  have hshown : line ∈ Text.split isTerminator ("// Replace X".toList ++ '\n' :: line) := by
    rw [Text.split_append_mark rfl]
    have hline : Text.split isTerminator line = [line] :=
      Text.split_of_unmarked (by simp [line, isTerminator])
    exact List.mem_append_right _ (hline ▸ List.mem_singleton_self line)
  refine ⟨?_, ?_⟩
  · rw [split_opening]
    refine List.mem_append_left _ (List.mem_flatMap.mpr ⟨_, ?_, hshown⟩)
    exact List.mem_append_left _ (List.mem_cons_of_mem _ (List.mem_cons_of_mem _ (.head _)))
  · rintro (hnil | ⟨t, hslashes⟩)
    · exact absurd hnil (by simp [line])
    · have hfirst := congrArg List.head? hslashes
      exact absurd hfirst (by simp [line])

end AutoProxy.Script
