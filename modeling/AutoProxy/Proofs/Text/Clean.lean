import AutoProxy.Proofs.Text.Blank
import AutoProxy.Proofs.Text.Lines
import AutoProxy.Proofs.Text.Split
import AutoProxy.Text.Clean

/-! Cleaned messages: words in one line, with one space between each two, within the limit. -/
namespace AutoProxy.Text

/-- A word holds no separator. -/
def IsWord (w : Text) : Prop := w ≠ [] ∧ ∀ c ∈ w, isSeparator c = false

/-- Words with one space between each two. -/
inductive IsTidy : Text → Prop where
  | nil : IsTidy []
  | word {w} : IsWord w → IsTidy w
  | cons {w t} : IsWord w → IsTidy t → t ≠ [] → IsTidy (w ++ ' ' :: t)

/-- Each blank is a space between two characters that are no blanks. -/
def IsSpaced (t : Text) : Prop :=
  ∀ front c back, t = front ++ c :: back → isBlank c = true →
    c = ' ' ∧ (∃ d, front.getLast? = some d ∧ isBlank d = false) ∧
      ∃ d, back.head? = some d ∧ isBlank d = false

/-- Each run of blanks becomes one space. -/
def squeeze : Text → Text
  | [] => []
  | c :: t =>
    if isBlank c then if t.head?.any isBlank then squeeze t else ' ' :: squeeze t
    else c :: squeeze t

/-- Controls count as blanks. -/
def level (t : Text) : Text := squeeze (t.map fun c => if isControl c then ' ' else c)

variable {c : Char} {p t w : Text} {ws : List Text} {limit : Int}

theorem isBlank_of_isSeparator (h : isSeparator c = false) : isBlank c = false := by
  simp only [isSeparator, Bool.or_eq_false_iff] at h
  exact h.1

/-- All that ends a line is blank. -/
theorem isSeparator_of_isLineEnd (h : isLineEnd c = true) : isSeparator c = true := by
  simp only [isLineEnd, Bool.or_eq_true, Bool.and_eq_true, decide_eq_true_eq, beq_iff_eq] at h
  simp only [isSeparator, isBlank, Bool.or_eq_true, Bool.and_eq_true, decide_eq_true_eq, beq_iff_eq]
  omega

/-- Words are the pieces between separators that are not empty. -/
theorem isWord_of_mem_words (h : w ∈ words t) : IsWord w := by
  obtain ⟨hsplit, hne⟩ := List.mem_filter.mp h
  exact ⟨by simpa using hne, not_isMark_of_mem_split hsplit⟩

theorem IsWord.not_isBlank (h : IsWord w) (hc : c ∈ w) : isBlank c = false :=
  isBlank_of_isSeparator (h.2 c hc)

theorem IsWord.head (h : IsWord w) : ∃ d, w.head? = some d ∧ isBlank d = false := by
  obtain ⟨d, u, rfl⟩ := List.exists_cons_of_ne_nil h.1
  exact ⟨d, rfl, h.not_isBlank List.mem_cons_self⟩

/-- No word reaches across a separator. -/
theorem words_append_mark (hc : isSeparator c = true) (s t : Text) :
    words (s ++ c :: t) = words s ++ words t := by
  rw [words, split_append_mark hc, List.filter_append]
  rfl

theorem words_of_isWord (h : IsWord w) : words w = [w] := by
  rw [words, split_of_unmarked h.2]
  simp [h.1]

/-- By induction on the words, the last of which has no space behind it. -/
theorem isTidy_join (h : ∀ w ∈ ws, IsWord w) : IsTidy (join [' '] ws) := by
  induction ws with
  | nil => exact .nil
  | cons w ws ih =>
    obtain ⟨hw, hws⟩ := List.forall_mem_cons.mp h
    by_cases hne : ws = []
    · subst hne
      exact .word hw
    · rw [join_cons hne, List.append_assoc]
      refine .cons hw (ih hws) ?_
      obtain ⟨v, vs, rfl⟩ := List.exists_cons_of_ne_nil hne
      have hv := (hws v List.mem_cons_self).1
      cases vs <;> simp [join, hv]

/-- A tidy text is made of its words and of nothing else. -/
theorem join_words (h : IsTidy t) : join [' '] (words t) = t := by
  induction h with
  | nil => rfl
  | word hw =>
    rw [words_of_isWord hw]
    rfl
  | @cons w t hw ht hne ih =>
    have hwords : words t ≠ [] := by
      intro hnil
      rw [hnil] at ih
      exact hne ih.symm
    rw [words_append_mark rfl, words_of_isWord hw, List.singleton_append, join_cons hwords, ih,
      List.append_assoc]
    rfl

theorem trimEnd_of_plain (h : ∀ c ∈ t, isSeparator c = false) : trimEnd t = t := by
  apply trimEnd_of_getLast
  intro c hc
  exact isBlank_of_isSeparator (h c (List.mem_of_getLast? hc))

/-- A word that is cut is a word, or nothing is left of it. -/
theorem isTidy_trimEnd_of_word (hw : IsWord w) (hp : p <+: w) : IsTidy (trimEnd p) := by
  have hplain : ∀ c ∈ p, isSeparator c = false := fun c hc => hw.2 c (hp.subset hc)
  rw [trimEnd_of_plain hplain]
  by_cases hne : p = []
  · rw [hne]
    exact .nil
  · exact .word ⟨hne, hplain⟩

/-- Wherever tidy text is cut, what is left is tidy again once its end is trimmed. -/
theorem IsTidy.trimEnd_prefix (h : IsTidy t) (hp : p <+: t) : IsTidy (trimEnd p) := by
  induction h generalizing p with
  | nil =>
    rw [List.prefix_nil.mp hp]
    exact .nil
  | word hw => exact isTidy_trimEnd_of_word hw hp
  | @cons w t hw ht hne ih =>
    -- The cut is in the first word, or behind it and what is left ends in a front of the rest.
    rcases List.prefix_or_prefix_of_prefix hp (List.prefix_append w _) with hshort | ⟨q, rfl⟩
    · exact isTidy_trimEnd_of_word hw hshort
    · rw [trimEnd_append]
      split
      · exact isTidy_trimEnd_of_word hw List.prefix_rfl
      · next hq =>
        have hrest := (List.prefix_append_right_inj w).mp hp
        cases q with
        | nil => exact absurd rfl hq
        | cons d q =>
          obtain ⟨rfl, htail⟩ := List.cons_prefix_cons.mp hrest
          have hspace : trimEnd (' ' :: q) = if trimEnd q = [] then [] else ' ' :: trimEnd q :=
            trimEnd_append [' '] q
          rw [hspace] at hq ⊢
          by_cases hend : trimEnd q = []
          · rw [if_pos hend] at hq
            exact absurd rfl hq
          · rw [if_neg hend]
            exact .cons hw (ih htail) hend

/-- The ellipsis of a cut message is no separator, so it can stand at once behind a tidy text. -/
theorem IsTidy.concat (h : IsTidy t) (hc : isSeparator c = false) : IsTidy (t ++ [c]) := by
  induction h with
  | nil => exact .word ⟨by simp, by simpa using hc⟩
  | word hw => exact .word ⟨by simp, List.forall_mem_append.mpr ⟨hw.2, by simpa using hc⟩⟩
  | cons hw ht hne ih =>
    rw [List.append_assoc]
    exact .cons hw ih (by simp)

theorem IsTidy.eq_space (h : IsTidy t) : ∀ c ∈ t, isSeparator c = true → c = ' ' := by
  have hword {w : Text} (hw : IsWord w) : ∀ c ∈ w, isSeparator c = true → c = ' ' := by
    intro c hc hmark
    rw [hw.2 c hc] at hmark
    cases hmark
  induction h with
  | nil => exact List.forall_mem_nil _
  | word hw => exact hword hw
  | cons hw ht hne ih =>
    exact List.forall_mem_append.mpr ⟨hword hw, List.forall_mem_cons.mpr ⟨fun _ => rfl, ih⟩⟩

/-- Controls are separators, and of these only the space is left. -/
theorem IsTidy.isPrintable (h : IsTidy t) (hc : c ∈ t) : 0x20 ≤ c.toNat ∧ c.toNat ≠ 0x7F := by
  cases hmark : isSeparator c with
  | true =>
    rw [h.eq_space c hc hmark]
    exact ⟨Nat.le_refl _, by decide⟩
  | false =>
    simp only [isSeparator, isControl, Bool.or_eq_false_iff, decide_eq_false_iff_not] at hmark
    omega

theorem IsTidy.head (h : IsTidy t) (hne : t ≠ []) : ∃ d, t.head? = some d ∧ isBlank d = false := by
  cases h with
  | nil => exact absurd rfl hne
  | word hw => exact hw.head
  | cons hw ht hrest =>
    obtain ⟨d, hd, hplain⟩ := hw.head
    exact ⟨d, by rw [List.head?_append, hd, Option.some_or], hplain⟩

/-- A character of `w ++ d :: t` is one of `w`, or it is `d`, or it is one of `t`. -/
theorem append_cons_cases {d : Char} {front back : Text} (h : w ++ d :: t = front ++ c :: back) :
    c ∈ w ∨ (front = w ∧ c = d ∧ back = t) ∨ ∃ k, front = w ++ d :: k ∧ t = k ++ c :: back := by
  rcases List.append_eq_append_iff.mp h with ⟨k, hfront, hk⟩ | ⟨k, hw, hk⟩
  · cases k with
    | nil =>
      obtain ⟨rfl, rfl⟩ := List.cons_eq_cons.mp hk
      exact .inr (.inl ⟨by simpa using hfront, rfl, rfl⟩)
    | cons e k =>
      obtain ⟨rfl, rfl⟩ := List.cons_eq_cons.mp hk
      exact .inr (.inr ⟨k, hfront, rfl⟩)
  · cases k with
    | nil =>
      obtain ⟨rfl, rfl⟩ := List.cons_eq_cons.mp hk
      exact .inr (.inl ⟨by simpa using hw.symm, rfl, rfl⟩)
    | cons e k =>
      obtain ⟨rfl, -⟩ := List.cons_eq_cons.mp hk
      exact .inl (hw ▸ by simp)

/-- The blank that is looked for is the one behind the first word, or it is further on. -/
theorem IsTidy.isSpaced (h : IsTidy t) : IsSpaced t := by
  induction h with
  | nil =>
    intro front c back heq
    simp at heq
  | @word w hw =>
    intro front c back heq hblank
    have hc : c ∈ w := by simp [heq]
    rw [hw.not_isBlank hc] at hblank
    cases hblank
  | @cons w t hw ht hne ih =>
    intro front c back heq hblank
    rcases append_cons_cases heq with hc | ⟨rfl, rfl, rfl⟩ | ⟨k, rfl, ht⟩
    · rw [hw.not_isBlank hc] at hblank
      cases hblank
    · have hlast := hw.not_isBlank (List.getLast_mem hw.1)
      exact ⟨rfl, ⟨_, List.getLast?_eq_some_getLast hw.1, hlast⟩, ht.head hne⟩
    · obtain ⟨hspace, ⟨d, hd, hplain⟩, hback⟩ := ih k c back ht hblank
      refine ⟨hspace, ⟨d, ?_, hplain⟩, hback⟩
      simp [List.getLast?_append, List.getLast?_cons, hd]

/-- No separator but the space, which ends no line. -/
theorem IsTidy.not_isLineEnd (h : IsTidy t) (hc : c ∈ t) : isLineEnd c = false := by
  rw [← Bool.not_eq_true]
  intro hend
  have hspace := h.eq_space c hc (isSeparator_of_isLineEnd hend)
  rw [hspace] at hend
  exact absurd hend (by decide)

theorem IsTidy.lines_length_le (h : IsTidy t) : (lines t).length ≤ 1 := by
  by_cases hne : t = []
  · rw [hne]
    exact Nat.zero_le 1
  · rw [lines_of_plain hne fun c hc => h.not_isLineEnd hc]
    exact Nat.le_refl 1

/-- Of a run of separators only the last leaves a space. -/
theorem level_cons (c : Char) (t : Text) : level (c :: t) =
    if isSeparator c then if t.head?.any isSeparator then level t else ' ' :: level t
    else c :: level t := by
  have hmark (d : Char) : isBlank (if isControl d then ' ' else d) = isSeparator d := by
    cases hd : isControl d <;> simp [isSeparator, hd]
    rfl
  have hhead : (t.map fun c => if isControl c then ' ' else c).head?.any isBlank =
      t.head?.any isSeparator := by
    cases t with
    | nil => rfl
    | cons d t => exact hmark d
  rw [level, List.map_cons, squeeze, hmark, hhead]
  cases hc : isSeparator c with
  | true => rfl
  | false =>
    have hcontrol : isControl c = false := by
      simp only [isSeparator, Bool.or_eq_false_iff] at hc
      exact hc.2
    rw [hcontrol]
    rfl

theorem trimStart_level (t : Text) : trimStart (level t) = level (t.dropWhile isSeparator) := by
  have hspace (u : Text) : trimStart (' ' :: u) = trimStart u := List.dropWhile_cons_of_pos rfl
  induction t with
  | nil => rfl
  | cons c t ih =>
    rw [level_cons]
    cases hc : isSeparator c with
    | true =>
      rw [List.dropWhile_cons_of_pos hc, ← ih, if_pos rfl]
      split
      · rfl
      · exact hspace _
    | false =>
      rw [List.dropWhile_cons_of_neg (by simp [hc]), level_cons, hc]
      apply trimStart_of_head
      intro d hd
      obtain rfl := Option.some.inj hd
      exact isBlank_of_isSeparator hc

theorem words_dropWhile (t : Text) : words (t.dropWhile isSeparator) = words t := by
  induction t with
  | nil => rfl
  | cons c t ih =>
    cases hc : isSeparator c with
    | true =>
      rw [List.dropWhile_cons_of_pos hc, ih]
      exact (words_append_mark hc [] t).symm
    | false => rw [List.dropWhile_cons_of_neg (by simp [hc])]

/-- A letter before a word makes it longer, and the number of words stays. -/
theorem words_cons (hc : isSeparator c = false) (ht : t.head?.any isSeparator = false)
    (hne : t ≠ []) : ∃ w ws, words t = w :: ws ∧ words (c :: t) = (c :: w) :: ws := by
  obtain ⟨d, u, rfl⟩ := List.exists_cons_of_ne_nil hne
  have hd : isSeparator d = false := ht
  obtain ⟨w, ws, hsplit⟩ := List.exists_cons_of_ne_nil (split_ne_nil isSeparator u)
  refine ⟨d :: w, ws.filter (!·.isEmpty), ?_, ?_⟩
  · simp [words, split_cons hd, hsplit]
  · simp [words, split_cons hd, split_cons hc, hsplit]

theorem isTidy_words (t : Text) : IsTidy (join [' '] (words t)) :=
  isTidy_join fun _ => isWord_of_mem_words

theorem join_words_eq_nil_iff : join [' '] (words t) = [] ↔ words t = [] := by
  refine ⟨fun hnil => ?_, fun hnil => by rw [hnil]; rfl⟩
  by_contra hne
  obtain ⟨w, ws, hwords⟩ := List.exists_cons_of_ne_nil hne
  have hw : IsWord w := isWord_of_mem_words (t := t) (by rw [hwords]; exact List.mem_cons_self)
  rw [hwords] at hnil
  cases ws with
  | nil => exact hw.1 hnil
  | cons v ws => simp [join] at hnil

/-- The words of a text with one space between each two, and one in front if `t` starts with a
separator. -/
def spread (t : Text) : Text :=
  if t.head?.any isSeparator ∧ words t ≠ [] then ' ' :: join [' '] (words t)
  else join [' '] (words t)

/-- A run of separators at the end of the text leaves nothing, any other one space. -/
theorem spread_mark (hc : isSeparator c = true) (t : Text) : spread (c :: t) =
    if t.head?.any isSeparator then spread t
    else if spread t = [] then [] else ' ' :: spread t := by
  have hwords : words (c :: t) = words t := words_append_mark hc [] t
  have hfront : spread (c :: t) =
      if words t = [] then [] else ' ' :: join [' '] (words t) := by
    rw [spread, hwords]
    by_cases hw : words t = []
    · rw [if_neg (fun h => h.2 hw), if_pos hw, hw]
      rfl
    · rw [if_pos ⟨hc, hw⟩, if_neg hw]
  rw [hfront, spread]
  cases ht : t.head?.any isSeparator with
  | true =>
    by_cases hw : words t = []
    · simp [hw, join]
    · simp [hw]
  | false =>
    simp only [Bool.false_eq_true, false_and, if_false, join_words_eq_nil_iff]

theorem spread_letter (hc : isSeparator c = false) (t : Text) :
    spread (c :: t) = c :: spread t := by
  have hfront : spread (c :: t) = join [' '] (words (c :: t)) := by
    rw [spread, if_neg]
    rintro ⟨hmark, -⟩
    exact Bool.false_ne_true (hc.symm.trans hmark)
  have hone : words [c] = [[c]] := words_of_isWord ⟨by simp, by simpa using hc⟩
  rw [hfront]
  cases t with
  | nil => rw [hone]; rfl
  | cons d u =>
    cases hd : isSeparator d with
    | true =>
      have hwords : words (c :: d :: u) = [c] :: words (d :: u) := by
        have hrest : words (d :: u) = words u := words_append_mark hd [] u
        rw [hrest, ← List.singleton_append, words_append_mark hd, hone]
        rfl
      rw [hwords, spread]
      by_cases hw : words (d :: u) = []
      · rw [hw, if_neg (by simp)]
        rfl
      · rw [if_pos ⟨hd, hw⟩, join_cons hw]
        rfl
    | false =>
      have hhead : (d :: u).head?.any isSeparator = false := hd
      obtain ⟨w, ws, hu, hwords⟩ := words_cons hc hhead (List.cons_ne_nil d u)
      rw [hwords, spread, if_neg, hu]
      · cases ws <;> rfl
      · rintro ⟨hmark, -⟩
        exact Bool.false_ne_true (hd.symm.trans hmark)

/-- Only the end is trimmed here, so that the front of each rest of the text still tells whether a
space is to come before it. -/
theorem trimEnd_level (t : Text) : trimEnd (level t) = spread t := by
  have hcons (d : Char) (u : Text) :
      trimEnd (d :: u) = if trimEnd u = [] then trimEnd [d] else d :: trimEnd u :=
    trimEnd_append [d] u
  induction t with
  | nil => rfl
  | cons c t ih =>
    rw [level_cons]
    cases hc : isSeparator c with
    | true =>
      rw [spread_mark hc, if_pos rfl, ← ih]
      split
      · rfl
      · exact hcons ' ' _
    | false =>
      have hlast : trimEnd [c] = [c] := trimEnd_of_plain (by simpa using hc)
      rw [spread_letter hc, if_neg Bool.false_ne_true, hcons, ← ih, hlast]
      split
      · next hnil => rw [hnil]
      · rfl

/-- The words of a text with one space between each two are what is left when controls are made
spaces, each run of blanks one space, and both ends are trimmed. -/
theorem trim_level (t : Text) : trim (level t) = join [' '] (words t) := by
  rw [trim, trimStart_level, trimEnd_level, spread, words_dropWhile, if_neg]
  rintro ⟨hmark, -⟩
  have hplain := List.head?_dropWhile_not isSeparator t
  cases hhead : (t.dropWhile isSeparator).head? with
  | none => simp [hhead] at hmark
  | some d =>
    rw [hhead] at hplain hmark
    exact Bool.false_ne_true (hplain.symm.trans hmark)

theorem clip_of_fits (h : (t.length : Int) ≤ limit) : clip limit t = t := if_pos (.inr h)

/-- What a cut leaves is the front of the text with no blank at its end, and an ellipsis. -/
theorem clip_of_long (hlimit : 1 ≤ limit) (h : limit < t.length) : ∃ p, p <+: t ∧
    (p.length : Int) ≤ limit - 1 ∧ trimEnd p = p ∧ clip limit t = p ++ ['\u2026'] := by
  refine ⟨trimEnd (t.take (limit - 1).toNat),
    (trimEnd_isPrefix _).trans (List.take_prefix _ t), ?_, trimEnd_trimEnd _, ?_⟩
  · have htrim := (trimEnd_isPrefix (t.take (limit - 1).toNat)).length_le
    rw [List.length_take] at htrim
    omega
  · rw [clip, if_neg (by omega), front, if_pos (by omega)]

/-- The ellipsis counts as well, so one character less than the limit is kept. -/
theorem length_clip_le (hlimit : 1 ≤ limit) (t : Text) : ((clip limit t).length : Int) ≤ limit := by
  by_cases hfits : (t.length : Int) ≤ limit
  · rwa [clip_of_fits hfits]
  · obtain ⟨p, -, hp, -, hclip⟩ := clip_of_long hlimit (by omega : limit < t.length)
    rw [hclip, List.length_append, List.length_singleton]
    omega

theorem IsTidy.clip (hlimit : 1 ≤ limit) (h : IsTidy t) : IsTidy (clip limit t) := by
  by_cases hfits : (t.length : Int) ≤ limit
  · rwa [clip_of_fits hfits]
  · obtain ⟨p, hp, -, hend, hclip⟩ := clip_of_long hlimit (by omega : limit < t.length)
    rw [hclip, ← hend]
    exact (h.trimEnd_prefix hp).concat rfl

theorem isTidy_clean (hlimit : 1 ≤ limit) (t : Text) : IsTidy (clean limit t) :=
  (isTidy_words t).clip hlimit

/-- What was cleaned is tidy and within the limit, so nothing is done to it again. -/
theorem clean_clean (hlimit : 1 ≤ limit) (t : Text) :
    clean limit (clean limit t) = clean limit t := by
  rw [clean, join_words (isTidy_clean hlimit t)]
  exact clip_of_fits (length_clip_le hlimit _)

/-- Under each limit that leaves room for one character, a cleaned message is one line of printable
characters with one space between each two words, which cleaning leaves as it is. It is the whole
message with its blanks made single spaces, or, where that is too long, the front of it and an
ellipsis. -/
theorem clean_fits_one_line (text : Option Text) {limit : Int} (hlimit : 1 ≤ limit) :
    let normal := trim (level (orEmpty text))
    let result := clean limit (orEmpty text)
    (result.length : Int) ≤ limit ∧ (lines result).length ≤ 1 ∧
      (∀ c ∈ result, 0x20 ≤ c.toNat ∧ c.toNat ≠ 0x7F) ∧ IsSpaced result ∧
      clean limit result = result ∧
      ((normal.length : Int) ≤ limit → result = normal) ∧
      (limit < normal.length → ∃ p, p <+: normal ∧ (p.length : Int) ≤ limit - 1 ∧ trimEnd p = p ∧
        result = p ++ ['\u2026']) := by
  intro normal result
  have hresult : result = clip limit normal := congrArg (clip limit) (trim_level _).symm
  have htidy : IsTidy result := (isTidy_words _).clip hlimit
  refine ⟨length_clip_le hlimit _, htidy.lines_length_le, fun c hc => htidy.isPrintable hc,
    htidy.isSpaced, clean_clean hlimit _, ?_, ?_⟩
  · intro hfits
    rw [hresult, clip_of_fits hfits]
  · intro hlong
    rw [hresult]
    exact clip_of_long hlimit hlong

/-- The cut is right after a space, which goes too. -/
theorem clean_fits_one_line_four :
    let text := some "\tno such\r\nlist".toList
    let result := clean 4 (orEmpty text)
    (1 : Int) ≤ 4 ∧ (4 : Int) < (trim (level (orEmpty text))).length ∧
      result = "no\u2026".toList ∧ (result.length : Int) ≤ 4 ∧ clean 4 result = result ∧
      ∃ p, p <+: trim (level (orEmpty text)) ∧ (p.length : Int) ≤ 3 ∧ trimEnd p = p ∧
        result = p ++ ['\u2026'] := by
  intro text result
  have hlong : (4 : Int) < (trim (level (orEmpty text))).length := by decide
  obtain ⟨hlength, -, -, -, hsame, -, hcut⟩ := clean_fits_one_line text (by decide : (1 : Int) ≤ 4)
  exact ⟨by decide, hlong, by decide, hlength, hsame, hcut hlong⟩

end AutoProxy.Text
