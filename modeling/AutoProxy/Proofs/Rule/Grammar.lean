import AutoProxy.Proofs.Domain.Lower
import AutoProxy.Proofs.Text.Blank
import AutoProxy.Rule.Parser

/-! The grammar of rule lines, and the reader that accepts exactly what it derives. -/
namespace AutoProxy.Rule

open Domain Text

/-- A letter in either case. The long s is a case of s. -/
def IsCaseOf (a c : Char) : Prop := c = a ∨ c = a.toUpper ∨ (a = 's' ∧ c = '\u017F')

/-- `http` or `https` in letters of any case. -/
def IsScheme (s : Text) : Prop :=
  List.Forall₂ IsCaseOf "http".toList s ∨ List.Forall₂ IsCaseOf "https".toList s

/-- What may follow the host of an anchor: nothing, or a slash or caret with anything behind it. -/
def EndsHost (z : Text) : Prop := z = [] ∨ z.head? = some '/' ∨ z.head? = some '^'

/-- The kind and the value that a text behind the whitelist marker names. -/
inductive Names : Text → Kind → Text → Prop
  | slash : Names ['/'] .regex []
  | regex {v} : Names ('/' :: v ++ ['/']) .regex v
  | url {s h z} : IsScheme s → IsDomain h → EndsHost z →
      Names ('|' :: s ++ "://".toList ++ h ++ z) .exact (Text.lower h)
  | anchor {h z} : IsDomain h → EndsHost z → Names ('|' :: '|' :: h ++ z) .suffix (Text.lower h)
  | domain {h} : IsDomain h → Names h .suffix (Text.lower h)
  | keyword {r} : IsToken r → ¬ IsDomain r → Names r .keyword (Text.lower r)
  | front {r h} : ¬ IsToken r → IsLongestFront IsDomain h (withoutWildcard r) →
      Names r .suffix (Text.lower h)

/-- An anchor whose host has a line feed behind it, and the kind and the value that it stands
for. -/
inductive Spills : Text → Kind → Text → Prop where
  | url {s h z} : IsScheme s → IsDomain h → EndsHost z →
      Spills ('|' :: s ++ "://".toList ++ h ++ '\n' :: z) .exact (Text.lower h ++ ['\n'])
  | anchor {h z} : IsDomain h → EndsHost z →
      Spills ('|' :: '|' :: h ++ '\n' :: z) .suffix (Text.lower h ++ ['\n'])

variable {c a : Char} {t r s h z v word rest : Text} {k : Kind} {w : Bool} {x : Rule}

theorem takeWhile_append_of_head {p : Char → Bool} (ht : ∀ c ∈ t, p c = true)
    (hrest : ∀ c, rest.head? = some c → p c = false) : (t ++ rest).takeWhile p = t := by
  rw [List.takeWhile_append_of_pos ht]
  cases rest with
  | nil => simp
  | cons c rest => simp [hrest c rfl]

/-- The host ends before the first of its two marks, or with the text. -/
theorem anchoredHost_append_of_marks (ht : ∀ c ∈ t, c ≠ '/' ∧ c ≠ '^') (hz : EndsHost z) :
    anchoredHost (t ++ z) = t := by
  apply takeWhile_append_of_head
  · intro c hc
    simp [ht c hc]
  · intro c hc
    rcases hz with rfl | hz | hz
    · simp at hc
    · rw [hz] at hc
      simp [← Option.some.inj hc]
    · rw [hz] at hc
      simp [← Option.some.inj hc]

theorem ne_marks_of_isDomain (hh : IsDomain h) : ∀ c ∈ h, c ≠ '/' ∧ c ≠ '^' := by
  intro c hc
  have hinner := isInner_of_isDomainOver hh c hc
  exact ⟨ne_of_isInner hinner (by decide), ne_of_isInner hinner (by decide)⟩

theorem anchoredHost_append (hh : IsDomain h) (hz : EndsHost z) : anchoredHost (h ++ z) = h :=
  anchoredHost_append_of_marks (ne_marks_of_isDomain hh) hz

/-- Every text is its host and a rest that may stand behind one. -/
theorem exists_endsHost (t : Text) : ∃ z, t = anchoredHost t ++ z ∧ EndsHost z := by
  refine ⟨t.dropWhile fun c => c ≠ '/' && c ≠ '^', List.takeWhile_append_dropWhile.symm, ?_⟩
  have hhead := List.head?_dropWhile_not (fun c => c ≠ '/' && c ≠ '^') t
  cases hrest : t.dropWhile fun c => c ≠ '/' && c ≠ '^' with
  | nil => exact Or.inl rfl
  | cons c rest =>
    rw [hrest] at hhead
    have hc : c ≠ '/' → c = '^' := by simpa using hhead
    by_cases hslash : c = '/'
    · exact Or.inr (Or.inl (by rw [hslash]; rfl))
    · exact Or.inr (Or.inr (by rw [hc hslash]; rfl))

/-- Besides the two cases of a letter, the long s is one for s. -/
theorem isSchemeLetter_iff (ha : a.isUpper = false) : isSchemeLetter a c = true ↔ IsCaseOf a c := by
  have hcase : c.toLower = a ↔ c = a ∨ c = a.toUpper := by
    constructor
    · rintro rfl
      by_cases hc : c.isUpper
      · right
        rw [Char.toUpper_toLower_eq_toUpper, Char.toUpper_eq_of_not_isLower]
        simp [Char.not_isLower_of_isUpper hc]
      · exact Or.inl (Char.toLower_eq_of_not_isUpper hc).symm
    · have hself : a.toLower = a := Char.toLower_eq_of_not_isUpper (by simp [ha])
      rintro (rfl | rfl)
      · exact hself
      · rw [Char.toLower_toUpper_eq_toLower, hself]
  simp only [isSchemeLetter, IsCaseOf, Bool.or_eq_true, Bool.and_eq_true, decide_eq_true_eq, hcase,
    or_assoc]

/-- A word is passed over if each letter of it is there in some case. -/
theorem afterWord?_eq_some_iff (hword : ∀ a ∈ word, a.isUpper = false) :
    afterWord? word t = some rest ↔ ∃ s, List.Forall₂ IsCaseOf word s ∧ t = s ++ rest := by
  fun_induction afterWord? word t with
  | case1 t => simp [eq_comm]
  | case2 a word => simp [List.forall₂_cons_left_iff]
  | case3 a word c t hc ih =>
    rw [ih fun b hb => hword b (List.mem_cons_of_mem _ hb)]
    have hc := (isSchemeLetter_iff (hword a List.mem_cons_self)).mp hc
    constructor
    · rintro ⟨s, hs, rfl⟩
      exact ⟨c :: s, .cons hc hs, rfl⟩
    · rintro ⟨s, hs, heq⟩
      cases hs with
      | cons hd hs =>
        rw [List.cons_append, List.cons.injEq] at heq
        exact ⟨_, hs, heq.2⟩
  | case4 a word c t hc =>
    rw [isSchemeLetter_iff (hword a List.mem_cons_self)] at hc
    simp only [reduceCtorEq, false_iff]
    rintro ⟨s, hs, heq⟩
    cases hs with
    | cons hd hs =>
      rw [List.cons_append, List.cons.injEq] at heq
      exact hc (heq.1 ▸ hd)

theorem forall₂_append_iff {front back : Text} : List.Forall₂ IsCaseOf (front ++ back) s ↔
    ∃ s₁ s₂, List.Forall₂ IsCaseOf front s₁ ∧ List.Forall₂ IsCaseOf back s₂ ∧ s = s₁ ++ s₂ := by
  constructor
  · intro h
    induction front generalizing s with
    | nil => exact ⟨[], s, .nil, h, rfl⟩
    | cons a front ih =>
      cases h with
      | cons hc hs =>
        obtain ⟨s₁, s₂, hfront, hback, rfl⟩ := ih hs
        exact ⟨_ :: s₁, s₂, .cons hc hfront, hback, rfl⟩
  · rintro ⟨s₁, s₂, hfront, hback, rfl⟩
    exact List.rel_append hfront hback

theorem forall₂_singleton_iff :
    List.Forall₂ IsCaseOf [a] s ↔ ∃ c, IsCaseOf a c ∧ s = [c] := by
  simp [List.forall₂_cons_left_iff]

/-- Marks have no case. -/
theorem forall₂_marks_iff : List.Forall₂ IsCaseOf "://".toList s ↔ s = "://".toList := by
  have hcolon (c : Char) : IsCaseOf ':' c ↔ c = ':' := by simp [IsCaseOf, Char.toUpper]
  have hslash (c : Char) : IsCaseOf '/' c ↔ c = '/' := by simp [IsCaseOf, Char.toUpper]
  simp [List.forall₂_cons_left_iff, hcolon, hslash]

/-- The plain scheme is at the front of the secure one, so what differs is one letter more. -/
theorem isScheme_iff : IsScheme s ↔ ∃ http, List.Forall₂ IsCaseOf "http".toList http ∧
    (s = http ∨ ∃ c, IsCaseOf 's' c ∧ s = http ++ [c]) := by
  have hhttps : "https".toList = "http".toList ++ ['s'] := by simp
  rw [IsScheme, hhttps, forall₂_append_iff]
  constructor
  · rintro (hs | ⟨http, last, hhttp, hlast, rfl⟩)
    · exact ⟨s, hs, Or.inl rfl⟩
    · obtain ⟨c, hc, rfl⟩ := forall₂_singleton_iff.mp hlast
      exact ⟨http, hhttp, Or.inr ⟨c, hc, rfl⟩⟩
  · rintro ⟨http, hhttp, rfl | ⟨c, hc, rfl⟩⟩
    · exact Or.inl hhttp
    · exact Or.inr ⟨http, [c], hhttp, forall₂_singleton_iff.mpr ⟨c, hc, rfl⟩, rfl⟩

theorem afterWord?_secure_iff :
    afterWord? "s://".toList t = some rest ↔
      ∃ c, IsCaseOf 's' c ∧ t = c :: "://".toList ++ rest := by
  have hword : "s://".toList = ['s'] ++ "://".toList := by simp
  rw [afterWord?_eq_some_iff (by simp), hword]
  simp only [forall₂_append_iff, forall₂_singleton_iff, forall₂_marks_iff]
  constructor
  · rintro ⟨_, ⟨_, _, ⟨c, hc, rfl⟩, rfl, rfl⟩, rfl⟩
    exact ⟨c, hc, rfl⟩
  · rintro ⟨c, hc, rfl⟩
    exact ⟨[c] ++ "://".toList, ⟨[c], "://".toList, ⟨c, hc, rfl⟩, rfl, rfl⟩, rfl⟩

/-- The secure scheme is tried first, then the plain one. -/
theorem afterScheme?_eq_some_iff :
    afterScheme? t = some rest ↔ ∃ s, IsScheme s ∧ t = s ++ "://".toList ++ rest := by
  have hhttp (t t' : Text) : afterWord? "http".toList t = some t' ↔
      ∃ http, List.Forall₂ IsCaseOf "http".toList http ∧ t = http ++ t' :=
    afterWord?_eq_some_iff (by simp)
  simp only [afterScheme?, Option.bind_eq_bind, Option.bind_eq_some_iff, Option.orElse_eq_or,
    Option.or_eq_some_iff, hhttp, afterWord?_secure_iff, after?_eq_some_iff]
  constructor
  · rintro ⟨_, ⟨http, hs, rfl⟩, ⟨c, hc, rfl⟩ | ⟨-, rfl⟩⟩
    · exact ⟨http ++ [c], isScheme_iff.mpr ⟨http, hs, Or.inr ⟨c, hc, rfl⟩⟩, by simp⟩
    · exact ⟨http, isScheme_iff.mpr ⟨http, hs, Or.inl rfl⟩, by simp⟩
  · rintro ⟨s, hs, rfl⟩
    obtain ⟨http, hletters, rfl | ⟨c, hc, rfl⟩⟩ := isScheme_iff.mp hs
    · refine ⟨"://".toList ++ rest, ⟨s, hletters, by simp⟩, Or.inr ⟨?_, rfl⟩⟩
      simp [afterWord?, isSchemeLetter]
    · exact ⟨c :: "://".toList ++ rest, ⟨http, hletters, by simp⟩, Or.inl ⟨c, hc, rfl⟩⟩

theorem chomp_of_not_mem (ht : '\n' ∉ t) : t.chomp = t := by
  induction t with
  | nil => rfl
  | cons c t ih =>
    have hc : c ≠ '\n' := fun he => ht (he ▸ List.mem_cons_self)
    rw [chomp, ih fun hm => ht (List.mem_cons_of_mem _ hm)]
    exact fun he _ => hc he

/-- A domain has no line feed at its end that would be taken away. -/
theorem hostRule?_of_isDomain (hh : IsDomain h) :
    hostRule? k w h = some ⟨k, Text.lower h, w⟩ := by
  have hinner := isInner_of_isDomainOver hh
  have hchomp : h.chomp = h :=
    chomp_of_not_mem fun hm => ne_of_isInner (hinner _ hm) (by decide) rfl
  rw [hostRule?, isValid, hchomp, if_pos (isDomain_iff.mpr hh), text_lower_eq hinner]

/-- One line feed is taken away at most. -/
theorem eq_chomp_or (t : Text) : t = t.chomp ∨ t = t.chomp ++ ['\n'] := by
  fun_induction Text.chomp t with
  | case1 => exact .inl rfl
  | case2 => exact .inr rfl
  | case3 c t _ ih => exact ih.imp (congrArg (c :: ·)) (congrArg (c :: ·))

/-- A host stands for a domain, or for one with a line feed behind it. -/
theorem exists_domain_of_hostRule? (hx : hostRule? k w t = some x) : ∃ h, IsDomain h ∧
    (t = h ∧ x = ⟨k, Text.lower h, w⟩ ∨ t = h ++ ['\n'] ∧ x = ⟨k, Text.lower h ++ ['\n'], w⟩) := by
  rw [hostRule?] at hx
  split at hx
  · next hvalid =>
    cases hx
    have hdomain := isDomain_iff.mp hvalid
    have hlower := text_lower_eq (isInner_of_isDomainOver hdomain)
    refine ⟨t.chomp, hdomain, ?_⟩
    rw [hlower]
    rcases eq_chomp_or t with ht | ht
    · exact .inl ⟨ht, by rw [← ht]⟩
    · refine .inr ⟨ht, ?_⟩
      have hfeed : Domain.lower (t.chomp ++ ['\n']) = Domain.lower t.chomp ++ ['\n'] :=
        List.map_append
      rw [← hfeed, ← ht]
  · cases hx

/-- No token starts like an anchor or an expression. -/
theorem head_of_isToken (h : IsToken t) : t.head? ≠ some '|' ∧ t.head? ≠ some '/' := by
  obtain ⟨c, inner, d, rfl, hc, -⟩ := h
  have hbar : c ≠ '|' := ne_of_isInner (isInner_of_end hc) (by decide)
  have hslash : c ≠ '/' := ne_of_isInner (isInner_of_end hc) (by decide)
  simp [hbar, hslash]

/-- Away from anchors and expressions, a text is read as a token or from its front. -/
theorem parseBody_of_head (hbar : t.head? ≠ some '|') (hslash : t.head? ≠ some '/') :
    parseBody w t =
      if isToken t then some ⟨if isDomain t then .suffix else .keyword, Domain.lower t, w⟩
      else (longestFront? (withoutWildcard t)).map fun host => ⟨.suffix, Domain.lower host, w⟩ := by
  unfold parseBody
  split
  · simp at hbar
  · simp at hbar
  · simp [hslash]

/-- A token begins with none of the marks, so it is looked at as a whole, and it is a domain or a
keyword. -/
theorem parseBody_of_isToken (h : IsToken t) :
    parseBody w t = some ⟨if isDomain t then .suffix else .keyword, Text.lower t, w⟩ := by
  obtain ⟨hbar, hslash⟩ := head_of_isToken h
  rw [parseBody_of_head hbar hslash, if_pos (isToken_iff.mpr h),
    text_lower_eq (isInner_of_isTokenOver h)]

theorem head_of_isScheme (hs : IsScheme s) : ∃ c rest, s = c :: rest ∧ c ≠ '|' := by
  obtain ⟨http, hhttp, hs⟩ := isScheme_iff.mp hs
  have hword : "http".toList = 'h' :: "ttp".toList := by simp
  rw [hword] at hhttp
  cases hhttp with
  | @cons _ c _ rest hc _ =>
    have hbar : c ≠ '|' := by
      rintro rfl
      revert hc
      simp [IsCaseOf]
    rcases hs with rfl | ⟨d, -, rfl⟩
    · exact ⟨c, rest, rfl, hbar⟩
    · exact ⟨c, rest ++ [d], rfl, hbar⟩

/-- A domain at the front, even behind a wildcard, keeps all marks from the front. -/
theorem head_of_isLongestFront {host : Text}
    (hfront : IsLongestFront IsDomain host (withoutWildcard t)) :
    t.head? ≠ some '|' ∧ t.head? ≠ some '/' := by
  obtain ⟨hhost, ⟨rest, hrest⟩, -⟩ := hfront
  unfold withoutWildcard at hrest
  split at hrest
  · simp
  · have hne : host.head? ≠ some '|' ∧ host.head? ≠ some '/' := head_of_isToken hhost.isTokenOver
    rw [← hrest]
    cases host with
    | nil => exact absurd hhost not_isDomainOver_nil
    | cons c host => simpa using hne

/-- Behind a bar a scheme is passed over, and a host is looked for. -/
theorem parseBody_of_isScheme (hs : IsScheme s) :
    parseBody w ('|' :: s ++ "://".toList ++ rest) = hostRule? .exact w (anchoredHost rest) := by
  obtain ⟨c, tail, heq, hbar⟩ := head_of_isScheme hs
  have hrest : (afterScheme? (s ++ "://".toList ++ rest)).bind
      (fun rest => hostRule? .exact w (anchoredHost rest)) =
        hostRule? .exact w (anchoredHost rest) := by
    rw [afterScheme?_eq_some_iff.mpr ⟨s, hs, rfl⟩, Option.bind_some]
  rw [← hrest, heq]
  simp only [List.cons_append]
  unfold parseBody
  split
  · next hbars => simp_all
  · next htail => simp_all
  · next hno => exact absurd rfl (hno _)

/-- One case for each constructor of the grammar. -/
theorem parseBody_of_names (h : Names t k v) : parseBody w t = some ⟨k, v, w⟩ := by
  cases h with
  | slash => rfl
  | @regex v =>
    have hlast : ('/' :: (v ++ ['/'])).getLast? = some '/' := List.getLast?_concat (l := '/' :: v)
    simp [parseBody, hlast]
  | @url s h z hs hh hz =>
    rw [List.append_assoc, parseBody_of_isScheme hs, anchoredHost_append hh hz,
      hostRule?_of_isDomain hh]
  | anchor hh hz => exact (congrArg _ (anchoredHost_append hh hz)).trans (hostRule?_of_isDomain hh)
  | domain hh => rw [parseBody_of_isToken hh.isTokenOver, if_pos (isDomain_iff.mpr hh)]
  | keyword ht hh => rw [parseBody_of_isToken ht, if_neg fun h => hh (isDomain_iff.mp h)]
  | front ht hfront =>
    obtain ⟨hbar, hslash⟩ := head_of_isLongestFront hfront
    rw [parseBody_of_head hbar hslash, if_neg fun h => ht (isToken_iff.mp h),
      longestFront?_eq_some_iff.mpr hfront, Option.map_some,
      text_lower_eq (isInner_of_isDomainOver hfront.1)]

theorem names_of_slashes (hhead : t.head? = some '/') (hlast : t.getLast? = some '/') :
    Names t .regex t.tail.dropLast := by
  obtain ⟨rest, rfl⟩ := List.head?_eq_some_iff.mp hhead
  rcases List.eq_nil_or_concat rest with rfl | ⟨v, d, rfl⟩
  · exact .slash
  · rw [List.concat_eq_append, ← List.cons_append, List.getLast?_concat, Option.some.injEq] at hlast
    subst hlast
    have hbody : (('/' :: v).concat '/').tail.dropLast = v := by simp
    rw [← List.concat_cons, hbody, List.concat_eq_append]
    exact .regex

theorem names_of_isToken (ht : IsToken t) :
    Names t (if isDomain t then .suffix else .keyword) (Text.lower t) := by
  split
  · next hdomain => exact .domain (isDomain_iff.mp hdomain)
  · next hdomain => exact .keyword ht fun hh => hdomain (isDomain_iff.mpr hh)

/-- Away from anchors every text names what it is read as, line feeds or not. -/
theorem names_of_parseBody_of_head (hbar : t.head? ≠ some '|') (h : parseBody w t = some x) :
    x.whitelist = w ∧ Names t x.kind x.value := by
  unfold parseBody at h
  split at h
  · simp at hbar
  · simp at hbar
  · split at h
    · next hslashes =>
      obtain rfl := Option.some.inj h
      simp only [Bool.and_eq_true, decide_eq_true_eq] at hslashes
      exact ⟨rfl, names_of_slashes hslashes.1 hslashes.2⟩
    · split at h
      · next htoken =>
        obtain rfl := Option.some.inj h
        rw [isToken_iff] at htoken
        rw [← text_lower_eq (isInner_of_isTokenOver htoken)]
        exact ⟨rfl, names_of_isToken htoken⟩
      · next htoken =>
        obtain ⟨host, hfront, rfl⟩ := Option.map_eq_some_iff.mp h
        have hfront := longestFront?_eq_some_iff.mp hfront
        rw [← text_lower_eq (isInner_of_isDomainOver hfront.1)]
        exact ⟨rfl, .front (fun ht => htoken (isToken_iff.mpr ht)) hfront⟩

/-- What is read is named by the grammar, but for anchored hosts that a line feed follows. The cases
are those of the reader, by the first characters of the text. -/
theorem names_or_spills_of_parseBody (hx : parseBody w t = some x) :
    x.whitelist = w ∧ (Names t x.kind x.value ∨ Spills t x.kind x.value) := by
  have hparse := hx
  unfold parseBody at hx
  split at hx
  · next rest =>
    obtain ⟨z, hz, hends⟩ := exists_endsHost rest
    obtain ⟨h, hh, ⟨hhost, rfl⟩ | ⟨hhost, rfl⟩⟩ := exists_domain_of_hostRule? hx
    · rw [hz, hhost]
      exact ⟨rfl, .inl (.anchor hh hends)⟩
    · rw [hz, hhost, List.append_assoc]
      exact ⟨rfl, .inr (.anchor hh hends)⟩
  · next rest _ =>
    obtain ⟨tail, hscheme, hrule⟩ := Option.bind_eq_some_iff.mp hx
    obtain ⟨s, hs, rfl⟩ := afterScheme?_eq_some_iff.mp hscheme
    obtain ⟨z, hz, hends⟩ := exists_endsHost tail
    obtain ⟨h, hh, ⟨hhost, rfl⟩ | ⟨hhost, rfl⟩⟩ := exists_domain_of_hostRule? hrule
    · have hnames := Names.url hs hh hends
      rw [hz, hhost]
      refine ⟨rfl, .inl ?_⟩
      simpa using hnames
    · have hspills := Spills.url hs hh hends
      rw [hz, hhost]
      refine ⟨rfl, .inr ?_⟩
      simpa using hspills
  · next hno =>
    have hbar : t.head? ≠ some '|' := by
      intro hbar
      obtain ⟨rest, rfl⟩ := List.head?_eq_some_iff.mp hbar
      exact hno rest rfl
    exact (names_of_parseBody_of_head hbar hparse).imp_right .inl

theorem line_feed_mem_of_spills (h : Spills t k v) : '\n' ∈ t := by
  cases h <;> simp

theorem names_of_parseBody (ht : '\n' ∉ t) (h : parseBody w t = some x) :
    x.whitelist = w ∧ Names t x.kind x.value :=
  (names_or_spills_of_parseBody h).imp_right fun hx =>
    hx.resolve_right fun hspills => ht (line_feed_mem_of_spills hspills)

/-- Two derivations are read by the same reader, and this comes to one rule. -/
theorem names_unique {k' : Kind} {v' : Text} (h : Names t k v) (h' : Names t k' v') :
    k = k' ∧ v = v' := by
  have heq := (parseBody_of_names (w := false) h).symm.trans (parseBody_of_names h')
  simpa using heq

/-- Whether a line is of the whitelist. -/
def isMarked (line : Text) : Bool := marker.isPrefixOf (Text.trim line)

/-- The trimmed line without one marker at its front. What is left is not trimmed again. -/
def unmarked (line : Text) : Text :=
  if isMarked line then (Text.trim line).drop marker.length else Text.trim line

theorem parse_eq_parseBody (line : Text) :
    parse line = parseBody (isMarked line) (unmarked line) := by
  rw [parse]
  split
  · next rest hrest =>
    have heq := eq_append_of_after? hrest
    have hmarked : isMarked line = true := by
      rw [isMarked, heq, List.isPrefixOf_iff_prefix]
      exact List.prefix_append _ _
    rw [unmarked, if_pos hmarked, hmarked, heq, List.drop_left]
  · next hnone =>
    have hmarked : isMarked line = false := by
      rw [isMarked, ← Bool.not_eq_true, List.isPrefixOf_iff_prefix]
      rintro ⟨rest, hrest⟩
      rw [after?_eq_some_iff.mpr hrest.symm] at hnone
      simp at hnone
    rw [unmarked, hmarked]
    rfl

theorem not_mem_unmarked {line : Text} (h : c ∉ line) : c ∉ unmarked line := by
  intro hc
  apply h
  rw [unmarked] at hc
  split at hc
  · exact mem_of_mem_trim (List.mem_of_mem_drop hc)
  · exact mem_of_mem_trim hc

/-- The reader accepts exactly the grammar, and the grammar names one rule at most. Behind a line
feed alone can a reader of domains see more than the grammar does. -/
theorem parse_accepts_grammar {line : Text} (hline : '\n' ∉ line) :
    (∀ x, parse line = some x ↔
        x.whitelist = isMarked line ∧ Names (unmarked line) x.kind x.value) ∧
      (parse line = none ↔ ∀ k v, ¬ Names (unmarked line) k v) ∧
      ∀ k v k' v', Names (unmarked line) k v → Names (unmarked line) k' v' → k = k' ∧ v = v' := by
  have hiff (x : Rule) : parse line = some x ↔
      x.whitelist = isMarked line ∧ Names (unmarked line) x.kind x.value := by
    rw [parse_eq_parseBody]
    refine ⟨names_of_parseBody (not_mem_unmarked hline), ?_⟩
    rintro ⟨hw, hnames⟩
    rw [parseBody_of_names hnames, ← hw]
  refine ⟨hiff, ⟨?_, ?_⟩, fun k v k' v' => names_unique⟩
  · intro hnone k v hnames
    rw [(hiff ⟨k, v, isMarked line⟩).mpr ⟨rfl, hnames⟩] at hnone
    simp at hnone
  · intro hno
    cases hparse : parse line with
    | none => rfl
    | some x => exact absurd ((hiff x).mp hparse).2 (hno _ _)

theorem parse_accepts_grammar_long_s :
    '\n' ∉ " @@|HTTPſ://Mail.example.com/inbox ".toList ∧
      Names "|HTTPſ://Mail.example.com/inbox".toList .exact "mail.example.com".toList := by
  have hline : '\n' ∉ " @@|HTTPſ://Mail.example.com/inbox ".toList := by decide
  have hparse : parse " @@|HTTPſ://Mail.example.com/inbox ".toList =
      some ⟨.exact, "mail.example.com".toList, true⟩ := by decide
  have hbody : unmarked " @@|HTTPſ://Mail.example.com/inbox ".toList =
      "|HTTPſ://Mail.example.com/inbox".toList := by decide
  have hnames := (((parse_accepts_grammar hline).1 _).mp hparse).2
  rw [hbody] at hnames
  exact ⟨hline, hnames⟩

end AutoProxy.Rule
