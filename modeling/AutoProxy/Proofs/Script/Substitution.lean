import AutoProxy.Proofs.Script.Lines
import AutoProxy.Proofs.Text.Replace

/-! Which line of a script the substitution of a proxy changes. -/
namespace AutoProxy.Script

variable {i : Index} {placeholder other line script x y : Text} {time : Timestamp}
  {ls before after : List Text}

/-! The head shows the placeholder as it is, so it may hold any text that the placeholder holds. The
quotation marks tell the two apart: a declaration has two more than its value, and the head has no
others than those of the placeholder. -/

theorem count_quote_proxyLine (proxy : Text) :
    (proxyLine proxy).count '"' = proxy.count '"' + 2 := by
  have hlead : (lead "proxy".toList).count '"' = 0 := by decide
  rw [proxyLine, declaration_eq, List.count_append, List.count_append, hlead,
    Json.count_quote_string]
  simp

theorem count_quote_unlines (ls : List Text) :
    (unlines ls).count '"' = (ls.map (·.count '"')).sum := by
  induction ls with
  | nil => rfl
  | cons l ls ih =>
    rw [unlines_cons, List.count_append, List.count_cons_of_ne (by decide), ih]
    rfl

/-- The head has the placeholder in it once, and no quotation mark of its own. -/
theorem count_quote_opening (i : Index) (placeholder : Text) (time : Timestamp) :
    (opening i placeholder time).count '"' = placeholder.count '"' := by
  have htime : '"' ∉ time.toText := time.not_mem_toText (by decide)
  have hnumber (n : Nat) : '"' ∉ Text.ofNat n := Text.not_mem_ofNat (by decide)
  rw [opening, count_quote_unlines, head, notes, counted, countLine_eq]
  split <;> simp (disch := first | exact htime | exact hnumber _ | decide) only [List.map_append,
    List.map_cons, List.map_nil, List.sum_append, List.sum_cons, List.sum_nil, List.count_append,
    List.count_eq_zero_of_not_mem, Nat.add_zero, Nat.zero_add]

theorem sublist_unlines (h : line ∈ ls) : line.Sublist (unlines ls) :=
  (List.sublist_append_left line ['\n']).trans
    (List.sublist_flatten_of_mem (List.mem_map_of_mem h))

/-- A declaration has two quotation marks more than the head has. -/
theorem not_proxyLine_infix_opening : ¬ proxyLine placeholder <:+: opening i placeholder time := by
  intro h
  have hcount := h.sublist.count_le '"'
  rw [count_quote_proxyLine, count_quote_opening] at hcount
  omega

theorem proxyLine_not_mem_head_lines :
    proxyLine placeholder ∉ (head i placeholder time).flatMap lines := by
  intro h
  obtain ⟨l, hl, hline⟩ := List.mem_flatMap.mp h
  have hsub : (proxyLine placeholder).Sublist (opening i placeholder time) :=
    (Text.sublist_of_mem_split hline).trans (sublist_unlines (List.mem_append_left _ hl))
  have hcount := hsub.count_le '"'
  rw [count_quote_proxyLine, count_quote_opening] at hcount
  omega

/-- The first declaration that is found is the one that was written, as there is none in the
head. -/
theorem substitute_render_eq (i : Index) (placeholder chain : Text) (time : Timestamp) :
    substitute placeholder chain (render i placeholder time) =
      opening i placeholder time ++ proxyLine chain ++ '\n' :: unlines (tail i) := by
  have hlast : ∀ c ∈ (opening i placeholder time).getLast?, c ∉ proxyLine placeholder := by
    have hend : (opening i placeholder time).getLast? = some '\n' := by
      simp [opening, unlines]
    rw [hend]
    rintro _ ⟨⟩
    exact line_feed_not_mem_proxyLine placeholder
  rw [substitute, render_eq_append]
  exact Text.replaceFirst_append not_proxyLine_infix_opening hlast

theorem declaring_proxy_tail (i : Index) : declaring "proxy".toList (tail i ++ [[]]) = [] := by
  have hname : ' ' ∉ "proxy".toList := by decide
  have hend : declaring "proxy".toList [[]] = [] :=
    declaring_eq_nil_iff.mpr (List.forall_mem_singleton.mpr (not_lead_of_not_var (by decide)))
  rw [declaring_append, declaring_tail hname (by decide), tables_eq_map,
    declaring_map_declaration hname space_not_mem_fields, hend]
  rfl

/-- Neither the lines of the head nor those behind the declaration are equal to it. -/
theorem count_lines_render (i : Index) (placeholder : Text) (time : Timestamp) :
    (lines (render i placeholder time)).count (proxyLine placeholder) = 1 := by
  have hlead := lead_proxyLine placeholder
  have hempty : [] ≠ proxyLine placeholder := by
    intro h
    rw [← h] at hlead
    exact absurd hlead (by decide)
  have htail : proxyLine placeholder ∉ tail i ++ [[]] := by
    exact fun h => declaring_eq_nil_iff.mp (declaring_proxy_tail i) _ h hlead
  rw [lines_render, List.count_append, List.count_cons_of_ne hempty, List.count_cons_self,
    List.count_eq_zero_of_not_mem proxyLine_not_mem_head_lines, List.count_eq_zero_of_not_mem htail]

/-- One line declares the placeholder, and no other part of a script changes with it. -/
theorem substitute_render (i : Index) (placeholder : Text) (time : Timestamp) :
    render i placeholder time =
        opening i placeholder time ++ proxyLine placeholder ++ '\n' :: unlines (tail i) ∧
      (lines (render i placeholder time)).count (proxyLine placeholder) = 1 ∧
      (∀ chain, substitute placeholder chain (render i placeholder time) =
        opening i placeholder time ++ proxyLine chain ++ '\n' :: unlines (tail i)) ∧
      substitute placeholder placeholder (render i placeholder time) =
        render i placeholder time := by
  have hrender := render_eq_append i placeholder time
  have hsubstitute (chain : Text) := substitute_render_eq i placeholder chain time
  exact ⟨hrender, count_lines_render i placeholder time, hsubstitute,
    (hsubstitute placeholder).trans hrender.symm⟩

/-- The line that declares the proxy. Of several it is the last, which the functions see. -/
def proxyDeclaration? (script : Text) : Option Text :=
  (declaring "proxy".toList (lines script)).getLast?

/-- The last line that declares the proxy is the one that counts. -/
theorem proxyDeclaration?_of_lines (hlead : lead "proxy".toList <+: line)
    (hlines : lines script = before ++ line :: after)
    (hafter : declaring "proxy".toList after = []) : proxyDeclaration? script = some line := by
  have hline : declaring "proxy".toList [line] = [line] :=
    List.filter_eq_self.mpr (List.forall_mem_singleton.mpr (List.isPrefixOf_iff_prefix.mpr hlead))
  rw [proxyDeclaration?, hlines, List.append_cons, declaring_append, declaring_append, hline,
    hafter, List.append_nil, List.getLast?_concat]

theorem proxyDeclaration?_render (i : Index) (placeholder : Text) (time : Timestamp) :
    proxyDeclaration? (render i placeholder time) = some (proxyLine placeholder) := by
  have hlines := lines_render i placeholder time
  rw [List.append_cons] at hlines
  exact proxyDeclaration?_of_lines (lead_proxyLine _) hlines (declaring_proxy_tail i)

theorem proxyLine_eq (proxy : Text) : proxyLine proxy =
    lead "proxy".toList ++ '"' :: (proxy.flatMap Json.escape ++ '"' :: [';']) := by
  simp [proxyLine, declaration_eq, Json.string]

/-- A declaration is found in another only if they are the same: the quotation mark that opens its
value follows no backslash, as all those within the value of the other do. -/
theorem eq_of_infix_proxyLine (h : proxyLine placeholder <:+: proxyLine other) :
    placeholder = other := by
  obtain ⟨x, y, h⟩ := h
  have hsides : (x ++ lead "proxy".toList) ++
      '"' :: (placeholder.flatMap Json.escape ++ '"' :: ';' :: y) =
        lead "proxy".toList ++ '"' :: (other.flatMap Json.escape ++ '"' :: [';']) := by
    simpa [proxyLine_eq] using h
  obtain ⟨u, hu⟩ : ∃ u, x ++ lead "proxy".toList = lead "proxy".toList ++ u := by
    rcases List.append_eq_append_iff.mp hsides with ⟨u, hlead, -⟩ | ⟨u, hlead, -⟩
    · have hlength := congrArg List.length hlead
      simp only [List.length_append] at hlength
      have hx : x = [] := List.eq_nil_of_length_eq_zero (by omega)
      exact ⟨[], by rw [hx, List.append_nil, List.nil_append]⟩
    · exact ⟨u, hlead⟩
  rw [hu, List.append_assoc, List.append_cancel_left_eq] at hsides
  cases u with
  | nil =>
    have hvalues := congrArg Json.string? (List.cons_eq_cons.mp hsides).2
    rw [Json.string?_flatMap_escape, Json.string?_flatMap_escape, Option.some_inj] at hvalues
    exact congrArg Prod.fst hvalues
  | cons d u =>
    have hlast : u.getLast? ≠ some '\\' := by
      intro hback
      have hend : some ' ' = some '\\' := by
        have hlead : (lead "proxy".toList).getLast? = some ' ' := by decide
        have hends := congrArg List.getLast? hu
        rwa [List.getLast?_append, List.getLast?_append, List.getLast?_cons, hback, hlead] at hends
      exact absurd hend (by decide)
    have hsuffix := Json.suffix_of_unescaped (List.cons_eq_cons.mp hsides).2.symm hlast
    have hlength := hsuffix.length_le
    simp only [List.length_append, List.length_cons, List.length_nil] at hlength
    omega

theorem proxyLine_inj : proxyLine placeholder = proxyLine other ↔ placeholder = other :=
  ⟨fun h => eq_of_infix_proxyLine (h ▸ List.infix_refl _), congrArg proxyLine⟩

/-- What begins a line depends on no more of a declaration in it than begins every declaration. -/
theorem lead_prefix_append_proxyLine (x y proxy : Text) :
    lead "proxy".toList <+: x ++ proxyLine proxy ++ y ↔
      lead "proxy".toList <+: x ++ lead "proxy".toList := by
  obtain ⟨t, ht⟩ := lead_proxyLine proxy
  have hfront : x ++ lead "proxy".toList <+: x ++ proxyLine proxy ++ y :=
    ⟨t ++ y, by simp [← ht]⟩
  constructor
  · intro h
    exact List.prefix_of_prefix_length_le h hfront (by simp)
  · intro h
    exact h.trans hfront

/-- Of two lines of a text one stands before the other, or they are the same. -/
theorem append_cons_eq_append_cons {m n : List Text} (h : before ++ x :: after = m ++ y :: n) :
    (∃ k, after = k ++ y :: n) ∨ x = y ∨ ∃ k, before = m ++ y :: k ∧ n = k ++ x :: after := by
  rcases List.append_eq_append_iff.mp h with ⟨k, -, hk⟩ | ⟨k, hbefore, hk⟩
  · rcases List.cons_eq_append_iff.mp hk with ⟨-, hxy⟩ | ⟨k, -, hafter⟩
    · exact .inr (.inl (List.cons_eq_cons.mp hxy).1.symm)
    · exact .inl ⟨k, hafter⟩
  · rcases List.cons_eq_append_iff.mp hk with ⟨-, hxy⟩ | ⟨k', rfl, hn⟩
    · exact .inr (.inl (List.cons_eq_cons.mp hxy).1)
    · exact .inr (.inr ⟨k', hbefore, hn⟩)

/-- The chain is declared if the placeholder is the one that the script was rendered with. No other
placeholder is found on the line that counts. -/
theorem proxyDeclaration?_substitute_render (i : Index) (placeholder other chain : Text)
    (time : Timestamp) :
    proxyDeclaration? (substitute placeholder chain (render i other time)) =
      some (proxyLine (if placeholder = other then chain else other)) := by
  by_cases hsame : placeholder = other
  · subst hsame
    have hlines : lines (substitute placeholder chain (render i placeholder time)) = _ :=
      congrArg lines (substitute_render_eq i placeholder chain time)
    rw [lines_declaring_proxy, List.append_cons] at hlines
    rw [if_pos rfl]
    exact proxyDeclaration?_of_lines (lead_proxyLine _) hlines (declaring_proxy_tail i)
  · rw [if_neg hsame, substitute]
    rcases Text.replaceFirst_cases (proxyLine placeholder) (render i other time) with
      hnone | ⟨p, q, hrender, hreplace⟩
    · rw [hnone]
      exact proxyDeclaration?_render i other time
    obtain ⟨before, x, y, after, hsplit⟩ := Text.exists_split_append (· = '\n') p q
    have hlines (proxy : Text) : lines (p ++ proxyLine proxy ++ q) =
        before ++ (x ++ proxyLine proxy ++ y) :: after := by
      refine hsplit _ fun c hc => decide_eq_false ?_
      rintro rfl
      exact line_feed_not_mem_proxyLine proxy hc
    have hparts := hlines placeholder
    rw [← hrender, lines_render, List.append_cons] at hparts
    rw [hreplace]
    rcases append_cons_eq_append_cons hparts.symm with ⟨k, hafter⟩ | hline | ⟨k, hbefore, htail⟩
    · have hnew := hlines chain
      rw [hafter, ← List.cons_append, ← List.append_assoc] at hnew
      exact proxyDeclaration?_of_lines (lead_proxyLine _) hnew (declaring_proxy_tail i)
    · exact absurd (eq_of_infix_proxyLine ⟨x, y, hline⟩) hsame
    · have hnew := hlines chain
      rw [hbefore, List.append_assoc _ (proxyLine other :: k), List.cons_append] at hnew
      refine proxyDeclaration?_of_lines (lead_proxyLine _) hnew ?_
      have hold := htail ▸ declaring_proxy_tail i
      simp only [declaring_eq_nil_iff, List.forall_mem_append, List.forall_mem_cons,
        lead_prefix_append_proxyLine] at hold ⊢
      exact hold

end AutoProxy.Script
