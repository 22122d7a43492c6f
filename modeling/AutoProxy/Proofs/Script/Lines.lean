import AutoProxy.Proofs.Json.RoundTrip
import AutoProxy.Proofs.Text.Split
import AutoProxy.Proofs.Timestamp
import AutoProxy.Script.Basic

/-! The lines of a script, and what those that declare a name carry. -/
namespace AutoProxy.Script

variable {i : Index} {name other value placeholder line l l' t : Text} {time : Timestamp}
  {ls : List Text}

/-- The lines of a script. They end at line feeds and nowhere else. -/
def lines (script : Text) : List Text := Text.split (· = '\n') script

theorem lines_of_not_mem (h : '\n' ∉ t) : lines t = [t] := Text.split_of_not_mem h

theorem unlines_cons (l : Text) (ls : List Text) :
    unlines (l :: ls) = l ++ '\n' :: unlines ls := by
  simp [unlines]

/-- A line feed ends every line, so marks split each line by itself. -/
theorem split_unlines_append {isMark : Char → Bool} (h : isMark '\n' = true) (ls : List Text)
    (t : Text) : Text.split isMark (unlines ls ++ t) =
      ls.flatMap (Text.split isMark) ++ Text.split isMark t := by
  induction ls with
  | nil => rfl
  | cons l ls ih =>
    rw [unlines_cons, List.append_assoc, List.cons_append, Text.split_append_mark h, ih,
      List.flatMap_cons, List.append_assoc]

theorem lines_unlines_append (ls : List Text) (t : Text) :
    lines (unlines ls ++ t) = ls.flatMap lines ++ lines t :=
  split_unlines_append rfl ls t

/-- Lines without a line feed in them are told apart as they are. -/
theorem flatMap_lines (h : ∀ l ∈ ls, '\n' ∉ l) : ls.flatMap lines = ls := by
  induction ls with
  | nil => rfl
  | cons l ls ih =>
    rw [List.flatMap_cons, lines_of_not_mem (h l List.mem_cons_self),
      ih fun m hm => h m (List.mem_cons_of_mem l hm)]
    rfl

/-- How a line begins that declares a name. -/
def lead (name : Text) : Text := "var ".toList ++ name ++ " = ".toList

theorem lead_eq (name : Text) : lead name = "var ".toList ++ (name ++ " = ".toList) := rfl

theorem declaration_eq (name value : Text) : declaration name value = lead name ++ value ++ [';'] :=
  rfl

/-- The lines that declare a name, in their order. -/
def declaring (name : Text) (ls : List Text) : List Text := ls.filter (lead name).isPrefixOf

theorem declaring_append (name : Text) (ls ms : List Text) :
    declaring name (ls ++ ms) = declaring name ls ++ declaring name ms :=
  List.filter_append ls ms

theorem declaring_eq_nil_iff : declaring name ls = [] ↔ ∀ l ∈ ls, ¬ lead name <+: l := by
  simp [declaring]

/-- A line that is no declaration at all declares no name. -/
theorem not_lead_of_not_var (h : ¬ "var ".toList <+: line) : ¬ lead name <+: line := by
  intro hlead
  rw [lead_eq] at hlead
  exact h ((List.prefix_append _ _).trans hlead)

/-- A line declares one name at most. -/
theorem lead_prefix_iff (hname : ' ' ∉ name) (hother : ' ' ∉ other) :
    lead name <+: declaration other value ↔ other = name := by
  constructor
  · rintro ⟨t, ht⟩
    have htail : name ++ ' ' :: ("= ".toList ++ t) =
        other ++ ' ' :: ("= ".toList ++ value ++ [';']) := by
      simpa [lead_eq, declaration_eq] using ht
    have hparts := congrArg (Text.split (· = ' ')) htail
    rw [Text.split_append_mark rfl, Text.split_append_mark rfl, Text.split_of_not_mem hname,
      Text.split_of_not_mem hother] at hparts
    exact (List.cons_eq_cons.mp hparts).1.symm
  · rintro rfl
    exact ⟨value ++ [';'], by rw [declaration_eq, List.append_assoc]⟩

/-- Names have no space in them, so no name begins another one up to its equals sign. -/
theorem declaring_map_declaration {fields : List (Text × Text)} (hname : ' ' ∉ name)
    (hfields : ∀ field ∈ fields, ' ' ∉ field.1) :
    declaring name (fields.map fun (n, v) => declaration n v) =
      (fields.filter (·.1 = name)).map fun (n, v) => declaration n v := by
  rw [declaring, List.filter_map]
  refine congrArg _ (List.filter_congr fun field hfield => ?_)
  rw [Function.comp_apply, Bool.eq_iff_iff, List.isPrefixOf_iff_prefix,
    lead_prefix_iff hname (hfields field hfield), decide_eq_true_eq]

/-- The tables of a script: their names, with their values as they are written. -/
def fields (i : Index) : List (Text × Text) :=
  [ ("exactDomains".toList, Json.table i.exactBlock.toList),
    ("whiteExactDomains".toList, Json.table i.exactWhitelist.toList),
    ("domainSuffixes".toList, Json.table i.suffixBlock.toList),
    ("whiteDomainSuffixes".toList, Json.table i.suffixWhitelist.toList),
    ("keywords".toList, Json.array i.keywords) ]

theorem tables_eq_map (i : Index) : tables i = (fields i).map fun (n, v) => declaration n v := rfl

theorem space_not_mem_fields : ∀ field ∈ fields i, ' ' ∉ field.1 := by simp [fields]

/-- One line, which declares nothing. -/
def isPlain (l : Text) : Bool := l.head? != some 'v' && l.all (· != '\n')

theorem isPlain_ofList {cs : List Char} (h : isPlain cs = true) :
    isPlain (String.ofList cs).toList = true := by
  rwa [String.toList_ofList]

theorem isPlain_append (h : isPlain l = true) (h' : isPlain l' = true) :
    isPlain (l ++ l') = true := by
  cases l <;> simp_all [isPlain]

theorem of_isPlain (h : isPlain line = true) : ¬ "var ".toList <+: line ∧ '\n' ∉ line := by
  simp only [isPlain, Bool.and_eq_true, bne_iff_ne, List.all_eq_true] at h
  refine ⟨?_, fun hfeed => h.2 _ hfeed rfl⟩
  rintro ⟨t, rfl⟩
  exact h.1 rfl

/-- The functions declare nothing, and each stands on lines of its own. -/
theorem body_lines : ∀ l ∈ [] :: body, ¬ "var ".toList <+: l ∧ '\n' ∉ l := by
  have hplain : ∀ l ∈ body, isPlain l = true := by
    simp only [body, List.map_cons, List.map_nil, String.toList_append]
    -- A string is matched with its characters here; to compute `toList` of them all is slow.
    repeat' refine List.forall_mem_cons.mpr ⟨?_, ?_⟩
    any_goals first
      | exact isPlain_ofList (by decide +kernel)
      | exact isPlain_append (isPlain_ofList (by decide +kernel))
          (isPlain_ofList (by decide +kernel))
    exact List.forall_mem_nil _
  exact List.forall_mem_cons.mpr ⟨of_isPlain rfl, fun l hl => of_isPlain (hplain l hl)⟩

theorem countLine_eq (block whitelist : Nat) : countLine block whitelist =
    "// Regex rules not evaluated: ".toList ++ Text.ofNat block ++ " block, ".toList
      ++ Text.ofNat whitelist ++ " whitelist".toList := rfl

theorem line_feed_not_mem_countLine (block whitelist : Nat) :
    '\n' ∉ countLine block whitelist := by
  have hnumber (n : Nat) : '\n' ∉ Text.ofNat n := Text.not_mem_ofNat (by decide)
  rw [countLine_eq]
  simp [hnumber]

/-- Behind the proxy nothing but the tables declares a name other than `direct`. -/
theorem declaring_tail (hname : ' ' ∉ name) (hdirect : name ≠ "direct".toList) :
    declaring name (tail i) = declaring name (tables i) := by
  have hfirst : ∀ l ∈ ["var direct = \"DIRECT\";".toList, []], ¬ lead name <+: l := by
    refine List.forall_mem_cons.mpr
      ⟨?_, List.forall_mem_singleton.mpr (not_lead_of_not_var (by decide))⟩
    have hother : ' ' ∉ "direct".toList := by decide
    have hline : "var direct = \"DIRECT\";".toList =
        declaration "direct".toList "\"DIRECT\"".toList := rfl
    rw [hline, lead_prefix_iff hname hother]
    exact hdirect.symm
  have hbody : ∀ l ∈ [] :: body, ¬ lead name <+: l :=
    fun l hl => not_lead_of_not_var (body_lines l hl).1
  rw [tail, declaring_append, declaring_append, declaring_eq_nil_iff.mpr hfirst,
    declaring_eq_nil_iff.mpr hbody,
    List.nil_append, List.append_nil]

/-- What stands before the line that declares the proxy. -/
def opening (i : Index) (placeholder : Text) (time : Timestamp) : Text :=
  unlines (head i placeholder time ++ [[]])

/-- The three parts of a script; only the first two depend on the placeholder. -/
theorem render_eq_append (i : Index) (placeholder : Text) (time : Timestamp) :
    render i placeholder time =
      opening i placeholder time ++ proxyLine placeholder ++ '\n' :: unlines (tail i) := by
  simp [render, opening, tail, unlines]

theorem line_feed_not_mem_declaration (hname : '\n' ∉ name) (hvalue : '\n' ∉ value) :
    '\n' ∉ declaration name value := by
  simp [lead_eq, declaration_eq, hname, hvalue]

theorem lead_proxyLine (proxy : Text) : lead "proxy".toList <+: proxyLine proxy := by
  rw [proxyLine, declaration_eq, List.append_assoc]
  exact List.prefix_append _ _

theorem line_feed_not_mem_proxyLine (proxy : Text) : '\n' ∉ proxyLine proxy :=
  line_feed_not_mem_declaration (by decide) (Json.line_feed_not_mem_string proxy)

theorem line_feed_not_mem_tail : ∀ l ∈ tail i, '\n' ∉ l := by
  have htables : ∀ l ∈ tables i, '\n' ∉ l := by
    simp only [tables, List.forall_mem_cons]
    refine ⟨?_, ?_, ?_, ?_, ?_, by simp⟩
    iterate 4 exact line_feed_not_mem_declaration (by decide) (Json.line_feed_not_mem_table _)
    exact line_feed_not_mem_declaration (by decide) (Json.line_feed_not_mem_array _)
  simp only [tail, List.forall_mem_append]
  exact ⟨⟨by decide, htables⟩, fun l hl => (body_lines l hl).2⟩

/-- The lines stay apart whatever proxy is declared. -/
theorem lines_declaring_proxy (proxy : Text) :
    lines (opening i placeholder time ++ proxyLine proxy ++ '\n' :: unlines (tail i)) =
      (head i placeholder time).flatMap lines ++ [] :: proxyLine proxy :: (tail i ++ [[]]) := by
  have htail : lines (unlines (tail i)) = tail i ++ [[]] := by
    have h := lines_unlines_append (tail i) []
    rwa [List.append_nil, flatMap_lines line_feed_not_mem_tail] at h
  have hproxy : lines (proxyLine proxy) = [proxyLine proxy] :=
    lines_of_not_mem (line_feed_not_mem_proxyLine proxy)
  rw [List.append_assoc, opening, lines_unlines_append, lines, Text.split_append_mark rfl, ← lines,
    ← lines, htail, hproxy, List.flatMap_append, List.append_assoc]
  rfl

theorem lines_render (i : Index) (placeholder : Text) (time : Timestamp) :
    lines (render i placeholder time) = (head i placeholder time).flatMap lines ++
      [] :: proxyLine placeholder :: (tail i ++ [[]]) := by
  rw [render_eq_append, lines_declaring_proxy]

end AutoProxy.Script
