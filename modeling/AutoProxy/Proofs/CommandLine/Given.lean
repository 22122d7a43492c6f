import AutoProxy.CommandLine.Arguments

/-! What arguments give for each flag, and that the last of it is what is recalled. -/
namespace AutoProxy.Arguments

/-- What is given for flags, in its order. -/
def given : List Token → List (Flag × Given)
  | [] => []
  | .plain _ :: ks => given ks
  | .foreign _ :: ks => given ks
  | .flag f long attached :: ks =>
    match expandToken f long attached with
    | .error _ => []
    | .ok (fs, .attached g t) => fs.map (·, none) ++ [(g, Given.ofAttached t)] ++ given ks
    | .ok (fs, .open g) =>
      if g.takesValue then
        match ks with
        | .plain t :: ks => fs.map (·, none) ++ [(g, some t)] ++ given ks
        | _ => []
      else fs.map (·, none) ++ [(g, none)] ++ given ks

/-- What is given for the flag where it stands last. -/
def lastOf (fs : List (Flag × Given)) (f : Flag) : Option Given := fs.reverse.lookup f

def lastGiven (args : List Text) (f : Flag) : Option Given :=
  match tokens args with
  | .ok ks => lastOf (given ks) f
  | .error _ => none

/-- Flags under their full spellings, each with its value behind it or, if long, after an equals
sign. -/
inductive SpelledOut : List Text → List (Flag × Given) → Prop where
  | nil : SpelledOut [] []
  | apart {s f v args gs} (hs : (s, f) ∈ Flag.spellings) (hf : f.takesValue = true)
      (hv : v.head? ≠ some '-') (h : SpelledOut args gs) :
      SpelledOut (s :: v :: args) ((f, some v) :: gs)
  | joined {s f v args gs} (hs : (s, f) ∈ Flag.spellings) (hf : f.takesValue = true)
      (hlong : isLong s = true) (h : SpelledOut args gs) :
      SpelledOut ((s ++ '=' :: v) :: args) ((f, Given.ofAttached v) :: gs)
  | alone {s f args gs} (hs : (s, f) ∈ Flag.spellings) (hf : f.takesValue = false)
      (h : SpelledOut args gs) : SpelledOut (s :: args) ((f, none) :: gs)

variable {f : Flag} {t : Given} {fs gs : List (Flag × Given)} {ks : List Token} {args : List Text}

theorem lastGiven_of_tokens (hks : tokens args = .ok ks) : lastGiven args = lastOf (given ks) := by
  funext f
  rw [lastGiven, hks]

section SpelledOut

variable {s v : Text} {k : Token}

theorem lookup_of_spelling (hs : (s, f) ∈ Flag.spellings) : Flag.spellings.lookup s = some f := by
  have hall : ∀ x ∈ Flag.spellings, Flag.spellings.lookup x.1 = some x.2 := by decide +kernel
  exact hall _ hs

theorem eq_hyphen_cons_of_spelling (hs : (s, f) ∈ Flag.spellings) : ∃ c t, s = '-' :: c :: t := by
  have hall : ∀ x ∈ Flag.spellings, x.1.head? = some '-' ∧ x.1.tail ≠ [] := by decide +kernel
  obtain ⟨hhead, htail⟩ := hall _ hs
  match s with
  | [] => cases hhead
  | [_] => exact absurd rfl htail
  | c :: d :: t =>
    cases hhead
    exact ⟨d, t, rfl⟩

/-- Two hyphens alone end the flags, and no flag is spelled so. -/
theorem ne_hyphens_of_spelling (hs : (s, f) ∈ Flag.spellings) : s ≠ "--".toList := by
  have hall : ∀ x ∈ Flag.spellings, x.1 ≠ "--".toList := by decide +kernel
  exact hall _ hs

theorem equals_not_mem_spelling (hs : (s, f) ∈ Flag.spellings) : '=' ∉ s := by
  have hall : ∀ x ∈ Flag.spellings, '=' ∉ x.1 := by decide +kernel
  exact hall _ hs

/-- A flag that is spelled out is found before any shortening is tried. -/
theorem token_of_spelling (hs : (s, f) ∈ Flag.spellings) :
    token s = .ok (.flag f (isLong s) none) := by
  have hlookup := lookup_of_spelling hs
  obtain ⟨c, t, rfl⟩ := eq_hyphen_cons_of_spelling hs
  simp [token, hlookup]

theorem token_of_plain (hv : v.head? ≠ some '-') : token v = .ok (.plain v) := by
  match v with
  | [] | [_] => rfl
  | c :: d :: t =>
    have hc : c ≠ '-' := fun h => hv (h ▸ rfl)
    simp [token, hc]

theorem splitEquals_append (hs : '=' ∉ s) (v : Text) :
    splitEquals (s ++ '=' :: v) = (s, some v) := by
  have hbefore : ∀ c ∈ s, (c ≠ '=' : Bool) = true := fun c hc => by
    simpa using ne_of_mem_of_not_mem hc hs
  rw [splitEquals, Text.beforeFirst, Text.afterFirst?, List.takeWhile_append_of_pos hbefore,
    List.dropWhile_append_of_pos hbefore]
  simp

/-- What stands behind the first equals sign is the value, further such signs included. -/
theorem token_joined (hs : (s, f) ∈ Flag.spellings) (hlong : isLong s = true) (v : Text) :
    token (s ++ '=' :: v) = .ok (.flag f true (some v)) := by
  have hwhole : Flag.spellings.lookup (s ++ '=' :: v) = none := by
    rw [List.lookup_eq_none_iff]
    rintro ⟨whole, g⟩ hx
    rw [bne_iff_ne]
    rintro rfl
    exact equals_not_mem_spelling hx (List.mem_append_right s List.mem_cons_self)
  have hsplit := splitEquals_append (equals_not_mem_spelling hs) v
  have hlookup := lookup_of_spelling hs
  obtain ⟨c, t, rfl⟩ := eq_hyphen_cons_of_spelling hs
  have hlong : isLong ('-' :: c :: (t ++ '=' :: v)) = true := by simpa [isLong] using hlong
  rw [List.cons_append, List.cons_append] at hwhole hsplit ⊢
  simp [token, hwhole, hsplit, hlookup, hlong]

theorem tokens_cons (ht : s ≠ "--".toList) (hk : token s = .ok k) (hks : tokens args = .ok ks) :
    tokens (s :: args) = .ok (k :: ks) := by
  rw [tokens, if_neg ht, hk, hks]
  rfl

/-- By induction on what is spelled out, one flag at a time. -/
theorem tokens_of_spelledOut (h : SpelledOut args gs) :
    ∃ ks, tokens args = .ok ks ∧ given ks = gs := by
  induction h with
  | nil => exact ⟨[], rfl, rfl⟩
  | @apart s f v args gs hs hf hv _ ih =>
    obtain ⟨ks, hks, rfl⟩ := ih
    have hvalue : v ≠ "--".toList := fun h => hv (h ▸ rfl)
    refine ⟨_, tokens_cons (ne_hyphens_of_spelling hs) (token_of_spelling hs)
      (tokens_cons hvalue (token_of_plain hv) hks), ?_⟩
    simp [given, expandToken, hf]
  | @joined s f v args gs hs hf hlong _ ih =>
    obtain ⟨ks, hks, rfl⟩ := ih
    have hne : s ++ '=' :: v ≠ "--".toList := fun h => by
      have hmark : '=' ∈ "--".toList := h ▸ List.mem_append_right s List.mem_cons_self
      exact absurd hmark (by decide)
    refine ⟨_, tokens_cons hne (token_joined hs hlong v) hks, ?_⟩
    cases v <;> simp [given, expandToken, expand, hf]
  | @alone s f args gs hs hf _ ih =>
    obtain ⟨ks, hks, rfl⟩ := ih
    refine ⟨_, tokens_cons (ne_hyphens_of_spelling hs) (token_of_spelling hs) hks, ?_⟩
    simp [given, expandToken, hf]

/-- What is spelled out is what is given. -/
theorem lastGiven_of_spelledOut (h : SpelledOut args gs) : lastGiven args = lastOf gs := by
  obtain ⟨ks, hks, rfl⟩ := tokens_of_spelledOut h
  exact lastGiven_of_tokens hks

/-- A flag may also be shortened, or stand in one argument with others and with its value. -/
example : lastGiven (["-p", "a", "--prox=b", "-qpc", "-u", "d"].map String.toList) .proxy =
    some (some ['c']) := by decide +kernel

end SpelledOut

def number? (t : Given) : Option Int := t.bind fun t => (Integer.ofText t).toOption

/-- `b` has what is given last for each flag, and is as `a` where nothing is given. -/
structure Recalls (a b : Arguments) (last : Flag → Option Given) : Prop where
  input : b.input = (last .input).getD a.input
  url : b.url = (last .url).getD a.url
  output : b.output = (last .output).getD a.output
  proxy : b.proxy = (last .proxy).or a.proxy
  userRules : b.userRules = (last .userRules).getD a.userRules
  placeholder : b.placeholder = (last .placeholder).getD a.placeholder
  timeout : b.timeout = ((last .timeout).map number?).getD a.timeout
  quiet : b.quiet = ((last .quiet).isSome || a.quiet)

variable {a b c : Arguments} {last later : Flag → Option Given} {p q : Progress}

/-- Where nothing is given, nothing changes. -/
theorem Recalls.refl (a : Arguments) : Recalls a a fun _ => none :=
  ⟨rfl, rfl, rfl, rfl, rfl, rfl, rfl, rfl⟩

/-- What is given later goes first. -/
theorem Recalls.trans (h : Recalls a b last) (h' : Recalls b c later) :
    Recalls a c fun f => (later f).or (last f) where
  input := by rw [h'.input, h.input, Option.getD_or]
  url := by rw [h'.url, h.url, Option.getD_or]
  output := by rw [h'.output, h.output, Option.getD_or]
  proxy := by rw [h'.proxy, h.proxy, Option.or_assoc]
  userRules := by rw [h'.userRules, h.userRules, Option.getD_or]
  placeholder := by rw [h'.placeholder, h.placeholder, Option.getD_or]
  timeout := by rw [h'.timeout, h.timeout, Option.map_or, Option.getD_or]
  quiet := by rw [h'.quiet, h.quiet, Option.isSome_or, Bool.or_assoc]

/-- To assign one flag leaves all others as they were. -/
theorem recalls_assign (h : a.assign f t = .ok b) :
    Recalls a b fun g => if g = f then some t else none := by
  cases f with
  | help => cases h
  | input | url | output | proxy | userRules | placeholder | quiet =>
    cases h
    exact ⟨rfl, rfl, rfl, rfl, rfl, rfl, rfl, rfl⟩
  | timeout =>
    match t with
    | none =>
      cases h
      exact ⟨rfl, rfl, rfl, rfl, rfl, rfl, rfl, rfl⟩
    | some t =>
      rw [assign, Option.map_some] at h
      match hn : Integer.ofText t with
      | .ok n =>
        rw [hn] at h
        cases h
        have hnumber : number? (some t) = some n := by rw [number?, Option.bind_some, hn]; rfl
        exact ⟨rfl, rfl, rfl, rfl, rfl, rfl, hnumber.symm, rfl⟩
      | .error e =>
        rw [hn] at h
        cases h

/-- What stands later is found first. -/
theorem lastOf_append (fs gs : List (Flag × Given)) (f : Flag) :
    lastOf (fs ++ gs) f = (lastOf gs f).or (lastOf fs f) := by
  rw [lastOf, List.reverse_append, List.lookup_append, lastOf, lastOf]

theorem lastOf_singleton (x : Flag × Given) (f : Flag) :
    lastOf [x] f = if f = x.1 then some x.2 else none := by
  by_cases hf : f = x.1
  · rw [if_pos hf, hf]
    exact List.lookup_cons_self
  · rw [if_neg hf, lastOf, List.lookup_eq_none_iff]
    simpa using hf

/-- By induction on what is given: one step recalls its own flag, and later ones go first. -/
theorem recalls_foldlM (h : fs.foldlM (fun a x => a.assign x.1 x.2) a = .ok b) :
    Recalls a b (lastOf fs) := by
  induction fs generalizing a with
  | nil =>
    cases h
    exact .refl b
  | cons x fs ih =>
    rw [List.foldlM_cons] at h
    match hx : a.assign x.1 x.2 with
    | .error e =>
      rw [hx] at h
      cases h
    | .ok c =>
      rw [hx] at h
      rw [← List.singleton_append, funext (lastOf_append [x] fs), funext (lastOf_singleton x)]
      exact (recalls_assign hx).trans (ih h)

theorem assign_eq_ok (h : p.assign fs = .ok q) :
    fs.foldlM (fun a x => a.assign x.1 x.2) p.arguments = .ok q.arguments := by
  rw [Progress.assign] at h
  match hfs : fs.foldlM (fun a x => a.assign x.1 x.2) p.arguments with
  | .error e =>
    rw [hfs] at h
    cases h
  | .ok b =>
    rw [hfs] at h
    cases h
    rfl

/-- What one argument gives takes effect before what the next ones give. -/
theorem recalls_append (hp : p.assign fs = .ok q)
    (h : Recalls q.arguments b (lastOf (given ks))) :
    Recalls p.arguments b (lastOf (fs ++ given ks)) := by
  rw [funext (lastOf_append fs (given ks))]
  exact (recalls_foldlM (assign_eq_ok hp)).trans h

/-- By induction on the tokens. What takes no part in flags is put aside and gives nothing. -/
theorem recalls_consume (h : consume p ks = .ok q) :
    Recalls p.arguments q.arguments (lastOf (given ks)) := by
  fun_induction consume p ks with
  | case1 p =>
    cases h
    exact .refl _
  | case2 p t ks ih => exact ih h
  | case3 p t ks ih => exact ih h
  | case5 p f long attached ks fs g t hf p₁ hp ih =>
    rw [given, hf]
    exact recalls_append hp (ih h)
  | case7 p f long attached fs g hf hg t ks p₁ hp ih =>
    rw [given, hf]
    dsimp only
    rw [if_pos hg]
    exact recalls_append hp (ih h)
  | case10 p f long attached ks fs g hf hg p₁ hp ih =>
    rw [given, hf]
    dsimp only
    rw [if_neg hg]
    exact recalls_append hp (ih h)
  | case4 | case6 | case8 | case9 | case11 => cases h

/-- Accepted arguments are what is given last for each flag, by default the standard ones. -/
theorem recalls_parse (h : parse args = .ok a) : Recalls standard a (lastGiven args) := by
  rw [parse] at h
  match hks : tokens args with
  | .error e =>
    rw [hks] at h
    cases h
  | .ok ks =>
    rw [hks] at h
    dsimp only at h
    match hq : consume ⟨standard, []⟩ ks with
    | .error e =>
      rw [hq] at h
      cases h
    | .ok q =>
      rw [hq] at h
      dsimp only at h
      split at h
      · cases h
        rw [lastGiven_of_tokens hks]
        exact recalls_consume hq
      · cases h

end AutoProxy.Arguments
