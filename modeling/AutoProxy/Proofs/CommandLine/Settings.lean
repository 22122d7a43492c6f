import AutoProxy.Proofs.CommandLine.Generate
import AutoProxy.Proofs.CommandLine.Given
import AutoProxy.Proofs.Text.Integer

/-! The settings of a run: a flag goes before the environment, and that before the standard. -/
namespace AutoProxy.CommandLine

open Arguments (lastGiven number?)

/-- The first source that has a value decides. -/
inductive Settles {α : Type} : List (α → Prop) → α → Prop where
  | first {source sources v} (hv : source v) : Settles (source :: sources) v
  | later {source sources v} (hnone : ∀ w, ¬source w) (hv : Settles sources v) :
      Settles (source :: sources) v

/-- A text given for the flag, unless it is empty. -/
def FromFlag (args : List Text) (f : Flag) (v : Text) : Prop :=
  lastGiven args f = some (some v) ∧ v ≠ []

/-- The value of a variable, unless it is blank or missing. -/
def FromVariable (env : Environment) (name : Text) (v : Text) : Prop :=
  v = env.value name ∧ v ≠ []

def NumberFromFlag (args : List Text) (f : Flag) (n : Int) : Prop :=
  0 < n ∧ ∃ t, lastGiven args f = some (some t) ∧ Integer.Reads t n

def NumberFromVariable (env : Environment) (name : Text) (n : Int) : Prop :=
  0 < n ∧ Integer.Denotes (env.value name) n

/-- A blank text asks for no proxy, which is a value too. -/
def ProxyFromFlag (args : List Text) (proxy : Option Text) : Prop :=
  ∃ t, lastGiven args .proxy = some (some t) ∧
    (Text.trim t = [] ∧ proxy = none ∨ Text.trim t ≠ [] ∧ proxy = some (Text.trim t))

def ProxyFromVariable (env : Environment) (name : Text) (proxy : Option Text) : Prop :=
  ∃ v, FromVariable env name v ∧ proxy = some v

/-- Where each setting comes from. -/
structure InForce (args : List Text) (env : Environment) (st : Settings) : Prop where
  feedUrl : Settles [FromFlag args .url, FromVariable env "GFWLIST_URL".toList,
    (· = Settings.standard.feedUrl)] st.feedUrl
  proxy : Settles (ProxyFromFlag args ::
    (["HTTPS_PROXY", "HTTP_PROXY", "ALL_PROXY", "https_proxy", "http_proxy", "all_proxy"].map
      fun name => ProxyFromVariable env name.toList) ++ [(· = Settings.standard.proxy)]) st.proxy
  placeholder : Settles [FromFlag args .placeholder, FromVariable env "PAC_PLACEHOLDER".toList,
    (· = Settings.standard.placeholder)] st.placeholder
  timeout : Settles [NumberFromFlag args .timeout,
    NumberFromVariable env "GFWLIST_DOWNLOAD_TIMEOUT".toList, (· = 30)] st.timeout.mantissa
  wholeSeconds : st.timeout.places = 0
  maxBytes : Settles [NumberFromVariable env "GFWLIST_MAX_DOWNLOAD_BYTES".toList,
    (· = 16 * 1024 * 1024)] st.maxBytes

section Sources

variable {α β : Type} {source : α → Prop} {sources : List (α → Prop)} {o o' : Option α} {v : α}

/-- The source has the value, or none. -/
def Says (source : α → Prop) (o : Option α) : Prop := ∀ v, source v ↔ o = some v

theorem says_settles_nil : Says (Settles ([] : List (α → Prop))) none :=
  fun _ => ⟨nofun, nofun⟩

/-- What the first source says goes before what the later ones say. -/
theorem says_settles_cons (h : Says source o) (hlater : Says (Settles sources) o') :
    Says (Settles (source :: sources)) (o.or o') := by
  intro v
  cases o with
  | some w =>
    rw [Option.some_or, ← h v]
    constructor
    · rintro (hv | ⟨hnone, -⟩)
      · exact hv
      · exact absurd ((h w).mpr rfl) (hnone w)
    · exact .first
  | none =>
    rw [Option.none_or, ← hlater v]
    have hnone : ∀ w, ¬source w := fun w hw => nomatch (h w).mp hw
    constructor
    · rintro (hv | ⟨-, hv⟩)
      · exact absurd hv (hnone v)
      · exact hv
    · exact .later hnone

/-- The same of a list of sources: the first of them that says something settles it. -/
theorem says_settles_map {source : β → α → Prop} {value : β → Option α}
    (h : ∀ x, Says (source x) (value x)) (xs : List β) (hlater : Says (Settles sources) o) :
    Says (Settles (xs.map source ++ sources)) ((xs.findSome? value).or o) := by
  induction xs with
  | nil => exact hlater
  | cons x xs ih =>
    have hcons := says_settles_cons (h x) ih
    rw [List.findSome?_cons]
    cases hx : value x with
    | some w => rwa [hx] at hcons
    | none => rwa [hx] at hcons

/-- The standard has a value where no other source has. -/
theorem says_standard (v : α) : Says (Settles [(· = v)]) (some v) :=
  says_settles_cons (o := some v) (fun _ => ⟨fun h => h ▸ rfl, fun h => (Option.some.inj h).symm⟩)
    says_settles_nil

/-- With a standard behind all sources there is always a value. -/
theorem says_getD (h : Says source o) (hlater : Says (Settles sources) (some v)) :
    Says (Settles (source :: sources)) (some (o.getD v)) := by
  have hcons := says_settles_cons h hlater
  rwa [Option.or_some] at hcons

/-- What holds of the values of all sources holds of the one that is decided. -/
theorem Settles.satisfies {P : α → Prop} (h : Settles sources v)
    (hsources : ∀ source ∈ sources, ∀ w, source w → P w) : P v := by
  induction h with
  | first hv => exact hsources _ List.mem_cons_self _ hv
  | later _ _ ih => exact ih fun source hsource => hsources source (List.mem_cons_of_mem _ hsource)

end Sources

variable {args : List Text} {a : Arguments} {env : Environment} {st st' : Settings} {f : Flag}
  {t : Option Text}

/-- A flag that is blank says nothing. -/
theorem says_fromFlag (h : t = (lastGiven args f).getD none) :
    Says (FromFlag args f) (given? t) := by
  subst h
  intro v
  rw [FromFlag, given?, Option.filter_eq_some_iff]
  match lastGiven args f with
  | none => simp
  | some none => simp
  | some (some t) => simp

theorem says_fromVariable (env : Environment) (name : Text) :
    Says (FromVariable env name) (env.value? name) := by
  intro v
  rw [FromVariable, Environment.value?]
  match env.value name with
  | [] => simp
  | c :: t =>
    constructor
    · rintro ⟨rfl, -⟩
      rfl
    · rintro ⟨⟩
      exact ⟨rfl, List.cons_ne_nil c t⟩

theorem toOption_eq_some_iff {ε α : Type} {x : Except ε α} {v : α} :
    x.toOption = some v ↔ x = .ok v := by
  cases x with
  | ok w => simp [Except.toOption]
  | error e => simp [Except.toOption]

/-- A flag gives a number if its text reads as one. -/
theorem number?_eq_some_iff {t : Text} {n : Int} :
    number? (some t) = some n ↔ Integer.Reads t n := by
  rw [number?, Option.bind_some, toOption_eq_some_iff, Integer.ofText_eq_ok_iff]

/-- Numbers below one say nothing. -/
theorem says_numberFromFlag (h : a.timeout = ((lastGiven args .timeout).map number?).getD none) :
    Says (NumberFromFlag args .timeout) (a.timeout.filter (0 < ·)) := by
  intro n
  rw [NumberFromFlag, h, Option.filter_eq_some_iff, decide_eq_true_eq, and_comm]
  match lastGiven args .timeout with
  | none => simp
  | some none => simp [number?]
  | some (some t) => simp [number?_eq_some_iff]

theorem says_numberFromVariable (env : Environment) (name : Text) :
    Says (NumberFromVariable env name)
      ((Integer.ofText (env.value name)).toOption.filter (0 < ·)) := by
  intro n
  rw [NumberFromVariable, Option.filter_eq_some_iff, decide_eq_true_eq, and_comm,
    toOption_eq_some_iff, Environment.value, Integer.ofText_trim_eq_ok_iff]

/-- A blank proxy says something: that there is none. -/
theorem says_proxyFromFlag (h : a.proxy = lastGiven args .proxy) (env : Environment) :
    Says (ProxyFromFlag args)
      (a.proxy.bind (·.map fun t => Settings.resolveProxy (some t) env)) := by
  intro proxy
  rw [ProxyFromFlag, h]
  match lastGiven args .proxy with
  | none => simp
  | some none => simp
  | some (some t) =>
    rw [Option.bind_some, Option.map_some, Option.some_inj, Settings.resolveProxy]
    by_cases ht : Text.isAllBlank t
    · simpa [Text.trim_eq_nil_iff, ht] using eq_comm
    · simpa [Text.trim_eq_nil_iff, ht] using eq_comm

theorem says_proxyFromVariable (env : Environment) (name : Text) :
    Says (ProxyFromVariable env name) ((env.value? name).map some) := by
  intro proxy
  rw [Option.map_eq_some_iff, ProxyFromVariable]
  constructor
  · rintro ⟨v, hv, rfl⟩
    exact ⟨v, (says_fromVariable env name v).mp hv, rfl⟩
  · rintro ⟨v, hv, rfl⟩
    exact ⟨v, (says_fromVariable env name v).mpr hv, rfl⟩

theorem integerFrom_eq (env : Environment) (name : Text) (default : Int) :
    Settings.integerFrom env name default =
      ((Integer.ofText (env.value name)).toOption.filter (0 < ·)).getD default := by
  rw [Settings.integerFrom]
  match Integer.ofText (env.value name) with
  | .error e => rfl
  | .ok n => by_cases hn : 0 < n <;> simp [Except.toOption, Option.filter, hn]

theorem seconds_eq (t : Option Int) (n : Int) :
    (match t with
      | some m => if 0 < m then (⟨m, 0⟩ : Seconds) else ⟨n, 0⟩
      | none => ⟨n, 0⟩) = ⟨(t.filter (0 < ·)).getD n, 0⟩ := by
  match t with
  | none => rfl
  | some m => by_cases hm : 0 < m <;> simp [Option.filter, hm]

/-- Each of the settings by the values of its sources. -/
theorem settings_eq (hproxy : a.proxy ≠ some none) : settings a env = .ok {
    feedUrl := (given? a.url).getD
      ((env.value? "GFWLIST_URL".toList).getD Settings.standard.feedUrl)
    proxy := (a.proxy.bind (·.map fun t => Settings.resolveProxy (some t) env)).getD
      (((Settings.proxyNames.findSome? env.value?).map some).getD Settings.standard.proxy)
    placeholder := (given? a.placeholder).getD
      ((env.value? "PAC_PLACEHOLDER".toList).getD Settings.standard.placeholder)
    timeout := ⟨(a.timeout.filter (0 < ·)).getD
      (Settings.integerFrom env "GFWLIST_DOWNLOAD_TIMEOUT".toList 30), 0⟩
    maxBytes :=
      Settings.integerFrom env "GFWLIST_MAX_DOWNLOAD_BYTES".toList (16 * 1024 * 1024) } := by
  rw [← seconds_eq]
  unfold settings
  match hgiven : a.proxy with
  | some none => exact absurd hgiven hproxy
  | some (some t) => rfl
  | none =>
    have hfrom : Settings.resolveProxy none env =
        ((Settings.proxyFrom env).map some).getD Settings.standard.proxy := by
      rw [Settings.resolveProxy]
      cases Settings.proxyFrom env <;> rfl
    dsimp only
    rw [← Settings.proxyFrom, Option.bind_none, Option.getD_none, ← hfrom]
    rfl

theorem settings_of_proxy_missing (h : a.proxy = some none) :
    settings a env = .error .proxyMissing := by
  unfold settings
  rw [h]
  rfl

/-- The settings of accepted arguments are what their sources decide, and nothing else is. -/
theorem inForce_iff (hargs : Arguments.parse args = .ok a) (hst : settings a env = .ok st) :
    InForce args env st' ↔ st' = st := by
  have hgiven := Arguments.recalls_parse hargs
  have hflag : a.proxy = lastGiven args .proxy := hgiven.proxy.trans Option.or_none
  have hproxy : a.proxy ≠ some none := fun hmissing => by
    cases (settings_of_proxy_missing hmissing).symm.trans hst
  cases (settings_eq hproxy).symm.trans hst
  have hfeedUrl := says_getD (says_fromFlag hgiven.url)
    (says_getD (says_fromVariable env "GFWLIST_URL".toList)
      (says_standard Settings.standard.feedUrl))
  have hplaceholder := says_getD (says_fromFlag hgiven.placeholder)
    (says_getD (says_fromVariable env "PAC_PLACEHOLDER".toList)
      (says_standard Settings.standard.placeholder))
  have htimeout := says_getD (says_numberFromFlag hgiven.timeout)
    (says_getD (says_numberFromVariable env "GFWLIST_DOWNLOAD_TIMEOUT".toList)
      (says_standard 30))
  have hmaxBytes := says_getD
    (says_numberFromVariable env "GFWLIST_MAX_DOWNLOAD_BYTES".toList)
    (says_standard (16 * 1024 * 1024))
  have hnames := says_settles_map (fun name : String => says_proxyFromVariable env name.toList)
    ["HTTPS_PROXY", "HTTP_PROXY", "ALL_PROXY", "https_proxy", "http_proxy", "all_proxy"]
    (says_standard Settings.standard.proxy)
  rw [Option.or_some] at hnames
  have hproxyOf := says_getD (says_proxyFromFlag hflag env) hnames
  rw [← integerFrom_eq] at htimeout hmaxBytes
  rw [Settings.proxyNames, List.findSome?_map, List.map_findSome?]
  constructor
  · intro h
    obtain ⟨feedUrl, proxy, placeholder, ⟨mantissa, places⟩, maxBytes⟩ := st'
    cases (hfeedUrl _).mp h.feedUrl
    cases (hproxyOf _).mp h.proxy
    cases (hplaceholder _).mp h.placeholder
    cases (htimeout _).mp h.timeout
    cases h.wholeSeconds
    cases (hmaxBytes _).mp h.maxBytes
    rfl
  · rintro rfl
    exact ⟨(hfeedUrl _).mpr rfl, (hproxyOf _).mpr rfl, (hplaceholder _).mpr rfl,
      (htimeout _).mpr rfl, rfl, (hmaxBytes _).mpr rfl⟩

theorem Settles.ne_nil {name d v : Text}
    (h : Settles [FromFlag args f, FromVariable env name, (· = d)] v) (hd : d ≠ []) : v ≠ [] := by
  apply h.satisfies (P := (· ≠ []))
  rw [List.forall_mem_cons, List.forall_mem_cons, List.forall_mem_singleton]
  exact ⟨fun _ hv => hv.2, fun _ hv => hv.2, fun _ hv => hv ▸ hd⟩

/-- No environment and no flag makes a setting empty, or a number less than one. -/
theorem InForce.usable (h : InForce args env st) : 1 ≤ st.timeout.mantissa ∧ 1 ≤ st.maxBytes ∧
    st.feedUrl ≠ [] ∧ st.placeholder ≠ [] := by
  refine ⟨?_, ?_, h.feedUrl.ne_nil (by decide +kernel), h.placeholder.ne_nil (by decide +kernel)⟩
  · apply h.timeout.satisfies (P := (1 ≤ ·))
    rw [List.forall_mem_cons, List.forall_mem_cons, List.forall_mem_singleton]
    exact ⟨fun _ hn => hn.1, fun _ hn => hn.1, fun _ hn => hn ▸ by decide⟩
  · apply h.maxBytes.satisfies (P := (1 ≤ ·))
    rw [List.forall_mem_cons, List.forall_mem_singleton]
    exact ⟨fun _ hn => hn.1, fun _ hn => hn ▸ by decide⟩

/-- Accepted arguments that do not give a proxy flag without a text have the settings that their
sources decide, and these load the lists. With such a flag the run is a mistake. -/
theorem settings_in_force (hargs : Arguments.parse args = .ok a) (env : Environment) :
    (lastGiven args .proxy ≠ some none → ∃ st, settings a env = .ok st ∧
      (∀ st', InForce args env st' ↔ st' = st) ∧
      (1 ≤ st.timeout.mantissa ∧ 1 ≤ st.maxBytes ∧ st.feedUrl ≠ [] ∧ st.placeholder ≠ []) ∧
      ∃ rest, generate a env =
        Lists.load (a.input.getD []) (a.userRules.getD []) st >>= rest) ∧
    (lastGiven args .proxy = some none → ∀ s, run args env s = (.error .proxyMissing, s)) := by
  have hflag : a.proxy = lastGiven args .proxy :=
    (Arguments.recalls_parse hargs).proxy.trans Option.or_none
  rw [← hflag]
  constructor
  · intro hproxy
    obtain ⟨st, hst⟩ : ∃ st, settings a env = .ok st := ⟨_, settings_eq hproxy⟩
    have hforce (st' : Settings) : InForce args env st' ↔ st' = st := inForce_iff hargs hst
    refine ⟨st, hst, hforce, ((hforce st).mpr rfl).usable, ?_⟩
    rw [generate, hst]
    exact ⟨_, rfl⟩
  · intro hmissing s
    exact run_of_mistake hargs
      (generate_of_settings_error (settings_of_proxy_missing hmissing)) rfl

/-- A blank proxy asks for none, an empty address counts as not given, and a value of a variable may
be spelled with a sign and an underscore. -/
theorem settings_in_force_blank_proxy :
    let args := ["-p", "a", "-u", "", "--timeout", "-5", "--prox= "].map String.toList
    let a := { Arguments.standard with
      url := some [], timeout := some (-5), proxy := some (some [' ']) }
    let env := [("HTTP_PROXY".toList, "b".toList), ("GFWLIST_URL".toList, " u\n".toList),
      ("GFWLIST_DOWNLOAD_TIMEOUT".toList, "+1_0".toList)]
    let st := { Settings.standard with feedUrl := ['u'], proxy := none, timeout := ⟨10, 0⟩ }
    Arguments.parse args = .ok a ∧ lastGiven args .proxy ≠ some none ∧ InForce args env st := by
  intro args a env st
  have hargs : Arguments.parse args = .ok a := by decide +kernel
  have hproxy : lastGiven args .proxy ≠ some none := by decide +kernel
  have hst : settings a env = .ok st := by decide +kernel
  obtain ⟨st', hst', hforce, -⟩ := (settings_in_force hargs env).1 hproxy
  exact ⟨hargs, hproxy, (hforce st).mpr (Except.ok.inj (hst.symm.trans hst'))⟩

/-- Two hyphens attached to the proxy flag are accepted, but then there are no settings. -/
theorem no_settings_for_attached_hyphens :
    let args := ["-i", "g.txt", "-p--"].map String.toList
    ∃ a, Arguments.parse args = .ok a ∧ (∀ env st, settings a env ≠ .ok st) ∧
      ∀ env s, run args env s = (.error .proxyMissing, s) := by
  intro args
  let a := { Arguments.standard with input := some "g.txt".toList, proxy := some none }
  have hargs : Arguments.parse args = .ok a := by decide +kernel
  have hmissing (env : Environment) : settings a env = .error .proxyMissing :=
    settings_of_proxy_missing rfl
  refine ⟨a, hargs, fun env st hst => ?_, fun env s => ?_⟩
  · cases (hmissing env).symm.trans hst
  · exact run_of_mistake hargs (generate_of_settings_error (hmissing env)) rfl

end AutoProxy.CommandLine
