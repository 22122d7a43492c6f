import AutoProxy.Proofs.CommandLine.Generate
import AutoProxy.Proofs.Files.Output

/-! A run of the command does all it is there for, or leaves the files as they were. -/
namespace AutoProxy.CommandLine

open FileTree Run

/-- The absolute path of the file that is written. -/
def target (a : Arguments) (s : Scene) : Text := (Place.ofText s.files (a.output.getD [])).toText

/-- Both lists are loaded, the feed first, and `script` is rendered from their rules. -/
def Renders (a : Arguments) (st : Settings) (s : Scene) (script : Text) : Prop :=
  ∃ feed rules t u, (Feed.load (a.input.getD []) st false).run.run s = (.ok feed, t) ∧
    (Lists.ownRules (a.userRules.getD [])).run.run t = (.ok rules, u) ∧
    script = Script.render (Collection.ofLists .zero (Text.lines feed) rules).rules.index
      st.placeholder s.now

/-- Writing the script ends with `files`, and with a fault unless it is written. -/
def Writes (a : Arguments) (s : Scene) (script : Text) (files : FileTree)
    (fault : Option FileTree.Fault) : Prop :=
  ∃ output, a.output = some output ∧
    s.files.output (Place.ofText s.files output) (Utf8.encode script) = (files, fault)

/-- The problem of the first step that fails: loading the feed, reading the user's rules, or writing
the script. -/
inductive FirstFailure (a : Arguments) (st : Settings) (s : Scene) : Problem → Prop where
  | feed {p t} (hload : (Feed.load (a.input.getD []) st false).run.run s = (.error p, t))
      (hfeed : p.IsOfFeed) : FirstFailure a st s p
  | userRules {feed t cause u}
      (hload : (Feed.load (a.input.getD []) st false).run.run s = (.ok feed, t))
      (hread : (Lists.ownRules (a.userRules.getD [])).run.run t =
        (.error (.reading .userRules (a.userRules.getD []) cause), u)) :
      FirstFailure a st s (.reading .userRules (a.userRules.getD []) cause)
  | output {script files cause} (hscript : Renders a st s script)
      (hwrite : Writes a s script files (some cause)) :
      FirstFailure a st s (.writing (target a s) cause)

/-- How a run goes: its end, and the files that it leaves. -/
inductive Course (a : Arguments) (env : Environment) (s : Scene) :
    Except Problem Product → FileTree → Prop where
  | unset {p} (hst : settings a env = .error p) : Course a env s (.error p) s.files
  | unloaded {st p t} (hst : settings a env = .ok st)
      (hload : (Lists.load (a.input.getD []) (a.userRules.getD []) st).run.run s = (.error p, t)) :
      Course a env s (.error p) s.files
  | unplaced {st script} (hst : settings a env = .ok st) (hscript : Renders a st s script)
      (houtput : a.output = none) : Course a env s (.error .outputMissing) s.files
  | unwritten {st script files p} (hst : settings a env = .ok st) (hscript : Renders a st s script)
      (fault : FileTree.Fault) (hwrite : Writes a s script files (some fault))
      (hp : saved (target a s) (some fault) = .error p) : Course a env s (.error p) files
  | done {st script files} (hst : settings a env = .ok st) (hscript : Renders a st s script)
      (hwrite : Writes a s script files none) (product : Product) :
      Course a env s (.ok product) files

variable {args : List Text} {a : Arguments} {env : Environment} {st : Settings} {s t u : Scene}
  {lists : Lists} {script script' : Text} {p : Problem} {product : Product} {console : Console}
  {files files' : FileTree} {fault fault' : Option FileTree.Fault} {code : Nat}

theorem target_of_output {output : Text} (h : a.output = some output) :
    target a s = (Place.ofText s.files output).toText := by
  rw [target, h, Option.getD_some]

theorem Renders.unique (h : Renders a st s script) (h' : Renders a st s script') :
    script = script' := by
  obtain ⟨feed, rules, t, u, hfeed, hrules, rfl⟩ := h
  obtain ⟨feed', rules', t', u', hfeed', hrules', rfl⟩ := h'
  cases hfeed.symm.trans hfeed'
  cases hrules.symm.trans hrules'
  rfl

theorem Writes.unique (h : Writes a s script files fault) (h' : Writes a s script files' fault') :
    files = files' ∧ fault = fault' := by
  obtain ⟨output, houtput, hwrite⟩ := h
  obtain ⟨output', houtput', hwrite'⟩ := h'
  cases houtput.symm.trans houtput'
  cases hwrite.symm.trans hwrite'
  exact ⟨rfl, rfl⟩

/-- No step fails if all succeed. -/
theorem FirstFailure.not_done (h : FirstFailure a st s p) (hscript : Renders a st s script) :
    ¬Writes a s script files none := by
  intro hwrite
  cases h with
  | feed hload hfeed =>
    obtain ⟨feed, rules, t, u, hload', hrules, -⟩ := hscript
    cases hload.symm.trans hload'
  | userRules hload hread =>
    obtain ⟨feed, rules, t, u, hload', hread', -⟩ := hscript
    cases hload.symm.trans hload'
    cases hread.symm.trans hread'
  | output hscript' hwrite' =>
    cases hscript.unique hscript'
    cases (hwrite.unique hwrite').2

theorem renders_of_load
    (hload : (Lists.load (a.input.getD []) (a.userRules.getD []) st).run.run s = (.ok lists, t)) :
    Renders a st s (Script.render lists.collection.rules.index st.placeholder t.now) := by
  obtain ⟨u, hfeed, hrules⟩ := Lists.load_eq_ok_iff.mp hload
  rw [Lists.spares_load.now hload]
  exact ⟨_, _, u, t, hfeed, hrules, rfl⟩

/-- Once there is a script, what is left is to write it. -/
theorem course_save {r : Except Problem Product} (hst : settings a env = .ok st)
    (hscript : Renders a st s script) (hfiles : t.files = s.files) (product : Text → Product)
    (h : (save a.output script >>= fun path => pure (product path)).run.run t = (r, u)) :
    Course a env s r u.files := by
  match houtput : a.output with
  | none =>
    rw [houtput, run_bind_of_error run_save_none] at h
    cases h
    rw [hfiles]
    exact .unplaced hst hscript houtput
  | some output =>
    match hout : s.files.output (Place.ofText s.files output) (Utf8.encode script) with
    | (files, fault) =>
      have hwrite : Writes a s script files fault := ⟨output, houtput, hout⟩
      have hsave := run_save_some (hfiles ▸ hout)
      rw [hfiles, ← target_of_output houtput, ← houtput] at hsave
      match fault with
      | none =>
        cases (run_bind_of_ok hsave).symm.trans h
        exact .done hst hscript hwrite _
      | some .nulInPath =>
        cases (run_bind_of_error hsave).symm.trans h
        exact .unwritten hst hscript _ hwrite rfl
      | some (.refused ..) =>
        cases (run_bind_of_error hsave).symm.trans h
        exact .unwritten hst hscript _ hwrite rfl

theorem course_generate (a : Arguments) (env : Environment) (s : Scene) :
    Course a env s ((generate a env).run.run s).1 ((generate a env).run.run s).2.files := by
  match hst : settings a env with
  | .error p =>
    rw [generate_of_settings_error hst]
    exact .unset hst
  | .ok st =>
    match hload : (Lists.load (a.input.getD []) (a.userRules.getD []) st).run.run s with
    | (.error p, t) =>
      rw [generate_of_load_error hst hload]
      dsimp only
      rw [Lists.spares_load.files hload]
      exact .unloaded hst hload
    | (.ok lists, t) =>
      obtain ⟨u, hfiles, hsave⟩ := generate_of_load_ok hst hload
      exact course_save hst (renders_of_load hload) (hfiles.trans (Lists.spares_load.files hload)) _
        hsave.symm

theorem settings_eq_error (h : settings a env = .error p) : p = .proxyMissing := by
  unfold settings at h
  match hproxy : a.proxy with
  | none =>
    rw [hproxy] at h
    cases h
  | some none =>
    rw [hproxy] at h
    cases h
    rfl
  | some (some _) =>
    rw [hproxy] at h
    cases h

/-- Loading the lists ends with an exit code only for a list that cannot be had. -/
theorem firstFailure_of_load
    (hload : (Lists.load (a.input.getD []) (a.userRules.getD []) st).run.run s = (.error p, t))
    (hcode : p.exitCode? = some code) :
    FirstFailure a st s p ∧ (code = 2 ∨ code = 3 ∨ code = 4) := by
  rcases Lists.load_eq_error_iff.mp hload with hfeed | ⟨feed, u, hfeed, hrules⟩
  · rcases Feed.meets_load.of_error hfeed with hp | hp
    · refine ⟨.feed hfeed hp, ?_⟩
      simpa [hcode] using hp.exitCode?_mem
    · cases hcode.symm.trans hp.exitCode?_eq_none
  · rcases Lists.meets_ownRules.of_error hrules with ⟨cause, rfl⟩ | rfl
    · cases hcode
      exact ⟨.userRules hfeed hrules, .inr (.inl rfl)⟩
    · cases hcode

/-- A run with an exit code fails in one of its steps, and changes no file before the last. -/
theorem generate_eq_error (h : (generate a env).run.run s = (.error p, t))
    (hcode : p.exitCode? = some code) : ∃ st, settings a env = .ok st ∧ FirstFailure a st s p ∧
      ((code = 2 ∨ code = 3 ∨ code = 4) ∧ t.files = s.files ∨
        code = 5 ∧ ∃ script cause given aim,
          Writes a s script t.files (some (.refused cause given aim))) := by
  have hcourse := course_generate a env s
  rw [h] at hcourse
  generalize hfiles : t.files = files at hcourse ⊢
  cases hcourse with
  | unset hst =>
    cases settings_eq_error hst
    cases hcode
  | unloaded hst hload =>
    obtain ⟨hfailure, hcodes⟩ := firstFailure_of_load hload hcode
    exact ⟨_, hst, hfailure, .inl ⟨hcodes, rfl⟩⟩
  | unplaced => cases hcode
  | unwritten hst hscript fault hwrite hp =>
    cases fault with
    | nulInPath =>
      cases hp
      cases hcode
    | refused cause given aim =>
      cases hp
      cases hcode
      exact ⟨_, hst, .output hscript hwrite, .inr ⟨rfl, _, cause, given, aim, hwrite⟩⟩

theorem generate_eq_ok (h : (generate a env).run.run s = (.ok product, t)) :
    ∃ st script, settings a env = .ok st ∧ Renders a st s script ∧
      Writes a s script t.files none := by
  have hcourse := course_generate a env s
  rw [h] at hcourse
  generalize t.files = files at hcourse ⊢
  cases hcourse with
  | done hst hscript hwrite => exact ⟨_, _, hst, hscript, hwrite⟩

/-- If every step succeeds, so does the run. -/
theorem generate_of_writes (hst : settings a env = .ok st) (hscript : Renders a st s script)
    (hwrite : Writes a s script files none) :
    ∃ product t, (generate a env).run.run s = (.ok product, t) ∧ t.files = files := by
  have hcourse := course_generate a env s
  match hrun : (generate a env).run.run s with
  | (r, t) =>
    rw [hrun] at hcourse
    dsimp only at hcourse
    generalize hfiles : t.files = left at hcourse
    cases hcourse with
    | unset hst' => cases hst.symm.trans hst'
    | unloaded hst' hload =>
      cases hst.symm.trans hst'
      obtain ⟨feed, rules, u, v, hfeed, hrules, -⟩ := hscript
      have hload' : (Lists.load (a.input.getD []) (a.userRules.getD []) st).run.run s =
          (.ok ⟨feed, rules⟩, v) :=
        Lists.load_eq_ok_iff.mpr ⟨u, hfeed, hrules⟩
      cases hload.symm.trans hload'
    | unplaced _ _ houtput =>
      obtain ⟨output, houtput', -⟩ := hwrite
      cases houtput.symm.trans houtput'
    | unwritten hst' hscript' _ hwrite' =>
      cases hst.symm.trans hst'
      cases hscript.unique hscript'
      cases (hwrite.unique hwrite').2
    | done hst' hscript' hwrite' product =>
      cases hst.symm.trans hst'
      cases hscript.unique hscript'
      exact ⟨product, t, rfl, hfiles.trans (hwrite.unique hwrite').1.symm⟩

/-- What a run that ended with `code` has left of the files that it found. -/
structure AllOrNothing (a : Arguments) (st : Settings) (before after : Scene) (code : Nat) :
    Prop where
  /-- The code is 0 exactly when every step succeeds. -/
  zero_iff : code = 0 ↔
    ∃ script files, Renders a st before script ∧ Writes a before script files none
  /-- Else it is that of the first step that fails. -/
  failure : code ≠ 0 → ∃ p, FirstFailure a st before p ∧ p.exitCode? = some code
  codes : code = 0 ∨ code = 2 ∨ code = 3 ∨ code = 4 ∨ code = 5
  written : code = 0 → ∃ script, Renders a st before script ∧
    after.files.read (target a before) = .ok (Utf8.encode script)
  others : code = 0 → ChangesOnly [before.files.pathOf (target a before),
    before.files.pathOf (asideOf (target a before))] before.files after.files
  /-- A list that cannot be had changes nothing. -/
  unloaded : code = 2 ∨ code = 3 ∨ code = 4 → after.files = before.files
  /-- A script that cannot be written leaves every file, and what was there in its place. -/
  unwritten : code = 5 →
    ChangesOnly [before.files.pathOf (asideOf (target a before))] before.files after.files ∧
      ∀ content, before.files.read (target a before) = .ok content →
        after.files.read (target a before) = .ok content
  /-- Nothing is left beside the script. -/
  tidy : code = 0 ∨ code = 5 →
    ∀ content, after.files.look? (asideOf (target a before)) ≠ some (.file content)

theorem Writes.done (h : Writes a s script files none) :
    ChangesOnly [s.files.pathOf (target a s), s.files.pathOf (asideOf (target a s))] s.files files ∧
      files.read (target a s) = .ok (Utf8.encode script) ∧
      ∀ c, files.look? (asideOf (target a s)) ≠ some (.file c) := by
  obtain ⟨output, houtput, hwrite⟩ := h
  rw [target_of_output houtput]
  exact output_done hwrite

theorem Writes.refused {cause : Cause} {given : Text} {aim : Option Text}
    (h : Writes a s script files (some (.refused cause given aim))) :
    ChangesOnly [s.files.pathOf (asideOf (target a s))] s.files files ∧
      ∀ c, files.look? (asideOf (target a s)) ≠ some (.file c) := by
  obtain ⟨output, houtput, hwrite⟩ := h
  rw [target_of_output houtput]
  exact output_refused hwrite

/-- Whenever a run with arguments that can be parsed ends with a code. -/
theorem run_all_or_nothing (hargs : Arguments.parse args = .ok a)
    (hrun : run args env s = (.ok console, t)) :
    ∃ st, settings a env = .ok st ∧ AllOrNothing a st s t console.exitCode := by
  rcases run_eq_ok hargs hrun with ⟨product, hgenerate, hcode⟩ | ⟨p, hgenerate, hcode⟩
  · obtain ⟨st, script, hst, hscript, hwrite⟩ := generate_eq_ok hgenerate
    obtain ⟨hchange, hread, htidy⟩ := hwrite.done
    rw [hcode]
    exact ⟨st, hst, {
      zero_iff := iff_of_true rfl ⟨script, _, hscript, hwrite⟩
      failure := fun h => absurd rfl h
      codes := .inl rfl
      written := fun _ => ⟨script, hscript, hread⟩
      others := fun _ => hchange
      unloaded := by simp
      unwritten := by simp
      tidy := fun _ => htidy }⟩
  · obtain ⟨st, hst, hfailure, hcases⟩ := generate_eq_error hgenerate hcode
    have hundone : ¬∃ script files, Renders a st s script ∧ Writes a s script files none :=
      fun ⟨_, _, hscript, hwrite⟩ => hfailure.not_done hscript hwrite
    generalize console.exitCode = code at hcode hcases ⊢
    have hne : code ≠ 0 := by omega
    refine ⟨st, hst, iff_of_false hne hundone, fun _ => ⟨p, hfailure, hcode⟩, by omega,
      fun h => absurd h hne, fun h => absurd h hne, fun h => ?_, fun h => ?_, fun h => ?_⟩
    · exact (hcases.resolve_right (by omega)).2
    · obtain ⟨-, script, cause, given, aim, hwrite⟩ := hcases.resolve_left (by omega)
      have hchange := hwrite.refused.1
      have hne : s.files.pathOf (target a s) ∉ [s.files.pathOf (asideOf (target a s))] :=
        fun hmem => pathOf_asideOf_ne _ _ (List.mem_singleton.mp hmem).symm
      exact ⟨hchange, fun content hread => hchange.read hread hne⟩
    · obtain ⟨-, script, cause, given, aim, hwrite⟩ := hcases.resolve_left (by omega)
      exact hwrite.refused.2

/-- A folder stands where the script is to be written first. -/
theorem run_all_or_nothing_folder_aside :
    let args := ["-i".toList, "feed.txt".toList]
    let a := { Arguments.standard with input := some "feed.txt".toList }
    let old := Utf8.encode "old".toList
    let s : Scene := ⟨⟨2024, 1, 1, 0, 0, 0, 0, none⟩,
      ⟨[], [(["feed.txt".toList], .file (Utf8.encode "||google.com\n".toList)),
        (["pac.txt".toList], .file old), (["pac.txt.tmp".toList], .folder)]⟩,
      [], [], [], [], .scripted⟩
    Arguments.parse args = .ok a ∧ ∃ console after, run args [] s = (.ok console, after) ∧
      console.exitCode = 5 ∧ (∃ p, FirstFailure a .standard s p ∧ p.exitCode? = some 5) ∧
      after.files.read "/pac.txt".toList = .ok old := by
  intro args a old s
  have hargs : Arguments.parse args = .ok a := by decide +kernel
  have hcode : (run args [] s).1.toOption.map Console.exitCode = some 5 := by decide +kernel
  refine ⟨hargs, ?_⟩
  match hrun : run args [] s with
  | (.error p, after) =>
    rw [hrun] at hcode
    cases hcode
  | (.ok console, after) =>
    rw [hrun] at hcode
    have hcode : console.exitCode = 5 := Option.some_inj.mp hcode
    obtain ⟨st, hst, hall⟩ := run_all_or_nothing hargs hrun
    have hstandard : settings a [] = .ok .standard := by decide +kernel
    cases hst.symm.trans hstandard
    rw [hcode] at hall
    exact ⟨console, after, rfl, hcode, hall.failure (by decide),
      (hall.unwritten rfl).2 old (by decide +kernel)⟩

end AutoProxy.CommandLine
