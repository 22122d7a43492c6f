import AutoProxy.CommandLine.Basic
import AutoProxy.Proofs.Lists

/-! The steps of the command, and how it ends from where a step ends. -/
namespace AutoProxy.CommandLine

open Run

variable {args : List Text} {a : Arguments} {env : Environment} {st : Settings} {s t : Scene}
  {lists : Lists} {script output : Text} {p : Problem} {product : Product} {console : Console}
  {files : FileTree} {fault : Option FileTree.Fault} {code : Nat}

theorem run_save_none : (save none script).run.run s = (.error .outputMissing, s) := rfl

theorem run_save_some
    (h : s.files.output (Place.ofText s.files output) (Utf8.encode script) = (files, fault)) :
    (save (some output) script).run.run s =
      (saved (Place.ofText s.files output).toText fault, { s with files }) := by
  refine (run_bind_of_ok run_get).trans ?_
  dsimp only
  rw [h]
  match fault with
  | none => rfl
  | some .nulInPath => rfl
  | some (.refused ..) => rfl

theorem generate_of_settings_error (h : settings a env = .error p) :
    (generate a env).run.run s = (.error p, s) :=
  run_bind_of_error (run_liftFault_of_error h)

theorem generate_of_load_error (hst : settings a env = .ok st)
    (hload : (Lists.load (a.input.getD []) (a.userRules.getD []) st).run.run s = (.error p, t)) :
    (generate a env).run.run s = (.error p, t) :=
  (run_bind_of_ok (run_liftFault_of_ok hst)).trans (run_bind_of_error hload)

/-- Once the lists are loaded, all that is left is to save the script. -/
theorem generate_of_load_ok (hst : settings a env = .ok st)
    (hload : (Lists.load (a.input.getD []) (a.userRules.getD []) st).run.run s = (.ok lists, t)) :
    ∃ u, u.files = t.files ∧ (generate a env).run.run s =
      (save a.output (Script.render lists.collection.rules.index st.placeholder t.now) >>=
        fun path => pure ⟨path,
          (Utf8.encode (Script.render lists.collection.rules.index st.placeholder t.now)).length,
          lists.collection.tally.overall.processed⟩).run.run u := by
  obtain ⟨v, hcollect, hfiles, hnow⟩ := Lists.run_collect lists
    { t with log := t.log ++ [⟨.info, .command, "Parsing rules".toList⟩] }
  refine ⟨{ v with log := v.log ++ [⟨.info, .command, "Generating PAC".toList⟩] }, hfiles, ?_⟩
  rw [generate, run_bind_of_ok (run_liftFault_of_ok hst), run_bind_of_ok hload,
    run_bind_of_ok run_log, run_bind_of_ok hcollect, run_bind_of_ok run_log,
    run_bind_of_ok run_get]
  dsimp only
  rw [hnow]

theorem run_of_generated (hargs : Arguments.parse args = .ok a)
    (h : (generate a env).run.run s = (.ok product, t)) :
    ∃ errors, run args env s = (.ok ⟨0, product.message, errors⟩, t) := by
  have h : (generate a env).run s = (.ok product, t) := h
  unfold run
  rw [hargs]
  dsimp only
  rw [h]
  exact ⟨_, rfl⟩

/-- A problem ends the run with its exit code. -/
theorem run_of_aborted (hargs : Arguments.parse args = .ok a)
    (h : (generate a env).run.run s = (.error p, t)) (hcode : p.exitCode? = some code) :
    ∃ errors, run args env s = (.ok ⟨code, [], errors⟩, t) := by
  have h : (generate a env).run s = (.error p, t) := h
  unfold run
  rw [hargs]
  dsimp only
  rw [h]
  dsimp only
  rw [hcode]
  exact ⟨_, rfl⟩

/-- A problem without an exit code is handed on. -/
theorem run_of_mistake (hargs : Arguments.parse args = .ok a)
    (h : (generate a env).run.run s = (.error p, t)) (hcode : p.exitCode? = none) :
    run args env s = (.error p, t) := by
  have h : (generate a env).run s = (.error p, t) := h
  unfold run
  rw [hargs]
  dsimp only
  rw [h]
  dsimp only
  rw [hcode]

theorem run_eq_ok (hargs : Arguments.parse args = .ok a)
    (hrun : run args env s = (.ok console, t)) :
    (∃ product, (generate a env).run.run s = (.ok product, t) ∧ console.exitCode = 0) ∨
      ∃ p, (generate a env).run.run s = (.error p, t) ∧ p.exitCode? = some console.exitCode := by
  match h : (generate a env).run.run s with
  | (.ok product, u) =>
    obtain ⟨errors, hdone⟩ := run_of_generated hargs h
    cases hdone.symm.trans hrun
    exact .inl ⟨product, rfl, rfl⟩
  | (.error p, u) =>
    match hcode : p.exitCode? with
    | some code =>
      obtain ⟨errors, haborted⟩ := run_of_aborted hargs h hcode
      cases haborted.symm.trans hrun
      exact .inr ⟨p, rfl, hcode⟩
    | none => cases (run_of_mistake hargs h hcode).symm.trans hrun

end AutoProxy.CommandLine
