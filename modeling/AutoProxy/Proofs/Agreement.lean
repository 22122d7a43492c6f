import AutoProxy.Proofs.CommandLine.AllOrNothing
import AutoProxy.Proofs.Script.Substitution
import AutoProxy.Proofs.Service.Refusal

/-! The command and the service come to the same script, or fail over the same problem. -/
namespace AutoProxy

open CommandLine Run Service

/-- The command is given the lists that the environment names, and nothing else that counts. -/
structure SameLists (a : Arguments) (env : Environment) : Prop where
  feed : Text.trim (a.input.getD []) = env.value "PAC_FEED".toList
  userRules : a.userRules.getD [] = env.value "PAC_USER_RULES".toList
  url : a.url = none
  proxy : a.proxy = none
  placeholder : a.placeholder = none
  timeout : a.timeout = none

/-- Whatever the command has to write, it can. -/
def Writable (a : Arguments) (s : Scene) : Prop := ∀ script, ∃ files, Writes a s script files none

/-- From `s` the command writes `script`, and a service that has built nothing builds it. -/
structure BothBuild (args : List Text) (a : Arguments) (env : Environment) (s : Scene)
    (index : Index) (script : Text) : Prop where
  writes : ∃ console after, CommandLine.run args env s = (.ok console, after) ∧
    console.exitCode = 0 ∧ after.files.read (target a s) = .ok (Utf8.encode script)
  builds : ∀ v : Visit, v.env = env → v.scene = s → v.Needs →
    v.next fresh = ⟨some index, some script⟩
  /-- What is given out then differs in the line that declares the proxy. -/
  serves : ∀ v : Visit, v.env = env → v.Gets "/proxy.pac".toList →
    ∃ served before placeholder after,
      v.answer ⟨some index, some script⟩ = .of 200 (.text scriptType served) ∧
        Script.lines script = before ++ Script.proxyLine placeholder :: after ∧
        Script.lines served = before ++ Script.proxyLine (chain env) :: after

/-- From `s` the command ends with `code`, and a service that has built nothing refuses every
request that needs its lists. -/
structure BothFail (args : List Text) (env : Environment) (s : Scene) (p : Problem) (code : Nat) :
    Prop where
  ends : ∃ console after, CommandLine.run args env s = (.ok console, after) ∧
    console.exitCode = code
  unbuilt : ∀ v : Visit, v.env = env → v.scene = s → v.Needs → v.next fresh = fresh
  refuses : ∀ v : Visit, v.env = env → v.scene = s → v.Needs →
    v.answer fresh = refused env p ∧ (v.answer fresh).status = 503

variable {source source' userRules script : Text} {settings : Settings} {args : List Text}
  {a : Arguments} {env : Environment} {s t : Scene} {index : Index} {p : Problem} {code : Nat}

theorem Lists.load_congr (h : Text.trim source = Text.trim source') :
    Lists.load source userRules settings = Lists.load source' userRules settings := by
  have hsource : Feed.sourceOf source settings = Feed.sourceOf source' settings := by
    rw [Feed.sourceOf, h, ← Feed.sourceOf]
  rw [Lists.load, Lists.load, Feed.load, Feed.load, hsource]

namespace SameLists

theorem settings_eq (h : SameLists a env) :
    CommandLine.settings a env = .ok (Settings.ofEnvironment env) := by
  rw [CommandLine.settings, h.url, h.proxy, h.placeholder, h.timeout]
  rfl

theorem load_eq (h : SameLists a env) :
    Lists.load (a.input.getD []) (a.userRules.getD []) (Settings.ofEnvironment env) =
      loadLists env := by
  rw [h.userRules]
  exact Lists.load_congr h.feed

end SameLists

/-- The chain changes one line of the script that is served, so the served and the written script
agree in all others. -/
theorem lines_substitute_render (i : Index) (placeholder chain : Text) (time : Timestamp) :
    ∃ before after,
      Script.lines (Script.render i placeholder time) =
        before ++ Script.proxyLine placeholder :: after ∧
      Script.lines (Script.substitute placeholder chain (Script.render i placeholder time)) =
        before ++ Script.proxyLine chain :: after := by
  refine ⟨(Script.head i placeholder time).flatMap Script.lines ++ [[]], Script.tail i ++ [[]],
    ?_, ?_⟩
  · rw [Script.lines_render, List.append_assoc, List.singleton_append]
  · rw [Script.substitute_render_eq, Script.lines_declaring_proxy, List.append_assoc,
      List.singleton_append]

theorem bothBuild_of_build (hargs : Arguments.parse args = .ok a) (hsame : SameLists a env)
    (hwritable : Writable a s) (hbuild : (build env).run.run s = (.ok (index, script), t)) :
    BothBuild args a env s index script where
  writes := by
    obtain ⟨lists, u, hload, rfl, rfl⟩ := load_of_build_ok hbuild
    obtain ⟨files, hwrite⟩ := hwritable
      (Script.render lists.collection.rules.index (Settings.ofEnvironment env).placeholder u.now)
    have hscript := renders_of_load (hsame.load_eq ▸ hload)
    obtain ⟨product, after, hgenerate, rfl⟩ := generate_of_writes hsame.settings_eq hscript hwrite
    obtain ⟨errors, hrun⟩ := run_of_generated hargs hgenerate
    exact ⟨_, after, hrun, rfl, hwrite.done.2.1⟩
  builds := by
    rintro v rfl rfl hneeds
    rw [next_of_needs hneeds, hbuild]
    rfl
  serves := by
    rintro v rfl hget
    obtain ⟨lists, u, -, rfl, rfl⟩ := load_of_build_ok hbuild
    obtain ⟨before, after, hscript, hserved⟩ := lines_substitute_render
      lists.collection.rules.index (Settings.ofEnvironment v.env).placeholder (chain v.env) u.now
    refine ⟨_, before, _, after, ?_, hscript, hserved⟩
    rw [Visit.answer, respond_gets hget rfl]
    rfl

theorem bothFail_of_build (hargs : Arguments.parse args = .ok a) (hsame : SameLists a env)
    (hbuild : (build env).run.run s = (.error p, t)) (hcode : p.exitCode? = some code) :
    BothFail args env s p code where
  ends := by
    have hload := load_of_build_error hbuild
    obtain ⟨errors, hrun⟩ := run_of_aborted hargs
      (generate_of_load_error hsame.settings_eq (hsame.load_eq ▸ hload)) hcode
    exact ⟨_, t, hrun, rfl⟩
  unbuilt := by
    rintro v rfl rfl hneeds
    rw [next_of_needs hneeds, hbuild]
    rfl
  refuses := by
    rintro v rfl rfl hneeds
    have hanswer := answer_of_error hneeds hbuild
    refine ⟨hanswer, ?_⟩
    rw [hanswer, refused_status, hcode]
    rfl

/-- Whether the lists can be had or not, the command and the service agree. -/
theorem run_agrees_with_build (hargs : Arguments.parse args = .ok a) (hsame : SameLists a env) :
    (∀ index script t, (build env).run.run s = (.ok (index, script), t) → Writable a s →
      BothBuild args a env s index script) ∧
    ∀ p code t, (build env).run.run s = (.error p, t) → p.exitCode? = some code →
      BothFail args env s p code :=
  ⟨fun _ _ _ hbuild hwritable => bothBuild_of_build hargs hsame hwritable hbuild,
    fun _ _ _ hbuild hcode => bothFail_of_build hargs hsame hbuild hcode⟩

theorem run_agrees_with_build_local_feed :
    let args := ["-i".toList, "feed.txt".toList]
    let a := { Arguments.standard with input := some "feed.txt".toList }
    let env : Environment := [("PAC_FEED".toList, " feed.txt ".toList)]
    let scene (nodes : List (Path × Node)) : Scene :=
      ⟨⟨2024, 1, 1, 0, 0, 0, 0, none⟩, ⟨[], nodes⟩, [], [], [], [], .scripted⟩
    let s := scene [(["feed.txt".toList], .file (Utf8.encode "||google.com\n".toList))]
    Arguments.parse args = .ok a ∧ SameLists a env ∧ Writable a s ∧
      (∃ index script, BothBuild args a env s index script) ∧
      ∃ p, BothFail args env (scene []) p 3 := by
  intro args a env scene s
  have hargs : Arguments.parse args = .ok a := by decide +kernel
  have hsame : SameLists a env := ⟨by decide, by decide, rfl, rfl, rfl, rfl⟩
  have hwritable : Writable a s := fun script => ⟨_, "pac.txt".toList, rfl, rfl⟩
  refine ⟨hargs, hsame, hwritable, ?_, ?_⟩
  · have hok : ((build env).run.run s).1.isOk = true := by decide +kernel
    match hbuild : (build env).run.run s with
    | (.ok (index, script), t) =>
      exact ⟨index, script,
        (run_agrees_with_build hargs hsame).1 index script t hbuild hwritable⟩
    | (.error p, t) =>
      rw [hbuild] at hok
      cases hok
  · have hcode : (match ((build env).run.run (scene [])).1 with
        | .ok _ => none
        | .error p => p.exitCode?) = some 3 := by decide +kernel
    match hbuild : (build env).run.run (scene []) with
    | (.ok built, t) =>
      rw [hbuild] at hcode
      cases hcode
    | (.error p, t) =>
      rw [hbuild] at hcode
      exact ⟨p, (run_agrees_with_build hargs hsame).2 p 3 t hbuild hcode⟩

end AutoProxy
