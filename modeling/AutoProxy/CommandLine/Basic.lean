import AutoProxy.CommandLine.Arguments
import AutoProxy.Files.Output
import AutoProxy.Lists
import AutoProxy.Script.Basic
import AutoProxy.Text.Clean

/-! The command that turns a list into a script file. -/
namespace AutoProxy.CommandLine

/-- What a finished run leaves on the console. -/
structure Console where
  exitCode : Nat
  out : Text
  errors : List Text
  deriving DecidableEq

def given? (t : Option Text) : Option Text := t.filter (!·.isEmpty)

/-- A flag goes before the environment. An empty address or placeholder and a timeout that is not
positive count as not given; a proxy flag with nothing given is a mistake. -/
def settings (a : Arguments) (env : Environment) : Except Problem Settings := do
  let s := Settings.ofEnvironment env
  let proxy ← match a.proxy with
    | none => pure none
    | some none => throw .proxyMissing
    | some (some t) => pure (some t)
  return { s with
    proxy := Settings.resolveProxy proxy env
    feedUrl := (given? a.url).getD s.feedUrl
    placeholder := (given? a.placeholder).getD s.placeholder
    timeout :=
      match a.timeout with
      | some n => if 0 < n then ⟨n, 0⟩ else s.timeout
      | none => s.timeout }

/-- A script that was written. -/
structure Product where
  path : Text
  size : Nat
  processed : Nat
  deriving DecidableEq

/-- What becomes of a file that was put out at `path`. -/
def saved (path : Text) : Option FileTree.Fault → Except Problem Text
  | none => .ok path
  | some .nulInPath => .error .nulInPath
  | some cause => .error (.writing path cause)

def save (output : Given) (content : Text) : Run Text := do
  let some output := output | throw .outputMissing
  let scene ← get
  let place := Place.ofText scene.files output
  let (files, fault) := scene.files.output place (Utf8.encode content)
  set { scene with files }
  Run.liftFault id (saved place.toText fault)

/-- Load, collect, render, write: the first problem ends the run. -/
def generate (a : Arguments) (env : Environment) : Run Product := do
  let settings ← Run.liftFault id (settings a env)
  let lists ← Lists.load (a.input.getD []) (a.userRules.getD []) settings
  Run.log .info .command "Parsing rules".toList
  let k ← lists.collect
  Run.log .info .command "Generating PAC".toList
  let script := Script.render k.rules.index settings.placeholder (← get).now
  let path ← save a.output script
  return ⟨path, (Utf8.encode script).length, k.tally.overall.processed⟩

def label : Text := "[gfwlist2pac] ".toList

/-- A size in units of 1024 with two decimal places; a half goes to the even neighbour. -/
def kilobytes (size : Nat) : Text :=
  let scaled := 100 * size
  let q := scaled / 1024
  let r := scaled % 1024
  let n := if 512 < r || (r = 512 && q % 2 = 1) then q + 1 else q
  Text.ofNat (n / 100) ++ '.' :: Text.padded 2 (n % 100)

def Product.message (p : Product) : Text :=
  label ++ "wrote ".toList ++ p.path ++ " (".toList ++ kilobytes p.size ++ " KB, ".toList
    ++ Text.ofNat p.processed ++ " rules processed)\n".toList

def Level.name : Level → Text
  | .info => "INFO".toList
  | .warning => "WARNING".toList
  | .error => "ERROR".toList

def entryText (e : Entry) : Text := label ++ Level.name e.level ++ [' '] ++ e.text

/-- A quiet run shows warnings and errors only. -/
def isShown (quiet : Bool) (e : Entry) : Bool := !quiet || e.level ≠ .info

/-- Only a line feed ends a line. -/
def consoleLines (ts : List Text) : List Text :=
  (ts.flatMap (Text.split (· = '\n'))).filter (!·.isEmpty)

def errorLimit : Int := 400

/-- The end of a run whose problem has an exit code. -/
def problemText (p : Problem) : Text := label ++ "error: ".toList ++ Text.clean errorLimit p.message

def argumentError (e : Arguments.Fault) : Console :=
  ⟨2, [], (consoleLines ["gfwlist2pac.py: error: ".toList ++ e.message]).getLast?.toList⟩

/-- The console and the scene after a run. A problem without an exit code is handed on. -/
def run (args : List Text) (env : Environment) (scene : Scene) : Except Problem Console × Scene :=
  match Arguments.parse args with
  | .error .help => (.ok ⟨0, [], []⟩, scene)
  | .error (.fault e) => (.ok (argumentError e), scene)
  | .ok a =>
    let (result, after) := (generate a env).run scene
    let shown := ((after.log.drop scene.log.length).filter (isShown a.quiet)).map entryText
    match result with
    | .ok p => (.ok ⟨0, p.message, consoleLines shown⟩, after)
    | .error p =>
      match p.exitCode? with
      | some code => (.ok ⟨code, [], consoleLines (shown ++ [problemText p])⟩, after)
      | none => (.error p, after)

end AutoProxy.CommandLine
