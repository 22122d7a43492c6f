import AutoProxy.Disclosure
import AutoProxy.Lists
import AutoProxy.Script.Basic
import AutoProxy.Service.Answer

/-! The service: it builds an index and a script when they are first asked for, and keeps them. -/
namespace AutoProxy

/-- What is kept between requests. -/
structure Service where
  index : Option Index
  script : Option Text
  deriving DecidableEq

namespace Service

def fresh : Service := ⟨none, none⟩

def defaultChain : Text := "SOCKS5 127.0.0.1:1080; DIRECT".toList

/-- The proxy chain that served scripts name. -/
def chain (env : Environment) : Text := (env.value? "PAC_PROXY_CHAIN".toList).getD defaultChain

/-- The lists that the environment names. -/
def loadLists (env : Environment) : Run Lists :=
  Lists.load ((env.lookup "PAC_FEED".toList).getD []) (env.value "PAC_USER_RULES".toList)
    (Settings.ofEnvironment env)

def build (env : Environment) : Run (Index × Text) := do
  let lists ← loadLists env
  let index := (← lists.collect).rules.index
  return (index, Script.render index (Settings.ofEnvironment env).placeholder (← get).now)

/-- Both parts are built anew if either is missing. -/
def load (env : Environment) (s : Service) : Run (Index × Text) :=
  match s.index, s.script with
  | some index, some script => return (index, script)
  | _, _ => build env

/-- A problem that aborts runs makes the feed unavailable; any other is an internal error. -/
def refused (env : Environment) (p : Problem) : Answer :=
  match p.exitCode? with
  | none => .page 500
  | some _ => .of 503 (.error (Failure.publicMessage (Failure.exposesDetails env)
      Failure.unavailable Failure.publicLimit (.ofProblem p)))

/-- Only a feed that is unavailable is noted here. -/
def noteOf (p : Problem) : List Entry :=
  match p.exitCode? with
  | none => []
  | some _ => [⟨.warning, .service, "PAC feed unavailable: ".toList ++ p.message⟩]

/-- An answer from the index and the script; a failed build leaves the service as it was. -/
def withBuilt (env : Environment) (answer : Index → Text → Answer) (s : Service) (scene : Scene) :
    Answer × Service × Scene :=
  match (s.load env).run scene with
  | (.ok (index, script), scene) => (answer index script, ⟨some index, some script⟩, scene)
  | (.error p, scene) => (refused env p, s, { scene with log := scene.log ++ noteOf p })

/-- The script with the chain of this request for the placeholder of this request. -/
def scriptAnswer (env : Environment) (script : Text) : Answer :=
  let placeholder := (Settings.ofEnvironment env).placeholder
  .of 200 (.text scriptType (Script.substitute placeholder (chain env) script))

def sizes (i : Index) : List (Category × Nat) := Category.all.map fun c => (c, (i.get c).length)

/-- The first host of the query, trimmed. -/
def hostOf (q : Request) : Text := Text.trim ((q.query.lookup "host".toList).getD [])

def get (env : Environment) (route : Route) (q : Request) (s : Service) (scene : Scene) :
    Answer × Service × Scene :=
  match route with
  | .script => s.withBuilt env (fun _ script => scriptAnswer env script) scene
  | .autodiscovery =>
    let (a, s, scene) := s.withBuilt env (fun _ script => scriptAnswer env script) scene
    let disposition := "inline; filename=\"wpad.dat\"".toList
    (if a.status = 200 then { a with disposition := some disposition } else a, s, scene)
  | .classify =>
    let host := hostOf q
    if host.isEmpty then (.of 400 (.error "host is required".toList), s, scene)
    else s.withBuilt env (fun index _ => .of 200 (.decision host (index.decide host))) scene
  | .stats => s.withBuilt env (fun index _ => .of 200 (.sizes (sizes index))) scene
  | .health => (.of 200 (.text plainType "ok".toList), s, scene)
  | .asset => (.page 404, s, scene)

/-- Every route can be read, its head alone can be asked for, and its methods. -/
def respond (env : Environment) (q : Request) (s : Service) (scene : Scene) :
    Answer × Service × Scene :=
  match Route.find q.path, Method.ofName? q.method with
  | .missing, _ => (.page 404, s, scene)
  | _, none => (.page 405, s, scene)
  | .moved, some _ => (.page 308, s, scene)
  | .found route, some .get => s.get env route q scene
  | .found route, some .head =>
    let (a, s, scene) := s.get env route q scene
    (a.headOnly, s, scene)
  | .found _, some .options => (.page 200, s, scene)

end Service

end AutoProxy
