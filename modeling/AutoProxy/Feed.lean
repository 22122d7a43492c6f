import AutoProxy.Scene
import AutoProxy.Text.Lines

/-! Getting lists from the network and from files. -/
namespace AutoProxy

namespace Feed

def isWeb (source : Text) : Run Bool := Run.liftFault .reference (Reference.isWeb source)

/-- The text of a list, decoded if it looks encoded. -/
def decodeIfEncoded (note text : Text) : Run Text := do
  if Base64.looksEncoded text then
    Run.log .info .feed note
    Run.liftFault .decoding (Base64.decodeText text)
  else return text

def transportProblem {α : Type} (url message : Text) : Run α := do
  Run.log .error .feed ("Feed download failed (url=".toList ++ url ++ [')'])
  throw (.download (.transport message))

def announce (url : Text) (proxy : Option Text) : Run Unit := do
  Run.log .info .feed ("Downloading feed from ".toList ++ url)
  if let some p := proxy.filter (!·.isEmpty) then Run.log .info .feed ("Using proxy ".toList ++ p)

/-- A failed request is logged and reported; any other fault is handed on as it is. -/
def httpProblem {α : Type} (url : Text) : Http.Fault → Run α
  | .request message => transportProblem url message
  | .other cause => throw (.library cause)

/-- A proxy is not used with a transport of the caller's own, nor is an empty one. -/
def clientFor (proxy : Option Text) (timeout : Seconds) (ownTransport : Bool) : Client :=
  ⟨ownTransport, if ownTransport then none else proxy.filter (!·.isEmpty), timeout⟩

def openClient (url : Text) (client : Client) : Run Unit := do
  let scene ← get
  set { scene with clients := scene.clients ++ [client] }
  match scene.http.make client with
  | .ok () => return
  | .error e => httpProblem url e

/-- The final response. -/
def request (url : Text) (client : Client) : Run Response := do
  let scene ← get
  let x := scene.http.ask client url scene.replies
  set { scene with replies := x.left, asked := scene.asked ++ x.asked }
  match x.result with
  | .ok r => return r
  | .error e => httpProblem url e

/-- A length that is declared in digits must not be above the limit. -/
def checkLength (limit : Int) (r : Response) : Run Unit := do
  match r.header? "Content-Length".toList with
  | none => return
  | some length =>
    if !length.isEmpty && length.all Text.isAnyDigit then
      let n ← Run.liftFault .length (Integer.ofText length)
      if limit < n then throw (.download (.declared length))

def readBody (url : Text) (limit : Int) (r : Response) : Run Bytes := do
  match Network.read limit r with
  | .ok bytes => return bytes
  | .error .limit => throw (.download (.limit limit))
  | .error (.failure message) => transportProblem url message

/-- The list that a response brings. -/
def receive (url : Text) (limit : Int) (r : Response) : Run Text := do
  if 400 ≤ r.status then throw (.download (.status r.status r.reason))
  checkLength limit r
  let bytes ← readBody url limit r
  Run.log .info .feed ("Downloaded ".toList ++ Text.ofNat bytes.length ++ " bytes".toList)
  decodeIfEncoded "Decoding base64 feed".toList (Utf8.decodeLossy bytes)

def exchange (url : Text) (limit : Int) (client : Client) : Run Text := do
  openClient url client
  receive url limit (← request url client)

/-- The list at a web address. -/
def download (url : Text) (proxy : Option Text) (timeout : Seconds) (limit : Int)
    (ownTransport : Bool) : Run Text := do
  if !(← isWeb url) then throw (.download .notWeb)
  announce url proxy
  exchange url limit (clientFor proxy timeout ownTransport)

/-- The text of a file, its line ends made line feeds. -/
def readText (role : Reading.Role) (path : Text) : Run Text := do
  let problem e := match e with
    | .nulInPath => .nulInPath
    | cause => .reading role path (.open cause)
  let bytes ← Run.liftFault problem ((← get).files.read path)
  let text ← Run.liftFault (.reading role path ∘ .notUtf8) (Utf8.decode bytes)
  return Text.unifyLineEnds text

/-- The list in a file. -/
def ofFile (path : Text) : Run Text := do
  Run.log .info .feed ("Reading local feed ".toList ++ path)
  decodeIfEncoded "Feed looks base64-encoded, decoding".toList (← readText .feed path)

/-- The lines of a file of user rules that are not blank. -/
def rulesOfFile (path : Text) : Run (List Text) := do
  Run.log .info .feed ("Reading user rules ".toList ++ path)
  return (Text.lines (← readText .userRules path)).filter (!Text.isAllBlank ·)

/-- A blank source means the address of the settings. -/
def sourceOf (source : Text) (settings : Settings) : Text :=
  match Text.trim source with
  | [] => settings.feedUrl
  | s => s

/-- The list at an address or in a file. -/
def fetch (source : Text) (settings : Settings) (ownTransport : Bool) : Run Text := do
  if ← isWeb source then
    download source settings.proxy settings.timeout settings.maxBytes ownTransport
  else ofFile source

def load (source : Text) (settings : Settings) (ownTransport : Bool) : Run Text :=
  fetch (sourceOf source settings) settings ownTransport

end Feed

end AutoProxy
