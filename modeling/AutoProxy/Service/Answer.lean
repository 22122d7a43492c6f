import AutoProxy.Decision
import AutoProxy.Service.Request

/-! What requests ask for, and the answers of the service. -/
namespace AutoProxy.Service

inductive Method where
  | get
  | head
  | options
  deriving DecidableEq

/-- The capital of a letter, if it is one of ASCII. -/
def capital (c : Char) : Char :=
  if c = 'ı' then 'I' else if c = 'ſ' then 'S' else c.toUpper

/-- Names are read in either case, but only the exact name asks for the head alone. -/
def Method.ofName? (name : Text) : Option Method :=
  let t := name.map capital
  if name = "HEAD".toList then some .head
  else if t = "GET".toList || t = "HEAD".toList then some .get
  else if t = "OPTIONS".toList then some .options
  else none

inductive Content where
  | text (mediaType body : Text)
  | error (message : Text)
  | decision (host : Text) (decision : Decision)
  | sizes (counts : List (Category × Nat))
  deriving DecidableEq

structure Answer where
  status : Nat
  content : Content
  disposition : Option Text
  deriving DecidableEq

def jsonType : Text := "application/json".toList

def htmlType : Text := "text/html; charset=utf-8".toList

def plainType : Text := "text/plain; charset=utf-8".toList

def scriptType : Text := "application/x-ns-proxy-autoconfig".toList

def Content.mediaType : Content → Text
  | .text mediaType _ => mediaType
  | .error _ | .decision .. | .sizes _ => jsonType

/-- What a request that asks for the head alone gets. -/
def Answer.headOnly (a : Answer) : Answer := { a with content := .text a.content.mediaType [] }

def Answer.of (status : Nat) (content : Content) : Answer := ⟨status, content, none⟩

/-- A page without a body of interest. -/
def Answer.page (status : Nat) : Answer := .of status (.text htmlType [])

inductive Route where
  | script
  | autodiscovery
  | classify
  | stats
  | health
  | asset
  deriving DecidableEq

inductive Match where
  | found (route : Route)
  | moved
  | missing
  deriving DecidableEq

namespace Route

def assetFolder : Text := "/static/".toList

/-- What names an asset: no slash first, and no line feed behind the first character. -/
def isAssetName : Text → Bool
  | [] => false
  | c :: t => c ≠ '/' && !t.contains '\n'

def ofPath? (path : Text) : Option Route :=
  if path = "/proxy.pac".toList then some .script
  else if path = "/wpad.dat".toList then some .autodiscovery
  else if path = "/api/classify".toList then some .classify
  else if path = "/api/stats".toList then some .stats
  else if path = "/healthz".toList then some .health
  else if (Text.after? assetFolder path).any isAssetName then some .asset
  else none

/-- Each two slashes count as one. -/
def mergeSlashes : Text → Text
  | '/' :: '/' :: t => '/' :: mergeSlashes t
  | c :: t => c :: mergeSlashes t
  | [] => []

/-- A path with slashes too many has moved to the one without. -/
def find (path : Text) : Match :=
  match ofPath? path with
  | some r => .found r
  | none =>
    match ofPath? (mergeSlashes path) with
    | some _ => .moved
    | none => .missing

end Route

end AutoProxy.Service
