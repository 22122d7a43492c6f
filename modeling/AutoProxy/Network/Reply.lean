import AutoProxy.Network.Coding
import AutoProxy.Url.Redirect

/-! Answers of the network, following redirects, and reading a body within a limit. -/
namespace AutoProxy

/-- A piece of a body, or the failure that ends it. -/
inductive Chunk where
  | data (bytes : Bytes)
  | failure (message : Text)
  deriving DecidableEq

structure Response where
  status : Nat
  headers : List (Text × Text)
  chunks : List Chunk
  deriving DecidableEq

/-- What a request gets: a response, or a failure before any. -/
inductive Reply where
  | failure (message : Text)
  | response (r : Response)
  deriving DecidableEq

namespace Response

/-- The values given under a name in any case, joined by commas. -/
def header? (r : Response) (name : Text) : Option Text :=
  match r.headers.filter fun (n, _) => n.map Char.toLower = name.map Char.toLower with
  | [] => none
  | found => some (Text.join [',', ' '] (found.map (·.2)))

/-- The target of a redirect, as the response gives it. -/
def location? (r : Response) : Option Text :=
  if r.status = 301 || r.status = 302 || r.status = 303 || r.status = 307 || r.status = 308 then
    r.header? "Location".toList
  else none

def reasons : List (Nat × String) :=
  [ (400, "Bad Request"), (401, "Unauthorized"), (402, "Payment Required"), (403, "Forbidden"),
    (404, "Not Found"), (405, "Method Not Allowed"), (406, "Not Acceptable"),
    (407, "Proxy Authentication Required"), (408, "Request Timeout"), (409, "Conflict"),
    (410, "Gone"), (411, "Length Required"), (412, "Precondition Failed"),
    (413, "Request Entity Too Large"), (414, "Request-URI Too Long"),
    (415, "Unsupported Media Type"), (416, "Requested Range Not Satisfiable"),
    (417, "Expectation Failed"), (418, "I'm a teapot"), (421, "Misdirected Request"),
    (422, "Unprocessable Entity"), (423, "Locked"), (424, "Failed Dependency"),
    (425, "Too Early"), (426, "Upgrade Required"), (428, "Precondition Required"),
    (429, "Too Many Requests"), (431, "Request Header Fields Too Large"),
    (451, "Unavailable For Legal Reasons"), (500, "Internal Server Error"),
    (501, "Not Implemented"), (502, "Bad Gateway"), (503, "Service Unavailable"),
    (504, "Gateway Timeout"), (505, "HTTP Version Not Supported"),
    (506, "Variant Also Negotiates"), (507, "Insufficient Storage"), (508, "Loop Detected"),
    (510, "Not Extended"), (511, "Network Authentication Required") ]

/-- Empty for a status without a phrase of its own. -/
def reason (r : Response) : Text := ((reasons.lookup r.status).getD "").toList

/-- What undoes the codings of the body. -/
def decoders (r : Response) : List Decoder :=
  Coding.decoders (Coding.ofNames ((r.header? "Content-Encoding".toList).getD []))

end Response

namespace Network

inductive BodyFault where
  | limit
  | failure (message : Text)
  deriving DecidableEq

/-- The body behind `total` bytes. A limit is looked at after each piece that brings something. -/
def readFrom (limit : Option Int) (total : Nat) (ds : List Decoder) :
    List Chunk → Except BodyFault Bytes
  | [] => .ok []
  | .failure message :: _ => .error (.failure message)
  | .data bytes :: chunks =>
    if bytes.isEmpty then readFrom limit total ds chunks
    else
      match Decoder.pushAll bytes ds with
      | .error e => .error (.failure e.message)
      | .ok (piece, ds) =>
        let total := total + piece.length
        if !piece.isEmpty && limit.any (· < (total : Int)) then .error .limit
        else
          match readFrom limit total ds chunks with
          | .ok rest => .ok (piece ++ rest)
          | .error e => .error e

/-- A body of more bytes than the limit is refused. -/
def read (limit : Int) (r : Response) : Except BodyFault Bytes :=
  readFrom (some limit) 0 r.decoders r.chunks

/-- The failure that a body runs into, however long it is. -/
def failure? (r : Response) : Option Text :=
  match readFrom none 0 r.decoders r.chunks with
  | .error (.failure message) => some message
  | _ => none

inductive Fault where
  | failure (message : Text)
  | tooManyRedirects
  | location (cause : Url.Fault)
  | url (cause : Url.Fault)
  | reference (cause : Reference.Fault)
  | hostname (cause : Hostname.Fault)
  | noScheme (address : Text)
  deriving DecidableEq

def ofRedirectFault : Url.RedirectFault → Fault
  | .location cause => .location cause
  | .url cause => .url cause
  | .reference cause => .reference cause
  | .hostname cause => .hostname cause

def maxRedirects : Nat := 20

/-- The addresses asked, the replies left over, and the last response. -/
structure Exchange (ε : Type) where
  asked : List Text
  left : List Reply
  result : Except ε Response

namespace Exchange

variable {ε ε' : Type}

/-- Nothing was asked. -/
def refused (e : ε) (replies : List Reply) : Exchange ε := ⟨[], replies, .error e⟩

def behind (address : Text) (x : Exchange ε) : Exchange ε :=
  { x with asked := address :: x.asked }

def mapFault (f : ε → ε') (x : Exchange ε) : Exchange ε' :=
  ⟨x.asked, x.left, x.result.mapError f⟩

end Exchange

/-- What a response asks for next, nothing if it is the last one. The scheme of the address asked is
looked at first. A target is worked out before the body of a redirect is read. -/
def next? (url : Url) (r : Response) : Except Fault (Option Url) :=
  if !Url.namesScheme url.toText then .error (.noScheme url.toText)
  else
    match r.location? with
    | none => .ok none
    | some location =>
      match url.redirect location, failure? r with
      | .error e, _ => .error (ofRedirectFault e)
      | .ok _, some message => .error (.failure message)
      | .ok next, none => .ok (some next)

/-- Asks for an address and follows up to `hops` redirects. -/
def follow : Nat → Url → List Reply → Exchange Fault
  | _, url, [] => ⟨[url.toText], [], .error (.failure "connection refused".toList)⟩
  | _, url, .failure message :: left => ⟨[url.toText], left, .error (.failure message)⟩
  | hops, url, .response r :: left =>
    match next? url r, hops with
    | .error e, _ => ⟨[url.toText], left, .error e⟩
    | .ok none, _ => ⟨[url.toText], left, .ok r⟩
    | .ok (some _), 0 => ⟨[url.toText], left, .error .tooManyRedirects⟩
    | .ok (some next), hops + 1 => (follow hops next left).behind url.toText

/-- An address is looked at before anything is asked for. -/
def ask (address : Text) (replies : List Reply) : Exchange Fault :=
  match Url.ofRequest address with
  | .error cause => .refused (.url cause) replies
  | .ok url =>
    match url.displayedHost with
    | .error cause => .refused (.hostname cause) replies
    | .ok _ => follow maxRedirects url replies

end Network

end AutoProxy
