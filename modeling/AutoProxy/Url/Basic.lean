import AutoProxy.Hostname.Basic
import AutoProxy.Text.Integer
import AutoProxy.Text.Lower
import AutoProxy.Url.Escape
import AutoProxy.Url.Reference

/-! Addresses of requests in their normal form. -/
namespace AutoProxy

structure Url where
  scheme : Text
  userinfo : Text
  host : Text
  portNumber : Option Int
  path : Text
  query : Option Text
  fragment : Option Text
  deriving DecidableEq

namespace Url

/-- The parts of an address as delimiters set them apart. -/
inductive Part where
  | scheme
  | authority
  | path
  | query
  | fragment
  deriving DecidableEq

/-- The texts of the parts, each with its delimiter left out. -/
structure Parts where
  scheme : Text
  authority : Text
  path : Text
  query : Option Text
  fragment : Option Text
  deriving DecidableEq

inductive Fault where
  | tooLong (part : Option Part)
  | control (part : Option Part) (c : Char) (position : Nat)
  | portNumber (t : Text)
  | shortAddress (t : Text)
  | longAddress (t : Text)
  | hostname (t : Text)
  | pathBesideHost
  | doubledSlash
  | leadingColon
  deriving DecidableEq

def maxLength : Nat := 65536

/-- Four runs of digits between dots. -/
def isNumberRow (t : Text) : Bool :=
  let runs := Text.split (· = '.') t
  runs.length = 4 && runs.all fun r => !r.isEmpty && r.all Char.isDigit

def normalHost (t : Text) : Except Fault Text :=
  if isNumberRow t then if (Address.ofText? t).isSome then .ok t else .error (.shortAddress t)
  else if t.head? = some '[' && t.getLast? = some ']' then
    let inner := (t.drop 1).dropLast
    if Address.isLongScoped inner then .ok inner else .error (.longAddress t)
  else if Hostname.isAscii t then .ok (escape safeInHost (t.map Char.toLower))
  else
    match Hostname.toAscii (Text.lower t) with
    | .ok name => .ok name
    | .error _ => .error (.hostname t)

def usualPort (scheme : Text) : Option Int :=
  ["ftp", "http", "https", "ws", "wss"].map String.toList |>.zip [21, 80, 443, 80, 443]
    |>.lookup scheme

def normalPort (scheme t : Text) : Except Fault (Option Int) :=
  if t.isEmpty then .ok none
  else
    match Integer.ofText t with
    | .ok n => .ok (if some n = usualPort scheme then none else some n)
    | .error _ => .error (.portNumber t)

def dropSegment (done : List Text) : List Text :=
  if done = [] || done = [[]] then done else done.dropLast

/-- Segments of dots are worked off from the front. -/
def normalPath (t : Text) : Text :=
  Text.join ['/'] <| (Text.split (· = '/') t).foldl
    (fun done s =>
      if s = ['.'] then done else if s = ['.', '.'] then dropSegment done else done ++ [s])
    []

def splitAuthority : Text → Text × Text
  | '/' :: '/' :: t =>
    let stops c := c = '/' || c = '?' || c = '#'
    (t.takeWhile (!stops ·), t.dropWhile (!stops ·))
  | t => ([], t)

/-- What stands before the last at-sign, and what follows it. -/
def splitUserinfo (t : Text) : Text × Text :=
  match Text.afterFirst? '@' t.reverse with
  | some rest => (rest.reverse, (Text.beforeFirst '@' t.reverse).reverse)
  | none => ([], t)

/-- A host in brackets reaches to the last of them; any other ends at a colon. -/
def splitHost (t : Text) : Text × Text :=
  match t, Text.afterFirst? ']' t.reverse with
  | '[' :: _, some rest => (rest.reverse ++ [']'], (Text.beforeFirst ']' t.reverse).reverse)
  | _, _ => (Text.beforeFirst ':' t, t.dropWhile (· ≠ ':'))

def splitScheme (t : Text) : Text × Text :=
  match t.takeWhile Reference.isSchemeChar, t.dropWhile Reference.isSchemeChar with
  | [], ':' :: rest => ([], rest)
  | c :: s, ':' :: rest => if c.isAlpha then (c :: s, rest) else ([], t)
  | _, _ => ([], t)

def Parts.ofText (t : Text) : Parts :=
  let (scheme, rest) := splitScheme t
  let (authority, rest) := splitAuthority rest
  let path := rest.takeWhile fun c => c ≠ '?' && c ≠ '#'
  { scheme
    authority
    path
    query := match rest.drop path.length with
      | '?' :: q => some (Text.beforeFirst '#' q)
      | _ => none
    fragment := Text.afterFirst? '#' rest }

/-- Which paths may stand beside a scheme and a host, or without both. -/
def checkPath (hasScheme hasHost : Bool) (path : Text) : Except Fault Unit :=
  if hasHost && !path.isEmpty && path.head? ≠ some '/' then .error .pathBesideHost
  else if !hasScheme && !hasHost && "//".toList.isPrefixOf path then .error .doubledSlash
  else if !hasScheme && !hasHost && path.head? = some ':' then .error .leadingColon
  else .ok ()

/-- Each part in its normal form. -/
def ofParts (p : Parts) : Except Fault Url := do
  let (userinfo, authority) := splitUserinfo p.authority
  let (host, after) := splitHost authority
  let userinfo := escape safeInUserinfo userinfo
  let host ← normalHost host
  let portNumber ← normalPort p.scheme (if after.head? = some ':' then after.drop 1 else after)
  let hasHost := !userinfo.isEmpty || !host.isEmpty || portNumber.isSome
  checkPath (!p.scheme.isEmpty) hasHost p.path
  let path := if p.scheme.isEmpty && !hasHost then p.path else normalPath p.path
  return {
    scheme := p.scheme.map Char.toLower
    userinfo
    host
    portNumber
    path := escape safeInPath path
    query := p.query.map (escape safeInQuery)
    fragment := p.fragment.map (escape safeInFragment) }

def isControl (c : Char) : Bool := c.toNat < 0x20 || c.toNat = 0x7F

/-- A text is not too long and has no controls. -/
def checkText (part : Option Part) (t : Text) : Except Fault Unit :=
  if maxLength < t.length then .error (.tooLong part)
  else
    match t.find? isControl with
    | some c => .error (.control part c (t.takeWhile (!isControl ·)).length)
    | none => .ok ()

def ofText (t : Text) : Except Fault Url := do
  checkText none t
  ofParts (.ofText t)

def Parts.check (p : Parts) : Except Fault Unit := do
  checkText (some .scheme) p.scheme
  checkText (some .authority) p.authority
  checkText (some .path) p.path
  checkText (some .query) (p.query.getD [])
  checkText (some .fragment) (p.fragment.getD [])

/-- An address from parts that were put together anew. -/
def revised (p : Parts) : Except Fault Url := do
  p.check
  ofParts p

def authority (u : Url) : Text :=
  (if u.userinfo.isEmpty then [] else u.userinfo ++ ['@'])
    ++ (if u.host.contains ':' then '[' :: u.host ++ [']'] else u.host)
    ++ match u.portNumber with
      | some n => ':' :: Text.ofInt n
      | none => []

def toParts (u : Url) : Parts := ⟨u.scheme, u.authority, u.path, u.query, u.fragment⟩

def withHost (u : Url) (host : Text) : Except Fault Url := revised { u with host }.toParts

def withFragment (u : Url) (fragment : Text) : Except Fault Url :=
  revised { u.toParts with fragment := some fragment }

def toText (u : Url) : Text :=
  let a := u.authority
  (if u.scheme.isEmpty then [] else u.scheme ++ [':'])
    ++ (if a.isEmpty then [] else '/' :: '/' :: a)
    ++ u.path
    ++ (match u.query with
      | some q => '?' :: q
      | none => [])
    ++ match u.fragment with
      | some f => '#' :: f
      | none => []

def isAbsolute (u : Url) : Bool := !u.scheme.isEmpty && !u.host.isEmpty

/-- The host as it is shown: a name whose first label is encoded is read. -/
def displayedHost (u : Url) : Except Hostname.Fault Text :=
  if Hostname.marker.isPrefixOf u.host then Hostname.ofAscii u.host else .ok u.host

/-- What a request goes to. An address without scheme or host keeps its path and query alone. -/
def ofRequest (t : Text) : Except Fault Url := do
  let u ← ofText t
  if u.isAbsolute then return u
  revised ⟨[], [], '/' :: u.path.dropWhile (· = '/'), u.query, none⟩

/-- Whether the text of an address begins with a scheme, for readers who ask for no more than a
colon before the first slash and leave out what follows the last number sign. -/
def namesScheme (t : Text) : Bool :=
  let t := match Text.afterFirst? '#' t.reverse with
    | some before => before.reverse
    | none => t
  match t.takeWhile (fun c => c ≠ '/' && c ≠ ':'), t.dropWhile (fun c => c ≠ '/' && c ≠ ':') with
  | _ :: _, ':' :: _ => true
  | _, _ => false

def Part.name : Part → String
  | .scheme => "scheme"
  | .authority => "authority"
  | .path => "path"
  | .query => "query"
  | .fragment => "fragment"

def Fault.message : Fault → Text
  | .tooLong none => "URL too long".toList
  | .tooLong (some part) => "URL component '".toList ++ part.name.toList ++ "' too long".toList
  | .control part c position =>
    let place := match part with
      | some part => ' ' :: part.name.toList ++ " component".toList
      | none => []
    "Invalid non-printable ASCII character in URL".toList ++ place ++ ", ".toList
      ++ Text.quote [c] ++ " at position ".toList ++ Text.ofNat position ++ ['.']
  | .portNumber t => "Invalid port: ".toList ++ Text.quote t
  | .shortAddress t => "Invalid IPv4 address: ".toList ++ Text.quote t
  | .longAddress t => "Invalid IPv6 address: ".toList ++ Text.quote t
  | .hostname t => "Invalid IDNA hostname: ".toList ++ Text.quote t
  | .pathBesideHost => "For absolute URLs, path must be empty or begin with '/'".toList
  | .doubledSlash => "Relative URLs cannot have a path starting with '//'".toList
  | .leadingColon => "Relative URLs cannot have a path starting with ':'".toList

end Url

end AutoProxy
