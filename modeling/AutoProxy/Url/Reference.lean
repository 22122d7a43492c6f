import AutoProxy.Address
import AutoProxy.Text.Quoted

/-! References to places on the web, taken apart but not judged. -/
namespace AutoProxy

namespace Reference

inductive Fault where
  | misplacedBracket
  | futureAddress
  | notAnAddress (host : Text)
  | shortAddress
  | compatibility (authority : Text)
  deriving DecidableEq

def isSchemeChar (c : Char) : Bool := c.isAlphanum || c = '+' || c = '-' || c = '.'

/-- Controls and blanks before the reference do not count, tabs and line ends nowhere. -/
def tidy (t : Text) : Text :=
  (t.dropWhile (·.toNat ≤ 0x20)).filter fun c => c ≠ '\t' && c ≠ '\r' && c ≠ '\n'

/-- The scheme in lower case, empty if there is none, and what follows it. -/
def scheme (t : Text) : Text × Text :=
  match t.takeWhile isSchemeChar, t.dropWhile isSchemeChar with
  | c :: s, ':' :: rest => if c.isAlpha then ((c :: s).map Char.toLower, rest) else ([], t)
  | _, _ => ([], t)

/-- What two slashes introduce, up to the path, the query or the fragment. -/
def authority : Text → Text
  | '/' :: '/' :: t => t.takeWhile fun c => c ≠ '/' && c ≠ '?' && c ≠ '#'
  | _ => []

/-- Characters that stand for a text with a delimiter in it. -/
def hidesDelimiter (c : Char) : Bool :=
  let n := c.toNat
  (0x2047 ≤ n && n ≤ 0x2049) || n = 0x2100 || n = 0x2101 || n = 0x2105 || n = 0x2106 || n = 0x2A74
    || n = 0xFE13 || n = 0xFE16 || n = 0xFE55 || n = 0xFE56 || n = 0xFE5F || n = 0xFE6B
    || n = 0xFF03 || n = 0xFF0F || n = 0xFF1A || n = 0xFF1F || n = 0xFF20

/-- An address of the future names its version in hexadecimal digits before a dot. -/
def isFutureAddress (t : Text) : Bool :=
  match (t.drop 1).takeWhile Address.isHexDigit, (t.drop 1).dropWhile Address.isHexDigit with
  | _ :: _, '.' :: _ :: _ => true
  | _, _ => false

/-- What brackets hold is an address. -/
def checkBracketed (host : Text) : Except Fault Unit :=
  if host.head? = some 'v' then if isFutureAddress host then .ok () else .error .futureAddress
  else if (Address.ofText? host).isSome then .error .shortAddress
  else if Address.isLongScoped host then .ok ()
  else .error (.notAnAddress host)

/-- Behind the last at-sign, brackets stand at the front, and only a colon follows them. Where they
stand before it, the host is looked at as if it were in them. -/
def checkBrackets (a : Text) : Except Fault Unit :=
  let host := (a.reverse.takeWhile (· ≠ '@')).reverse
  match host with
  | '[' :: inner =>
    match (inner.dropWhile (· ≠ ']')).drop 1 with
    | [] | ':' :: _ => checkBracketed (inner.takeWhile (· ≠ ']'))
    | _ => .error .misplacedBracket
  | _ =>
    if host.contains '[' then .error .misplacedBracket
    else checkBracketed (host.takeWhile (· ≠ ':'))

/-- Brackets come in pairs, and no character hides a delimiter. -/
def checkAuthority (a : Text) : Except Fault Unit := do
  if a.contains '[' != a.contains ']' then throw .misplacedBracket
  if a.contains '[' then checkBrackets a
  if a.any hidesDelimiter then throw (.compatibility a)

/-- The parts of a reference; one that is missing is empty. -/
structure Parts where
  scheme : Text
  authority : Text
  path : Text
  query : Text
  fragment : Text
  deriving DecidableEq

/-- Of the parts, only the authority is looked at more closely. -/
def split (t : Text) : Except Fault Parts := do
  let (scheme, rest) := scheme (tidy t)
  let a := authority rest
  checkAuthority a
  let rest := if "//".toList.isPrefixOf rest then rest.drop (2 + a.length) else rest
  let before := Text.beforeFirst '#' rest
  return {
    scheme
    authority := a
    path := Text.beforeFirst '?' before
    query := (Text.afterFirst? '?' before).getD []
    fragment := (Text.afterFirst? '#' rest).getD [] }

/-- Whether the text is an address of the web. -/
def isWeb (t : Text) : Except Fault Bool := do
  let p ← split t
  return p.scheme = "http".toList || p.scheme = "https".toList

def Fault.message : Fault → Text
  | .misplacedBracket => "Invalid IPv6 URL".toList
  | .futureAddress => "IPvFuture address is invalid".toList
  | .notAnAddress host => Text.quote host ++ " does not appear to be an IPv4 or IPv6 address".toList
  | .shortAddress => "An IPv4 address cannot be in brackets".toList
  | .compatibility authority =>
    "netloc '".toList ++ authority
      ++ "' contains invalid characters under NFKC normalization".toList

end Reference

end AutoProxy
