import AutoProxy.Environment
import AutoProxy.Text.Integer

/-! Settings of a run and where they come from. -/
namespace AutoProxy

/-- A decimal number of seconds: the mantissa shifted right by so many decimal places. -/
structure Seconds where
  mantissa : Int
  places : Nat
  deriving DecidableEq

/-- No proxy means that feeds are fetched directly. -/
structure Settings where
  feedUrl : Text
  proxy : Option Text
  placeholder : Text
  timeout : Seconds
  maxBytes : Int
  deriving DecidableEq

namespace Settings

def standard : Settings where
  feedUrl := "https://raw.githubusercontent.com/gfwlist/gfwlist/master/gfwlist.txt".toList
  proxy := some "socks5://127.0.0.1:1080".toList
  placeholder := "__PROXY__".toList
  timeout := ⟨30, 0⟩
  maxBytes := 16 * 1024 * 1024

/-- The first that is not blank wins. -/
def proxyNames : List Text :=
  ["HTTPS_PROXY", "HTTP_PROXY", "ALL_PROXY", "https_proxy", "http_proxy", "all_proxy"].map
    String.toList

def proxyFrom (env : Environment) : Option Text := proxyNames.findSome? env.value?

/-- A proxy that is given but blank asks for a direct connection. -/
def resolveProxy (given : Option Text) (env : Environment) : Option Text :=
  match given with
  | some p => if Text.isAllBlank p then none else some (Text.trim p)
  | none => (proxyFrom env).or standard.proxy

/-- A value that is no integer literal, or not positive, counts as missing. -/
def integerFrom (env : Environment) (name : Text) (default : Int) : Int :=
  match Integer.ofText (env.value name) with
  | .ok n => if 0 < n then n else default
  | .error _ => default

def ofEnvironment (env : Environment) : Settings where
  feedUrl := (env.value? "GFWLIST_URL".toList).getD standard.feedUrl
  proxy := resolveProxy none env
  placeholder := (env.value? "PAC_PLACEHOLDER".toList).getD standard.placeholder
  timeout := ⟨integerFrom env "GFWLIST_DOWNLOAD_TIMEOUT".toList standard.timeout.mantissa, 0⟩
  maxBytes := integerFrom env "GFWLIST_MAX_DOWNLOAD_BYTES".toList standard.maxBytes

end Settings

end AutoProxy
