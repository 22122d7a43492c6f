import AutoProxy.Index
import AutoProxy.Json
import AutoProxy.Script.Body
import AutoProxy.Timestamp

/-! Scripts that carry an index and answer which proxy a host is reached through. -/
namespace AutoProxy.Script

def declaration (name value : Text) : Text :=
  "var ".toList ++ name ++ " = ".toList ++ value ++ [';']

/-- The proxy that the script answers with, as one of its lines. -/
def proxyLine (proxy : Text) : Text := declaration "proxy".toList (Json.string proxy)

/-- The comments that no index changes. -/
def notes (placeholder : Text) (time : Timestamp) : List Text :=
  [ "// PAC file generated by gfwpac".toList,
    "// Generated at: ".toList ++ time.toText,
    "// Replace ".toList ++ placeholder
      ++ " with your proxy server, e.g.: SOCKS5 127.0.0.1:1080; DIRECT".toList ]

def countLine (block whitelist : Nat) : Text :=
  "// Regex rules not evaluated: ".toList ++ Text.ofNat block ++ " block, ".toList
    ++ Text.ofNat whitelist ++ " whitelist".toList

/-- The expressions of the index are counted in the head and left out of the rest. -/
def counted (i : Index) : List Text :=
  if i.regexBlock.isEmpty && i.regexWhitelist.isEmpty then []
  else [countLine i.regexBlock.length i.regexWhitelist.length]

def head (i : Index) (placeholder : Text) (time : Timestamp) : List Text :=
  notes placeholder time ++ counted i

def tables (i : Index) : List Text :=
  [ declaration "exactDomains".toList (Json.table i.exactBlock.toList),
    declaration "whiteExactDomains".toList (Json.table i.exactWhitelist.toList),
    declaration "domainSuffixes".toList (Json.table i.suffixBlock.toList),
    declaration "whiteDomainSuffixes".toList (Json.table i.suffixWhitelist.toList),
    declaration "keywords".toList (Json.array i.keywords) ]

/-- The lines behind the one that declares the proxy. -/
def tail (i : Index) : List Text :=
  ["var direct = \"DIRECT\";".toList, []] ++ tables i ++ [] :: body

/-- Each line with a line feed behind it. -/
def unlines (ls : List Text) : Text := ls.flatMap (· ++ ['\n'])

/-- The placeholder stands in the head as it is, and as the proxy. -/
def render (i : Index) (placeholder : Text) (time : Timestamp) : Text :=
  unlines (head i placeholder time ++ [] :: proxyLine placeholder :: tail i)

/-- The first place that declares the placeholder as the proxy declares the chain. -/
def substitute (placeholder chain script : Text) : Text :=
  Text.replaceFirst (proxyLine placeholder) (proxyLine chain) script

end AutoProxy.Script
