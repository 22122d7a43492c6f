import AutoProxy.Address
import AutoProxy.Domain
import AutoProxy.Index
import AutoProxy.Text.Lower

/-! Whether a host is reached directly or through the proxy. -/
namespace AutoProxy

inductive Decision where
  | direct
  | proxy
  deriving DecidableEq

def Decision.name : Decision → Text
  | .direct => "DIRECT".toList
  | .proxy => "PROXY".toList

namespace Host

/-- Of a name in lower case: no dot, the ending `.local`, or an address of a local net. -/
def isLocalName (h : Text) : Bool :=
  !h.contains '.' || ".local".toList.isSuffixOf h
    || match Address.ofText? h with
      | some x => x.isLocal
      | none => false

def isLocal (host : Text) : Bool := isLocalName (Text.lower host)

/-- The host or a domain above it is in the set. -/
def isBelow (domains : TextSet) (h : Text) : Bool := (Domain.suffixes h).any domains.contains

end Host

/-- The whitelist comes first, however general its rule. -/
def Index.decideName (i : Index) (h : Text) : Decision :=
  if Host.isLocalName h then .direct
  else if i.exactWhitelist.contains h || Host.isBelow i.suffixWhitelist h then .direct
  else if i.exactBlock.contains h || Host.isBelow i.suffixBlock h then .proxy
  else if i.keywords.any (Text.occursIn · h) then .proxy
  else .direct

def Index.decide (i : Index) (host : Text) : Decision := i.decideName (Text.lower host)

end AutoProxy
