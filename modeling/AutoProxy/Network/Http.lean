import AutoProxy.Failure
import AutoProxy.Network.Reply
import AutoProxy.Settings

/-! The library that requests are made with, and the one whose network is a list of replies. -/
namespace AutoProxy

/-- How requests are made. A transport that the caller brings has a proxy of its own, or none. -/
structure Client where
  ownTransport : Bool
  proxy : Option Text
  timeout : Seconds
  deriving DecidableEq

namespace Http

/-- What is wrong instead of an answer: a request that failed, or any other failure, such as a proxy
or an address that the library does not accept. -/
inductive Fault where
  | request (message : Text)
  | other (cause : Failure)
  deriving DecidableEq

end Http

/-- A library for requests may refuse to make a client. What a client gets from an address is the
last response, redirects followed; where that depends on the network, it is given by the replies
still to come. -/
structure Http where
  make : Client → Except Http.Fault Unit
  ask : Client → Text → List Reply → Network.Exchange Http.Fault

def Hostname.Fault.family : Hostname.Fault → Family
  | .letter .. => .letter
  | .context .. => .context
  | .unknownDirection .. | .firstDirection _ | .direction .. | .mixedNumbers | .lastDirection =>
    .direction
  | _ => .hostname

namespace Http

/-- An address that nothing can be asked for is no failed request, except as the target that a
redirect names. -/
def Fault.ofNetwork : Network.Fault → Fault
  | .failure message => .request message
  | .tooManyRedirects => .request "Exceeded maximum allowed redirects.".toList
  | .location cause =>
    .request ("Invalid URL in location header: ".toList ++ cause.message ++ ['.'])
  | .url cause => .other ⟨.address, cause.message⟩
  | .reference cause => .other ⟨.value, cause.message⟩
  | .hostname cause => .other ⟨cause.family, cause.message⟩
  | .noScheme address =>
    let shown := if address.getLast? = some '#' then address.dropLast else address
    .other ⟨.value, "unknown url type: ".toList ++ Text.quote shown⟩

/-- Every client is made, for no proxy is ever used: the replies stand for what is behind it. -/
def scripted : Http where
  make _ := .ok ()
  ask _ address replies := (Network.ask address replies).mapFault .ofNetwork

end Http

end AutoProxy
