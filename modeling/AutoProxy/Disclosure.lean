import AutoProxy.Environment
import AutoProxy.Problem
import AutoProxy.Text.Clean
import AutoProxy.Text.Lower
import AutoProxy.Timestamp

/-! What the outside is told of a failure. -/
namespace AutoProxy

def Timestamp.Fault.family : Timestamp.Fault → Family
  | .beyondLong | .aboveInt | .belowInt | .offsetDays _ | .offsetBeyondInt => .overflow
  | _ => .value

def Problem.family : Problem → Family
  | .download _ => .download
  | .reading .. => .reading
  | .decoding _ => .decoding
  | .writing .. => .writing
  | .nulInPath | .reference _ | .length _ => .value
  | .library cause => cause.family
  | .proxyMissing => .operation
  | .outputMissing => .form

namespace Failure

def ofProblem (p : Problem) : Failure := ⟨p.family, p.message⟩

/-- A missing key is shown in quotation marks. -/
def text (f : Failure) : Text := if f.family = .key then Text.quote f.message else f.message

/-- Whether the environment asks for details. -/
def exposesDetails (env : Environment) : Bool :=
  ["1", "true", "yes", "on"].map String.toList |>.contains
    (Text.lower (env.value "EXPOSE_INTERNAL_ERRORS".toList))

def unavailable : Text := "Feed unavailable. Check server logs for details.".toList

def publicLimit : Int := 200

def orElse (default t : Text) : Text := if t.isEmpty then default else t

/-- All details if they are asked for, else the messages written for users, else the default. -/
def publicMessage (exposed : Bool) (default : Text) (limit : Int) (f : Failure) : Text :=
  if exposed then orElse default (Text.clean limit (f.family.name ++ ": ".toList ++ f.text))
  else if f.family.isForUsers then orElse default (Text.clean limit f.text)
  else default

end Failure

end AutoProxy
