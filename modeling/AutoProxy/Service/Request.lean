import AutoProxy.Url.Query
import AutoProxy.Url.Reference

/-! Requests to the service, with the path and the query that their targets stand for. -/
namespace AutoProxy.Service

/-- A request with its query decoded, in the order it came. -/
structure Request where
  method : Text
  path : Text
  query : List (Text × Text)
  deriving DecidableEq

namespace Request

inductive Fault where
  | target (cause : Reference.Fault)
  | secondQuery
  deriving DecidableEq

/-- The path in plain characters. Two schemes with their hosts may stand before it and do not count;
a host that follows them begins the path. -/
def pathOf (target : Text) : Except Reference.Fault Text := do
  let outer ← Reference.split target
  let inner ← Reference.split outer.path
  let last ← Reference.split inner.path
  let path :=
    if last.scheme.isEmpty then last.authority.map Char.toLower ++ last.path else inner.path
  return '/' :: (Url.unescape path).dropWhile (· = '/')

/-- The target of a request may hold a query unless there is one beside it. -/
def ofTarget (method target : Text) (query : List (Text × Text)) : Except Fault Request :=
  match Reference.split target, pathOf target with
  | .error e, _ | _, .error e => .error (.target e)
  | .ok parts, .ok path =>
    if query.isEmpty then .ok ⟨method, path, Url.Query.pairs parts.query⟩
    else if parts.query.isEmpty then .ok ⟨method, path, query⟩
    else .error .secondQuery

def Fault.message : Fault → Text
  | .target cause => cause.message
  | .secondQuery => "Query string is defined in the path and as an argument".toList

end Request

end AutoProxy.Service
