import AutoProxy.Text.Basic
import AutoProxy.Text.Quoted

/-! Rules and the text that stands for them. -/
namespace AutoProxy

/-- `exact` names one host, `suffix` a domain with all below it, `keyword` a part of a host. -/
inductive Kind where
  | exact
  | suffix
  | keyword
  | regex
  deriving DecidableEq

def Kind.name : Kind → Text
  | .exact => "exact".toList
  | .suffix => "suffix".toList
  | .keyword => "keyword".toList
  | .regex => "regex".toList

def Kind.ofName? (t : Text) : Option Kind :=
  [Kind.exact, .suffix, .keyword, .regex].find? (·.name = t)

/-- What is said of a name that no kind has. -/
def Kind.unknown (name : Text) : Text := "Unknown rule kind: ".toList ++ Text.quote name

/-- A whitelist rule takes hosts out of what the other rules send through the proxy. -/
structure Rule where
  kind : Kind
  value : Text
  whitelist : Bool
  deriving DecidableEq

namespace Rule

def marker : Text := "@@".toList

def body (r : Rule) : Text :=
  match r.kind with
  | .regex => '/' :: r.value ++ ['/']
  | .suffix => '|' :: '|' :: r.value
  | .exact => "|http://".toList ++ r.value
  | .keyword => r.value

def format (r : Rule) : Text := if r.whitelist then marker ++ r.body else r.body

end Rule

theorem Kind.ofName?_name (k : Kind) : Kind.ofName? k.name = some k := by
  cases k <;> decide

end AutoProxy
