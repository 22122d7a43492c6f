import AutoProxy.Domain
import AutoProxy.Rule.Basic
import AutoProxy.Text.Blank

/-! Reading the lines of a rule list. -/
namespace AutoProxy

inductive LineClass where
  | blank
  | comment
  | candidate
  deriving DecidableEq

/-- A comment starts with an exclamation mark, a section header with a bracket. -/
def LineClass.of (line : Text) : LineClass :=
  match Text.trim line with
  | [] => .blank
  | c :: _ => if c = '!' || c = '[' then .comment else .candidate

namespace Rule

/-- The host part of an anchor ends at the first slash or caret. -/
def anchoredHost (t : Text) : Text := t.takeWhile fun c => c ≠ '/' && c ≠ '^'

/-- A letter of a scheme in either case. The long s is a case of s. -/
def isSchemeLetter (letter c : Char) : Bool := c.toLower = letter || (letter = 's' && c = '\u017F')

/-- What follows `word` in whatever case. -/
def afterWord? : Text → Text → Option Text
  | [], t => some t
  | _ :: _, [] => none
  | a :: word, c :: t => if isSchemeLetter a c then afterWord? word t else none

/-- What follows the scheme of a web address and its two slashes. -/
def afterScheme? (t : Text) : Option Text := do
  let t ← afterWord? "http".toList t
  (afterWord? "s://".toList t).orElse fun _ => Text.after? "://".toList t

def hostRule? (kind : Kind) (whitelist : Bool) (host : Text) : Option Rule :=
  if Domain.isValid host then some ⟨kind, Domain.lower host, whitelist⟩ else none

/-- A leading wildcard label is passed over. -/
def withoutWildcard : Text → Text
  | '*' :: '.' :: t => t
  | t => t

/-- The rule that is left when the whitelist marker is gone. A lone slash is the empty
expression. -/
def parseBody (whitelist : Bool) (t : Text) : Option Rule :=
  match t with
  | '|' :: '|' :: rest => hostRule? .suffix whitelist (anchoredHost rest)
  | '|' :: rest =>
    (afterScheme? rest).bind fun rest => hostRule? .exact whitelist (anchoredHost rest)
  | _ =>
    if t.head? = some '/' && t.getLast? = some '/' then
      some ⟨.regex, t.tail.dropLast, whitelist⟩
    else if Domain.isToken t then
      some ⟨if Domain.isDomain t then .suffix else .keyword, Domain.lower t, whitelist⟩
    else
      (Domain.longestFront? (withoutWildcard t)).map fun host =>
        ⟨.suffix, Domain.lower host, whitelist⟩

/-- A line that names no rule is `none`, as is a rule whose domain is none. -/
def parse (line : Text) : Option Rule :=
  let t := Text.trim line
  match Text.after? marker t with
  | some rest => parseBody true rest
  | none => parseBody false t

end Rule

end AutoProxy
