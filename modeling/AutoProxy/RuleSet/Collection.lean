import AutoProxy.Rule.Parser
import AutoProxy.RuleSet.Basic
import AutoProxy.RuleSet.Tally

/-! Rule sets collected from the lines of lists. -/
namespace AutoProxy

namespace RuleSet

/-- One line more: its rule, if it names one that has a place, and its class. -/
def addLine : RuleSet × Count → Text → RuleSet × Count
  | (s, n), line =>
    match LineClass.of line with
    | .blank => (s, n.blankLine)
    | .comment => (s, n.commentLine)
    | .candidate =>
      match (Rule.parse line).bind s.add? with
      | some s => (s, n.keptLine)
      | none => (s, n.droppedLine)

def addLines (s : RuleSet) (lines : List Text) : RuleSet × Count := lines.foldl addLine (s, .zero)

end RuleSet

/-- Rules with the account of the lists that they come from. -/
structure Collection where
  rules : RuleSet
  tally : Tally
  deriving DecidableEq

namespace Collection

def fold (k : Collection) (source : Text) (lines : List Text) : Collection :=
  let (rules, n) := k.rules.addLines lines
  ⟨rules, k.tally.record source n⟩

def feedName : Text := "feed".toList

def userName : Text := "user".toList

/-- The feed, then the user's own rules, as one set; the account goes on from `tally`. -/
def ofLists (tally : Tally) (feed : List Text) (user : Option (List Text)) : Collection :=
  let k := fold ⟨.empty, tally⟩ feedName feed
  match user with
  | some lines => k.fold userName lines
  | none => k

/-- Two lines on what was collected. -/
def summary (k : Collection) : List Text :=
  let size c := Text.ofNat (k.rules.get c).size
  [ "Processed ".toList ++ Text.ofNat k.tally.overall.processed ++ " rules (".toList
      ++ Text.ofNat k.tally.overall.dropped ++ " dropped)".toList,
    "  suffix=".toList ++ size .suffixBlock ++ " exact=".toList ++ size .exactBlock
      ++ " keywords=".toList ++ size .keywords ++ " white_suffix=".toList ++ size .suffixWhitelist
      ++ " white_exact=".toList ++ size .exactWhitelist ++ " regex=".toList ++ size .regexBlock
      ++ " white_regex=".toList ++ size .regexWhitelist ]

end Collection

end AutoProxy
