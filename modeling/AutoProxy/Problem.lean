import AutoProxy.Base64
import AutoProxy.Failure
import AutoProxy.Files.Tree
import AutoProxy.Text.Integer
import AutoProxy.Url.Reference

/-! What ends a run early, and the message that says so. -/
namespace AutoProxy

namespace Download

inductive Fault where
  | notWeb
  | status (code : Nat) (reason : Text)
  | declared (length : Text)
  | limit (bytes : Int)
  | transport (message : Text)
  deriving DecidableEq

def Fault.message : Fault → Text
  | .notWeb => "Only http/https feed URLs are supported.".toList
  | .status code reason => "Download failed: HTTP ".toList ++ Text.ofNat code ++ [' '] ++ reason
  | .declared length => "Download too large (Content-Length=".toList ++ length ++ ").".toList
  | .limit bytes => "Download exceeded limit (".toList ++ Text.ofInt bytes ++ " bytes).".toList
  | .transport message => "Download failed: ".toList ++ message

end Download

namespace Reading

/-- Which list a file holds. -/
inductive Role where
  | feed
  | userRules
  deriving DecidableEq

inductive Fault where
  | open (cause : FileTree.Fault)
  | notUtf8 (cause : Utf8.Fault)
  deriving DecidableEq

def Role.name : Role → String
  | .feed => "feed file"
  | .userRules => "user rules file"

def Fault.message : Fault → Text
  | .open cause => cause.message
  | .notUtf8 cause => cause.message

end Reading

/-- The first four abort a run with a code of their own. The others are mistakes in what a run was
given that no list can make good, or failures that the library for requests hands on. -/
inductive Problem where
  | download (cause : Download.Fault)
  | reading (role : Reading.Role) (path : Text) (cause : Reading.Fault)
  | decoding (cause : Base64.Fault)
  | writing (path : Text) (cause : FileTree.Fault)
  | nulInPath
  | reference (cause : Reference.Fault)
  | length (cause : Integer.Fault)
  | library (cause : Failure)
  | proxyMissing
  | outputMissing
  deriving DecidableEq

namespace Problem

/-- The exit code of a run that the problem aborts. -/
def exitCode? : Problem → Option Nat
  | .download _ => some 2
  | .reading .. => some 3
  | .decoding _ => some 4
  | .writing .. => some 5
  | _ => none

def message : Problem → Text
  | .download cause => cause.message
  | .reading role path cause =>
    "Cannot read ".toList ++ role.name.toList ++ [' '] ++ path ++ ": ".toList ++ cause.message
  | .decoding cause => "Feed is not valid base64 text: ".toList ++ cause.message
  | .writing path cause =>
    "Cannot write PAC file ".toList ++ path ++ ": ".toList ++ cause.message
  | .nulInPath => FileTree.Fault.nulInPath.message
  | .reference cause => cause.message
  | .length cause => cause.message
  | .library cause => cause.message
  | .proxyMissing => "'list' object has no attribute 'strip'".toList
  | .outputMissing => "expected str, bytes or os.PathLike object, not list".toList

end Problem

end AutoProxy
