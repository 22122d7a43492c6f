import AutoProxy.Text.Quoted
import AutoProxy.Text.Utf8

/-! A tree of files and folders, and what can go wrong in it. -/
namespace AutoProxy

/-- The names from the root down. -/
abbrev Path := List Text

inductive Node where
  | file (content : Bytes)
  | folder
  deriving DecidableEq

/-- The root is a folder that is always there. Relative paths start at home. -/
structure FileTree where
  home : Path
  nodes : List (Path × Node)
  deriving DecidableEq

namespace FileTree

inductive Cause where
  | missing
  | exists
  | notFolder
  | isFolder
  | nameTooLong
  deriving DecidableEq

/-- A refusal names the path as it was given, and the second path of a move. A NUL makes a text no
path at all. -/
inductive Fault where
  | refused (cause : Cause) (path : Text) (target : Option Text)
  | nulInPath
  deriving DecidableEq

def maxName : Nat := 255

def maxPath : Nat := 4095

def node? (tree : FileTree) (p : Path) : Option Node :=
  if p.isEmpty then some .folder else tree.nodes.lookup p

def put (tree : FileTree) (p : Path) (n : Node) : FileTree :=
  { tree with nodes := tree.nodes.filter (·.1 ≠ p) ++ [(p, n)] }

def erase (tree : FileTree) (p : Path) : FileTree :=
  { tree with nodes := tree.nodes.filter (·.1 ≠ p) }

/-- One name after the other, each looked up in a folder that is there; the last may be missing. -/
def walk (tree : FileTree) (here : Path) : List Text → Except Cause Path
  | [] => .ok here
  | name :: names =>
    match tree.node? here with
    | none => .error .missing
    | some (.file _) => .error .notFolder
    | some .folder =>
      if name = [] || name = ['.'] then walk tree here names
      else if name = ['.', '.'] then walk tree here.dropLast names
      else if maxName < (Utf8.encode name).length then .error .nameTooLong
      else walk tree (here ++ [name]) names

def start (tree : FileTree) (path : Text) : Path :=
  if path.head? = some '/' then [] else tree.home

def locate (tree : FileTree) (path : Text) : Except Fault Path :=
  if path.contains '\x00' then .error .nulInPath
  else if path.isEmpty then .error (.refused .missing path none)
  else if maxPath < (Utf8.encode path).length then .error (.refused .nameTooLong path none)
  else
    match tree.walk (tree.start path) (Text.split (· = '/') path) with
    | .ok p => .ok p
    | .error cause => .error (.refused cause path none)

/-- What stands at the path, `none` also where no look is possible. -/
def look? (tree : FileTree) (path : Text) : Option Node :=
  match tree.locate path with
  | .ok p => tree.node? p
  | .error _ => none

def read (tree : FileTree) (path : Text) : Except Fault Bytes :=
  match tree.locate path with
  | .error e => .error e
  | .ok p =>
    match tree.node? p with
    | some (.file content) => .ok content
    | some .folder => .error (.refused .isFolder path none)
    | none => .error (.refused .missing path none)

/-- A file is made, or gets new content. -/
def write (tree : FileTree) (path : Text) (content : Bytes) : Except Fault FileTree :=
  match tree.locate path with
  | .error e => .error e
  | .ok p =>
    match tree.node? p with
    | some .folder => .error (.refused .isFolder path none)
    | _ => .ok (tree.put p (.file content))

def makeFolder (tree : FileTree) (path : Text) : Except Fault FileTree :=
  match tree.locate path with
  | .error e => .error e
  | .ok p =>
    match tree.node? p with
    | some _ => .error (.refused .exists path none)
    | none => .ok (tree.put p .folder)

/-- A file takes the place of another one, not of a folder. -/
def move (tree : FileTree) (path target : Text) : Except Fault FileTree :=
  match tree.locate path, tree.locate target with
  | .ok p, .ok q =>
    match tree.node? p, tree.node? q with
    | some (.file _), some .folder => .error (.refused .isFolder path (some target))
    | some n, _ => .ok ((tree.erase p).put q n)
    | none, _ => .error (.refused .missing path (some target))
  | .error (.refused cause _ _), _ => .error (.refused cause path (some target))
  | _, .error (.refused cause _ _) => .error (.refused cause path (some target))
  | .error .nulInPath, _ => .error .nulInPath
  | _, .error .nulInPath => .error .nulInPath

def remove (tree : FileTree) (path : Text) : Except Fault FileTree :=
  match tree.locate path with
  | .error e => .error e
  | .ok p =>
    match tree.node? p with
    | some (.file _) => .ok (tree.erase p)
    | some .folder => .error (.refused .isFolder path none)
    | none => .error (.refused .missing path none)

def Cause.number : Cause → Nat
  | .missing => 2
  | .exists => 17
  | .notFolder => 20
  | .isFolder => 21
  | .nameTooLong => 36

def Cause.message : Cause → String
  | .missing => "No such file or directory"
  | .exists => "File exists"
  | .notFolder => "Not a directory"
  | .isFolder => "Is a directory"
  | .nameTooLong => "File name too long"

def Fault.message : Fault → Text
  | .refused cause path target =>
    "[Errno ".toList ++ Text.ofNat cause.number ++ "] ".toList ++ cause.message.toList
      ++ ": ".toList ++ Text.quote path
      ++ match target with
        | some t => " -> ".toList ++ Text.quote t
        | none => []
  | .nulInPath => "embedded null byte".toList

end FileTree

end AutoProxy
