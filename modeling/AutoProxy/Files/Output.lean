import AutoProxy.Files.Tree

/-! Writing a file as a whole: beside its place first, then moved there. -/
namespace AutoProxy

/-- An absolute path without dots. Two slashes in front are kept apart from one. -/
structure Place where
  doubled : Bool
  names : Path
  deriving DecidableEq

namespace Place

def push (names : Path) (name : Text) : Path :=
  if name = [] || name = ['.'] then names
  else if name = ['.', '.'] then names.dropLast
  else names ++ [name]

def ofText (tree : FileTree) (path : Text) : Place :=
  let doubled := match path with
    | '/' :: '/' :: '/' :: _ => false
    | '/' :: '/' :: _ => true
    | _ => false
  ⟨doubled, (Text.split (· = '/') path).foldl push (tree.start path)⟩

def root (p : Place) : Text := if p.doubled then ['/'] else []

def toText (p : Place) : Text :=
  if p.names.isEmpty then p.root ++ ['/'] else p.root ++ p.names.flatMap ('/' :: ·)

end Place

namespace FileTree

/-- The folders on the way to a place, each made if there is nothing. A file in the way is an error
where it is reached. -/
def makeFolders (tree : FileTree) (above : Text) : Path → FileTree × Option Fault
  | [] => (tree, none)
  | name :: names =>
    let path := above ++ '/' :: name
    match tree.look? path with
    | some .folder => makeFolders tree path names
    | some (.file _) =>
      if names.isEmpty then (tree, some (.refused .exists path none))
      else makeFolders tree path names
    | none =>
      match tree.makeFolder path with
      | .ok tree => makeFolders tree path names
      | .error e => (tree, some e)

/-- Whatever file is left beside the place is removed. -/
def tidy (tree : FileTree) (path : Text) : FileTree :=
  match tree.remove path with
  | .ok tree => tree
  | .error _ => tree

def asideOf (path : Text) : Text := path ++ ".tmp".toList

/-- Write beside the place, then move. -/
def deliver (tree : FileTree) (path : Text) (content : Bytes) : FileTree × Option Fault :=
  match tree.write (asideOf path) content with
  | .error e => (tree, some e)
  | .ok tree =>
    match tree.move (asideOf path) path with
    | .error e => (tree, some e)
    | .ok tree => (tree, none)

def attempt (tree : FileTree) (place : Place) (content : Bytes) : FileTree × Option Fault :=
  match tree.makeFolders place.root place.names.dropLast with
  | (tree, some e) => (tree, some e)
  | (tree, none) => tree.deliver place.toText content

/-- A refused write leaves nothing beside the place. -/
def output (tree : FileTree) (place : Place) (content : Bytes) : FileTree × Option Fault :=
  match tree.attempt place content with
  | (tree, some (.refused cause p target)) =>
    (tree.tidy (asideOf place.toText), some (.refused cause p target))
  | other => other

end FileTree

end AutoProxy
