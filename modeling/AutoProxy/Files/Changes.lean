import AutoProxy.Files.Tree

/-! What became of a tree. -/
namespace AutoProxy.FileTree

/-- The files that are new or have other content than before. -/
def written (before after : FileTree) : List (Path × Bytes) :=
  after.nodes.filterMap fun (p, n) =>
    match n with
    | .file content => if before.node? p = some n then none else some (p, content)
    | .folder => none

/-- The files that are gone. -/
def removed (before after : FileTree) : List Path :=
  before.nodes.filterMap fun (p, n) =>
    match n, after.node? p with
    | .file _, some (.file _) => none
    | .file _, _ => some p
    | .folder, _ => none

/-- The path as it reads from home, if it is below it. -/
def fromHome? (tree : FileTree) (p : Path) : Option Text :=
  if tree.home.isPrefixOf p then some (Text.join ['/'] (p.drop tree.home.length)) else none

end AutoProxy.FileTree
