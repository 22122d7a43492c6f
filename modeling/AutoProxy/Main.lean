import AutoProxy.CommandLine.Basic
import AutoProxy.Files.Changes
import Std.Time

/-! The command as a program: it shows a run the files, the environment and the clock, and then
carries out what the run asks for. There are no sockets here, so every request is refused. -/
namespace AutoProxy.Main

def nameOf (p : Path) : String := String.ofList ('/' :: Text.join ['/'] p)

def probe (p : Path) : IO (Option Node) := do
  if ← ((← IO.currentDir) / nameOf p).isDir then return some .folder
  match ← (IO.FS.readBinFile (nameOf p)).toBaseIO with
  | .ok content => return some (.file content.toList)
  | .error _ => return none

/-- The path and all folders above it, as far as they are there. -/
def reveal (tree : FileTree) (p : Path) : IO FileTree :=
  (List.range p.length).foldlM
    (fun tree n => do
      let p := p.take (n + 1)
      match ← probe p with
      | some node => return tree.put p node
      | none => return tree)
    tree

def environment : IO Environment := do
  let names := Settings.proxyNames ++ ["GFWLIST_URL", "PAC_PLACEHOLDER",
    "GFWLIST_DOWNLOAD_TIMEOUT", "GFWLIST_MAX_DOWNLOAD_BYTES"].map String.toList
  names.filterMapM fun name => do
    return (← IO.getEnv (String.ofList name)).map fun value => (name, value.toList)

def clock : IO Timestamp := do
  let t := Std.Time.DateTime.ofTimestampWithZone (← Std.Time.Timestamp.now) .UTC
  return ⟨t.year.toInt.toNat, t.month.val.toNat, t.day.val.toNat, t.hour.val.toNat,
    t.minute.val.toNat, t.second.val.toNat, t.nanosecond.val.toNat / 1000, some 0⟩

/-- The paths that the arguments speak of, and the place beside the output. -/
def pathsOf (tree : FileTree) (args : List Text) : List Path :=
  match Arguments.parse args with
  | .error _ => []
  | .ok a =>
    let output := (a.output.map fun t => (Place.ofText tree t).toText).toList
    ([a.input, a.userRules].filterMap id ++ output ++ output.map FileTree.asideOf).map fun t =>
      (Place.ofText tree t).names

def apply (before after : FileTree) : IO Unit := do
  for p in before.removed after do
    IO.FS.removeFile (nameOf p)
  for (p, n) in after.nodes do
    if n = .folder && before.node? p = none then IO.FS.createDirAll (nameOf p)
  for (p, content) in before.written after do
    IO.FS.writeBinFile (nameOf p) ⟨content.toArray⟩

end AutoProxy.Main

open AutoProxy in
def main (args : List String) : IO UInt32 := do
  let args := args.map String.toList
  let current := (← IO.currentDir).toString.toList
  let home := (Place.ofText ⟨[], []⟩ current).names
  let bare : FileTree := ⟨home, []⟩
  let files ← (home :: Main.pathsOf bare args).foldlM Main.reveal bare
  let scene : Scene := ⟨← Main.clock, files, [], [], [], [], .scripted⟩
  let (result, after) := CommandLine.run args (← Main.environment) scene
  Main.apply files after.files
  match result with
  | .ok console =>
    for line in console.errors do
      IO.eprintln (String.ofList line)
    IO.print (String.ofList console.out)
    return UInt32.ofNat console.exitCode
  | .error p =>
    IO.eprintln (String.ofList p.message)
    return 1
