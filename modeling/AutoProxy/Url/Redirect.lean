import AutoProxy.Url.Basic

/-! Where a redirect leads. -/
namespace AutoProxy

namespace Reference

/-- Schemes whose references can be relative. -/
def hierarchical : List Text :=
  ["", "ftp", "http", "gopher", "nntp", "imap", "wais", "file", "https", "shttp", "mms",
    "prospero", "rtsp", "rtspu", "sftp", "svn", "svn+ssh", "ws", "wss"].map String.toList

/-- Schemes whose paths can have parameters. -/
def parameterized : List Text :=
  ["", "ftp", "hdl", "prospero", "http", "imap", "https", "shttp", "rtsp", "rtspu", "sip", "sips",
    "mms", "sftp", "tel"].map String.toList

/-- The path without the parameters of its last segment, and these: they stand behind a
semicolon. -/
def Parts.splitPath (p : Parts) : Text × Text :=
  let last := (p.path.reverse.takeWhile (· ≠ '/')).reverse
  match parameterized.contains p.scheme, Text.afterFirst? ';' last with
  | true, some parameters => (p.path.take (p.path.length - parameters.length - 1), parameters)
  | _, _ => (p.path, [])

def joinParameters (path parameters : Text) : Text :=
  if parameters.isEmpty then path else path ++ ';' :: parameters

/-- A semicolon that nothing follows is left out. -/
def Parts.trimmed (p : Parts) : Parts :=
  { p with path := joinParameters p.splitPath.1 p.splitPath.2 }

/-- The parts of a reference that can be relative, put together; empty ones are left out. -/
def Parts.toText (p : Parts) : Text :=
  let bare :=
    if p.authority.isEmpty && (p.scheme.isEmpty || "//".toList.isPrefixOf p.path) then p.path
    else
      let path := if p.path.isEmpty || p.path.head? = some '/' then p.path else '/' :: p.path
      '/' :: '/' :: p.authority ++ path
  (if p.scheme.isEmpty then [] else p.scheme ++ [':']) ++ bare
    ++ (if p.query.isEmpty then [] else '?' :: p.query)
    ++ (if p.fragment.isEmpty then [] else '#' :: p.fragment)

/-- Empty segments count at the two ends only. -/
def innerFilled : List Text → List Text
  | [] => []
  | s :: rest => s :: rest.dropLast.filter (!·.isEmpty) ++ rest.getLast?.toList

/-- A path from the folder of `base`. -/
def joinPath (base path : Text) : Text :=
  let given := Text.split (· = '/') path
  let above := Text.split (· = '/') base
  let above := if above.getLast? = some [] then above else above.dropLast
  let segments := if path.head? = some '/' then given else innerFilled (above ++ given)
  let done := segments.foldl
    (fun done s =>
      if s = ['.', '.'] then done.dropLast else if s = ['.'] then done else done ++ [s]) []
  let last := segments.getLast?
  let done := if last = some ['.'] || last = some ['.', '.'] then done ++ [[]] else done
  match Text.join ['/'] done with
  | [] => ['/']
  | t => t

/-- The reference as it reads from `base`. -/
def join (base reference : Text) : Except Fault Text := do
  if base.isEmpty then return reference
  if reference.isEmpty then return base
  let b ← split base
  let r ← split reference
  let r := if r.scheme.isEmpty then { r with scheme := b.scheme } else r
  if r.scheme ≠ b.scheme || !hierarchical.contains r.scheme then return reference
  if !r.authority.isEmpty then return r.trimmed.toText
  let (path, parameters) := r.splitPath
  if path.isEmpty && parameters.isEmpty then
    let query := if r.query.isEmpty then b.query else r.query
    return { b.trimmed with query, fragment := r.fragment }.toText
  let path := joinParameters (joinPath b.splitPath.1 path) parameters
  return { r with authority := b.authority, path }.toText

end Reference

namespace Url

inductive RedirectFault where
  | location (cause : Fault)
  | url (cause : Fault)
  | reference (cause : Reference.Fault)
  | hostname (cause : Hostname.Fault)
  deriving DecidableEq

def liftFault {α β γ : Type} (f : α → β) : Except α γ → Except β γ
  | .ok x => .ok x
  | .error e => .error (f e)

/-- A target with a scheme and no host is on the host of `base`. -/
def onHostOf (base u : Url) : Except RedirectFault Url :=
  if u.scheme.isEmpty then .ok u
  else do
    let host ← liftFault .hostname u.displayedHost
    if !host.isEmpty then return u
    let host ← liftFault .hostname base.displayedHost
    liftFault .url (u.withHost host)

/-- The target keeps the fragment of `base` if it has none of its own. -/
def withFragmentOf (base u : Url) : Except RedirectFault Url :=
  match base.fragment with
  | none | some [] => .ok u
  | some f =>
    if (u.fragment.getD []).isEmpty then liftFault .url (u.withFragment (unescape f)) else .ok u

/-- The target that a reply of `base` names. What the target leaves out comes from `base`, and its
host must be one that can be shown. -/
def redirect (base : Url) (location : Text) : Except RedirectFault Url := do
  let u ← onHostOf base (← liftFault .location (ofText location))
  let u ←
    if u.isAbsolute then pure u
    else do
      let t ← liftFault .reference (Reference.join base.toText u.toText)
      liftFault .url (ofText t)
  let u ← withFragmentOf base u
  let _ ← liftFault .hostname u.displayedHost
  return u

end Url

end AutoProxy
