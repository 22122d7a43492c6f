import AutoProxy.Hostname.Label

/-! Names of hosts, in letters of all scripts and in ASCII. -/
namespace AutoProxy.Hostname

/-- A label that is encoded starts with this. -/
def marker : Text := "xn--".toList

def maxLabel : Nat := 63

def maxName (dotted : Bool) : Nat := if dotted then 254 else 253

def isDot (c : Char) : Bool := c = '.' || c = '\u3002' || c = '\uFF0E' || c = '\uFF61'

/-- The labels, and whether a dot follows the last one. -/
def labels (name : Text) : List Text × Bool :=
  let ts := Text.split isDot name
  if ts.getLast? = some [] then (ts.dropLast, true) else (ts, false)

def joinLabels (ts : List Text) (dotted : Bool) : Text :=
  Text.join ['.'] (if dotted then ts ++ [[]] else ts)

def isAscii (t : Text) : Bool := t.all (·.toNat < 0x80)

/-- What an ASCII label stands for. -/
def readLabel (label : Text) : Except Fault Text :=
  let t := label.map Char.toLower
  match Text.after? marker t with
  | none =>
    match checkLabel (t.map Char.toNat) with
    | .ok () => .ok t
    | .error e => .error e
  | some [] => .error .nothingEncoded
  | some encoded =>
    if encoded.getLast? = some '-' then .error .encodedHyphen
    else
      match Punycode.decode? encoded with
      | none => .error .badEncoding
      | some codes =>
        match checkLabel codes with
        | .ok () => .ok (codes.map Char.ofNat)
        | .error e => .error e

/-- A label in ASCII; one that is in ASCII already must read well. -/
def writeLabel (label : Text) : Except Fault Text := do
  let t ←
    if isAscii label then
      let _ ← readLabel label
      pure label
    else
      checkLabel (label.map Char.toNat)
      pure (marker ++ Punycode.encode label)
  if maxLabel < t.length then throw .labelTooLong
  return t

def toAscii (name : Text) : Except Fault Text := do
  if maxName true < name.length then throw .nameTooLong
  let (ts, dotted) := labels name
  let t := joinLabels (← ts.mapM writeLabel) dotted
  if maxName dotted < t.length then throw .nameTooLong
  return t

/-- A name in ASCII, in the letters that it stands for. -/
def ofAscii (name : Text) : Except Fault Text := do
  if maxName true < name.length then throw .nameTooLong
  let (ts, dotted) := labels name
  return joinLabels (← ts.mapM readLabel) dotted

end AutoProxy.Hostname
