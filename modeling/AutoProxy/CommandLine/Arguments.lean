import AutoProxy.Text.Integer

/-! The arguments of the command line. -/
namespace AutoProxy

inductive Flag where
  | help
  | input
  | url
  | output
  | proxy
  | userRules
  | placeholder
  | timeout
  | quiet
  deriving DecidableEq

namespace Flag

def spellings : List (Text × Flag) :=
  [ ("-h".toList, help), ("--help".toList, help), ("-i".toList, input), ("--input".toList, input),
    ("-u".toList, url), ("--url".toList, url), ("-o".toList, output), ("--output".toList, output),
    ("-p".toList, proxy), ("--proxy".toList, proxy), ("--user-rules".toList, userRules),
    ("--placeholder".toList, placeholder), ("--timeout".toList, timeout), ("-q".toList, quiet),
    ("--quiet".toList, quiet) ]

def takesValue : Flag → Bool
  | help | quiet => false
  | _ => true

/-- All spellings of the flag. -/
def title (f : Flag) : Text :=
  Text.join ['/'] ((spellings.filter (·.2 = f)).map (·.1))

end Flag

/-- What is given for a flag; two hyphens in one argument with the flag give nothing. -/
abbrev Given := Option Text

/-- A text attached to the flag; two hyphens alone are taken away. -/
def Given.ofAttached (t : Text) : Given := if t = "--".toList then none else some t

/-- The last value given for each flag. -/
structure Arguments where
  input : Option Text
  url : Option Text
  output : Given
  proxy : Option Given
  userRules : Option Text
  placeholder : Option Text
  timeout : Option Int
  quiet : Bool
  deriving DecidableEq

namespace Arguments

inductive Fault where
  | ambiguous (given : Text) (candidates : List Text)
  | valueMissing (flag : Flag)
  | valueIgnored (flag : Flag) (value : Text)
  | notInteger (flag : Flag) (value : Text)
  | unrecognized (extras : List Text)
  deriving DecidableEq

/-- What keeps a run from starting. -/
inductive Stop where
  | help
  | fault (cause : Fault)
  deriving DecidableEq

def standard : Arguments :=
  ⟨none, none, some "pac.txt".toList, none, none, none, none, false⟩

/-- A plain argument can be the value of the flag before it, a foreign one cannot. A flag may have a
text attached to it in the same argument. -/
inductive Token where
  | plain (t : Text)
  | foreign (t : Text)
  | flag (f : Flag) (long : Bool) (attached : Option Text)

def isDigit (c : Char) : Bool := (Text.digitValue? c).isSome

def isNegativeNumber : Text → Bool
  | '-' :: t =>
    let t := Text.chomp t
    match t.takeWhile isDigit, t.dropWhile isDigit with
    | whole, [] => !whole.isEmpty
    | _, '.' :: fraction => !fraction.isEmpty && fraction.all isDigit
    | _, _ => false
  | _ => false

def isLong (t : Text) : Bool := "--".toList.isPrefixOf t

/-- What stands before the first equals sign, and behind it. -/
def splitEquals (t : Text) : Text × Option Text :=
  (Text.beforeFirst '=' t, Text.afterFirst? '=' t)

/-- The flags that an argument can stand for: a long one by the start of its name, a short one with
its value behind it. -/
def candidates (t : Text) : List (Text × Token) :=
  if isLong t then
    let (name, value) := splitEquals t
    (Flag.spellings.filter fun (s, _) => name.isPrefixOf s).map fun (s, f) =>
      (s, .flag f true value)
  else
    (Flag.spellings.filter fun (s, _) => s = t.take 2).map fun (s, f) =>
      (s, .flag f false (some (t.drop 2)))

/-- An argument before the first lone double hyphen. -/
def token (t : Text) : Except Fault Token :=
  match t with
  | [] | [_] => .ok (.plain t)
  | c :: _ =>
    let (name, value) := splitEquals t
    if c ≠ '-' then .ok (.plain t)
    else
      match Flag.spellings.lookup t, Flag.spellings.lookup name, value with
      | some f, _, _ => .ok (.flag f (isLong t) none)
      | none, some f, some v => .ok (.flag f (isLong t) (some v))
      | none, _, _ =>
        match candidates t with
        | [(_, k)] => .ok k
        | [] => if isNegativeNumber t || t.contains ' ' then .ok (.plain t) else .ok (.foreign t)
        | found => .error (.ambiguous t (found.map (·.1)))

/-- Nothing from the first lone double hyphen on is a flag. -/
def tokens : List Text → Except Fault (List Token)
  | [] => .ok []
  | t :: ts =>
    if t = "--".toList then .ok (.foreign t :: ts.map .plain)
    else do
      let k ← token t
      let ks ← tokens ts
      return k :: ks

/-- The last flag of an argument has its value attached, or it may come behind. -/
inductive Ending where
  | attached (f : Flag) (t : Text)
  | open (f : Flag)

/-- A short flag without a value can have further ones attached, the next of them with all that
follows it. -/
def expand (f : Flag) (long : Bool) : Text → Except Fault (List Flag × Ending)
  | [] => if f.takesValue then .ok ([], .attached f []) else .error (.valueIgnored f [])
  | c :: rest =>
    if f.takesValue then .ok ([], .attached f (c :: rest))
    else if long then .error (.valueIgnored f (c :: rest))
    else
      match Flag.spellings.lookup ['-', c] with
      | none => .error (.valueIgnored f (c :: rest))
      | some g =>
        match rest with
        | [] => .ok ([f], .open g)
        | d :: rest => (expand g false (d :: rest)).map fun (fs, e) => (f :: fs, e)

def expandToken (f : Flag) (long : Bool) : Option Text → Except Fault (List Flag × Ending)
  | none => .ok ([], .open f)
  | some t => expand f long t

def assign (a : Arguments) (f : Flag) (t : Given) : Except Stop Arguments :=
  match f with
  | .help => .error .help
  | .input => .ok { a with input := t }
  | .url => .ok { a with url := t }
  | .output => .ok { a with output := t }
  | .proxy => .ok { a with proxy := some t }
  | .userRules => .ok { a with userRules := t }
  | .placeholder => .ok { a with placeholder := t }
  | .timeout =>
    match t.map fun t => (t, Integer.ofText t) with
    | none => .ok { a with timeout := none }
    | some (_, .ok n) => .ok { a with timeout := some n }
    | some (t, .error _) => .error (.fault (.notInteger f t))
  | .quiet => .ok { a with quiet := true }

/-- What is known after some tokens, and the arguments that belong to no flag. -/
structure Progress where
  arguments : Arguments
  extras : List Text

def Progress.assign (p : Progress) (fs : List (Flag × Given)) : Except Stop Progress := do
  return { p with arguments := ← fs.foldlM (fun a (f, t) => a.assign f t) p.arguments }

def Progress.extra (p : Progress) (t : Text) : Progress := { p with extras := p.extras ++ [t] }

/-- All flags of one argument are known to be complete before any takes effect. -/
def consume (p : Progress) : List Token → Except Stop Progress
  | [] => .ok p
  | .plain t :: ks => consume (p.extra t) ks
  | .foreign t :: ks => consume (p.extra t) ks
  | .flag f long attached :: ks =>
    match expandToken f long attached with
    | .error e => .error (.fault e)
    | .ok (fs, .attached g t) =>
      match p.assign (fs.map (·, none) ++ [(g, Given.ofAttached t)]) with
      | .ok p => consume p ks
      | .error e => .error e
    | .ok (fs, .open g) =>
      if g.takesValue then
        match ks with
        | .plain t :: ks =>
          match p.assign (fs.map (·, none) ++ [(g, some t)]) with
          | .ok p => consume p ks
          | .error e => .error e
        | _ => .error (.fault (.valueMissing g))
      else
        match p.assign (fs.map (·, none) ++ [(g, none)]) with
        | .ok p => consume p ks
        | .error e => .error e

def parse (args : List Text) : Except Stop Arguments :=
  match tokens args with
  | .error e => .error (.fault e)
  | .ok ks =>
    match consume ⟨standard, []⟩ ks with
    | .error e => .error e
    | .ok p =>
      if p.extras.isEmpty then .ok p.arguments else .error (.fault (.unrecognized p.extras))

def Fault.message : Fault → Text
  | .ambiguous given candidates =>
    "ambiguous option: ".toList ++ given ++ " could match ".toList
      ++ Text.join [',', ' '] candidates
  | .valueMissing f => "argument ".toList ++ f.title ++ ": expected one argument".toList
  | .valueIgnored f value =>
    "argument ".toList ++ f.title ++ ": ignored explicit argument ".toList ++ Text.quote value
  | .notInteger f value =>
    "argument ".toList ++ f.title ++ ": invalid int value: ".toList ++ Text.quote value
  | .unrecognized extras => "unrecognized arguments: ".toList ++ Text.join [' '] extras

end Arguments

end AutoProxy
