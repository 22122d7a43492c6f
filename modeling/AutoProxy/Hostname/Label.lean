import AutoProxy.Hostname.DirectionTable
import AutoProxy.Hostname.LetterTable
import AutoProxy.Hostname.Punycode
import AutoProxy.Hostname.ScriptTable
import AutoProxy.Text.Composed
import AutoProxy.Text.Quoted

/-! Which texts are labels of host names. -/
namespace AutoProxy.Hostname

/-- Positions count from one. -/
inductive Fault where
  | nameTooLong
  | labelTooLong
  | empty
  | notComposed
  | innerHyphens
  | outerHyphen
  | leadingMark
  | letter (code position : Nat) (label : Text.Codes)
  | joiner (code position : Nat) (label : Text.Codes)
  | context (code position : Nat) (label : Text.Codes)
  | unknownDirection (position : Nat) (label : Text.Codes)
  | firstDirection (label : Text.Codes)
  | direction (position : Nat) (fromRight : Bool)
  | mixedNumbers
  | lastDirection
  | nothingEncoded
  | encodedHyphen
  | badEncoding
  deriving DecidableEq

def zeroWidthNonJoiner : Nat := 0x200C

def zeroWidthJoiner : Nat := 0x200D

/-- Where a mark that kills a vowel stands. -/
def viramaPlace : Nat := 9

def directionOf (n : Nat) : Direction :=
  ((directions.find? fun (first, last, _) => first ≤ n && n ≤ last).map (·.2.2)).getD .left

def isLetter (n : Nat) : Bool :=
  Text.holds letters n
    || everySecondLetter.any fun (first, last) => first ≤ n && n ≤ last && (n - first) % 2 = 0

/-- Characters that need certain others beside them. -/
def isContextual (n : Nat) : Bool :=
  n = 0xB7 || n = 0x375 || n = 0x5F3 || n = 0x5F4 || (0x660 ≤ n && n ≤ 0x669)
    || (0x6F0 ≤ n && n ≤ 0x6F9) || n = 0x30FB

/-- Whether the nearest character that marks do not pass joins the one at hand. -/
def joins (joining : List (Nat × Nat)) (t : Text.Codes) : Bool :=
  match t.dropWhile (Text.holds joiningAcross) with
  | [] => false
  | n :: _ => Text.holds joiningBoth n || Text.holds joining n

/-- A joiner stands behind a mark that kills a vowel; one that keeps letters apart may also stand
between two that would join. Behind a character of unknown direction there is none. The text before
it is in reverse. -/
def joinerFits (n : Nat) (before after : Text.Codes) : Bool :=
  match before with
  | [] => false
  | m :: _ =>
    directionOf m ≠ .unknown
      && (Text.place m = viramaPlace
        || (n = zeroWidthNonJoiner && joins joiningNext before && joins joiningPrevious after))

/-- The middle dot between two letters l, the Greek sign before Greek, the Hebrew signs behind
Hebrew, the dot of Japanese beside Japanese, and digits of one of two scripts. -/
def contextFits (n : Nat) (before after : Text.Codes) : Bool :=
  if n = 0xB7 then before.head? = some 0x6C && after.head? = some 0x6C
  else if n = 0x375 then after.head?.any (Text.holds greek)
  else if n = 0x5F3 || n = 0x5F4 then before.head?.any (Text.holds hebrew)
  else if n = 0x30FB then (before ++ after).any (Text.holds japanese)
  else if n ≤ 0x669 then !(before ++ after).any fun m => 0x6F0 ≤ m && m ≤ 0x6F9
  else !(before ++ after).any fun m => 0x660 ≤ m && m ≤ 0x669

def checkCode (label : Text.Codes) (n : Nat) (before after : Text.Codes) : Except Fault Unit :=
  let position := before.length + 1
  if isLetter n then .ok ()
  else if n = zeroWidthNonJoiner || n = zeroWidthJoiner then
    if joinerFits n before after then .ok () else .error (.joiner n position label)
  else if isContextual n then
    if contextFits n before after then .ok () else .error (.context n position label)
  else .error (.letter n position label)

/-- The characters behind the reversed text `before`, from the front. -/
def checkCodes (label before : Text.Codes) : Text.Codes → Except Fault Unit
  | [] => .ok ()
  | n :: after =>
    match checkCode label n before after with
    | .error e => .error e
    | .ok () => checkCodes label (n :: before) after

/-- Numbers of one kind only, and no letters of the other direction. -/
def checkDirection (fromRight : Bool) (numbers : Option Direction) (position : Nat) :
    List Direction → Except Fault Unit
  | [] => .ok ()
  | d :: ds =>
    if fromRight && d = .left || !fromRight && (d = .right || d = .arabicNumber) then
      .error (.direction position fromRight)
    else if fromRight && (d = .number || d = .arabicNumber) then
      if numbers.any (· ≠ d) then .error .mixedNumbers
      else checkDirection fromRight (some d) (position + 1) ds
    else checkDirection fromRight numbers (position + 1) ds

/-- A label with anything written from the right begins with a letter, has one direction, and ends
with a letter or a number. -/
def checkDirections (label : Text.Codes) : Except Fault Unit :=
  let ds := label.map directionOf
  let last := ds.reverse.find? (· ≠ .mark)
  if ds.contains .unknown then
    .error (.unknownDirection ((ds.takeWhile (· ≠ .unknown)).length + 1) label)
  else if !ds.any fun d => d = .right || d = .arabicNumber then .ok ()
  else if ds.head? ≠ some .right && ds.head? ≠ some .left then .error (.firstDirection label)
  else
    let fromRight := ds.head? = some .right
    match checkDirection fromRight none 1 ds with
    | .error e => .error e
    | .ok () => if last = some .neutral then .error .lastDirection else .ok ()

/-- A label is composed, has hyphens in the right places, starts with no mark, and each of its
characters is fit for labels. -/
def checkLabel (label : Text.Codes) : Except Fault Unit :=
  match label with
  | [] => .error .empty
  | n :: _ =>
    if !Text.isComposed label then .error .notComposed
    else if (label.drop 2).take 2 = ['-'.toNat, '-'.toNat] then .error .innerHyphens
    else if n = '-'.toNat || label.getLast? = some '-'.toNat then .error .outerHyphen
    else if Text.holds Text.marks n then .error .leadingMark
    else
      match checkCodes label [] label with
      | .error e => .error e
      | .ok () => checkDirections label

/-- The number of a character in at least four hexadecimal digits. -/
def codeText (n : Nat) : Text := "U+".toList ++ (Text.hex 4 n).map Char.toUpper

def Fault.message : Fault → Text
  | .nameTooLong => "Domain too long".toList
  | .labelTooLong => "Label too long".toList
  | .empty => "Empty Label".toList
  | .notComposed => "Label must be in Normalization Form C".toList
  | .innerHyphens => "Label has disallowed hyphens in 3rd and 4th position".toList
  | .outerHyphen => "Label must not start or end with a hyphen".toList
  | .leadingMark => "Label begins with an illegal combining character".toList
  | .letter code position label =>
    "Codepoint ".toList ++ codeText code ++ " at position ".toList ++ Text.ofNat position
      ++ " of ".toList ++ Text.quoteCodes label ++ " not allowed".toList
  | .joiner code position label =>
    "Unknown codepoint adjacent to joiner ".toList ++ codeText code ++ " at position ".toList
      ++ Text.ofNat position ++ " in ".toList ++ Text.quoteCodes label
  | .context code position label =>
    "Codepoint ".toList ++ codeText code ++ " not allowed at position ".toList
      ++ Text.ofNat position ++ " in ".toList ++ Text.quoteCodes label
  | .unknownDirection position label =>
    "Unknown directionality in label ".toList ++ Text.quoteCodes label ++ " at position ".toList
      ++ Text.ofNat position
  | .firstDirection label =>
    "First codepoint in label ".toList ++ Text.quoteCodes label
      ++ " must be directionality L, R or AL".toList
  | .direction position fromRight =>
    "Invalid direction for codepoint at position ".toList ++ Text.ofNat position ++ " in a ".toList
      ++ (if fromRight then "right-to-left" else "left-to-right").toList ++ " label".toList
  | .mixedNumbers => "Can not mix numeral types in a right-to-left label".toList
  | .lastDirection => "Label ends with illegal codepoint directionality".toList
  | .nothingEncoded => "Malformed A-label, no Punycode eligible content found".toList
  | .encodedHyphen => "A-label must not end with a hyphen".toList
  | .badEncoding => "Invalid A-label".toList

end AutoProxy.Hostname
