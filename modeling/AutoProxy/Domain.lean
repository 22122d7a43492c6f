import AutoProxy.Text.Basic

/-! Domains and tokens as rules write them, and the labels of a host. -/
namespace AutoProxy.Domain

def isDomainChar (c : Char) : Bool := c.isAlphanum || c = '-' || c = '.'

/-- Behind the last dot stand letters alone, two or more. -/
def endsInLetters (t : Text) : Bool :=
  let label := t.reverse.takeWhile (· ≠ '.')
  t.contains '.' && label.all Char.isAlpha && 2 ≤ label.length

def isDomain : Text → Bool
  | [] => false
  | c :: t => c.isAlphanum && t.all isDomainChar && endsInLetters t

/-- A domain, or a domain with a line feed behind it. -/
def isValid (t : Text) : Bool := isDomain t.chomp

/-- Two characters or more, none but those of a domain, a letter or digit at each end. -/
def isToken (t : Text) : Bool :=
  match t, t.getLast? with
  | c :: _ :: _, some d => c.isAlphanum && d.isAlphanum && t.all isDomainChar
  | _, _ => false

/-- The longest domain ending that stands at the front behind characters of a domain. -/
def longestEnding? : Text → Option Text
  | [] => none
  | c :: t =>
    if isDomainChar c then
      match longestEnding? t with
      | some e => some (c :: e)
      | none =>
        let letters := t.takeWhile Char.isAlpha
        if c = '.' && 2 ≤ letters.length then some ('.' :: letters) else none
    else none

/-- The longest domain that the text starts with. -/
def longestFront? : Text → Option Text
  | [] => none
  | c :: t => if c.isAlphanum then (longestEnding? t).map (c :: ·) else none

/-- Domains and tokens are ASCII, and so is their lower case. -/
def lower (t : Text) : Text := t.map Char.toLower

/-- What is left behind each dot, from the first dot to the last. -/
def parents : Text → List Text
  | [] => []
  | c :: t => if c = '.' then t :: parents t else parents t

/-- The host and its parents. -/
def suffixes (host : Text) : List Text := host :: parents host

end AutoProxy.Domain
