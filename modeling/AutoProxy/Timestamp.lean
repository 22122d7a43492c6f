import AutoProxy.Text.Basic

/-! Points of time as the head of a script shows them. -/
namespace AutoProxy

/-- Without an offset in seconds the zone is not known. -/
structure Timestamp where
  year : Nat
  month : Nat
  day : Nat
  hour : Nat
  minute : Nat
  second : Nat
  microsecond : Nat
  offset : Option Int
  deriving DecidableEq

namespace Timestamp

inductive Fault where
  | beyondLong
  | aboveInt
  | belowInt
  | year (n : Int)
  | month
  | day
  | hour
  | minute
  | second
  | microsecond
  | offset (seconds : Int)
  | offsetDays (days : Int)
  | offsetBeyondInt
  deriving DecidableEq

def isLeap (year : Nat) : Bool := year % 4 = 0 && (year % 100 ≠ 0 || year % 400 = 0)

def daysIn (year month : Nat) : Nat :=
  if month = 2 then if isLeap year then 29 else 28
  else if month = 4 || month = 6 || month = 9 || month = 11 then 30
  else 31

def secondsPerDay : Nat := 86400

def within (fault : Fault) (low high n : Int) : Except Fault Nat :=
  if low ≤ n && n ≤ high then .ok n.toNat else .error fault

/-- A field fits in 32 bits with a sign. -/
def checkSize (n : Int) : Except Fault Unit :=
  if n < -0x8000000000000000 || 0x8000000000000000 ≤ n then .error .beyondLong
  else if 0x80000000 ≤ n then .error .aboveInt
  else if n < -0x80000000 then .error .belowInt
  else .ok ()

def maxDays : Nat := 999999999

/-- An offset is a span of time, of days that fit in 32 bits with a sign, and less than a day. -/
def checkOffset (seconds : Int) : Except Fault Unit :=
  let days := seconds.fdiv secondsPerDay
  if days < -0x80000000 || 0x80000000 ≤ days then .error .offsetBeyondInt
  else if maxDays < days.natAbs then .error (.offsetDays days)
  else if secondsPerDay ≤ seconds.natAbs then .error (.offset seconds)
  else .ok ()

/-- The zone is looked at first, then the sizes of all fields, and then what they may be, from the
largest to the smallest. -/
def ofFields (year month day hour minute second microsecond : Int) (offset : Option Int) :
    Except Fault Timestamp := do
  if let some s := offset then checkOffset s
  [year, month, day, hour, minute, second, microsecond].forM checkSize
  let year ← within (.year year) 1 9999 year
  let month ← within .month 1 12 month
  let day ← within .day 1 (daysIn year month) day
  let hour ← within .hour 0 23 hour
  let minute ← within .minute 0 59 minute
  let second ← within .second 0 59 second
  let microsecond ← within .microsecond 0 999999 microsecond
  return ⟨year, month, day, hour, minute, second, microsecond, offset⟩

def zoneText (seconds : Int) : Text :=
  let n := seconds.natAbs
  (if seconds < 0 then '-' else '+') :: Text.padded 2 (n / 3600)
    ++ ':' :: Text.padded 2 (n / 60 % 60)
    ++ if n % 60 = 0 then [] else ':' :: Text.padded 2 (n % 60)

/-- Date, the letter T, time of day; a fraction only if there is one. -/
def toText (t : Timestamp) : Text :=
  Text.padded 4 t.year ++ '-' :: Text.padded 2 t.month ++ '-' :: Text.padded 2 t.day
    ++ 'T' :: Text.padded 2 t.hour ++ ':' :: Text.padded 2 t.minute ++ ':' :: Text.padded 2 t.second
    ++ (if t.microsecond = 0 then [] else '.' :: Text.padded 6 t.microsecond)
    ++ match t.offset with
      | some seconds => zoneText seconds
      | none => []

/-- A span of time as whole days and the seconds left over. -/
def spanText (seconds : Int) : Text :=
  let days := seconds.fdiv secondsPerDay
  let rest := seconds.fmod secondsPerDay
  let parts := (if days = 0 then [] else ["days=".toList ++ Text.ofInt days])
    ++ if rest = 0 then [] else ["seconds=".toList ++ Text.ofInt rest]
  "datetime.timedelta(".toList ++ Text.join ", ".toList (if parts.isEmpty then [['0']] else parts)
    ++ [')']

def Fault.message : Fault → Text
  | .beyondLong => "Python int too large to convert to C long".toList
  | .aboveInt => "signed integer is greater than maximum".toList
  | .belowInt => "signed integer is less than minimum".toList
  | .year n => "year ".toList ++ Text.ofInt n ++ " is out of range".toList
  | .month => "month must be in 1..12".toList
  | .day => "day is out of range for month".toList
  | .hour => "hour must be in 0..23".toList
  | .minute => "minute must be in 0..59".toList
  | .second => "second must be in 0..59".toList
  | .microsecond => "microsecond must be in 0..999999".toList
  | .offset seconds =>
    ("offset must be a timedelta strictly between -timedelta(hours=24) and " ++
      "timedelta(hours=24), not ").toList ++ spanText seconds ++ ['.']
  | .offsetDays days =>
    "days=".toList ++ Text.ofInt days ++ "; must have magnitude <= ".toList ++ Text.ofNat maxDays
  | .offsetBeyondInt => "Python int too large to convert to C int".toList

end Timestamp

end AutoProxy
