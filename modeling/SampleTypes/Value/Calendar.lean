import SampleTypes.Decimal
import SampleTypes.Text.Basic

/-!
Dates and moments of the calendar.
-/

namespace SampleTypes

/-- A span of time as an expression: days, and the seconds of the day after them. -/
def spanLiteral (seconds : Int) : String :=
  let days := seconds.fdiv 86400
  let rest := seconds.fmod 86400
  let parts := (if days = 0 then [] else ["days=" ++ Decimal.intText days]) ++
    (if rest = 0 then [] else ["seconds=" ++ Decimal.intText rest])
  "datetime.timedelta(" ++ (if parts.isEmpty then "0" else joinTexts ", " parts) ++ ")"

inductive CalendarFault where
  | year (n : Nat)
  | month
  | day
  | hour
  | minute
  | second
  | offset (minutes : Int)
  deriving DecidableEq, Repr

def CalendarFault.message : CalendarFault → String
  | .year n => "year " ++ Decimal.natText n ++ " is out of range"
  | .month => "month must be in 1..12"
  | .day => "day is out of range for month"
  | .hour => "hour must be in 0..23"
  | .minute => "minute must be in 0..59"
  | .second => "second must be in 0..59"
  | .offset minutes =>
    "offset must be a timedelta strictly between -timedelta(hours=24) and timedelta(hours=24), not " ++
      spanLiteral (minutes * 60) ++ "."

structure Date where
  year : Nat
  month : Nat
  day : Nat
  deriving DecidableEq, Repr

namespace Date

def isLeap (year : Nat) : Bool :=
  year % 4 = 0 && (year % 100 != 0 || year % 400 = 0)

def daysIn (year month : Nat) : Nat :=
  match month with
  | 2 => if isLeap year then 29 else 28
  | 4 | 6 | 9 | 11 => 30
  | _ => 31

/-- Whether there is such a day; the first part that is out of range is reported. -/
def check (d : Date) : Except CalendarFault Unit :=
  if d.year = 0 then .error (.year d.year)
  else if d.month = 0 || 12 < d.month then .error .month
  else if d.day = 0 || daysIn d.year d.month < d.day then .error .day
  else .ok ()

def text (d : Date) : String :=
  String.ofList (Decimal.padded 4 d.year ++ '-' :: Decimal.padded 2 d.month ++
    '-' :: Decimal.padded 2 d.day)

/-- The number of days from the first of March of the year zero, in a calendar whose years begin with
March. -/
def days (d : Date) : Nat :=
  let year := if d.month ≤ 2 then d.year - 1 else d.year
  let month := if d.month ≤ 2 then d.month + 9 else d.month - 3
  365 * year + year / 4 - year / 100 + year / 400 + (153 * month + 2) / 5 + d.day - 1

/-- The date that is so many days after the first of March of the year zero. -/
def ofDays (days : Nat) : Date :=
  let era := days / 146097
  let day := days % 146097
  let yearOfEra := (day - day / 1460 + day / 36524 - day / 146096) / 365
  let dayOfYear := day - (365 * yearOfEra + yearOfEra / 4 - yearOfEra / 100)
  let shifted := (5 * dayOfYear + 2) / 153
  let month := if shifted < 10 then shifted + 3 else shifted - 9
  ⟨era * 400 + yearOfEra + (if month ≤ 2 then 1 else 0), month, dayOfYear - (153 * shifted + 2) / 5 + 1⟩

end Date

structure Moment where
  date : Date
  hour : Nat
  minute : Nat
  second : Nat
  microsecond : Nat
  offset : Option Int
  deriving DecidableEq, Repr

namespace Moment

/-- Whether there is such a moment. The zone is looked at first, then the parts in their order. -/
def check (m : Moment) : Except CalendarFault Unit := do
  match m.offset with
  | some minutes => if 1440 ≤ minutes.natAbs then throw (.offset minutes)
  | none => pure ()
  m.date.check
  if 23 < m.hour then throw .hour
  if 59 < m.minute then throw .minute
  if 59 < m.second then throw .second

def seconds (m : Moment) : Int :=
  ((m.date.days * 24 + m.hour : Int) * 60 + m.minute - m.offset.getD 0) * 60 + m.second

/-- Whether two moments are one: in zones that are known, if they are at one time. -/
def same (a b : Moment) : Bool :=
  if a.offset.isSome && b.offset.isSome then
    a.seconds = b.seconds && a.microsecond = b.microsecond
  else a = b

def offsetText (minutes : Int) : List Char :=
  let n := minutes.natAbs
  (if minutes < 0 then '-' else '+') :: Decimal.padded 2 (n / 60) ++
    ':' :: Decimal.padded 2 (n % 60)

/-- Days from the first of March of the year zero to the first of January 1970. -/
def epochDay : Nat := 719468

/-- The moment in universal time that is so many microseconds after the start of 1970. -/
def ofMicroseconds (n : Nat) : Moment :=
  let seconds := n / 1000000
  let time := seconds % 86400
  ⟨.ofDays (seconds / 86400 + epochDay), time / 3600, time / 60 % 60, time % 60, n % 1000000, some 0⟩

def textWith (mark : Char) (m : Moment) : String :=
  m.date.text ++ String.ofList (mark :: Decimal.padded 2 m.hour ++ ':' :: Decimal.padded 2 m.minute ++
    ':' :: Decimal.padded 2 m.second ++
    (if m.microsecond = 0 then [] else '.' :: Decimal.padded 6 m.microsecond) ++
    (match m.offset with
      | some minutes => offsetText minutes
      | none => []))

def text (m : Moment) : String := m.textWith ' '

def stamp (m : Moment) : String := m.textWith 'T'

end Moment

end SampleTypes
