import TemplateCompiler.Text.Basic

/-! Dates and times of day as they occur in documents. -/

namespace TemplateCompiler

/-- A time of day, with its distance from universal time in minutes where it has one. -/
structure TimeOfDay where
  hour : Nat
  minute : Nat
  second : Nat
  microsecond : Nat
  offset : Option Int
deriving DecidableEq, Repr

structure Moment where
  year : Nat
  month : Nat
  day : Nat
  time : Option TimeOfDay
deriving DecidableEq, Repr

namespace Moment

def padded (width n : Nat) : Text :=
  let digits := Text.ofNat n
  List.replicate (width - digits.length) '0' ++ digits

def isLeap (year : Nat) : Bool := year % 4 == 0 && (year % 100 != 0 || year % 400 == 0)

def daysInMonth (year month : Nat) : Nat :=
  if month = 2 then if isLeap year then 29 else 28
  else if month = 4 ∨ month = 6 ∨ month = 9 ∨ month = 11 then 30
  else 31

def dateText (m : Moment) : Text :=
  padded 4 m.year ++ '-' :: padded 2 m.month ++ '-' :: padded 2 m.day

def offsetText (minutes : Int) : Text :=
  (if minutes < 0 then '-' else '+') ::
    padded 2 (minutes.natAbs / 60) ++ ':' :: padded 2 (minutes.natAbs % 60)

def timeText (t : TimeOfDay) : Text :=
  padded 2 t.hour ++ ':' :: padded 2 t.minute ++ ':' :: padded 2 t.second ++
    (if t.microsecond = 0 then [] else '.' :: padded 6 t.microsecond) ++
    ((t.offset.map offsetText).getD [])

def toText (separator : Char) (m : Moment) : Text :=
  m.dateText ++
    match m.time with
    | some t => separator :: timeText t
    | none => []

def kindName (m : Moment) : Text :=
  if m.time.isSome then "datetime.datetime".toList else "datetime.date".toList

def spanLiteral (minutes : Int) : Text :=
  let days := minutes.fdiv 1440
  let seconds := (minutes - days * 1440) * 60
  let fields := (if days = 0 then [] else ["days=".toList ++ Text.ofInt days]) ++
    (if seconds = 0 then [] else ["seconds=".toList ++ Text.ofInt seconds])
  "datetime.timedelta(".toList ++
    (if fields.isEmpty then ['0'] else Text.joinWith ", ".toList fields) ++ [')']

def zoneLiteral (minutes : Int) : Text :=
  if minutes = 0 then "tzinfo=datetime.timezone.utc".toList
  else "tzinfo=datetime.timezone(".toList ++ spanLiteral minutes ++ [')']

def literal (m : Moment) : Text :=
  let parts := match m.time with
    | none => []
    | some t =>
      let clock := if t.second = 0 ∧ t.microsecond = 0 then [t.hour, t.minute]
        else if t.microsecond = 0 then [t.hour, t.minute, t.second]
        else [t.hour, t.minute, t.second, t.microsecond]
      clock.map Text.ofNat ++ (t.offset.map zoneLiteral).toList
  m.kindName ++ '(' ::
    Text.joinWith ", ".toList ([m.year, m.month, m.day].map Text.ofNat ++ parts) ++ [')']

def daysBeforeYear (year : Nat) : Nat :=
  (year - 1) * 365 + (year - 1) / 4 - (year - 1) / 100 + (year - 1) / 400

def daysBeforeMonth (year month : Nat) : Nat :=
  (List.range (month - 1)).foldl (fun count m => count + daysInMonth year (m + 1)) 0

def minuteNumber (m : Moment) (t : TimeOfDay) : Int :=
  (daysBeforeYear m.year + daysBeforeMonth m.year m.month + (m.day - 1)) * 1440 + t.hour * 60 +
    t.minute

/-- Two moments with zones are the same if universal time is. -/
def same (a b : Moment) : Bool :=
  match a.time, b.time with
  | some s, some t =>
    match s.offset, t.offset with
    | some before, some after =>
      a.minuteNumber s - before == b.minuteNumber t - after && s.second == t.second &&
        s.microsecond == t.microsecond
    | _, _ => a == b
  | _, _ => a == b

def problem? (m : Moment) : Option Text :=
  let offset := (m.time.bind (·.offset)).getD 0
  if 1440 ≤ offset.natAbs then
    some ("offset must be a timedelta strictly between -timedelta(hours=24) and ".toList ++
      "timedelta(hours=24), not ".toList ++ spanLiteral offset ++ ['.'])
  else if m.year = 0 then some "year 0 is out of range".toList
  else if m.month = 0 ∨ 12 < m.month then some "month must be in 1..12".toList
  else if m.day = 0 ∨ daysInMonth m.year m.month < m.day then
    some "day is out of range for month".toList
  else
    match m.time with
    | none => none
    | some t =>
      if 23 < t.hour then some "hour must be in 0..23".toList
      else if 59 < t.minute then some "minute must be in 0..59".toList
      else if 59 < t.second then some "second must be in 0..59".toList
      else none

end Moment

end TemplateCompiler
