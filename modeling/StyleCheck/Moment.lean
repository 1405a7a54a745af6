/-
# Days and moments

What is written like a date in a settings file is a day, or a moment of a day,
which may come with its distance from universal time. Days exist in the years
1 to 9999. Messages show the parts of a moment, the seconds only if they are
not zero.

Key definitions: `Moment`, `Moment.flaw?`, `Moment.same`, `Moment.shown`.
-/
import StyleCheck.Number.Basic

namespace StyleCheck

/-- A time of day, and the minutes by which it is ahead of universal time, if
that is known. -/
structure Clock where
  hour : Nat
  minute : Nat
  second : Nat
  microsecond : Nat := 0
  ahead : Option Int := none
  deriving DecidableEq, Repr, Inhabited

/-- A day, or a moment of it. -/
structure Moment where
  year : Nat
  month : Nat
  day : Nat
  clock : Option Clock := none
  deriving DecidableEq, Repr, Inhabited

/-- Why the parts of a moment make up none. -/
inductive MomentFlaw where
  | ahead (minutes : Int)
  | year (n : Nat)
  | month
  | day
  | hour
  | minute
  | second
  deriving DecidableEq, Repr, Inhabited

/-- Texts with a comma and a blank between them. -/
def commaSeparated (parts : List (List Char)) : List Char :=
  List.intercalate [',', ' '] parts

/-- A span of minutes as messages show it: whole days, and the seconds beyond
them. -/
def shownMinutes (minutes : Int) : List Char :=
  let days := Int.fdiv minutes 1440
  let seconds := 60 * (minutes - 1440 * days)
  let parts :=
    (if days = 0 then [] else ["days=".toList ++ integerText days]) ++
      (if seconds = 0 then [] else ["seconds=".toList ++ integerText seconds])
  "datetime.timedelta(".toList ++ (if parts = [] then ['0'] else commaSeparated parts) ++ [')']

/-- The text of a flaw. -/
def MomentFlaw.message : MomentFlaw → String
  | ahead minutes =>
    "offset must be a timedelta strictly between -timedelta(hours=24) and timedelta(hours=24), not "
      ++ String.ofList (shownMinutes minutes) ++ "."
  | year n => "year " ++ toString n ++ " is out of range"
  | month => "month must be in 1..12"
  | day => "day is out of range for month"
  | hour => "hour must be in 0..23"
  | minute => "minute must be in 0..59"
  | second => "second must be in 0..59"

namespace Moment

/-- A year with a leap day. -/
def isLeapYear (year : Nat) : Bool :=
  year % 4 == 0 && (year % 100 != 0 || year % 400 == 0)

/-- The number of days of a month. -/
def daysIn (year month : Nat) : Nat :=
  if month = 2 then if isLeapYear year then 29 else 28
  else if [4, 6, 9, 11].contains month then 30
  else 31

/-- What is wrong with a time of day. -/
def clockFlaw? (clock : Clock) : Option MomentFlaw :=
  if 24 ≤ clock.hour then some .hour
  else if 60 ≤ clock.minute then some .minute
  else if 60 ≤ clock.second then some .second
  else none

/-- What is wrong with a moment: the distance from universal time is looked at
first, which has to be less than a day, then the parts from the year on. -/
def flaw? (m : Moment) : Option MomentFlaw :=
  match m.clock.bind Clock.ahead with
  | some minutes => if 1440 ≤ minutes.natAbs then some (.ahead minutes) else rest
  | none => rest
where
  /-- What is wrong with the parts. -/
  rest : Option MomentFlaw :=
    if m.year < 1 then some (.year m.year)
    else if m.month < 1 ∨ 12 < m.month then some .month
    else if m.day < 1 ∨ daysIn m.year m.month < m.day then some .day
    else m.clock.bind clockFlaw?

/-- The number of a day, counted from the first day of the first year. -/
def dayNumber (m : Moment) : Nat :=
  let before := m.year - 1
  365 * before + before / 4 - before / 100 + before / 400 +
    ((List.range m.month).drop 1).foldl (fun n month => n + daysIn m.year month) 0 + m.day

/-- The microseconds of a moment in universal time. -/
def instant (m : Moment) (clock : Clock) (ahead : Int) : Int :=
  let minutes : Int := 1440 * m.dayNumber + 60 * clock.hour + clock.minute - ahead
  (60 * minutes + clock.second) * 1000000 + clock.microsecond

/-- Two moments are the same: as they are written, or in universal time where
both say how far they are from it. -/
def same (a b : Moment) : Bool :=
  match a.clock, b.clock with
  | some ca, some cb =>
    match ca.ahead, cb.ahead with
    | some ha, some hb => a.instant ca ha == b.instant cb hb
    | _, _ => a == b
  | _, _ => a == b

/-- The parts of a time of day, as far as messages show them. -/
def shownClock (clock : Clock) : List (List Char) :=
  let numbers :=
    if clock.microsecond ≠ 0 then
      [clock.hour, clock.minute, clock.second, clock.microsecond]
    else if clock.second ≠ 0 then [clock.hour, clock.minute, clock.second]
    else [clock.hour, clock.minute]
  let zone : List (List Char) :=
    match clock.ahead with
    | none => []
    | some 0 => ["tzinfo=datetime.timezone.utc".toList]
    | some minutes => ["tzinfo=datetime.timezone(".toList ++ shownMinutes minutes ++ [')']]
  numbers.map (fun (n : Nat) => integerText n) ++ zone

/-- A moment as messages show it. -/
def shown (m : Moment) : List Char :=
  let day := [m.year, m.month, m.day].map fun (n : Nat) => integerText n
  match m.clock with
  | none => "datetime.date(".toList ++ commaSeparated day ++ [')']
  | some clock =>
    "datetime.datetime(".toList ++ commaSeparated (day ++ shownClock clock) ++ [')']

end Moment

end StyleCheck
