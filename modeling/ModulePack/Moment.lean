import ModulePack.Text.Affix

/-!
# Moments

A moment is a day, a time of day, or a time on a day, which may come with the minutes that its
clock is ahead of universal time. Only moments of one kind can be put in order.
-/

namespace ModulePack

def isLeapYear (year : Nat) : Bool := year % 4 == 0 && (year % 100 != 0 || year % 400 == 0)

def daysOfMonth (year month : Nat) : Nat :=
  if month = 2 then (if isLeapYear year then 29 else 28)
  else if month ∈ [4, 6, 9, 11] then 30
  else 31

structure Day where
  year : Nat
  month : Nat
  day : Nat
  deriving DecidableEq, Repr, Inhabited

namespace Day

/-- Whether the calendar has the day. There is no year zero. -/
def isValid (d : Day) : Bool :=
  1 ≤ d.year && 1 ≤ d.month && d.month ≤ 12 && 1 ≤ d.day && d.day ≤ daysOfMonth d.year d.month

def daysBefore (year month : Nat) : Nat :=
  let past := year - 1
  365 * past + past / 4 - past / 100 + past / 400 +
    ((List.range (month - 1)).map fun m => daysOfMonth year (m + 1)).foldl (· + ·) 0

def number (d : Day) : Nat := daysBefore d.year d.month + d.day

end Day

structure TimeOfDay where
  hour : Nat
  minute : Nat
  second : Nat
  microsecond : Nat
  deriving DecidableEq, Repr, Inhabited

def TimeOfDay.number (t : TimeOfDay) : Nat :=
  ((t.hour * 60 + t.minute) * 60 + t.second) * 1000000 + t.microsecond

inductive Moment
  | day (d : Day)
  | time (t : TimeOfDay)
  | dayTime (d : Day) (t : TimeOfDay) (ahead : Option Int)
  deriving DecidableEq, Repr, Inhabited

/-- The digits of a number behind so many zeros that there are `width` of them. -/
def padNumber (width n : Nat) : String :=
  let digits := (Nat.repr n).toList
  String.ofList (List.replicate (width - digits.length) '0' ++ digits)

def Day.text (d : Day) : String :=
  padNumber 4 d.year ++ "-" ++ padNumber 2 d.month ++ "-" ++ padNumber 2 d.day

def TimeOfDay.text (t : TimeOfDay) : String :=
  padNumber 2 t.hour ++ ":" ++ padNumber 2 t.minute ++ ":" ++ padNumber 2 t.second ++
    if t.microsecond = 0 then "" else "." ++ padNumber 6 t.microsecond

namespace Moment

def aheadText (ahead : Int) : String :=
  (if ahead < 0 then "-" else "+") ++ padNumber 2 (ahead.natAbs / 60) ++ ":" ++
    padNumber 2 (ahead.natAbs % 60)

def text : Moment → String
  | .day d => d.text
  | .time t => t.text
  | .dayTime d t ahead => d.text ++ " " ++ t.text ++ (ahead.map aheadText).getD ""

/-- The parts of a time that are written: the smallest ones are left out when they are zero, but
for hours and minutes. -/
def timeParts (t : TimeOfDay) : List Nat :=
  [t.hour, t.minute] ++
    if t.microsecond ≠ 0 then [t.second, t.microsecond]
    else if t.second ≠ 0 then [t.second]
    else []

def dayParts (d : Day) : List Nat := [d.year, d.month, d.day]

/-- A zone that is so many minutes ahead, as whole days and seconds of a day. -/
def zoneLiteral (ahead : Int) : String :=
  if ahead = 0 then "datetime.timezone.utc"
  else
    let days := if ahead < 0 then "days=-1, " else ""
    "datetime.timezone(datetime.timedelta(" ++ days ++ "seconds=" ++
      toString (ahead * 60 % 86400) ++ "))"

def call (name : String) (arguments : List String) : String :=
  name ++ "(" ++ Text.join ", " arguments ++ ")"

def literal : Moment → String
  | .day d => call "datetime.date" ((dayParts d).map toString)
  | .time t => call "datetime.time" ((timeParts t).map toString)
  | .dayTime d t ahead =>
    call "datetime.datetime" ((dayParts d ++ timeParts t).map toString ++
      match ahead with
      | some ahead => ["tzinfo=" ++ zoneLiteral ahead]
      | none => [])

def instant (d : Day) (t : TimeOfDay) (ahead : Int) : Int :=
  ((d.number : Int) * 1440 - ahead) * 60000000 + t.number

/-- The numbers by which two moments are compared, if they can be. -/
def comparable? : Moment → Moment → Option (Int × Int)
  | .day d, .day e => some (d.number, e.number)
  | .time t, .time u => some (t.number, u.number)
  | .dayTime d t none, .dayTime e u none => some (instant d t 0, instant e u 0)
  | .dayTime d t (some a), .dayTime e u (some b) => some (instant d t a, instant e u b)
  | _, _ => none

def less? (m n : Moment) : Option Bool := (comparable? m n).map fun (a, b) => decide (a < b)

def same (m n : Moment) : Bool := (comparable? m n).any fun (a, b) => a == b

end Moment

end ModulePack
