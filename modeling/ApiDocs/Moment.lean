import ApiDocs.Text.Basic

/-! Dates and times. They are ordered by when they are: days among days, times of a day among such times, and moments
    among moments. A moment that says how far clocks are ahead has no order with one that does not. -/

namespace ApiDocs

/-- A day. -/
structure Date where
  year : Nat
  month : Nat
  day : Nat
deriving DecidableEq

/-- A time of a day. -/
structure Time where
  hour : Nat
  minute : Nat
  second : Nat
  microsecond : Nat
deriving DecidableEq

/-- A date, a time, or both, perhaps with the minutes by which clocks are ahead of universal time. -/
inductive Moment
  | date (date : Date)
  | time (time : Time)
  | both (date : Date) (time : Time) (ahead : Option Int)
deriving DecidableEq

/-! ### Checking -/

/-- Whether a year has a day more in February. -/
def isLeap (year : Nat) : Bool := year % 4 == 0 && (year % 100 != 0 || year % 400 == 0)

/-- How many days a month has. -/
def daysIn (year month : Nat) : Nat :=
  if month = 2 then (if isLeap year then 29 else 28) else if [4, 6, 9, 11].contains month then 30 else 31

/-- Whether there is such a day. -/
def Date.isValid (date : Date) : Bool := 1 ≤ date.year && date.day ≤ daysIn date.year date.month

/-- Whether there is such a moment. -/
def Moment.isValid : Moment → Bool
  | .date d => d.isValid
  | .time _ => true
  | .both d _ _ => d.isValid

/-! ### Order -/

/-- How many days there are before a day, from the first day of the year 1 on. -/
def Date.daysBefore (date : Date) : Nat :=
  let years := date.year - 1
  let months := (List.range (date.month - 1)).map fun n => daysIn date.year (n + 1)
  365 * years + years / 4 - years / 100 + years / 400 + months.foldl (· + ·) 0 + (date.day - 1)

/-- The microseconds of a day before a time. -/
def Time.microsecondsBefore (time : Time) : Nat :=
  ((time.hour * 60 + time.minute) * 60 + time.second) * 1000000 + time.microsecond

/-- What a moment is compared with. -/
inductive Moment.Scale
  | days
  | times
  /-- Moments by clocks of which nothing is known. -/
  | clocks
  | universal
deriving DecidableEq

/-- What a moment is compared with. -/
def Moment.scale : Moment → Moment.Scale
  | .date _ => .days
  | .time _ => .times
  | .both _ _ none => .clocks
  | .both _ _ (some _) => .universal

/-- Where a moment is on its scale. -/
def Moment.position : Moment → Int
  | .date d => d.daysBefore
  | .time t => t.microsecondsBefore
  | .both d t ahead =>
    (d.daysBefore * 86400 * 1000000 + t.microsecondsBefore : Nat) - ahead.getD 0 * 60 * 1000000

/-- Whether two moments are the same one. -/
def Moment.same (a b : Moment) : Bool := a.scale == b.scale && a.position == b.position

/-! ### Writing -/

/-- A date as it is written. -/
def Date.written (date : Date) : Text :=
  Text.padded 4 date.year ++ "-" ++ Text.padded 2 date.month ++ "-" ++ Text.padded 2 date.day

/-- A time as it is written. -/
def Time.written (time : Time) : Text :=
  Text.padded 2 time.hour ++ ":" ++ Text.padded 2 time.minute ++ ":" ++ Text.padded 2 time.second ++
    if time.microsecond = 0 then [] else '.' :: Text.padded 6 time.microsecond

/-- How far clocks are ahead, as it is written. -/
def aheadWritten (ahead : Int) : Text :=
  (if ahead < 0 then "-" else "+") ++ Text.padded 2 (ahead.natAbs / 60) ++ ":" ++ Text.padded 2 (ahead.natAbs % 60)

/-- A moment as it is written. -/
def Moment.written : Moment → Text
  | .date d => d.written
  | .time t => t.written
  | .both d t ahead => d.written ++ " " ++ t.written ++ ahead.toList.flatMap aheadWritten

/-- The parts of a date. -/
def Date.parts (date : Date) : List Nat := [date.year, date.month, date.day]

/-- The parts of a time; seconds and microseconds are left out where nothing but zeros follows. -/
def Time.parts (time : Time) : List Nat :=
  [time.hour, time.minute] ++
    if time.microsecond ≠ 0 then [time.second, time.microsecond]
    else if time.second ≠ 0 then [time.second]
    else []

/-- How far clocks are ahead, as it is shown: in seconds, which are positive after whole days are taken off. -/
def aheadShown (ahead : Int) : Text :=
  if ahead = 0 then "datetime.timezone.utc"
  else
    let seconds := "seconds=" ++ Text.ofInt ((ahead * 60) % 86400)
    "datetime.timezone(datetime.timedelta(" ++ (if ahead < 0 then "days=-1, " ++ seconds else seconds) ++ "))"

/-- A call with its arguments. -/
def callShown (name : Text) (arguments : List Text) : Text := "datetime." ++ name ++ "(" ++ Text.join ", " arguments ++ ")"

/-- A moment as it is shown. -/
def Moment.shown : Moment → Text
  | .date d => callShown "date" (d.parts.map Text.ofNat)
  | .time t => callShown "time" (t.parts.map Text.ofNat)
  | .both d t ahead =>
    callShown "datetime" ((d.parts ++ t.parts).map Text.ofNat ++
      ahead.toList.map fun ahead => "tzinfo=" ++ aheadShown ahead)

end ApiDocs
