namespace RouteIR

/-!
# Dates and times of day

Dates of the Gregorian calendar with years 1 to 9999, and times to the
microsecond with an optional offset from universal time in minutes.  A time with
an offset names an instant, and two such times are the same value when their
instants agree; a time without one is compared field by field.
-/

structure Date where
  year : Nat
  month : Nat
  day : Nat
deriving DecidableEq, Repr

structure DateTime where
  date : Date
  hour : Nat
  minute : Nat
  second : Nat
  microsecond : Nat
  /-- Minutes east of universal time. -/
  offset : Option Int
deriving DecidableEq, Repr

namespace Calendar

/-- A number with zeros in front up to the given width. -/
def padded (width value : Nat) : String :=
  let digits := Nat.toDigits 10 value
  String.ofList (List.replicate (width - digits.length) '0' ++ digits)

def isLeap (year : Nat) : Bool :=
  year % 4 = 0 && (year % 100 ≠ 0 || year % 400 = 0)

def daysInMonth (year month : Nat) : Nat :=
  if month = 2 then (if isLeap year then 29 else 28)
  else if month = 4 ∨ month = 6 ∨ month = 9 ∨ month = 11 then 30
  else 31

end Calendar

namespace Date

def isValid (date : Date) : Bool :=
  1 ≤ date.year && date.year ≤ 9999 && 1 ≤ date.month && date.month ≤ 12 &&
    1 ≤ date.day && date.day ≤ Calendar.daysInMonth date.year date.month

/-- How many days lie before a date, counted from the first day of year one. -/
def ordinal (date : Date) : Nat :=
  let years := date.year - 1
  let months := (List.range (date.month - 1)).map fun index =>
    Calendar.daysInMonth date.year (index + 1)
  years * 365 + years / 4 - years / 100 + years / 400 + months.foldl (· + ·) 0 + (date.day - 1)

def isoText (date : Date) : String :=
  Calendar.padded 4 date.year ++ "-" ++ Calendar.padded 2 date.month ++ "-" ++
    Calendar.padded 2 date.day

/-- The constructor form, as it appears inside quoted values. -/
def quoted (date : Date) : String :=
  "datetime.date(" ++ toString date.year ++ ", " ++ toString date.month ++ ", " ++
    toString date.day ++ ")"

end Date

namespace DateTime

def isValid (moment : DateTime) : Bool :=
  moment.date.isValid && moment.hour < 24 && moment.minute < 60 && moment.second < 60 &&
    match moment.offset with
    | none => true
    | some offset => -1440 < offset && offset < 1440

/-- Microseconds since the first day of year one, at the given offset. -/
def instant (moment : DateTime) (offset : Int) : Int :=
  let minutes : Int := (moment.date.ordinal * 24 + moment.hour) * 60 + moment.minute - offset
  (minutes * 60 + moment.second) * 1000000 + moment.microsecond

def offsetText (offset : Int) : String :=
  (if offset < 0 then "-" else "+") ++ Calendar.padded 2 (offset.natAbs / 60) ++ ":" ++
    Calendar.padded 2 (offset.natAbs % 60)

private def clockText (moment : DateTime) : String :=
  Calendar.padded 2 moment.hour ++ ":" ++ Calendar.padded 2 moment.minute ++ ":" ++
    Calendar.padded 2 moment.second ++
    (if moment.microsecond = 0 then "" else "." ++ Calendar.padded 6 moment.microsecond)

/-- The text with a separator between date and time of day. -/
def isoText (separator : String) (moment : DateTime) : String :=
  moment.date.isoText ++ separator ++ moment.clockText ++
    (match moment.offset with
     | none => ""
     | some offset => offsetText offset)

/-- The text in serialized documents, where universal time is a letter. -/
def serialText (moment : DateTime) : String :=
  moment.date.isoText ++ "T" ++ moment.clockText ++
    (match moment.offset with
     | none => ""
     | some offset => if offset = 0 then "Z" else offsetText offset)

private def quotedOffset (offset : Int) : String :=
  if offset = 0 then "datetime.timezone.utc"
  else
    let seconds := offset * 60
    let days := seconds.fdiv 86400
    let rest := seconds.fmod 86400
    let parts := (if days = 0 then [] else ["days=" ++ toString days]) ++
      (if rest = 0 then [] else ["seconds=" ++ toString rest])
    "datetime.timezone(datetime.timedelta(" ++ ", ".intercalate parts ++ "))"

/-- The constructor form, as it appears inside quoted values: trailing seconds and
microseconds that are zero are left out. -/
def quoted (moment : DateTime) : String :=
  let tail :=
    if moment.microsecond ≠ 0 then [moment.second, moment.microsecond]
    else if moment.second ≠ 0 then [moment.second]
    else []
  let numbers := [moment.date.year, moment.date.month, moment.date.day, moment.hour,
    moment.minute] ++ tail
  let zone := match moment.offset with
    | none => []
    | some offset => ["tzinfo=" ++ quotedOffset offset]
  "datetime.datetime(" ++ ", ".intercalate (numbers.map toString ++ zone) ++ ")"

end DateTime
end RouteIR
