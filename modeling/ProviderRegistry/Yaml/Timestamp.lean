import ProviderRegistry.Yaml.Fault

/-!
# Dates and times

A timestamp is a day, or a moment of a day, which may say how far its clock is ahead of universal
time. A text has the form of a timestamp before it is one: the calendar may not know the day or the
hour.
-/

namespace ProviderRegistry.Yaml

/-- A day of the calendar. -/
structure Day where
  year : Nat
  month : Nat
  day : Nat
  deriving DecidableEq, Repr

/-- A time of the day. -/
structure Clock where
  hour : Nat
  minute : Nat
  second : Nat
  microsecond : Nat
  deriving DecidableEq, Repr

/-- A day, or a moment with the minutes that its clock is ahead of universal time, if they are
known. -/
inductive Timestamp where
  | day (day : Day)
  | moment (day : Day) (clock : Clock) (ahead : Option Int)
  deriving DecidableEq, Repr

/-! ### The calendar -/

/-- A year with a day more than others. -/
def isLeapYear (year : Nat) : Bool := year % 4 = 0 && (year % 100 ≠ 0 || year % 400 = 0)

/-- How many days a month has. -/
def daysInMonth (year month : Nat) : Nat :=
  if month = 2 then (if isLeapYear year then 29 else 28)
  else if month ∈ [4, 6, 9, 11] then 30
  else 31

/-- The days from the start of the calendar to a day. -/
def Day.number (d : Day) : Nat :=
  let years := d.year - 1
  let months := (List.range (d.month - 1)).map fun m => daysInMonth d.year (m + 1)
  365 * years + years / 4 - years / 100 + years / 400 + months.foldl (· + ·) 0 + d.day

/-- The day, if the calendar has it. -/
def Day.check (d : Day) : Except CalendarFault Day :=
  if d.year = 0 then .error (.year d.year)
  else if d.month = 0 ∨ 12 < d.month then .error .month
  else if d.day = 0 ∨ daysInMonth d.year d.month < d.day then .error .day
  else .ok d

/-- The time, if a day has it. -/
def Clock.check (c : Clock) : Except CalendarFault Clock :=
  if 23 < c.hour then .error .hour
  else if 59 < c.minute then .error .minute
  else if 59 < c.second then .error .second
  else .ok c

/-- The minutes of a day. -/
def minutesOfDay : Nat := 1440

/-- An offset from universal time, in minutes, which must be less than a day. -/
def checkOffset (ahead : Int) : Except CalendarFault Int :=
  if ahead.natAbs < minutesOfDay then .ok ahead
  else .error (.offset (ahead.fdiv minutesOfDay) ((ahead.fmod minutesOfDay).toNat * 60))

/-- The microseconds from the start of the calendar to a moment. -/
def instant (d : Day) (c : Clock) (ahead : Int) : Int :=
  let minutes : Int := d.number * minutesOfDay + c.hour * 60 + c.minute - ahead
  (minutes * 60 + c.second) * 1000000 + c.microsecond

/-- The timestamps name the same day or moment. A clock whose offset is not known is never equal to
one whose offset is. -/
def Timestamp.equals : Timestamp → Timestamp → Bool
  | .day a, .day b => a = b
  | .moment a c none, .moment b d none => a = b && c = d
  | .moment a c (some x), .moment b d (some y) => instant a c x = instant b d y
  | _, _ => false

/-! ### Reading -/

/-- Digits of ASCII at the front of a text, at least one and at most so many, and what follows
them. -/
def cutNumber? (least most : Nat) (cs : List Char) : Option (Nat × List Char) :=
  let digits := (cs.take most).takeWhile Char.isDigit
  if digits.length < least then none
  else some (Text.ofDigits 10 (digits.map fun c => c.toNat - '0'.toNat), cs.drop digits.length)

/-- What follows a character. -/
def cutChar? (c : Char) : List Char → Option (List Char)
  | x :: rest => if x = c then some rest else none
  | [] => none

/-- A day in front of a text; months and days may do with one digit. -/
def cutDay? (cs : List Char) : Option (Day × List Char) := do
  let (year, cs) ← cutNumber? 4 4 cs
  let (month, cs) ← cutNumber? 1 2 (← cutChar? '-' cs)
  let (day, cs) ← cutNumber? 1 2 (← cutChar? '-' cs)
  return (⟨year, month, day⟩, cs)

/-- What follows the mark between a day and a time. -/
def cutJoint? : List Char → Option (List Char)
  | 'T' :: rest | 't' :: rest => some rest
  | cs =>
    let rest := cs.dropWhile fun c => c = ' ' || c = '\t'
    if rest.length < cs.length then some rest else none

/-- The microseconds that digits behind a point come to; more than six make no difference. -/
def microseconds (digits : List Char) : Nat :=
  Text.ofDigits 10 (((digits ++ List.replicate 6 '0').take 6).map fun c => c.toNat - '0'.toNat)

/-- A time in front of a text. -/
def cutClock? (cs : List Char) : Option (Clock × List Char) := do
  let (hour, cs) ← cutNumber? 1 2 cs
  let (minute, cs) ← cutNumber? 2 2 (← cutChar? ':' cs)
  let (second, cs) ← cutNumber? 2 2 (← cutChar? ':' cs)
  match cs with
  | '.' :: rest =>
    return (⟨hour, minute, second, microseconds (rest.takeWhile Char.isDigit)⟩,
      rest.dropWhile Char.isDigit)
  | cs => return (⟨hour, minute, second, 0⟩, cs)

/-- The offset at the end of a text, in minutes, if there is one. -/
def offset? (cs : List Char) : Option (Option Int) := do
  match cs.dropWhile fun c => c = ' ' || c = '\t' with
  | [] => if cs.isEmpty then some none else none
  | ['Z'] => some (some 0)
  | sign :: rest =>
    if sign ≠ '+' ∧ sign ≠ '-' then none
    let (hours, rest) ← cutNumber? 1 2 rest
    let (minutes, rest) ← match rest with
      | ':' :: rest => cutNumber? 2 2 rest
      | rest => some (0, rest)
    if !rest.isEmpty then none
    return some (Binary64.signed (sign = '-') (hours * 60 + minutes))

/-- The timestamp in a text of that form, whether or not the calendar has it. -/
def timestampForm? (cs : List Char) : Option Timestamp := do
  let (day, rest) ← cutDay? cs
  if rest.isEmpty then return .day day
  let (clock, rest) ← cutClock? (← cutJoint? rest)
  return .moment day clock (← offset? rest)

/-- A text that is a timestamp without being called one. A day alone has all its digits. -/
def isTimestamp (cs : List Char) : Bool :=
  match timestampForm? cs with
  | none => false
  | some (.day _) => cs.length = 10
  | some (.moment ..) => true

/-- The timestamp, if the calendar has it. -/
def Timestamp.check : Timestamp → Except CalendarFault Timestamp
  | .day d => return .day (← d.check)
  | .moment d c ahead => do
    let ahead ← ahead.mapM checkOffset
    return .moment (← d.check) (← c.check) ahead

/-- The timestamp in a text that is called one. A line end may follow. -/
def Timestamp.ofText (text : String) : Except Fault Timestamp :=
  let cs := text.toList
  let cs := if cs.getLast? = some '\n' then cs.dropLast else cs
  match timestampForm? cs with
  | none => .error .noTime
  | some timestamp => timestamp.check.mapError Fault.calendar

/-! ### Writing -/

/-- A number with at least so many digits. -/
def padded (width n : Nat) : String :=
  let digits := Nat.toDigits 10 n
  String.ofList (List.replicate (width - digits.length) '0' ++ digits)

/-- The day as a text. -/
def Day.text (d : Day) : String := s!"{padded 4 d.year}-{padded 2 d.month}-{padded 2 d.day}"

/-- The time as a text. -/
def Clock.text (c : Clock) : String :=
  let fraction := if c.microsecond = 0 then "" else s!".{padded 6 c.microsecond}"
  s!"{padded 2 c.hour}:{padded 2 c.minute}:{padded 2 c.second}{fraction}"

/-- An offset as a text. -/
def offsetText (ahead : Int) : String :=
  let sign := if ahead < 0 then "-" else "+"
  s!"{sign}{padded 2 (ahead.natAbs / 60)}:{padded 2 (ahead.natAbs % 60)}"

/-- The timestamp as a text. -/
def Timestamp.text : Timestamp → String
  | .day d => d.text
  | .moment d c ahead =>
    let zone := (ahead.map offsetText).getD ""
    s!"{d.text} {c.text}{zone}"

/-- How an offset is shown inside a collection: as days and seconds, of which only the days may be
negative. -/
def offsetShown (ahead : Int) : String :=
  if ahead = 0 then "datetime.timezone.utc"
  else
    let days := ahead.fdiv minutesOfDay
    let seconds := ahead.fmod minutesOfDay * 60
    let parts := (if days = 0 then [] else [s!"days={days}"]) ++ [s!"seconds={seconds}"]
    "datetime.timezone(datetime.timedelta(" ++ ", ".intercalate parts ++ "))"

/-- How the timestamp is shown inside a collection. Seconds and smaller parts are left out where
they are zero. -/
def Timestamp.shown : Timestamp → String
  | .day d => s!"datetime.date({d.year}, {d.month}, {d.day})"
  | .moment d c ahead =>
    let parts := [d.year, d.month, d.day, c.hour, c.minute] ++
      if c.microsecond ≠ 0 then [c.second, c.microsecond]
      else if c.second ≠ 0 then [c.second]
      else []
    let zone := (ahead.map fun ahead => [s!"tzinfo={offsetShown ahead}"]).getD []
    "datetime.datetime(" ++ ", ".intercalate (parts.map toString ++ zone) ++ ")"

end ProviderRegistry.Yaml
