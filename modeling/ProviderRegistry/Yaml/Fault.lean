import ProviderRegistry.Number.Numeral

/-!
# Faults of YAML texts

Why a text has no value. Most texts without one are malformed; others have the form of a value, but
there is no such number, day or character.
-/

namespace ProviderRegistry.Yaml

/-- What the calendar objects to. -/
inductive CalendarFault where
  | year (year : Nat)
  | month
  | day
  | hour
  | minute
  | second
  /-- An offset from universal time of a day or more: its whole days and the seconds beyond
  them. -/
  | offset (days : Int) (seconds : Nat)
  deriving DecidableEq, Repr

/-- The objection in words. -/
def CalendarFault.message : CalendarFault → String
  | .year y => s!"year {y} is out of range"
  | .month => "month must be in 1..12"
  | .day => "day is out of range for month"
  | .hour => "hour must be in 0..23"
  | .minute => "minute must be in 0..59"
  | .second => "second must be in 0..59"
  | .offset days seconds =>
    let parts := s!"days={days}" :: if seconds = 0 then [] else [s!"seconds={seconds}"]
    "offset must be a timedelta strictly between -timedelta(hours=24) and timedelta(hours=24), " ++
      "not datetime.timedelta(" ++ ", ".intercalate parts ++ ")."

/-- Why a text has no value. -/
inductive Fault where
  /-- The text breaks the rules of the format, or refers to what is not there. -/
  | malformed
  /-- An escape stands for no character, as its number is too large. -/
  | beyondUnicode
  /-- An escape stands for no character, as its number does not even fit a word of the machine. -/
  | beyondWord
  | numeral (fault : Numeral.Fault)
  | calendar (fault : CalendarFault)
  /-- A text that is said to be a switch is neither on nor off. -/
  | noSwitch
  /-- A text that is said to be a time has another form. -/
  | noTime
  /-- A collection is said to be a time. -/
  | timeOfCollection
  deriving DecidableEq, Repr

/-- The fault in words. -/
def Fault.message : Fault → String
  | .malformed => "not a well-formed document"
  | .beyondUnicode => "chr() arg not in range(0x110000)"
  | .beyondWord => "Python int too large to convert to C int"
  | .numeral fault => fault.message
  | .calendar fault => fault.message
  | .noSwitch => "not a switch"
  | .noTime => "not a timestamp"
  | .timeOfCollection => "a collection is no timestamp"

end ProviderRegistry.Yaml
