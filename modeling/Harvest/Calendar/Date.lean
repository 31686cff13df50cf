/-!
Dates of the proleptic Gregorian calendar and times of day with leap seconds. Both types hold
valid values only, and moments are ordered by their parts.
-/

namespace Harvest

/-- Every fourth year is leap, except the centuries that four hundred does not divide. -/
def isLeapYear (year : Int) : Bool :=
  year % 4 == 0 && (year % 100 != 0 || year % 400 == 0)

/-- The number of days of a month. -/
def daysInMonth (year : Int) (month : Nat) : Nat :=
  if month = 2 then if isLeapYear year then 29 else 28
  else if month = 4 ∨ month = 6 ∨ month = 9 ∨ month = 11 then 30
  else 31

/-- The first year of the calendar. -/
def firstYear : Int := -262143

/-- The last year of the calendar. -/
def lastYear : Int := 262142

/-- The parts of a date are in range. -/
def IsDate (year : Int) (month day : Nat) : Prop :=
  firstYear ≤ year ∧ year ≤ lastYear ∧ 1 ≤ month ∧ month ≤ 12 ∧ 1 ≤ day ∧
    day ≤ daysInMonth year month

instance (year : Int) (month day : Nat) : Decidable (IsDate year month day) := by
  unfold IsDate
  infer_instance

/-- A day of the calendar. -/
structure Date where
  year : Int
  month : Nat
  day : Nat
  proper : IsDate year month day
  deriving DecidableEq

/-- The date with some parts, if there is one. -/
def Date.of? (year : Int) (month day : Nat) : Option Date :=
  if proper : IsDate year month day then some ⟨year, month, day, proper⟩ else none

/-- The day after a date, unless the calendar ends. -/
def Date.next? (date : Date) : Option Date :=
  match Date.of? date.year date.month (date.day + 1) with
  | some next => some next
  | none =>
    match Date.of? date.year (date.month + 1) 1 with
    | some next => some next
    | none => Date.of? (date.year + 1) 1 1

/-- Dates are ordered by year, month and day. -/
def Date.compare (left right : Date) : Ordering :=
  (Ord.compare left.year right.year).then
    ((Ord.compare left.month right.month).then (Ord.compare left.day right.day))

/-- The number of nanoseconds of a second. -/
def nanosecondsPerSecond : Nat := 1_000_000_000

/-- The parts of a time are in range, and a leap second extends the last second of a minute. -/
def IsTime (hour minute second nanosecond : Nat) : Prop :=
  hour < 24 ∧ minute < 60 ∧ second < 60 ∧
    (nanosecond < nanosecondsPerSecond ∨
      second = 59 ∧ nanosecond < 2 * nanosecondsPerSecond)

instance (hour minute second nanosecond : Nat) :
    Decidable (IsTime hour minute second nanosecond) := by
  unfold IsTime
  infer_instance

/-- A time of day; within a leap second the nanoseconds go on from one second to two. -/
structure TimeOfDay where
  hour : Nat
  minute : Nat
  second : Nat
  nanosecond : Nat
  proper : IsTime hour minute second nanosecond
  deriving DecidableEq

/-- The time with some parts, if there is one. -/
def TimeOfDay.of? (hour minute second nanosecond : Nat) : Option TimeOfDay :=
  if proper : IsTime hour minute second nanosecond then
    some ⟨hour, minute, second, nanosecond, proper⟩
  else none

/-- The same time in a day whose minutes have sixty seconds. -/
def TimeOfDay.withoutLeap (time : TimeOfDay) : TimeOfDay :=
  { time with
    nanosecond := time.nanosecond % nanosecondsPerSecond
    proper := by
      have bound := Nat.mod_lt time.nanosecond (show 0 < nanosecondsPerSecond by decide)
      exact ⟨time.proper.1, time.proper.2.1, time.proper.2.2.1, Or.inl bound⟩ }

/-- Times are ordered by hour, minute, second and nanosecond. -/
def TimeOfDay.compare (left right : TimeOfDay) : Ordering :=
  (Ord.compare left.hour right.hour).then
    ((Ord.compare left.minute right.minute).then
      ((Ord.compare left.second right.second).then
        (Ord.compare left.nanosecond right.nanosecond)))

/-- A moment without a time zone. -/
structure DateTime where
  date : Date
  time : TimeOfDay
  deriving DecidableEq

namespace DateTime

/-- Moments are ordered by date and then by time. -/
def compare (left right : DateTime) : Ordering :=
  (left.date.compare right.date).then (left.time.compare right.time)

/-- The same time on the next day, unless the calendar ends. -/
def nextDay? (moment : DateTime) : Option DateTime :=
  moment.date.next?.map fun date => ⟨date, moment.time.withoutLeap⟩

end DateTime

end Harvest
