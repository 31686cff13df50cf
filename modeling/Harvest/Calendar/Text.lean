import Harvest.Calendar.Date
import Harvest.Number.Digits
import Harvest.Text.WhiteSpace

/-!
The text of moments. Writing has one form; reading also takes shorter numbers, a sign before the
year, blanks around the separators and longer fractions.
-/

namespace Harvest

/-- A number with leading zeros up to a width. -/
def padded (width value : Nat) : String :=
  let digits := Nat.toDigits 10 value
  String.ofList (List.replicate (width - digits.length) '0' ++ digits)

/-- A year has four digits at least, and a sign outside the years 0 to 9999. -/
def Date.yearText (year : Int) : String :=
  let digits := padded 4 year.natAbs
  if year < 0 then "-" ++ digits else if 9999 < year then "+" ++ digits else digits

/-- A date is its year, month and day between hyphens. -/
def Date.text (date : Date) : String :=
  Date.yearText date.year ++ "-" ++ padded 2 date.month ++ "-" ++ padded 2 date.day

/-- A fraction has three, six or nine digits, or none when it is zero. -/
def fractionText (nanosecond : Nat) : String :=
  if nanosecond = 0 then ""
  else if nanosecond % 1_000_000 = 0 then "." ++ padded 3 (nanosecond / 1_000_000)
  else if nanosecond % 1_000 = 0 then "." ++ padded 6 (nanosecond / 1_000)
  else "." ++ padded 9 nanosecond

/-- A time shows a leap second as second sixty. -/
def TimeOfDay.text (time : TimeOfDay) : String :=
  padded 2 time.hour ++ ":" ++ padded 2 time.minute ++ ":" ++
    padded 2 (time.second + time.nanosecond / nanosecondsPerSecond) ++
    fractionText (time.nanosecond % nanosecondsPerSecond)

namespace DateTime

/-- A moment as it is shown. -/
def text (moment : DateTime) : String :=
  moment.date.text ++ " " ++ moment.time.text

/-- A moment as it is saved. -/
def savedText (moment : DateTime) : String :=
  moment.date.text ++ "T" ++ moment.time.text

/-- A number of one to `width` digits and what follows it. -/
def readNumber (width : Nat) (characters : List Char) : Option (Nat × List Char) :=
  let digits := (characters.take width).takeWhile Char.isDigit
  if digits.isEmpty then none else some (Digits.decimal digits, characters.drop digits.length)

/-- A year without a sign has four digits at most. -/
def readYear (characters : List Char) : Option (Int × List Char) :=
  match characters with
  | '-' :: rest => (readNumber rest.length rest).map fun (value, rest) => (-(value : Int), rest)
  | '+' :: rest => (readNumber rest.length rest).map fun (value, rest) => ((value : Int), rest)
  | rest => (readNumber 4 rest).map fun (value, rest) => ((value : Int), rest)

/-- A separator after blanks. -/
def readSeparator (separator : Char) (characters : List Char) : Option (List Char) :=
  match Text.trimStart characters with
  | found :: rest => if found = separator then some rest else none
  | [] => none

/-- A fraction in nanoseconds; digits after the ninth are dropped. -/
def readFraction : List Char → Option (Nat × List Char)
  | '.' :: rest =>
    (readNumber 9 rest).map fun (value, following) =>
      (value * Digits.powerOfTen (9 - (rest.length - following.length)),
        following.dropWhile Char.isDigit)
  | rest => some (0, rest)

/-- A number of one or two digits after blanks. -/
def readPart (characters : List Char) : Option (Nat × List Char) :=
  readNumber 2 (Text.trimStart characters)

/-- The moment that a text names. -/
def ofText? (source : String) : Option DateTime := do
  let (year, rest) ← readYear (Text.trimStart source.toList)
  let (month, rest) ← readPart (← readSeparator '-' rest)
  let (day, rest) ← readPart (← readSeparator '-' rest)
  let (hour, rest) ← readPart (← readSeparator 'T' rest)
  let (minute, rest) ← readPart (← readSeparator ':' rest)
  let (second, rest) ← readPart (← readSeparator ':' rest)
  let (nanosecond, rest) ← readFraction rest
  guard (Text.trimStart rest).isEmpty
  let date ← Date.of? year month day
  let time ←
    if second = 60 then TimeOfDay.of? hour minute 59 (nanosecondsPerSecond + nanosecond)
    else TimeOfDay.of? hour minute second nanosecond
  return ⟨date, time⟩

end DateTime

end Harvest
