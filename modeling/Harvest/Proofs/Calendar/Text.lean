import Harvest.Calendar.Text
import Harvest.Proofs.Number.Digits
import Mathlib.Algebra.Group.Nat.Defs

/-!
Moments are read back from their saved text. Each part is written with digits only, so a part ends
where its separator starts, and no blank comes before either.
-/

namespace Harvest

theorem toList_append_of_mark (character : Char) {mark : String}
    (spelled : mark.toList = [character]) (text : String) :
    (mark ++ text).toList = character :: text.toList := by
  rw [String.toList_append, spelled, List.singleton_append]

section Padded

variable {width value : Nat} {rest : List Char}

theorem toList_padded (width value : Nat) : (padded width value).toList =
    List.replicate (width - (Nat.toDigits 10 value).length) '0' ++ Nat.toDigits 10 value :=
  String.toList_ofList

theorem isDigit_of_mem_padded {digit : Char} (inside : digit ∈ (padded width value).toList) :
    digit.isDigit = true := by
  rw [toList_padded, List.mem_append] at inside
  rcases inside with zero | inside
  · rw [List.eq_of_mem_replicate zero]
    rfl
  · exact Digits.isDigit_of_mem_toDigits inside

theorem decimal_padded (width value : Nat) :
    Digits.decimal (padded width value).toList = value := by
  rw [toList_padded, Digits.decimal_zeros_append, Digits.decimal_toDigits]

theorem padded_ne_nil (width value : Nat) : (padded width value).toList ≠ [] := by
  simp [toList_padded, Nat.toDigits_ne_nil]

/-- A number that is small enough has the full width and no more. -/
theorem length_padded (positive : 0 < width) (small : value < 10 ^ width) :
    (padded width value).toList.length = width := by
  have digits := (Nat.length_toDigits_le_iff (by decide) positive).2 small
  rw [toList_padded, List.length_append, List.length_replicate]
  omega

/-- A padded number starts with a digit. -/
theorem padded_eq_cons (width value : Nat) :
    ∃ head tail, (padded width value).toList = head :: tail ∧ head.isDigit = true := by
  obtain ⟨head, tail, same⟩ := List.exists_cons_of_ne_nil (padded_ne_nil width value)
  exact ⟨head, tail, same, isDigit_of_mem_padded (same ▸ List.mem_cons_self)⟩

end Padded

/-- Digits are neither blanks nor signs nor points. -/
theorem digit_plain {digit : Char} (isDigit : digit.isDigit = true) :
    Text.isWhiteSpace digit = false ∧ digit ≠ '-' ∧ digit ≠ '+' ∧ digit ≠ '.' :=
  Digits.forall_isDigit (fun digit => Text.isWhiteSpace digit = false ∧ digit ≠ '-' ∧ digit ≠ '+' ∧
    digit ≠ '.') (by decide) isDigit

namespace Text

/-- Nothing is trimmed in front of what is no white space. -/
theorem trimStart_cons {head : Char} (solid : isWhiteSpace head = false) (rest : List Char) :
    trimStart (head :: rest) = head :: rest := by
  rw [trimStart, List.dropWhile_cons_of_neg (by simp [solid])]

theorem trimStart_padded (width value : Nat) (rest : List Char) :
    trimStart ((padded width value).toList ++ rest) = (padded width value).toList ++ rest := by
  obtain ⟨head, tail, same, isDigit⟩ := padded_eq_cons width value
  rw [same]
  exact trimStart_cons (digit_plain isDigit).1 _

end Text

/-- Some parts name the date that has them. -/
theorem Date.of?_eq_some {year : Int} {month day : Nat} {date : Date} :
    Date.of? year month day = some date ↔
      date.year = year ∧ date.month = month ∧ date.day = day := by
  rcases date with ⟨_, _, _, proper⟩
  constructor
  · intro found
    unfold Date.of? at found
    split at found
    · cases found
      exact ⟨rfl, rfl, rfl⟩
    · contradiction
  · rintro ⟨rfl, rfl, rfl⟩
    exact dif_pos proper

/-- The parts of a date are those of that date. -/
theorem Date.of?_parts (date : Date) : Date.of? date.year date.month date.day = some date :=
  Date.of?_eq_some.2 ⟨rfl, rfl, rfl⟩

/-- Months and days have two digits at most. -/
theorem Date.two_digits (date : Date) : date.month < 100 ∧ date.day < 100 := by
  obtain ⟨-, -, -, monthBound, -, dayBound⟩ := date.proper
  have days : daysInMonth date.year date.month ≤ 31 := by
    unfold daysInMonth
    split
    · split <;> decide
    · split <;> decide
  omega

namespace TimeOfDay

/-- Some parts name the time that has them. -/
theorem of?_eq_some_iff {hour minute second nanosecond : Nat} {time : TimeOfDay} :
    TimeOfDay.of? hour minute second nanosecond = some time ↔ time.hour = hour ∧
      time.minute = minute ∧ time.second = second ∧ time.nanosecond = nanosecond := by
  rcases time with ⟨_, _, _, _, proper⟩
  constructor
  · intro found
    unfold TimeOfDay.of? at found
    split at found
    · cases found
      exact ⟨rfl, rfl, rfl, rfl⟩
    · contradiction
  · rintro ⟨rfl, rfl, rfl, rfl⟩
    exact dif_pos proper

theorem of?_eq_some {hour minute second nanosecond : Nat}
    (proper : IsTime hour minute second nanosecond) :
    TimeOfDay.of? hour minute second nanosecond =
      some ⟨hour, minute, second, nanosecond, proper⟩ :=
  of?_eq_some_iff.2 ⟨rfl, rfl, rfl, rfl⟩

/-- Hours and minutes have two digits at most. -/
theorem two_digits (time : TimeOfDay) : time.hour < 100 ∧ time.minute < 100 := by
  obtain ⟨hour, minute, -, -⟩ := time.proper
  omega

/-- A second that is shown has two digits at most. -/
theorem shownSecond_lt (time : TimeOfDay) :
    time.second + time.nanosecond / nanosecondsPerSecond < 100 := by
  obtain ⟨-, -, second, nanosecond⟩ := time.proper
  unfold nanosecondsPerSecond at nanosecond ⊢
  omega

/-- A shown second stands for the second and what the nanoseconds add to it. Only a leap second is
shown as the sixtieth. -/
theorem of?_shown (time : TimeOfDay) :
    (if time.second + time.nanosecond / nanosecondsPerSecond = 60 then
        TimeOfDay.of? time.hour time.minute 59
          (nanosecondsPerSecond + time.nanosecond % nanosecondsPerSecond)
      else
        TimeOfDay.of? time.hour time.minute
          (time.second + time.nanosecond / nanosecondsPerSecond)
          (time.nanosecond % nanosecondsPerSecond)) = some time := by
  obtain ⟨hour, minute, second, nanosecond, proper⟩ := time
  obtain ⟨-, -, secondSmall, small⟩ := id proper
  dsimp only
  split
  · next shown =>
      have leap : second = 59 ∧
          nanosecondsPerSecond + nanosecond % nanosecondsPerSecond = nanosecond := by
        unfold nanosecondsPerSecond at shown small ⊢
        omega
      obtain ⟨rfl, same⟩ := leap
      rw [same]
      exact of?_eq_some proper
  · next plain =>
      have whole : nanosecond < nanosecondsPerSecond := by
        unfold nanosecondsPerSecond at plain small ⊢
        omega
      rw [Nat.div_eq_of_lt whole, Nat.mod_eq_of_lt whole, Nat.add_zero]
      exact of?_eq_some proper

end TimeOfDay

namespace DateTime

/-- A number is read when its digits are those within the limit. -/
theorem readNumber_padded {width limit value : Nat} {rest : List Char}
    (digits : (((padded width value).toList ++ rest).take limit).takeWhile Char.isDigit =
      (padded width value).toList) :
    readNumber limit ((padded width value).toList ++ rest) = some (value, rest) := by
  have nonempty : (padded width value).toList.isEmpty = false := by
    simpa using padded_ne_nil width value
  simp only [readNumber, digits, nonempty, Bool.false_eq_true, if_false, decimal_padded,
    List.drop_left]

/-- A number of the full width is read whatever follows. -/
theorem readNumber_width (width value : Nat) (positive : 0 < width) (small : value < 10 ^ width)
    (rest : List Char) :
    readNumber width ((padded width value).toList ++ rest) = some (value, rest) := by
  refine readNumber_padded ?_
  rw [List.take_left' (length_padded positive small)]
  exact List.takeWhile_eq_self_iff.2 fun _ => isDigit_of_mem_padded

/-- Without a limit a number is read up to what is no digit. -/
theorem readNumber_all (width value : Nat) {rest : List Char}
    (ends : ∀ next ∈ rest.head?, next.isDigit = false) :
    readNumber ((padded width value).toList ++ rest).length
      ((padded width value).toList ++ rest) = some (value, rest) := by
  refine readNumber_padded ?_
  rw [List.take_length]
  exact takeWhile_run_append (fun _ => isDigit_of_mem_padded) ends

/-- A part of two digits is read whatever follows. -/
theorem readPart_padded {value : Nat} (small : value < 100) (rest : List Char) :
    readPart ((padded 2 value).toList ++ rest) = some (value, rest) := by
  rw [readPart, Text.trimStart_padded]
  exact readNumber_width 2 value (by decide) small rest

theorem readSeparator_cons (separator : Char) (solid : Text.isWhiteSpace separator = false)
    (rest : List Char) : readSeparator separator (separator :: rest) = some rest := by
  rw [readSeparator, Text.trimStart_cons solid]
  exact if_pos rfl

/-- A part of two digits is read behind its separator, and what follows goes on with it. -/
theorem bind_separated {α : Type} {separator : Char} {value : Nat} {rest : List Char}
    {next : Nat × List Char → Option α} {result : α}
    (solid : Text.isWhiteSpace separator = false) (small : value < 100)
    (following : next (value, rest) = some result) :
    (readSeparator separator (separator :: ((padded 2 value).toList ++ rest)) >>=
      fun found => readPart found >>= next) = some result :=
  Option.bind_eq_some_iff.2 ⟨_, readSeparator_cons separator solid _,
    Option.bind_eq_some_iff.2 ⟨_, readPart_padded small rest, following⟩⟩

/-- A year that starts with a digit has no sign. -/
theorem readYear_unsigned {head : Char} (isDigit : head.isDigit = true) (rest : List Char) :
    readYear (head :: rest) =
      (readNumber 4 (head :: rest)).map fun read => ((read.1 : Int), read.2) := by
  obtain ⟨-, noMinus, noPlus, -⟩ := digit_plain isDigit
  rw [readYear]
  · rintro tail ⟨⟩
    exact noMinus rfl
  · rintro tail ⟨⟩
    exact noPlus rfl

/-- A year is read up to the hyphen behind it: with a sign all of its digits, and without one the
four that it has. -/
theorem readYear_yearText (year : Int) (rest : List Char) :
    readYear ((Date.yearText year).toList ++ '-' :: rest) = some (year, '-' :: rest) := by
  have signed : readNumber ((padded 4 year.natAbs).toList ++ '-' :: rest).length
      ((padded 4 year.natAbs).toList ++ '-' :: rest) = some (year.natAbs, '-' :: rest) :=
    readNumber_all 4 year.natAbs (by simp)
  unfold Date.yearText
  split
  · next negative =>
      have same : -(year.natAbs : Int) = year := by omega
      rw [toList_append_of_mark '-' rfl, List.cons_append, readYear, signed, Option.map_some]
      simp only [same]
  · split
    · next nonnegative large =>
        have same : (year.natAbs : Int) = year := by omega
        rw [toList_append_of_mark '+' rfl, List.cons_append, readYear, signed, Option.map_some]
        simp only [same]
    · next nonnegative small =>
        have same : (year.natAbs : Int) = year := by omega
        have four := readNumber_width 4 year.natAbs (by decide) (by omega) ('-' :: rest)
        obtain ⟨head, tail, digits, isDigit⟩ := padded_eq_cons 4 year.natAbs
        rw [digits, List.cons_append] at four ⊢
        rw [readYear_unsigned isDigit, four, Option.map_some, same]

/-- Nothing but blanks may stand before a year, and none do. -/
theorem trimStart_yearText (year : Int) (rest : List Char) :
    Text.trimStart ((Date.yearText year).toList ++ rest) =
      (Date.yearText year).toList ++ rest := by
  unfold Date.yearText
  split
  · rw [toList_append_of_mark '-' rfl]
    exact Text.trimStart_cons (by decide) _
  · split
    · rw [toList_append_of_mark '+' rfl]
      exact Text.trimStart_cons (by decide) _
    · exact Text.trimStart_padded 4 year.natAbs rest

/-- The digits of a fraction are read back as nanoseconds. -/
theorem readFraction_point (width value : Nat) (positive : 0 < width) (short : width ≤ 9)
    (small : value < 10 ^ width) :
    readFraction ("." ++ padded width value).toList = some (value * 10 ^ (9 - width), []) := by
  have read : readNumber 9 ((padded width value).toList ++ []) = some (value, []) := by
    refine readNumber_padded ?_
    rw [List.append_nil, List.take_of_length_le (by rw [length_padded positive small]; exact short)]
    exact List.takeWhile_eq_self_iff.2 fun _ => isDigit_of_mem_padded
  rw [List.append_nil] at read
  rw [toList_append_of_mark '.' rfl, readFraction, read, Option.map_some,
    length_padded positive small]
  rfl

theorem readFraction_fractionText {nanosecond : Nat} (small : nanosecond < nanosecondsPerSecond) :
    readFraction (fractionText nanosecond).toList = some (nanosecond, []) := by
  unfold nanosecondsPerSecond at small
  unfold fractionText
  split
  · next zero =>
      rw [zero]
      rfl
  · split
    · next whole =>
        have read := readFraction_point 3 (nanosecond / 1_000_000) (by decide) (by decide)
          (by omega)
        have same : nanosecond / 1_000_000 * 10 ^ (9 - 3) = nanosecond := by omega
        rwa [same] at read
    · split
      · next whole =>
          have read := readFraction_point 6 (nanosecond / 1_000) (by decide) (by decide)
            (by omega)
          have same : nanosecond / 1_000 * 10 ^ (9 - 6) = nanosecond := by omega
          rwa [same] at read
      · have read := readFraction_point 9 nanosecond (by decide) (by decide) (by omega)
        rwa [Nat.sub_self, Nat.pow_zero, Nat.mul_one] at read

/-- A saved text is its parts, each behind its separator, with the fraction at the end. -/
theorem toList_savedText (moment : DateTime) :
    moment.savedText.toList =
      (Date.yearText moment.date.year).toList ++ '-' :: ((padded 2 moment.date.month).toList ++
        '-' :: ((padded 2 moment.date.day).toList ++ 'T' :: ((padded 2 moment.time.hour).toList ++
          ':' :: ((padded 2 moment.time.minute).toList ++ ':' ::
            ((padded 2 (moment.time.second +
              moment.time.nanosecond / nanosecondsPerSecond)).toList ++
            (fractionText (moment.time.nanosecond % nanosecondsPerSecond)).toList))))) := by
  simp [savedText, Date.text, TimeOfDay.text]

/-- A moment is read back from its saved text. -/
theorem ofText?_savedText (moment : DateTime) : ofText? moment.savedText = some moment := by
  obtain ⟨date, time⟩ := moment
  obtain ⟨monthSmall, daySmall⟩ := date.two_digits
  obtain ⟨hourSmall, minuteSmall⟩ := time.two_digits
  have fraction := readFraction_fractionText
    (Nat.mod_lt time.nanosecond (show 0 < nanosecondsPerSecond by decide))
  rw [ofText?, toList_savedText, trimStart_yearText]
  refine Option.bind_eq_some_iff.2 ⟨_, readYear_yearText _ _, ?_⟩
  refine bind_separated rfl monthSmall ?_
  refine bind_separated rfl daySmall ?_
  refine bind_separated rfl hourSmall ?_
  refine bind_separated rfl minuteSmall ?_
  refine bind_separated rfl time.shownSecond_lt ?_
  refine Option.bind_eq_some_iff.2 ⟨_, fraction, ?_⟩
  refine Option.bind_eq_some_iff.2 ⟨(), if_pos rfl, ?_⟩
  refine Option.bind_eq_some_iff.2 ⟨_, date.of?_parts, ?_⟩
  have shown := time.of?_shown
  split at shown
  · next leap => exact (if_pos leap).trans (Option.bind_eq_some_iff.2 ⟨_, shown, rfl⟩)
  · next plain => exact (if_neg plain).trans (Option.bind_eq_some_iff.2 ⟨_, shown, rfl⟩)

end DateTime

end Harvest
