import Harvest.Proofs.Calendar.Text
import Harvest.Proofs.Filter.Arguments
import Harvest.Proofs.Filter.Comparison
import Mathlib.Tactic.MkIffOfInductiveProp

/-!
Calls of `datetime` for their values. Integers name a moment when they are its parts, whatever their
size, and then the moment has exactly these parts and is ordered as they are.
-/

namespace Harvest.Filter

open Result (ok_bind)

/-- Four divides the years with a leap day, but of the centuries only those that four hundred
divides have one. -/
def IsLeap (year : Int) : Prop :=
  4 ∣ year ∧ (100 ∣ year → 400 ∣ year)

instance (year : Int) : Decidable (IsLeap year) :=
  inferInstanceAs (Decidable (4 ∣ year ∧ (100 ∣ year → 400 ∣ year)))

/-- A day of the proleptic Gregorian calendar, within its years, and a time of day without leap
seconds. -/
@[mk_iff]
structure IsMoment (part : MomentPart → Int) : Prop where
  year : -262143 ≤ part .year ∧ part .year ≤ 262142
  month : 1 ≤ part .month ∧ part .month ≤ 12
  day : 1 ≤ part .day ∧ part .day ≤ 31
  shortMonth : part .month ∈ [4, 6, 9, 11] → part .day ≤ 30
  february : part .month = 2 → part .day ≤ 29
  leapDay : part .month = 2 → part .day = 29 → IsLeap (part .year)
  hour : 0 ≤ part .hour ∧ part .hour < 24
  minute : 0 ≤ part .minute ∧ part .minute < 60
  second : 0 ≤ part .second ∧ part .second < 60

instance (part : MomentPart → Int) : Decidable (IsMoment part) :=
  decidable_of_iff' _ (isMoment_iff part)

namespace MomentPart

/-- The integer given for a part; a part that is not given is zero. -/
def given (numbers : List Int64) (part : MomentPart) : Int :=
  (numbers[part.index]?).elim 0 Int64.toInt

/-- The six parts from the greatest to the least. -/
def row (part : MomentPart → Int) : List Int :=
  all.map part

end MomentPart

open MomentPart (given row)

/-- The year 2024 behind all words of 32 bits is none of the calendar. -/
example : ¬IsMoment (given [4294969320, 2, 29]) := by decide

/-- What a call of `datetime` comes to whose arguments have some values. -/
structure BuildsMoment (subject : Subject) (arguments : List Expression) (values : List Value) :
    Prop where
  /-- The first value that is no integer and no truth value is named. -/
  mismatch : (∃ value ∈ values, ∀ number, ¬value.CountsAs number) →
    ∃ earlier value later, values = earlier ++ value :: later ∧
      (∀ item ∈ earlier, ∃ number, item.CountsAs number) ∧ (∀ number, ¬value.CountsAs number) ∧
      evaluate subject (.datetime arguments) =
        .error (.typeMismatch "datetime" "int" value.typeName)
  succeeds : ∀ numbers, List.Forall₂ Value.CountsAs values numbers →
    ((∃ value, evaluate subject (.datetime arguments) = .ok value) ↔ IsMoment (given numbers))
  invalid : ∀ numbers, List.Forall₂ Value.CountsAs values numbers → ¬IsMoment (given numbers) →
    evaluate subject (.datetime arguments) = .error (.invalidDatetime (Value.displayItems values))
  parts : ∀ numbers, List.Forall₂ Value.CountsAs values numbers → IsMoment (given numbers) →
    ∀ part, evaluate subject (.part (.datetime arguments) part) =
      .ok (.int ((numbers[part.index]?).getD 0))

/-- Two calls of `datetime` compare as their parts do, the greatest part first. -/
structure ComparesByParts (subject : Subject) (first second : List Expression)
    (part other : MomentPart → Int) : Prop where
  less : evaluate subject (.chain (.datetime first) [(.less, .datetime second)]) =
    .ok (.bool (row part < row other))
  equal : evaluate subject (.chain (.datetime first) [(.equal, .datetime second)]) =
    .ok (.bool (row part = row other))
  greater : evaluate subject (.chain (.datetime first) [(.greater, .datetime second)]) =
    .ok (.bool (row other < row part))

/-! ## Moments and their parts -/

section Parts

variable {part : MomentPart → Int} {numbers : List Int64} {stamp other : DateTime}

theorem isLeapYear_iff {year : Int} : isLeapYear year = true ↔ IsLeap year := by
  simp only [isLeapYear, IsLeap, Int.dvd_iff_emod_eq_zero, Bool.and_eq_true, Bool.or_eq_true,
    beq_iff_eq, bne_iff_ne]
  tauto

/-- The days of a month. -/
theorem le_daysInMonth_iff {year : Int} {month day : Nat} : day ≤ daysInMonth year month ↔
    day ≤ 31 ∧ (month = 4 ∨ month = 6 ∨ month = 9 ∨ month = 11 → day ≤ 30) ∧
      (month = 2 → day ≤ 29) ∧ (month = 2 → day = 29 → IsLeap year) := by
  rw [← isLeapYear_iff]
  unfold daysInMonth
  split
  · cases isLeapYear year <;> simp <;> omega
  · split <;> omega

theorem isMoment_ofMoment (stamp : DateTime) : IsMoment (MomentPart.ofMoment stamp) := by
  obtain ⟨early, late, january, december, first, last⟩ := stamp.date.proper
  obtain ⟨hour, minute, second, -⟩ := stamp.time.proper
  obtain ⟨longest, short, february, leap⟩ := le_daysInMonth_iff.1 last
  unfold firstYear at early
  unfold lastYear at late
  constructor <;> simp only [MomentPart.ofMoment, List.mem_cons, List.not_mem_nil, or_false]
  case leapDay =>
    intro second last
    exact leap (by omega) (by omega)
  all_goals omega

/-- Parts of a moment are those of some moment at a whole second. -/
theorem IsMoment.exists_stamp (moment : IsMoment part) :
    ∃ stamp : DateTime, stamp.time.nanosecond = 0 ∧ MomentPart.ofMoment stamp = part := by
  obtain ⟨month, monthEq⟩ := Int.eq_ofNat_of_zero_le (Int.le_trans (by decide) moment.month.1)
  obtain ⟨day, dayEq⟩ := Int.eq_ofNat_of_zero_le (Int.le_trans (by decide) moment.day.1)
  obtain ⟨hour, hourEq⟩ := Int.eq_ofNat_of_zero_le moment.hour.1
  obtain ⟨minute, minuteEq⟩ := Int.eq_ofNat_of_zero_le moment.minute.1
  obtain ⟨second, secondEq⟩ := Int.eq_ofNat_of_zero_le moment.second.1
  obtain ⟨⟨early, late⟩, months, days, short, february, leap, hours, minutes, seconds⟩ := moment
  simp only [monthEq, dayEq, hourEq, minuteEq, secondEq, List.mem_cons, List.not_mem_nil,
    or_false] at months days short february leap hours minutes seconds
  have last : day ≤ daysInMonth (part .year) month := by
    refine le_daysInMonth_iff.2 ⟨by omega, by omega, by omega, ?_⟩
    intro second last
    exact leap (by omega) (by omega)
  have date : IsDate (part .year) month day :=
    ⟨early, late, by omega, by omega, by omega, last⟩
  have time : IsTime hour minute second 0 :=
    ⟨by omega, by omega, by omega, .inl (by decide)⟩
  refine ⟨⟨⟨part .year, month, day, date⟩, ⟨hour, minute, second, 0, time⟩⟩, rfl, ?_⟩
  funext which
  cases which <;> simp [MomentPart.ofMoment, *]

/-- The natural number that an integer is. -/
theorem natural_eq_some {number : Int} {natural : Nat} :
    (if 0 ≤ number then some number.toNat else none) = some natural ↔ natural = number := by
  split <;> simp <;> omega

/-- Six integers name the moment that has them as its parts. -/
theorem momentOfParts?_row : momentOfParts? (row part) = some stamp ↔
    stamp.time.nanosecond = 0 ∧ MomentPart.ofMoment stamp = part := by
  rcases stamp with ⟨date, time⟩
  simp only [momentOfParts?, row, MomentPart.all, List.map_cons, List.map_nil,
    Option.bind_eq_bind, Option.bind_eq_some_iff, natural_eq_some, Date.of?_eq_some,
    TimeOfDay.of?_eq_some_iff]
  constructor
  · rintro ⟨month, monthEq, day, dayEq, _, ⟨year, rfl, rfl⟩, hour, hourEq, minute, minuteEq,
      second, secondEq, _, ⟨rfl, rfl, rfl, whole⟩, same⟩
    cases same
    refine ⟨whole, ?_⟩
    funext which
    cases which <;> assumption
  · rintro ⟨whole, rfl⟩
    exact ⟨_, rfl, _, rfl, date, ⟨rfl, rfl, rfl⟩, _, rfl, _, rfl, _, rfl, time,
      ⟨rfl, rfl, rfl, whole⟩, rfl⟩

/-- The parts behind the given ones are zero, when the date is given. -/
theorem momentOfParts?_map (three : 3 ≤ numbers.length) :
    momentOfParts? (numbers.map Int64.toInt) = momentOfParts? (row (given numbers)) := by
  obtain ⟨year, month, day, rest, rfl⟩ :
      ∃ year month day rest, numbers = year :: month :: day :: rest := by
    match numbers, three with
    | year :: month :: day :: rest, _ => exact ⟨year, month, day, rest, rfl⟩
  match rest with
  | [] | [_] | [_, _] => rfl
  | _ :: _ :: _ :: _ => rfl

/-- Moments at whole seconds are the same when their parts are. -/
theorem eq_iff_row (whole : stamp.time.nanosecond = 0) (otherWhole : other.time.nanosecond = 0) :
    stamp = other ↔ row (MomentPart.ofMoment stamp) = row (MomentPart.ofMoment other) := by
  rcases stamp with ⟨⟨_, _, _, _⟩, ⟨_, _, _, _, _⟩⟩
  rcases other with ⟨⟨_, _, _, _⟩, ⟨_, _, _, _, _⟩⟩
  subst whole otherWhole
  simp [row, MomentPart.all, MomentPart.ofMoment, and_assoc]

/-- Moments at whole seconds are ordered by their parts, the greatest first. -/
theorem isLT_compare (whole : stamp.time.nanosecond = 0) (otherWhole : other.time.nanosecond = 0) :
    (stamp.compare other).isLT =
      decide (row (MomentPart.ofMoment stamp) < row (MomentPart.ofMoment other)) := by
  rw [Bool.eq_iff_iff, decide_eq_true_iff, Ordering.isLT_iff_eq_lt]
  simp [DateTime.compare, Date.compare, TimeOfDay.compare, Ordering.then_eq_lt, Ordering.then_eq_eq,
    compare_lt_iff_lt, List.cons_lt_cons_iff, row, MomentPart.all, MomentPart.ofMoment, whole,
    otherWhole]
  tauto

end Parts

/-! ## Integers among the arguments -/

section Integers

variable {values : List Value} {numbers : List Int64}

theorem integerParts_of_countsAs (count : List.Forall₂ Value.CountsAs values numbers) :
    integerParts values = .ok (numbers.map Int64.toInt) := by
  induction count with
  | nil => rfl
  | cons here _ ih =>
      simp only [integerParts, here.asInt?_eq, ih, ok_bind]
      rfl

/-- Behind integers, the first value that is none is named. -/
theorem integerParts_mismatch {earlier later : List Value} {value : Value}
    (count : ∀ item ∈ earlier, ∃ number, item.CountsAs number)
    (odd : ∀ number, ¬value.CountsAs number) :
    integerParts (earlier ++ value :: later) =
      .error (.typeMismatch "datetime" "int" value.typeName) := by
  induction earlier with
  | nil =>
      have none : value.asInt? = none :=
        Option.eq_none_iff_forall_ne_some.2 fun number found =>
          odd number (Value.countsAs_iff.2 found)
      simp only [List.nil_append, integerParts, none]
  | cons item earlier ih =>
      obtain ⟨⟨number, counts⟩, rest⟩ := List.forall_mem_cons.1 count
      simp only [List.cons_append, integerParts, counts.asInt?_eq, ih rest]
      rfl

/-- Where some value is no integer there is a first one. -/
theorem exists_first_odd (odd : ∃ value ∈ values, ∀ number, ¬value.CountsAs number) :
    ∃ earlier value later, values = earlier ++ value :: later ∧
      (∀ item ∈ earlier, ∃ number, item.CountsAs number) ∧ ∀ number, ¬value.CountsAs number := by
  classical
  let isOdd (value : Value) : Bool := decide (∀ number, ¬value.CountsAs number)
  have found : (values.find? isOdd).isSome := by
    simpa [isOdd, List.find?_isSome] using odd
  obtain ⟨value, first⟩ := Option.isSome_iff_exists.1 found
  obtain ⟨none, earlier, later, same, before⟩ := List.find?_eq_some_iff_append.1 first
  exact ⟨earlier, value, later, same, by simpa [isOdd] using before, by simpa [isOdd] using none⟩

/-- Integers that are the parts of a moment build it. -/
theorem buildMoment_of_isMoment (count : List.Forall₂ Value.CountsAs values numbers)
    (three : 3 ≤ values.length) (moment : IsMoment (given numbers)) :
    ∃ stamp : DateTime, stamp.time.nanosecond = 0 ∧ MomentPart.ofMoment stamp = given numbers ∧
      buildMoment values = .ok (.moment stamp) := by
  obtain ⟨stamp, whole, parts⟩ := moment.exists_stamp
  have built := momentOfParts?_row.2 ⟨whole, parts⟩
  rw [← momentOfParts?_map (count.length_eq ▸ three)] at built
  refine ⟨stamp, whole, parts, ?_⟩
  simp only [buildMoment, integerParts_of_countsAs count, ok_bind, built]
  rfl

/-- Other integers build none. -/
theorem buildMoment_of_not_isMoment (count : List.Forall₂ Value.CountsAs values numbers)
    (three : 3 ≤ values.length) (none : ¬IsMoment (given numbers)) :
    buildMoment values = .error (.invalidDatetime (Value.displayItems values)) := by
  have failed : momentOfParts? (numbers.map Int64.toInt) = .none := by
    rw [momentOfParts?_map (count.length_eq ▸ three), Option.eq_none_iff_forall_ne_some]
    intro stamp built
    rw [← (momentOfParts?_row.1 built).2] at none
    exact none (isMoment_ofMoment stamp)
  simp only [buildMoment, integerParts_of_countsAs count, ok_bind, failed]
  rfl

end Integers

/-! ## Calls -/

section Calls

variable {subject : Subject} {arguments first second : List Expression}
  {values firstValues secondValues : List Value} {numbers others : List Int64}

theorem evaluate_datetime (evaluates : evaluateAll subject arguments = .ok values) :
    evaluate subject (.datetime arguments) = buildMoment values := by
  rw [evaluate, evaluates, ok_bind]

theorem evaluate_link {left right : Expression} {leftValue rightValue : Value}
    (leftEvaluates : evaluate subject left = .ok leftValue)
    (rightEvaluates : evaluate subject right = .ok rightValue) {comparison : Comparison}
    {holds : Bool} (compared : applyComparison comparison leftValue rightValue = .ok holds) :
    evaluate subject (.chain left [(comparison, right)]) = .ok (.bool holds) := by
  simp only [evaluate, evaluateLinks, leftEvaluates, rightEvaluates, compared, ok_bind]
  cases holds <;> rfl

theorem buildsMoment (evaluates : evaluateAll subject arguments = .ok values)
    (three : 3 ≤ values.length) : BuildsMoment subject arguments values where
  mismatch odd := by
    obtain ⟨earlier, value, later, rfl, count, none⟩ := exists_first_odd odd
    refine ⟨earlier, value, later, rfl, count, none, ?_⟩
    rw [evaluate_datetime evaluates, buildMoment, integerParts_mismatch count none]
    rfl
  succeeds numbers count := by
    rw [evaluate_datetime evaluates]
    constructor
    · rintro ⟨value, built⟩
      by_contra none
      rw [buildMoment_of_not_isMoment count three none] at built
      contradiction
    · intro moment
      obtain ⟨stamp, -, -, built⟩ := buildMoment_of_isMoment count three moment
      exact ⟨_, built⟩
  invalid numbers count none := by
    rw [evaluate_datetime evaluates]
    exact buildMoment_of_not_isMoment count three none
  parts numbers count moment part := by
    obtain ⟨stamp, -, parts, built⟩ := buildMoment_of_isMoment count three moment
    rw [evaluate, evaluate_datetime evaluates, built, ok_bind, readPart, parts, given]
    cases numbers[part.index]? <;> simp

theorem comparesByParts (firstEvaluates : evaluateAll subject first = .ok firstValues)
    (secondEvaluates : evaluateAll subject second = .ok secondValues)
    (three : 3 ≤ firstValues.length) (alsoThree : 3 ≤ secondValues.length)
    (count : List.Forall₂ Value.CountsAs firstValues numbers)
    (otherCount : List.Forall₂ Value.CountsAs secondValues others)
    (moment : IsMoment (given numbers)) (otherMoment : IsMoment (given others)) :
    ComparesByParts subject first second (given numbers) (given others) := by
  obtain ⟨stamp, whole, parts, built⟩ := buildMoment_of_isMoment count three moment
  obtain ⟨other, otherWhole, otherParts, otherBuilt⟩ :=
    buildMoment_of_isMoment otherCount alsoThree otherMoment
  rw [← evaluate_datetime firstEvaluates] at built
  rw [← evaluate_datetime secondEvaluates] at otherBuilt
  rw [← parts, ← otherParts]
  constructor
  · refine evaluate_link built otherBuilt ?_
    rw [applyComparison_of_compares .less (.moments stamp other), Comparison.admits,
      isLT_compare whole otherWhole]
  · refine evaluate_link built otherBuilt ?_
    simp only [applyComparison, Value.equal, beq_eq_decide, eq_iff_row whole otherWhole]
  · have swap : stamp.compare other = (other.compare stamp).swap := Std.OrientedCmp.eq_swap
    refine evaluate_link built otherBuilt ?_
    rw [applyComparison_of_compares .greater (.moments stamp other), Comparison.admits, swap,
      Ordering.isGT_swap, isLT_compare otherWhole whole]

/-- A call of `datetime` with three to six values is a moment when these are the parts of one, reads
back as these, and compares as they do. -/
theorem moments_are_their_parts (firstEvaluates : evaluateAll subject first = .ok firstValues)
    (secondEvaluates : evaluateAll subject second = .ok secondValues)
    (firstCount : 3 ≤ firstValues.length ∧ firstValues.length ≤ 6)
    (secondCount : 3 ≤ secondValues.length ∧ secondValues.length ≤ 6) :
    BuildsMoment subject first firstValues ∧
      ∀ numbers others, List.Forall₂ Value.CountsAs firstValues numbers →
        List.Forall₂ Value.CountsAs secondValues others →
        IsMoment (given numbers) → IsMoment (given others) →
        ComparesByParts subject first second (given numbers) (given others) :=
  ⟨buildsMoment firstEvaluates firstCount.1, fun _ _ =>
    comparesByParts firstEvaluates secondEvaluates firstCount.1 secondCount.1⟩

/-- A leap day starts before its last minute ends; a truth value counts as a second. -/
theorem moments_are_their_parts_leap_day :
    let subject : Subject := ⟨.post, fun _ => none⟩
    let date := [Value.int 2024, .int 2, .int 29]
    let late := date ++ [.int 23, .int 59, .bool true]
    (3 ≤ date.length ∧ date.length ≤ 6) ∧ (3 ≤ late.length ∧ late.length ≤ 6) ∧
      BuildsMoment subject (date.map .literal) date ∧
      ComparesByParts subject (date.map .literal) (late.map .literal)
        (given [2024, 2, 29]) (given [2024, 2, 29, 23, 59, 1]) := by
  intro subject date late
  have evaluates : evaluateAll subject (date.map .literal) = .ok date := rfl
  have lateEvaluates : evaluateAll subject (late.map .literal) = .ok late := rfl
  have both := moments_are_their_parts evaluates lateEvaluates (by decide) (by decide)
  have counts : List.Forall₂ Value.CountsAs date [2024, 2, 29] :=
    .cons (.int _) (.cons (.int _) (.cons (.int _) .nil))
  have lateCounts : List.Forall₂ Value.CountsAs late [2024, 2, 29, 23, 59, 1] :=
    .cons (.int _) (.cons (.int _) (.cons (.int _)
      (.cons (.int _) (.cons (.int _) (.cons .truth .nil)))))
  have moment : IsMoment (given [2024, 2, 29]) := by decide
  have lateMoment : IsMoment (given [2024, 2, 29, 23, 59, 1]) := by decide
  exact ⟨by decide, by decide, both.1, both.2 _ _ counts lateCounts moment lateMoment⟩

end Calls

end Harvest.Filter
