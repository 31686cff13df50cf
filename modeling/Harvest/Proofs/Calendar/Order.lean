import Harvest.Calendar.Date

/-!
The order of the calendar. Dates, times of day and moments are ordered by their parts from the
greatest to the least, so their orders are transitive, and only equals compare as equal.
-/

namespace Harvest

open Std (LawfulEqCmp TransCmp TransOrd)

instance : TransCmp Date.compare :=
  inferInstanceAs (TransCmp (compareLex (compareOn Date.year)
    (compareLex (compareOn Date.month) (compareOn Date.day))))

instance : LawfulEqCmp Date.compare where
  compare_self := by simp [Date.compare]
  eq_of_compare := by
    rintro ⟨year, month, day, proper⟩ ⟨_, _, _, _⟩ same
    simpa [Date.compare, Ordering.then_eq_eq] using same

instance : TransCmp TimeOfDay.compare :=
  inferInstanceAs (TransCmp (compareLex (compareOn TimeOfDay.hour)
    (compareLex (compareOn TimeOfDay.minute)
      (compareLex (compareOn TimeOfDay.second) (compareOn TimeOfDay.nanosecond)))))

instance : LawfulEqCmp TimeOfDay.compare where
  compare_self := by simp [TimeOfDay.compare]
  eq_of_compare := by
    rintro ⟨hour, minute, second, nanosecond, proper⟩ ⟨_, _, _, _, _⟩ same
    simpa [TimeOfDay.compare, Ordering.then_eq_eq] using same

instance : TransCmp DateTime.compare :=
  letI : Ord Date := ⟨Date.compare⟩
  letI : Ord TimeOfDay := ⟨TimeOfDay.compare⟩
  haveI : TransOrd Date := inferInstanceAs (TransCmp Date.compare)
  haveI : TransOrd TimeOfDay := inferInstanceAs (TransCmp TimeOfDay.compare)
  inferInstanceAs (TransCmp (compareLex (compareOn DateTime.date) (compareOn DateTime.time)))

instance : LawfulEqCmp DateTime.compare where
  compare_self := by simp [DateTime.compare]
  eq_of_compare := by
    rintro ⟨date, time⟩ ⟨_, _⟩ same
    simpa [DateTime.compare, Ordering.then_eq_eq] using same

end Harvest
