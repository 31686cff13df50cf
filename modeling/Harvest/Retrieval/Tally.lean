/-!
Counts of what a download did.
-/

namespace Harvest

/-- Items saved, items that a filter rejected, and items that were already there. -/
structure Tally where
  downloaded : Nat
  skipped : Nat
  present : Nat
  deriving DecidableEq

namespace Tally

/-- Nothing was done. -/
def zero : Tally := ⟨0, 0, 0⟩

/-- The outcome of one save counts as downloaded or as present. -/
def record (tally : Tally) (downloaded : Bool) : Tally :=
  if downloaded then { tally with downloaded := tally.downloaded + 1 }
  else { tally with present := tally.present + 1 }

/-- A rejected item counts as skipped. -/
def skip (tally : Tally) : Tally :=
  { tally with skipped := tally.skipped + 1 }

/-- Two counts add up by parts. -/
def add (first second : Tally) : Tally :=
  ⟨first.downloaded + second.downloaded, first.skipped + second.skipped,
    first.present + second.present⟩

end Tally

end Harvest
