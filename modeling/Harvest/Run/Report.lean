import Harvest.Item.DescriptorFile
import Harvest.Retrieval.Error
import Harvest.Retrieval.Tally

/-!
The report of a run: the faults of targets and accounts in the order they happened, and what the
downloads did.
-/

namespace Harvest

open Harvest.Filter (EvalError)

/-- Why a target or an account failed. -/
inductive TargetFault where
  | retrieve (fault : RetrieveError)
  | load (fault : LoadError)
  | filter (fault : EvalError)
  | rejected (reason : String)
  deriving DecidableEq

/-- The wording of a target fault. -/
def TargetFault.message : TargetFault → String
  | .retrieve fault => fault.message
  | .load fault => fault.message
  | .filter fault => s!"filter failed: {fault.message}"
  | .rejected reason => reason

/-- A fault and the target or account that has it, as the user gave it. -/
structure ErrorRecord where
  target : String
  fault : TargetFault
  deriving DecidableEq

/-- The wording of an error record. -/
def ErrorRecord.message (record : ErrorRecord) : String :=
  s!"{record.target}: {record.fault.message}"

/-- What a run came to. -/
structure Report where
  errors : List ErrorRecord
  tally : Tally
  accountsAttempted : Nat
  interrupted : Bool
  deriving DecidableEq

namespace Report

/-- The report before anything is done. -/
def empty : Report := ⟨[], Tally.zero, 0, false⟩

/-- The report with one more fault. -/
def addError (report : Report) (record : ErrorRecord) : Report :=
  { report with errors := report.errors ++ [record] }

/-- The report with one more download. -/
def addTally (report : Report) (tally : Tally) : Report :=
  { report with tally := report.tally.add tally }

/-- The report with one more account begun. -/
def beginAccount (report : Report) : Report :=
  { report with accountsAttempted := report.accountsAttempted + 1 }

/-- The report of a run that stops early. -/
def interrupt (report : Report) : Report :=
  { report with interrupted := true }

/-- The messages that sum up the faults of a run. -/
def summary (report : Report) : List String :=
  if report.errors.isEmpty then []
  else "Errors or warnings occurred:" :: report.errors.map ErrorRecord.message

end Report

end Harvest
