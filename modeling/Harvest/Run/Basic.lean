import Harvest.Run.LocalFile
import Harvest.Run.Report
import Harvest.Target.Basic
import Harvest.Target.Followees

/-!
A run: first every target in order, then every collected account in ascending order. A fault of
one target or account is recorded and the run goes on. The interrupt flag is looked at before each
of them, and it ends the run.
-/

namespace Harvest

open Harvest.Filter (Filters)

/-- The limits of a run's bulk downloads and what it fetches of accounts. -/
structure RunOptions where
  bulk : BulkOptions
  profile : ProfileOptions
  deriving DecidableEq

/-- What a run works with. -/
structure RunSettings where
  retriever : Retriever
  filters : Filters
  options : RunOptions

namespace RunSettings

/-- An accepted item is saved with a request, and a rejected one is left alone. -/
def saveLocal (settings : RunSettings) (raw display : String) (subject : Filter.Subject)
    (request : Work (Except RetrieveError Bool)) : Work (Except TargetFault Tally) := do
  match settings.filters.accept subject with
  | .error fault => return .error (.filter fault)
  | .ok false =>
    Program.inform s!"<{display} ({raw}) skipped>"
    return .ok Tally.zero
  | .ok true =>
    match ← request with
    | .error fault => return .error (.retrieve fault)
    | .ok downloaded => return .ok (Tally.zero.record downloaded)

/-- The item of a descriptor file. -/
def handleFile (settings : RunSettings) (raw path : String) : Work (Except TargetFault Tally) := do
  match ← Descriptor.load path with
  | .error fault => return .error (.load fault)
  | .ok descriptor =>
    match descriptor.dispatch path with
    | .post item folder =>
      settings.saveLocal raw item.display item.subject
        (Work.retrieve settings.retriever (.savePost item folder))
    | .storyItem item folder =>
      settings.saveLocal raw item.display item.subject
        (Work.retrieve settings.retriever (.saveStoryItem item folder))
    | .rejected reason => return .error (.rejected reason)

/-- A listing of posts. -/
def handlePosts (settings : RunSettings) (message : String) (listing : PostListing) :
    Work (Except TargetFault Tally) := do
  Program.inform message
  let outcome ← Work.retrieve settings.retriever
    (.posts listing settings.filters.post settings.options.bulk)
  return outcome.mapError .retrieve

/-- The stories of everyone that the session follows. -/
def handleStories (settings : RunSettings) : Work (Except TargetFault Tally) := do
  Program.inform "Retrieving stories..."
  let outcome ← Work.retrieve settings.retriever
    (.stories settings.filters.storyItem settings.options.bulk)
  return outcome.mapError .retrieve

/-- What a target comes to: the accounts afterwards, and a fault or a download. -/
structure Outcome where
  accounts : AccountSet
  result : Except TargetFault Tally

/-- A target that names something. -/
def handleNamed (settings : RunSettings) (raw : String) (accounts : AccountSet) :
    Target → Work Outcome
  | .followees account => do
    match ← accounts.expandFollowees settings.retriever account with
    | .error fault => return ⟨accounts, .error (.retrieve fault)⟩
    | .ok expanded => return ⟨expanded, .ok Tally.zero⟩
  | .account name => return ⟨accounts.insert name, .ok Tally.zero⟩
  | .descriptorFile path => return ⟨accounts, ← settings.handleFile raw path⟩
  | .tag name =>
    return ⟨accounts, ← settings.handlePosts s!"Retrieving pictures with hashtag #{name}..."
      (.hashtag name)⟩
  | .feed =>
    return ⟨accounts, ← settings.handlePosts "Retrieving pictures from your feed..." .feed⟩
  | .stories => return ⟨accounts, ← settings.handleStories⟩
  | .saved => return ⟨accounts, ← settings.handlePosts "Retrieving saved posts..." .saved⟩

/-- A target; one without a name is rejected. -/
def handleTarget (settings : RunSettings) (raw : String) (accounts : AccountSet) :
    Work Outcome := do
  let target ← Target.classifyIn Program.isFile raw
  if target.name? = some "" then
    return ⟨accounts, .error (.rejected s!"{Text.quote raw} names no target")⟩
  else settings.handleNamed raw accounts target

/-- The report with the result for one target or account. A fault is logged at once. -/
def absorb (report : Report) (target : String) : Except TargetFault Tally → Work Report
  | .ok tally => return report.addTally tally
  | .error fault => do
    let record : ErrorRecord := ⟨target, fault⟩
    Program.warn record.message
    return report.addError record

/-- The report of a run that the user interrupts. -/
def stop (report : Report) : Work Report := do
  Program.warn "Interrupted by user."
  return report.interrupt

/-- An account. One that is not found is tried again anonymously, without stories, because the
login may be what hides it. -/
def downloadAccount (settings : RunSettings) (account : String) :
    Work (Except RetrieveError Tally) := do
  let outcome ← Work.retrieve settings.retriever
    (.profile account settings.filters settings.options.profile)
  match outcome with
  | .ok tally => return .ok tally
  | .error fault =>
    if fault.isNotFound && settings.retriever.isLoggedIn then
      Program.warn
        s!"{fault.message}, trying again anonymously, helps in case you are just blocked."
      let anonymous ← Work.copyAnonymously settings.retriever
      Work.retrieve anonymous (.profile account settings.filters
        { settings.options.profile with stories := false })
    else return .error fault

/-- Accounts in order. -/
def downloadAccounts (settings : RunSettings) (report : Report) : List String → Work Report
  | [] => return report
  | account :: rest => do
    if ← Program.interrupted then stop report
    else
      let outcome ← settings.downloadAccount account
      let report ← absorb report.beginAccount account (outcome.mapError .retrieve)
      settings.downloadAccounts report rest

/-- The collected accounts. -/
def finish (settings : RunSettings) (accounts : AccountSet) (report : Report) : Work Report := do
  if 1 < accounts.size then
    let names := " ".intercalate accounts.names
    Program.inform s!"Downloading {accounts.size} profiles: {names}"
  settings.downloadAccounts report accounts.names

/-- Targets in order, and then the accounts. -/
def runFrom (settings : RunSettings) (accounts : AccountSet) (report : Report) :
    List String → Work Report
  | [] => settings.finish accounts report
  | raw :: rest => do
    if ← Program.interrupted then stop report
    else
      let outcome ← settings.handleTarget raw accounts
      let report ← absorb report raw outcome.result
      settings.runFrom outcome.accounts report rest

/-- A run over raw targets. -/
def run (settings : RunSettings) (targets : List String) : Work Report :=
  settings.runFrom AccountSet.empty Report.empty targets

end RunSettings

end Harvest
