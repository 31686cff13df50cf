import Harvest.Retrieval.Service

/-!
Surroundings for programs. Every answer depends on the question alone, except that the interrupt
flag goes up at some moment and stays up. What a program is seen to do is kept in a history.
-/

namespace Harvest

/-- The calls, the looks at the flag and the files read so far, the latest last. -/
abbrev History := List (Act retrievalService)

/-- What answers a program. -/
structure Surroundings where
  answer : (request : ServiceCall) → request.Answer
  isFile : String → Bool
  contents : String → Except ReadFault String
  write : String → String → Except String Unit
  password : String → Option String

/-- The flag is up once the acts before its moment are done; without a moment it never is. -/
def flagUp (moment : Option Nat) (past : History) : Bool :=
  moment.any fun acts => decide (acts ≤ past.length)

theorem flagUp_none (past : History) : flagUp none past = false := rfl

namespace Surroundings

variable {α β : Type} {surroundings : Surroundings}

/-- The answer to an act, and the history with the act. Looks for a file and messages leave the
history alone. -/
def respond (surroundings : Surroundings) (moment : Option Nat) :
    (deed : Act retrievalService) → StateM History deed.Answer
  | .call request => fun past => (surroundings.answer request, past ++ [.call request])
  | .pollInterrupt => fun past => (flagUp moment past, past ++ [.pollInterrupt])
  | .probeFile path => fun past => (surroundings.isFile path, past)
  | .readText path => fun past => (surroundings.contents path, past ++ [.readText path])
  | .writePrivate path contents => fun past => (surroundings.write path contents, past)
  | .askPassword username => fun past => (surroundings.password username, past)
  | .log _ _ => fun past => ((), past)

/-- What a program comes to after a history, and the history afterwards. -/
def perform (surroundings : Surroundings) (moment : Option Nat) (program : Work α)
    (past : History) : α × History :=
  (program.runIn (surroundings.respond moment)).run past

@[simp] theorem perform_pure (moment : Option Nat) (result : α) (past : History) :
    surroundings.perform moment (pure result) past = (result, past) := rfl

/-- The second program goes on where the first one ends. -/
theorem perform_bind (moment : Option Nat) (first : Work α) (second : α → Work β)
    (past : History) :
    surroundings.perform moment (first >>= second) past =
      surroundings.perform moment (second (surroundings.perform moment first past).1)
        (surroundings.perform moment first past).2 := by
  induction first generalizing past with
  | done result => rfl
  | act deed next ih =>
      exact ih (surroundings.respond moment deed past).1 (surroundings.respond moment deed past).2

/-- The look at the flag is the one act whose answer depends on what was done. -/
@[simp] theorem perform_interrupted (moment : Option Nat) (past : History) :
    surroundings.perform moment Program.interrupted past =
      (flagUp moment past, past ++ [.pollInterrupt]) := rfl

/-- A program comes to a result through some acts, whatever the flag and the history. -/
def Does (surroundings : Surroundings) (program : Work α) (result : α) (acts : History) : Prop :=
  ∀ moment past, surroundings.perform moment program past = (result, past ++ acts)

theorem does_pure (result : α) : surroundings.Does (pure result) result [] := by
  intro moment past
  simp

theorem Does.bind {first : Work α} {second : α → Work β} {middle : α} {result : β}
    {before after : History} (start : surroundings.Does first middle before)
    (following : surroundings.Does (second middle) result after) :
    surroundings.Does (first >>= second) result (before ++ after) := by
  intro moment past
  rw [perform_bind, start moment past, following moment, List.append_assoc]

/-- A step that nobody sees leaves the rest as it is. -/
theorem Does.after {first : Work α} {second : α → Work β} {middle : α} {result : β}
    {acts : History} (start : surroundings.Does first middle [])
    (following : surroundings.Does (second middle) result acts) :
    surroundings.Does (first >>= second) result acts :=
  start.bind following

/-- A last step that nobody sees adds nothing to the acts. -/
theorem Does.ending {first : Work α} {second : α → Work β} {middle : α} {result : β}
    {acts : History} (start : surroundings.Does first middle acts)
    (following : surroundings.Does (second middle) result []) :
    surroundings.Does (first >>= second) result acts := by
  have whole := start.bind following
  rwa [List.append_nil] at whole

theorem does_inform (message : String) : surroundings.Does (Program.inform message) () [] := by
  intro moment past
  rw [List.append_nil]
  rfl

theorem does_warn (message : String) : surroundings.Does (Program.warn message) () [] := by
  intro moment past
  rw [List.append_nil]
  rfl

theorem does_isFile (path : String) :
    surroundings.Does (Program.isFile path) (surroundings.isFile path) [] := by
  intro moment past
  rw [List.append_nil]
  rfl

theorem does_readText (path : String) :
    surroundings.Does (Program.readText path) (surroundings.contents path) [.readText path] :=
  fun _ _ => rfl

theorem does_retrieve (retriever : Retriever) (retrieval : Retrieval) :
    surroundings.Does (Work.retrieve retriever retrieval)
      (surroundings.answer (.retrieve retriever retrieval))
      [.call (.retrieve retriever retrieval)] :=
  fun _ _ => rfl

theorem does_copyAnonymously (retriever : Retriever) :
    surroundings.Does (Work.copyAnonymously retriever) Retriever.anonymousCopy
      [.call (.copyAnonymously retriever)] :=
  fun _ _ => rfl

end Surroundings

end Harvest
