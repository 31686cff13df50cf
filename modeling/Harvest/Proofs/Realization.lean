import Harvest.Proofs.Journal

/-!
Work that is carried out over another service. Its journal falls into stages, one for each act of
the work: a call takes the events of the program that carries it out, and every other act is its
own event.
-/

namespace Harvest

variable {service target : Interface} {α : Type}

/-- An act with its answer, and the events that it took over another service. -/
structure Stage (service target : Interface) where
  event : Event service
  course : Journal target

namespace Stage

/-- How acts are carried out: a call by its program, and every other act as it is. -/
inductive Carried (carryOut : (request : service.Call) → Program target (service.Answer request)) :
    Stage service target → Prop where
  | call {request : service.Call} {answer : service.Answer request} {course : Journal target}
      (path : (carryOut request).Path course answer) :
      Carried carryOut ⟨⟨.call request, answer⟩, course⟩
  | pollInterrupt (answer : Bool) :
      Carried carryOut ⟨⟨.pollInterrupt, answer⟩, [⟨.pollInterrupt, answer⟩]⟩
  | probeFile (path : String) (answer : Bool) :
      Carried carryOut ⟨⟨.probeFile path, answer⟩, [⟨.probeFile path, answer⟩]⟩
  | readText (path : String) (answer : Except ReadFault String) :
      Carried carryOut ⟨⟨.readText path, answer⟩, [⟨.readText path, answer⟩]⟩
  | writePrivate (path contents : String) (answer : Except String Unit) :
      Carried carryOut
        ⟨⟨.writePrivate path contents, answer⟩, [⟨.writePrivate path contents, answer⟩]⟩
  | askPassword (username : String) (answer : Option String) :
      Carried carryOut ⟨⟨.askPassword username, answer⟩, [⟨.askPassword username, answer⟩]⟩
  | log (level : LogLevel) (message : String) (answer : Unit) :
      Carried carryOut ⟨⟨.log level message, answer⟩, [⟨.log level message, answer⟩]⟩

end Stage

namespace Program

/-- A program falls into the stages of its acts. -/
def Staged (carryOut : (request : service.Call) → Program target (service.Answer request))
    (program : Program service α) (events : Journal target) (result : α) : Prop :=
  ∃ stages : List (Stage service target), program.Path (stages.map Stage.event) result ∧
    events = stages.flatMap Stage.course ∧ ∀ stage ∈ stages, stage.Carried carryOut

variable {carryOut : (request : service.Call) → Program target (service.Answer request)}

theorem Staged.act {deed : Act service} {next : deed.Answer → Program service α}
    {answer : deed.Answer} {course events : Journal target} {result : α}
    (carried : Stage.Carried carryOut ⟨⟨deed, answer⟩, course⟩)
    (rest : (next answer).Staged carryOut events result) :
    (Program.act deed next).Staged carryOut (course ++ events) result := by
  obtain ⟨stages, path, rfl, each⟩ := rest
  exact ⟨⟨⟨deed, answer⟩, course⟩ :: stages, .act answer path, rfl,
    List.forall_mem_cons.2 ⟨carried, each⟩⟩

/-- An act that is its own event. -/
theorem Staged.own {deed : Act service} {next : deed.Answer → Program service α}
    {answer : deed.Answer} {event : Event target} {events : Journal target} {result : α}
    (carried : Stage.Carried carryOut ⟨⟨deed, answer⟩, [event]⟩)
    (rest : (next answer).Staged carryOut events result) :
    (Program.act deed next).Staged carryOut (event :: events) result :=
  Staged.act carried rest

/-- A way through the work as it is carried out is a way through the work, stage by stage. -/
theorem staged_of_path {program : Program service α} {events : Journal target} {result : α}
    (path : (program.realize carryOut).Path events result) :
    program.Staged carryOut events result := by
  induction program generalizing events with
  | done value =>
      obtain ⟨rfl, rfl⟩ := path_pure_iff.1 path
      exact ⟨[], .done _, rfl, nofun⟩
  | act deed next ih =>
      cases deed with
      | call request =>
          obtain ⟨course, later, answer, rfl, here, rest⟩ := path_bind_iff.1 path
          exact .act (.call here) (ih answer rest)
      | pollInterrupt =>
          cases path with
          | act answer rest => exact .own (.pollInterrupt answer) (ih answer rest)
      | probeFile place =>
          cases path with
          | act answer rest => exact .own (.probeFile place answer) (ih answer rest)
      | readText place =>
          cases path with
          | act answer rest => exact .own (.readText place answer) (ih answer rest)
      | writePrivate place contents =>
          cases path with
          | act answer rest => exact .own (.writePrivate place contents answer) (ih answer rest)
      | askPassword username =>
          cases path with
          | act answer rest => exact .own (.askPassword username answer) (ih answer rest)
      | log level message =>
          cases path with
          | act answer rest => exact .own (.log level message answer) (ih answer rest)

end Program

end Harvest
