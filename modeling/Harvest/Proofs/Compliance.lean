import Harvest.Proofs.Journal

/-!
Programs that go by what they are told. What a program does may depend on answers, so it is judged
as long as these keep a promise. A promise is open: with the promise that answers only say what
has been said so far, everything that an act is made of has been said before the act.
-/

namespace Harvest

namespace Program

variable {service : Interface} {α β : Type}
  {promise : (deed : Act service) → deed.Answer → Prop} {allowed : Act service → Prop}
  {holds : α → Prop}

/-- As long as the answers keep a promise, every act is one of those allowed and something holds of
the result. -/
inductive Complies (promise : (deed : Act service) → deed.Answer → Prop)
    (allowed : Act service → Prop) (holds : α → Prop) : Program service α → Prop where
  | done {result : α} (fine : holds result) : Complies promise allowed holds (.done result)
  | act {deed : Act service} {next : deed.Answer → Program service α} (fine : allowed deed)
      (rest : ∀ answer, promise deed answer → Complies promise allowed holds (next answer)) :
      Complies promise allowed holds (.act deed next)

theorem Complies.imp {weaker : α → Prop} {program : Program service α}
    (complies : program.Complies promise allowed holds)
    (weaken : ∀ result, holds result → weaker result) :
    program.Complies promise allowed weaker := by
  induction complies with
  | done fine => exact .done (weaken _ fine)
  | act fine _ ih => exact .act fine ih

theorem Complies.bind {middle : β → Prop} {first : Program service β}
    {second : β → Program service α} (start : first.Complies promise allowed middle)
    (following : ∀ result, middle result → (second result).Complies promise allowed holds) :
    (first >>= second).Complies promise allowed holds := by
  induction start with
  | done fine => exact following _ fine
  | act fine _ ih => exact .act fine ih

/-- What is allowed whatever the answers is allowed as long as they keep a promise. -/
theorem Only.complies {program : Program service α} (only : program.Only allowed) :
    program.Complies promise allowed fun _ => True := by
  induction only with
  | done result => exact .done trivial
  | act fine _ ih => exact .act fine fun answer _ => ih answer

/-- Without a promise, what complies does what is allowed whatever the answers. -/
theorem Complies.only {program : Program service α}
    (complies : program.Complies (fun _ _ => True) allowed holds) : program.Only allowed := by
  induction complies with
  | done _ => exact .done _
  | act fine _ ih => exact .act fine fun answer => ih answer trivial

/-- An act is allowed when the answers before it keep the promise. -/
theorem Complies.allowed_of_path {program : Program service α}
    (complies : program.Complies promise allowed holds) {events : Journal service} {result : α}
    (path : program.Path events result) {before after : Journal service} {event : Event service}
    (split : events = before ++ event :: after)
    (kept : ∀ earlier ∈ before, promise earlier.deed earlier.answer) : allowed event.deed := by
  induction path generalizing before with
  | done result => simp at split
  | act answer _ ih =>
      cases complies with
      | act fine rest =>
          cases before with
          | nil =>
              obtain ⟨rfl, -⟩ := List.cons.inj split
              exact fine
          | cons first before =>
              obtain ⟨rfl, later⟩ := List.cons.inj split
              obtain ⟨told, others⟩ := List.forall_mem_cons.1 kept
              exact ih (rest answer told) later others

end Program

namespace Act

variable {service : Interface}

/-- Answers to calls and the texts of files keep promises of their own, and nothing is asked of
other answers. -/
def Tells (calls : (request : service.Call) → service.Answer request → Prop)
    (texts : Except ReadFault String → Prop) : (deed : Act service) → deed.Answer → Prop
  | .call request, answer => calls request answer
  | .readText _, answer => texts answer
  | _, _ => True

/-- Calls are restricted, and other acts are free. -/
def Calls (fine : service.Call → Prop) : Act service → Prop
  | .call request => fine request
  | _ => True

end Act

namespace Program

variable {service target : Interface} {α : Type} {holds : α → Prop}

/-- A call that is fine is answered as promised. -/
theorem complies_call {promised : (request : service.Call) → service.Answer request → Prop}
    {texts : Except ReadFault String → Prop} {fine : service.Call → Prop} {request : service.Call}
    (allowed : fine request) :
    (call request).Complies (Act.Tells promised texts) (Act.Calls fine) (promised request) :=
  .act allowed fun _ kept => .done kept

/-- Calls that are carried out in compliance leave a program in compliance. -/
theorem Complies.realize {promised : (request : service.Call) → service.Answer request → Prop}
    {promisedThere : (request : target.Call) → target.Answer request → Prop}
    {texts : Except ReadFault String → Prop} {fine : service.Call → Prop}
    {fineThere : target.Call → Prop}
    {carryOut : (request : service.Call) → Program target (service.Answer request)}
    (carried : ∀ request, fine request →
      (carryOut request).Complies (Act.Tells promisedThere texts) (Act.Calls fineThere)
        (promised request))
    {program : Program service α}
    (complies : program.Complies (Act.Tells promised texts) (Act.Calls fine) holds) :
    (program.realize carryOut).Complies (Act.Tells promisedThere texts) (Act.Calls fineThere)
      holds := by
  induction complies with
  | done fine => exact .done fine
  | @act deed next allowed _ ih =>
      cases deed with
      | call request => exact (carried request allowed).bind ih
      | _ => exact .act trivial ih

end Program

end Harvest
