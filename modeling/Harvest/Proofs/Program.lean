import Harvest.Program

/-!
What holds of every result of a program. Answers to calls may come with a promise, and every other
answer is free, so that what a program ensures is ensured in all surroundings.
-/

namespace Harvest

variable {service target : Interface} {α β : Type}

/-- The answer to a call keeps its promise. -/
def Act.Keeps (promise : (request : service.Call) → service.Answer request → Prop) :
    (deed : Act service) → deed.Answer → Prop
  | .call request, answer => promise request answer
  | _, _ => True

namespace Program

variable {promise : (request : service.Call) → service.Answer request → Prop}
  {holds : α → Prop}

/-- Something holds of the result, whatever answers keep the promise. -/
def Ensures (promise : (request : service.Call) → service.Answer request → Prop)
    (holds : α → Prop) : Program service α → Prop
  | .done result => holds result
  | .act deed next => ∀ answer, deed.Keeps promise answer → (next answer).Ensures promise holds

/-- Something holds of the result, whatever the answers. -/
def Always (holds : α → Prop) (program : Program service α) : Prop :=
  program.Ensures (fun _ _ => True) holds

/-- Nothing is asked of a result that does not matter. -/
theorem ensures_true (program : Program service α) : program.Ensures promise fun _ => True := by
  induction program with
  | done result => trivial
  | act deed next ih => exact fun answer _ => ih answer

theorem Ensures.imp {weaker : α → Prop} {program : Program service α}
    (ensures : program.Ensures promise holds) (weaken : ∀ result, holds result → weaker result) :
    program.Ensures promise weaker := by
  induction program with
  | done result => exact weaken result ensures
  | act deed next ih => exact fun answer kept => ih answer (ensures answer kept)

theorem Ensures.bind {middle : β → Prop} {first : Program service β}
    {second : β → Program service α} (start : first.Ensures promise middle)
    (following : ∀ result, middle result → (second result).Ensures promise holds) :
    (first >>= second).Ensures promise holds := by
  induction first with
  | done result => exact following result start
  | act deed next ih => exact fun answer kept => ih answer (start answer kept)

/-- A first program whose result does not matter. -/
theorem Ensures.after {first : Program service β} {second : β → Program service α}
    (following : ∀ result, (second result).Ensures promise holds) :
    (first >>= second).Ensures promise holds :=
  (ensures_true first).bind fun result _ => following result

/-- Calls that are carried out as promised leave a program with what it ensures. -/
theorem Ensures.realize {promised : (request : target.Call) → target.Answer request → Prop}
    {carryOut : (request : service.Call) → Program target (service.Answer request)}
    (kept : ∀ request, (carryOut request).Ensures promised (promise request))
    {program : Program service α} (ensures : program.Ensures promise holds) :
    (program.realize carryOut).Ensures promised holds := by
  induction program with
  | done result => exact ensures
  | act deed next ih =>
      cases deed with
      | call request =>
          exact (kept request).bind fun answer promiseKept => ih answer (ensures answer promiseKept)
      | _ => exact fun answer _ => ih answer (ensures answer trivial)

end Program

end Harvest
