import Harvest.Filter.Predicate
import Harvest.Proofs.Result

/-!
What the tokenizer and the parser find wrong is never a mutation: only the audit names one. Every
level of the parser takes its faults from the levels below it.
-/

namespace Harvest.Filter

open Result (Faults)

/-- A fault that names no mutation. -/
def Fault.IsReading (fault : Fault) : Prop :=
  ∀ name, fault ≠ .assignment name

/-- Whatever is wrong for a parser, it is no mutation. -/
def Parser.Reads {α : Type} (parser : Parser α) : Prop :=
  ∀ tokens, Faults Fault.IsReading (parser tokens)

theorem Fault.isReading_atOffset (offset : Nat) (fault : SyntaxFault) :
    (Fault.atOffset offset fault).IsReading := nofun

theorem Fault.isReading_unknownName (name : String) (kind : ItemKind) :
    (Fault.unknownName name kind).IsReading := nofun

theorem reads_expect (mark : Mark) (what : String) (tokens : List Token) :
    Faults Fault.IsReading (expect mark what tokens) := by
  unfold expect
  split
  · exact .ok _
  · exact .error (Fault.isReading_atOffset _ _)

section Parsers

variable {α : Type} {operand expression : Parser Expression}
  {operator? : List Token → Option (α × List Token)}

theorem reads_links (reads : operand.Reads) (room : Nat) :
    (links operand operator? room).Reads := by
  induction room with
  | zero => exact fun _ => .ok _
  | succ room ih =>
      intro tokens
      unfold links
      split
      · exact .ok _
      · exact (reads _).bind fun _ _ => (ih _).bind fun _ _ => .ok _

theorem reads_operands (reads : operand.Reads) : (operands operand operator?).Reads :=
  fun tokens => (reads tokens).bind fun _ _ => (reads_links reads _ _).bind fun _ _ => .ok _

theorem reads_leftLevel (reads : operand.Reads)
    (combine : α → Expression → Expression → Expression) :
    (leftLevel operand operator? combine).Reads :=
  fun tokens => (reads_operands reads tokens).bind fun _ _ => .ok _

theorem reads_members (target : Expression) (room : Nat) : (members target room).Reads := by
  induction room generalizing target with
  | zero => exact fun _ => .ok _
  | succ room ih =>
      intro tokens
      unfold members
      split
      · exact .ok _
      · split
        · split
          · exact ih _ _
          · exact .error (Fault.isReading_atOffset _ _)
        · exact .error (Fault.isReading_atOffset _ _)

theorem reads_itemsFrom (reads : expression.Reads) (room : Nat) :
    (itemsFrom expression room).Reads := by
  induction room with
  | zero => exact fun _ => .error (Fault.isReading_atOffset _ _)
  | succ room ih =>
      intro tokens
      refine (reads tokens).bind fun item _ => ?_
      dsimp only
      split
      · exact .ok _
      · refine (reads_expect _ _ _).bind fun rest _ => ?_
        split
        · exact .ok _
        · exact (ih _).bind fun _ _ => .ok _

theorem reads_listItems (reads : expression.Reads) : (listItems expression).Reads := by
  intro tokens
  unfold listItems
  split
  · exact .ok _
  · exact reads_itemsFrom reads _ _

theorem reads_slot (arguments : Arguments) (tokens : List Token) :
    Faults Fault.IsReading (arguments.slot tokens) := by
  unfold Arguments.slot
  split
  · split
    · exact .ok _
    · exact .error (Fault.isReading_atOffset _ _)
  · split
    · exact .error (Fault.isReading_atOffset _ _)
    · exact .ok _

theorem reads_put (arguments : Arguments) (callOffset offset : Nat) (slot : Option MomentPart)
    (value : Expression) : Faults Fault.IsReading (arguments.put callOffset offset slot value) := by
  unfold Arguments.put
  dsimp only
  split
  · exact .error (Fault.isReading_atOffset _ _)
  · split
    · exact .error (Fault.isReading_atOffset _ _)
    · exact .ok _

theorem reads_argumentsFrom (reads : expression.Reads) (callOffset : Nat) (room : Nat)
    (arguments : Arguments) : (argumentsFrom expression callOffset arguments room).Reads := by
  induction room generalizing arguments with
  | zero => exact fun _ => .error (Fault.isReading_atOffset _ _)
  | succ room ih =>
      intro tokens
      unfold argumentsFrom
      split
      · exact .ok _
      · refine (reads_slot _ _).bind fun _ _ => (reads _).bind fun _ _ => ?_
        refine (reads_put _ _ _ _ _).bind fun _ _ => ?_
        split
        · exact ih _ _
        · exact (reads_expect _ _ _).bind fun _ _ => .ok _

theorem reads_finish (arguments : Arguments) (callOffset : Nat) :
    Faults Fault.IsReading (arguments.finish callOffset) := by
  unfold Arguments.finish
  split
  · exact .error (Fault.isReading_atOffset _ _)
  · exact .ok _

theorem reads_namedAtom (kind : ItemKind) (reads : expression.Reads) (word : String)
    (offset : Nat) : (namedAtom kind expression word offset).Reads := by
  intro tokens
  unfold namedAtom
  split
  · split
    · exact .error (Fault.isReading_atOffset _ _)
    · refine (reads_argumentsFrom reads _ _ _ _).bind fun _ _ => ?_
      exact (reads_finish _ _).bind fun _ _ => .ok _
  · split
    · exact .error (Fault.isReading_unknownName _ _)
    · split
      · exact .error (Fault.isReading_atOffset _ _)
      · exact .ok _

end Parsers

/-- Nothing that the parsers one step deeper find wrong is a mutation. -/
structure Nested.Reads (deeper : Nested) : Prop where
  expression : deeper.expression.Reads
  negated : deeper.negated.Reads
  signed : deeper.signed.Reads
  items : deeper.items.Reads

section Levels

variable {kind : ItemKind} {deeper : Nested}

theorem reads_atom (reads : deeper.Reads) : (atom kind deeper).Reads := by
  intro tokens
  unfold atom
  split
  case h_7 => exact reads_namedAtom kind reads.expression _ _ _
  case h_8 => exact (reads.expression _).bind fun _ _ => (reads_expect _ _ _).bind fun _ _ => .ok _
  case h_9 => exact (reads.items _).bind fun _ _ => .ok _
  case h_10 => exact .error (Fault.isReading_atOffset _ _)
  all_goals exact .ok _

theorem reads_memberAccess (reads : deeper.Reads) : (memberAccess kind deeper).Reads :=
  fun tokens => (reads_atom reads tokens).bind fun _ _ => reads_members _ _ _

theorem reads_signedOperand (reads : deeper.Reads) : (signedOperand kind deeper).Reads := by
  intro tokens
  unfold signedOperand
  split
  · exact (reads.signed _).bind fun _ _ => .ok _
  · exact (reads.signed _).bind fun _ _ => .ok _
  · exact reads_memberAccess reads _

theorem reads_comparisonChain (reads : deeper.Reads) : (comparisonChain kind deeper).Reads := by
  have sums : (sum kind deeper).Reads :=
    reads_leftLevel (reads_leftLevel (reads_signedOperand reads) _) _
  exact fun tokens => (reads_operands sums tokens).bind fun _ _ => .ok _

theorem reads_negation (reads : deeper.Reads) : (negation kind deeper).Reads := by
  intro tokens
  unfold negation
  split
  · exact (reads.negated _).bind fun _ _ => .ok _
  · exact reads_comparisonChain reads _

theorem reads_disjunction (reads : deeper.Reads) : (disjunction kind deeper).Reads :=
  reads_leftLevel (reads_leftLevel (reads_negation reads) _) _

theorem reads_nested (kind : ItemKind) (steps : Nat) : (nested kind steps).Reads := by
  induction steps with
  | zero => constructor <;> exact fun _ => .error (Fault.isReading_atOffset _ _)
  | succ steps ih =>
      exact ⟨reads_disjunction ih, reads_negation ih, reads_signedOperand ih,
        reads_listItems ih.expression⟩

end Levels

/-- The words of a text are no mutation by themselves. -/
theorem reads_lexemeAt (offset : Nat) (head : Char) (rest : List Char) :
    Faults Fault.IsReading (lexemeAt offset head rest) := by
  unfold lexemeAt
  split
  · exact .ok _
  · split
    · unfold numberAt
      dsimp only
      split
      · exact .ok _
      · split
        · exact .error (Fault.isReading_atOffset _ _)
        · split
          · exact .ok _
          · exact .error (Fault.isReading_atOffset _ _)
    · split
      · split
        · exact .ok _
        · exact .error (Fault.isReading_atOffset _ _)
      · split
        · exact .ok _
        · exact .error (Fault.isReading_atOffset _ _)

theorem reads_tokensFrom (offset : Nat) (characters : List Char) :
    Faults Fault.IsReading (tokensFrom offset characters) := by
  induction offset, characters using tokensFrom.induct with
  | case1 offset =>
      rw [tokensFrom]
      exact .ok _
  | case2 offset head rest blank ih =>
      rw [tokensFrom, if_pos blank]
      exact ih
  | case3 offset head rest solid ih =>
      rw [tokensFrom, if_neg solid]
      exact (reads_lexemeAt offset head rest).bind fun _ _ => (ih _).bind fun _ _ => .ok _

end Harvest.Filter
