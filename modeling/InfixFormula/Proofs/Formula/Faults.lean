import InfixFormula.Proofs.Formula.Levels

/-!
# Where the faults of the builder come from

When the builder gives a fault for a balanced list, the fault points at a part of the list. Either
the list itself is no single operand: without redundant brackets it is empty, or a single term
that is neither a variable nor a numeral (`NoOperand`). Or the fault is about a part inside the
list (`PartFault`): a call that is malformed or has several arguments, a list that cannot be split
(`Unsplit`), a list that lies too deep, or an operand or argument that is no single operand; only in
the last case the fault has a cause, which says why.

The invariant that carries the induction (`Explained`) keeps both possibilities apart, because a
level treats them differently. A fault of the first kind turns into one of the second at the
operator or function around the list; a fault of the second kind passes through untouched.
-/

set_option autoImplicit false

namespace InfixFormula.Builder

open InfixFormula.Bracket Validation

/-- Why a list of terms without redundant brackets is no single operand. -/
inductive NoOperand (symbols : Symbols) : List Term → LeafFault → Prop
  | empty : NoOperand symbols [] .empty
  | single {term : Term} : symbols.isVariable term = false → Numeral.read? term = none →
      NoOperand symbols [term] (.notOperand term)

/-- A list that cannot be stripped, is no call and has no operator to split it at. -/
structure Unsplit (symbols : Symbols) (terms : List Term) : Prop where
  balanced : Balanced terms
  bare : isWrapped terms = false
  long : 2 ≤ terms.length
  wellCalled : WellCalled symbols terms
  uncalled : ∀ function argument, symbols.isFunction function = true → Balanced argument →
    terms ≠ function :: bracketed argument
  unsplit : ∀ operator ∈ symbols.operators, ¬ Outside operator terms

/-- The faults about a part of a list. -/
inductive PartFault (builder : Builder) (terms : List Term) : Fault → Prop
  | tooDeep : PartFault builder terms (.tooDeep builder.maxDepth)
  | malformedCall {part : List Term} {call : CallFault} : part <:+: terms →
      callFault? builder.symbols part = some call → PartFault builder terms (.malformedCall call)
  | missingOperator {part : List Term} : part <:+: terms → Unsplit builder.symbols part →
      PartFault builder terms (.missingOperator part)
  | severalArguments {function : Term} {argument : List Term} :
      function :: bracketed argument <:+: terms → builder.symbols.isFunction function = true →
      Outside Term.separator argument → PartFault builder terms (.severalArguments function)
  | argument {function : Term} {argument : List Term} {cause : LeafFault} :
      function :: bracketed argument <:+: terms → builder.symbols.isFunction function = true →
      NoOperand builder.symbols (unwrapped argument) cause →
      PartFault builder terms (.argument function cause)
  | leftOperand {before after : List Term} {operator : Term} {cause : LeafFault} :
      before ++ operator :: after <:+: terms → SplitsAt builder.symbols before operator after →
      NoOperand builder.symbols (unwrapped before) cause →
      PartFault builder terms (.operand .left (.operator operator) cause)
  | rightOperand {before after : List Term} {operator : Term} {cause : LeafFault} :
      before ++ operator :: after <:+: terms → SplitsAt builder.symbols before operator after →
      NoOperand builder.symbols (unwrapped after) cause →
      PartFault builder terms (.operand .right (.operator operator) cause)

/-- A fault of the builder for a list: the list is no single operand, or the fault is about a
part of it. -/
def Explained (builder : Builder) (terms : List Term) (fault : Fault) : Prop :=
  (∃ cause, fault = .leaf cause ∧ NoOperand builder.symbols (unwrapped terms) cause) ∨
    PartFault builder terms fault

variable {builder : Builder} {terms : List Term} {fault : Fault}

namespace PartFault

/-- A fault about a part of a list is about a part of every larger list. -/
theorem mono {part : List Term} (faulty : PartFault builder part fault) (within : part <:+: terms) :
    PartFault builder terms fault := by
  cases faulty with
  | tooDeep => exact .tooDeep
  | malformedCall inner found => exact .malformedCall (inner.trans within) found
  | missingOperator inner unsplit => exact .missingOperator (inner.trans within) unsplit
  | severalArguments inner named separated =>
      exact .severalArguments (inner.trans within) named separated
  | argument inner named cause => exact .argument (inner.trans within) named cause
  | leftOperand inner splits cause => exact .leftOperand (inner.trans within) splits cause
  | rightOperand inner splits cause => exact .rightOperand (inner.trans within) splits cause

/-- An operator or function around the list leaves such a fault as it is. -/
theorem around_eq (faulty : PartFault builder terms fault) (turn : LeafFault → Fault) :
    Fault.around turn fault = fault := by
  cases faulty <;> rfl

theorem ne_leaf (faulty : PartFault builder terms fault) (cause : LeafFault) :
    fault ≠ .leaf cause := by
  rintro rfl
  cases faulty

end PartFault

namespace Explained

/-- A redundant pair of brackets keeps what a fault is about. -/
theorem bracketed {inner : List Term} (balanced : Balanced inner)
    (explained : Explained builder inner fault) :
    Explained builder (Bracket.bracketed inner) fault := by
  rcases explained with ⟨cause, rfl, noOperand⟩ | faulty
  · refine .inl ⟨cause, rfl, ?_⟩
    rwa [unwrapped_bracketed balanced]
  · exact .inr (faulty.mono ⟨[Term.opening], [Term.closing], rfl⟩)

/-- What is around a part turns the fault of the part into a fault about a part. -/
theorem around {part : List Term} {turn : LeafFault → Fault}
    (explained : Explained builder part fault) (within : part <:+: terms)
    (turned : ∀ cause, NoOperand builder.symbols (unwrapped part) cause →
      PartFault builder terms (turn cause)) :
    PartFault builder terms (fault.around turn) := by
  rcases explained with ⟨cause, rfl, noOperand⟩ | faulty
  · exact turned cause noOperand
  · rw [faulty.around_eq]
    exact faulty.mono within

end Explained

/-- A fault of a single term says that it is neither a variable nor a numeral. -/
theorem leaf_eq_error_iff {term : Term} :
    builder.leaf term = .error fault ↔ fault = .leaf (.notOperand term) ∧
      builder.symbols.isVariable term = false ∧ Numeral.read? term = none := by
  rw [leaf]
  constructor
  · intro failed
    split at failed
    next => cases failed
    next other =>
      split at failed
      next => cases failed
      next none => exact ⟨(Except.error.inj failed).symm, Bool.eq_false_iff.mpr other, none⟩
  · rintro ⟨rfl, other, none⟩
    rw [if_neg (Bool.eq_false_iff.mp other), none]

/-- A fault that is not turned from another comes from the part itself. -/
theorem error_of_around {turn : LeafFault → Fault} {result : Except Fault Formula}
    (failed : result.mapError (Fault.around turn) = .error fault)
    (turned : ∀ cause, turn cause ≠ fault) : result = .error fault := by
  rcases result with other | formula
  · have same : other.around turn = fault := Except.error.inj failed
    cases other with
    | leaf cause => exact absurd same (turned cause)
    | _ => exact congrArg Except.error same
  · cases failed

/-- The functions of a resolved table make formulas. -/
theorem ofFunction_ne_error {symbols : Symbols} (resolved : symbols.Resolved) {function : Term}
    (named : symbols.isFunction function = true) (unit : AngleUnit) (argument : Formula)
    (fault : Fault) : Formula.ofFunction function unit argument ≠ .error fault := by
  obtain ⟨builtin, known⟩ := resolved.ofName?_of_mem (Symbols.isFunction_iff.mp named)
  rw [Formula.ofFunction, known]
  nofun

/-- The operators of a resolved table make formulas. -/
theorem ofOperator_ne_error {symbols : Symbols} (resolved : symbols.Resolved) {operator : Term}
    (member : operator ∈ symbols.operators) (left right : Formula) (fault : Fault) :
    Formula.ofOperator operator left right ≠ .error fault := by
  obtain ⟨builtin, known⟩ := resolved.ofSymbol?_of_mem member
  rw [Formula.ofOperator, known]
  nofun

/-- **Every fault of the builder is about the list or a part of it.** -/
theorem explained_of_error (resolved : builder.symbols.Resolved) (levels : Nat)
    (balanced : Balanced terms) :
    ∀ fault, builder.outcome levels terms = .error fault → Explained builder terms fault := by
  induction levels, balanced using levelInduction resolved with
  | zero terms balanced =>
      intro fault failed
      rw [outcome_zero] at failed
      cases failed
      exact .inr .tooDeep
  | pair levels inner balanced ih =>
      intro fault failed
      rw [outcome_bracketed builder balanced] at failed
      exact (ih fault failed).bracketed balanced
  | empty levels =>
      intro fault failed
      rw [outcome_empty] at failed
      cases failed
      refine .inl ⟨.empty, rfl, ?_⟩
      rw [unwrapped_of_not_wrapped rfl]
      exact .empty
  | single levels term balanced =>
      intro fault failed
      rw [outcome_single] at failed
      obtain ⟨rfl, other, none⟩ := leaf_eq_error_iff.mp failed
      refine .inl ⟨.notOperand term, rfl, ?_⟩
      rw [unwrapped_of_not_wrapped rfl]
      exact .single other none
  | malformed levels terms call balanced bare long found =>
      intro fault failed
      rw [outcome_malformed builder bare long found] at failed
      cases failed
      exact .inr (.malformedCall (List.infix_refl terms) found)
  | call levels function argument named within balanced ih =>
      intro fault failed
      rw [outcome_call resolved named within] at failed
      have whole := List.infix_refl (function :: bracketed argument)
      split at failed
      next separated =>
        cases failed
        refine .inr (.severalArguments whole named ?_)
        exact Classical.byContradiction fun absent =>
          separated ((outside_eq_nil_iff rfl).mpr absent)
      next =>
        refine .inr ?_
        cases built : builder.outcome levels argument with
        | ok formula =>
            rw [built] at failed
            exact absurd failed (ofFunction_ne_error resolved named builder.angleUnit formula fault)
        | error cause =>
            rw [built] at failed
            cases failed
            have part : argument <:+: function :: bracketed argument :=
              ⟨[function, Term.opening], [Term.closing], rfl⟩
            exact (ih cause built).around part fun _ => .argument whole named
  | split levels before operator after splits balanced long wellCalled left right =>
      intro fault failed
      rw [outcome_split resolved splits long wellCalled] at failed
      have whole := List.infix_refl (before ++ operator :: after)
      refine .inr ?_
      cases builtLeft : builder.outcome levels before with
      | error cause =>
          rw [builtLeft] at failed
          cases failed
          have part : before <:+: before ++ operator :: after := ⟨[], operator :: after, rfl⟩
          exact (left cause builtLeft).around part fun _ => .leftOperand whole splits
      | ok formula =>
          rw [builtLeft] at failed
          cases builtRight : builder.outcome levels after with
          | error cause =>
              rw [builtRight] at failed
              cases failed
              have part : after <:+: before ++ operator :: after :=
                ⟨before ++ [operator], [], by simp only [List.append_assoc, List.append_nil,
                  List.singleton_append]⟩
              exact (right cause builtRight).around part fun _ => .rightOperand whole splits
          | ok other =>
              rw [builtRight] at failed
              exact absurd failed (ofOperator_ne_error resolved splits.member formula other fault)
  | unsplit levels terms balanced bare long wellCalled uncalled unsplit =>
      intro fault failed
      rw [outcome_unsplit resolved balanced bare long wellCalled uncalled unsplit] at failed
      cases failed
      exact .inr (.missingOperator (List.infix_refl _)
        ⟨balanced, bare, long, wellCalled, uncalled, unsplit⟩)

theorem NoOperand.outcome {levels : Nat} {cause : LeafFault}
    (noOperand : NoOperand builder.symbols terms cause) :
    builder.outcome (levels + 1) terms = .error (.leaf cause) := by
  cases noOperand with
  | empty => exact outcome_empty builder
  | single other none =>
      rw [outcome_single]
      exact leaf_eq_error_iff.mpr ⟨rfl, other, none⟩

/-- **With a level left, a list gives the fault of no single operand exactly if it is none.** -/
theorem outcome_eq_leaf_iff (resolved : builder.symbols.Resolved) {levels : Nat}
    (balanced : Balanced terms) {cause : LeafFault} :
    builder.outcome (levels + 1) terms = .error (.leaf cause) ↔
      NoOperand builder.symbols (unwrapped terms) cause := by
  constructor
  · intro failed
    rcases explained_of_error resolved (levels + 1) balanced _ failed with ⟨_, same, found⟩ | faulty
    · cases same
      exact found
    · exact absurd rfl (faulty.ne_leaf cause)
  · intro noOperand
    rw [← builder.outcome_unwrapped balanced]
    exact noOperand.outcome

end InfixFormula.Builder
