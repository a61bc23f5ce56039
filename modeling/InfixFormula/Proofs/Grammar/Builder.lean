import InfixFormula.Proofs.Engine.Build
import InfixFormula.Proofs.Grammar.Derivation

/-!
# The builder follows the grammar

With regular symbols the builder is a parser of the grammar. A list with a derivation gives the
formula of the derivation if the levels suffice for its height, and is nested too deep otherwise
(`Derives.outcome_eq`); this is by induction on the derivation, whose chains are split where they
were joined. A list that gives a formula has a derivation of it (`derives_of_outcome`); this is by
induction on the levels, where the operands of a split lose the operators that do not stand
outside brackets.

Together the builder accepts exactly the lists with a derivation that is not too high, and a list
has at most one formula (`Derives.unique`).
-/

set_option autoImplicit false

namespace InfixFormula

open InfixFormula.Bracket Builder Validation

namespace Builder

/-! ## Formulas with a bounded height -/

variable (builder : Builder)

/-- A formula, if a number of levels suffices for its height. -/
def bounded (levels : Nat) (formula : Formula) : Except Fault Formula :=
  if formula.height < levels then .ok formula else .error (.tooDeep builder.maxDepth)

theorem bounded_zero (formula : Formula) :
    builder.bounded 0 formula = .error (.tooDeep builder.maxDepth) :=
  if_neg (Nat.not_lt_zero _)

theorem bounded_leaf {formula : Formula} (leaf : formula.height = 0) (levels : Nat) :
    builder.bounded (levels + 1) formula = .ok formula := by
  rw [bounded, leaf, if_pos (Nat.succ_pos levels)]

/-- The operands of an operator have one level less. -/
theorem bounded_binary (operator : Operator) (left right : Formula) (levels : Nat)
    (turnLeft turnRight : LeafFault → Fault) :
    ((builder.bounded levels left).mapError (Fault.around turnLeft) >>= fun left =>
      (builder.bounded levels right).mapError (Fault.around turnRight) >>= fun right =>
      Formula.ofOperator operator.symbol left right) =
    builder.bounded (levels + 1) (.binary operator left right) := by
  have height : (Formula.binary operator left right).height < levels + 1 ↔
      left.height < levels ∧ right.height < levels := by
    rw [Formula.height, Nat.add_lt_add_iff_right, Nat.max_lt]
  have made : Formula.ofOperator operator.symbol left right =
      .ok (.binary operator left right) := by
    rw [Formula.ofOperator, operator.ofSymbol?_symbol]
  simp only [bounded, height]
  by_cases highLeft : left.height < levels
  · by_cases highRight : right.height < levels
    · rw [if_pos highLeft, if_pos highRight, if_pos ⟨highLeft, highRight⟩]
      exact made
    · have unbounded : ¬ (left.height < levels ∧ right.height < levels) :=
        fun both => highRight both.2
      rw [if_pos highLeft, if_neg highRight, if_neg unbounded]
      rfl
  · have unbounded : ¬ (left.height < levels ∧ right.height < levels) :=
      fun both => highLeft both.1
    rw [if_neg highLeft, if_neg unbounded]
    rfl

/-- The argument of a function has one level less. -/
theorem bounded_call (function : Builtin) (argument : Formula) (levels : Nat)
    (turn : LeafFault → Fault) :
    ((builder.bounded levels argument).mapError (Fault.around turn) >>=
      Formula.ofFunction function.name builder.angleUnit) =
    builder.bounded (levels + 1) (.call function builder.angleUnit argument) := by
  have height : (Formula.call function builder.angleUnit argument).height < levels + 1 ↔
      argument.height < levels := by
    rw [Formula.height, Nat.add_lt_add_iff_right]
  have made : Formula.ofFunction function.name builder.angleUnit argument =
      .ok (.call function builder.angleUnit argument) := by
    rw [Formula.ofFunction, function.ofName?_name]
  simp only [bounded, height]
  by_cases high : argument.height < levels
  · rw [if_pos high, if_pos high]
    exact made
  · rw [if_neg high, if_neg high]
    rfl

end Builder

/-! ## From derivations to formulas -/

section Regular

variable {builder : Builder} (regular : builder.symbols.Regular)
include regular

/-- A chain is split where a derivation joins it: an operator that stood outside brackets on the
wrong side would be listed twice. -/
theorem Derives.splitsAt {operator : Operator} {operators before after : List Term}
    {left right : Formula}
    (first : Derives builder.symbols builder.angleUnit (operator.symbol :: operators) before left)
    (second : Derives builder.symbols builder.angleUnit operators after right)
    (suffix : operator.symbol :: operators <:+ builder.symbols.operators) :
    SplitsAt builder.symbols before operator.symbol after := by
  have left := first.spelled regular suffix
  have right := second.spelled regular ((List.suffix_cons _ _).trans suffix)
  have member := suffix.subset List.mem_cons_self
  have joined := Spelled.joined regular member left right
  obtain ⟨weaker, order⟩ := suffix
  have distinct := regular.nodup
  rw [← order, List.nodup_append] at distinct
  obtain ⟨_, later, apart⟩ := distinct
  refine ⟨⟨weaker, operators, order.symm, fun weak isWeaker outside => ?_⟩, fun outside => ?_,
    left.balanced, right.balanced⟩
  · have known : weak ∈ builder.symbols.operators := by
      rw [← order]
      exact List.mem_append_left _ isWeaker
    exact apart weak isWeaker weak (joined.outer weak known outside) rfl
  · exact (List.nodup_cons.mp later).1 (right.outer _ member outside)

/-- **A list with a derivation gives the formula of the derivation, unless the levels do not
suffice for its height.** -/
theorem Derives.outcome_eq {operators terms : List Term} {formula : Formula}
    (derivation : Derives builder.symbols builder.angleUnit operators terms formula) :
    operators <:+ builder.symbols.operators →
    ∀ levels, builder.outcome levels terms = builder.bounded levels formula := by
  induction derivation with
  | tighter _ ih => exact fun suffix => ih ((List.suffix_cons _ _).trans suffix)
  | @chain operator operators before after _ _ first second ihLeft ihRight =>
      intro suffix levels
      have tail := (List.suffix_cons _ _).trans suffix
      have splits := first.splitsAt regular second suffix
      have left := first.spelled regular suffix
      have joined := Spelled.joined regular splits.member left (second.spelled regular tail)
      have long : 2 ≤ (before ++ operator.symbol :: after).length := by
        have started := List.length_pos_iff.mpr left.nonempty
        rw [List.length_append, List.length_cons]
        omega
      cases levels with
      | zero => rw [outcome_zero, bounded_zero]
      | succ levels =>
          rw [outcome_split regular.toResolved splits long joined.wellCalled, ihLeft suffix,
            ihRight tail, bounded_binary]
  | reference named =>
      intro _ levels
      cases levels with
      | zero => rw [outcome_zero, bounded_zero]
      | succ levels => rw [outcome_single, leaf, if_pos named, bounded_leaf builder rfl]
  | number other numeral =>
      intro _ levels
      cases levels with
      | zero => rw [outcome_zero, bounded_zero]
      | succ levels =>
          rw [outcome_single, leaf, if_neg (Bool.eq_false_iff.mp other), numeral,
            bounded_leaf builder rfl]
  | brackets derivation ih =>
      intro _ levels
      have inner := derivation.spelled regular (List.suffix_refl _)
      rw [outcome_bracketed builder inner.balanced]
      exact ih (List.suffix_refl _) levels
  | call named derivation ih =>
      intro _ levels
      have inner := derivation.spelled regular (List.suffix_refl _)
      cases levels with
      | zero => rw [outcome_zero, bounded_zero]
      | succ levels =>
          rw [outcome_call regular.toResolved named inner.balanced,
            if_neg (not_not_intro ((outside_eq_nil_iff rfl).mpr inner.unseparated)),
            ih (List.suffix_refl _), bounded_call]

/-- **A list has at most one formula.** -/
theorem Derives.unique {terms : List Term} {formula other : Formula}
    (first : Derives builder.symbols builder.angleUnit builder.symbols.operators terms formula)
    (second : Derives builder.symbols builder.angleUnit builder.symbols.operators terms other) :
    formula = other := by
  have whole := List.suffix_refl builder.symbols.operators
  have same (levels : Nat) : builder.bounded levels formula = builder.bounded levels other :=
    (first.outcome_eq regular whole levels).symm.trans (second.outcome_eq regular whole levels)
  have high : formula.height < max formula.height other.height + 1 := by omega
  have otherHigh : other.height < max formula.height other.height + 1 := by omega
  have enough := same (max formula.height other.height + 1)
  rw [bounded, if_pos high, bounded, if_pos otherHigh] at enough
  exact Except.ok.inj enough

/-! ## From formulas to derivations -/

/-- Where an operator splits a list, derivations of the sides are joined. The left side needs no
weaker operators, and the right side not even the operator itself. -/
theorem Derives.joined_of_splitsAt {operator : Operator} {before after : List Term}
    {left right : Formula} (splits : SplitsAt builder.symbols before operator.symbol after)
    (first : Derives builder.symbols builder.angleUnit builder.symbols.operators before left)
    (second : Derives builder.symbols builder.angleUnit builder.symbols.operators after right) :
    Derives builder.symbols builder.angleUnit builder.symbols.operators
      (before ++ operator.symbol :: after) (.binary operator left right) := by
  obtain ⟨weaker, stronger, order, absent⟩ := splits.weakest
  have places (term : Term) : Outside term (before ++ operator.symbol :: after) ↔
      Outside term before ∨ operator.symbol = term ∨ Outside term after :=
    outside_append_cons splits.left.closed operator.weight_symbol
  have shifted : builder.symbols.operators = (weaker ++ [operator.symbol]) ++ stronger := by
    rw [order, List.append_assoc, List.singleton_append]
  rw [order] at first
  rw [shifted] at second
  have left := first.drop_absent regular (order ▸ List.suffix_refl _) fun weak isWeaker inside =>
    absent weak isWeaker ((places weak).mpr (.inl inside))
  have beyond (weak : Term) (member : weak ∈ weaker ++ [operator.symbol]) :
      ¬ Outside weak after := by
    intro inside
    rcases List.mem_append.mp member with isWeaker | same
    · exact absent weak isWeaker ((places weak).mpr (.inr (.inr inside)))
    · rw [List.mem_singleton.mp same] at inside
      exact splits.last inside
  have right := second.drop_absent regular (shifted ▸ List.suffix_refl _) beyond
  rw [order]
  exact (Derives.chain left right).widen weaker

/-- **A list that gives a formula has a derivation of it.** -/
theorem Builder.derives_of_outcome {levels : Nat} {terms : List Term} (balanced : Balanced terms) :
    ∀ formula, builder.outcome levels terms = .ok formula →
      Derives builder.symbols builder.angleUnit builder.symbols.operators terms formula := by
  have whole := List.suffix_refl builder.symbols.operators
  induction levels, balanced using levelInduction regular.toResolved with
  | zero terms balanced => exact fun formula built => nomatch built
  | pair levels inner balanced ih =>
      intro formula built
      rw [outcome_bracketed builder balanced] at built
      exact (Derives.brackets (ih formula built)).of_unit _
  | empty levels =>
      intro formula built
      rw [outcome_empty] at built
      cases built
  | single levels term balanced =>
      intro formula built
      rw [outcome_single, leaf] at built
      split at built
      next named =>
        cases built
        exact (Derives.reference named).of_unit _
      next other =>
        split at built
        next value numeral =>
          cases built
          exact (Derives.number (Bool.eq_false_iff.mpr other) numeral).of_unit _
        next => cases built
  | malformed levels terms fault balanced bare long found =>
      intro formula built
      rw [outcome_malformed builder bare long found] at built
      cases built
  | call levels function argument named within balanced ih =>
      intro formula built
      rw [outcome_call regular.toResolved named within] at built
      split at built
      next => cases built
      next =>
        cases inner : builder.outcome levels argument with
        | error fault =>
            rw [inner] at built
            cases built
        | ok argumentFormula =>
            obtain ⟨function, rfl⟩ := regular.functions _ (Symbols.isFunction_iff.mp named)
            rw [inner] at built
            have made : Formula.ofFunction function.name builder.angleUnit argumentFormula =
              .ok formula := built
            rw [Formula.ofFunction, function.ofName?_name] at made
            cases made
            exact (Derives.call named (ih argumentFormula inner)).of_unit _
  | split levels before operator after splits balanced long wellCalled ihLeft ihRight =>
      intro formula built
      rw [outcome_split regular.toResolved splits long wellCalled] at built
      cases left : builder.outcome levels before with
      | error fault =>
          rw [left] at built
          cases built
      | ok leftFormula =>
          cases right : builder.outcome levels after with
          | error fault =>
              rw [left, right] at built
              cases built
          | ok rightFormula =>
              have neutral := regular.weight_operator splits.member
              obtain ⟨operator, rfl⟩ := regular.operators _ splits.member
              rw [left, right] at built
              have made : Formula.ofOperator operator.symbol leftFormula rightFormula =
                .ok formula := built
              rw [Formula.ofOperator, operator.ofSymbol?_symbol] at made
              cases made
              exact (ihLeft _ left).joined_of_splitsAt regular splits (ihRight _ right)
  | unsplit levels terms balanced bare long wellCalled uncalled unsplit =>
      intro formula built
      have resolved := regular.toResolved
      rw [outcome_unsplit resolved balanced bare long wellCalled uncalled unsplit] at built
      cases built

/-! ## Validation -/

/-- **A list with a derivation is valid and gives the formula of the derivation, unless it is
higher than the greatest depth.** -/
theorem Derives.validated_eq {terms : List Term} {formula : Formula} (derivation :
      Derives builder.symbols builder.angleUnit builder.symbols.operators terms formula) :
    builder.validated terms = builder.bounded (builder.maxDepth + 1) formula := by
  have whole := List.suffix_refl builder.symbols.operators
  have spelled := derivation.spelled regular whole
  have valid := (validate_eq_ok_iff regular.toResolved).mpr
    ⟨spelled.balanced, spelled.known, spelled.wellCalled⟩
  rw [(validated_of_valid regular.toResolved valid).1, derivation.outcome_eq regular whole]

/-- **The builder accepts exactly the lists with a derivation that is not too high.** -/
theorem Builder.validated_eq_ok_iff {terms : List Term} {formula : Formula} :
    builder.validated terms = .ok formula ↔
      Derives builder.symbols builder.angleUnit builder.symbols.operators terms formula ∧
        formula.height ≤ builder.maxDepth := by
  constructor
  · intro built
    cases valid : validate builder.symbols terms with
    | error fault =>
        rw [validated, valid] at built
        cases built
    | ok =>
        obtain ⟨same, balanced⟩ := validated_of_valid regular.toResolved valid
        rw [same] at built
        have derivation := derives_of_outcome regular balanced formula built
        refine ⟨derivation, ?_⟩
        rw [derivation.outcome_eq regular (List.suffix_refl _), bounded] at built
        split at built
        next high => exact Nat.le_of_lt_succ high
        next => cases built
  · rintro ⟨derivation, high⟩
    rw [derivation.validated_eq regular, bounded, if_pos (Nat.lt_succ_of_le high)]

end Regular

end InfixFormula
