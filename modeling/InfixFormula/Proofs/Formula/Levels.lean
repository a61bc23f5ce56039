import InfixFormula.Formula.Builder
import InfixFormula.Proofs.Term.Calls

/-!
# How a level of the builder reads a list

Without its notes, what the builder makes of a list of terms is a result or a fault
(`Builder.outcome`). A balanced list without redundant brackets is read in one of six ways: it is
empty, a single term, a list with a malformed call, a call, a list split at an operator, or a
list without an operator to split it at. This module says what comes out in each of them, in
terms of what comes out of the parts one level deeper.

That there are no other ways is an induction principle (`Builder.levelInduction`): a property of
levels and balanced lists holds if a pair of brackets keeps it and if it can be carried through
the six ways. Most statements on the builder are proved by it. Balance is what makes the
principle true: every part that the builder goes on with is balanced again.
-/

set_option autoImplicit false

namespace InfixFormula.Builder

open InfixFormula.Bracket Validation

/-- What building gives with a number of levels left, without the notes. -/
def outcome (builder : Builder) (levels : Nat) (terms : List Term) : Except Fault Formula :=
  (builder.buildLevels levels terms).result

/-- An operator of the table splits a list at its last place outside brackets, and no weaker
operator stands outside brackets. -/
structure SplitsAt (symbols : Symbols) (before : List Term) (operator : Term)
    (after : List Term) : Prop where
  weakest : ∃ weaker stronger, symbols.operators = weaker ++ operator :: stronger ∧
    ∀ weak ∈ weaker, ¬ Outside weak (before ++ operator :: after)
  last : ¬ Outside operator after
  left : Balanced before
  right : Balanced after

theorem SplitsAt.member {symbols : Symbols} {before after : List Term} {operator : Term}
    (splits : SplitsAt symbols before operator after) : operator ∈ symbols.operators := by
  obtain ⟨weaker, stronger, order, _⟩ := splits.weakest
  rw [order]
  exact List.mem_append_right weaker List.mem_cons_self

section SplitPoint

variable {symbols : Symbols} (resolved : symbols.Resolved) {terms : List Term}
  (balanced : Balanced terms)
include resolved balanced

/-- **The builder splits a list at an operator exactly where the operator splits it.** -/
theorem splitPoint?_eq_some_iff {operator : Term} {index : Nat} :
    splitPoint? symbols terms = some (operator, index) ↔
      ∃ before after, terms = before ++ operator :: after ∧ before.length = index ∧
        SplitsAt symbols before operator after := by
  simp only [splitPoint?, List.findSome?_eq_some_iff, Option.map_eq_some_iff, Prod.mk.injEq,
    Option.map_eq_none_iff]
  constructor
  · rintro ⟨weaker, operator, stronger, order, ⟨index, found, rfl, rfl⟩, unseen⟩
    have listed (term : Term) (member : term ∈ weaker ++ [operator]) :
        term ∈ symbols.operators := by
      rw [order, List.append_cons]
      exact List.mem_append_left stronger member
    have member := listed operator (List.mem_append_right weaker List.mem_cons_self)
    have neutral := resolved.weight_operator member
    obtain ⟨before, after, rfl, length, outside, last⟩ :=
      (lookup_lastOutside_eq_some_iff (Symbols.isOperator_iff.mpr member) neutral
        balanced.closed).mp found
    obtain ⟨left, right⟩ := balanced.operands neutral outside
    refine ⟨before, after, rfl, length, ⟨weaker, stronger, order, fun weak isWeaker => ?_⟩, last,
      left, right⟩
    have member := listed weak (List.mem_append_left _ isWeaker)
    exact (lookup_lastOutside_eq_none_iff (Symbols.isOperator_iff.mpr member)
      (resolved.weight_operator member) balanced.closed).mp (unseen weak isWeaker)
  · rintro ⟨before, after, rfl, rfl, splits⟩
    obtain ⟨weaker, stronger, order, unseen⟩ := splits.weakest
    refine ⟨weaker, operator, stronger, order, ⟨_, ?_, rfl, rfl⟩, fun weak isWeaker => ?_⟩
    · exact (lookup_lastOutside_eq_some_iff (Symbols.isOperator_iff.mpr splits.member)
        (resolved.weight_operator splits.member) balanced.closed).mpr
        ⟨before, after, rfl, rfl, splits.left.closed, splits.last⟩
    · have member : weak ∈ symbols.operators := by
        rw [order]
        exact List.mem_append_left _ isWeaker
      exact (lookup_lastOutside_eq_none_iff (Symbols.isOperator_iff.mpr member)
        (resolved.weight_operator member) balanced.closed).mpr (unseen weak isWeaker)

/-- The builder splits a list nowhere exactly if no operator stands outside brackets. -/
theorem splitPoint?_eq_none_iff :
    splitPoint? symbols terms = none ↔
      ∀ operator ∈ symbols.operators, ¬ Outside operator terms := by
  simp only [splitPoint?, List.findSome?_eq_none_iff, Option.map_eq_none_iff]
  refine forall₂_congr fun operator member => ?_
  exact lookup_lastOutside_eq_none_iff (Symbols.isOperator_iff.mpr member)
    (resolved.weight_operator member) balanced.closed

end SplitPoint

/-- If the builder splits a list nowhere, its walk has found no operator: every operator that it
finds is in the order of precedence. -/
theorem lastOutside_eq_nil {symbols : Symbols} {terms : List Term}
    (unsplit : splitPoint? symbols terms = none) :
    lastOutside symbols.isOperator terms = [] := by
  rw [List.eq_nil_iff_forall_not_mem]
  rintro ⟨operator, index⟩ kept
  have member := Symbols.isOperator_iff.mp (wanted_of_mem_lastOutside kept)
  simp only [splitPoint?, List.findSome?_eq_none_iff, Option.map_eq_none_iff] at unsplit
  have absent := List.lookup_eq_none_iff.mp (unsplit operator member) _ kept
  rw [bne_self_eq_false] at absent
  cases absent

/-! ## The outcome of a level -/

theorem exists_cons_of_long {terms : List Term} (long : 2 ≤ terms.length) :
    ∃ first rest, terms = first :: rest ∧ rest ≠ [] := by
  match terms, long with
  | first :: second :: rest, _ => exact ⟨first, second :: rest, rfl, List.cons_ne_nil _ _⟩

/-- A list that does not start with a bracket is no bracketed unit. -/
theorem isWrapped_cons_eq_false {first : Term} (neutral : weight first = 0) (rest : List Term) :
    isWrapped (first :: rest) = false := by
  have other : (some first == some Term.opening) = false := beq_false_of_ne fun same =>
    ne_opening_of_weight neutral (Option.some.inj same)
  rw [isWrapped, List.head?_cons, other, Bool.and_false, Bool.false_and]

section Outcome

variable (builder : Builder) {levels : Nat}

theorem outcome_zero (terms : List Term) :
    builder.outcome 0 terms = .error (.tooDeep builder.maxDepth) := rfl

/-- A redundant pair of brackets changes nothing, not even the notes. -/
theorem buildLevels_bracketed {inner : List Term} (balanced : Balanced inner) (levels : Nat) :
    builder.buildLevels levels (bracketed inner) = builder.buildLevels levels inner := by
  cases levels with
  | zero => rfl
  | succ levels => rw [buildLevels, buildLevels, unwrapped_bracketed balanced]

/-- **A redundant pair of brackets does not change the outcome.** -/
theorem outcome_bracketed {inner : List Term} (balanced : Balanced inner) (levels : Nat) :
    builder.outcome levels (bracketed inner) = builder.outcome levels inner :=
  congrArg Logged.result (builder.buildLevels_bracketed balanced levels)

/-- Neither do all of them. -/
theorem outcome_unwrapped {terms : List Term} (balanced : Balanced terms) (levels : Nat) :
    builder.outcome levels (unwrapped terms) = builder.outcome levels terms := by
  induction balanced using Balanced.unwrapInduction with
  | bare terms balanced bare => rw [unwrapped_of_not_wrapped bare]
  | pair inner balanced ih =>
      rw [unwrapped_bracketed balanced, ih, builder.outcome_bracketed balanced]

theorem outcome_empty : builder.outcome (levels + 1) [] = .error (.leaf .empty) := by
  rw [outcome, buildLevels, unwrapped_of_not_wrapped rfl]
  rfl

theorem outcome_single (term : Term) :
    builder.outcome (levels + 1) [term] = builder.leaf term := by
  rw [outcome, buildLevels, unwrapped_of_not_wrapped rfl]
  rfl

/-- A list of at least two terms without redundant brackets is checked for malformed calls, and
then it is a call or split at an operator. -/
theorem outcome_long (levels : Nat) {first : Term} {rest : List Term} (long : rest ≠ [])
    (bare : isWrapped (first :: rest) = false) :
    ∃ noted, builder.outcome (levels + 1) (first :: rest) =
      match callFault? builder.symbols (first :: rest) with
      | some fault => .error (.malformedCall fault)
      | none =>
          if builder.symbols.isFunction first && isWrapped rest then
            (builder.call (builder.buildLevels levels) noted first (interior rest)).result
          else (builder.split (builder.buildLevels levels) noted (first :: rest)).result := by
  obtain ⟨second, rest, rfl⟩ := List.exists_cons_of_ne_nil long
  refine ⟨builder.maxDepth - levels, ?_⟩
  rw [outcome, buildLevels, unwrapped_of_not_wrapped bare]
  simp only [buildUnwrapped, Logged.bind_result, Logged.liftM_result, checkCalls, inspectCalls_eq]
  cases callFault? builder.symbols (first :: second :: rest) with
  | some fault => rfl
  | none => exact apply_ite Logged.result _ _ _

/-- A malformed call ends the building of a list, and nothing has been noted. -/
theorem buildLevels_malformed {terms : List Term} {fault : CallFault}
    (bare : isWrapped terms = false) (long : 2 ≤ terms.length)
    (faulty : callFault? builder.symbols terms = some fault) :
    builder.buildLevels (levels + 1) terms = Logged.fail (.malformedCall fault) := by
  obtain ⟨first, rest, rfl, more⟩ := exists_cons_of_long long
  obtain ⟨second, rest, rfl⟩ := List.exists_cons_of_ne_nil more
  rw [buildLevels, unwrapped_of_not_wrapped bare]
  simp only [buildUnwrapped, checkCalls, inspectCalls_eq, faulty]
  rfl

theorem outcome_malformed {terms : List Term} {fault : CallFault} (bare : isWrapped terms = false)
    (long : 2 ≤ terms.length) (faulty : callFault? builder.symbols terms = some fault) :
    builder.outcome (levels + 1) terms = .error (.malformedCall fault) :=
  congrArg Logged.result (builder.buildLevels_malformed bare long faulty)

section Resolved

variable {builder} (resolved : builder.symbols.Resolved)
include resolved

/-- **A call is the function on what comes out of its argument**, which must not have a separator
outside brackets. -/
theorem outcome_call {function : Term} {argument : List Term}
    (named : builder.symbols.isFunction function = true) (balanced : Balanced argument) :
    builder.outcome (levels + 1) (function :: bracketed argument) =
      if outside (· == Term.separator) argument ≠ [] then .error (.severalArguments function)
      else (builder.outcome levels argument).mapError (Fault.around (.argument function)) >>=
        Formula.ofFunction function builder.angleUnit := by
  have neutral := resolved.weight_function named
  have complete : callFault? builder.symbols (function :: bracketed argument) = none := by
    rw [callFault?_eq_none_iff resolved (by
      rw [depth_cons, neutral, balanced.bracketed.closed]; rfl)]
    exact wellCalled_call resolved named balanced
  have long : bracketed argument ≠ [] := List.cons_ne_nil _ _
  obtain ⟨_, read⟩ := builder.outcome_long levels long (isWrapped_cons_eq_false neutral _)
  rw [read, complete]
  simp only [named, isWrapped_bracketed balanced, Bool.and_self, if_true, interior_bracketed,
    Builder.call]
  split
  next => rfl
  next =>
    simp only [Logged.bind_result, Logged.note_result, Logged.liftM_result, around,
      Logged.mapFault_result]
    rfl

/-- A list with a function in front is no call if it is cut at depth zero behind the function. -/
theorem not_call_of_splits {before after : List Term} {operator first : Term} {rest : List Term}
    (splits : SplitsAt builder.symbols before operator after)
    (shape : before ++ operator :: after = first :: rest) :
    (builder.symbols.isFunction first && isWrapped rest) = false := by
  rw [Bool.and_eq_false_iff]
  cases before with
  | nil =>
      obtain ⟨rfl, _⟩ := List.cons.inj shape
      exact .inl (resolved.isFunction_operator splits.member)
  | cons head before =>
      obtain ⟨rfl, rfl⟩ := List.cons.inj shape
      by_cases named : builder.symbols.isFunction head = true
      · have neutral := resolved.weight_function named
        have operatorNeutral := resolved.weight_operator splits.member
        have cut := splits.left.closed
        rw [depth_cons, neutral, Int.zero_add] at cut
        refine .inr ?_
        cases before with
        | nil => exact isWrapped_cons_eq_false operatorNeutral after
        | cons second before =>
            have inside := (splits.left.tail neutral).append
              ((Balanced.single operatorNeutral).append splits.right)
            exact isWrapped_eq_false_of_cut inside (List.cons_ne_nil _ _) (List.cons_ne_nil _ _) cut
      · exact .inl (Bool.eq_false_iff.mpr named)

theorem SplitsAt.balanced {before after : List Term} {operator : Term}
    (splits : SplitsAt builder.symbols before operator after) :
    Balanced (before ++ operator :: after) := by
  have neutral := resolved.weight_operator splits.member
  exact splits.left.append ((Balanced.single neutral).append splits.right)

theorem SplitsAt.bare {before after : List Term} {operator : Term}
    (splits : SplitsAt builder.symbols before operator after) :
    isWrapped (before ++ operator :: after) = false := by
  cases before with
  | nil => exact isWrapped_cons_eq_false (resolved.weight_operator splits.member) after
  | cons first before =>
      exact isWrapped_eq_false_of_cut (splits.balanced resolved) (List.cons_ne_nil _ _)
        (List.cons_ne_nil _ _) splits.left.closed

/-- **A list split at an operator is the operator on what comes out of both sides**, the left
side first. -/
theorem outcome_split {before after : List Term} {operator : Term}
    (splits : SplitsAt builder.symbols before operator after)
    (long : 2 ≤ (before ++ operator :: after).length)
    (wellCalled : WellCalled builder.symbols (before ++ operator :: after)) :
    builder.outcome (levels + 1) (before ++ operator :: after) =
      ((builder.outcome levels before).mapError
        (Fault.around (.operand .left (.operator operator))) >>= fun left =>
      (builder.outcome levels after).mapError
        (Fault.around (.operand .right (.operator operator))) >>= fun right =>
      Formula.ofOperator operator left right) := by
  have balanced := splits.balanced resolved
  have place : splitPoint? builder.symbols (before ++ operator :: after) =
      some (operator, before.length) :=
    (splitPoint?_eq_some_iff resolved balanced).mpr ⟨before, after, rfl, rfl, splits⟩
  have complete := (callFault?_eq_none_iff resolved balanced.closed).mpr wellCalled
  have bare := splits.bare resolved
  obtain ⟨first, rest, shape, more⟩ := exists_cons_of_long long
  have uncalled := not_call_of_splits resolved splits shape
  have right : (before ++ operator :: after).drop (before.length + 1) = after := by
    rw [List.drop_length_add_append, List.drop_one, List.tail_cons]
  rw [shape] at bare complete
  obtain ⟨_, read⟩ := builder.outcome_long levels more bare
  rw [shape, read, complete]
  simp only [uncalled, Bool.false_eq_true, if_false, Builder.split]
  rw [← shape, place]
  simp only [Logged.bind_result, Logged.note_result, Logged.liftM_result, around,
    Logged.mapFault_result, List.take_left, right]
  rfl

/-- A list without an operator to split it at has an operator missing. -/
theorem outcome_unsplit {terms : List Term} (balanced : Balanced terms)
    (bare : isWrapped terms = false) (long : 2 ≤ terms.length)
    (wellCalled : WellCalled builder.symbols terms)
    (uncalled : ∀ function argument, builder.symbols.isFunction function = true →
      Balanced argument → terms ≠ function :: bracketed argument)
    (unsplit : ∀ operator ∈ builder.symbols.operators, ¬ Outside operator terms) :
    builder.outcome (levels + 1) terms = .error (.missingOperator terms) := by
  have complete := (callFault?_eq_none_iff resolved balanced.closed).mpr wellCalled
  have nowhere := (splitPoint?_eq_none_iff resolved balanced).mpr unsplit
  obtain ⟨first, rest, rfl, more⟩ := exists_cons_of_long long
  have noCall : (builder.symbols.isFunction first && isWrapped rest) = false := by
    rw [Bool.and_eq_false_imp]
    intro named
    have rest := balanced.tail (resolved.weight_function named)
    rw [← Bool.not_eq_true, isWrapped_iff rest]
    rintro ⟨argument, rfl, within⟩
    exact uncalled first argument named within rfl
  obtain ⟨_, read⟩ := builder.outcome_long levels more bare
  rw [read, complete]
  simp only [noCall, Bool.false_eq_true, if_false, Builder.split, nowhere,
    lastOutside_eq_nil nowhere, if_true]
  rfl

end Resolved

end Outcome

/-! ## Induction over the levels -/

/-- **Induction over the levels and the lists that the builder reads.** A property of levels and
balanced lists holds of all of them if it holds when no level is left, if a redundant pair of
brackets keeps it, and if it can be carried from the parts of a list to the list in each of the
six ways in which a level reads a list. A redundant pair does not use up a level. -/
theorem levelInduction {symbols : Symbols} (resolved : symbols.Resolved)
    {motive : Nat → (terms : List Term) → Balanced terms → Prop}
    (zero : ∀ terms (balanced : Balanced terms), motive 0 terms balanced)
    (pair : ∀ levels inner (balanced : Balanced inner), motive levels inner balanced →
      motive levels (bracketed inner) balanced.bracketed)
    (empty : ∀ levels, motive (levels + 1) [] .nil)
    (single : ∀ levels term (balanced : Balanced [term]), motive (levels + 1) [term] balanced)
    (malformed : ∀ levels terms fault (balanced : Balanced terms), isWrapped terms = false →
      2 ≤ terms.length → callFault? symbols terms = some fault →
        motive (levels + 1) terms balanced)
    (call : ∀ levels function argument (_ : symbols.isFunction function = true)
      (within : Balanced argument) (balanced : Balanced (function :: bracketed argument)),
        motive levels argument within →
          motive (levels + 1) (function :: bracketed argument) balanced)
    (split : ∀ levels before operator after (splits : SplitsAt symbols before operator after)
      (balanced : Balanced (before ++ operator :: after)),
        2 ≤ (before ++ operator :: after).length →
        WellCalled symbols (before ++ operator :: after) →
        motive levels before splits.left → motive levels after splits.right →
          motive (levels + 1) (before ++ operator :: after) balanced)
    (unsplit : ∀ levels terms (balanced : Balanced terms), isWrapped terms = false →
      2 ≤ terms.length → WellCalled symbols terms →
      (∀ function argument, symbols.isFunction function = true → Balanced argument →
        terms ≠ function :: bracketed argument) →
      (∀ operator ∈ symbols.operators, ¬ Outside operator terms) →
        motive (levels + 1) terms balanced)
    (levels : Nat) {terms : List Term} (balanced : Balanced terms) :
    motive levels terms balanced := by
  induction levels generalizing terms with
  | zero => exact zero terms balanced
  | succ levels ih =>
      induction balanced using Balanced.unwrapInduction with
      | pair inner balanced inside => exact pair _ inner balanced inside
      | bare terms balanced bare =>
          by_cases long : 2 ≤ terms.length
          · cases found : callFault? symbols terms with
            | some fault => exact malformed levels terms fault balanced bare long found
            | none =>
                have wellCalled := (callFault?_eq_none_iff resolved balanced.closed).mp found
                by_cases called : ∃ function argument, symbols.isFunction function = true ∧
                    Balanced argument ∧ terms = function :: bracketed argument
                · obtain ⟨function, argument, named, within, rfl⟩ := called
                  exact call levels function argument named within balanced (ih within)
                · cases place : splitPoint? symbols terms with
                  | some found =>
                      obtain ⟨operator, index⟩ := found
                      obtain ⟨before, after, rfl, _, splits⟩ :=
                        (splitPoint?_eq_some_iff resolved balanced).mp place
                      exact split levels before operator after splits balanced long wellCalled
                        (ih splits.left) (ih splits.right)
                  | none =>
                      refine unsplit levels terms balanced bare long wellCalled ?_
                        ((splitPoint?_eq_none_iff resolved balanced).mp place)
                      intro function argument named within shape
                      exact called ⟨function, argument, named, within, shape⟩
          · match terms, balanced, long with
            | [], _, _ => exact empty levels
            | [term], balanced, _ => exact single levels term balanced
            | _ :: _ :: rest, _, short => exact absurd (Nat.le_add_left 2 rest.length) short

end InfixFormula.Builder
