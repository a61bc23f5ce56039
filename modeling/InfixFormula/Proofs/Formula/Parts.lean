import InfixFormula.Proofs.Bracket.Pairing
import InfixFormula.Proofs.Formula.Levels
import InfixFormula.Proofs.Result
import InfixFormula.Proofs.Term.Validity

/-!
# The parts that the builder goes on with

The builder validates a list of terms once and never looks at the validity of its parts again. That
it need not do so is the subject of this module: every list that the building of a valid list comes
to is sound (`called_sound`). Its brackets balance, its terms are known, the redundant brackets that
are stripped from it are pairs of partners, what is left after stripping balances, and where that is
split the depth is zero from either side.

Which lists the building comes to is said without a second copy of the builder. A level takes what
the next level makes of a list from a function. It *asks* for a list if another answer for this
list alone would change what it makes of its own list (`Asks`), and the lists that the building
comes to are those that are asked for, at any level (`Called`). One level asks exactly for the
argument of a call, or for the left operand of a split and, if that gives a formula, for the right
one (`asks_iff`), and these parts inherit soundness from the list.
-/

set_option autoImplicit false

namespace InfixFormula

/-- A sequence depends on its second part only where the first part has a result. -/
theorem Logged.bind_congr {ν ε α β : Type} {first : Logged ν ε α} {next other : α → Logged ν ε β}
    (same : ∀ value, first.result = .ok value → next value = other value) :
    first >>= next = first >>= other := by
  show Logged.bind first next = Logged.bind first other
  rw [Logged.bind, Logged.bind]
  split
  next value result => rw [same value result]
  next => rfl

namespace Builder

open InfixFormula.Bracket Validation

/-! ## What a level asks for -/

/-- A level asks for a part: if the next level answered differently for the part, and for no other
list, something else would come out. -/
def Asks (builder : Builder) (levels : Nat) (terms part : List Term) : Prop :=
  ∃ answer : List Term → Build Formula,
    (∀ list, list ≠ part → answer list = builder.buildLevels levels list) ∧
      builder.buildUnwrapped answer (builder.maxDepth - levels) (unwrapped terms) ≠
        builder.buildLevels (levels + 1) terms

/-- The lists that building a list comes to, with the levels that are left for them. At the depth
zero these are one more than the greatest depth, and they are one less for every level below. -/
inductive Called (builder : Builder) (terms : List Term) : Nat → List Term → Prop
  | whole : Called builder terms (builder.maxDepth + 1) terms
  | part {levels : Nat} {list part : List Term} : Called builder terms (levels + 1) list →
      Asks builder levels list part → Called builder terms levels part

/-- The parts of a list without redundant brackets: the argument of a call that is the only one, or
the operands of a split, the right one only behind a left one that gives a formula. -/
inductive PartOf (builder : Builder) (levels : Nat) : List Term → List Term → Prop
  | argument {function : Term} {rest : List Term} :
      callFault? builder.symbols (function :: rest) = none →
      builder.symbols.isFunction function = true → isWrapped rest = true →
      outside (· == Term.separator) (interior rest) = [] →
      PartOf builder levels (function :: rest) (interior rest)
  | left {first operator : Term} {rest : List Term} {index : Nat} : rest ≠ [] →
      callFault? builder.symbols (first :: rest) = none →
      (builder.symbols.isFunction first && isWrapped rest) = false →
      splitPoint? builder.symbols (first :: rest) = some (operator, index) →
      PartOf builder levels (first :: rest) ((first :: rest).take index)
  | right {first operator : Term} {rest : List Term} {index : Nat} {formula : Formula} :
      rest ≠ [] → callFault? builder.symbols (first :: rest) = none →
      (builder.symbols.isFunction first && isWrapped rest) = false →
      splitPoint? builder.symbols (first :: rest) = some (operator, index) →
      builder.outcome levels ((first :: rest).take index) = .ok formula →
      PartOf builder levels (first :: rest) ((first :: rest).drop (index + 1))

section Level

variable {builder : Builder} {levels : Nat}

/-- **What a level makes of a list depends on the answers for its parts only.** -/
theorem buildUnwrapped_congr {answer : List Term → Build Formula} (depth : Int) {terms : List Term}
    (agree : ∀ part, PartOf builder levels terms part →
      answer part = builder.buildLevels levels part) :
    builder.buildUnwrapped answer depth terms =
      builder.buildUnwrapped (builder.buildLevels levels) depth terms := by
  rcases terms with _ | ⟨first, _ | ⟨second, rest⟩⟩
  · rfl
  · rfl
  · have long : second :: rest ≠ [] := List.cons_ne_nil _ _
    refine Logged.bind_congr fun _ passed => ?_
    have complete : callFault? builder.symbols (first :: second :: rest) = none := by
      rw [Logged.liftM_result, checkCalls_eq] at passed
      split at passed
      next => cases passed
      next none => exact none
    cases called : builder.symbols.isFunction first && isWrapped (second :: rest) with
    | true =>
        have named := Bool.and_eq_true_iff.mp called
        simp only [if_true, call]
        by_cases separated : outside (· == Term.separator) (interior (second :: rest)) = []
        · rw [agree _ (.argument complete named.1 named.2 separated)]
        · rw [if_pos separated, if_pos separated]
          refine Logged.bind_congr fun _ failed => ?_
          cases failed
    | false =>
        simp only [Bool.false_eq_true, if_false, split]
        cases place : splitPoint? builder.symbols (first :: second :: rest) with
        | none => rfl
        | some found =>
            obtain ⟨operator, index⟩ := found
            simp only [agree _ (.left long complete called place)]
            refine Logged.bind_congr fun _ _ => Logged.bind_congr fun formula built => ?_
            have outcome := mapError_eq_ok_iff.mp built
            rw [agree _ (.right long complete called place outcome)]

/-- The answers of the next level, but for one list a fault. -/
def failingAt (builder : Builder) (levels : Nat) (part : List Term) (fault : Fault) :
    List Term → Build Formula := fun list =>
  if list = part then Logged.fail fault else builder.buildLevels levels list

/-- A level asks for a part if it cannot do without it: if every fault of the part that is not
turned becomes its own. Of two such faults at least one is not what really comes out. -/
theorem asks_of_failingAt {terms part : List Term}
    (fails : ∀ fault, (∀ turn, Fault.around turn fault = fault) →
      (builder.buildUnwrapped (builder.failingAt levels part fault) (builder.maxDepth - levels)
        (unwrapped terms)).result = .error fault) : Asks builder levels terms part := by
  have differs (fault : Fault) (untouched : ∀ turn, Fault.around turn fault = fault)
      (other : builder.outcome (levels + 1) terms ≠ .error fault) :
      Asks builder levels terms part := by
    refine ⟨builder.failingAt levels part fault, fun list apart => if_neg apart, fun same => ?_⟩
    have result := fails fault untouched
    rw [same] at result
    exact other result
  by_cases same : builder.outcome (levels + 1) terms = .error .noPrecedence
  · refine differs .equalsInBrackets (fun _ => rfl) ?_
    rw [same]
    nofun
  · exact differs .noPrecedence (fun _ => rfl) same

/-- A list of at least two terms with well-formed calls is a call or split. -/
theorem buildUnwrapped_result (answer : List Term → Build Formula) (depth : Int) {first : Term}
    {rest : List Term} (long : rest ≠ [])
    (complete : callFault? builder.symbols (first :: rest) = none) :
    (builder.buildUnwrapped answer depth (first :: rest)).result =
      if builder.symbols.isFunction first && isWrapped rest then
        (builder.call answer depth first (interior rest)).result
      else (builder.split answer depth (first :: rest)).result := by
  obtain ⟨second, rest, rfl⟩ := List.exists_cons_of_ne_nil long
  simp only [buildUnwrapped, Logged.bind_result, Logged.liftM_result, checkCalls_eq, complete]
  exact apply_ite Logged.result _ _ _

/-- **A level asks exactly for the parts of its list.** -/
theorem asks_iff {terms part : List Term} :
    Asks builder levels terms part ↔ PartOf builder levels (unwrapped terms) part := by
  constructor
  · rintro ⟨answer, agree, different⟩
    refine Classical.byContradiction fun other => different ?_
    refine buildUnwrapped_congr _ fun list isPart => agree list ?_
    rintro rfl
    exact other isPart
  · intro isPart
    refine asks_of_failingAt fun fault untouched => ?_
    have failing : builder.failingAt levels part fault part = Logged.fail fault := if_pos rfl
    generalize unwrapped terms = reduced at isPart
    cases isPart with
    | @argument function rest complete named wrapped unseparated =>
        have long : rest ≠ [] := by
          rintro rfl
          cases wrapped
        rw [buildUnwrapped_result _ _ long complete, named, wrapped, Bool.and_self, if_pos rfl]
        simp only [call, unseparated, ne_eq, not_true_eq_false, if_false, Logged.bind_result,
          Builder.around, Logged.mapFault_result, failing, Logged.fail_result]
        exact congrArg Except.error (untouched _)
    | left long complete uncalled place =>
        rw [buildUnwrapped_result _ _ long complete, uncalled, if_neg Bool.false_ne_true]
        simp only [split, place, Logged.bind_result, Builder.around, Logged.mapFault_result,
          failing, Logged.fail_result]
        exact congrArg Except.error (untouched _)
    | @right first operator rest index formula long complete uncalled place built =>
        rw [buildUnwrapped_result _ _ long complete, uncalled, if_neg Bool.false_ne_true]
        simp only [split, place, Logged.bind_result, Builder.around, Logged.mapFault_result,
          failing, Logged.fail_result]
        by_cases same : (first :: rest).take index = (first :: rest).drop (index + 1)
        · rw [same, failing]
          exact congrArg Except.error (untouched _)
        · have other : builder.failingAt levels ((first :: rest).drop (index + 1)) fault
              ((first :: rest).take index) =
                builder.buildLevels levels ((first :: rest).take index) :=
            if_neg same
          rw [outcome] at built
          rw [other, built]
          exact congrArg Except.error (untouched _)

end Level

/-! ## Soundness -/

/-- What a list has to fulfil that is built without being validated. -/
structure Sound (symbols : Symbols) (terms : List Term) : Prop where
  balanced : Balanced terms
  known : ∀ term ∈ terms, symbols.isKnown term = true
  /-- The brackets that are stripped are partners: the first of the last, the second of the last
  but one, and so on. -/
  pairs : ∃ count, terms = nested count (unwrapped terms) ∧ ∀ index < count,
    Paired terms index (terms.length - 1 - index) ∧
      bracketPartner terms index = .ok (some (terms.length - 1 - index)) ∧
      bracketPartner terms (terms.length - 1 - index : Nat) = .ok (some index)
  reduced : Balanced (unwrapped terms)
  /-- At a split the depth is zero over the terms up to it and over the terms from it on. -/
  split : ∀ operator index, splitPoint? symbols (unwrapped terms) = some (operator, index) →
    (unwrapped terms)[index]? = some operator ∧
      depth ((unwrapped terms).take (index + 1)) = 0 ∧ depth ((unwrapped terms).drop index) = 0

section Resolved

variable {builder : Builder} (resolved : builder.symbols.Resolved)
include resolved

/-- A balanced list of known terms is sound. -/
theorem sound_of_balanced {terms : List Term} (balanced : Balanced terms)
    (known : ∀ term ∈ terms, builder.symbols.isKnown term = true) :
    Sound builder.symbols terms where
  balanced := balanced
  known := known
  pairs := by
    obtain ⟨count, shape⟩ := balanced.exists_nested
    refine ⟨count, shape, fun index within => ?_⟩
    have paired := paired_nested balanced.unwrapped within
    rw [← shape] at paired
    exact ⟨paired, bracketPartner_of_paired paired⟩
  reduced := balanced.unwrapped
  split := by
    intro operator index place
    obtain ⟨before, after, shape, rfl, splits⟩ :=
      (splitPoint?_eq_some_iff resolved balanced.unwrapped).mp place
    have neutral := resolved.weight_operator splits.member
    rw [shape]
    refine ⟨getElem?_place before operator after, ?_, ?_⟩
    · rw [List.take_length_add_append, depth_append, splits.left.closed, List.take_succ_cons,
        List.take_zero, depth_cons, neutral]
      rfl
    · rw [List.drop_left, depth_cons, neutral, splits.right.closed]
      rfl

/-- **A part of a balanced list is balanced**, and its terms are terms of the list. -/
theorem PartOf.inherits {levels : Nat} {terms part : List Term}
    (isPart : PartOf builder levels terms part) (balanced : Balanced terms) :
    Balanced part ∧ part <:+: terms := by
  cases isPart with
  | @argument function rest complete named wrapped unseparated =>
      have within := balanced.tail (resolved.weight_function named)
      obtain ⟨inner, rfl, inside⟩ := (isWrapped_iff within).mp wrapped
      rw [interior_bracketed]
      exact ⟨inside, [function, Term.opening], [Term.closing], rfl⟩
  | left _ _ _ place =>
      obtain ⟨before, after, shape, rfl, splits⟩ :=
        (splitPoint?_eq_some_iff resolved balanced).mp place
      rw [shape, List.take_left]
      exact ⟨splits.left, List.prefix_append _ _ |>.isInfix⟩
  | right _ _ _ place _ =>
      refine ⟨?_, (List.drop_suffix _ _).isInfix⟩
      obtain ⟨before, after, shape, rfl, splits⟩ :=
        (splitPoint?_eq_some_iff resolved balanced).mp place
      rw [shape, List.drop_length_add_append, List.drop_one, List.tail_cons]
      exact splits.right

/-- **Every list that the building of a valid list comes to is sound**, at every depth. -/
theorem called_sound {terms : List Term} (valid : validate builder.symbols terms = .ok ())
    {levels : Nat} {part : List Term} (called : Called builder terms levels part) :
    Sound builder.symbols part := by
  obtain ⟨balanced, known, _⟩ := (validate_eq_ok_iff resolved).mp valid
  induction called with
  | whole => exact sound_of_balanced resolved balanced known
  | @part levels list part _ asks ih =>
      obtain ⟨balanced, within⟩ := (asks_iff.mp asks).inherits resolved ih.reduced
      obtain ⟨count, shape, _⟩ := ih.pairs
      refine sound_of_balanced resolved balanced fun term member => ih.known term ?_
      rw [shape, nested_eq]
      exact List.mem_append_right _ (List.mem_append_left _ (within.subset member))

end Resolved

/-- The sum in brackets is asked for as the left operand of the product, its left operand is asked
for in turn, and both are sound. -/
theorem called_sound_sum :
    validate {} ["(", "x", "+", "y", ")", "*", "x"] = .ok () ∧
      Called ⟨{}, 200, .radians⟩ ["(", "x", "+", "y", ")", "*", "x"] 200
        ["(", "x", "+", "y", ")"] ∧ Sound {} ["(", "x", "+", "y", ")"] ∧
      Called ⟨{}, 200, .radians⟩ ["(", "x", "+", "y", ")", "*", "x"] 199 ["x"] ∧
        Sound {} ["x"] := by
  have valid : validate {} ["(", "x", "+", "y", ")", "*", "x"] = .ok () := rfl
  have product : Asks ⟨{}, 200, .radians⟩ 200 ["(", "x", "+", "y", ")", "*", "x"]
      ["(", "x", "+", "y", ")"] := by
    have isPart : PartOf ⟨{}, 200, .radians⟩ 200 ["(", "x", "+", "y", ")", "*", "x"]
        (["(", "x", "+", "y", ")", "*", "x"].take 5) := .left (List.cons_ne_nil _ _) rfl rfl rfl
    rw [asks_iff, unwrapped_of_not_wrapped rfl]
    exact isPart
  have sum : Asks ⟨{}, 200, .radians⟩ 199 ["(", "x", "+", "y", ")"] ["x"] := by
    have balanced : Balanced ["x", "+", "y"] := by decide
    have pair : unwrapped ["(", "x", "+", "y", ")"] = ["x", "+", "y"] :=
      (unwrapped_bracketed balanced).trans (unwrapped_of_not_wrapped rfl)
    have isPart : PartOf ⟨{}, 200, .radians⟩ 199 ["x", "+", "y"] (["x", "+", "y"].take 1) :=
      .left (List.cons_ne_nil _ _) rfl rfl rfl
    rw [asks_iff, pair]
    exact isPart
  have resolved := Symbols.regular_default.toResolved
  have calledSum := Called.whole.part product
  have calledLeft := calledSum.part sum
  exact ⟨valid, calledSum, called_sound resolved valid calledSum, calledLeft,
    called_sound resolved valid calledLeft⟩

end Builder

end InfixFormula
