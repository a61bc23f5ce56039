import InfixFormula.Proofs.Engine.Equation
import InfixFormula.Proofs.Engine.Parsing

/-!
# Equations as differences

The formula of an equation is the difference of its sides. There are two ways to it: build the
equation, whose sides are validated and built on their own, or put both sides in brackets, write the
difference, and build that. The second way goes one level deeper, because the sides are operands
there. If the depth that is allowed makes up for this level, the two ways give a formula for the
same sides, and then the same one (`buildEquation_eq_difference`).

Either way comes down to the sides. An equation gives a formula exactly if both sides do
(`buildEquation_eq_ok_iff`), and so does the difference: an operator between two pairs of brackets
is where the list is split, whatever is in the brackets (`splitsAt_bracketed`), so the list has
exactly the derivations that join a derivation of each side (`Derives.bracketed_iff`). Whatever else
is wrong with a side, that it is empty or malformed or too deep, is a fault of the side in both.
-/

set_option autoImplicit false

namespace InfixFormula

open InfixFormula.Bracket Builder

/-! ## Operators between brackets -/

section Regular

variable {symbols : Symbols} (regular : symbols.Regular) {left right : List Term}
  (balancedLeft : Balanced left) (balancedRight : Balanced right)
include regular balancedLeft balancedRight

/-- **An operator between two pairs of brackets splits the list there.** -/
theorem Builder.splitsAt_bracketed {operator : Term} (member : operator ∈ symbols.operators) :
    SplitsAt symbols (bracketed left) operator (bracketed right) := by
  obtain ⟨weaker, stronger, order⟩ := List.append_of_mem member
  have neutral := regular.weight_operator member
  refine ⟨⟨weaker, stronger, order, fun weak isWeaker outside => ?_⟩,
    not_outside_bracketed balancedRight neutral, balancedLeft.bracketed, balancedRight.bracketed⟩
  have known : weak ∈ symbols.operators := by
    rw [order]
    exact List.mem_append_left _ isWeaker
  have neutralWeak := regular.weight_operator known
  rcases (outside_append_cons balancedLeft.bracketed.closed neutral).mp outside with
    inside | rfl | inside
  · exact not_outside_bracketed balancedLeft neutralWeak inside
  · -- The operator is listed once, so it is not among the weaker ones.
    have distinct := regular.nodup
    rw [order, List.nodup_append] at distinct
    exact distinct.2.2 operator isWeaker operator List.mem_cons_self rfl
  · exact not_outside_bracketed balancedRight neutralWeak inside

/-- **The derivations of two pairs of brackets with an operator between them** join a derivation of
each list in brackets. -/
theorem Derives.bracketed_iff {unit : AngleUnit} {operator : Operator}
    (member : operator.symbol ∈ symbols.operators) {formula : Formula} :
    Derives symbols unit symbols.operators (bracketed left ++ operator.symbol :: bracketed right)
        formula ↔
      ∃ first second, Derives symbols unit symbols.operators left first ∧
        Derives symbols unit symbols.operators right second ∧
        formula = .binary operator first second := by
  let builder : Builder := ⟨symbols, 0, unit⟩
  have ofBuilder : builder.symbols.Regular := regular
  have splits : SplitsAt builder.symbols (bracketed left) operator.symbol (bracketed right) :=
    splitsAt_bracketed regular balancedLeft balancedRight member
  constructor
  · intro derivation
    have whole := List.suffix_refl symbols.operators
    have long : 2 ≤ (bracketed left ++ operator.symbol :: bracketed right).length := by
      simp only [bracketed, List.length_append, List.length_cons]
      omega
    have built : builder.outcome (formula.height + 1 + 1)
        (bracketed left ++ operator.symbol :: bracketed right) = .ok formula := by
      rw [Derives.outcome_eq ofBuilder derivation whole, bounded, if_pos (by omega)]
    rw [outcome_split ofBuilder.toResolved splits long
        (derivation.spelled regular whole).wellCalled,
      builder.outcome_bracketed balancedLeft, builder.outcome_bracketed balancedRight] at built
    obtain ⟨first, builtLeft, built⟩ := bind_eq_ok_iff.mp built
    obtain ⟨second, builtRight, made⟩ := bind_eq_ok_iff.mp built
    rw [Formula.ofOperator, operator.ofSymbol?_symbol] at made
    cases made
    exact ⟨first, second,
      derives_of_outcome ofBuilder balancedLeft first (mapError_eq_ok_iff.mp builtLeft),
      derives_of_outcome ofBuilder balancedRight second (mapError_eq_ok_iff.mp builtRight), rfl⟩
  · rintro ⟨first, second, ofLeft, ofRight, rfl⟩
    exact Derives.joined_of_splitsAt ofBuilder splits (ofLeft.brackets.of_unit _)
      (ofRight.brackets.of_unit _)

end Regular

namespace Engine

/-! ## The two ways -/

section Accepted

variable {store : SettingStore} {symbols : Symbols} {given : Json} {settings : Settings}
  {left right : List Term}

/-- **An equation gives the difference of what its sides give.** -/
theorem buildEquation_eq_ok_iff (resolved : symbols.Resolved)
    (accepted : Engine.settings store given = .ok settings) (absentLeft : Term.equals ∉ left)
    (absentRight : Term.equals ∉ right) (closed : depth left = 0) (formula : Formula) :
    (buildEquation store symbols given (left ++ Term.equals :: right)).result = .ok formula ↔
      ∃ first second, (build store symbols given left).result = .ok first ∧
        (build store symbols given right).result = .ok second ∧
        formula = .binary .subtract first second := by
  rw [buildEquation_sides resolved accepted absentLeft absentRight, if_pos closed,
    mapError_eq_ok_iff, Equation.build_eq_ok_iff]
  simp only [build_eq_ok_iff resolved accepted, builder]

/-- **A difference of lists in brackets** is built from the lists with one level less. -/
theorem build_difference_eq_ok_iff (regular : symbols.Regular)
    (member : Operator.subtract.symbol ∈ symbols.operators) {later : SettingStore} {other : Json}
    {deeper : Settings} (accepted : Engine.settings store given = .ok settings)
    (acceptedOther : Engine.settings later other = .ok deeper)
    (sameUnit : deeper.angleUnit = settings.angleUnit)
    (oneDeeper : deeper.maxDepth = settings.maxDepth + 1) (balancedLeft : Balanced left)
    (balancedRight : Balanced right) (formula : Formula) :
    (build later symbols other
        (bracketed left ++ Operator.subtract.symbol :: bracketed right)).result = .ok formula ↔
      ∃ first second, (build store symbols given left).result = .ok first ∧
        (build store symbols given right).result = .ok second ∧
        formula = .binary .subtract first second := by
  simp only [build_eq_ok_iff_derives regular accepted,
    build_eq_ok_iff_derives regular acceptedOther, sameUnit, oneDeeper,
    Derives.bracketed_iff regular balancedLeft balancedRight member]
  constructor
  · rintro ⟨⟨first, second, ofLeft, ofRight, rfl⟩, high⟩
    rw [Formula.height, Nat.add_le_add_iff_right, Nat.max_le] at high
    exact ⟨first, second, ⟨ofLeft, high.1⟩, ⟨ofRight, high.2⟩, rfl⟩
  · rintro ⟨first, second, ⟨ofLeft, highLeft⟩, ⟨ofRight, highRight⟩, rfl⟩
    refine ⟨⟨first, second, ofLeft, ofRight, rfl⟩, ?_⟩
    rw [Formula.height, Nat.add_le_add_iff_right, Nat.max_le]
    exact ⟨highLeft, highRight⟩

end Accepted

/-- **An equation is the difference of its sides in brackets.** With one level more, the difference
gives a formula exactly if the equation does, and the same one; it is the difference of the formulas
that the sides give. -/
theorem buildEquation_eq_difference {store later : SettingStore} {given other : Json}
    {settings deeper : Settings} (accepted : Engine.settings store given = .ok settings)
    (acceptedOther : Engine.settings later other = .ok deeper)
    (sameUnit : deeper.angleUnit = settings.angleUnit)
    (oneDeeper : deeper.maxDepth = settings.maxDepth + 1) {left right : List Term}
    (balancedLeft : Balanced left) (balancedRight : Balanced right)
    (absentLeft : Term.equals ∉ left) (absentRight : Term.equals ∉ right) (formula : Formula) :
    ((buildEquation store {} given (left ++ Term.equals :: right)).result = .ok formula ↔
      (build later {} other
        (bracketed left ++ Operator.subtract.symbol :: bracketed right)).result = .ok formula) ∧
    ((buildEquation store {} given (left ++ Term.equals :: right)).result = .ok formula ↔
      ∃ first second, (build store {} given left).result = .ok first ∧
        (build store {} given right).result = .ok second ∧
        formula = .binary .subtract first second) := by
  have regular := Symbols.regular_default
  have member : Operator.subtract.symbol ∈ ({} : Symbols).operators := by decide
  have equation := buildEquation_eq_ok_iff regular.toResolved accepted absentLeft absentRight
    balancedLeft.closed formula
  have difference := build_difference_eq_ok_iff regular member accepted acceptedOther sameUnit
    oneDeeper balancedLeft balancedRight formula
  exact ⟨equation.trans difference.symm, equation⟩

/-- An equation of a sum and a product is built under the limit 1, and their difference under the
limit 2. -/
theorem buildEquation_eq_difference_sum :
    Engine.settings .initial (.object [("max_depth", .number (.integer 1))]) =
        .ok ⟨false, 1, .radians, by decide, by decide⟩ ∧
      Engine.settings .initial (.object [("max_depth", .number (.integer 2))]) =
        .ok ⟨false, 2, .radians, by decide, by decide⟩ ∧
      (buildEquation .initial {} (.object [("max_depth", .number (.integer 1))])
          ["x", "+", "y", "=", "y", "*", "x"]).result =
        .ok (.binary .subtract (.binary .add (.reference "x") (.reference "y"))
          (.binary .multiply (.reference "y") (.reference "x"))) ∧
      (build .initial {} (.object [("max_depth", .number (.integer 2))])
          ["(", "x", "+", "y", ")", "-", "(", "y", "*", "x", ")"]).result =
        .ok (.binary .subtract (.binary .add (.reference "x") (.reference "y"))
          (.binary .multiply (.reference "y") (.reference "x"))) := by
  have accepted : Engine.settings .initial (.object [("max_depth", .number (.integer 1))]) =
      .ok ⟨false, 1, .radians, by decide, by decide⟩ := rfl
  have acceptedOther : Engine.settings .initial (.object [("max_depth", .number (.integer 2))]) =
      .ok ⟨false, 2, .radians, by decide, by decide⟩ := rfl
  have x : Derives {} .radians [] ["x"] (.reference "x") := .reference rfl
  have y : Derives {} .radians [] ["y"] (.reference "y") := .reference rfl
  have sum : Derives {} .radians ({} : Symbols).operators ["x", "+", "y"]
      (.binary .add (.reference "x") (.reference "y")) :=
    @Derives.chain _ _ .add _ ["x"] ["y"] _ _ (x.of_unit _) (y.of_unit _)
  have product : Derives {} .radians ["*", "/", "^"] ["y", "*", "x"]
      (.binary .multiply (.reference "y") (.reference "x")) :=
    @Derives.chain _ _ .multiply _ ["y"] ["x"] _ _ (y.of_unit _) (x.of_unit _)
  have regular := Symbols.regular_default
  have builtLeft := (build_eq_ok_iff_derives regular accepted _ _).mpr ⟨sum, by decide⟩
  have builtRight := (build_eq_ok_iff_derives regular accepted _ _).mpr
    ⟨.tighter (.tighter product), by decide⟩
  have balancedLeft : Balanced ["x", "+", "y"] := by decide
  have balancedRight : Balanced ["y", "*", "x"] := by decide
  have ways := buildEquation_eq_difference accepted acceptedOther rfl rfl balancedLeft balancedRight
    (by decide) (by decide)
      (.binary .subtract (.binary .add (.reference "x") (.reference "y"))
        (.binary .multiply (.reference "y") (.reference "x")))
  have equation := ways.2.mpr ⟨_, _, builtLeft, builtRight, rfl⟩
  exact ⟨accepted, acceptedOther, equation, ways.1.mp equation⟩

end Engine

end InfixFormula
