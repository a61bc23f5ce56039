import InfixFormula.Proofs.Bracket.Unclosed
import InfixFormula.Proofs.Engine.Equation

/-!
# Faults of the equals sign

The equals sign of an equation is misplaced when there is none or several, or when a bracket in
front of the only one stays open and so encloses it (`Equation.Misplaced`). What the engine looks at
instead is the depth in front of the sign (`blamesEquals_iff`). The left side is not known to be
balanced then, and the depth of an unbalanced list does not tell whether a bracket stays open in it.

So the engine goes wrong in two ways. If the left side is unbalanced and leaves no bracket open, its
depth is other than zero, and the sign is blamed for the brackets of the side: the validation of the
side, which would report them, is not reached. If the left side leaves as much open as it closes too
much, its depth is zero, and the validation of the side reports the brackets although the sign is
enclosed. On all other lists the sign is blamed exactly if it is misplaced
(`blamesEquals_iff_misplaced_iff`). The brackets of an unbalanced right side are reported by the
validation of that side once the left side is valid (`blamesBrackets_right`).
-/

set_option autoImplicit false

namespace InfixFormula

open InfixFormula.Bracket Builder Validation

/-- The equals sign of a list is at fault: there is none or several, or some bracket in front of the
only one is not closed before it. -/
def Equation.Misplaced (terms : List Term) : Prop :=
  terms.count Term.equals ≠ 1 ∨
    ∃ left right, terms = left ++ Term.equals :: right ∧ Unclosed left

namespace Engine

/-- The result is a fault of the equals sign. -/
def BlamesEquals (result : Except Failure Formula) : Prop :=
  ∃ fault, result = .error (.ofFault fault) ∧ fault.kind.isA .equation = true ∧
    fault.code = "3009"

/-- The result is the fault of unmatched brackets that the validation of a side reports. -/
def BlamesBrackets (symbols : Symbols) (side : List Term)
    (result : Except Failure Formula) : Prop :=
  ∃ fault, validate symbols side = .error fault ∧
    fault.kind.isA .unmatchedBrackets = true ∧ result = .error (.ofFault fault)

theorem BlamesBrackets.not_equals {symbols : Symbols} {side : List Term}
    {result : Except Failure Formula} (brackets : BlamesBrackets symbols side result) :
    ¬ BlamesEquals result := by
  rintro ⟨other, same, isEquation, _⟩
  obtain ⟨fault, failed, _, rfl⟩ := brackets
  cases same
  cases refused_of_error failed <;> cases isEquation

section Accepted

variable {store : SettingStore} {symbols : Symbols} {given : Json} {settings : Settings}
  (resolved : symbols.Resolved) (accepted : Engine.settings store given = .ok settings)
include resolved accepted

/-! ## One equals sign -/

section Sides

variable {left right : List Term}
  (absentLeft : Term.equals ∉ left) (absentRight : Term.equals ∉ right)
include absentLeft absentRight

/-- The sign is blamed exactly if the depth of the left side is other than zero. -/
theorem blamesEquals_sides_iff :
    BlamesEquals (buildEquation store symbols given (left ++ Term.equals :: right)).result ↔
      depth left ≠ 0 := by
  have ofBuilder : (builder symbols settings).symbols.Resolved := resolved
  rw [buildEquation_sides resolved accepted absentLeft absentRight]
  split
  next closed =>
    refine ⟨?_, fun uneven => absurd closed uneven⟩
    rintro ⟨fault, failed, isEquation, _⟩
    rw [Failure.mapError_eq_error_iff] at failed
    rw [(Equation.kind_of_error ofBuilder failed).2] at isEquation
    cases isEquation
  next uneven => exact ⟨fun _ => uneven, fun _ => ⟨.equalsInBrackets, rfl, rfl, rfl⟩⟩

/-- The validation of an unbalanced left side reports its brackets exactly if the depth of the side
is zero. -/
theorem blamesBrackets_left_iff (unbalanced : ¬ Balanced left) :
    BlamesBrackets symbols left
        (buildEquation store symbols given (left ++ Term.equals :: right)).result ↔
      depth left = 0 := by
  constructor
  · intro brackets
    refine Decidable.not_not.mp fun uneven => brackets.not_equals ?_
    exact (blamesEquals_sides_iff resolved accepted absentLeft absentRight).mpr uneven
  · intro closed
    obtain ⟨fault, failed, isUnmatched⟩ := unmatched_of_unbalanced symbols unbalanced
    refine ⟨fault, failed, isUnmatched, ?_⟩
    rw [buildEquation_sides resolved accepted absentLeft absentRight, if_pos closed,
      Equation.build_result, builder, failed]
    rfl

/-- If no bracket stays open in an unbalanced left side, the equals sign is blamed. -/
theorem equalsInBrackets_of_unbalanced (unbalanced : ¬ Balanced left) (none : ¬ Unclosed left) :
    (buildEquation store symbols given (left ++ Term.equals :: right)).result =
      .error (.ofFault .equalsInBrackets) := by
  have uneven : ¬ depth left = 0 := fun closed =>
    unbalanced (balanced_iff_unclosed.mpr ⟨closed, none⟩)
  rw [buildEquation_sides resolved accepted absentLeft absentRight, if_neg uneven]

/-- The validation of an unbalanced right side reports its brackets if the left side is valid. -/
theorem blamesBrackets_right (valid : validate symbols left = .ok ())
    (unbalanced : ¬ Balanced right) :
    BlamesBrackets symbols right
      (buildEquation store symbols given (left ++ Term.equals :: right)).result := by
  have closed := ((validate_eq_ok_iff resolved).mp valid).1.closed
  obtain ⟨fault, failed, isUnmatched⟩ := unmatched_of_unbalanced symbols unbalanced
  refine ⟨fault, failed, isUnmatched, ?_⟩
  rw [buildEquation_sides resolved accepted absentLeft absentRight, if_pos closed,
    Equation.build_result, builder, valid, failed]
  rfl

end Sides

/-! ## Any number of equals signs -/

/-- **The engine blames the equals sign for the depth in front of it.** -/
theorem blamesEquals_iff (terms : List Term) :
    BlamesEquals (buildEquation store symbols given terms).result ↔
      terms.count Term.equals ≠ 1 ∨
        ∃ left right, terms = left ++ Term.equals :: right ∧ depth left ≠ 0 := by
  by_cases single : terms.count Term.equals = 1
  · obtain ⟨left, right, rfl, absentLeft, absentRight⟩ := Equation.exists_sides single
    rw [blamesEquals_sides_iff resolved accepted absentLeft absentRight,
      Equation.exists_sides_iff (motive := fun left _ => depth left ≠ 0) absentLeft absentRight]
    exact ⟨.inr, fun | .inl several => absurd single several | .inr uneven => uneven⟩
  · refine ⟨fun _ => .inl single, fun _ => ⟨.equalsCount (terms.count Term.equals), ?_, rfl, rfl⟩⟩
    rw [buildEquation_result resolved accepted, Equation.ofTerms_of_count single]
    rfl

/-- **The equals sign is blamed exactly if it is misplaced** where the depth of the left side tells
whether a bracket stays open in it, and nowhere else. -/
theorem blamesEquals_iff_misplaced_iff (terms : List Term) :
    (BlamesEquals (buildEquation store symbols given terms).result ↔ Equation.Misplaced terms) ↔
      ∀ left right, terms = left ++ Term.equals :: right → terms.count Term.equals = 1 →
        Balanced left ∨ (Unclosed left ∧ depth left ≠ 0) := by
  rw [blamesEquals_iff resolved accepted, Equation.Misplaced]
  by_cases single : terms.count Term.equals = 1
  · obtain ⟨left, right, rfl, absentLeft, absentRight⟩ := Equation.exists_sides single
    rw [Equation.exists_sides_iff (motive := fun left _ => depth left ≠ 0) absentLeft absentRight,
      Equation.exists_sides_iff (motive := fun left _ => Unclosed left) absentLeft absentRight,
      or_iff_right (not_not_intro single), or_iff_right (not_not_intro single), depth_agrees_iff]
    constructor
    · intro agrees before after split _
      obtain ⟨rfl, _⟩ := (List.append_cons_inj_of_notMem absentLeft absentRight).mp split
      exact agrees
    · exact fun all => all left right rfl single
  · exact ⟨fun _ _ _ _ only => absurd only single,
      fun _ => ⟨fun _ => .inl single, fun _ => .inl single⟩⟩

/-- **When the equals sign is blamed, and when the brackets of a side.** The sign is blamed exactly
if there is not one of it or the depth in front of it is other than zero. This is so exactly if it
is misplaced, where the left side is balanced or leaves brackets open at a depth other than zero,
and nowhere else. With one sign, the brackets of an unbalanced left side are reported by the
validation of the side exactly if its depth is zero; if the side leaves no bracket open, the sign is
blamed for them. Those of an unbalanced right side are reported by its validation once the left side
is valid. -/
theorem buildEquation_blames (terms : List Term) :
    (BlamesEquals (buildEquation store symbols given terms).result ↔
      terms.count Term.equals ≠ 1 ∨
        ∃ left right, terms = left ++ Term.equals :: right ∧ depth left ≠ 0) ∧
    ((BlamesEquals (buildEquation store symbols given terms).result ↔ Equation.Misplaced terms) ↔
      ∀ left right, terms = left ++ Term.equals :: right → terms.count Term.equals = 1 →
        Balanced left ∨ (Unclosed left ∧ depth left ≠ 0)) ∧
    ∀ left right, terms = left ++ Term.equals :: right → terms.count Term.equals = 1 →
      (¬ Balanced left →
        (BlamesBrackets symbols left (buildEquation store symbols given terms).result ↔
          depth left = 0)) ∧
      (¬ Balanced left → ¬ Unclosed left →
        (buildEquation store symbols given terms).result = .error (.ofFault .equalsInBrackets)) ∧
      (validate symbols left = .ok () → ¬ Balanced right →
        BlamesBrackets symbols right (buildEquation store symbols given terms).result) := by
  refine ⟨blamesEquals_iff resolved accepted terms,
    blamesEquals_iff_misplaced_iff resolved accepted terms, ?_⟩
  rintro left right rfl single
  obtain ⟨absentLeft, absentRight⟩ := Equation.count_sides.mp single
  exact ⟨blamesBrackets_left_iff resolved accepted absentLeft absentRight,
    equalsInBrackets_of_unbalanced resolved accepted absentLeft absentRight,
    blamesBrackets_right resolved accepted absentLeft absentRight⟩

end Accepted

/-- The brackets of a right side with an opening bracket only are reported by its validation. -/
theorem buildEquation_blames_right :
    Engine.settings .initial (.object []) =
        .ok ⟨false, 200, .radians, by decide, by decide⟩ ∧
      validate {} ["x"] = .ok () ∧ ¬ Balanced ["(", "y"] ∧
      BlamesBrackets {} ["(", "y"]
        (buildEquation .initial {} (.object []) ["x", "=", "(", "y"]).result := by
  have accepted := settings_empty .initial
  have valid : validate {} ["x"] = .ok () := by rfl
  have unbalanced : ¬ Balanced ["(", "y"] := by decide
  obtain ⟨_, _, sides⟩ := buildEquation_blames Symbols.regular_default.toResolved accepted
    ["x", "=", "(", "y"]
  obtain ⟨_, _, right⟩ := sides ["x"] ["(", "y"] rfl rfl
  exact ⟨accepted, valid, unbalanced, right valid unbalanced⟩

/-- Neither of two equations is told right. In `x ) = y` no bracket encloses the sign, and the sign
is blamed. In `) ( = x` the second bracket encloses the sign, and the brackets of the left side are
blamed. -/
theorem buildEquation_blames_wrongly :
    ¬ (BlamesEquals (buildEquation .initial {} (.object []) ["x", ")", "=", "y"]).result ↔
        Equation.Misplaced ["x", ")", "=", "y"]) ∧
      (buildEquation .initial {} (.object []) ["x", ")", "=", "y"]).result =
        .error (.ofFault .equalsInBrackets) ∧
      ¬ (BlamesEquals (buildEquation .initial {} (.object []) [")", "(", "=", "x"]).result ↔
        Equation.Misplaced [")", "(", "=", "x"]) ∧
      (buildEquation .initial {} (.object []) [")", "(", "=", "x"]).result =
        .error (.ofFault (.unmatchedBrackets [")", "("])) := by
  have resolved := Symbols.regular_default.toResolved
  have accepted := settings_empty .initial
  refine ⟨?_, rfl, ?_, rfl⟩
  · rw [blamesEquals_iff_misplaced_iff resolved accepted]
    intro told
    exact absurd (told ["x", ")"] ["y"] rfl rfl) (by decide)
  · rw [blamesEquals_iff_misplaced_iff resolved accepted]
    intro told
    exact absurd (told [")", "("] ["x"] rfl rfl) (by decide)

end Engine

end InfixFormula
