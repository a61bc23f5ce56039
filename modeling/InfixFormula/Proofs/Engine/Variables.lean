import InfixFormula.Proofs.Engine.Parsing
import InfixFormula.Proofs.Formula.Evaluation
import InfixFormula.Proofs.Result

/-!
# The variables of what is built

Building keeps the variables of a list of terms: read from left to right, the formula has the same
variables as the list, each as often as there (`Derives.occurrences_eq`). With the standard symbols
the variables of the formula are therefore those of the list, and what evaluation reads is the
list itself: it reports the first variable of the list that has no value, and two environments
that agree on the variables of the formula cannot be told apart (`build_reads_variables`).
-/

set_option autoImplicit false

namespace InfixFormula

open InfixFormula.Bracket

/-! ## Variables are kept -/

namespace Symbols.Regular

theorem filter_bracketed {symbols : Symbols} (regular : symbols.Regular) (inner : List Term) :
    (bracketed inner).filter symbols.isVariable = inner.filter symbols.isVariable := by
  rw [bracketed, List.filter_cons_of_neg (Bool.eq_false_iff.mp regular.isVariable_opening),
    List.filter_append, List.filter_cons_of_neg (Bool.eq_false_iff.mp regular.isVariable_closing),
    List.filter_nil, List.append_nil]

end Symbols.Regular

/-- **A formula has the variables of its list, in the same order.** -/
theorem Derives.occurrences_eq {symbols : Symbols} (regular : symbols.Regular) {unit : AngleUnit}
    {operators terms : List Term} {formula : Formula}
    (derivation : Derives symbols unit operators terms formula) :
    operators <:+ symbols.operators →
      formula.occurrences = terms.filter symbols.isVariable := by
  induction derivation with
  | tighter _ ih => exact fun suffix => ih ((List.suffix_cons _ _).trans suffix)
  | chain _ _ left right =>
      intro suffix
      have other := regular.isVariable_operator (suffix.subset List.mem_cons_self)
      rw [Formula.occurrences, left suffix, right ((List.suffix_cons _ _).trans suffix),
        List.filter_append, List.filter_cons_of_neg (Bool.eq_false_iff.mp other)]
  | reference named =>
      intro _
      rw [List.filter_cons_of_pos named]
      rfl
  | number other _ =>
      intro _
      rw [List.filter_cons_of_neg (Bool.eq_false_iff.mp other)]
      rfl
  | brackets _ ih =>
      intro _
      rw [regular.filter_bracketed]
      exact ih (List.suffix_refl _)
  | call named _ ih =>
      intro _
      have other := regular.isVariable_function named
      rw [List.filter_cons_of_neg (Bool.eq_false_iff.mp other), regular.filter_bracketed]
      exact ih (List.suffix_refl _)

namespace Engine

/-! ## What evaluation reports -/

/-- A variable of a list of terms has no value, and all variables in front of it have one. -/
def FirstUnbound (symbols : Symbols) (values : String → Option Binary64) (terms : List Term)
    (name : String) : Prop :=
  ∃ before after, terms = before ++ name :: after ∧ symbols.isVariable name = true ∧
    values name = none ∧
    ∀ term ∈ before, symbols.isVariable term = true → (values term).isSome = true

theorem firstUnbound_iff {symbols : Symbols} {values : String → Option Binary64}
    {terms : List Term} {name : String} :
    FirstUnbound symbols values terms name ↔
      (terms.filter symbols.isVariable).find? (fun term => (values term).isNone) = some name := by
  rw [List.find?_filter, List.find?_eq_some_iff_append]
  simp only [FirstUnbound, Option.isSome_iff_ne_none, ne_eq, Option.isNone_iff_eq_none,
    decide_eq_true_eq, Bool.not_eq_true', decide_eq_false_iff_not, not_and]
  constructor
  · rintro ⟨before, after, split, named, unbound, bound⟩
    exact ⟨⟨named, unbound⟩, before, after, split, bound⟩
  · rintro ⟨⟨named, unbound⟩, before, after, split, bound⟩
    exact ⟨before, after, split, named, unbound, bound⟩

theorem evaluate_eq_unbound_iff {values : String → Option Binary64} {formula : Formula}
    {name : String} :
    evaluate (.reals values) formula = .error (.ofFault (.unboundVariable name)) ↔
      formula.firstUnbound? values = some name := by
  rw [← Formula.real_eq_unbound_iff, evaluate]
  cases formula.real (.reals values) with
  | ok x => exact ⟨nofun, nofun⟩
  | error fault =>
      cases fault with
      | unbound other => exact ⟨fun | rfl => rfl, fun | rfl => rfl⟩
      | outOfRange => exact ⟨nofun, nofun⟩

theorem evaluate_eq_ok_iff {environment : Environment} {formula : Formula} {x : Binary64} :
    evaluate environment formula = .ok x ↔ formula.real environment = .ok x :=
  mapError_eq_ok_iff

theorem occurrences_of_build {store : SettingStore} {given : Json} {terms : List Term}
    {formula : Formula} (built : (build store {} given terms).result = .ok formula) :
    formula.occurrences = terms.filter ({} : Symbols).isVariable := by
  obtain ⟨settings, accepted⟩ := accepted_of_build built
  have regular := Symbols.regular_default
  have derivation := ((build_eq_ok_iff_derives regular accepted terms formula).mp built).1
  exact derivation.occurrences_eq regular (List.suffix_refl _)

/-- **Evaluation reads the variables of the list.** The variables of the formula are those of the
list that it is built from. With binary64 numbers as values, evaluation reports an unbound variable
exactly if a variable of the list has no value, and then it is the first one in the list. What
comes out depends on the values of the variables of the formula only. -/
theorem build_reads_variables {store : SettingStore} {given : Json} {terms : List Term}
    {formula : Formula} (built : (build store {} given terms).result = .ok formula) :
    (∀ name, name ∈ formula.variableNames ↔
      name ∈ terms ∧ ({} : Symbols).isVariable name = true) ∧
    (∀ values : String → Option Binary64,
      ((∃ name, evaluate (.reals values) formula =
          .error (.ofFault (.unboundVariable name))) ↔
        ∃ term ∈ terms, ({} : Symbols).isVariable term = true ∧ values term = none) ∧
      ∀ name, evaluate (.reals values) formula = .error (.ofFault (.unboundVariable name)) ↔
        FirstUnbound {} values terms name) ∧
    ∀ environment other : Environment,
      (∀ name ∈ formula.variableNames, environment name = other name) →
        evaluate environment formula = evaluate other formula := by
  have kept := occurrences_of_build built
  have reports (values : String → Option Binary64) (name : String) :
      evaluate (.reals values) formula = .error (.ofFault (.unboundVariable name)) ↔
        FirstUnbound {} values terms name := by
    rw [evaluate_eq_unbound_iff, Formula.firstUnbound?, kept, firstUnbound_iff]
  refine ⟨fun name => ?_, fun values => ⟨?_, reports values⟩, fun environment other agree => ?_⟩
  · rw [Formula.mem_variableNames, kept, List.mem_filter]
  · simp only [reports, firstUnbound_iff, ← Option.isSome_iff_exists, List.find?_isSome,
      List.mem_filter, Option.isNone_iff_eq_none, and_assoc]
  · simp only [Formula.mem_variableNames] at agree
    rw [evaluate, evaluate, Formula.real, Formula.real, Formula.value_congr agree]

/-- Of two variables without a value the first one of the list is reported. -/
theorem build_reads_variables_product :
    (build .initial {} (.object []) ["y", "*", "(", "x", ")"]).result =
        .ok (.binary .multiply (.reference "y") (.reference "x")) ∧
      evaluate (.reals fun _ => none) (.binary .multiply (.reference "y") (.reference "x")) =
        .error (.ofFault (.unboundVariable "y")) := by
  have y : Derives {} .radians ["*", "/", "^"] ["y"] (.reference "y") :=
    Derives.of_unit (.reference rfl) _
  have x : Derives {} .radians ["/", "^"] ["(", "x", ")"] (.reference "x") :=
    Derives.of_unit (.brackets (Derives.of_unit (.reference rfl) _)) _
  have product : Derives {} .radians ["*", "/", "^"] ["y", "*", "(", "x", ")"]
      (.binary .multiply (.reference "y") (.reference "x")) :=
    @Derives.chain _ _ .multiply _ ["y"] ["(", "x", ")"] _ _ y x
  have accepted := settings_empty .initial
  have built := (build_eq_ok_iff_derives Symbols.regular_default accepted _ _).mpr
    ⟨.tighter (.tighter product), by decide⟩
  refine ⟨built, (((build_reads_variables built).2.1 _).2 "y").mpr ?_⟩
  exact ⟨[], ["*", "(", "x", ")"], rfl, rfl, rfl, fun _ member => nomatch member⟩

end Engine

end InfixFormula
