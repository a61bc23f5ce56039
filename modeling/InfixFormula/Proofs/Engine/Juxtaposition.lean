import InfixFormula.Proofs.Engine.Calculation
import InfixFormula.Proofs.Engine.Reading
import InfixFormula.Proofs.Formula.MissingOperator

/-!
# Terms side by side

A product that is left out is not an operator that is missing. Where products have been put in,
none is left out, and where moreover there is no separator, no operator is missing, however the list
is stripped and split. This holds of the sides of an equation as well, since they are parts of what
was read. So a text for which an operator is reported as missing has a comma in it
(`Engine.missingOperator_needs_separator`).
-/

set_option autoImplicit false

namespace InfixFormula

open InfixFormula.Bracket Builder Lexer Validation

/-- A fault of a missing operator has the terms between which it is missing. -/
theorem Fault.exists_of_isA_missingOperator {fault : Fault}
    (missing : fault.kind.isA .missingOperator = true) :
    ∃ terms, fault = .missingOperator terms := by
  cases fault with
  | missingOperator terms => exact ⟨terms, rfl⟩
  | leaf cause => cases cause <;> cases missing
  | operand side => cases side <;> cases missing
  | _ => cases missing

/-! ## What the builder gives -/

section Regular

variable {builder : Builder} (regular : builder.symbols.Regular) {terms : List Term}
include regular

theorem Complete.validated_ne (complete : Complete builder.symbols terms) (part : List Term) :
    builder.validated terms ≠ .error (.missingOperator part) := by
  intro failed
  rcases fault_of_bind failed with invalid | ⟨_, valid, failed⟩
  · cases refused_of_error invalid
  · exact complete.outcome_ne_of_valid regular valid _ part failed

/-- In no side of an equation an operator is missing. -/
theorem Complete.equation_ne {equation : Equation}
    (left : Complete builder.symbols equation.left)
    (right : Complete builder.symbols equation.right) (part : List Term) :
    (equation.build builder).result ≠ .error (.missingOperator part) := by
  have side_ne (which : Side) {terms : List Term} (complete : Complete builder.symbols terms)
      (valid : validate builder.symbols terms = .ok ()) :
      Equation.side builder which terms ≠ .error (.missingOperator part) := fun failed =>
    complete.outcome_ne_of_valid regular valid _ part (error_of_around failed (by rintro _ ⟨⟩))
  intro failed
  rw [Equation.build_result] at failed
  rcases fault_of_bind failed with invalid | ⟨_, validLeft, failed⟩
  · cases refused_of_error invalid
  rcases fault_of_bind failed with invalid | ⟨_, validRight, failed⟩
  · cases refused_of_error invalid
  rcases fault_of_bind failed with unbuilt | ⟨_, _, failed⟩
  · exact side_ne .left left validLeft unbuilt
  rcases fault_of_bind failed with unbuilt | ⟨_, _, made⟩
  · exact side_ne .right right validRight unbuilt
  · cases made

end Regular

/-- The sides of an equation are parts of its terms. -/
theorem Equation.sides_within {terms : List Term} {equation : Equation}
    (sides : Equation.ofTerms terms = .ok equation) :
    equation.left <:+: terms ∧ equation.right <:+: terms := by
  simp only [Equation.ofTerms] at sides
  split at sides
  next => cases sides
  next =>
    split at sides
    next => cases sides
    next =>
      cases sides
      exact ⟨(List.take_prefix _ _).isInfix, (List.drop_suffix _ _).isInfix⟩

/-! ## What the engine gives -/

namespace Engine

/-- A result that is a fault of a missing operator. -/
def MissesOperator {α : Type} (result : Except Failure α) : Prop :=
  ∃ cause equation, result = .error (.fault cause equation) ∧
    cause.kind.isA .missingOperator = true

namespace MissesOperator

variable {α β : Type}

/-- In a sequence an operator is missing in the first part or behind it. -/
theorem of_bind {first : Except Failure α} {next : α → Except Failure β}
    (misses : MissesOperator (first >>= next)) :
    MissesOperator first ∨ ∃ value, first = .ok value ∧ MissesOperator (next value) := by
  obtain ⟨cause, equation, failed, missing⟩ := misses
  rcases fault_of_bind failed with failed | ⟨value, passed, failed⟩
  · exact .inl ⟨cause, equation, failed, missing⟩
  · exact .inr ⟨value, passed, cause, equation, failed, missing⟩

/-- The text of a fault does not change its kind. -/
theorem of_withEquation {result : Except Failure α} {text : String}
    (misses : MissesOperator (result.mapError (Failure.withEquation text))) :
    MissesOperator result := by
  obtain ⟨cause, equation, failed, missing⟩ := misses
  cases result with
  | ok value => cases failed
  | error failure =>
      cases failure with
      | fault other found =>
          cases failed
          exact ⟨cause, found, rfl, missing⟩
      | _ => cases failed

/-- A fault of a missing operator comes from the builder. -/
theorem of_ofFault {result : Except Fault α}
    (misses : MissesOperator (result.mapError Failure.ofFault)) :
    ∃ part, result = .error (.missingOperator part) := by
  obtain ⟨cause, equation, failed, missing⟩ := misses
  cases result with
  | ok value => cases failed
  | error fault =>
      cases failed
      obtain ⟨part, rfl⟩ := Fault.exists_of_isA_missingOperator missing
      exact ⟨part, rfl⟩

end MissesOperator

/-! ## What is read -/

/-- Where products have been put in and there is no separator, the list is complete. -/
theorem complete_insertProducts {terms : List Term} (unseparated : Term.separator ∉ terms) :
    Complete {} (insertProducts {} terms) where
  brackets := by
    intro term member special
    have sorts : term = Term.opening ∨ term = Term.closing ∨ term = Term.separator := by
      simpa only [List.mem_cons, List.not_mem_nil, or_false] using special
    rcases sorts with opens | closes | rfl
    · exact .inl opens
    · exact .inr closes
    · rcases mem_insertProducts member with member | same
      · exact absurd member unseparated
      · exact absurd same (by decide)
  full := isChain_insertProducts Symbols.regular_default (by decide) terms

/-- The terms of a text without a comma are complete. -/
theorem complete_of_terms {text : String} {found : List Term} (read : terms {} text = .ok found)
    (noComma : ',' ∉ text.toList) : Complete {} found := by
  rw [terms, mapError_eq_ok_iff, terms_eq, map_eq_ok_iff] at read
  obtain ⟨before, isFound, rfl⟩ := read
  refine complete_insertProducts fun member => ?_
  rcases chars_of_found isFound member with ⟨word, constant⟩ | within
  · have values : ∀ entry ∈ constants, entry.2 ≠ Term.separator := by decide
    obtain ⟨_, _, shape, _⟩ := List.lookup_eq_some_iff.mp constant
    exact values (word, Term.separator) (shape ▸ List.mem_append_cons_self) rfl
  · exact noComma (within ',' List.mem_cons_self)

theorem not_missesOperator_terms (text : String) : ¬ MissesOperator (terms {} text) := by
  rintro ⟨cause, equation, failed, missing⟩
  rw [terms] at failed
  cases read : Lexer.terms {} text with
  | ok found =>
      rw [read] at failed
      cases failed
  | error fault =>
      obtain ⟨start, rfl⟩ := secondPoint_of_error read
      rw [read] at failed
      cases failed
      cases missing

theorem not_missesOperator_evaluate (environment : Environment) (formula : Formula) :
    ¬ MissesOperator (evaluate environment formula) := by
  rintro ⟨cause, equation, failed, missing⟩
  rw [evaluate] at failed
  cases value : formula.real environment with
  | ok x =>
      rw [value] at failed
      cases failed
  | error fault =>
      rw [value] at failed
      cases fault <;> cases failed
      cases missing

section Accepted

variable {store : SettingStore} {given : Json} {settings : Settings}
  (accepted : Engine.settings store given = .ok settings) {terms : List Term}
  (complete : Complete {} terms)
include accepted complete

theorem not_missesOperator_build : ¬ MissesOperator (build store {} given terms).result := by
  have regular : (builder {} settings).symbols.Regular := Symbols.regular_default
  rw [build_result Symbols.regular_default.toResolved accepted]
  intro misses
  obtain ⟨part, failed⟩ := misses.of_ofFault
  exact complete.validated_ne regular part failed

theorem not_missesOperator_buildEquation :
    ¬ MissesOperator (buildEquation store {} given terms).result := by
  have regular : (builder {} settings).symbols.Regular := Symbols.regular_default
  rw [buildEquation_result Symbols.regular_default.toResolved accepted]
  intro misses
  obtain ⟨part, failed⟩ := misses.of_ofFault
  rcases fault_of_bind failed with unsplit | ⟨equation, sides, failed⟩
  · cases Equation.kind_of_ofTerms unsplit
  · obtain ⟨left, right⟩ := Equation.sides_within sides
    exact Complete.equation_ne regular (complete.inherits left) (complete.inherits right) part
      failed

theorem not_missesOperator_buildEither :
    ¬ MissesOperator (buildEither store given terms).result := by
  rw [buildEither]
  split
  next => exact not_missesOperator_buildEquation accepted complete
  next => exact not_missesOperator_build accepted complete

end Accepted

/-- **Terms side by side miss no operator.** With settings that are accepted, a list without
separators in which products have been put in is built without the fault of a missing operator, at
every level; and a text for which this fault is reported, by itself or as an equation, has a
comma. -/
theorem missingOperator_needs_separator {store : SettingStore} {given : Json} {settings : Settings}
    (accepted : Engine.settings store given = .ok settings) :
    (∀ terms, Term.separator ∉ terms →
      ¬ MissesOperator (build store {} given (insertProducts {} terms)).result ∧
      (validate {} (insertProducts {} terms) = .ok () →
        ∀ levels part, Called (builder {} settings) (insertProducts {} terms) levels part →
          ∀ list, (builder {} settings).outcome levels part ≠ .error (.missingOperator list))) ∧
    (∀ text, MissesOperator (buildText store given text).result → ',' ∈ text.toList) ∧
    (∀ text environment, MissesOperator (calculate store given text environment).result →
      ',' ∈ text.toList) := by
  refine ⟨fun terms unseparated => ?_, fun text misses => ?_, fun text environment misses => ?_⟩
  · have complete := complete_insertProducts unseparated
    have ofBuilder : (builder {} settings).symbols.Regular := Symbols.regular_default
    exact ⟨not_missesOperator_build accepted complete, fun valid levels part called list =>
      Complete.called_outcome_ne ofBuilder complete valid called list⟩
  · by_contra noComma
    rw [buildText, Logged.bind_result, Logged.liftM_result] at misses
    rcases misses.of_bind with misses | ⟨found, read, misses⟩
    · exact not_missesOperator_terms text misses
    · exact not_missesOperator_build accepted (complete_of_terms read noComma) misses
  · by_contra noComma
    rw [calculate_result] at misses
    rcases misses.of_withEquation.of_bind with misses | ⟨found, read, misses⟩
    · exact not_missesOperator_terms text misses
    rcases misses.of_bind with misses | ⟨formula, _, misses⟩
    · exact not_missesOperator_buildEither accepted (complete_of_terms read noComma) misses
    · exact not_missesOperator_evaluate environment formula misses

/-- Two factors side by side miss no operator; with a comma between them, they do. -/
theorem missingOperator_needs_separator_pair :
    Engine.settings .initial (.object []) =
        .ok ⟨false, 200, .radians, by decide, by decide⟩ ∧
      Term.separator ∉ ["2", "x"] ∧
      ¬ MissesOperator (build .initial {} (.object []) (insertProducts {} ["2", "x"])).result ∧
      MissesOperator (buildText .initial (.object []) "x,y").result ∧ ',' ∈ "x,y".toList := by
  have accepted := settings_empty .initial
  have misses : MissesOperator (buildText .initial (.object []) "x,y").result := by
    have read : terms {} "x,y" = .ok ["x", ",", "y"] := by
      rw [terms_eq_of_runs]
      rfl
    have failed : (builder {} ⟨false, 200, .radians, by decide, by decide⟩).validated
        ["x", ",", "y"] = .error (.missingOperator ["x", ",", "y"]) := by
      rw [validated, outcome, buildLevels, unwrapped_of_not_wrapped rfl]
      rfl
    refine ⟨.missingOperator ["x", ",", "y"], none, ?_, rfl⟩
    rw [buildText, Logged.bind_result, Logged.liftM_result, read]
    exact (build_eq_error_iff Symbols.regular_default.toResolved accepted _ _).mpr failed
  have unseparated : Term.separator ∉ ["2", "x"] := by decide
  obtain ⟨ofTerms, ofText, _⟩ := missingOperator_needs_separator accepted
  exact ⟨accepted, unseparated, (ofTerms ["2", "x"] unseparated).1, misses, ofText "x,y" misses⟩

end Engine

end InfixFormula
