import InfixFormula.Proofs.Term.Calls

/-!
# Valid lists of terms

A list of terms passes the validation exactly if it is balanced, all of its terms are known, and
every function outside brackets is followed by an opening bracket (`validate_eq_ok_iff`). A list
that is refused breaks one of the three conditions and keeps those before it, and the fault says
which (`refused_of_error`). So the code of the fault is decided by the list alone, and in a balanced
list neither the room behind the name of a function nor the partner of the bracket behind it has a
part in the decision (`validate_decides`).
-/

set_option autoImplicit false

namespace InfixFormula.Validation

open InfixFormula.Bracket

variable {symbols : Symbols} {terms : List Term}

/-! ## The three checks -/

theorem checkBrackets_of_balanced (balanced : Balanced terms) :
    checkBrackets symbols terms = .ok () := by
  rw [checkBrackets, if_pos ((isBalanced_iff terms).mpr balanced)]

theorem checkBrackets_of_unbalanced (unbalanced : ¬ Balanced terms) :
    checkBrackets symbols terms = match callFault? symbols terms with
      | some call => .error (.unclosedCall call)
      | none => .error (.unmatchedBrackets terms) := by
  rw [checkBrackets, if_neg (mt (isBalanced_iff terms).mp unbalanced), inspectCalls_eq]
  cases callFault? symbols terms <;> rfl

theorem checkTerms_eq_ok_iff :
    checkTerms symbols terms = .ok () ↔ ∀ term ∈ terms, symbols.isKnown term = true := by
  rw [checkTerms]
  split
  next term found =>
    refine ⟨nofun, fun known => ?_⟩
    have unknown := List.find?_some found
    rw [known term (List.mem_of_find?_eq_some found)] at unknown
    cases unknown
  next found =>
    refine ⟨fun _ term member => ?_, fun _ => rfl⟩
    have known := List.find?_eq_none.mp found term member
    rwa [Bool.not_eq_true, Bool.not_eq_false'] at known

/-- A fault of this check names a term that is not known. -/
theorem unknownTerm_of_error {fault : Fault} (failed : checkTerms symbols terms = .error fault) :
    ∃ term ∈ terms, symbols.isKnown term = false ∧ fault = .unknownTerm term := by
  rw [checkTerms] at failed
  split at failed
  next term found =>
    cases failed
    refine ⟨term, List.mem_of_find?_eq_some found, ?_, rfl⟩
    simpa only [Bool.not_eq_true'] using List.find?_some found
  next => cases failed

theorem checkCalls_eq (symbols : Symbols) (terms : List Term) :
    checkCalls symbols terms = match callFault? symbols terms with
      | some call => .error (.malformedCall call)
      | none => .ok () := by
  rw [checkCalls, inspectCalls_eq]
  cases callFault? symbols terms <;> rfl

/-! ## The validation -/

/-- **A list that is not balanced is refused for its brackets**, whatever else is wrong with it. -/
theorem unmatched_of_unbalanced (symbols : Symbols) (unbalanced : ¬ Balanced terms) :
    ∃ fault, validate symbols terms = .error fault ∧
      fault.kind.isA .unmatchedBrackets = true := by
  rw [validate, checkBrackets_of_unbalanced unbalanced]
  cases callFault? symbols terms with
  | some call => exact ⟨.unclosedCall call, rfl, rfl⟩
  | none => exact ⟨.unmatchedBrackets terms, rfl, rfl⟩

/-- **A list is valid exactly if it is balanced, its terms are known and its calls are
well-formed.** -/
theorem validate_eq_ok_iff_of_unnamed (unnamed : symbols.BracketsUnnamed) :
    validate symbols terms = .ok () ↔
      Balanced terms ∧ (∀ term ∈ terms, symbols.isKnown term = true) ∧
        WellCalled symbols terms := by
  by_cases balanced : Balanced terms
  · rw [validate, checkBrackets_of_balanced balanced, ← callFault?_eq_none_iff_of_unnamed unnamed
      balanced.closed, ← checkTerms_eq_ok_iff, checkCalls_eq]
    cases known : checkTerms symbols terms with
    | error fault => exact ⟨nofun, fun valid => nomatch valid.2.1⟩
    | ok =>
        cases calls : callFault? symbols terms with
        | some call => exact ⟨nofun, fun valid => nomatch valid.2.2⟩
        | none => exact ⟨fun _ => ⟨balanced, rfl, rfl⟩, fun _ => rfl⟩
  · refine ⟨fun valid => ?_, fun valid => absurd valid.1 balanced⟩
    obtain ⟨_, failed, _⟩ := unmatched_of_unbalanced symbols balanced
    rw [failed] at valid
    cases valid

theorem validate_eq_ok_iff (resolved : symbols.Resolved) :
    validate symbols terms = .ok () ↔
      Balanced terms ∧ (∀ term ∈ terms, symbols.isKnown term = true) ∧
        WellCalled symbols terms :=
  validate_eq_ok_iff_of_unnamed resolved.bracketsUnnamed

/-- The faults of a list that is refused. -/
inductive Refused (symbols : Symbols) (terms : List Term) : Fault → Prop
  | unclosedCall {call : CallFault} : ¬ Balanced terms → callFault? symbols terms = some call →
      Refused symbols terms (.unclosedCall call)
  | unmatchedBrackets : ¬ Balanced terms → callFault? symbols terms = none →
      Refused symbols terms (.unmatchedBrackets terms)
  | unknownTerm {term : Term} : Balanced terms → term ∈ terms → symbols.isKnown term = false →
      Refused symbols terms (.unknownTerm term)
  | malformedCall {call : CallFault} : Balanced terms →
      (∀ term ∈ terms, symbols.isKnown term = true) → callFault? symbols terms = some call →
      Refused symbols terms (.malformedCall call)

/-- **The fault of a list that is refused says which condition is broken.** -/
theorem refused_of_error {fault : Fault} (failed : validate symbols terms = .error fault) :
    Refused symbols terms fault := by
  by_cases balanced : Balanced terms
  · rw [validate, checkBrackets_of_balanced balanced, checkCalls_eq] at failed
    cases known : checkTerms symbols terms with
    | error unknown =>
        rw [known] at failed
        cases failed
        obtain ⟨term, member, unknown, rfl⟩ := unknownTerm_of_error known
        exact .unknownTerm balanced member unknown
    | ok =>
        rw [known] at failed
        cases found : callFault? symbols terms with
        | some call =>
            rw [found] at failed
            cases failed
            exact .malformedCall balanced (checkTerms_eq_ok_iff.mp known) found
        | none =>
            rw [found] at failed
            cases failed
  · rw [validate, checkBrackets_of_unbalanced balanced] at failed
    cases found : callFault? symbols terms with
    | some call =>
        rw [found] at failed
        cases failed
        exact .unclosedCall balanced found
    | none =>
        rw [found] at failed
        cases failed
        exact .unmatchedBrackets balanced found

/-! ## What the validation decides -/

/-- The code of the fault of a list that is refused says which condition is broken first, and the
fault is not internal. -/
theorem Refused.code_iff (unnamed : symbols.BracketsUnnamed) {fault : Fault}
    (refused : Refused symbols terms fault) :
    ((fault.code = "3000" ∨ fault.code = "3008") ↔ ¬ Balanced terms) ∧
      (fault.code = "3001" ↔
        Balanced terms ∧ ∃ term ∈ terms, symbols.isKnown term = false) ∧
      (fault.code = "3002" ↔ Balanced terms ∧
        (∀ term ∈ terms, symbols.isKnown term = true) ∧ ¬ WellCalled symbols terms) := by
  cases refused with
  | unclosedCall unbalanced _ | unmatchedBrackets unbalanced _ =>
      refine ⟨iff_of_true (by simp [Fault.code]) unbalanced, ?_, ?_⟩
      all_goals exact iff_of_false (by simp [Fault.code]) fun broken => unbalanced broken.1
  | unknownTerm balanced member unknown =>
      refine ⟨iff_of_false (by simp [Fault.code]) (not_not_intro balanced),
        iff_of_true rfl ⟨balanced, _, member, unknown⟩,
        iff_of_false (by simp [Fault.code]) fun broken => ?_⟩
      rw [broken.2.1 _ member] at unknown
      cases unknown
  | malformedCall balanced known found =>
      refine ⟨iff_of_false (by simp [Fault.code]) (not_not_intro balanced),
        iff_of_false (by simp [Fault.code]) fun broken => ?_,
        iff_of_true rfl ⟨balanced, known, ?_⟩⟩
      · obtain ⟨term, member, unknown⟩ := broken.2
        rw [known term member] at unknown
        cases unknown
      · rw [← callFault?_eq_none_iff_of_unnamed unnamed balanced.closed, found]
        nofun

/-- No fault of the validation is internal, whatever the symbols are. -/
theorem Refused.not_internal {fault : Fault} (refused : Refused symbols terms fault) :
    fault.kind.isA .internal = false := by
  cases refused <;> rfl

/-- **What the validation decides.** If no bracket names a function, a list is valid exactly if it
is balanced, its terms are known, and every function outside brackets is followed by an opening
bracket. Otherwise the code of the fault says which of the three is broken first, and the fault is
not internal. In a balanced list the opening bracket behind a function is all that is looked for:
it always has a partner, and where there is no room for a pair of brackets it is missing as well. -/
theorem validate_decides (unnamed : symbols.BracketsUnnamed) (terms : List Term) :
    (validate symbols terms = .ok () ↔
      Balanced terms ∧ (∀ term ∈ terms, symbols.isKnown term = true) ∧
        WellCalled symbols terms) ∧
    (∀ fault, validate symbols terms = .error fault →
      fault.kind.isA .internal = false ∧
      ((fault.code = "3000" ∨ fault.code = "3008") ↔ ¬ Balanced terms) ∧
      (fault.code = "3001" ↔
        Balanced terms ∧ ∃ term ∈ terms, symbols.isKnown term = false) ∧
      (fault.code = "3002" ↔ Balanced terms ∧
        (∀ term ∈ terms, symbols.isKnown term = true) ∧ ¬ WellCalled symbols terms)) ∧
    (Balanced terms → ∀ before name after, terms = before ++ name :: after → depth before = 0 →
      symbols.isFunction name = true →
        (inspectCall terms before.length = .ok none ↔ ∃ rest, after = Term.opening :: rest) ∧
        inspectCall terms before.length ≠ .ok (some .closing) ∧
        (inspectCall terms before.length = .ok (some .brackets) →
          ¬ ∃ rest, after = Term.opening :: rest)) := by
  refine ⟨validate_eq_ok_iff_of_unnamed unnamed, fun fault failed => ?_, ?_⟩
  · have refused := refused_of_error failed
    exact ⟨refused.not_internal, refused.code_iff unnamed⟩
  · rintro balanced before name after rfl outside named
    have closed := (balanced.operands (unnamed.weight_function named) outside).2.closed
    have decides : missingPart? (before ++ name :: after) before.length = none ↔
        ∃ rest, after = Term.opening :: rest := missingPart?_eq_none_iff closed
    rw [inspectCall_eq]
    simp only [ne_eq, Except.ok.injEq]
    refine ⟨decides, missingPart?_ne_closing closed, fun noRoom opens => ?_⟩
    rw [decides.mpr opens] at noRoom
    cases noRoom

/-- With a function that is not built in: a call with brackets is valid, and one without them is
refused, at the end of a list, where there is no room for them. -/
theorem validate_decides_square :
    Symbols.BracketsUnnamed { functionNames := ["square"] } ∧
      validate { functionNames := ["square"] } ["square", "(", "x", ")"] = .ok () ∧
      WellCalled { functionNames := ["square"] } ["square", "(", "x", ")"] ∧
      validate { functionNames := ["square"] } ["x", "+", "square"] =
        .error (.malformedCall ⟨"square", .brackets⟩) ∧
      ¬ WellCalled { functionNames := ["square"] } ["x", "+", "square"] := by
  have unnamed : Symbols.BracketsUnnamed { functionNames := ["square"] } := ⟨rfl, rfl⟩
  have accepted : validate { functionNames := ["square"] } ["square", "(", "x", ")"] = .ok () :=
    rfl
  have refused : validate { functionNames := ["square"] } ["x", "+", "square"] =
      .error (.malformedCall ⟨"square", .brackets⟩) := rfl
  have wellCalled := ((validate_decides unnamed _).1.mp accepted).2.2
  have malformed := ((validate_decides unnamed _).2.1 _ refused).2.2.2.mp rfl
  exact ⟨unnamed, accepted, wellCalled, refused, malformed.2.2⟩

end InfixFormula.Validation
