import InfixFormula.Fault.Basic
import InfixFormula.Term.Bracket

/-!
# Validation

Before a formula is built its terms are checked, and the first check that fails gives the fault:
the brackets balance, every term is known, and every function outside brackets is followed by
brackets. Unbalanced brackets are put down to a function that is not followed by a bracketed
argument, if there is one.
-/

set_option autoImplicit false

namespace InfixFormula.Validation

/-! ## Partners -/

/-- The partner of the bracket at an index, which has to be the index of a bracket. -/
def bracketPartner (terms : List Term) (index : Int) : Except Fault (Option Nat) :=
  if index < 0 then .error (.bracketOutside index terms.length)
  else match terms[index.toNat]? with
  | none => .error (.bracketOutside index terms.length)
  | some term =>
      if term = Term.opening ∨ term = Term.closing then
        .ok (Bracket.partner? terms index.toNat)
      else .error (.notBracket term index)

/-- At an opening bracket the question for its partner is no internal fault. -/
theorem bracketPartner_of_opening {terms : List Term} {index : Nat}
    (opens : terms[index]? = some Term.opening) :
    bracketPartner terms index = .ok (Bracket.partner? terms index) := by
  have notNegative : ¬ (index : Int) < 0 := by omega
  simp [bracketPartner, notNegative, opens]

/-! ## Calls -/

/-- What is missing in the call whose name is at an index. At least two terms have to follow the
name, the first of them an opening bracket with a partner. -/
def missingPart? (terms : List Term) (index : Nat) : Option CallPart :=
  match terms.drop (index + 1) with
  | next :: _ :: _ =>
      if next ≠ Term.opening then some .opening
      else if (Bracket.partner? terms (index + 1)).isNone then some .closing
      else none
  | _ => some .brackets

/-- What is missing in the call whose name is at an index, where the partner is asked for as of
any bracket: at a term that is no bracket the question is an internal fault. -/
def inspectCall (terms : List Term) (index : Nat) : Except Fault (Option CallPart) :=
  match terms.drop (index + 1) with
  | next :: _ :: _ =>
      if next ≠ Term.opening then .ok (some .opening)
      else (bracketPartner terms (index + 1)).map fun partner =>
        if partner.isNone then some .closing else none
  | _ => .ok (some .brackets)

/-- Looking at a call is never an internal fault. -/
theorem inspectCall_eq (terms : List Term) (index : Nat) :
    inspectCall terms index = .ok (missingPart? terms index) := by
  unfold inspectCall missingPart?
  split
  next next second rest after =>
    by_cases opens : next = Term.opening
    · have found : terms[index + 1]? = some Term.opening := by
        rw [← List.head?_drop, after, List.head?_cons, opens]
      have asked := bracketPartner_of_opening found
      simp only [Int.natCast_add, Int.cast_ofNat_Int] at asked
      simp only [opens, ne_eq, not_true_eq_false, if_false, asked, Except.map]
    · simp only [ne_eq, opens, not_false_eq_true, if_true]
  next => rfl

/-- The functions outside every bracket with their indices. -/
def outerFunctions (symbols : Symbols) (terms : List Term) : List (Nat × Term) :=
  Bracket.outside symbols.isFunction terms

/-- The first fault of a call outside every bracket. -/
def callFault? (symbols : Symbols) (terms : List Term) : Option CallFault :=
  (outerFunctions symbols terms).findSome? fun call =>
    (missingPart? terms call.1).map fun part => ⟨call.2, part⟩

/-- Looks at the calls outside every bracket until one has a fault. -/
def inspectCalls (symbols : Symbols) (terms : List Term) : Except Fault (Option CallFault) :=
  (outerFunctions symbols terms).findSomeM? fun call => do
    let part ← inspectCall terms call.1
    pure (part.map fun part => ⟨call.2, part⟩)

/-- Looking at the calls is never an internal fault and finds the first fault. -/
theorem inspectCalls_eq (symbols : Symbols) (terms : List Term) :
    inspectCalls symbols terms = .ok (callFault? symbols terms) := by
  simp only [inspectCalls, inspectCall_eq]
  exact List.findSomeM?_pure

/-! ## Checks -/

/-- Checks that the brackets balance. -/
def checkBrackets (symbols : Symbols) (terms : List Term) : Except Fault Unit :=
  if Bracket.isBalanced terms then .ok ()
  else do
    match ← inspectCalls symbols terms with
    | some call => throw (.unclosedCall call)
    | none => throw (.unmatchedBrackets terms)

/-- Checks that every term is known. -/
def checkTerms (symbols : Symbols) (terms : List Term) : Except Fault Unit :=
  match terms.find? fun term => !symbols.isKnown term with
  | some term => .error (.unknownTerm term)
  | none => .ok ()

/-- Checks the calls outside every bracket. -/
def checkCalls (symbols : Symbols) (terms : List Term) : Except Fault Unit := do
  match ← inspectCalls symbols terms with
  | some call => throw (.malformedCall call)
  | none => pure ()

/-- All checks in their order. -/
def validate (symbols : Symbols) (terms : List Term) : Except Fault Unit := do
  checkBrackets symbols terms
  checkTerms symbols terms
  checkCalls symbols terms

end InfixFormula.Validation
