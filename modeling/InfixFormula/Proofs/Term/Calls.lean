import InfixFormula.Proofs.Bracket.Outside
import InfixFormula.Proofs.Bracket.Unclosed
import InfixFormula.Proofs.Term.Resolved
import InfixFormula.Term.Validation

/-!
# Well-formed calls

The check of the calls asks for two terms after the name of a function, for an opening bracket
directly after it, and for the partner of this bracket. On a list that closes what it opens only
the second question matters: the check passes exactly when every function outside brackets is
followed by an opening bracket (`callFault?_eq_none_iff`), as long as no bracket names a function.
This condition is kept by the ways in which lists of terms are put together.
-/

set_option autoImplicit false

namespace InfixFormula.Validation

open InfixFormula.Bracket

/-- Every function outside every bracket is directly followed by an opening bracket. -/
def WellCalled (symbols : Symbols) (terms : List Term) : Prop :=
  ∀ before name after, terms = before ++ name :: after → depth before = 0 →
    symbols.isFunction name = true → ∃ rest, after = Term.opening :: rest

/-- Nothing is missing in a call exactly if a bracket opens after its name and has a partner. -/
theorem missingPart?_eq_none_iff_paired {before after : List Term} {name : Term} :
    missingPart? (before ++ name :: after) before.length = none ↔
      (∃ rest, after = Term.opening :: rest) ∧
        partner? (before ++ name :: after) (before.length + 1) ≠ none := by
  have behind : (before ++ name :: after).drop (before.length + 1) = after := by
    rw [List.drop_length_add_append, List.drop_one, List.tail_cons]
  rw [missingPart?, behind]
  rcases after with _ | ⟨next, _ | ⟨second, rest⟩⟩
  · simp
  · -- There is no room for a partner behind a bracket at the end of a list.
    refine ⟨nofun, ?_⟩
    rintro ⟨⟨rest, shape⟩, paired⟩
    obtain ⟨rfl, rfl⟩ := List.cons.inj shape
    refine absurd ?_ paired
    rw [List.append_cons, ← List.length_concat, List.concat_eq_append, partner?_eq_none_iff]
    intro inner rest split
    exact absurd (List.append_eq_nil_iff.mp split.symm).2 (List.cons_ne_nil _ _)
  · by_cases opens : next = Term.opening
    · subst opens
      cases partner? (before ++ name :: Term.opening :: second :: rest) (before.length + 1) <;>
        simp
    · simp [opens]

/-- Nothing is missing in a call of a closed list exactly if a bracket opens after its name. -/
theorem missingPart?_eq_none_iff {before after : List Term} {name : Term}
    (closed : depth after = 0) :
    missingPart? (before ++ name :: after) before.length = none ↔
      ∃ rest, after = Term.opening :: rest := by
  rw [missingPart?_eq_none_iff_paired, and_iff_left_iff_imp]
  rintro ⟨rest, rfl⟩ unpaired
  rw [List.append_cons, ← List.length_concat, List.concat_eq_append,
    partner?_eq_none_iff] at unpaired
  rw [depth_cons, weight_opening] at closed
  obtain ⟨inner, later, rfl, closes⟩ :=
    exists_closing_of_neg rest 0 (Int.le_refl 0) (by omega)
  exact unpaired inner later rfl (closes_zero_iff.mp closes)

/-- In a call of a closed list the bracket that opens after the name is closed. -/
theorem missingPart?_ne_closing {before after : List Term} {name : Term}
    (closed : depth after = 0) :
    missingPart? (before ++ name :: after) before.length ≠ some .closing := by
  intro unclosed
  by_cases opens : ∃ rest, after = Term.opening :: rest
  · rw [(missingPart?_eq_none_iff closed).mpr opens] at unclosed
    cases unclosed
  · rw [missingPart?, List.drop_length_add_append, List.drop_one, List.tail_cons] at unclosed
    split at unclosed
    next next second rest =>
      have other : next ≠ Term.opening := fun same => opens ⟨second :: rest, by rw [same]⟩
      rw [if_pos other] at unclosed
      cases unclosed
    next => cases unclosed

variable {symbols : Symbols}

/-- **On a closed list the check of the calls looks for opening brackets only.** -/
theorem callFault?_eq_none_iff_of_unnamed (unnamed : symbols.BracketsUnnamed) {terms : List Term}
    (closed : depth terms = 0) :
    callFault? symbols terms = none ↔ WellCalled symbols terms := by
  simp only [callFault?, outerFunctions, List.findSome?_eq_none_iff, Option.map_eq_none_iff,
    Prod.forall]
  constructor
  · intro complete before name after split outside named
    have neutral := unnamed.weight_function named
    have none := complete before.length name
      ((mem_outside neutral).mpr ⟨named, before, after, split, rfl, outside⟩)
    subst split
    rw [depth_append, depth_cons, outside, neutral] at closed
    exact (missingPart?_eq_none_iff (by omega)).mp none
  · intro wellCalled position name found
    by_cases named : symbols.isFunction name = true
    · have neutral := unnamed.weight_function named
      obtain ⟨_, before, after, rfl, rfl, outside⟩ := (mem_outside neutral).mp found
      rw [depth_append, depth_cons, outside, neutral] at closed
      exact (missingPart?_eq_none_iff (by omega)).mpr (wellCalled _ _ _ rfl outside named)
    · exact absurd ((mem_outsideFrom _ _ _).mp found).1 named

variable (resolved : symbols.Resolved)
include resolved

theorem callFault?_eq_none_iff {terms : List Term} (closed : depth terms = 0) :
    callFault? symbols terms = none ↔ WellCalled symbols terms :=
  callFault?_eq_none_iff_of_unnamed resolved.bracketsUnnamed closed

omit resolved in
theorem wellCalled_single {term : Term} (unnamed : symbols.isFunction term = false) :
    WellCalled symbols [term] := by
  intro before name after split outside named
  have same := outside_singleton ⟨before, after, split, outside⟩
  rw [same, named] at unnamed
  cases unnamed

theorem wellCalled_bracketed {inner : List Term} (balanced : Balanced inner) :
    WellCalled symbols (bracketed inner) := by
  intro before name after split outside named
  have opens := eq_opening_of_outside_bracketed balanced ⟨before, after, split, outside⟩
  rw [opens, resolved.isFunction_opening] at named
  cases named

theorem wellCalled_call {name : Term} {argument : List Term}
    (named : symbols.isFunction name = true) (balanced : Balanced argument) :
    WellCalled symbols (name :: bracketed argument) := by
  intro before other after split outside otherNamed
  cases before with
  | nil => exact ⟨argument ++ [Term.closing], (List.cons.inj split).2.symm⟩
  | cons head before =>
      obtain ⟨rfl, rest⟩ := List.cons.inj split
      rw [depth_cons, resolved.weight_function named, Int.zero_add] at outside
      exact wellCalled_bracketed resolved balanced _ _ _ rest outside otherNamed

omit resolved in
theorem wellCalled_append_cons {left right : List Term} {middle : Term}
    (first : WellCalled symbols left) (second : WellCalled symbols right)
    (closed : depth left = 0) (neutral : weight middle = 0)
    (unnamed : symbols.isFunction middle = false) :
    WellCalled symbols (left ++ middle :: right) := by
  intro before name after split outside named
  rcases List.append_eq_append_iff.mp split with ⟨more, rfl, rest⟩ | ⟨more, rfl, rest⟩
  · cases more with
    | nil =>
        rw [(List.cons.inj rest).1, named] at unnamed
        cases unnamed
    | cons head more =>
        obtain ⟨rfl, tail⟩ := List.cons.inj rest
        rw [depth_append, closed, depth_cons, neutral, Int.zero_add, Int.zero_add] at outside
        exact second _ _ _ tail outside named
  · cases more with
    | nil =>
        rw [← (List.cons.inj rest).1, named] at unnamed
        cases unnamed
    | cons head more =>
        obtain ⟨rfl, rfl⟩ := List.cons.inj rest
        obtain ⟨inside, rfl⟩ := first before name more rfl outside named
        exact ⟨inside ++ middle :: right, List.cons_append⟩

end InfixFormula.Validation
