import InfixFormula.Proofs.Bracket.Pairing
import Mathlib.Logic.Function.Iterate
import Mathlib.Order.Bounds.Basic

/-!
# How many pairs are stripped

The stripping of redundant brackets is a loop: as long as the list passes for one bracketed unit,
its first and its last term are taken away. The test of a round never looks at the last term. What
it decides for a balanced list is nevertheless whether the partner of the first bracket is the last
term (`isWrapped_iff_bracketPartner`), and without such a pair the list is balanced again, so that
the next round can rely on it as well.

How often the loop runs can be said without the loop. A balanced list can be read in several ways as
a number of pairs of brackets around balanced terms, and the loop takes away the greatest of these
numbers (`isGreatest_nested`). A list such as `(a)+(b)` or `()()` starts and ends with brackets too,
but what stands between them is not balanced, and neither is taken away.
-/

set_option autoImplicit false

namespace InfixFormula.Bracket

open Validation

/-! ## Nested pairs and rounds -/

theorem length_nested (count : Nat) (inner : List Term) :
    (nested count inner).length = 2 * count + inner.length := by
  simp only [nested_eq, List.length_append, List.length_replicate]
  omega

/-- A round takes the outermost pair away, and so do several. -/
theorem iterate_interior_nested (rounds count : Nat) (inner : List Term) :
    interior^[rounds] (nested (rounds + count) inner) = nested count inner := by
  induction rounds with
  | zero => rw [Nat.zero_add, Function.iterate_zero_apply]
  | succ rounds ih =>
      rw [Nat.add_right_comm, nested, Function.iterate_succ_apply, interior_bracketed, ih]

theorem unwrapped_nested {inner : List Term} (balanced : Balanced inner) (count : Nat) :
    unwrapped (nested count inner) = unwrapped inner := by
  induction count with
  | zero => rw [nested]
  | succ count ih => rw [nested, unwrapped_bracketed (balanced.nested count), ih]

/-- **Around balanced terms that are no bracketed unit there are as many pairs as can be.** Any
other reading of the list leaves some of its pairs to the terms between them. -/
theorem isGreatest_nested {rest : List Term} (balanced : Balanced rest)
    (bare : isWrapped rest = false) (count : Nat) :
    IsGreatest {pairs | ∃ inner, nested count rest = nested pairs inner ∧ Balanced inner} count := by
  refine ⟨⟨rest, rfl, balanced⟩, ?_⟩
  rintro pairs ⟨inner, same, within⟩
  obtain ⟨further, shape⟩ := within.exists_nested
  have left : unwrapped inner = rest := by
    rw [← unwrapped_nested within pairs, ← same, unwrapped_nested balanced,
      unwrapped_of_not_wrapped bare]
  rw [left] at shape
  have lengths := congrArg List.length same
  rw [shape, length_nested, length_nested, length_nested] at lengths
  omega

/-! ## The test of a round -/

/-- **A balanced list passes for one bracketed unit exactly if the partner of its first bracket is
its last term.** -/
theorem isWrapped_iff_bracketPartner {terms : List Term} (balanced : Balanced terms) :
    isWrapped terms = true ↔
      terms[0]? = some Term.opening ∧
        bracketPartner terms (0 : Nat) = .ok (some (terms.length - 1)) := by
  rw [isWrapped_iff balanced]
  constructor
  · rintro ⟨inner, rfl, within⟩
    have paired := paired_of_balanced within [] []
    have last : (bracketed inner).length - 1 = inner.length + 1 := by simp [bracketed]
    rw [List.nil_append, List.append_nil, List.length_nil, Nat.zero_add, ← last] at paired
    exact ⟨paired.opens, (bracketPartner_of_paired paired).1⟩
  · rintro ⟨opens, answer⟩
    have partner := (bracketPartner_eq_ok_iff.mp answer).2
    obtain ⟨before, inner, after, rfl, within, first, last⟩ :=
      encloses_iff.mp ((partner?_of_opening opens).mp partner)
    obtain rfl := List.length_eq_zero_iff.mp first.symm
    have ended : after.length = 0 := by
      simp only [bracketed, List.nil_append, List.length_append, List.length_cons,
        List.length_nil] at last
      omega
    obtain rfl := List.length_eq_zero_iff.mp ended
    exact ⟨inner, by rw [List.nil_append, List.append_nil], within⟩

/-! ## The loop -/

/-- **The loop strips exactly the redundant pairs.** It takes a balanced list apart in a number of
rounds, each of which takes one term away from either end. The terms taken away are opening brackets
and closing brackets, what is left is balanced, and no greater number of pairs leaves balanced
terms. The pairs are partners of each other in the list. The test of every round, the last one
included, asks whether the partner of the first bracket is the last term. -/
theorem unwrapped_of_balanced {terms : List Term} (balanced : Balanced terms) :
    ∃ count,
      unwrapped terms = interior^[count] terms ∧
      terms = List.replicate count Term.opening ++
        (unwrapped terms ++ List.replicate count Term.closing) ∧
      Balanced (unwrapped terms) ∧
      IsGreatest {pairs | ∃ inner, terms = List.replicate pairs Term.opening ++
        (inner ++ List.replicate pairs Term.closing) ∧ Balanced inner} count ∧
      (∀ index < count,
        bracketPartner terms index = .ok (some (terms.length - 1 - index)) ∧
        bracketPartner terms (terms.length - 1 - index : Nat) = .ok (some index)) ∧
      ∀ round ≤ count,
        (isWrapped (interior^[round] terms) = true ↔ round < count) ∧
        (isWrapped (interior^[round] terms) = true ↔
          (interior^[round] terms)[0]? = some Term.opening ∧
            bracketPartner (interior^[round] terms) (0 : Nat) =
              .ok (some ((interior^[round] terms).length - 1))) := by
  obtain ⟨count, shape⟩ := balanced.exists_nested
  have within := balanced.unwrapped
  have bare := isWrapped_unwrapped terms
  generalize unwrapped terms = rest at shape within bare
  subst shape
  have left (round further : Nat) (same : count = round + further) :
      interior^[round] (nested count rest) = nested further rest := by
    rw [same, iterate_interior_nested]
  refine ⟨count, (left count 0 rfl).symm, nested_eq count rest, within, ?_, ?_, ?_⟩
  · simp only [← nested_eq]
    exact isGreatest_nested within bare count
  · intro index inside
    exact bracketPartner_of_paired (paired_nested within inside)
  · intro round among
    obtain ⟨further, same⟩ := Nat.exists_eq_add_of_le among
    rw [left round further same]
    refine ⟨?_, isWrapped_iff_bracketPartner (within.nested further)⟩
    cases further with
    | zero =>
        rw [nested, bare]
        exact iff_of_false Bool.false_ne_true (by omega)
    | succ further =>
        rw [nested, isWrapped_bracketed (within.nested further)]
        exact iff_of_true rfl (by omega)

/-- Two pairs around a sum of two bracketed terms are stripped. A third opening and a third closing
bracket stand at its ends, and both stay. -/
theorem unwrapped_of_balanced_sum :
    Balanced ["(", "(", "(", "x", ")", "+", "(", "y", ")", ")", ")"] ∧
      unwrapped ["(", "(", "(", "x", ")", "+", "(", "y", ")", ")", ")"] =
        ["(", "x", ")", "+", "(", "y", ")"] ∧
      bracketPartner ["(", "(", "(", "x", ")", "+", "(", "y", ")", ")", ")"] (1 : Nat) =
        .ok (some 9) := by
  have balanced : Balanced ["(", "(", "(", "x", ")", "+", "(", "y", ")", ")", ")"] := by decide
  obtain ⟨count, stripped, _, _, _, partners, rounds⟩ := unwrapped_of_balanced balanced
  have first : 0 < count := (rounds 0 (Nat.zero_le count)).1.mp rfl
  have second : 1 < count := (rounds 1 first).1.mp rfl
  have third : ¬ 2 < count := fun more => nomatch (rounds 2 second).1.mpr more
  obtain rfl : count = 2 := by omega
  exact ⟨balanced, stripped, (partners 1 second).1⟩

end InfixFormula.Bracket
