import InfixFormula.Proofs.Bracket.Depth

/-!
# Redundant pairs of brackets

A balanced list is one bracketed unit exactly when it is a pair of brackets around a balanced
list (`isWrapped_iff`). So stripping the redundant pairs of a balanced list takes away whole pairs
and leaves a balanced list that is no bracketed unit (`Balanced.unwrapped`,
`isWrapped_unwrapped`), and a statement on balanced lists can be proved by stripping one pair
after the other (`Balanced.unwrapInduction`).
-/

set_option autoImplicit false

namespace InfixFormula.Bracket

/-- The running sum does not return to zero exactly when it is zero after no prefix but the
empty one. -/
theorem returnIndex?_eq_none_iff (terms : List Term) : ∀ sum : Int,
    returnIndex? sum terms = none ↔
      ∀ before after, terms = before ++ after → before ≠ [] → sum + depth before ≠ 0 := by
  induction terms with
  | nil =>
      intro sum
      refine ⟨fun _ before after cut started => ?_, fun _ => rfl⟩
      exact absurd (List.append_eq_nil_iff.mp cut.symm).1 started
  | cons term rest ih =>
      intro sum
      rw [forall_prefix_cons (motive := fun before => before ≠ [] → sum + depth before ≠ 0)]
      simp only [returnIndex?, depth_cons, ← Int.add_assoc]
      by_cases returned : sum + weight term = 0
      · rw [if_pos returned]
        refine ⟨nofun, fun ⟨_, later⟩ => ?_⟩
        have := later [] rest rfl (List.cons_ne_nil _ _)
        exact absurd (by rw [depth_nil, Int.add_zero]; exact returned) this
      · rw [if_neg returned, Option.map_eq_none_iff, ih]
        constructor
        · intro later
          refine ⟨fun started => absurd rfl started, fun before after cut _ => ?_⟩
          by_cases started : before = []
          · rw [started, depth_nil, Int.add_zero]
            exact returned
          · exact later before after cut started
        · rintro ⟨_, later⟩ before after cut _
          exact later before after cut (List.cons_ne_nil _ _)

/-! ## Bracketed units -/

theorem isWrapped_bracketed {inner : List Term} (balanced : Balanced inner) :
    isWrapped (bracketed inner) = true := by
  have paired : returnIndex? 0 (Term.opening :: inner) = none := by
    rw [returnIndex?_eq_none_iff]
    intro before after cut started
    have inside : bracketed inner = before ++ (after ++ [Term.closing]) := by
      rw [bracketed, ← List.cons_append, cut, List.append_assoc]
    have positive := balanced.depth_pos inside started (by simp)
    omega
  have dropped : (bracketed inner).dropLast = Term.opening :: inner := by
    rw [bracketed, ← List.cons_append, List.dropLast_concat]
  rw [isWrapped, dropped, paired]
  simp [bracketed]

/-- **A balanced list is one bracketed unit exactly when it is a pair of brackets around a
balanced list.** -/
theorem isWrapped_iff {terms : List Term} (balanced : Balanced terms) :
    isWrapped terms = true ↔ ∃ inner, terms = bracketed inner ∧ Balanced inner := by
  constructor
  · intro wrapped
    simp only [isWrapped, Bool.and_eq_true, decide_eq_true_eq, beq_iff_eq,
      Option.isNone_iff_eq_none, returnIndex?_eq_none_iff] at wrapped
    obtain ⟨⟨long, head⟩, inside⟩ := wrapped
    obtain ⟨rest, rfl⟩ : ∃ rest, terms = Term.opening :: rest := by
      cases terms with
      | nil => cases head
      | cons first rest => exact ⟨rest, by rw [Option.some.inj head]⟩
    obtain ⟨inner, last, rfl⟩ : ∃ inner last, rest = inner ++ [last] := by
      have nonempty : rest ≠ [] := by
        rintro rfl
        exact absurd long (by decide)
      exact ⟨_, _, (List.dropLast_concat_getLast nonempty).symm⟩
    rw [← List.cons_append, List.dropLast_concat] at inside
    have positive (before after : List Term) (cut : inner = before ++ after) :
        0 < 1 + depth before := by
      have nonneg := balanced.nonneg (Term.opening :: before) (after ++ [last]) (by
        rw [cut, List.append_assoc, List.cons_append])
      have nonzero := inside (Term.opening :: before) after (by rw [cut, List.cons_append])
        (List.cons_ne_nil _ _)
      rw [depth_cons, weight_opening] at nonneg nonzero
      omega
    have closed := balanced.closed
    rw [depth_cons, depth_append, depth_cons, depth_nil, weight_opening] at closed
    have whole := positive inner [] (List.append_nil _).symm
    rcases weight_cases last with rfl | rfl | neutral
    · rw [weight_opening] at closed
      omega
    · rw [weight_closing] at closed
      refine ⟨inner, rfl, by omega, fun before after cut => ?_⟩
      have := positive before after cut
      omega
    · omega
  · rintro ⟨inner, rfl, within⟩
    exact isWrapped_bracketed within

/-- A list that is cut at depth zero inside is no bracketed unit. -/
theorem isWrapped_eq_false_of_cut {before after : List Term} (balanced : Balanced (before ++ after))
    (started : before ≠ []) (unfinished : after ≠ []) (cut : depth before = 0) :
    isWrapped (before ++ after) = false := by
  rw [← Bool.not_eq_true, isWrapped_iff balanced]
  rintro ⟨inner, split, within⟩
  have := within.depth_pos split.symm started unfinished
  omega

/-! ## Stripping -/

theorem unwrapped_of_not_wrapped {terms : List Term} (bare : isWrapped terms = false) :
    unwrapped terms = terms := by
  rw [unwrapped, bare]
  rfl

theorem unwrapped_bracketed {inner : List Term} (balanced : Balanced inner) :
    unwrapped (bracketed inner) = unwrapped inner := by
  rw [unwrapped, if_pos (isWrapped_bracketed balanced), interior_bracketed]

/-- What is left after stripping is no bracketed unit. -/
theorem isWrapped_unwrapped (terms : List Term) : isWrapped (unwrapped terms) = false := by
  fun_induction unwrapped terms with
  | case1 terms _ ih => exact ih
  | case2 terms bare => exact Bool.eq_false_iff.mpr bare

/-- What is left after stripping stands together in the list. -/
theorem unwrapped_within (terms : List Term) : unwrapped terms <:+: terms := by
  fun_induction unwrapped terms with
  | case1 terms _ ih =>
      exact ih.trans ((List.dropLast_prefix _).isInfix.trans (List.tail_suffix _).isInfix)
  | case2 terms _ => exact List.infix_refl terms

/-- **Induction over the redundant pairs of a balanced list.** A property of the balanced lists
that are no bracketed unit, which a pair of brackets keeps, holds of all balanced lists. -/
theorem Balanced.unwrapInduction {motive : (terms : List Term) → Balanced terms → Prop}
    (bare : ∀ terms (balanced : Balanced terms), isWrapped terms = false → motive terms balanced)
    (pair : ∀ inner (balanced : Balanced inner), motive inner balanced →
      motive (Bracket.bracketed inner) balanced.bracketed)
    {terms : List Term} (balanced : Balanced terms) : motive terms balanced := by
  fun_induction unwrapped terms with
  | case1 terms wrapped ih =>
      obtain ⟨inner, rfl, within⟩ := (isWrapped_iff balanced).mp wrapped
      rw [interior_bracketed] at ih
      exact pair inner within (ih within)
  | case2 terms unit => exact bare terms balanced (Bool.eq_false_iff.mpr unit)

/-- **Stripping keeps balance.** -/
theorem Balanced.unwrapped {terms : List Term} (balanced : Balanced terms) :
    Balanced (unwrapped terms) := by
  induction balanced using Balanced.unwrapInduction with
  | bare terms balanced unit =>
      rw [unwrapped_of_not_wrapped unit]
      exact balanced
  | pair inner balanced ih =>
      rw [unwrapped_bracketed balanced]
      exact ih

end InfixFormula.Bracket
