import InfixFormula.Proofs.Bracket.Wrapped

/-!
# Brackets that stay open

An opening bracket stays open in a list if no later closing bracket closes it: what would stand
between the two is never balanced (`Unclosed`), and so the bracket has no partner
(`partner?_eq_none_iff`). Such a bracket encloses whatever stands behind the list.

The depth of the list does not tell whether there is one. A list may close more than is open at some
point and open as much again later, so its depth is zero although a bracket stays open in it, and a
list that only closes has a depth other than zero although none does. What tells is the depth of the
parts at the end of the list: a bracket stays open exactly if one of them has a positive depth
(`unclosed_iff`). So a list is balanced exactly if its depth is zero and no bracket stays open
(`balanced_iff_unclosed`). The depth tells of open brackets only in a list that is balanced and in
one that leaves brackets open without closing just as many too often (`depth_agrees_iff`).
-/

set_option autoImplicit false

namespace InfixFormula.Bracket

/-- Some opening bracket of the list is not closed in it. -/
def Unclosed (terms : List Term) : Prop :=
  ∃ before after, terms = before ++ Term.opening :: after ∧
    ∀ inner rest, after = inner ++ Term.closing :: rest → ¬ Balanced inner

theorem Unclosed.cons {terms : List Term} (term : Term) (unclosed : Unclosed terms) :
    Unclosed (term :: terms) := by
  obtain ⟨before, after, rfl, stays⟩ := unclosed
  exact ⟨term :: before, after, rfl, stays⟩

/-- A list that closes more than a sum of open brackets and what it opens itself has a bracket that
is the first to close too much. -/
theorem exists_closing_of_neg (terms : List Term) : ∀ sum : Int, 0 ≤ sum → sum + depth terms < 0 →
    ∃ inner rest, terms = inner ++ Term.closing :: rest ∧ Closes sum inner := by
  induction terms with
  | nil =>
      intro sum started negative
      rw [depth_nil] at negative
      omega
  | cons term terms ih =>
      intro sum started negative
      rw [depth_cons, ← Int.add_assoc] at negative
      by_cases closed : sum + weight term < 0
      · -- The first term closes the last open bracket, so there was none to begin with.
        rcases weight_cases term with rfl | rfl | neutral
        · rw [weight_opening] at closed
          omega
        · rw [weight_closing] at closed
          exact ⟨[], terms, rfl, closes_nil.mpr (by omega)⟩
        · omega
      · obtain ⟨inner, rest, rfl, closes⟩ := ih (sum + weight term) (by omega) negative
        exact ⟨term :: inner, rest, rfl, closes_cons.mpr ⟨started, closes⟩⟩

/-- A balanced list that starts with a bracket starts with a pair of brackets. -/
theorem Balanced.exists_bracketed {rest : List Term} (balanced : Balanced (Term.opening :: rest)) :
    ∃ inner after, Term.opening :: rest = Bracket.bracketed inner ++ after ∧ Balanced inner ∧
      Balanced after := by
  have closed := balanced.closed
  rw [depth_cons, weight_opening] at closed
  obtain ⟨inner, after, rfl, closes⟩ := exists_closing_of_neg rest 0 (Int.le_refl 0) (by omega)
  have within := closes_zero_iff.mp closes
  have shape := bracketed_append inner after
  rw [← shape] at balanced
  exact ⟨inner, after, shape.symm, within, (balanced.sides within.bracketed.closed).2⟩

/-- An opening bracket has no partner exactly if no later closing bracket closes it. -/
theorem partner?_eq_none_iff (before after : List Term) :
    partner? (before ++ Term.opening :: after) before.length = none ↔
      ∀ inner rest, after = inner ++ Term.closing :: rest → ¬ Balanced inner := by
  rw [partner?, getElem?_place, if_neg (by decide), List.drop_left, Option.map_eq_none_iff,
    returnIndex?_eq_none_iff]
  constructor
  · rintro unpaired inner rest rfl balanced
    refine unpaired (Term.opening :: (inner ++ [Term.closing])) rest ?_ (List.cons_ne_nil _ _) ?_
    · rw [List.cons_append, List.append_assoc, List.singleton_append]
    · rw [Int.zero_add]
      exact balanced.bracketed.closed
  · intro stays start rest split started returned
    cases start with
    | nil => exact started rfl
    | cons first start =>
        obtain ⟨rfl, rfl⟩ := List.cons.inj split
        rw [depth_cons, weight_opening] at returned
        obtain ⟨inner, tail, rfl, closes⟩ :=
          exists_closing_of_neg start 0 (Int.le_refl 0) (by omega)
        exact stays inner (tail ++ rest) (by simp) (closes_zero_iff.mp closes)

/-- If the depth of a list is positive, but of no part at the end of its rest, then its first term
is a bracket that stays open. -/
theorem unclosed_of_first {term : Term} {rest : List Term} (positive : 0 < depth (term :: rest))
    (ends : ∀ before after, rest = before ++ after → depth after ≤ 0) :
    Unclosed (term :: rest) := by
  have whole := ends [] rest rfl
  rw [depth_cons] at positive
  rcases weight_cases term with rfl | rfl | neutral
  · refine ⟨[], rest, rfl, fun inner tail split balanced => ?_⟩
    have behind := ends (inner ++ [Term.closing]) tail (by
      rw [split, List.append_assoc, List.singleton_append])
    rw [split, depth_append, depth_cons, balanced.closed, weight_opening,
      weight_closing] at positive
    omega
  · rw [weight_closing] at positive
    omega
  · omega

/-- A bracket stays open in a list, or no part at its end has a positive depth. -/
theorem unclosed_or_ends (terms : List Term) :
    Unclosed terms ∨ ∀ before after, terms = before ++ after → depth after ≤ 0 := by
  induction terms with
  | nil =>
      refine .inr fun before after split => ?_
      obtain ⟨rfl, rfl⟩ := List.append_eq_nil_iff.mp split.symm
      exact Int.le_refl 0
  | cons term rest ih =>
      rcases ih with unclosed | ends
      · exact .inl (unclosed.cons term)
      by_cases positive : 0 < depth (term :: rest)
      · exact .inl (unclosed_of_first positive ends)
      · refine .inr fun before after split => ?_
        cases before with
        | nil =>
            rw [← List.nil_append after, ← split]
            exact Int.not_lt.mp positive
        | cons head before => exact ends before after (List.cons.inj split).2

/-- **A bracket stays open exactly if the list ends with a part of positive depth.** -/
theorem unclosed_iff {terms : List Term} :
    Unclosed terms ↔ ∃ before after, terms = before ++ after ∧ 0 < depth after := by
  constructor
  · rintro ⟨before, after, rfl, stays⟩
    refine ⟨before, Term.opening :: after, rfl, ?_⟩
    rw [depth_cons, weight_opening]
    refine Int.not_le.mp fun closed => ?_
    obtain ⟨inner, rest, split, closes⟩ :=
      exists_closing_of_neg after 0 (Int.le_refl 0) (by omega)
    exact stays inner rest split (closes_zero_iff.mp closes)
  · rintro ⟨before, after, split, positive⟩
    rcases unclosed_or_ends terms with unclosed | ends
    · exact unclosed
    · exact absurd positive (Int.not_lt.mpr (ends before after split))

instance (terms : List Term) : Decidable (Unclosed terms) :=
  decidable_of_iff (∃ count, count < terms.length ∧ 0 < depth (terms.drop count)) <| by
    rw [unclosed_iff]
    constructor
    · rintro ⟨count, _, positive⟩
      exact ⟨terms.take count, terms.drop count, (List.take_append_drop count terms).symm, positive⟩
    · rintro ⟨before, after, rfl, positive⟩
      refine ⟨before.length, ?_, by rwa [List.drop_left]⟩
      cases after with
      | nil => exact absurd positive (Int.lt_irrefl 0)
      | cons term after =>
          rw [List.length_append, List.length_cons]
          omega

/-- **A list is balanced exactly if its depth is zero and no bracket stays open.** -/
theorem balanced_iff_unclosed {terms : List Term} :
    Balanced terms ↔ depth terms = 0 ∧ ¬ Unclosed terms := by
  rw [unclosed_iff]
  constructor
  · refine fun balanced => ⟨balanced.closed, ?_⟩
    rintro ⟨before, after, split, positive⟩
    have started := balanced.nonneg before after split
    have closed := balanced.closed
    rw [split, depth_append] at closed
    omega
  · rintro ⟨closed, none⟩
    refine ⟨closed, fun before after split => ?_⟩
    have ends : ¬ 0 < depth after := fun positive => none ⟨before, after, split, positive⟩
    rw [split, depth_append] at closed
    omega

/-- **Where the depth tells of open brackets.** It is other than zero exactly if a bracket stays
open, in a list that is balanced or where both are so, and nowhere else. -/
theorem depth_agrees_iff {terms : List Term} :
    (depth terms ≠ 0 ↔ Unclosed terms) ↔
      Balanced terms ∨ (Unclosed terms ∧ depth terms ≠ 0) := by
  constructor
  · intro agrees
    by_cases closed : depth terms = 0
    · exact .inl (balanced_iff_unclosed.mpr ⟨closed, fun stays => agrees.mpr stays closed⟩)
    · exact .inr ⟨agrees.mp closed, closed⟩
  · rintro (balanced | ⟨stays, uneven⟩)
    · obtain ⟨closed, none⟩ := balanced_iff_unclosed.mp balanced
      exact ⟨fun uneven => absurd closed uneven, fun stays => absurd stays none⟩
    · exact ⟨fun _ => stays, fun _ => uneven⟩

end InfixFormula.Bracket
