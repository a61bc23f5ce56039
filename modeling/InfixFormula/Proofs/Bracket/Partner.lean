import InfixFormula.Proofs.Bracket.Wrapped

/-!
# Partners of brackets

The walk from a bracket to its partner stops where the running sum first returns to zero
(`returnIndex?_of_first`). So in any list, balanced or not, the two brackets around a balanced part
are partners of each other (`paired_of_balanced`): between them the depth is positive, from either
end.

Stripping a balanced list of its redundant pairs takes away nested pairs of this kind
(`Balanced.exists_nested`), the `index`-th of which stands at `index` terms from both ends of the
list (`paired_nested`).
-/

set_option autoImplicit false

namespace InfixFormula.Bracket

/-! ## The walk to the partner -/

/-- The walk stops at a term after which the running sum is zero, if it was not zero before. -/
theorem returnIndex?_of_first {term : Term} {after : List Term} (before : List Term) :
    ∀ sum : Int, (∀ start rest, before = start ++ rest → start ≠ [] → sum + depth start ≠ 0) →
      sum + depth before + weight term = 0 →
        returnIndex? sum (before ++ term :: after) = some before.length := by
  induction before with
  | nil =>
      intro sum _ zero
      rw [depth_nil, Int.add_zero] at zero
      rw [List.nil_append, returnIndex?, if_pos zero]
      rfl
  | cons first before ih =>
      intro sum nonzero zero
      have here := nonzero [first] before rfl (List.cons_ne_nil _ _)
      rw [depth_cons, depth_nil, Int.add_zero] at here
      rw [depth_cons, ← Int.add_assoc] at zero
      rw [List.cons_append, returnIndex?, if_neg here, ih (sum + weight first) ?_ zero]
      · rfl
      · intro start rest split _
        have later := nonzero (first :: start) rest (by rw [split, List.cons_append])
          (List.cons_ne_nil _ _)
        rwa [depth_cons, ← Int.add_assoc] at later

/-- Two places hold an opening and a closing bracket that are partners of each other. -/
structure Paired (terms : List Term) (first last : Nat) : Prop where
  opens : terms[first]? = some Term.opening
  closes : terms[last]? = some Term.closing
  forward : partner? terms first = some last
  backward : partner? terms last = some first

section Pair

variable {inner : List Term} (balanced : Balanced inner)
include balanced

/-- From the opening bracket, the running sum returns to zero at the closing one. -/
theorem returnIndex?_forward (after : List Term) :
    returnIndex? 0 (Term.opening :: inner ++ Term.closing :: after) = some (inner.length + 1) := by
  refine returnIndex?_of_first (Term.opening :: inner) 0 (fun start rest split started => ?_) ?_
  · have inside : bracketed inner = start ++ (rest ++ [Term.closing]) := by
      rw [bracketed, ← List.cons_append, split, List.append_assoc]
    have positive := balanced.depth_pos inside started (by simp)
    omega
  · rw [depth_cons, balanced.closed]
    rfl

/-- From the closing bracket, the running sum returns to zero at the opening one. -/
theorem returnIndex?_backward (before : List Term) :
    returnIndex? 0 ((Term.opening :: inner ++ [Term.closing]).reverse ++ before) =
      some (inner.length + 1) := by
  have reversed : (Term.opening :: inner ++ [Term.closing]).reverse ++ before =
      (Term.closing :: inner.reverse) ++ Term.opening :: before := by simp
  rw [reversed, ← List.length_reverse, ← List.length_cons (a := Term.closing)]
  refine returnIndex?_of_first (Term.closing :: inner.reverse) 0 (fun start rest split started =>
    ?_) ?_
  · -- Read from the right, a part of the pair is what its first part leaves of the depth zero.
    have ends : inner ++ [Term.closing] = rest.reverse ++ start.reverse := by
      rw [← List.reverse_append, ← split, List.reverse_cons, List.reverse_reverse]
    have cut : bracketed inner = (Term.opening :: rest.reverse) ++ start.reverse := by
      rw [bracketed, ends, List.cons_append]
    have positive := balanced.depth_pos cut (List.cons_ne_nil _ _) (by simpa using started)
    have closed := balanced.bracketed.closed
    rw [cut, depth_append, depth_reverse] at closed
    omega
  · rw [depth_cons, depth_reverse, balanced.closed]
    rfl

/-- **The two brackets around a balanced part are partners of each other**, in any list. -/
theorem paired_of_balanced (before after : List Term) :
    Paired (before ++ (bracketed inner ++ after)) before.length
      (before.length + (inner.length + 1)) := by
  have opens : (before ++ (bracketed inner ++ after))[before.length]? = some Term.opening := by
    rw [bracketed_append, getElem?_place]
  have closes : (before ++ (bracketed inner ++ after))[before.length + (inner.length + 1)]? =
      some Term.closing := by
    rw [bracketed_append, List.getElem?_append_right (Nat.le_add_right _ _),
      Nat.add_sub_cancel_left, List.getElem?_cons_succ, getElem?_place]
  have behind : (before ++ (bracketed inner ++ after)).drop before.length =
      Term.opening :: inner ++ Term.closing :: after := by
    rw [List.drop_left, bracketed_append, List.cons_append]
  have upTo : ((before ++ (bracketed inner ++ after)).take
      (before.length + (inner.length + 1) + 1)).reverse =
        (Term.opening :: inner ++ [Term.closing]).reverse ++ before.reverse := by
    have length : (bracketed inner).length = inner.length + 1 + 1 := by
      rw [bracketed, List.length_cons, List.length_append, List.length_singleton]
    rw [Nat.add_assoc, List.take_length_add_append, ← length, List.take_left, List.reverse_append]
    rfl
  refine ⟨opens, closes, ?_, ?_⟩
  · rw [partner?, opens, if_neg (by decide), behind, returnIndex?_forward balanced]
    rfl
  · rw [partner?, closes, if_pos rfl, upTo, returnIndex?_backward balanced, Option.map_some,
      Nat.add_sub_cancel]

end Pair

/-! ## Nested pairs -/

/-- A list between a number of nested pairs of brackets. -/
def nested : Nat → List Term → List Term
  | 0, inner => inner
  | count + 1, inner => bracketed (nested count inner)

theorem nested_eq (count : Nat) (inner : List Term) :
    nested count inner =
      List.replicate count Term.opening ++ (inner ++ List.replicate count Term.closing) := by
  induction count with
  | zero => simp only [nested, List.replicate_zero, List.nil_append, List.append_nil]
  | succ count ih =>
      rw [nested, bracketed, ih, List.replicate_succ, List.replicate_succ', List.cons_append,
        List.append_assoc, List.append_assoc]

theorem nested_add (outer count : Nat) (inner : List Term) :
    nested (outer + count) inner = nested outer (nested count inner) := by
  induction outer with
  | zero => rw [Nat.zero_add, nested]
  | succ outer ih => rw [Nat.add_right_comm, nested, ih, nested]

theorem Balanced.nested {inner : List Term} (balanced : Balanced inner) (count : Nat) :
    Balanced (nested count inner) := by
  induction count with
  | zero => exact balanced
  | succ count ih => exact ih.bracketed

/-- **The nested pairs around a balanced list are pairs of partners.** -/
theorem paired_nested {inner : List Term} (balanced : Balanced inner) {count index : Nat}
    (within : index < count) :
    Paired (nested count inner) index ((nested count inner).length - 1 - index) := by
  obtain ⟨fewer, rfl⟩ := Nat.exists_eq_add_of_lt within
  have shape : nested (index + fewer + 1) inner = List.replicate index Term.opening ++
      (bracketed (nested fewer inner) ++ List.replicate index Term.closing) := by
    rw [Nat.add_assoc, nested_add, nested_eq, nested]
  have place : (nested (index + fewer + 1) inner).length - 1 - index =
      index + ((nested fewer inner).length + 1) := by
    rw [shape]
    simp only [bracketed, List.length_append, List.length_cons, List.length_replicate,
      List.length_nil]
    omega
  have paired := paired_of_balanced (balanced.nested fewer) (List.replicate index Term.opening)
    (List.replicate index Term.closing)
  rw [List.length_replicate] at paired
  rwa [place, shape]

/-- **Stripping takes nested pairs away.** -/
theorem Balanced.exists_nested {terms : List Term} (balanced : Balanced terms) :
    ∃ count, terms = Bracket.nested count (Bracket.unwrapped terms) := by
  induction balanced using Balanced.unwrapInduction with
  | bare terms balanced unit =>
      rw [unwrapped_of_not_wrapped unit]
      exact ⟨0, rfl⟩
  | pair inner balanced ih =>
      obtain ⟨count, shape⟩ := ih
      rw [unwrapped_bracketed balanced]
      exact ⟨count + 1, congrArg Bracket.bracketed shape⟩

end InfixFormula.Bracket
