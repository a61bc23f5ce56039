import InfixFormula.Proofs.Bracket.Outside
import Mathlib.Order.Bounds.Basic

/-!
# The two walks over a list

Terms outside every bracket are looked for by two walks. The one from left to right gives all places
of the wanted terms. The one from right to left keeps a single place for each wanted term, the first
that it comes to. In a balanced list the second walk is determined by the first: what it keeps for a
term is the greatest of the places of this term (`lookup_lastOutside_iff_isGreatest`), so that it
keeps a place for every term that has one.

It also matters in which order the places are kept. Since the walk goes to the left, each place is
smaller than those that were kept before it, and since a term that was kept is passed over from then
on, no term is kept twice. Both are an invariant of the walk (`Kept`), which its steps keep whatever
the list is.
-/

set_option autoImplicit false

namespace InfixFormula.Bracket

/-! ## The order of what is kept -/

/-- What the walk from right to left has kept when a number of terms is still in front of it. -/
structure Kept (seen : List (Term × Nat)) (ahead : Nat) : Prop where
  passed : ∀ entry ∈ seen, ahead ≤ entry.2
  decreasing : (seen.map Prod.snd).Pairwise (· > ·)
  distinct : (seen.map Prod.fst).Nodup

namespace Kept

variable {seen : List (Term × Nat)} {ahead : Nat}

/-- A walk starts with nothing kept. -/
theorem start (ahead : Nat) : Kept [] ahead where
  passed := fun _ member => absurd member List.not_mem_nil
  decreasing := .nil
  distinct := List.nodup_nil

/-- The walk passes over a term. -/
theorem pass (kept : Kept seen (ahead + 1)) : Kept seen ahead where
  passed := fun entry member => Nat.le_of_succ_le (kept.passed entry member)
  decreasing := kept.decreasing
  distinct := kept.distinct

/-- The walk keeps the place of a term that it has not kept before. -/
theorem keep {term : Term} (kept : Kept seen (ahead + 1)) (fresh : term ∉ seen.map Prod.fst) :
    Kept (seen ++ [(term, ahead)]) ahead where
  passed := by
    intro entry member
    rcases List.mem_append.mp member with old | new
    · exact kept.pass.passed entry old
    · rw [List.mem_singleton.mp new]
  decreasing := by
    rw [List.map_append, List.pairwise_append]
    refine ⟨kept.decreasing, List.pairwise_singleton _ _, fun place old last new => ?_⟩
    obtain ⟨entry, member, rfl⟩ := List.mem_map.mp old
    rw [List.mem_singleton.mp new]
    exact kept.passed entry member
  distinct := by
    rw [List.map_append, List.nodup_append]
    refine ⟨kept.distinct, List.pairwise_singleton _ _, fun other old last new => ?_⟩
    rw [List.mem_singleton.mp new]
    rintro rfl
    exact fresh old

/-- **A walk keeps the places in decreasing order, and no term twice.** -/
theorem sightings {wanted : Term → Bool} (terms : List Term) :
    ∀ (sum : Int) (seen : List (Term × Nat)), Kept seen terms.length →
      Kept (sightings wanted sum seen terms) 0 := by
  induction terms with
  | nil => exact fun _ _ kept => kept
  | cons next before ih =>
      intro sum seen kept
      rw [Bracket.sightings]
      split
      next taken =>
        simp only [Bool.and_eq_true, Bool.not_eq_true', ← Bool.not_eq_true, List.contains_iff_mem]
          at taken
        exact ih _ _ (kept.keep taken.2)
      next => exact ih _ _ kept.pass

end Kept

theorem kept_lastOutside (wanted : Term → Bool) (terms : List Term) :
    Kept (lastOutside wanted terms) 0 :=
  Kept.sightings _ 0 [] (Kept.start _)

/-! ## The greatest place -/

/-- The greatest place of a term outside every bracket is one behind which the term does not stand
outside every bracket any more. -/
theorem isGreatest_outside_iff {wanted : Term → Bool} {term : Term} (isWanted : wanted term = true)
    (neutral : weight term = 0) {terms : List Term} {index : Nat} :
    IsGreatest {place | (place, term) ∈ outside wanted terms} index ↔
      ∃ before after, terms = before ++ term :: after ∧ before.length = index ∧
        depth before = 0 ∧ ¬ Outside term after := by
  constructor
  · rintro ⟨found, greatest⟩
    obtain ⟨_, before, after, rfl, rfl, closed⟩ := (mem_outside neutral).mp found
    refine ⟨before, after, rfl, rfl, closed, ?_⟩
    rintro ⟨between, rest, rfl, within⟩
    have later : ((before ++ term :: between).length, term) ∈
        outside wanted (before ++ term :: (between ++ term :: rest)) := by
      refine (mem_outside neutral).mpr ⟨isWanted, before ++ term :: between, rest, ?_, rfl, ?_⟩
      · rw [List.append_assoc, List.cons_append]
      · rw [depth_append, depth_cons, closed, neutral, within]
        rfl
    have bound := greatest later
    rw [List.length_append, List.length_cons] at bound
    omega
  · rintro ⟨before, after, rfl, rfl, closed, last⟩
    refine ⟨(mem_outside neutral).mpr ⟨isWanted, before, after, rfl, rfl, closed⟩, ?_⟩
    intro place found
    obtain ⟨_, start, rest, split, rfl, zero⟩ := (mem_outside neutral).mp found
    rcases List.append_eq_append_iff.mp split with ⟨more, rfl, behind⟩ | ⟨more, rfl, _⟩
    · cases more with
      | nil => rw [List.append_nil]
      | cons head more =>
          obtain ⟨rfl, inside⟩ := List.cons.inj behind
          rw [depth_append, depth_cons, closed, neutral, Int.zero_add, Int.zero_add] at zero
          exact absurd ⟨more, rest, inside, zero⟩ last
    · rw [List.length_append]
      exact Nat.le_add_right _ _

/-- **For each term, the walk from right to left keeps the greatest of the places that the walk from
left to right finds**, in a list that closes all it opens and if no bracket is wanted. -/
theorem lookup_lastOutside_iff_isGreatest {wanted : Term → Bool}
    (neutral : ∀ term, wanted term = true → weight term = 0) {terms : List Term}
    (closed : depth terms = 0) {term : Term} {index : Nat} :
    (lastOutside wanted terms).lookup term = some index ↔
      IsGreatest {place | (place, term) ∈ outside wanted terms} index := by
  by_cases isWanted : wanted term = true
  · rw [lookup_lastOutside_eq_some_iff isWanted (neutral term isWanted) closed,
      isGreatest_outside_iff isWanted (neutral term isWanted)]
  · refine iff_of_false (fun found => isWanted ?_) (fun greatest => isWanted ?_)
    · obtain ⟨_, _, split, _⟩ := List.lookup_eq_some_iff.mp found
      have kept : (term, index) ∈ lastOutside wanted terms := by
        rw [split]
        exact List.mem_append_right _ List.mem_cons_self
      exact wanted_of_mem_lastOutside kept
    · exact ((mem_outsideFrom _ _ _).mp greatest.1).1

/-- Every term that the walk from left to right finds is kept by the walk from right to left. -/
theorem mem_keys_of_mem_outside {wanted : Term → Bool}
    (neutral : ∀ term, wanted term = true → weight term = 0) {terms : List Term}
    (closed : depth terms = 0) {term : Term} {place : Nat}
    (found : (place, term) ∈ outside wanted terms) :
    term ∈ (lastOutside wanted terms).map Prod.fst := by
  have isWanted := ((mem_outsideFrom _ _ _).mp found).1
  obtain ⟨_, before, after, split, _, zero⟩ := (mem_outside (neutral term isWanted)).mp found
  have seen : (lastOutside wanted terms).lookup term ≠ none := fun none =>
    (lookup_lastOutside_eq_none_iff isWanted (neutral term isWanted) closed).mp none
      ⟨before, after, split, zero⟩
  rw [← List.contains_iff_mem, contains_keys, Option.isSome_iff_ne_none]
  exact seen

/-! ## Operators -/

/-- **The two walks agree on the operators of a balanced list**, if no bracket is an operator. What
the walk from right to left keeps for an operator is the greatest of its places that the walk from
left to right finds, every operator that has such a place is kept, none is kept twice, and the kept
places are in strictly decreasing order. -/
theorem lastOutside_of_outside {symbols : Symbols} {terms : List Term} (balanced : Balanced terms)
    (noOpening : Term.opening ∉ symbols.operators)
    (noClosing : Term.closing ∉ symbols.operators) :
    (∀ operator index, (lastOutside symbols.isOperator terms).lookup operator = some index ↔
      IsGreatest {place | (place, operator) ∈ outside symbols.isOperator terms} index) ∧
    (∀ place operator, (place, operator) ∈ outside symbols.isOperator terms →
      operator ∈ (lastOutside symbols.isOperator terms).map Prod.fst) ∧
    ((lastOutside symbols.isOperator terms).map Prod.fst).Nodup ∧
    ((lastOutside symbols.isOperator terms).map Prod.snd).Pairwise (· > ·) := by
  have neutral (term : Term) (named : symbols.isOperator term = true) : weight term = 0 := by
    have member : term ∈ symbols.operators := List.contains_iff_mem.mp named
    refine weight_eq_zero ?_ ?_
    · rintro rfl
      exact noOpening member
    · rintro rfl
      exact noClosing member
  have kept := kept_lastOutside symbols.isOperator terms
  refine ⟨fun operator index => ?_, fun place operator found => ?_, kept.distinct, kept.decreasing⟩
  · exact lookup_lastOutside_iff_isGreatest neutral balanced.closed
  · exact mem_keys_of_mem_outside neutral balanced.closed found

/-- The second minus sign is kept, the times sign with a smaller place behind it, and the plus sign
in brackets is found by neither walk. -/
theorem lastOutside_of_outside_difference :
    Balanced ["2", "*", "(", "5", "+", "6", ")", "-", "9", "-", "x"] ∧
      Term.opening ∉ ({} : Symbols).operators ∧ Term.closing ∉ ({} : Symbols).operators ∧
      lastOutside ({} : Symbols).isOperator
        ["2", "*", "(", "5", "+", "6", ")", "-", "9", "-", "x"] = [("-", 9), ("*", 1)] ∧
      IsGreatest {place | (place, "-") ∈ outside ({} : Symbols).isOperator
        ["2", "*", "(", "5", "+", "6", ")", "-", "9", "-", "x"]} 9 ∧
      ∀ place, (place, "+") ∉ outside ({} : Symbols).isOperator
        ["2", "*", "(", "5", "+", "6", ")", "-", "9", "-", "x"] := by
  have balanced : Balanced ["2", "*", "(", "5", "+", "6", ")", "-", "9", "-", "x"] := by decide
  have noOpening : Term.opening ∉ ({} : Symbols).operators := by decide
  have noClosing : Term.closing ∉ ({} : Symbols).operators := by decide
  have agree := lastOutside_of_outside balanced noOpening noClosing
  refine ⟨balanced, noOpening, noClosing, rfl, (agree.1 "-" 9).mp rfl, fun place found => ?_⟩
  exact absurd (agree.2.1 place "+" found) (by decide)

end InfixFormula.Bracket
