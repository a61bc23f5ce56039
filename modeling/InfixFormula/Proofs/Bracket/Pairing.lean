import InfixFormula.Proofs.Bracket.Partner
import InfixFormula.Proofs.Bracket.Unclosed
import InfixFormula.Term.Validation
import Mathlib.Tactic.Push

/-!
# The pairing of brackets

Two brackets of a list belong together if the first one opens, the second one closes and the terms
strictly between them are balanced (`Belong`). This says nothing about the rest of the list, which
need not be balanced. The walk from a bracket finds the bracket that belongs to it, and finds none
only where there is none. For an opening bracket this is what staying open means
(`partner?_of_opening`). For a closing one, some bracket stays open before it exactly if one does
that only balanced terms separate from it (`unclosed_iff_last`), and the walk stops there
(`partner?_of_closing`).

So the two directions of the walk are inverse to each other, and a list is balanced exactly if each
of its brackets belongs to another one (`balanced_iff_belong`). The question for the partner of a
bracket is answered accordingly (`Validation.bracketPartner_pairs`).
-/

set_option autoImplicit false

namespace InfixFormula.Bracket

/-! ## Brackets that belong together -/

/-- An opening bracket and a later closing one with balanced terms strictly between them. -/
structure Encloses (terms : List Term) (first last : Nat) : Prop where
  opens : terms[first]? = some Term.opening
  closes : terms[last]? = some Term.closing
  ordered : first < last
  within : Balanced ((terms.take last).drop (first + 1))

/-- Of the brackets at two places, one encloses balanced terms together with the other. -/
def Belong (terms : List Term) (index other : Nat) : Prop :=
  Encloses terms index other ∨ Encloses terms other index

/-- A place of a list holds a bracket. -/
def BracketAt (terms : List Term) (index : Nat) : Prop :=
  terms[index]? = some Term.opening ∨ terms[index]? = some Term.closing

theorem Belong.bracketAt {terms : List Term} {index other : Nat}
    (belong : Belong terms index other) : BracketAt terms index := by
  rcases belong with pair | pair
  · exact .inl pair.opens
  · exact .inr pair.closes

/-- The places of a pair of brackets around balanced terms. -/
theorem encloses_iff {terms : List Term} {first last : Nat} :
    Encloses terms first last ↔
      ∃ before inner after, terms = before ++ (bracketed inner ++ after) ∧ Balanced inner ∧
        first = before.length ∧ last = before.length + (inner.length + 1) := by
  constructor
  · rintro ⟨opens, closes, ordered, within⟩
    obtain ⟨front, after, rfl, rfl⟩ := exists_split_of_place closes
    rw [List.getElem?_append_left ordered] at opens
    obtain ⟨before, inner, rfl, rfl⟩ := exists_split_of_place opens
    rw [List.take_left, List.drop_length_add_append, List.drop_one, List.tail_cons] at within
    refine ⟨before, inner, after, ?_, within, rfl, ?_⟩
    · rw [bracketed_append, List.append_assoc, List.cons_append]
    · rw [List.length_append, List.length_cons]
  · rintro ⟨before, inner, after, rfl, balanced, rfl, rfl⟩
    have paired := paired_of_balanced balanced before after
    refine ⟨paired.opens, paired.closes, by omega, ?_⟩
    rwa [List.take_length_add_append, bracketed_append, List.take_succ_cons, List.take_left,
      List.drop_length_add_append, List.drop_one, List.tail_cons]

theorem Encloses.paired {terms : List Term} {first last : Nat}
    (pair : Encloses terms first last) : Paired terms first last := by
  obtain ⟨before, inner, after, rfl, balanced, rfl, rfl⟩ := encloses_iff.mp pair
  exact paired_of_balanced balanced before after

/-- An opening bracket belongs to no bracket before it. -/
theorem belong_iff_of_opening {terms : List Term} {first last : Nat}
    (opens : terms[first]? = some Term.opening) :
    Belong terms first last ↔ Encloses terms first last := by
  refine or_iff_left fun pair => ?_
  exact absurd (Option.some.inj (opens.symm.trans pair.closes)) (by decide)

/-- A closing bracket belongs to no bracket behind it. -/
theorem belong_iff_of_closing {terms : List Term} {first last : Nat}
    (closes : terms[last]? = some Term.closing) :
    Belong terms last first ↔ Encloses terms first last := by
  refine or_iff_right fun pair => ?_
  exact absurd (Option.some.inj (closes.symm.trans pair.opens)) (by decide)

/-! ## The walk to the right -/

/-- From an opening bracket, the walk finds the closing bracket that belongs to it. -/
theorem partner?_of_opening {terms : List Term} {first : Nat}
    (opens : terms[first]? = some Term.opening) {last : Nat} :
    partner? terms first = some last ↔ Encloses terms first last := by
  refine ⟨fun found => ?_, fun pair => pair.paired.forward⟩
  obtain ⟨before, after, rfl, rfl⟩ := exists_split_of_place opens
  have closed : ¬ ∀ inner rest, after = inner ++ Term.closing :: rest → ¬ Balanced inner := by
    rw [← partner?_eq_none_iff before, found]
    exact Option.some_ne_none last
  push Not at closed
  obtain ⟨inner, rest, rfl, balanced⟩ := closed
  rw [← bracketed_append] at found ⊢
  cases found.symm.trans (paired_of_balanced balanced before rest).forward
  exact encloses_iff.mpr ⟨before, inner, rest, rfl, balanced, rfl, rfl⟩

/-! ## The walk to the left -/

/-- **A bracket stays open in a list exactly if one does with balanced terms behind it**, which is
the last one that stays open. -/
theorem unclosed_iff_last {terms : List Term} :
    Unclosed terms ↔ ∃ before inner, terms = before ++ Term.opening :: inner ∧ Balanced inner := by
  constructor
  · induction terms with
    | nil =>
        rintro ⟨before, after, split, _⟩
        exact absurd (List.append_eq_nil_iff.mp split.symm).2 (List.cons_ne_nil _ _)
    | cons term rest ih =>
        intro unclosed
        by_cases later : Unclosed rest
        · obtain ⟨before, inner, rfl, balanced⟩ := ih later
          exact ⟨term :: before, inner, rfl, balanced⟩
        have ends := (unclosed_or_ends rest).resolve_left later
        obtain ⟨before, after, split, positive⟩ := unclosed_iff.mp unclosed
        cases before with
        | nil =>
            have whole := ends [] rest rfl
            rw [← List.nil_append after, ← split, depth_cons] at positive
            rcases weight_cases term with rfl | rfl | neutral
            · rw [weight_opening] at positive
              exact ⟨[], rest, rfl, balanced_iff_unclosed.mpr ⟨by omega, later⟩⟩
            · rw [weight_closing] at positive
              omega
            · omega
        | cons head before =>
            have ended := ends before after (List.cons.inj split).2
            omega
  · rintro ⟨before, inner, rfl, balanced⟩
    refine unclosed_iff.mpr ⟨before, Term.opening :: inner, rfl, ?_⟩
    rw [depth_cons, balanced.closed]
    decide

/-- A closing bracket has a partner only if a bracket stays open before it. -/
theorem unclosed_of_partner? {before after : List Term} {first : Nat}
    (found : partner? (before ++ Term.closing :: after) before.length = some first) :
    Unclosed before := by
  have upTo : ((before ++ Term.closing :: after).take (before.length + 1)).reverse =
      Term.closing :: before.reverse := by
    rw [List.take_length_add_append, List.take_succ_cons, List.take_zero, List.reverse_append]
    rfl
  rw [partner?, getElem?_place, if_pos rfl, upTo] at found
  have returns : returnIndex? 0 (Term.closing :: before.reverse) ≠ none := by
    intro none
    rw [none] at found
    cases found
  rw [ne_eq, returnIndex?_eq_none_iff] at returns
  push Not at returns
  obtain ⟨start, rest, split, started, zero⟩ := returns
  cases start with
  | nil => exact absurd rfl started
  | cons head start =>
      obtain ⟨rfl, cut⟩ := List.cons.inj split
      refine unclosed_iff.mpr ⟨rest.reverse, start.reverse, List.reverse_eq_append_iff.mp cut, ?_⟩
      rw [depth_cons, weight_closing] at zero
      rw [depth_reverse]
      omega

/-- Before a closing bracket that has to close something, the last bracket that stays open belongs
to it. -/
theorem exists_encloses_of_unclosed {before : List Term} (unclosed : Unclosed before)
    (after : List Term) :
    ∃ first, Encloses (before ++ Term.closing :: after) first before.length := by
  obtain ⟨earlier, inner, rfl, balanced⟩ := unclosed_iff_last.mp unclosed
  refine ⟨earlier.length, encloses_iff.mpr ⟨earlier, inner, after, ?_, balanced, rfl, ?_⟩⟩
  · rw [bracketed_append, List.append_assoc, List.cons_append]
  · rw [List.length_append, List.length_cons]

/-- From a closing bracket, the walk finds the opening bracket that belongs to it. -/
theorem partner?_of_closing {terms : List Term} {last : Nat}
    (closes : terms[last]? = some Term.closing) {first : Nat} :
    partner? terms last = some first ↔ Encloses terms first last := by
  refine ⟨fun found => ?_, fun pair => pair.paired.backward⟩
  obtain ⟨before, after, rfl, rfl⟩ := exists_split_of_place closes
  obtain ⟨place, pair⟩ := exists_encloses_of_unclosed (unclosed_of_partner? found) after
  cases found.symm.trans pair.paired.backward
  exact pair

/-- **From a bracket, the walk finds the bracket that belongs to it**, in either direction. -/
theorem partner?_eq_some_iff {terms : List Term} {index other : Nat}
    (bracket : BracketAt terms index) :
    partner? terms index = some other ↔ Belong terms index other := by
  rcases bracket with opens | closes
  · rw [partner?_of_opening opens, belong_iff_of_opening opens]
  · rw [partner?_of_closing closes, belong_iff_of_closing closes]

/-! ## Pairs and balance -/

/-- A list is balanced if each of its brackets belongs to another one: the first bracket that closes
too much belongs to none. -/
theorem balanced_of_belong {terms : List Term}
    (all : ∀ index, BracketAt terms index → ∃ other, Belong terms index other) :
    Balanced terms := by
  have closed : ¬ Unclosed terms := by
    rintro ⟨before, after, rfl, stays⟩
    have opens := getElem?_place before Term.opening after
    obtain ⟨other, belong⟩ := all before.length (.inl opens)
    rw [← partner?_eq_some_iff (.inl opens), (partner?_eq_none_iff before after).mpr stays]
      at belong
    cases belong
  have started : 0 ≤ depth terms := by
    refine Int.not_lt.mp fun negative => ?_
    obtain ⟨inner, rest, rfl, closes⟩ :=
      exists_closing_of_neg terms 0 (Int.le_refl 0) (by rwa [Int.zero_add])
    have bracket := getElem?_place inner Term.closing rest
    obtain ⟨other, belong⟩ := all inner.length (.inr bracket)
    have found := (partner?_eq_some_iff (.inr bracket)).mpr belong
    exact (balanced_iff_unclosed.mp (closes_zero_iff.mp closes)).2 (unclosed_of_partner? found)
  have ended : ¬ 0 < depth terms := fun positive =>
    closed (unclosed_iff.mpr ⟨[], terms, rfl, positive⟩)
  exact balanced_iff_unclosed.mpr ⟨by omega, closed⟩

/-- **A list is balanced exactly if each of its brackets belongs to another one.** -/
theorem balanced_iff_belong {terms : List Term} :
    Balanced terms ↔ ∀ index, BracketAt terms index → ∃ other, Belong terms index other := by
  refine ⟨fun balanced index bracket => ?_, balanced_of_belong⟩
  rcases bracket with opens | closes
  · obtain ⟨before, after, rfl, rfl⟩ := exists_split_of_place opens
    have paired : partner? (before ++ Term.opening :: after) before.length ≠ none := fun none =>
      (balanced_iff_unclosed.mp balanced).2
        ⟨before, after, rfl, (partner?_eq_none_iff before after).mp none⟩
    obtain ⟨other, found⟩ := Option.ne_none_iff_exists'.mp paired
    exact ⟨other, (partner?_eq_some_iff (.inl opens)).mp found⟩
  · obtain ⟨before, after, rfl, rfl⟩ := exists_split_of_place closes
    have nonneg := balanced.nonneg (before ++ [Term.closing]) after (by
      rw [List.append_assoc, List.singleton_append])
    rw [depth_append, depth_cons, depth_nil, weight_closing] at nonneg
    have unclosed : Unclosed before := unclosed_iff.mpr ⟨[], before, rfl, by omega⟩
    obtain ⟨first, pair⟩ := exists_encloses_of_unclosed unclosed after
    exact ⟨first, .inr pair⟩

end InfixFormula.Bracket

namespace InfixFormula.Validation

open InfixFormula.Bracket

/-- The question for a partner is answered at the brackets, and nowhere else. -/
theorem bracketPartner_eq_ok_iff {terms : List Term} {index : Nat} {result : Option Nat} :
    bracketPartner terms index = .ok result ↔
      BracketAt terms index ∧ partner? terms index = result := by
  have notNegative : ¬ (index : Int) < 0 := by omega
  rw [bracketPartner, if_neg notNegative, Int.toNat_natCast, BracketAt]
  cases terms[index]? with
  | none =>
      refine iff_of_false (fun answered => ?_) (by simp)
      cases answered
  | some term =>
      by_cases bracket : term = Term.opening ∨ term = Term.closing
      · simp [bracket]
      · simp [bracket]

/-- Asking for the partner of one of two partners is no fault. -/
theorem bracketPartner_of_paired {terms : List Term} {first last : Nat}
    (paired : Paired terms first last) :
    bracketPartner terms first = .ok (some last) ∧
      bracketPartner terms last = .ok (some first) := by
  exact ⟨bracketPartner_eq_ok_iff.mpr ⟨.inl paired.opens, paired.forward⟩,
    bracketPartner_eq_ok_iff.mpr ⟨.inr paired.closes, paired.backward⟩⟩

/-- **The partners are the brackets that belong together**, in every list. Where a bracket has a
partner the two are an opening and a later closing bracket with balanced terms between them, and
each is the partner of the other. A bracket has none only if it belongs to no place of the list. The
list is balanced exactly if all of its brackets have partners. -/
theorem bracketPartner_pairs (terms : List Term) :
    (∀ index : Nat, BracketAt terms index → ∃ result, bracketPartner terms index = .ok result) ∧
    (∀ index other : Nat, bracketPartner terms index = .ok (some other) ↔
      Belong terms index other) ∧
    (∀ index other : Nat, bracketPartner terms index = .ok (some other) →
      bracketPartner terms other = .ok (some index)) ∧
    (∀ index : Nat, bracketPartner terms index = .ok none ↔
      BracketAt terms index ∧ ∀ other, ¬ Belong terms index other) ∧
    (isBalanced terms = true ↔ ∀ index : Nat, BracketAt terms index →
      ∃ other, bracketPartner terms index = .ok (some other)) := by
  have found (index other : Nat) : bracketPartner terms index = .ok (some other) ↔
      Belong terms index other := by
    rw [bracketPartner_eq_ok_iff]
    constructor
    · rintro ⟨bracket, partner⟩
      exact (partner?_eq_some_iff bracket).mp partner
    · intro belong
      exact ⟨belong.bracketAt, (partner?_eq_some_iff belong.bracketAt).mpr belong⟩
  refine ⟨fun index bracket => ?_, found, fun index other => ?_, fun index => ?_, ?_⟩
  · exact ⟨_, bracketPartner_eq_ok_iff.mpr ⟨bracket, rfl⟩⟩
  · rw [found, found]
    exact Or.symm
  · rw [bracketPartner_eq_ok_iff, and_congr_right_iff]
    intro bracket
    simp only [Option.eq_none_iff_forall_ne_some, ne_eq, partner?_eq_some_iff bracket]
  · simp only [isBalanced_iff, balanced_iff_belong, found]

end InfixFormula.Validation
