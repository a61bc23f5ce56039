import InfixFormula.Term.Bracket

/-!
# The depth of brackets

The depth of a list of terms is the number of brackets that it opens and does not close. A list
is balanced when its depth is zero and no prefix of it has a negative depth; this is what the
counter of the validation decides (`isBalanced_iff`).

Balance is what every later statement on brackets stands on. It is kept by concatenation
(`Balanced.append`) and by a pair of brackets around the list (`Balanced.bracketed`), and it
passes to both sides of a cut at depth zero (`Balanced.sides`). Between a pair of brackets around
a balanced list the depth is positive (`Balanced.depth_pos`), so such a pair cannot be cut apart.
-/

set_option autoImplicit false

namespace InfixFormula.Bracket

/-! ## Weights -/

@[simp] theorem weight_opening : weight Term.opening = 1 := rfl

@[simp] theorem weight_closing : weight Term.closing = -1 := rfl

/-- A term is one of the two brackets or weighs nothing. -/
theorem weight_cases (term : Term) :
    term = Term.opening ∨ term = Term.closing ∨ weight term = 0 := by
  by_cases opens : term = Term.opening
  · exact .inl opens
  · by_cases closes : term = Term.closing
    · exact .inr (.inl closes)
    · exact .inr (.inr (by simp only [weight, opens, closes, if_false]))

theorem weight_eq_zero {term : Term} (noOpening : term ≠ Term.opening)
    (noClosing : term ≠ Term.closing) : weight term = 0 := by
  simp only [weight, noOpening, noClosing, if_false]

theorem ne_opening_of_weight {term : Term} (neutral : weight term = 0) :
    term ≠ Term.opening := by
  rintro rfl
  cases neutral

theorem ne_closing_of_weight {term : Term} (neutral : weight term = 0) :
    term ≠ Term.closing := by
  rintro rfl
  cases neutral

/-! ## Depth -/

/-- The number of brackets that the terms open and do not close. -/
def depth : List Term → Int
  | [] => 0
  | term :: rest => weight term + depth rest

@[simp] theorem depth_nil : depth [] = 0 := rfl

@[simp] theorem depth_cons (term : Term) (rest : List Term) :
    depth (term :: rest) = weight term + depth rest := rfl

@[simp] theorem depth_append (left right : List Term) :
    depth (left ++ right) = depth left + depth right := by
  induction left with
  | nil => simp only [List.nil_append, depth_nil, Int.zero_add]
  | cons term rest ih => simp only [List.cons_append, depth_cons, ih, Int.add_assoc]

@[simp] theorem depth_reverse (terms : List Term) : depth terms.reverse = depth terms := by
  induction terms with
  | nil => rfl
  | cons term rest ih =>
      simp only [List.reverse_cons, depth_append, depth_cons, depth_nil, ih]
      omega

/-! ## Places -/

/-- The place of a term is the number of terms before it. -/
theorem getElem?_place (before : List Term) (term : Term) (after : List Term) :
    (before ++ term :: after)[before.length]? = some term := by
  rw [List.getElem?_append_right (Nat.le_refl _), Nat.sub_self, List.getElem?_cons_zero]

/-- A place in a list cuts it in front of and behind its term. -/
theorem exists_split_of_place {terms : List Term} {index : Nat} {term : Term}
    (found : terms[index]? = some term) :
    ∃ before after, terms = before ++ term :: after ∧ index = before.length := by
  obtain ⟨inside, rfl⟩ := List.getElem?_eq_some_iff.mp found
  refine ⟨terms.take index, terms.drop (index + 1), ?_, ?_⟩
  · rw [← List.drop_eq_getElem_cons inside, List.take_append_drop]
  · rw [List.length_take, Nat.min_eq_left (Nat.le_of_lt inside)]

/-! ## Balance -/

/-- A list of terms that closes what it opens and nothing else. -/
structure Balanced (terms : List Term) : Prop where
  closed : depth terms = 0
  nonneg : ∀ before after, terms = before ++ after → 0 ≤ depth before

/-- A list of terms that closes a sum of open brackets and what it opens itself, and nothing
else. -/
def Closes (sum : Int) (terms : List Term) : Prop :=
  sum + depth terms = 0 ∧ ∀ before after, terms = before ++ after → 0 ≤ sum + depth before

/-- A property of all prefixes of a list that is not empty. -/
theorem forall_prefix_cons {motive : List Term → Prop} {term : Term} {rest : List Term} :
    (∀ before after, term :: rest = before ++ after → motive before) ↔
      motive [] ∧ ∀ before after, rest = before ++ after → motive (term :: before) := by
  constructor
  · intro all
    exact ⟨all [] (term :: rest) rfl, fun before after cut => all _ after (by rw [cut]; rfl)⟩
  · rintro ⟨empty, later⟩ before after cut
    cases before with
    | nil => exact empty
    | cons first before =>
        obtain ⟨rfl, rest⟩ := List.cons.inj cut
        exact later before after rest

theorem closes_nil {sum : Int} : Closes sum [] ↔ sum = 0 := by
  constructor
  · rintro ⟨closed, _⟩
    rwa [depth_nil, Int.add_zero] at closed
  · rintro rfl
    refine ⟨rfl, fun before after cut => ?_⟩
    rw [(List.append_eq_nil_iff.mp cut.symm).1]
    exact Int.le_refl _

theorem closes_cons {sum : Int} {term : Term} {rest : List Term} :
    Closes sum (term :: rest) ↔ 0 ≤ sum ∧ Closes (sum + weight term) rest := by
  simp only [Closes, forall_prefix_cons (motive := fun before => 0 ≤ sum + depth before),
    depth_nil, depth_cons, Int.add_zero, Int.add_assoc]
  constructor
  · rintro ⟨closed, nonneg, later⟩
    exact ⟨nonneg, closed, later⟩
  · rintro ⟨nonneg, closed, later⟩
    exact ⟨closed, nonneg, later⟩

theorem Closes.nonneg {sum : Int} {terms : List Term} (closes : Closes sum terms) : 0 ≤ sum := by
  simpa only [depth_nil, Int.add_zero] using closes.2 [] terms rfl

/-- The counter accepts a list after some open brackets when the list closes these and what it
opens itself, and never more than is open. -/
theorem closesAll_iff (terms : List Term) :
    ∀ unclosed : Nat, closesAll unclosed terms = true ↔ Closes unclosed terms := by
  induction terms with
  | nil =>
      intro unclosed
      simp only [closesAll, beq_iff_eq, closes_nil]
      omega
  | cons term rest ih =>
      intro unclosed
      have started : 0 ≤ (unclosed : Int) := Int.natCast_nonneg unclosed
      simp only [closesAll, closes_cons, started, true_and]
      rcases weight_cases term with rfl | rfl | neutral
      · rw [if_pos rfl, ih, weight_opening, Int.natCast_succ]
      · rw [if_neg (by decide), if_pos rfl, weight_closing]
        cases unclosed with
        | zero =>
            refine ⟨nofun, fun closes => ?_⟩
            have := closes.nonneg
            omega
        | succ unclosed =>
            have closedOne : ((unclosed + 1 : Nat) : Int) + -1 = unclosed := by omega
            rw [ih, closedOne]
      · rw [if_neg (ne_opening_of_weight neutral), if_neg (ne_closing_of_weight neutral), ih,
          neutral, Int.add_zero]

/-- A list that is balanced closes nothing but what it opens. -/
theorem closes_zero_iff {terms : List Term} : Closes 0 terms ↔ Balanced terms := by
  simp only [Closes, Int.zero_add]
  exact ⟨fun ⟨closed, nonneg⟩ => ⟨closed, nonneg⟩, fun balanced => ⟨balanced.1, balanced.2⟩⟩

/-- **The counter of the validation decides balance.** -/
theorem isBalanced_iff (terms : List Term) : isBalanced terms = true ↔ Balanced terms := by
  rw [isBalanced, closesAll_iff, Int.natCast_zero, closes_zero_iff]

instance (terms : List Term) : Decidable (Balanced terms) :=
  decidable_of_iff _ (isBalanced_iff terms)

namespace Balanced

variable {left right inner before after : List Term}

theorem nil : Balanced [] :=
  (isBalanced_iff []).mp rfl

/-- Concatenation keeps balance. -/
theorem append (first : Balanced left) (second : Balanced right) : Balanced (left ++ right) where
  closed := by rw [depth_append, first.closed, second.closed, Int.add_zero]
  nonneg := by
    intro before after cut
    rcases List.append_eq_append_iff.mp cut with ⟨more, rfl, rest⟩ | ⟨more, rest, _⟩
    · rw [depth_append, first.closed, Int.zero_add]
      exact second.nonneg more after rest
    · exact first.nonneg before more rest

/-- A term that is no bracket keeps balance. -/
theorem single {term : Term} (neutral : weight term = 0) : Balanced [term] where
  closed := by rw [depth_cons, neutral, depth_nil, Int.add_zero]
  nonneg := by
    rw [forall_prefix_cons (motive := fun before => 0 ≤ depth before)]
    refine ⟨Int.le_refl _, fun before after cut => Int.le_of_eq ?_⟩
    rw [(List.append_eq_nil_iff.mp cut.symm).1, depth_cons, neutral, depth_nil, Int.add_zero]

/-- What follows a balanced start of a balanced list is balanced, and so is the start if its
depth is zero. -/
theorem sides (balanced : Balanced (left ++ right)) (cut : depth left = 0) :
    Balanced left ∧ Balanced right := by
  have closed := balanced.closed
  rw [depth_append, cut, Int.zero_add] at closed
  refine ⟨⟨cut, fun before after split => ?_⟩, ⟨closed, fun before after split => ?_⟩⟩
  · exact balanced.nonneg before (after ++ right) (by rw [split, List.append_assoc])
  · have nonneg := balanced.nonneg (left ++ before) after (by rw [split, List.append_assoc])
    rwa [depth_append, cut, Int.zero_add] at nonneg

/-- What follows a first term that is no bracket is balanced. -/
theorem tail {term : Term} {rest : List Term} (balanced : Balanced (term :: rest))
    (neutral : weight term = 0) : Balanced rest := by
  rw [← List.singleton_append] at balanced
  exact (balanced.sides (Balanced.single neutral).closed).2

/-- Both sides of a term that stands outside every bracket are balanced. -/
theorem operands {term : Term} (balanced : Balanced (before ++ term :: after))
    (neutral : weight term = 0) (outside : depth before = 0) :
    Balanced before ∧ Balanced after := by
  obtain ⟨first, second⟩ := balanced.sides outside
  exact ⟨first, second.tail neutral⟩

end Balanced

/-! ## A pair of brackets -/

/-- The terms between a pair of brackets. -/
def bracketed (terms : List Term) : List Term :=
  Term.opening :: (terms ++ [Term.closing])

theorem bracketed_append (inner after : List Term) :
    bracketed inner ++ after = Term.opening :: (inner ++ Term.closing :: after) := by
  rw [bracketed, List.cons_append, List.append_assoc, List.singleton_append]

@[simp] theorem interior_bracketed (inner : List Term) : interior (bracketed inner) = inner := by
  rw [interior, bracketed, List.tail_cons, List.dropLast_concat]

/-- **The depth is positive between a pair of brackets around a balanced list.** -/
theorem Balanced.depth_pos {inner before after : List Term} (balanced : Balanced inner)
    (cut : bracketed inner = before ++ after) (started : before ≠ []) (unfinished : after ≠ []) :
    0 < depth before := by
  cases before with
  | nil => exact absurd rfl started
  | cons first before =>
      obtain ⟨rfl, rest⟩ := List.cons.inj cut
      have shorter : ∃ more, inner = before ++ more := by
        rcases List.append_eq_append_iff.mp rest with ⟨more, rfl, last⟩ | ⟨more, split, _⟩
        · cases more with
          | nil => exact ⟨[], by simp only [List.append_nil]⟩
          | cons closing more =>
              have ends := (List.cons.inj last).2
              exact absurd (List.append_eq_nil_iff.mp ends.symm).2 unfinished
        · exact ⟨more, split⟩
      obtain ⟨more, split⟩ := shorter
      have nonneg := balanced.nonneg before more split
      rw [depth_cons, weight_opening]
      omega

/-- A pair of brackets around a list keeps balance. -/
theorem Balanced.bracketed {inner : List Term} (balanced : Balanced inner) :
    Balanced (bracketed inner) where
  closed := by
    rw [Bracket.bracketed, depth_cons, depth_append, balanced.closed]
    rfl
  nonneg := by
    intro before after cut
    by_cases started : before = []
    · refine Int.le_of_eq ?_
      rw [started, depth_nil]
    by_cases unfinished : after = []
    · rw [unfinished, List.append_nil] at cut
      rw [← cut, Bracket.bracketed, depth_cons, depth_append, balanced.closed]
      exact Int.le_refl _
    · exact Int.le_of_lt (balanced.depth_pos cut started unfinished)

end InfixFormula.Bracket
