import InfixFormula.Proofs.Bracket.Unclosed
import InfixFormula.Proofs.Formula.Faults
import InfixFormula.Proofs.Formula.Parts
import InfixFormula.Proofs.Term.Products

/-!
# Missing operators

The builder finds an operator missing in a list that it can neither strip nor read as a call nor
split (`Builder.Unsplit`), and a fault of this kind always points at such a part of the list.

Where no product is left out, there is no such list, unless it has a separator (`not_unsplit`). The
list has at least two terms, and it starts with a factor: a numeral or a variable, a pair of
brackets, or a call. The factor is not the whole list, since then the list would be stripped or a
call. So there is a term behind it. This term starts no factor, for then a product would be left
out, and it closes no bracket, for none is open; so it is an operator outside every bracket, and it
splits the list.

Neither a separator nor a product that is left out can come up in a part of a list
(`Complete.inherits`). Therefore the fault comes up nowhere in the building of the list, at any
level (`Complete.outcome_ne`, `Complete.called_outcome_ne`).
-/

set_option autoImplicit false

namespace InfixFormula

open InfixFormula.Bracket Lexer Validation

/-! ## Lists without products that are left out -/

/-- A list without separators in which no product is left out. -/
structure Complete (symbols : Symbols) (terms : List Term) : Prop where
  brackets : ∀ term ∈ terms, term ∈ symbols.special → term = Term.opening ∨ term = Term.closing
  full : terms.IsChain fun left right => isProduct symbols left right = false

theorem Complete.inherits {symbols : Symbols} {terms part : List Term}
    (complete : Complete symbols terms) (within : part <:+: terms) : Complete symbols part where
  brackets := fun term member => complete.brackets term (within.subset member)
  full := List.IsChain.infix complete.full within

namespace Builder

/-- What a known term is, if it is no separator. -/
inductive Ordinary (symbols : Symbols) (term : Term) : Prop
  | operator : term ∈ symbols.operators → Ordinary symbols term
  | function : symbols.isFunction term = true → Ordinary symbols term
  | opens : term = Term.opening → Ordinary symbols term
  | closes : term = Term.closing → Ordinary symbols term
  | factor : weight term = 0 → EndsFactor symbols term → StartsFactor symbols term →
      Ordinary symbols term

section Regular

variable {symbols : Symbols} (regular : symbols.Regular)
include regular

theorem ordinary_of_known {term : Term} (known : symbols.isKnown term = true)
    (bracket : term ∈ symbols.special → term = Term.opening ∨ term = Term.closing) :
    Ordinary symbols term := by
  rcases Symbols.isKnown_iff.mp known with ⟨value, read⟩ | member | member | member | special
  · have numeral : term.isNumeral = true := by
      rw [Term.isNumeral, read]
      rfl
    exact .factor (weight_of_numeral read) (.inl numeral) (.inr (.inl numeral))
  · have named := Symbols.isVariable_iff.mpr member
    obtain ⟨_, _, noOpening, noClosing, _⟩ := regular.variables_apart term member
    exact .factor (weight_eq_zero noOpening noClosing) (.inr (.inl named))
      (.inr (.inr (.inl named)))
  · exact .operator member
  · exact .function (Symbols.isFunction_iff.mpr member)
  · rcases bracket special with opens | closes
    · exact .opens opens
    · exact .closes closes

omit regular in
/-- Behind a start of depth zero no bracket is closed. -/
theorem ne_closing_of_balanced (before : List Term) {after : List Term} {next : Term}
    (balanced : Balanced (before ++ next :: after)) (closed : depth before = 0) :
    next ≠ Term.closing := by
  rintro rfl
  have nonneg := balanced.nonneg (before ++ [Term.closing]) after (List.append_cons _ _ _)
  rw [depth_append, closed, depth_cons, weight_closing] at nonneg
  exact absurd nonneg (by decide)

variable {terms : List Term} (complete : Complete symbols terms)
  (known : ∀ term ∈ terms, symbols.isKnown term = true)
include complete known

/-- If a factor outside brackets is followed by a term, an operator stands outside brackets. -/
theorem outside_of_factor (balanced : Balanced terms) (before : List Term) {after : List Term}
    {last next : Term} (shape : terms = before ++ last :: next :: after)
    (ends : EndsFactor symbols last) (closed : depth (before ++ [last]) = 0) :
    ∃ operator ∈ symbols.operators, Outside operator terms := by
  have regroup : terms = before ++ [last] ++ next :: after := by rw [shape, List.append_cons]
  have member : next ∈ terms := regroup ▸ List.mem_append_right _ List.mem_cons_self
  have noProduct := List.isChain_iff_forall_rel_of_append_cons_cons.mp complete.full shape
  have noStart : ¬ StartsFactor symbols next := by
    intro starts
    rw [isProduct_iff.mpr ⟨ends, starts⟩] at noProduct
    cases noProduct
  cases ordinary_of_known regular (known next member) (complete.brackets next member) with
  | operator listed => exact ⟨next, listed, before ++ [last], after, regroup, closed⟩
  | function named => exact absurd (.inr (.inr (.inr named))) noStart
  | opens opens => exact absurd (.inl opens) noStart
  | closes closes => exact absurd closes (ne_closing_of_balanced _ (regroup ▸ balanced) closed)
  | factor _ _ starts => exact absurd starts noStart

/-- A pair of brackets is a factor. -/
theorem outside_of_bracketed (balanced : Balanced terms) (before : List Term)
    {inner after : List Term} (shape : terms = before ++ (bracketed inner ++ after))
    (closed : depth before = 0) (within : Balanced inner) (more : after ≠ []) :
    ∃ operator ∈ symbols.operators, Outside operator terms := by
  obtain ⟨next, after, rfl⟩ := List.exists_cons_of_ne_nil more
  have regroup : terms = before ++ Term.opening :: inner ++ Term.closing :: next :: after := by
    rw [shape, bracketed]
    simp only [List.cons_append, List.append_assoc, List.nil_append]
  have returned : depth (before ++ Term.opening :: inner ++ [Term.closing]) = 0 := by
    rw [List.append_assoc, List.cons_append, ← bracketed, depth_append, closed,
      within.bracketed.closed]
    rfl
  exact outside_of_factor regular complete known balanced _ regroup (.inr (.inr rfl)) returned

/-- **Where no product is left out, no operator is missing.** -/
theorem not_unsplit : ¬ Unsplit symbols terms := by
  rintro ⟨balanced, bare, long, wellCalled, uncalled, unsplit⟩
  suffices found : ∃ operator ∈ symbols.operators, Outside operator terms by
    obtain ⟨operator, member, outside⟩ := found
    exact unsplit operator member outside
  obtain ⟨first, rest, rfl, more⟩ := exists_cons_of_long long
  have isFirst : first ∈ first :: rest := List.mem_cons_self
  cases ordinary_of_known regular (known first isFirst) (complete.brackets first isFirst) with
  | operator listed => exact ⟨first, listed, [], rest, rfl, rfl⟩
  | function named =>
      have neutral := regular.weight_function named
      obtain ⟨tail, rfl⟩ := wellCalled [] first rest rfl rfl named
      obtain ⟨argument, after, shape, within, _⟩ := (balanced.tail neutral).exists_bracketed
      have behind := congrArg (first :: ·) shape
      refine outside_of_bracketed regular complete known balanced [first] behind
        (Balanced.single neutral).closed within ?_
      rintro rfl
      rw [List.append_nil] at behind
      exact uncalled first argument named within behind
  | opens opens =>
      subst opens
      obtain ⟨inner, after, shape, within, _⟩ := balanced.exists_bracketed
      refine outside_of_bracketed regular complete known balanced [] shape rfl within ?_
      rintro rfl
      rw [shape, List.append_nil, isWrapped_bracketed within] at bare
      cases bare
  | closes closes => exact absurd closes (ne_closing_of_balanced [] balanced rfl)
  | factor neutral ends _ =>
      obtain ⟨next, after, rfl⟩ := List.exists_cons_of_ne_nil more
      exact outside_of_factor regular complete known balanced [] rfl ends
        (Balanced.single neutral).closed

end Regular

/-! ## No operator is missing -/

/-- Every list that the building of a balanced list comes to is a balanced part of it. -/
theorem Called.inherits {builder : Builder} (resolved : builder.symbols.Resolved)
    {terms : List Term} (balanced : Balanced terms) {levels : Nat} {part : List Term}
    (called : Called builder terms levels part) : Balanced part ∧ part <:+: terms := by
  induction called with
  | whole => exact ⟨balanced, List.infix_refl terms⟩
  | @part levels list part _ asks ih =>
      obtain ⟨balancedList, within⟩ := ih
      obtain ⟨balancedPart, inside⟩ := (asks_iff.mp asks).inherits resolved balancedList.unwrapped
      exact ⟨balancedPart, (inside.trans (unwrapped_within list)).trans within⟩

end Builder

section Regular

variable {builder : Builder} (regular : builder.symbols.Regular) {terms : List Term}
  (complete : Complete builder.symbols terms)
include regular complete

/-- **Where no product is left out, no operator is missing at any level.** -/
theorem Complete.outcome_ne (balanced : Balanced terms)
    (known : ∀ term ∈ terms, builder.symbols.isKnown term = true) (levels : Nat)
    (part : List Term) : builder.outcome levels terms ≠ .error (.missingOperator part) := by
  intro failed
  rcases Builder.explained_of_error regular.toResolved levels balanced _ failed with
    ⟨_, same, _⟩ | faulty
  · cases same
  · cases faulty with
    | missingOperator within unsplit =>
        exact Builder.not_unsplit regular (complete.inherits within)
          (fun term member => known term (within.subset member)) unsplit

theorem Complete.outcome_ne_of_valid (valid : validate builder.symbols terms = .ok ())
    (levels : Nat) (part : List Term) :
    builder.outcome levels terms ≠ .error (.missingOperator part) := by
  obtain ⟨balanced, known, _⟩ := (validate_eq_ok_iff regular.toResolved).mp valid
  exact complete.outcome_ne regular balanced known levels part

/-- Neither is one in any list that the building of a valid list comes to. -/
theorem Complete.called_outcome_ne (valid : validate builder.symbols terms = .ok ())
    {levels : Nat} {part : List Term} (called : Builder.Called builder terms levels part)
    (list : List Term) : builder.outcome levels part ≠ .error (.missingOperator list) := by
  obtain ⟨balanced, known, _⟩ := (validate_eq_ok_iff regular.toResolved).mp valid
  obtain ⟨balancedPart, within⟩ := called.inherits regular.toResolved balanced
  exact (complete.inherits within).outcome_ne regular balancedPart
    (fun term member => known term (within.subset member)) levels list

end Regular

end InfixFormula
