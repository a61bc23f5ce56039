import InfixFormula.Proofs.Term.Validity

/-!
# What unbalanced brackets are put down to

The fault of unbalanced brackets names a call that is never closed, if there is one, and otherwise
the whole list. One would expect a call to be named exactly if some function outside brackets is
directly followed by an opening bracket without a partner (`HasUnclosedCall`).

The search for such a call asks of every function outside brackets what the check of the calls asks:
whether a bracket with a partner follows it (`callFault?_isSome_iff`). That is the right question in
a balanced list. In an unbalanced one it finds more than the calls that are never closed: it also
finds a function that no bracket follows at all (`HasBareFunction`), although the brackets would not
match without this function either. So a list with such a function and, say, a stray closing bracket
is put down to a call that is never closed, and there is no such call in it. In every other list the
fault is the expected one (`checkBrackets_blames`).
-/

set_option autoImplicit false

namespace InfixFormula.Validation

open InfixFormula.Bracket

/-- A function outside every bracket of a list, with the terms before and after it. -/
structure OuterFunction (symbols : Symbols) (before : List Term) (name : Term)
    (after terms : List Term) : Prop where
  split : terms = before ++ name :: after
  outside : depth (before ++ [name]) = 0
  named : symbols.isFunction name = true

/-- Some function outside every bracket is directly followed by an opening bracket that has no
partner. -/
def HasUnclosedCall (symbols : Symbols) (terms : List Term) : Prop :=
  ∃ before name rest, OuterFunction symbols before name (Term.opening :: rest) terms ∧
    partner? terms (before.length + 1) = none

/-- Some function outside every bracket is not directly followed by an opening bracket. -/
def HasBareFunction (symbols : Symbols) (terms : List Term) : Prop :=
  ∃ before name after, OuterFunction symbols before name after terms ∧
    ¬ ∃ rest, after = Term.opening :: rest

/-- The brackets are put down to a call that is never closed. -/
def BlamesCall (result : Except Fault Unit) : Prop :=
  ∃ fault, result = .error fault ∧ fault.kind = .unclosedFunction ∧ fault.code = "3008"

variable {symbols : Symbols} {terms : List Term}

/-! ## The search for a call -/

/-- The walk from left to right finds the functions outside every bracket. -/
theorem mem_outerFunctions_iff {position : Nat} {name : Term} :
    (position, name) ∈ outerFunctions symbols terms ↔
      ∃ before after, OuterFunction symbols before name after terms ∧
        position = before.length := by
  simp only [outerFunctions, outside, mem_outsideFrom, Int.zero_add, Nat.zero_add]
  constructor
  · rintro ⟨named, before, after, split, place, outside⟩
    refine ⟨before, after, ⟨split, ?_, named⟩, place⟩
    simpa using outside
  · rintro ⟨before, after, ⟨split, outside, named⟩, place⟩
    refine ⟨named, before, after, split, place, ?_⟩
    simpa using outside

/-- **The search finds a function that no bracket with a partner follows.** -/
theorem callFault?_isSome_iff :
    (callFault? symbols terms).isSome = true ↔
      HasUnclosedCall symbols terms ∨ HasBareFunction symbols terms := by
  simp only [callFault?, List.findSome?_isSome_iff, Option.isSome_map, Prod.exists,
    mem_outerFunctions_iff]
  constructor
  · rintro ⟨position, name, ⟨before, after, outer, rfl⟩, missing⟩
    rw [outer.split, Option.isSome_iff_ne_none, ne_eq,
      missingPart?_eq_none_iff_paired] at missing
    by_cases opens : ∃ rest, after = Term.opening :: rest
    · obtain ⟨rest, rfl⟩ := opens
      refine .inl ⟨before, name, rest, outer, ?_⟩
      rw [outer.split]
      exact Decidable.not_not.mp fun paired => missing ⟨⟨rest, rfl⟩, paired⟩
    · exact .inr ⟨before, name, after, outer, opens⟩
  · rintro (⟨before, name, rest, outer, unpaired⟩ | ⟨before, name, after, outer, bare⟩)
    · refine ⟨before.length, name, ⟨before, _, outer, rfl⟩, ?_⟩
      rw [outer.split] at unpaired ⊢
      rw [Option.isSome_iff_ne_none, ne_eq, missingPart?_eq_none_iff_paired]
      exact fun complete => complete.2 unpaired
    · refine ⟨before.length, name, ⟨before, after, outer, rfl⟩, ?_⟩
      rw [outer.split, Option.isSome_iff_ne_none, ne_eq, missingPart?_eq_none_iff_paired]
      exact fun complete => bare complete.1

/-! ## The fault of the brackets -/

theorem blamesCall_iff_isSome :
    BlamesCall (checkBrackets symbols terms) ↔
      ¬ Balanced terms ∧ (callFault? symbols terms).isSome = true := by
  by_cases balanced : Balanced terms
  · rw [checkBrackets_of_balanced balanced]
    exact ⟨nofun, fun blamed => absurd balanced blamed.1⟩
  · rw [checkBrackets_of_unbalanced balanced]
    cases callFault? symbols terms with
    | some call => exact iff_of_true ⟨_, rfl, rfl, rfl⟩ ⟨balanced, rfl⟩
    | none =>
        refine iff_of_false ?_ nofun
        rintro ⟨_, ⟨⟩, kind, _⟩
        cases kind

theorem unmatchedBrackets_iff_isNone :
    checkBrackets symbols terms = .error (.unmatchedBrackets terms) ↔
      ¬ Balanced terms ∧ ¬ (callFault? symbols terms).isSome = true := by
  by_cases balanced : Balanced terms
  · rw [checkBrackets_of_balanced balanced]
    exact ⟨nofun, fun unmatched => absurd balanced unmatched.1⟩
  · rw [checkBrackets_of_unbalanced balanced]
    cases callFault? symbols terms with
    | some call => exact ⟨nofun, fun unmatched => absurd rfl unmatched.2⟩
    | none => exact iff_of_true rfl ⟨balanced, nofun⟩

/-- **What unbalanced brackets are put down to.** A call is named exactly if a call outside brackets
is never closed or a function outside brackets has no bracket behind it; the whole list is named
exactly if neither is so. A call is named exactly if one is never closed, as one would expect, if
the list is balanced, if there is such a call, or if no function outside brackets lacks its bracket,
and in no other list. -/
theorem checkBrackets_blames (symbols : Symbols) (terms : List Term) :
    (BlamesCall (checkBrackets symbols terms) ↔
      ¬ Balanced terms ∧ (HasUnclosedCall symbols terms ∨ HasBareFunction symbols terms)) ∧
    (checkBrackets symbols terms = .error (.unmatchedBrackets terms) ↔
      ¬ Balanced terms ∧ ¬ (HasUnclosedCall symbols terms ∨ HasBareFunction symbols terms)) ∧
    ((BlamesCall (checkBrackets symbols terms) ↔
        ¬ Balanced terms ∧ HasUnclosedCall symbols terms) ↔
      Balanced terms ∨ HasUnclosedCall symbols terms ∨ ¬ HasBareFunction symbols terms) := by
  have blames : BlamesCall (checkBrackets symbols terms) ↔
      ¬ Balanced terms ∧ (HasUnclosedCall symbols terms ∨ HasBareFunction symbols terms) := by
    rw [blamesCall_iff_isSome, callFault?_isSome_iff]
  refine ⟨blames, ?_, ?_⟩
  · rw [unmatchedBrackets_iff_isNone, callFault?_isSome_iff]
  · rw [blames]
    by_cases balanced : Balanced terms
    · simp [balanced]
    · by_cases unclosed : HasUnclosedCall symbols terms
      · simp [unclosed]
      · simp [balanced, unclosed]

/-- **A function without a bracket is blamed for a stray closing bracket.** The brackets of
`sin x )` are put down to a call, and no call in it is open. -/
theorem checkBrackets_blames_wrongly :
    ¬ Balanced ["sin", "x", ")"] ∧ ¬ HasUnclosedCall {} ["sin", "x", ")"] ∧
      checkBrackets {} ["sin", "x", ")"] = .error (.unclosedCall ⟨"sin", .opening⟩) ∧
      ¬ (BlamesCall (checkBrackets {} ["sin", "x", ")"]) ↔
        HasUnclosedCall {} ["sin", "x", ")"]) := by
  have closed : ¬ HasUnclosedCall {} ["sin", "x", ")"] := by
    rintro ⟨before, name, rest, outer, _⟩
    have opens : Term.opening ∈ before ++ name :: Term.opening :: rest := by simp
    rw [← outer.split] at opens
    exact absurd opens (by decide)
  have blamed : checkBrackets {} ["sin", "x", ")"] = .error (.unclosedCall ⟨"sin", .opening⟩) := rfl
  exact ⟨by decide, closed, blamed, fun told => closed (told.mp ⟨_, blamed, rfl, rfl⟩)⟩

end InfixFormula.Validation
