import InfixFormula.Proofs.Bracket.Depth

/-!
# Terms outside every bracket

A term that is no bracket stands outside every bracket of a list when the depth is zero before it
(`Outside`). The walk from left to right finds all of these places (`mem_outside`). The walk from
right to left keeps, for each wanted term, the first place that it comes to; in a balanced list
this is the last place of the term outside every bracket (`lookup_lastOutside_eq_some_iff`), and
it keeps none exactly if the term has no such place (`lookup_lastOutside_eq_none_iff`). That the
depth counted from the right agrees with the depth counted from the left is due to balance.
-/

set_option autoImplicit false

namespace InfixFormula.Bracket

/-- A term has a place outside every bracket of a list. -/
def Outside (term : Term) (terms : List Term) : Prop :=
  ∃ before after, terms = before ++ term :: after ∧ depth before = 0

/-- The places of a term in a list that is not empty: the first place, or one in the rest. -/
theorem exists_split_cons {motive : List Term → List Term → Prop} {first term : Term}
    {rest : List Term} :
    (∃ before after, first :: rest = before ++ term :: after ∧ motive before after) ↔
      (first = term ∧ motive [] rest) ∨
        ∃ before after, rest = before ++ term :: after ∧ motive (first :: before) after := by
  constructor
  · rintro ⟨before, after, split, holds⟩
    cases before with
    | nil =>
        obtain ⟨rfl, rfl⟩ := List.cons.inj split
        exact .inl ⟨rfl, holds⟩
    | cons head before =>
        obtain ⟨rfl, rfl⟩ := List.cons.inj split
        exact .inr ⟨before, after, rfl, holds⟩
  · rintro (⟨rfl, holds⟩ | ⟨before, after, rfl, holds⟩)
    · exact ⟨[], rest, rfl, holds⟩
    · exact ⟨first :: before, after, rfl, holds⟩

theorem not_outside_nil (term : Term) : ¬ Outside term [] := by
  rintro ⟨before, after, split, _⟩
  exact absurd (List.append_eq_nil_iff.mp split.symm).2 (List.cons_ne_nil _ _)

theorem outside_singleton {term other : Term} (outside : Outside term [other]) : other = term := by
  rcases exists_split_cons.mp outside with ⟨same, _⟩ | ⟨before, after, split, _⟩
  · exact same
  · exact absurd (List.append_eq_nil_iff.mp split.symm).2 (List.cons_ne_nil _ _)

/-- A term outside every bracket of two lists, the first of which is closed, stands in one of
them, or between them. -/
theorem outside_append_cons {term middle : Term} {left right : List Term}
    (closed : depth left = 0) (neutral : weight middle = 0) :
    Outside term (left ++ middle :: right) ↔
      Outside term left ∨ middle = term ∨ Outside term right := by
  constructor
  · rintro ⟨before, after, split, outside⟩
    rcases List.append_eq_append_iff.mp split with ⟨more, rfl, rest⟩ | ⟨more, rfl, rest⟩
    · rw [depth_append, closed, Int.zero_add] at outside
      cases more with
      | nil => exact .inr (.inl (List.cons.inj rest).1)
      | cons head more =>
          obtain ⟨rfl, tail⟩ := List.cons.inj rest
          rw [depth_cons, neutral, Int.zero_add] at outside
          exact .inr (.inr ⟨more, after, tail, outside⟩)
    · cases more with
      | nil => exact .inr (.inl (List.cons.inj rest).1.symm)
      | cons head more =>
          obtain ⟨rfl, _⟩ := List.cons.inj rest
          exact .inl ⟨before, more, rfl, outside⟩
  · rintro (⟨before, after, rfl, outside⟩ | rfl | ⟨before, after, rfl, outside⟩)
    · exact ⟨before, after ++ middle :: right, by simp only [List.append_assoc, List.cons_append],
        outside⟩
    · exact ⟨left, right, rfl, closed⟩
    · refine ⟨left ++ middle :: before, after, by simp only [List.append_assoc, List.cons_append],
        ?_⟩
      rw [depth_append, closed, depth_cons, neutral, outside]
      rfl

/-- Only an opening bracket stands outside every bracket of a pair around a balanced list. -/
theorem eq_opening_of_outside_bracketed {term : Term} {inner : List Term}
    (balanced : Balanced inner) (outside : Outside term (bracketed inner)) :
    term = Term.opening := by
  obtain ⟨before, after, split, zero⟩ := outside
  cases before with
  | nil => exact (List.cons.inj split).1.symm
  | cons head before =>
      have := balanced.depth_pos split (List.cons_ne_nil _ _) (List.cons_ne_nil _ _)
      omega

/-- No other term does. -/
theorem not_outside_bracketed {term : Term} {inner : List Term} (balanced : Balanced inner)
    (neutral : weight term = 0) : ¬ Outside term (bracketed inner) := by
  intro outside
  rw [eq_opening_of_outside_bracketed balanced outside] at neutral
  cases neutral

/-! ## From left to right -/

theorem mem_outsideFrom {wanted : Term → Bool} {position : Nat} {term : Term}
    (terms : List Term) : ∀ (sum : Int) (index : Nat),
    (position, term) ∈ outsideFrom wanted sum index terms ↔
      wanted term = true ∧ ∃ before after, terms = before ++ term :: after ∧
        position = index + before.length ∧ sum + depth before + weight term = 0 := by
  induction terms with
  | nil =>
      intro sum index
      refine ⟨nofun, ?_⟩
      rintro ⟨_, before, after, split, _⟩
      exact absurd (List.append_eq_nil_iff.mp split.symm).2 (List.cons_ne_nil _ _)
  | cons first rest ih =>
      intro sum index
      rw [exists_split_cons (motive := fun before _ =>
        position = index + before.length ∧ sum + depth before + weight term = 0)]
      have later := ih (sum + weight first) (index + 1)
      simp only [outsideFrom, List.length_cons, List.length_nil, depth_cons, depth_nil,
        Int.add_zero, Nat.add_zero, Nat.add_assoc, Int.add_assoc, Nat.add_comm 1] at later ⊢
      by_cases here : sum + weight first = 0 ∧ wanted first = true
      · have taken : (decide (sum + weight first = 0) && wanted first) = true := by
          simp only [here, decide_true, Bool.and_self]
        rw [if_pos taken, List.mem_cons, later, Prod.mk.injEq]
        constructor
        · rintro (⟨rfl, rfl⟩ | ⟨isWanted, found⟩)
          · exact ⟨here.2, .inl ⟨rfl, rfl, here.1⟩⟩
          · exact ⟨isWanted, .inr found⟩
        · rintro ⟨isWanted, ⟨rfl, rfl, _⟩ | found⟩
          · exact .inl ⟨rfl, rfl⟩
          · exact .inr ⟨isWanted, found⟩
      · have skipped : ¬ (decide (sum + weight first = 0) && wanted first) = true := by
          simpa only [Bool.and_eq_true, decide_eq_true_eq] using here
        rw [if_neg skipped, later]
        constructor
        · rintro ⟨isWanted, found⟩
          exact ⟨isWanted, .inr found⟩
        · rintro ⟨isWanted, ⟨rfl, _, zero⟩ | found⟩
          · exact absurd ⟨zero, isWanted⟩ here
          · exact ⟨isWanted, found⟩

/-- **The walk from left to right finds the wanted terms outside every bracket.** -/
theorem mem_outside {wanted : Term → Bool} {terms : List Term} {position : Nat} {term : Term}
    (neutral : weight term = 0) :
    (position, term) ∈ outside wanted terms ↔
      wanted term = true ∧ ∃ before after, terms = before ++ term :: after ∧
        position = before.length ∧ depth before = 0 := by
  rw [outside, mem_outsideFrom]
  simp only [neutral, Int.zero_add, Nat.zero_add, Int.add_zero]

/-- The walk finds nothing exactly if the term that it looks for has no place outside brackets. -/
theorem outside_eq_nil_iff {terms : List Term} {term : Term} (neutral : weight term = 0) :
    outside (· == term) terms = [] ↔ ¬ Outside term terms := by
  rw [List.eq_nil_iff_forall_not_mem, Prod.forall]
  constructor
  · rintro none ⟨before, after, split, zero⟩
    exact none before.length term
      ((mem_outside neutral).mpr ⟨beq_self_eq_true term, before, after, split, rfl, zero⟩)
  · intro absent position other found
    obtain rfl : other = term := eq_of_beq ((mem_outsideFrom _ _ _).mp found).1
    obtain ⟨_, before, after, split, _, zero⟩ := (mem_outside neutral).mp found
    exact absent ⟨before, after, split, zero⟩

/-! ## From right to left -/

/-- Where a walk from right to left first sees a wanted term outside every bracket. -/
def sighting? (wanted : Term → Bool) (term : Term) (sum : Int) : List Term → Option Nat
  | [] => none
  | next :: before =>
      if sum - weight next = 0 && wanted next && next == term then some before.length
      else sighting? wanted term (sum - weight next) before

/-- Every term that the walk keeps is wanted. -/
theorem wanted_of_mem_sightings {wanted : Term → Bool} (terms : List Term) :
    ∀ (sum : Int) (seen : List (Term × Nat)), (∀ entry ∈ seen, wanted entry.1 = true) →
      ∀ entry ∈ sightings wanted sum seen terms, wanted entry.1 = true := by
  induction terms with
  | nil => exact fun _ _ all => all
  | cons next before ih =>
      intro sum seen all
      rw [sightings]
      split
      next kept =>
        refine ih _ _ fun entry member => ?_
        simp only [Bool.and_eq_true] at kept
        rcases List.mem_append.mp member with old | new
        · exact all entry old
        · rw [List.mem_singleton.mp new]
          exact kept.1.2
      next => exact ih _ _ all

theorem wanted_of_mem_lastOutside {wanted : Term → Bool} {terms : List Term} {entry : Term × Nat}
    (kept : entry ∈ lastOutside wanted terms) : wanted entry.1 = true :=
  wanted_of_mem_sightings _ 0 [] (fun _ member => absurd member List.not_mem_nil) entry kept

/-- The walk has kept a term exactly if looking it up finds a place. -/
theorem contains_keys (seen : List (Term × Nat)) (term : Term) :
    (seen.map Prod.fst).contains term = (seen.lookup term).isSome := by
  induction seen with
  | nil => rfl
  | cons entry seen ih =>
      obtain ⟨key, index⟩ := entry
      rw [List.map_cons, List.contains_cons, List.lookup_cons, ih]
      cases term == key <;> rfl

/-- What the walk keeps for a term is what it kept before, or else the first sighting. -/
theorem lookup_sightings (wanted : Term → Bool) (term : Term) (terms : List Term) :
    ∀ (sum : Int) (seen : List (Term × Nat)),
      (sightings wanted sum seen terms).lookup term =
        (seen.lookup term).or (sighting? wanted term sum terms) := by
  induction terms with
  | nil =>
      intro sum seen
      rw [sightings, sighting?, Option.or_none]
  | cons next before ih =>
      intro sum seen
      simp only [sightings, sighting?, contains_keys]
      by_cases same : next = term
      · subst same
        cases found : seen.lookup next with
        | some index =>
            simp only [Option.isSome_some, Bool.not_true, Bool.and_false, Bool.false_eq_true,
              if_false, ih, found, Option.some_or]
        | none =>
            simp only [Option.isSome_none, Bool.not_false, Bool.and_true, beq_self_eq_true,
              Option.none_or]
            split
            · simp only [ih, List.lookup_append, found, List.lookup_cons_self, Option.none_or,
                Option.some_or]
            · simp only [ih, found, Option.none_or]
      · have other : (term == next) = false := beq_false_of_ne fun equal => same equal.symm
        simp only [beq_false_of_ne same, Bool.and_false, Bool.false_eq_true, if_false]
        split
        · simp only [ih, List.lookup_append, List.lookup_cons, other, List.lookup_nil,
            Option.or_none]
        · exact ih _ _

/-- No place of a term among the skipped ones is outside every bracket on a walk with a sum. -/
def Unseen (term : Term) (sum : Int) (skipped : List Term) : Prop :=
  ∀ before after, skipped = before ++ term :: after → sum - depth before - weight term ≠ 0

theorem unseen_nil (term : Term) (sum : Int) : Unseen term sum [] := by
  intro before after split
  exact absurd (List.append_eq_nil_iff.mp split.symm).2 (List.cons_ne_nil _ _)

theorem unseen_cons {term next : Term} {sum : Int} {skipped : List Term} :
    Unseen term sum (next :: skipped) ↔
      (next = term → sum - weight next ≠ 0) ∧ Unseen term (sum - weight next) skipped := by
  constructor
  · intro unseen
    refine ⟨?_, fun before after split => ?_⟩
    · rintro rfl
      have := unseen [] skipped rfl
      rwa [depth_nil, Int.sub_zero] at this
    · have := unseen (next :: before) after (by rw [split, List.cons_append])
      rwa [depth_cons, ← Int.sub_sub] at this
  · rintro ⟨here, later⟩ before after split
    cases before with
    | nil =>
        obtain ⟨rfl, _⟩ := List.cons.inj split
        rw [depth_nil, Int.sub_zero]
        exact here rfl
    | cons head before =>
        obtain ⟨rfl, rest⟩ := List.cons.inj split
        rw [depth_cons, ← Int.sub_sub]
        exact later before after rest

section Sighting

variable {wanted : Term → Bool} {term : Term} (isWanted : wanted term = true)
include isWanted

/-- What the walk does at one term. -/
theorem sighting?_cons (next : Term) (before : List Term) (sum : Int) :
    sighting? wanted term sum (next :: before) =
      if next = term ∧ sum - weight next = 0 then some before.length
      else sighting? wanted term (sum - weight next) before := by
  by_cases same : next = term
  · subst same
    simp only [sighting?, isWanted, Bool.and_true, beq_self_eq_true, decide_eq_true_eq, true_and]
  · simp only [sighting?, beq_false_of_ne same, Bool.and_false, Bool.false_eq_true, if_false, same,
      false_and]

theorem sighting?_eq_none_iff (terms : List Term) : ∀ sum : Int,
    sighting? wanted term sum terms = none ↔ Unseen term sum terms := by
  induction terms with
  | nil => exact fun sum => ⟨fun _ => unseen_nil term sum, fun _ => rfl⟩
  | cons next before ih =>
      intro sum
      rw [sighting?_cons isWanted, unseen_cons]
      split
      next here => exact ⟨nofun, fun unseen => absurd here.2 (unseen.1 here.1)⟩
      next passed =>
        rw [ih]
        exact ⟨fun unseen => ⟨fun same zero => passed ⟨same, zero⟩, unseen⟩, And.right⟩

/-- A term that is unseen in front of one of its places is sighted there. -/
theorem sighting?_of_unseen (before skipped : List Term) : ∀ sum : Int,
    Unseen term sum skipped → sum - depth skipped - weight term = 0 →
      sighting? wanted term sum (skipped ++ term :: before) = some before.length := by
  induction skipped with
  | nil =>
      intro sum _ zero
      rw [depth_nil, Int.sub_zero] at zero
      rw [List.nil_append, sighting?_cons isWanted, if_pos ⟨rfl, zero⟩]
  | cons next skipped ih =>
      intro sum unseen zero
      obtain ⟨here, later⟩ := unseen_cons.mp unseen
      rw [depth_cons, ← Int.sub_sub] at zero
      rw [List.cons_append, sighting?_cons isWanted, if_neg fun sighted => here sighted.1 sighted.2]
      exact ih _ later zero

/-- A sighting is at a place of the term, and the term is unseen in front of it. -/
theorem exists_of_sighting? {index : Nat} (terms : List Term) : ∀ sum : Int,
    sighting? wanted term sum terms = some index →
      ∃ skipped before, terms = skipped ++ term :: before ∧ before.length = index ∧
        Unseen term sum skipped ∧ sum - depth skipped - weight term = 0 := by
  induction terms with
  | nil => exact fun _ found => nomatch found
  | cons next rest ih =>
      intro sum found
      rw [sighting?_cons isWanted] at found
      split at found
      next here =>
        obtain ⟨rfl, zero⟩ := here
        refine ⟨[], rest, rfl, Option.some.inj found, unseen_nil _ _, ?_⟩
        rw [depth_nil]
        omega
      next passed =>
        obtain ⟨skipped, before, rfl, length, unseen, zero⟩ := ih _ found
        refine ⟨next :: skipped, before, rfl, length, unseen_cons.mpr ⟨?_, unseen⟩, ?_⟩
        · exact fun same zero => passed ⟨same, zero⟩
        · rw [depth_cons]
          omega

end Sighting

/-! ## The last place outside every bracket -/

section LastPlace

variable {wanted : Term → Bool} {term : Term} (isWanted : wanted term = true)
  (neutral : weight term = 0)
include neutral

/-- A term is unseen on a walk through a closed list, from right to left, exactly if it has no
place outside every bracket. -/
theorem unseen_reverse_iff {terms : List Term} (closed : depth terms = 0) :
    Unseen term 0 terms.reverse ↔ ¬ Outside term terms := by
  constructor
  · rintro unseen ⟨before, after, rfl, zero⟩
    have := unseen after.reverse before.reverse (by simp)
    rw [depth_append, depth_cons] at closed
    rw [depth_reverse] at this
    omega
  · intro absent after before split zero
    refine absent ⟨before.reverse, after.reverse, ?_, ?_⟩
    · rw [← List.reverse_reverse terms, split]
      simp
    · rw [← depth_reverse, split, depth_append, depth_cons] at closed
      rw [depth_reverse]
      omega

include isWanted

/-- **The walk from right to left keeps no place of a term exactly if the term has no place
outside every bracket.** -/
theorem lookup_lastOutside_eq_none_iff {terms : List Term} (closed : depth terms = 0) :
    (lastOutside wanted terms).lookup term = none ↔ ¬ Outside term terms := by
  rw [lastOutside, lookup_sightings, List.lookup_nil, Option.none_or,
    sighting?_eq_none_iff isWanted, unseen_reverse_iff neutral closed]

/-- **The walk from right to left keeps the last place of a term outside every bracket.** -/
theorem lookup_lastOutside_eq_some_iff {terms : List Term} {index : Nat}
    (closed : depth terms = 0) :
    (lastOutside wanted terms).lookup term = some index ↔
      ∃ before after, terms = before ++ term :: after ∧ before.length = index ∧
        depth before = 0 ∧ ¬ Outside term after := by
  rw [lastOutside, lookup_sightings, List.lookup_nil, Option.none_or]
  constructor
  · intro found
    obtain ⟨skipped, before, split, length, unseen, zero⟩ := exists_of_sighting? isWanted _ _ found
    have whole : terms = before.reverse ++ term :: skipped.reverse := by
      rw [← List.reverse_reverse terms, split]
      simp
    have ends : depth skipped.reverse = 0 := by
      rw [depth_reverse]
      omega
    refine ⟨before.reverse, skipped.reverse, whole, by rw [List.length_reverse, length], ?_, ?_⟩
    · rw [whole, depth_append, depth_cons, ends] at closed
      omega
    · rwa [← unseen_reverse_iff neutral ends, List.reverse_reverse]
  · rintro ⟨before, after, rfl, rfl, zero, absent⟩
    have ends : depth after = 0 := by
      rw [depth_append, depth_cons] at closed
      omega
    have sighted := sighting?_of_unseen isWanted before.reverse after.reverse 0
      ((unseen_reverse_iff neutral ends).mpr absent) (by rw [depth_reverse]; omega)
    rw [List.length_reverse] at sighted
    rwa [List.reverse_append, List.reverse_cons, List.append_assoc, List.singleton_append]

end LastPlace

end InfixFormula.Bracket
