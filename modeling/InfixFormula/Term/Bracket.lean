import InfixFormula.Term.Symbols

/-!
# Brackets

Brackets are matched by counting: an opening bracket weighs one, a closing bracket minus one,
and every other term nothing. Walking from a bracket, inwards for an opening and outwards for a
closing one, the partner is where the running sum first returns to zero (`returnIndex?`). A term
is *outside* every bracket where the sum of the weights up to it is zero.

Lists of terms need not be balanced here. The functions say what they do on any list, so that
the checks that look for unbalanced brackets can use them too.
-/

set_option autoImplicit false

namespace InfixFormula.Bracket

/-- One for an opening bracket, minus one for a closing bracket, and zero otherwise. -/
def weight (term : Term) : Int :=
  if term = Term.opening then 1 else if term = Term.closing then -1 else 0

/-! ## Balance -/

/-- Whether the terms close exactly a number of open brackets and those they open. -/
def closesAll : Nat → List Term → Bool
  | depth, [] => depth == 0
  | depth, term :: rest =>
      if term = Term.opening then closesAll (depth + 1) rest
      else if term = Term.closing then
        match depth with
        | 0 => false
        | depth + 1 => closesAll depth rest
      else closesAll depth rest

/-- Whether every opening bracket has a later closing one and no more are closed than opened at
any point. -/
def isBalanced (terms : List Term) : Bool :=
  closesAll 0 terms

/-! ## Partners -/

/-- The index at which the sum of the weights, from a first value on, returns to zero. -/
def returnIndex? (sum : Int) : List Term → Option Nat
  | [] => none
  | term :: rest =>
      if sum + weight term = 0 then some 0
      else (returnIndex? (sum + weight term) rest).map (· + 1)

/-- The index of the partner of the bracket at an index: an opening bracket looks to the right
and a closing bracket to the left. -/
def partner? (terms : List Term) (index : Nat) : Option Nat :=
  if terms[index]? = some Term.closing then
    (returnIndex? 0 (terms.take (index + 1)).reverse).map (index - ·)
  else (returnIndex? 0 (terms.drop index)).map (index + ·)

/-! ## Redundant pairs -/

/-- Whether the list is one bracketed unit: it starts with an opening bracket that is not closed
before the last term. -/
def isWrapped (terms : List Term) : Bool :=
  1 < terms.length && terms.head? == some Term.opening &&
    (returnIndex? 0 terms.dropLast).isNone

/-- The terms without the first and the last. -/
def interior (terms : List Term) : List Term :=
  terms.tail.dropLast

/-- The terms without the redundant pairs around them. -/
def unwrapped (terms : List Term) : List Term :=
  if isWrapped terms then unwrapped (interior terms) else terms
termination_by terms.length
decreasing_by
  rename_i wrapped
  simp only [isWrapped, Bool.and_eq_true, decide_eq_true_eq] at wrapped
  simp only [interior, List.length_dropLast, List.length_tail]
  omega

/-! ## Outside every bracket -/

/-- The wanted terms outside every bracket with their indices, where the list starts at an index
and after terms with a sum of weights. -/
def outsideFrom (wanted : Term → Bool) (sum : Int) (index : Nat) :
    List Term → List (Nat × Term)
  | [] => []
  | term :: rest =>
      let later := outsideFrom wanted (sum + weight term) (index + 1) rest
      if sum + weight term = 0 && wanted term then (index, term) :: later else later

/-- The wanted terms outside every bracket with their indices, from left to right. -/
def outside (wanted : Term → Bool) (terms : List Term) : List (Nat × Term) :=
  outsideFrom wanted 0 0 terms

/-- The first sightings of the wanted terms outside every bracket on a walk from right to left.
The list is in reverse order, so the index of a term is the number of terms behind it. -/
def sightings (wanted : Term → Bool) (sum : Int) (seen : List (Term × Nat)) :
    List Term → List (Term × Nat)
  | [] => seen
  | term :: before =>
      let sum := sum - weight term
      if sum = 0 && wanted term && !(seen.map Prod.fst).contains term then
        sightings wanted sum (seen ++ [(term, before.length)]) before
      else sightings wanted sum seen before

/-- The wanted terms outside every bracket, each with its last index, from right to left. -/
def lastOutside (wanted : Term → Bool) (terms : List Term) : List (Term × Nat) :=
  sightings wanted 0 [] terms.reverse

end InfixFormula.Bracket
