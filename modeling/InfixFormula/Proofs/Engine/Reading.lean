import InfixFormula.Engine.Basic
import InfixFormula.Proofs.Term.Rereading
import InfixFormula.Proofs.Term.Walk

/-!
# What the engine reads

The terms of a text are the terms of its runs, with the products that were left out. A text is
refused exactly if one of its runs of digits and points has a second point, and the fault then is
that of the first such run (`terms_of_maximalRuns`).

What is read can be written out again: with blanks between the terms, however the text was written,
the same terms are read (`terms_of_rewritten`).
-/

set_option autoImplicit false

namespace InfixFormula.Engine

open InfixFormula.Lexer

section Runs

variable (symbols : Symbols) {text : String}

theorem terms_eq_of_runs :
    terms symbols text = (((runs text.toList).mapM (termsOfRun symbols)).mapError fun fault =>
      (Failure.ofFault fault).withEquation text).map fun readings =>
        insertProducts symbols readings.flatten := by
  rw [terms, terms_eq, found]
  cases (runs text.toList).mapM (termsOfRun symbols) <;> rfl

/-- Where no run has a second point, every run gives its terms. -/
theorem terms_of_sound (sound : ∀ piece ∈ runs text.toList, ¬ Overpointed piece) :
    ∃ readings, List.Forall₂ (Reads symbols) (runs text.toList) readings ∧
      terms symbols text = .ok (insertProducts symbols readings.flatten) := by
  obtain ⟨readings, reads, passed⟩ :=
    mapM_termsOfRun symbols (maximalRuns_iff.mpr rfl).each sound
  refine ⟨readings, reads, ?_⟩
  rw [terms_eq_of_runs, passed]
  rfl

/-- The first run with a second point is refused at this point. -/
theorem terms_of_overpointed {before after : List (List Char)} {piece : List Char}
    (parts : runs text.toList = before ++ piece :: after)
    (sound : ∀ earlier ∈ before, ¬ Overpointed earlier) (overpointed : Overpointed piece) :
    ∃ start rest, piece = start ++ '.' :: rest ∧ start.count '.' = 1 ∧
      terms symbols text = .error (.fault (.secondPoint (String.ofList start)) (some text)) := by
  have isPiece := (maximalRuns_iff.mpr parts).each
  obtain ⟨start, rest, same, single, failed⟩ := mapM_termsOfRun_of_overpointed symbols
    (fun earlier member => isPiece earlier (List.mem_append_left _ member)) sound overpointed
  refine ⟨start, rest, same, single, ?_⟩
  rw [terms_eq_of_runs, parts, failed]
  rfl

/-- A text is refused as malformed exactly if one of its runs has a second point. -/
theorem malformed_iff :
    (∃ cause equation, terms symbols text = .error (.fault cause equation) ∧
      cause.kind = .malformedNumber) ↔ ∃ piece ∈ runs text.toList, Overpointed piece := by
  constructor
  · rintro ⟨cause, equation, failed, _⟩
    by_contra sound
    obtain ⟨readings, _, passed⟩ := terms_of_sound symbols
      fun piece member overpointed => sound ⟨piece, member, overpointed⟩
    rw [passed] at failed
    cases failed
  · rintro ⟨piece, member, overpointed⟩
    have found : ((runs text.toList).find? fun piece => decide (Overpointed piece)).isSome :=
      List.find?_isSome.mpr ⟨piece, member, decide_eq_true overpointed⟩
    obtain ⟨first, isFirst⟩ := Option.isSome_iff_exists.mp found
    obtain ⟨overpointed, before, after, parts, sound⟩ := List.find?_eq_some_iff_append.mp isFirst
    obtain ⟨start, _, _, _, failed⟩ := terms_of_overpointed symbols parts
      (fun earlier member => of_decide_eq_false (Bool.not_eq_true' _ ▸ sound earlier member))
      (of_decide_eq_true overpointed)
    exact ⟨_, _, failed, rfl⟩

end Runs

/-- **A text falls in one way into longest runs of digits and points, longest runs of letters and
other characters, and each of them is read for itself.** There is a fault exactly if a run has a
second point, and it is that of the first such run. Otherwise every run gives its terms, and nothing
is added but the products that were left out. So the walk over the text gives the terms of its runs,
or the fault of the first run that has one. -/
theorem terms_of_maximalRuns (symbols : Symbols) (text : String) :
    ∃ pieces, (∀ others, MaximalRuns text.toList others ↔ others = pieces) ∧
      ((∃ cause equation, terms symbols text = .error (.fault cause equation) ∧
          cause.kind = .malformedNumber) ↔ ∃ piece ∈ pieces, Overpointed piece) ∧
      (∀ before piece after, pieces = before ++ piece :: after →
        (∀ earlier ∈ before, ¬ Overpointed earlier) → Overpointed piece →
          ∃ start rest, piece = start ++ '.' :: rest ∧ start.count '.' = 1 ∧
            terms symbols text =
              .error (.fault (.secondPoint (String.ofList start)) (some text))) ∧
      ((∀ piece ∈ pieces, ¬ Overpointed piece) →
        ∃ readings, List.Forall₂ (Reads symbols) pieces readings ∧
          terms symbols text = .ok (insertProducts symbols readings.flatten)) ∧
      Lexer.terms symbols text = (walk symbols text.toList).map (insertProducts symbols) ∧
      walk symbols text.toList =
        (pieces.mapM (termsOfRun symbols)).map List.flatten := by
  have unique (others : List (List Char)) :
      MaximalRuns text.toList others ↔ others = runs text.toList :=
    maximalRuns_iff.trans eq_comm
  exact ⟨runs text.toList, unique, malformed_iff symbols,
    fun _ _ _ => terms_of_overpointed symbols, terms_of_sound symbols, rfl,
    walk_eq_found text.toList⟩

/-- **Reading is stable**: the terms of any text, written in order with blanks between any two of
them, are read again as they are. -/
theorem terms_of_rewritten {text other : String} {read : List Term}
    (isRead : terms {} text = .ok read) (rewritten : Separated read other.toList) :
    terms {} other = .ok read := by
  have multiplies : Term.times ∈ ({} : Symbols).operators := by decide
  have apart : ∀ name ∈ ({} : Symbols).variableNames, constants.lookup name = none := by decide
  rw [terms, mapError_eq_ok_iff] at isRead ⊢
  exact terms_of_separated Symbols.regular_default multiplies apart isRead rewritten

/-- Both the product that was put in and the value of the constant are read again. -/
theorem terms_of_rewritten_constant :
    terms {} "xy(π)" = .ok ["x", "*", "y", "*", "(", "3.141592653589793", ")"] ∧
      Separated ["x", "*", "y", "*", "(", "3.141592653589793", ")"]
        "x *\ty  * ( 3.141592653589793 )".toList ∧
      terms {} "x *\ty  * ( 3.141592653589793 )" =
        .ok ["x", "*", "y", "*", "(", "3.141592653589793", ")"] := by
  have isRead : terms {} "xy(π)" = .ok ["x", "*", "y", "*", "(", "3.141592653589793", ")"] := by
    rw [terms_eq_of_runs]
    rfl
  have shape : "x *\ty  * ( 3.141592653589793 )".toList =
      "x".toList ++ ' ' :: ("*".toList ++ '\t' :: ("y".toList ++ ' ' :: ' ' :: ("*".toList ++ ' ' ::
        ("(".toList ++ ' ' :: ("3.141592653589793".toList ++ ' ' :: (")".toList ++ [])))))) := rfl
  have rewritten : Separated ["x", "*", "y", "*", "(", "3.141592653589793", ")"]
      "x *\ty  * ( 3.141592653589793 )".toList := by
    rw [shape]
    refine .term ?_ (.blank rfl (.term ?_ (.blank rfl (.term ?_ (.blank rfl (.blank rfl
      (.term ?_ (.blank rfl (.term ?_ (.blank rfl (.term ?_ (.blank rfl
        (.term ?_ .done)))))))))))))
    all_goals
      intro c first
      cases first
    all_goals rfl
  exact ⟨isRead, rewritten, terms_of_rewritten isRead rewritten⟩

end InfixFormula.Engine
