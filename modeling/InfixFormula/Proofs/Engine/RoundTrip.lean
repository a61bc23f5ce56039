import InfixFormula.Proofs.Engine.Parsing
import InfixFormula.Proofs.Grammar.Draft

/-!
# Reading back what is written out

A formula that is written out in full brackets, with any blanks between its terms, is built from its
text again, up to the greatest depth (`buildText_of_spaced`).
-/

set_option autoImplicit false

namespace InfixFormula.Engine

/-- **A draft is built from its text**: with any blanks between its terms, the text of a draft gives
the formula of the draft, unless that is higher than the greatest depth. -/
theorem buildText_of_spaced {store : SettingStore} {given : Json} {settings : Settings}
    (accepted : Engine.settings store given = .ok settings) (draft : Draft) {text : String}
    (spaced : Lexer.Spaced draft.terms text.toList) :
    (buildText store given text).result =
      if (draft.formula settings.angleUnit).height ≤ settings.maxDepth then
        .ok (draft.formula settings.angleUnit)
      else .error (.ofFault (.tooDeep settings.maxDepth)) := by
  have read : terms {} text = .ok draft.terms := by
    rw [terms, draft.terms_of_spaced spaced]
    rfl
  have built : (buildText store given text).result = (build store {} given draft.terms).result := by
    rw [buildText, read, Logged.bind_result]
    rfl
  have derivation : Derives {} settings.angleUnit ({} : Symbols).operators draft.terms
      (draft.formula settings.angleUnit) := (draft.derives settings.angleUnit).of_unit _
  have validated : (builder {} settings).validated draft.terms =
      (builder {} settings).bounded (settings.maxDepth + 1)
        (draft.formula settings.angleUnit) := derivation.validated_eq Symbols.regular_default
  rw [built, build_result Symbols.regular_default.toResolved accepted, validated, Builder.bounded]
  simp only [Nat.lt_succ_iff, builder]
  split <;> rfl

/-- Blanks may stand between any two terms and around the whole. -/
theorem buildText_of_spaced_quotient :
    Engine.settings .initial (.object []) =
        .ok ⟨false, 200, .radians, by decide, by decide⟩ ∧
      Lexer.Spaced (Draft.binary .divide (.reference "x" rfl)
        (.call .sin (.number ⟨[], some ['5'], rfl, List.cons_ne_nil _ _⟩))).terms
          " ( x/ sin(.5)\t)".toList ∧
      (buildText .initial (.object []) " ( x/ sin(.5)\t)").result =
        .ok (.binary .divide (.reference "x") (.call .sin .radians (.number 0.5))) := by
  have accepted := settings_empty .initial
  have shape : " ( x/ sin(.5)\t)".toList = ' ' :: ("(".toList ++ ' ' :: ("x".toList ++
      ("/".toList ++ ' ' :: ("sin".toList ++ ("(".toList ++ (".5".toList ++ (")".toList ++
        '\t' :: (")".toList ++ [])))))))) := rfl
  have spaced : Lexer.Spaced (Draft.binary .divide (.reference "x" rfl)
      (.call .sin (.number ⟨[], some ['5'], rfl, List.cons_ne_nil _ _⟩))).terms
        " ( x/ sin(.5)\t)".toList := by
    rw [shape]
    exact .blank rfl (.term (.blank rfl (.term (.term (.blank rfl (.term (.term (.term (.term
      (.blank rfl (.term .done)))))))))))
  exact ⟨accepted, spaced, (buildText_of_spaced accepted _ spaced).trans (if_pos (by decide))⟩

end InfixFormula.Engine
