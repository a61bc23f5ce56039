import InfixFormula.Proofs.Engine.Equation
import InfixFormula.Proofs.Engine.Variables
import InfixFormula.Proofs.Settings.Usable
import InfixFormula.Proofs.Term.Walk

/-!
# How a calculation ends

Whatever the text is, one would expect that calculating it with binary64 numbers as values and with
a JSON object as settings gives a binary64 number, or a fault that a caller is told to expect and
that carries the text. This is so unless the calculation comes to look at the settings and they are
refused for a value that cannot be shown in a message; then there is neither
(`calculate_settles`). It gives a number exactly if the text is read and built and every variable of
the formula has a value.

The steps of a calculation are reading, building and evaluating. Each of them has the two endings
that one expects (`Settled`), for its own reasons: the lexer knows one fault, the faults of building
are not internal, and arithmetic on binary64 numbers does not fail. A sequence of steps with these
endings has them as well (`Settled.bind`). Settings are looked at behind a first check of the terms,
so settings that are refused are refused behind this check (`buildEither_of_refused`).
-/

set_option autoImplicit false

namespace InfixFormula

open InfixFormula.Bracket Validation

namespace Engine

/-- A result, or a fault that a caller is told to expect. -/
def Settled {α : Type} (result : Except Failure α) : Prop :=
  (∃ value, result = .ok value) ∨
    ∃ fault equation, result = .error (.fault fault equation) ∧ fault.kind.isA .math = true

namespace Settled

variable {α β : Type}

theorem bind {first : Except Failure α} {next : α → Except Failure β} (settled : Settled first)
    (later : ∀ value, first = .ok value → Settled (next value)) : Settled (first >>= next) := by
  rcases settled with ⟨value, rfl⟩ | ⟨fault, equation, rfl, math⟩
  · exact later value rfl
  · exact .inr ⟨fault, equation, rfl, math⟩

/-- A result whose faults are expected. -/
theorem of_math {result : Except Fault α}
    (math : ∀ fault, result = .error fault → fault.kind.isA .math = true) :
    Settled (result.mapError Failure.ofFault) := by
  cases result with
  | ok value => exact .inl ⟨value, rfl⟩
  | error fault => exact .inr ⟨fault, none, rfl, math fault rfl⟩

/-- The text goes to every expected fault. -/
theorem withEquation {result : Except Failure α} (settled : Settled result) (text : String) :
    (∃ value, result.mapError (Failure.withEquation text) = .ok value) ∨
      ∃ fault, result.mapError (Failure.withEquation text) = .error (.fault fault (some text)) ∧
        fault.kind.isA .math = true := by
  rcases settled with ⟨value, rfl⟩ | ⟨fault, equation, rfl, math⟩
  · exact .inl ⟨value, rfl⟩
  · have carries : fault.kind.carriesEquation = true := by
      rw [FaultKind.carriesEquation, FaultKind.not_internal_of_math math]
      rfl
    refine .inr ⟨fault, congrArg Except.error ?_, math⟩
    rw [Failure.withEquation, if_pos carries]

end Settled

/-! ## The steps of a calculation -/

theorem settled_terms (symbols : Symbols) (text : String) : Settled (terms symbols text) := by
  rw [terms]
  cases read : Lexer.terms symbols text with
  | ok found => exact .inl ⟨found, rfl⟩
  | error fault =>
      obtain ⟨start, rfl⟩ := Lexer.secondPoint_of_error read
      exact .inr ⟨.secondPoint start, some text, rfl, rfl⟩

/-- What is checked of terms before the settings are looked at: terms with an equals sign are split
there, and others are validated. -/
def precheck (terms : List Term) : Except Fault Unit :=
  if Term.equals ∈ terms then (Equation.ofTerms terms).map fun _ => ()
  else validate {} terms

theorem math_of_precheck {terms : List Term} {fault : Fault}
    (failed : precheck terms = .error fault) : fault.kind.isA .math = true := by
  rw [precheck] at failed
  split at failed
  next => exact Equation.math_of_ofTerms (map_eq_error_iff.mp failed)
  next => exact Validation.math_of_error failed

section Building

variable {store : SettingStore} {given : Json} {terms : List Term}

/-- **Settings that are refused are refused behind the first check of the terms.** -/
theorem buildEither_of_refused {failure : Failure}
    (refused : settings store given = .error failure) (terms : List Term) :
    (buildEither store given terms).result =
      (precheck terms).mapError .ofFault >>= fun _ => .error failure := by
  rw [buildEither, precheck]
  split
  next =>
    simp only [buildEquation, settleResult, Logged.bind_result, Logged.liftM_result, refused]
    rw [settle_of_math store false fun _ => Equation.math_of_ofTerms]
    show (Equation.ofTerms terms).mapError _ >>= _ = _
    cases Equation.ofTerms terms <;> rfl
  next =>
    simp only [build, create, settleResult, Logged.bind_result, Logged.liftM_result, refused]
    rw [settle_of_math store false fun _ => Validation.math_of_error]
    rfl

/-- With settings that are accepted, building ends as expected. -/
theorem settled_of_accepted {found : Settings} (accepted : settings store given = .ok found) :
    Settled (buildEither store given terms).result := by
  have resolved := Symbols.regular_default.toResolved
  rw [buildEither]
  split
  next =>
    rw [buildEquation_result resolved accepted]
    refine .of_math fun fault failed => ?_
    rcases fault_of_bind failed with unsplit | ⟨equation, _, failed⟩
    · exact Equation.math_of_ofTerms unsplit
    · exact (Equation.kind_of_error resolved failed).1
  next =>
    rw [build_result resolved accepted]
    exact .of_math fun fault failed =>
      (Reported.of_buildFault (Builder.buildFault_of_error resolved failed)).math

/-- With settings that are refused with a fault, building ends as expected. -/
theorem settled_of_fault {cause : SettingFault}
    (refused : settings store given = .error (.ofFault (.setting cause))) :
    Settled (buildEither store given terms).result := by
  rw [buildEither_of_refused refused]
  exact (Settled.of_math fun _ => math_of_precheck).bind
    fun _ _ => .inr ⟨.setting cause, none, rfl, rfl⟩

end Building

/-- The settings of an object are read from the defaults under it. -/
theorem settings_object (store : SettingStore) (fields : List (Utf16 × Json)) :
    settings store (.object fields) =
      (Settings.ofTable (Settings.overlaid fields)).mapError .ofRefusal := by
  rw [settings, settingsOf, Settings.tableOf_object]
  · rfl
  · nofun

/-- **The settings of an object** are accepted, refused with a fault, or refused for a value that
cannot be shown. -/
theorem settings_object_cases (store : SettingStore) (fields : List (Utf16 × Json)) :
    ((∀ value, (Settings.overlaid fields).RefusedFor value → ¬ value.Overlong) ∧
      ((∃ found, settings store (.object fields) = .ok found) ∨
        ∃ cause, settings store (.object fields) = .error (.ofFault (.setting cause)))) ∨
    ((∃ value, (Settings.overlaid fields).RefusedFor value ∧ value.Overlong) ∧
      settings store (.object fields) = .error .overlongInteger) := by
  rw [settings_object]
  by_cases usable : (Settings.overlaid fields).Usable
  · obtain ⟨found, read⟩ := Settings.exists_ofTable_iff.mpr usable
    refine .inl ⟨fun value refused => ?_, .inl ⟨found, by rw [read]; rfl⟩⟩
    exact absurd usable (Settings.not_usable_iff.mpr ⟨value, refused⟩)
  · obtain ⟨value, refused⟩ := Settings.not_usable_iff.mp usable
    rcases Settings.ofTable_of_refusedFor refused with ⟨short, cause, read⟩ | ⟨overlong, read⟩
    · rw [read]
      refine .inl ⟨fun other refusedOther => ?_, .inr ⟨cause, rfl⟩⟩
      rwa [refused.unique refusedOther]
    · rw [read]
      exact .inr ⟨⟨value, refused, overlong⟩, rfl⟩

theorem settled_evaluate (values : String → Option Binary64) (formula : Formula) :
    Settled (evaluate (.reals values) formula) := by
  rw [evaluate]
  rcases formula.real_reals values with ⟨name, _, failed⟩ | ⟨_, x, result⟩
  · rw [failed]
    exact .inr ⟨.unboundVariable name, none, rfl, rfl⟩
  · rw [result]
    exact .inl ⟨x, rfl⟩

/-! ## The whole calculation -/

/-- A calculation reads, builds and evaluates, and its faults get the text. -/
theorem calculate_result (store : SettingStore) (given : Json) (text : String)
    (environment : Environment) :
    (calculate store given text environment).result =
      (terms {} text >>= fun found => (buildEither store given found).result >>=
        evaluate environment).mapError (Failure.withEquation text) := by
  simp only [calculate, Logged.mapFault_result, Logged.bind_result, Logged.liftM_result]

/-- The text passes what comes before the settings, and the settings are refused for a value that
cannot be shown. -/
def MeetsOverlong (fields : List (Utf16 × Json)) (text : String) : Prop :=
  (∃ found, terms {} text = .ok found ∧ precheck found = .ok ()) ∧
    ∃ value, (Settings.overlaid fields).RefusedFor value ∧ value.Overlong

/-- A calculation that meets such a value ends there. -/
theorem calculate_of_meetsOverlong {fields : List (Utf16 × Json)} {text : String}
    (meets : MeetsOverlong fields text) (store : SettingStore) (environment : Environment) :
    (calculate store (.object fields) text environment).result = .error .overlongInteger := by
  obtain ⟨⟨found, read, passed⟩, value, refused, overlong⟩ := meets
  have refuses : settings store (.object fields) = .error .overlongInteger := by
    rcases settings_object_cases store fields with ⟨short, _⟩ | ⟨_, refuses⟩
    · exact absurd overlong (short value refused)
    · exact refuses
  rw [calculate_result, read]
  show ((buildEither store (.object fields) found).result >>= _).mapError _ = _
  rw [buildEither_of_refused refuses, passed]
  rfl

/-- Every other calculation ends as expected. -/
theorem settled_of_not_meetsOverlong {fields : List (Utf16 × Json)} {text : String}
    (other : ¬ MeetsOverlong fields text) (store : SettingStore)
    (values : String → Option Binary64) :
    Settled (terms {} text >>= fun found =>
      (buildEither store (.object fields) found).result >>= evaluate (.reals values)) := by
  refine (settled_terms {} text).bind fun found read => Settled.bind ?_ fun formula _ =>
    settled_evaluate values formula
  rcases settings_object_cases store fields with
    ⟨_, ⟨_, accepted⟩ | ⟨_, refused⟩⟩ | ⟨unshown, refused⟩
  · exact settled_of_accepted accepted
  · exact settled_of_fault refused
  · rw [buildEither_of_refused refused]
    refine (Settled.of_math fun _ => math_of_precheck).bind fun _ passed => ?_
    exact absurd ⟨⟨found, read, mapError_eq_ok_iff.mp passed⟩, unshown⟩ other

/-- **How a calculation ends.** With binary64 numbers as values and an object as settings,
calculating a text gives a binary64 number, or a fault that a caller is told to expect and that
carries the text, unless it meets a value of the settings that is refused and cannot be shown. Then
it fails for this alone. It gives a number exactly if the text is read and built, and every variable
of the formula has a value. -/
theorem calculate_settles (store : SettingStore) (fields : List (Utf16 × Json)) (text : String)
    (values : String → Option Binary64) :
    (((∃ x, (calculate store (.object fields) text (.reals values)).result = .ok x) ∨
      ∃ fault, (calculate store (.object fields) text (.reals values)).result =
          .error (.fault fault (some text)) ∧
        fault.kind.isA .math = true ∧ fault.kind.isA .internal = false) ↔
      ¬ MeetsOverlong fields text) ∧
    ((calculate store (.object fields) text (.reals values)).result = .error .overlongInteger ↔
      MeetsOverlong fields text) ∧
    ((∃ x, (calculate store (.object fields) text (.reals values)).result = .ok x) ↔
      ∃ found formula, terms {} text = .ok found ∧
        (buildEither store (.object fields) found).result = .ok formula ∧
        ∀ name ∈ formula.variableNames, (values name).isSome = true) := by
  refine ⟨?_, ?_, ?_⟩
  · constructor
    · intro expected meets
      rw [calculate_of_meetsOverlong meets] at expected
      rcases expected with ⟨_, ⟨⟩⟩ | ⟨_, ⟨⟩, _⟩
    · intro other
      rw [calculate_result]
      rcases (settled_of_not_meetsOverlong other store values).withEquation text with
        number | ⟨fault, failed, math⟩
      · exact .inl number
      · exact .inr ⟨fault, failed, math, FaultKind.not_internal_of_math math⟩
  · refine ⟨fun failed => ?_, fun meets => calculate_of_meetsOverlong meets store _⟩
    by_contra other
    rw [calculate_result] at failed
    rcases (settled_of_not_meetsOverlong other store values).withEquation text with
      ⟨x, number⟩ | ⟨fault, faulty, _⟩
    · rw [number] at failed
      cases failed
    · rw [faulty] at failed
      cases failed
  · rw [calculate_result]
    simp only [mapError_eq_ok_iff, bind_eq_ok_iff, evaluate_eq_ok_iff, ← Formula.exists_real_iff]
    constructor
    · rintro ⟨x, found, read, formula, built, result⟩
      exact ⟨found, formula, read, built, x, result⟩
    · rintro ⟨found, formula, read, built, x, result⟩
      exact ⟨x, found, read, formula, built, result⟩

/-- Any text that is read and passes the first check meets a depth with too many digits. -/
theorem meetsOverlong_depth {depth : Int} (large : 10 ^ integerDigitLimit ≤ depth.natAbs)
    {text : String} {found : List Term} (read : terms {} text = .ok found)
    (passed : precheck found = .ok ()) :
    MeetsOverlong [("max_depth", .number (.integer depth))] text := by
  refine ⟨⟨found, read, passed⟩, .number (.integer depth), .depth rfl ?_, .integer large⟩
  intro number positive within same
  cases same
  have least : maxDepthLimit < 10 ^ integerDigitLimit :=
    Nat.lt_of_lt_of_le (by decide : maxDepthLimit < 10 ^ 3)
      (Nat.pow_le_pow_right (by decide) (by decide))
  omega

/-- **A depth that is too large to be shown is no fault.** -/
theorem calculate_overlongDepth :
    (calculate .initial (.object [("max_depth", .number (.integer (10 ^ 5000)))]) "1"
      (.reals fun _ => none)).result = .error .overlongInteger := by
  have read : terms {} "1" = .ok ["1"] := by
    rw [terms, Lexer.terms_eq]
    rfl
  have large (digits : Nat) (many : integerDigitLimit ≤ digits) :
      10 ^ integerDigitLimit ≤ (10 ^ digits : Int).natAbs := by
    rw [Int.natAbs_pow]
    exact Nat.pow_le_pow_right (by decide) many
  exact calculate_of_meetsOverlong (meetsOverlong_depth (large 5000 (by decide)) read rfl) _ _

end Engine

end InfixFormula
