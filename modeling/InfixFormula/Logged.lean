/-!
# Results with notes

A computation that takes notes on the way gives a list of notes together with its result, which
may be a fault (`Logged`). The notes taken before a fault are kept. Taking notes has no influence
on the result.
-/

set_option autoImplicit false

namespace InfixFormula

/-- Notes of type `ν`, and a result of type `α` or a fault of type `ε`. -/
structure Logged (ν ε α : Type) where
  notes : List ν
  result : Except ε α

namespace Logged

variable {ν ε α β : Type}

/-- A result without notes. -/
def ofExcept (result : Except ε α) : Logged ν ε α :=
  ⟨[], result⟩

/-- A fault without notes. -/
def fail (fault : ε) : Logged ν ε α :=
  ⟨[], .error fault⟩

/-- One note. -/
def note (note : ν) : Logged ν ε Unit :=
  ⟨[note], .ok ()⟩

/-- Goes on with the result, unless it is a fault, and adds the notes taken then. -/
def bind (first : Logged ν ε α) (next : α → Logged ν ε β) : Logged ν ε β :=
  match first.result with
  | .ok value => ⟨first.notes ++ (next value).notes, (next value).result⟩
  | .error fault => ⟨first.notes, .error fault⟩

instance : Monad (Logged ν ε) where
  pure value := ⟨[], .ok value⟩
  bind := bind

instance : MonadLift (Except ε) (Logged ν ε) where
  monadLift := ofExcept

/-- Changes the fault, if there is one. -/
def mapFault {δ : Type} (change : ε → δ) (logged : Logged ν ε α) : Logged ν δ α :=
  ⟨logged.notes, logged.result.mapError change⟩

@[simp] theorem pure_result (value : α) : (pure value : Logged ν ε α).result = .ok value := rfl

@[simp] theorem pure_notes (value : α) : (pure value : Logged ν ε α).notes = [] := rfl

@[simp] theorem fail_result (fault : ε) : (fail fault : Logged ν ε α).result = .error fault := rfl

@[simp] theorem note_result (taken : ν) : (note taken : Logged ν ε Unit).result = .ok () := rfl

@[simp] theorem ofExcept_result (result : Except ε α) :
    (ofExcept result : Logged ν ε α).result = result := rfl

@[simp] theorem liftM_result (result : Except ε α) :
    (liftM result : Logged ν ε α).result = result := rfl

@[simp] theorem mapFault_result {δ : Type} (change : ε → δ) (logged : Logged ν ε α) :
    (logged.mapFault change).result = logged.result.mapError change := rfl

/-- The result of a sequence depends on the results of its parts only. -/
@[simp] theorem bind_result (first : Logged ν ε α) (next : α → Logged ν ε β) :
    (first >>= next).result = first.result >>= fun value => (next value).result := by
  show (bind first next).result = _
  cases first with
  | mk notes result => cases result <;> rfl

/-! ## Sequences -/

protected theorem bind_pure (logged : Logged ν ε α) : logged >>= pure = logged := by
  obtain ⟨notes, fault | value⟩ := logged
  · rfl
  · show mk (notes ++ []) (.ok value) = _
    rw [List.append_nil]

protected theorem bind_assoc {γ : Type} (first : Logged ν ε α) (next : α → Logged ν ε β)
    (last : β → Logged ν ε γ) :
    first >>= next >>= last = first >>= fun value => next value >>= last := by
  obtain ⟨notes, fault | value⟩ := first
  · rfl
  · show bind (mk (notes ++ (next value).notes) (next value).result) last =
      mk (notes ++ (bind (next value) last).notes) (bind (next value) last).result
    simp only [bind]
    cases (next value).result with
    | ok middle => simp only [List.append_assoc]
    | error fault => rfl

instance : LawfulMonad (Logged ν ε) :=
  .mk' _ Logged.bind_pure (fun _ _ => rfl) Logged.bind_assoc

@[simp] theorem map_result (change : α → β) (logged : Logged ν ε α) :
    (change <$> logged).result = logged.result.map change := by
  rw [← bind_pure_comp, bind_result]
  cases logged.result <;> rfl

end Logged

end InfixFormula
