/-!
# Results in sequence

A result is a value or a fault, and a sequence of results stops at the first fault. These lemmas
take a sequence apart: it gives a value when all of its parts do, and a fault is the fault of the
first part that fails.
-/

set_option autoImplicit false

namespace InfixFormula

variable {ε δ α β : Type}

theorem bind_eq_ok_iff {first : Except ε α} {next : α → Except ε β} {value : β} :
    (first >>= next) = .ok value ↔ ∃ middle, first = .ok middle ∧ next middle = .ok value := by
  cases first with
  | ok middle => exact ⟨fun later => ⟨middle, rfl, later⟩, fun | ⟨_, rfl, later⟩ => later⟩
  | error fault => exact ⟨nofun, nofun⟩

/-- A result that is only changed is there exactly if it was there before. -/
theorem exists_bind_pure_iff {first : Except ε α} {change : α → β} :
    (∃ value, (first >>= fun middle => pure (change middle)) = .ok value) ↔
      ∃ middle, first = .ok middle := by
  cases first with
  | ok middle => exact ⟨fun _ => ⟨middle, rfl⟩, fun _ => ⟨_, rfl⟩⟩
  | error fault => exact ⟨nofun, nofun⟩

theorem pure_ne_error {value : α} {fault : ε} : (pure value : Except ε α) ≠ .error fault :=
  nofun

theorem map_eq_ok_iff {change : α → β} {result : Except ε α} {value : β} :
    result.map change = .ok value ↔ ∃ before, result = .ok before ∧ change before = value := by
  cases result with
  | ok before =>
      constructor
      · rintro ⟨⟩
        exact ⟨before, rfl, rfl⟩
      · rintro ⟨_, ⟨⟩, rfl⟩
        rfl
  | error fault => exact ⟨nofun, nofun⟩

theorem map_eq_error_iff {change : α → β} {result : Except ε α} {fault : ε} :
    result.map change = .error fault ↔ result = .error fault := by
  cases result with
  | ok value => exact ⟨nofun, nofun⟩
  | error other => exact ⟨fun | rfl => rfl, fun | rfl => rfl⟩

/-- A sequence fails in its first part or behind it. -/
theorem fault_of_bind {first : Except ε α} {next : α → Except ε β} {fault : ε}
    (failed : (first >>= next) = .error fault) :
    first = .error fault ∨ ∃ value, first = .ok value ∧ next value = .error fault := by
  cases first with
  | ok value => exact .inr ⟨value, rfl, failed⟩
  | error other =>
      cases failed
      exact .inl rfl

theorem bind_eq_error_iff {first : Except ε α} {next : α → Except ε β} {fault : ε} :
    (first >>= next) = .error fault ↔
      first = .error fault ∨ ∃ value, first = .ok value ∧ next value = .error fault := by
  refine ⟨fault_of_bind, ?_⟩
  rintro (rfl | ⟨value, rfl, later⟩)
  · rfl
  · exact later

/-- A change of the fault keeps the value. -/
theorem mapError_eq_ok_iff {change : ε → δ} {result : Except ε α} {value : α} :
    result.mapError change = .ok value ↔ result = .ok value := by
  cases result with
  | ok other => exact ⟨fun | rfl => rfl, fun | rfl => rfl⟩
  | error fault => exact ⟨nofun, nofun⟩

/-- A list has values exactly if each of its items has one. -/
theorem exists_mapM_ok_iff {step : α → Except ε β} {items : List α} :
    (∃ values, items.mapM step = .ok values) ↔
      ∀ item ∈ items, ∃ value, step item = .ok value := by
  induction items with
  | nil => exact ⟨nofun, fun _ => ⟨[], rfl⟩⟩
  | cons item items ih =>
      rw [List.forall_mem_cons, ← ih, List.mapM_cons]
      constructor
      · rintro ⟨_, passed⟩
        obtain ⟨first, isFirst, passed⟩ := bind_eq_ok_iff.mp passed
        obtain ⟨rest, isRest, _⟩ := bind_eq_ok_iff.mp passed
        exact ⟨⟨first, isFirst⟩, rest, isRest⟩
      · rintro ⟨⟨first, isFirst⟩, rest, isRest⟩
        rw [isFirst, isRest]
        exact ⟨_, rfl⟩

/-- Where a list has values, each of them is the value of an item. -/
theorem exists_of_mapM_ok {step : α → Except ε β} {items : List α} {values : List β}
    (passed : items.mapM step = .ok values) : ∀ value ∈ values, ∃ item ∈ items,
      step item = .ok value := by
  induction items generalizing values with
  | nil =>
      cases passed
      exact nofun
  | cons item items ih =>
      rw [List.mapM_cons] at passed
      obtain ⟨first, isFirst, passed⟩ := bind_eq_ok_iff.mp passed
      obtain ⟨rest, isRest, passed⟩ := bind_eq_ok_iff.mp passed
      cases passed
      intro value member
      rcases List.mem_cons.mp member with rfl | member
      · exact ⟨item, List.mem_cons_self, isFirst⟩
      · obtain ⟨later, memberLater, isValue⟩ := ih isRest value member
        exact ⟨later, List.mem_cons_of_mem item memberLater, isValue⟩

/-- The first item that fails gives the fault of a list. -/
theorem mapM_of_first_error {step : α → Except ε β} {before after : List α} {item : α} {fault : ε}
    (passes : ∀ earlier ∈ before, ∃ value, step earlier = .ok value)
    (fails : step item = .error fault) : (before ++ item :: after).mapM step = .error fault := by
  induction before with
  | nil =>
      rw [List.nil_append, List.mapM_cons, fails]
      rfl
  | cons earlier before ih =>
      obtain ⟨⟨value, passed⟩, passes⟩ := List.forall_mem_cons.mp passes
      rw [List.cons_append, List.mapM_cons, passed, ih passes]
      rfl

end InfixFormula
