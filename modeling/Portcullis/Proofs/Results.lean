/-
# Results of steps

A run of steps ends well only when each of its steps does, and it fails only as one of its steps
fails.

**Main statements.**  `bind_eq_ok` and `FailsOnly.bind`.
-/

namespace Portcullis

/-! ## 1. Results that are there -/

/-- After a result the next step is taken from it. -/
theorem ok_bind {ε α β : Type} (a : α) (f : α → Except ε β) : (.ok a >>= f) = f a := rfl

/-- What comes out of two steps comes out of the first and then out of the second. -/
theorem bind_eq_ok {ε α β : Type} {x : Except ε α} {f : α → Except ε β} {b : β}
    (h : x >>= f = .ok b) : ∃ a, x = .ok a ∧ f a = .ok b := by
  cases x with
  | error e => cases h
  | ok a => exact ⟨a, rfl, h⟩

/-- What is made of a result is made of one that is there. -/
theorem map_eq_ok {ε α β : Type} {f : α → β} {x : Except ε α} {b : β} (h : f <$> x = .ok b) :
    ∃ a, x = .ok a ∧ f a = b := by
  cases x with
  | error e => cases h
  | ok a => exact ⟨a, rfl, Except.ok.inj h⟩

/-- A result that is there is the result. -/
theorem ok_of_toOption {ε α : Type} {x : Except ε α} {a : α} (h : x.toOption = some a) :
    x = .ok a := by
  cases x with
  | error e => cases h
  | ok b => exact congrArg Except.ok (Option.some.inj h)

theorem exists_ok_of_toOption {ε α : Type} {x : Except ε α} (h : x.toOption.isSome = true) :
    ∃ a, x = .ok a := by
  obtain ⟨a, ha⟩ := Option.isSome_iff_exists.mp h
  exact ⟨a, ok_of_toOption ha⟩

/-- A part of a result that is there is that of the result. -/
theorem ok_of_map_toOption {ε α β : Type} {x : Except ε α} {f : α → β} {b : β}
    (h : x.toOption.map f = some b) : ∃ a, x = .ok a ∧ f a = b := by
  obtain ⟨a, ha, hb⟩ := Option.map_eq_some_iff.mp h
  exact ⟨a, ok_of_toOption ha, hb⟩

/-- A result that is there stays if failures are changed, and none comes to be. -/
theorem mapError_eq_ok_iff {ε ε' α : Type} {f : ε → ε'} {x : Except ε α} {a : α} :
    x.mapError f = .ok a ↔ x = .ok a := by
  cases x with
  | error e => exact iff_of_false nofun nofun
  | ok b =>
    constructor
    · intro h
      exact congrArg Except.ok (Except.ok.inj h)
    · intro h
      exact congrArg Except.ok (Except.ok.inj h)

/-- A failure that is changed is one that was there. -/
theorem mapError_eq_error_iff {ε ε' α : Type} {f : ε → ε'} {x : Except ε α} {e' : ε'} :
    x.mapError f = .error e' ↔ ∃ e, x = .error e ∧ f e = e' := by
  cases x with
  | error e =>
    constructor
    · intro h
      exact ⟨e, rfl, Except.error.inj h⟩
    · rintro ⟨_, ⟨⟩, rfl⟩
      rfl
  | ok b =>
    refine iff_of_false nofun ?_
    rintro ⟨_, ⟨⟩, -⟩

/-! ## 2. Failures of one kind -/

/-- Whatever is in the place of a result is of a kind. -/
def FailsOnly {ε α : Type} (kind : ε → Prop) (x : Except ε α) : Prop := ∀ e, x = .error e → kind e

section FailsOnly

variable {ε α β : Type} {kind : ε → Prop}

theorem failsOnly_ok (a : α) : FailsOnly kind (.ok a) := by
  rintro e ⟨⟩

theorem failsOnly_error {e : ε} (h : kind e) : FailsOnly (α := α) kind (.error e) := by
  rintro _ ⟨⟩
  exact h

theorem FailsOnly.mono {kind' : ε → Prop} {x : Except ε α} (h : FailsOnly kind x)
    (hle : ∀ e, kind e → kind' e) : FailsOnly kind' x := fun e he => hle e (h e he)

/-- Two steps fail as the first fails, or as the second fails after it. -/
theorem FailsOnly.bind {x : Except ε α} {f : α → Except ε β} (hx : FailsOnly kind x)
    (hf : ∀ a, x = .ok a → FailsOnly kind (f a)) : FailsOnly kind (x >>= f) := by
  cases x with
  | error e => exact failsOnly_error (hx e rfl)
  | ok a => exact hf a rfl

/-- Failures that are changed are of a kind if they were of one that is changed into it. -/
theorem FailsOnly.mapError {ε' : Type} {kind' : ε' → Prop} {x : Except ε α} {f : ε → ε'}
    (h : FailsOnly kind x) (hf : ∀ e, kind e → kind' (f e)) : FailsOnly kind' (x.mapError f) := by
  intro e' he'
  obtain ⟨e, he, rfl⟩ := mapError_eq_error_iff.mp he'
  exact hf e (h e he)

end FailsOnly

end Portcullis
