import HttpScenario.Error
/-!
# Steps that can fail, one after the other

Many parts of the library are a few steps in sequence, each of which can fail.  Such a sequence
succeeds if all steps do, and fails with the error of the first step that does not; the equivalences
below take a sequence apart step by step.

Readers are such sequences, and give what is left of their input beside a value.  Where only the
value matters, `Gives` says what it is like if there is one; the rules for it follow the steps.
-/

namespace HttpScenario

variable {ε σ α β : Type}

/-! ### How a sequence ends -/

/-- A sequence comes to a result if its first step does, and what follows it does with that. -/
theorem bind_eq_ok_iff {x : Except ε α} {f : α → Except ε β} {b : β} :
    x >>= f = .ok b ↔ ∃ a, x = .ok a ∧ f a = .ok b := by
  cases x with
  | error e =>
    constructor
    · intro h
      cases h
    · rintro ⟨a, h, -⟩
      cases h
  | ok a =>
    constructor
    · intro h
      exact ⟨a, rfl, h⟩
    · rintro ⟨a', h, hf⟩
      cases h
      exact hf

/-- A sequence fails with the error of its first step, or with that of what follows it. -/
theorem bind_eq_error_iff {x : Except ε α} {f : α → Except ε β} {e : ε} :
    x >>= f = .error e ↔ x = .error e ∨ ∃ a, x = .ok a ∧ f a = .error e := by
  cases x with
  | error e' =>
    constructor
    · intro h
      cases h
      exact Or.inl rfl
    · rintro (h | ⟨a, h, -⟩)
      · cases h
        rfl
      · cases h
  | ok a =>
    constructor
    · intro h
      exact Or.inr ⟨a, rfl, h⟩
    · rintro (h | ⟨a', h, hf⟩)
      · cases h
      · cases h
        exact hf

/-- What comes of a step is handed on if there is a result. -/
theorem map_eq_ok_iff {x : Except ε α} {f : α → β} {b : β} :
    x.map f = .ok b ↔ ∃ a, x = .ok a ∧ f a = b := by
  cases x with
  | error e =>
    constructor
    · intro h
      cases h
    · rintro ⟨a, h, -⟩
      cases h
  | ok a =>
    constructor
    · intro h
      exact ⟨a, rfl, Except.ok.inj h⟩
    · rintro ⟨a', h, hf⟩
      cases h
      exact congrArg Except.ok hf

/-- Another account of an error changes no result. -/
theorem mapError_eq_ok_iff {ε' : Type} {x : Except ε α} {f : ε → ε'} {a : α} :
    x.mapError f = .ok a ↔ x = .ok a := by
  cases x with
  | error e => exact ⟨nofun, nofun⟩
  | ok b => exact ⟨fun h => congrArg _ (Except.ok.inj h), fun h => congrArg _ (Except.ok.inj h)⟩

/-! ### What a reader gives -/

/-- If a reader succeeds, its value has a property. -/
def Gives (r : Except ε (α × σ)) (P : α → Prop) : Prop :=
  ∀ a s, r = .ok (a, s) → P a

variable {P : α → Prop} {Q : β → Prop}

theorem gives_ok {a : α} (h : P a) (s : σ) : Gives (.ok (a, s) : Except ε (α × σ)) P := by
  rintro a' s' ⟨⟩
  exact h

theorem gives_error (e : ε) : Gives (.error e : Except ε (α × σ)) P := nofun

theorem gives_bind {τ : Type} {x : Except ε τ} {f : τ → Except ε (β × σ)}
    (h : ∀ t, x = .ok t → Gives (f t) Q) : Gives (x >>= f) Q := by
  intro b s hb
  obtain ⟨t, ht, hf⟩ := bind_eq_ok_iff.mp hb
  exact h t ht b s hf

theorem gives_map {τ : Type} {x : Except ε τ} {f : τ → β × σ} (h : ∀ t, x = .ok t → Q (f t).1) :
    Gives (x.map f) Q := by
  intro b s hb
  obtain ⟨t, ht, hf⟩ := map_eq_ok_iff.mp hb
  have hq := h t ht
  rw [hf] at hq
  exact hq

end HttpScenario
