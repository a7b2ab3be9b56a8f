namespace SwaggerClient

variable {ε α β : Type}

theorem bind_eq_ok {x : Except ε α} {f : α → Except ε β} {b : β} :
    x >>= f = .ok b ↔ ∃ a, x = .ok a ∧ f a = .ok b := by
  cases x with
  | error e => simp [bind, Except.bind]
  | ok a => simp [bind, Except.bind]

theorem bind_eq_error {x : Except ε α} {f : α → Except ε β} {e : ε} :
    x >>= f = .error e ↔ x = .error e ∨ ∃ a, x = .ok a ∧ f a = .error e := by
  cases x with
  | error e' => simp [bind, Except.bind]
  | ok a => simp [bind, Except.bind]

theorem map_eq_ok {x : Except ε α} {f : α → β} {b : β} :
    x.map f = .ok b ↔ ∃ a, x = .ok a ∧ f a = b := by
  cases x with
  | error e => simp [Except.map]
  | ok a => simp [Except.map]

theorem mapError_eq_ok {ε' : Type} {x : Except ε α} {f : ε → ε'} {a : α} :
    x.mapError f = .ok a ↔ x = .ok a := by
  cases x with
  | error e => exact ⟨fun h => (by cases h), fun h => (by cases h)⟩
  | ok b => exact ⟨fun h => congrArg _ (Except.ok.inj h), fun h => congrArg _ (Except.ok.inj h)⟩

theorem mapError_eq_error {ε' : Type} {x : Except ε α} {f : ε → ε'} {e' : ε'} :
    x.mapError f = .error e' ↔ ∃ e, x = .error e ∧ f e = e' := by
  cases x with
  | error e =>
    constructor
    · exact fun h => ⟨e, rfl, Except.error.inj h⟩
    · rintro ⟨_, h, rfl⟩
      obtain rfl := Except.error.inj h
      rfl
  | ok a => exact ⟨fun h => (by cases h), fun ⟨_, h, _⟩ => (by cases h)⟩

theorem ok_bind (a : α) (f : α → Except ε β) : (Except.ok a >>= f) = f a := rfl

theorem throw_eq_error (e : ε) : (throw e : Except ε α) = .error e := rfl

/-- A relation between runs that holds of a run and itself, and of runs that are related step by step. -/
structure Stepwise (R : {α : Type} → Except ε α → Except ε α → Prop) : Prop where
  refl : ∀ {α : Type} (x : Except ε α), R x x
  bind : ∀ {α β : Type} {x y : Except ε α} {f g : α → Except ε β},
    R x y → (∀ a, R (f a) (g a)) → R (x >>= f) (y >>= g)

theorem Stepwise.eq : Stepwise (fun x y => x = y : {α : Type} → Except ε α → Except ε α → Prop) where
  refl _ := rfl
  bind hxy hfg := hxy ▸ bind_congr hfg

/-- The second run gives what the first gives, if that gives anything. -/
def Gives (x y : Except ε α) : Prop :=
  ∀ a, x = .ok a → y = .ok a

theorem Gives.bind {x y : Except ε α} {f g : α → Except ε β} (hxy : Gives x y)
    (hfg : ∀ a, Gives (f a) (g a)) : Gives (x >>= f) (y >>= g) := by
  intro b h
  obtain ⟨a, ha, hb⟩ := bind_eq_ok.mp h
  rw [hxy a ha, ok_bind]
  exact hfg a b hb

theorem Gives.map {x y : Except ε α} (h : Gives x y) (f : α → β) : Gives (x.map f) (y.map f) := by
  intro b hb
  obtain ⟨a, ha, rfl⟩ := map_eq_ok.mp hb
  rw [h a ha]
  rfl

theorem Gives.of_error (e : ε) (x : Except ε α) : Gives (.error e) x := nofun

theorem Gives.ite {c : Prop} [Decidable c] {x x' y y' : Except ε α} (hx : Gives x x')
    (hy : Gives y y') : Gives (if c then x else y) (if c then x' else y') := by
  split
  · exact hx
  · exact hy

theorem Gives.stepwise : Stepwise (Gives : {α : Type} → Except ε α → Except ε α → Prop) where
  refl _ _ h := h
  bind := Gives.bind

end SwaggerClient
