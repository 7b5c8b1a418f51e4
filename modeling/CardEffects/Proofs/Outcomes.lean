import CardEffects.Game.Dispatch
import Mathlib.Logic.Basic
import Mathlib.Order.Defs.Unbundled
import Mathlib.Tactic.Lemma

/-!
# Outcomes of operations

Run equations of operations, and the state that an operation leaves behind when its fault is
not told apart from its value. `Within R` says that this state is related by `R` to the one
before it, and a preorder passes through every sequence of operations.
-/

namespace CardEffects.Proofs

variable {ε σ α β γ : Type}

@[simp] lemma bind_run (x : EStateM ε σ α) (f : α → EStateM ε σ β) (s : σ) :
    (x >>= f) s =
      match x s with
      | .ok a s => f a s
      | .error e s => .error e s := rfl

@[simp] lemma map_run (f : α → β) (x : EStateM ε σ α) (s : σ) :
    (f <$> x) s =
      match x s with
      | .ok a s => .ok (f a) s
      | .error e s => .error e s := rfl

@[simp] lemma pure_run (a : α) (s : σ) : (pure a : EStateM ε σ α) s = .ok a s := rfl

@[simp] lemma throw_run (e : ε) (s : σ) : (throw e : EStateM ε σ α) s = .error e s := rfl

@[simp] lemma get_run (s : σ) : (get : EStateM ε σ σ) s = .ok s s := rfl

@[simp] lemma modify_run (f : σ → σ) (s : σ) :
    (modify f : EStateM ε σ PUnit) s = .ok ⟨⟩ (f s) := rfl

@[simp] lemma discard_run (x : EStateM ε σ α) (s : σ) :
    (discard x) s =
      match x s with
      | .ok _ s => .ok ⟨⟩ s
      | .error e s => .error e s := rfl

@[simp] lemma settle_ok (a : α) : (settle (.ok a) : EStateM ε σ α) = pure a := rfl

@[simp] lemma settle_error (e : ε) : (settle (.error e) : EStateM ε σ α) = throw e := rfl

lemma attempt_run_ok {x : EStateM ε σ α} {s s' : σ} {a : α} (h : x s = .ok a s') :
    attempt x s = .ok (.ok a) s' := by
  unfold attempt
  rw [h]

lemma attempt_run_error {x : EStateM ε σ α} {s s' : σ} {e : ε} (h : x s = .error e s') :
    attempt x s = .ok (.error e) s' := by
  unfold attempt
  rw [h]

lemma attempt_eq_ok {x : EStateM ε σ α} {s s' : σ} {a : α} :
    attempt x s = .ok (.ok a) s' ↔ x s = .ok a s' := by
  unfold attempt
  cases x s <;> simp

lemma attempt_congr {x y : EStateM ε σ α} {s s' : σ} (h : x s = y s') :
    attempt x s = attempt y s' := by
  unfold attempt
  rw [h]

lemma bind_ok {x : EStateM ε σ α} {f : α → EStateM ε σ β} {s s' : σ} {b : β}
    (h : (x >>= f) s = .ok b s') : ∃ a s₁, x s = .ok a s₁ ∧ f a s₁ = .ok b s' := by
  rw [bind_run] at h
  cases hrun : x s with
  | ok a s₁ => exact ⟨a, s₁, rfl, by simpa [hrun] using h⟩
  | error e s₁ => simp [hrun] at h

/-- The state that an operation leaves, whether or not it ends in a fault. -/
def leftBy (operation : EStateM ε σ α) (s : σ) : σ :=
  match operation s with
  | .ok _ s => s
  | .error _ s => s

lemma leftBy_of_ok {operation : EStateM ε σ α} {s s' : σ} {a : α} (h : operation s = .ok a s') :
    leftBy operation s = s' := by
  unfold leftBy
  rw [h]

lemma leftBy_of_error {operation : EStateM ε σ α} {s s' : σ} {e : ε}
    (h : operation s = .error e s') : leftBy operation s = s' := by
  unfold leftBy
  rw [h]

@[simp] lemma leftBy_discard (x : EStateM ε σ α) (s : σ) : leftBy (discard x) s = leftBy x s := by
  unfold leftBy
  rw [discard_run]
  cases x s <;> rfl

@[simp] lemma leftBy_attempt (x : EStateM ε σ α) (s : σ) : leftBy (attempt x) s = leftBy x s := by
  unfold leftBy attempt
  cases x s <;> rfl

@[simp] lemma leftBy_settle (result : Except ε α) (s : σ) :
    leftBy (settle result : EStateM ε σ α) s = s := by
  cases result <;> rfl

lemma attempt_run (x : EStateM ε σ α) (s : σ) :
    ∃ result, attempt x s = .ok result (leftBy x s) := by
  unfold attempt leftBy
  cases x s with
  | ok a s' => exact ⟨.ok a, rfl⟩
  | error e s' => exact ⟨.error e, rfl⟩

lemma attempt_bind_ok {x : EStateM ε σ α} {f : α → EStateM ε σ β} {s s' : σ} {a : α}
    (h : attempt x s = .ok (.ok a) s') : attempt (x >>= f) s = attempt (f a) s' := by
  unfold attempt at h ⊢
  rw [bind_run]
  cases hx : x s with
  | ok b s₁ =>
    rw [hx] at h
    cases h
    rfl
  | error e s₁ =>
    rw [hx] at h
    cases h

lemma attempt_bind_error {x : EStateM ε σ α} {f : α → EStateM ε σ β} {s s' : σ} {e : ε}
    (h : attempt x s = .ok (.error e) s') : attempt (x >>= f) s = .ok (.error e) s' := by
  unfold attempt at h ⊢
  rw [bind_run]
  cases hx : x s with
  | ok b s₁ =>
    rw [hx] at h
    cases h
  | error e' s₁ =>
    rw [hx] at h
    cases h
    rfl

@[simp] lemma attempt_settle (result : Except ε α) :
    attempt (settle result : EStateM ε σ α) = pure result := by
  cases result <;> rfl

lemma attempt_bind_settle (x : EStateM ε σ α) : (attempt x >>= settle) = x := by
  funext s
  rw [bind_run]
  unfold attempt
  cases x s <;> rfl

lemma attempt_bind_settle_bind (x : EStateM ε σ α) (f : α → EStateM ε σ β) :
    (attempt x >>= fun result => settle result >>= f) = x >>= f := by
  rw [← bind_assoc, attempt_bind_settle]

lemma attempt_bind_pure (x : EStateM ε σ α) (f : α → β) :
    attempt (x >>= fun a => pure (f a)) = attempt x >>= fun result => pure (result.map f) := by
  funext s
  cases hx : x s with
  | ok a s' =>
    rw [attempt_bind_ok (attempt_run_ok hx), bind_run, attempt_run_ok hx]
    rfl
  | error e s' =>
    rw [attempt_bind_error (attempt_run_error hx), bind_run, attempt_run_error hx]
    rfl

lemma attempt_bind (x : EStateM ε σ α) (f : α → EStateM ε σ β) :
    attempt (x >>= f) = attempt x >>= fun result => attempt (settle result >>= f) := by
  funext s
  cases hx : x s with
  | ok a s' =>
    rw [attempt_bind_ok (attempt_run_ok hx), bind_run, attempt_run_ok hx]
    rfl
  | error e s' =>
    rw [attempt_bind_error (attempt_run_error hx), bind_run, attempt_run_error hx]
    rfl

lemma attempt_of_attempt_bind (x : EStateM ε σ α) (f : Except ε α → EStateM ε σ β)
    (g : Except ε β → EStateM ε σ γ) :
    (attempt (attempt x >>= f) >>= g) = attempt x >>= fun result => attempt (f result) >>= g := by
  funext s
  obtain ⟨result, hrun⟩ := attempt_run x s
  have hfirst : (attempt x >>= f) s = f result (leftBy x s) := by rw [bind_run, hrun]
  simp only [bind_run, hrun, attempt_congr hfirst]

/-- Every run of the operation leaves a state that is related to the one before it. -/
def Within (R : σ → σ → Prop) (operation : EStateM ε σ α) : Prop :=
  ∀ s, R s (leftBy operation s)

/-- Two states that a reading cannot tell apart. -/
def Same {γ : Type} (reading : σ → γ) (s s' : σ) : Prop :=
  reading s' = reading s

instance {γ : Type} (reading : σ → γ) : IsPreorder σ (Same reading) where
  refl _ := rfl
  trans _ _ _ h h' := Eq.trans h' h

lemma Within.mono {R R' : σ → σ → Prop} {operation : EStateM ε σ α} (h : Within R operation)
    (hR : ∀ s s', R s s' → R' s s') : Within R' operation :=
  fun s => hR _ _ (h s)

section Preorder

variable {R : σ → σ → Prop} [IsPreorder σ R]

lemma within_of_leftBy_eq {operation : EStateM ε σ α} (h : ∀ s, leftBy operation s = s) :
    Within R operation := by
  intro s
  rw [h]
  exact refl s

lemma within_pure (a : α) : Within R (pure a : EStateM ε σ α) :=
  within_of_leftBy_eq fun _ => rfl

lemma within_throw (e : ε) : Within R (throw e : EStateM ε σ α) :=
  within_of_leftBy_eq fun _ => rfl

lemma within_get : Within R (get : EStateM ε σ σ) :=
  within_of_leftBy_eq fun _ => rfl

lemma within_settle (result : Except ε α) : Within R (settle result : EStateM ε σ α) :=
  within_of_leftBy_eq (leftBy_settle result)

omit [IsPreorder σ R] in
lemma Within.attempt {x : EStateM ε σ α} (h : Within R x) : Within R (attempt x) := by
  intro s
  rw [leftBy_attempt]
  exact h s

omit [IsPreorder σ R] in
lemma Within.discard {x : EStateM ε σ α} (h : Within R x) : Within R (discard x) := by
  intro s
  rw [leftBy_discard]
  exact h s

lemma leftBy_bind_related {x : EStateM ε σ α} {f : α → EStateM ε σ β} {s : σ}
    (hx : R s (leftBy x s)) (hf : ∀ a s', x s = .ok a s' → R s' (leftBy (f a) s')) :
    R s (leftBy (x >>= f) s) := by
  unfold leftBy at hx ⊢
  rw [bind_run]
  cases h : x s with
  | ok a s' =>
    simp only [h] at hx ⊢
    have hrest := hf a s' h
    unfold leftBy at hrest
    exact Trans.trans hx hrest
  | error e s' => simpa only [h] using hx

lemma Within.bind {x : EStateM ε σ α} {f : α → EStateM ε σ β} (hx : Within R x)
    (hf : ∀ a, Within R (f a)) : Within R (x >>= f) :=
  fun s => leftBy_bind_related (hx s) fun a s' _ => hf a s'

end Preorder

end CardEffects.Proofs
