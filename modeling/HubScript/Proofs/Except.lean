/-!
# Steps that can fail

How a chain of steps succeeds or fails, for the proofs that take such chains apart.
-/
namespace HubScript

variable {ε α β : Type}

@[simp] theorem pure_eq_ok (a : α) : (pure a : Except ε α) = .ok a := rfl

@[simp] theorem throw_eq_error (e : ε) : (throw e : Except ε α) = .error e := rfl

@[simp] theorem ok_bind (a : α) (f : α → Except ε β) : (Except.ok a >>= f) = f a := rfl

@[simp] theorem error_bind (e : ε) (f : α → Except ε β) :
    (Except.error e >>= f) = .error e := rfl

theorem bind_ok_right (x : Except ε α) : (x >>= fun a => Except.ok a) = x := by
  cases x <;> rfl

theorem bind_eq_ok {x : Except ε α} {f : α → Except ε β} {b : β} :
    (x >>= f) = .ok b ↔ ∃ a, x = .ok a ∧ f a = .ok b := by
  cases x with
  | error e => simp
  | ok a => simp

theorem bind_eq_error {x : Except ε α} {f : α → Except ε β} {e : ε} :
    (x >>= f) = .error e ↔ x = .error e ∨ ∃ a, x = .ok a ∧ f a = .error e := by
  cases x with
  | error e' => simp
  | ok a => simp

theorem mapError_bind {ε' : Type} (g : ε → ε') (x : Except ε α) (f : α → Except ε β) :
    (x >>= f).mapError g = x.mapError g >>= fun a => (f a).mapError g := by
  cases x <;> rfl

theorem exists_error_iff {x : Except ε α} : (∃ e, x = .error e) ↔ ¬∃ a, x = .ok a := by
  cases x <;> simp

/-- Steps over a list fail as one of them does. -/
theorem mapM_eq_error {f : α → Except ε β} {items : List α} {e : ε}
    (h : items.mapM f = .error e) : ∃ item ∈ items, f item = .error e := by
  induction items with
  | nil => cases h
  | cons item rest ih =>
    rw [List.mapM_cons, bind_eq_error] at h
    rcases h with h | ⟨b, -, h⟩
    · exact ⟨item, by simp, h⟩
    · rcases bind_eq_error.mp h with h | ⟨bs, -, h⟩
      · obtain ⟨other, hother, hfails⟩ := ih h
        exact ⟨other, by simp [hother], hfails⟩
      · cases h

/-- A result that passes a test, from the test of the whole computation. -/
theorem exists_of_any {x : Except ε α} {p : α → Bool} (h : x.toOption.any p = true) :
    ∃ a, x = .ok a ∧ p a = true := by
  cases x with
  | error e => cases h
  | ok a => exact ⟨a, rfl, h⟩

/-- Whether a computation fails for a reason that passes a test. -/
def failsBy (p : ε → Bool) : Except ε α → Bool
  | .ok _ => false
  | .error e => p e

theorem exists_of_failsBy {x : Except ε α} {p : ε → Bool} (h : failsBy p x = true) :
    ∃ e, x = .error e ∧ p e = true := by
  cases x with
  | error e => exact ⟨e, rfl, h⟩
  | ok a => cases h

/-- Two computations fail in the same way or give related results. -/
inductive Agree (R : α → β → Prop) : Except ε α → Except ε β → Prop
  | ok {a : α} {b : β} (related : R a b) : Agree R (.ok a) (.ok b)
  | error (e : ε) : Agree R (.error e) (.error e)

theorem Agree.bind {γ δ : Type} {R : α → β → Prop} {S : γ → δ → Prop} {x : Except ε α}
    {y : Except ε β} {f : α → Except ε γ} {g : β → Except ε δ} (h : Agree R x y)
    (hnext : ∀ a b, R a b → Agree S (f a) (g b)) : Agree S (x >>= f) (y >>= g) := by
  cases h with
  | ok related => exact hnext _ _ related
  | error e => exact .error e

/-- One computation used in two ways that give related results. -/
theorem Agree.bind_same {γ δ : Type} {S : γ → δ → Prop} (x : Except ε α) {f : α → Except ε γ}
    {g : α → Except ε δ} (h : ∀ a, Agree S (f a) (g a)) : Agree S (x >>= f) (x >>= g) := by
  cases x with
  | error e => exact .error e
  | ok a => exact h a

theorem Agree.of_ok {R : α → β → Prop} {x : Except ε α} {y : Except ε β} {a : α}
    (h : Agree R x y) (hx : x = .ok a) : ∃ b, y = .ok b ∧ R a b := by
  subst hx
  cases h with
  | ok related => exact ⟨_, rfl, related⟩

theorem Agree.of_error {R : α → β → Prop} {x : Except ε α} {y : Except ε β} {e : ε}
    (h : Agree R x y) (hx : x = .error e) : y = .error e := by
  subst hx
  cases h with
  | error => rfl

/-- The results of two computations are related if both of them give one. -/
def BothGive (R : α → β → Prop) (x : Except ε α) (y : Except ε β) : Prop :=
  ∀ a b, x = .ok a → y = .ok b → R a b

namespace BothGive

variable {γ δ : Type} {R : α → β → Prop} {S : γ → δ → Prop}

theorem ok {a : α} {b : β} (h : R a b) : BothGive R (.ok a : Except ε α) (.ok b) := by
  intro a' b' ha hb
  obtain rfl := Except.ok.inj ha
  obtain rfl := Except.ok.inj hb
  exact h

theorem bind {x : Except ε α} {y : Except ε β} {f : α → Except ε γ} {g : β → Except ε δ}
    (h : BothGive R x y) (hnext : ∀ a b, R a b → BothGive S (f a) (g b)) :
    BothGive S (x >>= f) (y >>= g) := by
  intro c d hc hd
  obtain ⟨a, ha, hc⟩ := bind_eq_ok.mp hc
  obtain ⟨b, hb, hd⟩ := bind_eq_ok.mp hd
  exact hnext a b (h a b ha hb) c d hc hd

/-- One computation used in two ways. -/
theorem bind_same (x : Except ε α) {f : α → Except ε γ} {g : α → Except ε δ}
    (h : ∀ a, BothGive S (f a) (g a)) : BothGive S (x >>= f) (x >>= g) := by
  have hsame : BothGive Eq x x := fun a b ha hb => Except.ok.inj (ha.symm.trans hb)
  refine hsame.bind fun a b hab => ?_
  subst hab
  exact h a

/-- A check that only the first computation makes. -/
theorem of_check {check : Except ε PUnit} {x : Except ε α} {y : Except ε β} (h : BothGive R x y) :
    BothGive R (check >>= fun _ => x) y := by
  intro a b ha hb
  obtain ⟨_, _, ha⟩ := bind_eq_ok.mp ha
  exact h a b ha hb

end BothGive

end HubScript
