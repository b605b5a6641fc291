import ArrowTiberius.Lib.Session

namespace Checked

variable {σ τ ε δ α β γ κ ι : Type}

inductive Outcomes (error : ε → δ → Prop) (value : α → β → Prop) : Outcome ε α → Outcome δ β → Prop
  | ok {a : α} {b : β} (h : value a b) : Outcomes error value (.ok a) (.ok b)
  | error {e : ε} {d : δ} (h : error e d) : Outcomes error value (.error (.error e)) (.error (.error d))
  | panic : Outcomes error value (.error .panic) (.error .panic)

theorem outcomes_refl {error : ε → ε → Prop} {value : α → α → Prop} (herror : ∀ e, error e e) (hvalue : ∀ a, value a a)
    (x : Outcome ε α) : Outcomes error value x x := by
  rcases x with (e | _) | a
  · exact .error (herror e)
  · exact .panic
  · exact .ok (hvalue a)

theorem outcomes_eq_iff {x y : Outcome ε α} : Outcomes Eq Eq x y ↔ x = y := by
  constructor
  · intro h
    cases h with
    | ok h => rw [h]
    | error h => rw [h]
    | panic => rfl
  · rintro rfl
    exact outcomes_refl (fun _ => rfl) (fun _ => rfl) x

theorem Outcomes.mapError {error : ε → δ → Prop} {value : α → β → Prop} {x : Outcome ε α} {y : Outcome δ β} {f : ε → ε}
    {g : δ → δ} (h : Outcomes error value x y) (hmap : ∀ e d, error e d → error (f e) (g d)) :
    Outcomes error value (mapError f x) (mapError g y) := by
  cases h with
  | ok h => exact .ok h
  | error h => exact .error (hmap _ _ h)
  | panic => exact .panic

namespace Session

/-- From two states, computations with related outcomes that end in related states. -/
structure Relates (state : σ → τ → Prop) (error : ε → δ → Prop) (value : α → β → Prop) (x : Session σ ε α)
    (y : Session τ δ β) (s : σ) (t : τ) : Prop where
  outcome : Outcomes error value (x.run s).1 (y.run t).1
  state : state (x.run s).2 (y.run t).2

section Rules

variable {state : σ → τ → Prop} {error : ε → δ → Prop} {value : α → β → Prop} {s : σ} {t : τ}

theorem relates_pure {a : α} {b : β} (hvalue : value a b) (h : state s t) :
    Relates state error value (pure a) (pure b) s t := ⟨.ok hvalue, h⟩

theorem relates_get (h : state s t) : Relates state error state get get s t := ⟨.ok h, h⟩

theorem relates_set {s' : σ} {t' : τ} (h : state s' t') : Relates state error Eq (set s') (set t') s t := ⟨.ok rfl, h⟩

theorem relates_lift {x : Outcome ε α} {y : Outcome δ β} (houtcome : Outcomes error value x y) (h : state s t) :
    Relates state error value (lift x) (lift y) s t := ⟨houtcome, h⟩

theorem Relates.bind {value' : γ → κ → Prop} {x : Session σ ε α} {y : Session τ δ β} {f : α → Session σ ε γ}
    {g : β → Session τ δ κ} (h : Relates state error value x y s t)
    (hnext : ∀ a b s' t', value a b → state s' t' → Relates state error value' (f a) (g b) s' t') :
    Relates state error value' (x >>= f) (y >>= g) s t := by
  obtain ⟨houtcome, hstate⟩ := h
  rcases hx : x.run s with ⟨r, s'⟩
  rcases hy : y.run t with ⟨r', t'⟩
  rw [hx, hy] at houtcome hstate
  cases houtcome with
  | ok hvalue =>
    obtain ⟨houtcome, hstate⟩ := hnext _ _ _ _ hvalue hstate
    constructor
    · rw [run_bind_of_ok hx, run_bind_of_ok hy]
      exact houtcome
    · rw [run_bind_of_ok hx, run_bind_of_ok hy]
      exact hstate
  | error herror =>
    constructor
    · rw [run_bind_of_error hx, run_bind_of_error hy]
      exact .error herror
    · rw [run_bind_of_error hx, run_bind_of_error hy]
      exact hstate
  | panic =>
    constructor
    · rw [run_bind_of_error hx, run_bind_of_error hy]
      exact .panic
    · rw [run_bind_of_error hx, run_bind_of_error hy]
      exact hstate

theorem Relates.withError {x : Session σ ε α} {y : Session τ δ β} {f : ε → ε} {g : δ → δ}
    (h : Relates state error value x y s t) (hmap : ∀ e d, error e d → error (f e) (g d)) :
    Relates state error value (x.withError f) (y.withError g) s t :=
  ⟨h.outcome.mapError hmap, h.state⟩

theorem relates_each {xs : List ι} {body : ι → Session σ ε Unit} {body' : ι → Session τ δ Unit}
    (hbody : ∀ x ∈ xs, ∀ s t, state s t → Relates state error Eq (body x) (body' x) s t) (h : state s t) :
    Relates state error Eq (each xs body) (each xs body') s t := by
  induction xs generalizing s t with
  | nil => exact relates_pure rfl h
  | cons x xs ih =>
    apply (hbody x List.mem_cons_self s t h).bind
    intro _ _ s' t' _ h'
    apply ih
    · intro y hy
      exact hbody y (List.mem_cons_of_mem _ hy)
    · exact h'

end Rules

end Session

end Checked
