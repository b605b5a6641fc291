import Mathlib.Data.List.Basic
import Mathlib.Data.List.Forall2
import Mathlib.Tactic.Common

namespace Checked

/-- How a run of partial code stops early: an error it returns, or a panic. -/
inductive Fault (ε : Type) where
  | error (e : ε)
  | panic
  deriving DecidableEq, Repr

abbrev Outcome (ε α : Type) := Except (Fault ε) α

variable {ε α β γ σ ι : Type}

def fail (e : ε) : Outcome ε α := .error (.error e)

def crash : Outcome ε α := .error .panic

def okOr (o : Option α) (e : ε) : Outcome ε α :=
  match o with
  | some a => .ok a
  | none => fail e

def orCrash (o : Option α) : Outcome ε α :=
  match o with
  | some a => .ok a
  | none => crash

def ensure (p : Prop) [Decidable p] (e : ε) : Outcome ε Unit :=
  if p then .ok () else fail e

def assert (p : Prop) [Decidable p] : Outcome ε Unit :=
  if p then .ok () else crash

def mapError {δ : Type} (f : ε → δ) : Outcome ε α → Outcome δ α
  | .ok a => .ok a
  | .error (.error e) => fail (f e)
  | .error .panic => crash

def succeeds : Outcome ε α → Bool
  | .ok _ => true
  | .error _ => false

@[simp] theorem ok_bind (a : α) (f : α → Outcome ε β) : (Except.ok a >>= f) = f a := rfl

@[simp] theorem error_bind (e : Fault ε) (f : α → Outcome ε β) :
    ((Except.error e : Outcome ε α) >>= f) = .error e := rfl

@[simp] theorem fail_bind (e : ε) (f : α → Outcome ε β) : ((fail e : Outcome ε α) >>= f) = fail e := rfl

@[simp] theorem crash_bind (f : α → Outcome ε β) : ((crash : Outcome ε α) >>= f) = crash := rfl

@[simp] theorem pure_eq_ok (a : α) : (pure a : Outcome ε α) = .ok a := rfl

@[simp] theorem bind_ok (x : Outcome ε α) : (x >>= fun a => Except.ok a) = x := by
  cases x <;> rfl

@[simp] theorem fail_ne_ok (e : ε) (a : α) : (fail e : Outcome ε α) = .ok a ↔ False := by
  simp [fail]

@[simp] theorem crash_ne_ok (a : α) : (crash : Outcome ε α) = .ok a ↔ False := by
  simp [crash]

@[simp] theorem map_ok (f : α → β) (a : α) : f <$> (Except.ok a : Outcome ε α) = .ok (f a) := rfl

@[simp] theorem map_error (f : α → β) (e : Fault ε) :
    f <$> (Except.error e : Outcome ε α) = .error e := rfl

@[simp] theorem bind_eq_ok {x : Outcome ε α} {f : α → Outcome ε β} {b : β} :
    (x >>= f) = .ok b ↔ ∃ a, x = .ok a ∧ f a = .ok b := by
  cases x <;> simp

theorem bind_eq_crash {x : Outcome ε α} {f : α → Outcome ε β} :
    x >>= f = crash ↔ x = crash ∨ ∃ a, x = .ok a ∧ f a = crash := by
  rcases x with (e | _) | a
  · simp [crash]
  · simp [crash]
  · simp [crash]

theorem bind_eq_error {x : Outcome ε α} {f : α → Outcome ε β} {e : Fault ε} :
    x >>= f = .error e ↔ x = .error e ∨ ∃ a, x = .ok a ∧ f a = .error e := by
  cases x <;> simp

theorem bind_unit_eq_ok {x : Outcome ε Unit} {f : Unit → Outcome ε β} {b : β} :
    (x >>= f) = .ok b ↔ x = .ok () ∧ f () = .ok b := by
  cases x <;> simp

@[simp] theorem map_eq_ok {x : Outcome ε α} {f : α → β} {b : β} :
    f <$> x = .ok b ↔ ∃ a, x = .ok a ∧ f a = b := by
  cases x <;> simp

@[simp] theorem okOr_some (a : α) (e : ε) : okOr (some a) e = .ok a := rfl

@[simp] theorem okOr_none (e : ε) : okOr (none : Option α) e = fail e := rfl

@[simp] theorem okOr_eq_ok {o : Option α} {e : ε} {a : α} : okOr o e = .ok a ↔ o = some a := by
  cases o <;> simp

@[simp] theorem orCrash_some (a : α) : (orCrash (some a) : Outcome ε α) = .ok a := rfl

@[simp] theorem orCrash_eq_ok {o : Option α} {a : α} : (orCrash o : Outcome ε α) = .ok a ↔ o = some a := by
  cases o <;> simp [orCrash]

@[simp] theorem ensure_eq_ok {p : Prop} [Decidable p] {e : ε} {u : Unit} : ensure p e = .ok u ↔ p := by
  unfold ensure
  split <;> simp [*]

theorem ensure_of {p : Prop} [Decidable p] {e : ε} (h : p) : ensure p e = .ok () := if_pos h

theorem assert_of {p : Prop} [Decidable p] (h : p) : (assert p : Outcome ε Unit) = .ok () := if_pos h

@[simp] theorem mapError_eq_ok {δ : Type} {f : ε → δ} {x : Outcome ε α} {a : α} :
    mapError f x = .ok a ↔ x = .ok a := by
  rcases x with (e | _) | a <;> simp [mapError]

theorem succeeds_iff {x : Outcome ε α} : succeeds x = true ↔ ∃ a, x = .ok a := by
  cases x <;> simp [succeeds]

section toOption

@[simp] theorem toOption_ok (a : α) : (Except.ok a : Outcome ε α).toOption = some a := rfl

@[simp] theorem toOption_fail (e : ε) : (fail e : Outcome ε α).toOption = none := rfl

@[simp] theorem toOption_crash : (crash : Outcome ε α).toOption = none := rfl

theorem toOption_eq_some {x : Outcome ε α} {a : α} : x.toOption = some a ↔ x = .ok a := by
  cases x <;> simp [Except.toOption]

theorem toOption_congr {x y : Outcome ε α} (h : ∀ a, x = .ok a ↔ y = .ok a) : x.toOption = y.toOption := by
  apply Option.ext
  intro a
  rw [toOption_eq_some, toOption_eq_some, h]

@[simp] theorem toOption_bind (x : Outcome ε α) (f : α → Outcome ε β) :
    (x >>= f).toOption = x.toOption.bind fun a => (f a).toOption := by
  cases x <;> rfl

@[simp] theorem toOption_map (f : α → β) (x : Outcome ε α) : (f <$> x).toOption = x.toOption.map f := by
  cases x <;> rfl

@[simp] theorem toOption_okOr (o : Option α) (e : ε) : (okOr o e).toOption = o := by
  cases o <;> rfl

@[simp] theorem toOption_ensure (p : Prop) [Decidable p] (e : ε) :
    (ensure p e).toOption = if p then some () else none := by
  unfold ensure
  split <;> rfl

@[simp] theorem toOption_ite (p : Prop) [Decidable p] (x y : Outcome ε α) :
    (if p then x else y).toOption = if p then x.toOption else y.toOption := apply_ite _ _ _ _

end toOption

def Safe (x : Outcome ε α) : Prop := x ≠ crash

@[simp] theorem safe_ok (a : α) : Safe (.ok a : Outcome ε α) := nofun

@[simp] theorem safe_fail (e : ε) : Safe (fail e : Outcome ε α) := nofun

@[simp] theorem safe_okOr (o : Option α) (e : ε) : Safe (okOr o e) := by
  cases o <;> simp

@[simp] theorem safe_ensure (p : Prop) [Decidable p] (e : ε) : Safe (ensure p e) := by
  unfold ensure
  split <;> simp

theorem safe_bind {x : Outcome ε α} {f : α → Outcome ε β} (hx : Safe x) (hf : ∀ a, x = .ok a → Safe (f a)) :
    Safe (x >>= f) := by
  rcases x with (e | _) | a
  · exact safe_fail e
  · exact absurd rfl hx
  · exact hf a rfl

theorem safe_map {x : Outcome ε α} (f : α → β) (hx : Safe x) : Safe (f <$> x) := by
  rcases x with (e | _) | a
  · exact safe_fail e
  · exact absurd rfl hx
  · exact safe_ok (f a)

theorem fail_of_safe {x : Outcome ε α} (hsafe : Safe x) (h : x.toOption = none) : ∃ e, x = fail e := by
  rcases x with (e | _) | a
  · exact ⟨e, rfl⟩
  · exact absurd rfl hsafe
  · cases h

/-- A run that does not panic and whose error, if it returns one, satisfies `p`. -/
inductive FailsWith (p : ε → Prop) : Outcome ε α → Prop where
  | ok (a : α) : FailsWith p (.ok a)
  | error {e : ε} (h : p e) : FailsWith p (.error (.error e))

section FailsWith

variable {p : ε → Prop}

@[simp] theorem failsWith_ok (a : α) : FailsWith p (.ok a : Outcome ε α) := .ok a

@[simp] theorem failsWith_fail {e : ε} : FailsWith p (fail e : Outcome ε α) ↔ p e :=
  ⟨fun h => by cases h; assumption, .error⟩

theorem FailsWith.safe {x : Outcome ε α} (h : FailsWith p x) : Safe x := by
  cases h <;> nofun

theorem FailsWith.of_fail {x : Outcome ε α} {e : ε} (h : FailsWith p x) (hx : x = fail e) : p e := by
  subst hx
  exact failsWith_fail.mp h

theorem failsWith_okOr {o : Option α} {e : ε} (h : o = none → p e) : FailsWith p (okOr o e) := by
  cases o with
  | none => exact .error (h rfl)
  | some a => exact .ok a

theorem failsWith_ensure {q : Prop} [Decidable q] {e : ε} (h : ¬q → p e) : FailsWith p (ensure q e) := by
  unfold ensure
  split
  case isTrue => exact .ok ()
  case isFalse hq => exact .error (h hq)

theorem failsWith_bind {x : Outcome ε α} {f : α → Outcome ε β} (hx : FailsWith p x)
    (hf : ∀ a, x = .ok a → FailsWith p (f a)) : FailsWith p (x >>= f) := by
  cases hx with
  | ok a => exact hf a rfl
  | error h => exact .error h

theorem failsWith_map {x : Outcome ε α} (f : α → β) (hx : FailsWith p x) : FailsWith p (f <$> x) := by
  cases hx with
  | ok a => exact .ok (f a)
  | error h => exact .error h

theorem FailsWith.mono {q : ε → Prop} {x : Outcome ε α} (hx : FailsWith p x) (h : ∀ e, p e → q e) :
    FailsWith q x := by
  cases hx with
  | ok a => exact .ok a
  | error he => exact .error (h _ he)

end FailsWith

def forEach (xs : List ι) (s : σ) (body : σ → ι → Outcome ε σ) : Outcome ε σ :=
  xs.foldlM body s

@[simp] theorem forEach_nil (s : σ) (body : σ → ι → Outcome ε σ) : forEach [] s body = .ok s := rfl

@[simp] theorem forEach_cons (x : ι) (xs : List ι) (s : σ) (body : σ → ι → Outcome ε σ) :
    forEach (x :: xs) s body = body s x >>= fun s' => forEach xs s' body := rfl

@[simp] theorem forEach_append (xs ys : List ι) (s : σ) (body : σ → ι → Outcome ε σ) :
    forEach (xs ++ ys) s body = forEach xs s body >>= fun s' => forEach ys s' body := by
  simp [forEach, List.foldlM_append]

abbrev forRange (n : ℕ) (s : σ) (body : σ → ℕ → Outcome ε σ) : Outcome ε σ :=
  forEach (List.range n) s body

@[simp] theorem forRange_zero (s : σ) (body : σ → ℕ → Outcome ε σ) : forRange 0 s body = .ok s := rfl

theorem forRange_succ (n : ℕ) (s : σ) (body : σ → ℕ → Outcome ε σ) :
    forRange (n + 1) s body = forRange n s body >>= fun s' => body s' n := by
  simp [forRange, List.range_succ]

theorem forRange_eq_ok_of_step {n : ℕ} {body : σ → ℕ → Outcome ε σ} (state : ℕ → σ)
    (step : ∀ i < n, body (state i) i = .ok (state (i + 1))) :
    forRange n (state 0) body = .ok (state n) := by
  induction n with
  | zero => rfl
  | succ n ih =>
    rw [forRange_succ, ih fun i hi => step i (by omega), ok_bind, step n (by omega)]

theorem forRange_eq_ok_iff {n : ℕ} {body : σ → ℕ → Outcome ε σ} (good : ℕ → Prop) (state : ℕ → σ)
    (step : ∀ i < n, ∀ s', body (state i) i = .ok s' ↔ good i ∧ s' = state (i + 1)) (s : σ) :
    forRange n (state 0) body = .ok s ↔ (∀ i < n, good i) ∧ s = state n := by
  induction n generalizing s with
  | zero => simp [eq_comm]
  | succ n ih =>
    rw [forRange_succ, bind_eq_ok]
    constructor
    · rintro ⟨t, ht, hs⟩
      obtain ⟨hgood, rfl⟩ := (ih (fun i hi => step i (by omega)) t).mp ht
      obtain ⟨hn, rfl⟩ := (step n (by omega) s).mp hs
      refine ⟨fun i hi => ?_, rfl⟩
      rcases Nat.lt_succ_iff_lt_or_eq.mp hi with h | rfl
      · exact hgood i h
      · exact hn
    · rintro ⟨hgood, rfl⟩
      refine ⟨state n, (ih (fun i hi => step i (by omega)) _).mpr ⟨fun i hi => hgood i (by omega), rfl⟩, ?_⟩
      exact (step n (by omega) _).mpr ⟨hgood n (by omega), rfl⟩

theorem forEach_zipIdx_eq_ok_iff {xs : List ι} {body : σ → ι × ℕ → Outcome ε σ} (good : ℕ → Prop) (state : ℕ → σ)
    (k : ℕ) (step : ∀ i x, xs[i]? = some x → ∀ s', body (state (k + i)) (x, k + i) = .ok s' ↔
      good (k + i) ∧ s' = state (k + i + 1)) (s : σ) :
    forEach (xs.zipIdx k) (state k) body = .ok s ↔ (∀ i < xs.length, good (k + i)) ∧ s = state (k + xs.length) := by
  induction xs generalizing k with
  | nil => simp [eq_comm]
  | cons x xs ih =>
    have htail := ih (k + 1) fun i y hy s' => by
      have h := step (i + 1) y hy s'
      rwa [show k + (i + 1) = k + 1 + i by omega] at h
    have hhead := step 0 x rfl
    rw [List.zipIdx_cons, forEach_cons, bind_eq_ok, List.length_cons]
    constructor
    · rintro ⟨_, hs', hs⟩
      obtain ⟨hgood, rfl⟩ := (hhead _).mp hs'
      obtain ⟨hrest, rfl⟩ := htail.mp hs
      refine ⟨?_, congrArg state (by omega)⟩
      intro i hi
      cases i with
      | zero => exact hgood
      | succ i =>
        have h := hrest i (by omega)
        rwa [show k + 1 + i = k + (i + 1) by omega] at h
    · rintro ⟨hgood, rfl⟩
      refine ⟨_, (hhead _).mpr ⟨hgood 0 (by omega), rfl⟩, htail.mpr ⟨?_, congrArg state (by omega)⟩⟩
      intro i hi
      have h := hgood (i + 1) (by omega)
      rwa [show k + (i + 1) = k + 1 + i by omega] at h

theorem forEach_zipIdx_eq_error {xs : List ι} {body : σ → ι × ℕ → Outcome ε σ} {e : Fault ε} (good : ℕ → Prop)
    (inv : σ → Prop) (k : ℕ) (step : ∀ i x, xs[i]? = some x → ∀ s s', inv s → body s (x, k + i) = .ok s' →
      good (k + i) ∧ inv s') {s : σ} (hs : inv s) (h : forEach (xs.zipIdx k) s body = .error e) :
    ∃ i x s', xs[i]? = some x ∧ (∀ j < i, good (k + j)) ∧ inv s' ∧ body s' (x, k + i) = .error e := by
  induction xs generalizing k s with
  | nil => cases h
  | cons x xs ih =>
    rw [List.zipIdx_cons, forEach_cons, bind_eq_error] at h
    rcases h with h | ⟨t, ht, h⟩
    · exact ⟨0, x, s, rfl, fun j hj => absurd hj (by omega), hs, h⟩
    · obtain ⟨hgood, hinv⟩ := step 0 x rfl s t hs ht
      obtain ⟨i, y, s', hy, hbefore, hinv', hstop⟩ := ih (k + 1)
        (by
          intro i y hy u u' hu hu'
          have hnext := step (i + 1) y hy u u' hu
          rw [show k + (i + 1) = k + 1 + i by omega] at hnext
          exact hnext hu') hinv h
      refine ⟨i + 1, y, s', hy, ?_, hinv', by rwa [show k + (i + 1) = k + 1 + i by omega]⟩
      intro j hj
      cases j with
      | zero => exact hgood
      | succ j =>
        rw [show k + (j + 1) = k + 1 + j by omega]
        exact hbefore j (by omega)

theorem forRange_of_invariant {n : ℕ} {body : σ → ℕ → Outcome ε σ} (inv : ℕ → σ → Prop) {s : σ} (hs : inv 0 s)
    (step : ∀ i < n, ∀ s, inv i s → ∃ s', body s i = .ok s' ∧ inv (i + 1) s') :
    ∃ s', forRange n s body = .ok s' ∧ inv n s' := by
  induction n with
  | zero => exact ⟨s, rfl, hs⟩
  | succ n ih =>
    obtain ⟨t, ht, hinv⟩ := ih fun i hi => step i (by omega)
    obtain ⟨s', hs', hinv'⟩ := step n (by omega) t hinv
    exact ⟨s', by rw [forRange_succ, ht, ok_bind, hs'], hinv'⟩

theorem forEach_preserves {xs : List ι} {body : σ → ι → Outcome ε σ} (inv : σ → Prop)
    (step : ∀ x ∈ xs, ∀ s s', inv s → body s x = .ok s' → inv s') {s s' : σ} (hs : inv s)
    (h : forEach xs s body = .ok s') : inv s' := by
  induction xs generalizing s with
  | nil =>
    cases h
    exact hs
  | cons x xs ih =>
    obtain ⟨t, ht, h⟩ := bind_eq_ok.mp h
    exact ih (fun y hy => step y (by simp [hy])) (step x (by simp) s t hs ht) h

theorem forEach_turn {xs : List ι} {body : σ → ι → Outcome ε σ} {x : ι} (hx : x ∈ xs) {s s' : σ}
    (h : forEach xs s body = .ok s') : ∃ t t', body t x = .ok t' := by
  induction xs generalizing s with
  | nil => simp at hx
  | cons y xs ih =>
    obtain ⟨t, ht, h⟩ := bind_eq_ok.mp h
    rcases List.mem_cons.mp hx with rfl | hx
    · exact ⟨s, t, ht⟩
    · exact ih hx h

@[simp] theorem forEach_map {κ : Type} (g : κ → ι) (xs : List κ) (s : σ) (body : σ → ι → Outcome ε σ) :
    forEach (xs.map g) s body = forEach xs s fun s x => body s (g x) := by
  induction xs generalizing s with
  | nil => rfl
  | cons x xs ih => simp [ih]

theorem forEach_zipIdx_fst (xs : List ι) (s : σ) (body : σ → ι → Outcome ε σ) :
    forEach xs.zipIdx s (fun s x => body s x.1) = forEach xs s body := by
  rw [← forEach_map, List.zipIdx_map_fst]

theorem forRange_eq_error {n : ℕ} {body : σ → ℕ → Outcome ε σ} {e : Fault ε} (good : ℕ → Prop) (inv : σ → Prop)
    (step : ∀ i < n, ∀ s s', inv s → body s i = .ok s' → good i ∧ inv s') {s : σ} (hs : inv s)
    (h : forRange n s body = .error e) :
    ∃ i < n, ∃ s', (∀ j < i, good j) ∧ inv s' ∧ body s' i = .error e := by
  rw [forRange, ← forEach_zipIdx_fst] at h
  have hturn {i x : ℕ} (hx : (List.range n)[i]? = some x) : i < n ∧ x = i := by
    obtain ⟨hi, rfl⟩ := List.getElem?_eq_some_iff.mp hx
    rw [List.length_range] at hi
    exact ⟨hi, List.getElem_range _⟩
  obtain ⟨i, x, s', hx, hbefore, hinv, hstop⟩ := forEach_zipIdx_eq_error good inv 0 (by
    intro i x hx s s' hs hs'
    obtain ⟨hi, rfl⟩ := hturn hx
    rw [Nat.zero_add]
    exact step x hi s s' hs hs') hs h
  obtain ⟨hi, rfl⟩ := hturn hx
  simp only [Nat.zero_add] at hbefore
  exact ⟨x, hi, s', hbefore, hinv, hstop⟩

theorem forEach_zipIdx_eq_crash_iff {xs : List ι} {body : σ → ι × ℕ → Outcome ε σ} (good bad : ℕ → Prop)
    (state : ℕ → σ) (k : ℕ) (step : ∀ i x, xs[i]? = some x → ∀ s', body (state (k + i)) (x, k + i) = .ok s' ↔
      good (k + i) ∧ s' = state (k + i + 1))
    (stop : ∀ i x, xs[i]? = some x → (body (state (k + i)) (x, k + i) = crash ↔ bad (k + i))) :
    forEach (xs.zipIdx k) (state k) body = crash ↔ ∃ i < xs.length, (∀ j < i, good (k + j)) ∧ bad (k + i) := by
  induction xs generalizing k with
  | nil => simp [crash]
  | cons x xs ih =>
    have hhead := step 0 x rfl
    have hstop := stop 0 x rfl
    have htail := ih (k + 1)
      (fun i y hy s' => by
        have h := step (i + 1) y hy s'
        rwa [show k + (i + 1) = k + 1 + i by omega] at h)
      (fun i y hy => by
        have h := stop (i + 1) y hy
        rwa [show k + (i + 1) = k + 1 + i by omega] at h)
    rw [List.zipIdx_cons, forEach_cons, bind_eq_crash, List.length_cons]
    constructor
    · rintro (hcrash | ⟨_, hs', hcrash⟩)
      · exact ⟨0, by omega, fun j hj => absurd hj (by omega), hstop.mp hcrash⟩
      · obtain ⟨hgood, rfl⟩ := (hhead _).mp hs'
        obtain ⟨i, hi, hbefore, hbad⟩ := htail.mp hcrash
        refine ⟨i + 1, by omega, fun j hj => ?_, by rwa [show k + (i + 1) = k + 1 + i by omega]⟩
        cases j with
        | zero => exact hgood
        | succ j =>
          have h := hbefore j (by omega)
          rwa [show k + 1 + j = k + (j + 1) by omega] at h
    · rintro ⟨i, hi, hbefore, hbad⟩
      cases i with
      | zero => exact .inl (hstop.mpr hbad)
      | succ i =>
        refine .inr ⟨_, (hhead _).mpr ⟨hbefore 0 (by omega), rfl⟩, htail.mpr ⟨i, by omega, fun j hj => ?_, ?_⟩⟩
        · have h := hbefore (j + 1) (by omega)
          rwa [show k + (j + 1) = k + 1 + j by omega] at h
        · rwa [show k + 1 + i = k + (i + 1) by omega]

theorem forRange_eq_crash_iff {n : ℕ} {body : σ → ℕ → Outcome ε σ} (good bad : ℕ → Prop) (state : ℕ → σ)
    (step : ∀ i < n, ∀ s', body (state i) i = .ok s' ↔ good i ∧ s' = state (i + 1))
    (stop : ∀ i < n, (body (state i) i = crash ↔ bad i)) :
    forRange n (state 0) body = crash ↔ ∃ i < n, (∀ j < i, good j) ∧ bad i := by
  have hturn {i x : ℕ} (hx : (List.range n)[i]? = some x) : i < n ∧ x = i := by
    obtain ⟨hi, rfl⟩ := List.getElem?_eq_some_iff.mp hx
    rw [List.length_range] at hi
    exact ⟨hi, List.getElem_range _⟩
  have h := @forEach_zipIdx_eq_crash_iff ε σ ℕ (List.range n) (fun s x => body s x.1) good bad state 0
    (fun i x hx s' => by
      obtain ⟨hi, rfl⟩ := hturn hx
      rw [Nat.zero_add]
      exact step x hi s')
    (fun i x hx => by
      obtain ⟨hi, rfl⟩ := hturn hx
      rw [Nat.zero_add]
      exact stop x hi)
  rw [forEach_zipIdx_fst, List.length_range] at h
  simpa only [Nat.zero_add] using h

theorem forEach_zipIdx_safe {xs : List ι} {body : σ → ι × ℕ → Outcome ε σ} (inv : ℕ → σ → Prop) (k : ℕ)
    (step : ∀ i x, xs[i]? = some x → ∀ s, inv (k + i) s → Safe (body s (x, k + i)) ∧
      ∀ s', body s (x, k + i) = .ok s' → inv (k + i + 1) s') {s : σ} (hs : inv k s) :
    Safe (forEach (xs.zipIdx k) s body) ∧ ∀ s', forEach (xs.zipIdx k) s body = .ok s' → inv (k + xs.length) s' := by
  induction xs generalizing k s with
  | nil =>
    refine ⟨safe_ok s, ?_⟩
    rintro _ ⟨⟩
    exact hs
  | cons x xs ih =>
    obtain ⟨hsafe, hnext⟩ := step 0 x rfl s hs
    have htail (t : σ) (ht : body s (x, k) = .ok t) := ih (k + 1) (fun i y hy => by
      have h := step (i + 1) y hy
      rwa [show k + (i + 1) = k + 1 + i by omega] at h) (hnext t ht)
    rw [List.zipIdx_cons, forEach_cons]
    refine ⟨safe_bind hsafe fun t ht => (htail t ht).1, ?_⟩
    intro s' hs'
    obtain ⟨t, ht, hs'⟩ := bind_eq_ok.mp hs'
    have h := (htail t ht).2 s' hs'
    rwa [List.length_cons, show k + (xs.length + 1) = k + 1 + xs.length by omega]

theorem forRange_safe {n : ℕ} {body : σ → ℕ → Outcome ε σ} (inv : ℕ → σ → Prop)
    (step : ∀ i < n, ∀ s, inv i s → Safe (body s i) ∧ ∀ s', body s i = .ok s' → inv (i + 1) s') {s : σ} (hs : inv 0 s) :
    Safe (forRange n s body) := by
  rw [forRange, ← forEach_zipIdx_fst]
  apply And.left
  apply forEach_zipIdx_safe inv 0 _ hs
  intro i x hx s hs
  obtain ⟨hi, rfl⟩ := List.getElem?_eq_some_iff.mp hx
  rw [List.length_range] at hi
  rw [Nat.zero_add] at hs ⊢
  rw [List.getElem_range]
  exact step i hi s hs

theorem failsWith_forEach {p : ε → Prop} {xs : List ι} {body : σ → ι → Outcome ε σ} (inv : σ → Prop)
    (step : ∀ x ∈ xs, ∀ s, inv s → FailsWith p (body s x) ∧ ∀ s', body s x = .ok s' → inv s') {s : σ} (hs : inv s) :
    FailsWith p (forEach xs s body) := by
  induction xs generalizing s with
  | nil => exact failsWith_ok s
  | cons x xs ih =>
    obtain ⟨hfails, hnext⟩ := step x List.mem_cons_self s hs
    apply failsWith_bind hfails
    intro t ht
    exact ih (fun y hy => step y (List.mem_cons_of_mem x hy)) (hnext t ht)

theorem mem_zip_zipIdx {as : List α} {bs : List β} {a : α} {b : β} {i : ℕ} :
    ((a, b), i) ∈ (as.zip bs).zipIdx ↔ as[i]? = some a ∧ bs[i]? = some b := by
  rw [List.mem_zipIdx_iff_getElem?, List.getElem?_zip_eq_some]

theorem forEach_unit_eq_ok {xs : List ι} {f : ι → Outcome ε Unit} {u : Unit} :
    forEach xs () (fun _ x => f x) = .ok u ↔ ∀ x ∈ xs, f x = .ok () := by
  induction xs with
  | nil => simp
  | cons x xs ih =>
    simp only [forEach_cons, bind_eq_ok, ih, List.mem_cons, forall_eq_or_imp]
    exact ⟨fun ⟨_, hx, h⟩ => ⟨hx, h⟩, fun ⟨hx, h⟩ => ⟨(), hx, h⟩⟩

def collect (xs : List ι) (f : ι → Outcome ε α) : Outcome ε (List α) :=
  match xs with
  | [] => .ok []
  | x :: xs => do
    let a ← f x
    let as ← collect xs f
    pure (a :: as)

@[simp] theorem collect_nil (f : ι → Outcome ε α) : collect [] f = .ok [] := rfl

@[simp] theorem collect_cons_eq_ok {x : ι} {xs : List ι} {f : ι → Outcome ε α} {l : List α} :
    collect (x :: xs) f = .ok l ↔ ∃ a as, f x = .ok a ∧ collect xs f = .ok as ∧ l = a :: as := by
  simp only [collect, bind_eq_ok, pure_eq_ok, Except.ok.injEq]
  constructor
  · rintro ⟨a, ha, as, has, rfl⟩
    exact ⟨a, as, ha, has, rfl⟩
  · rintro ⟨a, as, ha, has, rfl⟩
    exact ⟨a, ha, as, has, rfl⟩

theorem collect_eq_ok_iff {xs : List ι} {f : ι → Outcome ε α} {l : List α} :
    collect xs f = .ok l ↔ List.Forall₂ (fun x a => f x = .ok a) xs l := by
  induction xs generalizing l with
  | nil =>
    constructor
    · rintro ⟨⟩
      exact .nil
    · rintro ⟨⟩
      rfl
  | cons x xs ih =>
    rw [collect_cons_eq_ok]
    constructor
    · rintro ⟨a, as, ha, has, rfl⟩
      exact .cons ha (ih.mp has)
    · rintro (_ | ⟨ha, has⟩)
      exact ⟨_, _, ha, ih.mpr has, rfl⟩

theorem collect_succeeds_iff {xs : List ι} {f : ι → Outcome ε α} :
    (∃ l, collect xs f = .ok l) ↔ ∀ x ∈ xs, ∃ a, f x = .ok a := by
  induction xs with
  | nil => simp
  | cons x xs ih =>
    simp only [collect_cons_eq_ok, List.mem_cons, forall_eq_or_imp, ← ih]
    constructor
    · rintro ⟨_, a, as, ha, has, rfl⟩
      exact ⟨⟨a, ha⟩, as, has⟩
    · rintro ⟨⟨a, ha⟩, as, has⟩
      exact ⟨_, a, as, ha, has, rfl⟩

theorem collect_eq_error {xs : List ι} {f : ι → Outcome ε α} {e : Fault ε} (h : collect xs f = .error e) :
    ∃ (i : ℕ) (x : ι), xs[i]? = some x ∧ (∀ j < i, ∀ y, xs[j]? = some y → ∃ a, f y = .ok a) ∧ f x = .error e := by
  induction xs with
  | nil => cases h
  | cons x xs ih =>
    rw [collect, bind_eq_error] at h
    rcases h with h | ⟨a, ha, h⟩
    · exact ⟨0, x, rfl, fun j hj => absurd hj (by omega), h⟩
    · rcases bind_eq_error.mp h with h | ⟨as, -, h⟩
      · obtain ⟨i, y, hy, hbefore, hstop⟩ := ih h
        refine ⟨i + 1, y, hy, ?_, hstop⟩
        intro j hj z hz
        cases j with
        | zero =>
          cases hz
          exact ⟨a, ha⟩
        | succ j => exact hbefore j (by omega) z hz
      · cases h

theorem collect_eq_ok_iff_getElem? {xs : List ι} {f : ι → Outcome ε α} {l : List α} : collect xs f = .ok l ↔
    xs.length = l.length ∧ ∀ (i : ℕ) x a, xs[i]? = some x → l[i]? = some a → f x = .ok a := by
  rw [collect_eq_ok_iff, List.forall₂_iff_get]
  refine and_congr_right fun hlen => ⟨fun h i x a hx ha => ?_, fun h i hx ha => ?_⟩
  · obtain ⟨hi, rfl⟩ := List.getElem?_eq_some_iff.mp hx
    obtain ⟨hi', rfl⟩ := List.getElem?_eq_some_iff.mp ha
    exact h i hi hi'
  · exact h i _ _ (List.getElem?_eq_getElem hx) (List.getElem?_eq_getElem ha)

theorem collect_map_range_eq_ok {n : ℕ} {g : ℕ → ι} {f : ι → Outcome ε α} (good : ℕ → Prop) (value : ℕ → α)
    (h : ∀ i < n, ∀ a, f (g i) = .ok a ↔ good i ∧ a = value i) {l : List α} :
    collect ((List.range n).map g) f = .ok l ↔ (∀ i < n, good i) ∧ l = (List.range n).map value := by
  rw [collect_eq_ok_iff_getElem?, List.length_map, List.length_range]
  constructor
  · rintro ⟨hlength, hall⟩
    have hat (i : ℕ) (hi : i < n) : good i ∧ l[i]? = some (value i) := by
      have hl : l[i]? = some l[i] := List.getElem?_eq_getElem (by omega)
      obtain ⟨hgood, hvalue⟩ := (h i hi _).mp (hall i (g i) _ (by simp [hi]) hl)
      exact ⟨hgood, by rw [hl, hvalue]⟩
    refine ⟨fun i hi => (hat i hi).1, List.ext_getElem? fun i => ?_⟩
    by_cases hi : i < n
    · rw [(hat i hi).2]
      simp [hi]
    · rw [List.getElem?_eq_none (by omega), List.getElem?_eq_none (by simp; omega)]
  · rintro ⟨hgood, rfl⟩
    refine ⟨by simp, ?_⟩
    intro i x a hx ha
    have hi : i < n := by
      by_contra hi
      simp [hi] at hx
    simp only [List.getElem?_map, List.getElem?_range hi, Option.map_some, Option.some.injEq] at hx ha
    subst hx ha
    exact (h i hi _).mpr ⟨hgood i hi, rfl⟩

theorem collect_safe {xs : List ι} {f : ι → Outcome ε α} (h : ∀ x ∈ xs, Safe (f x)) : Safe (collect xs f) := by
  induction xs with
  | nil => exact safe_ok []
  | cons x xs ih =>
    refine safe_bind (h x (by simp)) fun a _ => safe_bind (ih fun y hy => h y (by simp [hy])) fun as _ => ?_
    exact safe_ok _

theorem failsWith_collect {p : ε → Prop} {xs : List ι} {f : ι → Outcome ε α} (h : ∀ x ∈ xs, FailsWith p (f x)) :
    FailsWith p (collect xs f) := by
  induction xs with
  | nil => exact failsWith_ok []
  | cons x xs ih =>
    apply failsWith_bind (h x List.mem_cons_self)
    intro a _
    apply failsWith_bind (ih fun y hy => h y (List.mem_cons_of_mem x hy))
    intro as _
    exact failsWith_ok (a :: as)

def gatherStep {δ : Type} (f : ι → Outcome δ α) (s : List α × List δ) (x : ι) : Outcome ε (List α × List δ) :=
  match f x with
  | .ok a => .ok (s.1 ++ [a], s.2)
  | .error (.error d) => .ok (s.1, s.2 ++ [d])
  | .error .panic => crash

def gather {δ : Type} (xs : List ι) (f : ι → Outcome δ α) : Outcome ε (List α × List δ) :=
  forEach xs ([], []) (gatherStep f)

section gather

variable {δ : Type} {xs : List ι} {f : ι → Outcome δ α} {s r : List α × List δ}

theorem forEach_gatherStep_errors (h : (forEach xs s (gatherStep f) : Outcome ε _) = .ok r) :
    ∃ ds, r.2 = s.2 ++ ds ∧ ∀ d ∈ ds, ∃ x ∈ xs, f x = fail d := by
  induction xs generalizing s with
  | nil =>
    cases h
    exact ⟨[], by simp, nofun⟩
  | cons x xs ih =>
    obtain ⟨t, ht, h⟩ := bind_eq_ok.mp h
    obtain ⟨ds, hds, hmem⟩ := ih h
    unfold gatherStep at ht
    rcases hx : f x with (d | _) | a
    · rw [hx] at ht
      cases ht
      refine ⟨d :: ds, by rw [hds, List.append_assoc, List.singleton_append], ?_⟩
      rintro d' (_ | ⟨_, hd'⟩)
      · exact ⟨x, by simp, hx⟩
      · obtain ⟨y, hy, hfail⟩ := hmem d' hd'
        exact ⟨y, by simp [hy], hfail⟩
    · rw [hx] at ht
      cases ht
    · rw [hx] at ht
      cases ht
      refine ⟨ds, hds, fun d' hd' => ?_⟩
      obtain ⟨y, hy, hfail⟩ := hmem d' hd'
      exact ⟨y, by simp [hy], hfail⟩

theorem forEach_gatherStep_eq_ok {as : List α} : (forEach xs s (gatherStep f) : Outcome ε _) = .ok (as, s.2) ↔
    ∃ l, collect xs f = .ok l ∧ as = s.1 ++ l := by
  induction xs generalizing s with
  | nil =>
    simp only [forEach_nil, collect_nil, Except.ok.injEq]
    constructor
    · intro h
      have hfst : s.1 = as := congrArg Prod.fst h
      exact ⟨[], rfl, by rw [hfst, List.append_nil]⟩
    · rintro ⟨l, rfl, rfl⟩
      rw [List.append_nil]
  | cons x xs ih =>
    rw [forEach_cons]
    rcases hx : f x with (d | _) | a
    · have hstep : (gatherStep f s x : Outcome ε _) = .ok (s.1, s.2 ++ [d]) := by rw [gatherStep, hx]
      rw [hstep, ok_bind]
      refine iff_of_false (fun h => ?_) (by simp [hx])
      obtain ⟨ds, hds, -⟩ := forEach_gatherStep_errors h
      have hlen := congrArg List.length hds
      simp only [List.length_append, List.length_singleton] at hlen
      omega
    · have hstep : (gatherStep f s x : Outcome ε _) = crash := by rw [gatherStep, hx]
      rw [hstep, crash_bind]
      exact iff_of_false (by simp) (by simp [hx])
    · have hstep : (gatherStep f s x : Outcome ε _) = .ok (s.1 ++ [a], s.2) := by rw [gatherStep, hx]
      rw [hstep, ok_bind]
      refine (ih (s := (s.1 ++ [a], s.2))).trans ?_
      simp [hx]

theorem gather_eq_ok_nil {as : List α} : (gather xs f : Outcome ε _) = .ok (as, []) ↔ collect xs f = .ok as := by
  refine (forEach_gatherStep_eq_ok (s := ([], []))).trans ?_
  simp

theorem mem_errors_of_gather (h : (gather xs f : Outcome ε _) = .ok r) {d : δ} (hd : d ∈ r.2) :
    ∃ x ∈ xs, f x = fail d := by
  obtain ⟨ds, hds, hmem⟩ := forEach_gatherStep_errors h
  rw [hds, List.nil_append] at hd
  exact hmem d hd

end gather

end Checked
