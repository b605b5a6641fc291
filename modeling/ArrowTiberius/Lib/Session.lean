import ArrowTiberius.Lib.Outcome

namespace Checked

variable {σ ε α β ι : Type}

def Fault.map {δ : Type} (f : ε → δ) : Fault ε → Fault δ
  | .error e => .error (f e)
  | .panic => .panic

theorem mapError_error {δ : Type} (f : ε → δ) (e : Fault ε) :
    mapError f (.error e : Outcome ε α) = .error (e.map f) := by
  cases e <;> rfl

/-- A computation on a state, which stays as the computation left it when it fails. -/
structure Session (σ ε α : Type) where
  run : σ → Outcome ε α × σ

namespace Session

instance : Monad (Session σ ε) where
  pure a := ⟨fun s => (.ok a, s)⟩
  bind x f := ⟨fun s =>
    match x.run s with
    | (.ok a, s) => (f a).run s
    | (.error e, s) => (.error e, s)⟩

def get : Session σ ε σ := ⟨fun s => (.ok s, s)⟩

def set (s : σ) : Session σ ε Unit := ⟨fun _ => (.ok (), s)⟩

def lift (x : Outcome ε α) : Session σ ε α := ⟨fun s => (x, s)⟩

def withError (f : ε → ε) (x : Session σ ε α) : Session σ ε α := ⟨fun s => (mapError f (x.run s).1, (x.run s).2)⟩

def each : List ι → (ι → Session σ ε Unit) → Session σ ε Unit
  | [], _ => pure ()
  | x :: xs, body => do
    body x
    each xs body

/-- What holds of the value and the state when a computation succeeds, and of the fault and the state when it fails. -/
structure Ensures (x : Session σ ε α) (s : σ) (succeeded : α → σ → Prop) (failed : Fault ε → σ → Prop) : Prop where
  ok : ∀ a s', x.run s = (.ok a, s') → succeeded a s'
  error : ∀ e s', x.run s = (.error e, s') → failed e s'

section Rules

variable {s s' : σ} {a : α} {Q : α → σ → Prop} {R : β → σ → Prop} {E F : Fault ε → σ → Prop}

theorem ensures_of_run {x : Session σ ε α} (hx : x.run s = (.ok a, s')) (h : Q a s') : x.Ensures s Q E where
  ok b t hb := by
    rw [hx, Prod.mk.injEq, Except.ok.injEq] at hb
    obtain ⟨rfl, rfl⟩ := hb
    exact h
  error e t he := by
    rw [hx] at he
    cases he

theorem ensures_of_fault {x : Session σ ε α} {e : Fault ε} (hx : x.run s = (.error e, s')) (h : E e s') :
    x.Ensures s Q E where
  ok b t hb := by
    rw [hx] at hb
    cases hb
  error f t hf := by
    rw [hx, Prod.mk.injEq, Except.error.injEq] at hf
    obtain ⟨rfl, rfl⟩ := hf
    exact h

theorem run_bind_of_ok {x : Session σ ε α} {f : α → Session σ ε β} (hx : x.run s = (.ok a, s')) :
    (x >>= f).run s = (f a).run s' := by
  have hbind : (x >>= f).run s = match x.run s with
      | (.ok a, s) => (f a).run s
      | (.error e, s) => (.error e, s) := rfl
  rw [hbind, hx]

theorem run_bind_of_error {x : Session σ ε α} {f : α → Session σ ε β} {e : Fault ε} (hx : x.run s = (.error e, s')) :
    (x >>= f).run s = (.error e, s') := by
  have hbind : (x >>= f).run s = match x.run s with
      | (.ok a, s) => (f a).run s
      | (.error e, s) => (.error e, s) := rfl
  rw [hbind, hx]

theorem run_lift_withError {x : Outcome ε α} {f : ε → ε} :
    ((lift x : Session σ ε α).withError f).run s = (mapError f x, s) := rfl

theorem lift_bind (x : Outcome ε α) (f : α → Outcome ε β) :
    (lift (x >>= f) : Session σ ε β) = lift x >>= fun a => lift (f a) := by
  cases x with
  | ok a => rfl
  | error e => rfl

theorem ensures_pure (h : Q a s) : (pure a : Session σ ε α).Ensures s Q E := ensures_of_run rfl h

theorem ensures_get {Q : σ → σ → Prop} (h : Q s s) : (get : Session σ ε σ).Ensures s Q E := ensures_of_run rfl h

theorem ensures_set {Q : Unit → σ → Prop} (h : Q () s') : (set s' : Session σ ε Unit).Ensures s Q E :=
  ensures_of_run rfl h

theorem ensures_lift {x : Outcome ε α} (hok : ∀ a, x = .ok a → Q a s) (herror : ∀ e, x = .error e → E e s) :
    (lift x : Session σ ε α).Ensures s Q E := by
  cases x with
  | ok a => exact ensures_of_run rfl (hok a rfl)
  | error e => exact ensures_of_fault rfl (herror e rfl)

theorem ensures_lift_ok {x : Outcome ε α} (hx : x = .ok a) (h : Q a s) : (lift x : Session σ ε α).Ensures s Q E :=
  ensures_of_run (congrArg (·, s) hx) h

theorem ensures_lift_error {x : Outcome ε α} {e : Fault ε} (hx : x = .error e) (h : E e s) :
    (lift x : Session σ ε α).Ensures s Q E :=
  ensures_of_fault (congrArg (·, s) hx) h

theorem Ensures.bind {x : Session σ ε α} {f : α → Session σ ε β}
    (h : x.Ensures s (fun a s' => (f a).Ensures s' R E) E) : (x >>= f).Ensures s R E := by
  rcases hx : x.run s with ⟨a | a, t⟩
  · exact ensures_of_fault (run_bind_of_error hx) (h.error _ _ hx)
  · obtain ⟨hok, herror⟩ := h.ok _ _ hx
    have hbind := @run_bind_of_ok _ _ _ _ _ _ _ _ f hx
    exact ⟨fun b u hb => hok b u (hbind.symm.trans hb), fun e u he => herror e u (hbind.symm.trans he)⟩

theorem Ensures.mono {x : Session σ ε α} {Q' : α → σ → Prop} (h : x.Ensures s Q E) (hok : ∀ a s', Q a s' → Q' a s')
    (herror : ∀ e s', E e s' → F e s') : x.Ensures s Q' F :=
  ⟨fun a s' ha => hok a s' (h.ok a s' ha), fun e s' he => herror e s' (h.error e s' he)⟩

theorem Ensures.of_run {x y : Session σ ε α} (h : x.Ensures s Q E) (hrun : y.run s = x.run s) : y.Ensures s Q E :=
  ⟨fun a s' ha => h.ok a s' (hrun.symm.trans ha), fun e s' he => h.error e s' (hrun.symm.trans he)⟩

theorem Ensures.run {x : Session σ ε α} {P : Outcome ε α → σ → Prop}
    (h : x.Ensures s (fun a s' => P (.ok a) s') fun e s' => P (.error e) s') : P (x.run s).1 (x.run s).2 := by
  rcases hx : x.run s with ⟨e | a, s'⟩
  · exact h.error e s' hx
  · exact h.ok a s' hx

theorem Ensures.withError {x : Session σ ε α} {f : ε → ε} (h : x.Ensures s Q fun e s' => E (e.map f) s') :
    (x.withError f).Ensures s Q E := by
  have hrun : (x.withError f).run s = (mapError f (x.run s).1, (x.run s).2) := rfl
  rcases hx : x.run s with ⟨a | a, t⟩
  · rw [hx, mapError_error] at hrun
    exact ensures_of_fault hrun (h.error _ _ hx)
  · rw [hx] at hrun
    exact ensures_of_run hrun (h.ok _ _ hx)

theorem ensures_each {xs : List ι} {body : ι → Session σ ε Unit} (inv : List ι → σ → Prop)
    (hbody : ∀ x rest s, inv (x :: rest) s → (body x).Ensures s (fun _ s' => inv rest s') E) (h : inv xs s) :
    (each xs body).Ensures s (fun _ s' => inv [] s') E := by
  induction xs generalizing s with
  | nil => exact ensures_pure h
  | cons x xs ih => exact ((hbody x xs s h).mono (fun _ _ => ih) fun _ _ => id).bind

/-- A loop that fails does so at one of its rounds, with the rounds before it done. -/
theorem ensures_each_split {xs : List ι} {body : ι → Session σ ε Unit} {done : List ι → σ → Prop}
    {stopped : List ι → ι → Fault ε → σ → Prop} (hbody : ∀ before x after s, xs = before ++ x :: after → done before s →
      (body x).Ensures s (fun _ s' => done (before ++ [x]) s') (stopped before x)) (h : done [] s) :
    (each xs body).Ensures s (fun _ s' => done xs s')
      (fun e s' => ∃ before x after, xs = before ++ x :: after ∧ stopped before x e s') := by
  have hloop := @ensures_each _ _ _ s (fun e s' => ∃ before x after, xs = before ++ x :: after ∧
    stopped before x e s') xs body (fun rest s' => ∃ before, xs = before ++ rest ∧ done before s')
    (by
      rintro x after s' ⟨before, hsplit, hdone⟩
      apply (hbody before x after s' hsplit hdone).mono
      · intro _ s'' h
        exact ⟨before ++ [x], by rw [hsplit, List.append_assoc, List.singleton_append], h⟩
      · intro e s'' h
        exact ⟨before, x, after, hsplit, h⟩)
    ⟨[], rfl, h⟩
  apply hloop.mono
  · rintro _ s' ⟨before, hsplit, hdone⟩
    rw [List.append_nil] at hsplit
    exact hsplit ▸ hdone
  · exact fun _ _ h => h

end Rules

def Keeps (inv : σ → Prop) (x : Session σ ε α) : Prop := ∀ s, inv s → x.Ensures s (fun _ => inv) fun _ => inv

section Invariants

variable {inv : σ → Prop}

theorem Keeps.run {x : Session σ ε α} (hx : Keeps inv x) {s : σ} (h : inv s) : inv (x.run s).2 :=
  @Ensures.run _ _ _ _ _ (fun _ s' => inv s') (hx s h)

theorem ensures_of_after {x : Session σ ε α} {s : σ} (h : inv (x.run s).2) :
    x.Ensures s (fun _ => inv) fun _ => inv := by
  constructor
  · intro a s' hrun
    exact (congrArg (fun r => inv r.2) hrun).mp h
  · intro e s' hrun
    exact (congrArg (fun r => inv r.2) hrun).mp h

theorem keeps_of_run {x : Session σ ε α} (h : ∀ s, inv s → inv (x.run s).2) : Keeps inv x :=
  fun s hs => ensures_of_after (h s hs)

theorem Keeps.bind {x : Session σ ε α} {f : α → Session σ ε β} (hx : Keeps inv x) (hf : ∀ a, Keeps inv (f a)) :
    Keeps inv (x >>= f) := by
  intro s hs
  apply Ensures.bind
  apply (hx s hs).mono
  · intro a s' hs'
    exact hf a s' hs'
  · exact fun _ _ h => h

theorem Keeps.withError {x : Session σ ε α} (hx : Keeps inv x) (f : ε → ε) : Keeps inv (x.withError f) := by
  intro s hs
  exact Ensures.withError (hx s hs)

theorem keeps_each {xs : List ι} {body : ι → Session σ ε Unit} (hbody : ∀ x ∈ xs, Keeps inv (body x)) :
    Keeps inv (each xs body) := by
  induction xs with
  | nil => exact keeps_of_run fun _ h => h
  | cons x xs ih =>
    apply (hbody x List.mem_cons_self).bind
    intro _
    apply ih
    intro y hy
    exact hbody y (List.mem_cons_of_mem _ hy)

end Invariants

end Session

end Checked
