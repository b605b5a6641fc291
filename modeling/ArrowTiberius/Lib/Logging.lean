import ArrowTiberius.Lib.Relating

namespace Checked.Session

variable {σ τ ω ε δ α β γ ι : Type}

def emit (events : List ω) : Session (σ × List ω) ε Unit := ⟨fun s => (.ok (), (s.1, s.2 ++ events))⟩

def quietly (x : Session σ ε α) : Session (σ × List ω) ε α := ⟨fun s => ((x.run s.1).1, ((x.run s.1).2, s.2))⟩

def faultEvents (report : ε → List ω) : Fault ε → List ω
  | .error e => report e
  | .panic => []

def outcomeEvents (report : ε → List ω) : Outcome ε α → List ω
  | .ok _ => []
  | .error e => faultEvents report e

def reporting (report : ε → List ω) (x : Session (σ × List ω) ε α) : Session (σ × List ω) ε α :=
  ⟨fun s => ((x.run s).1, ((x.run s).2.1, (x.run s).2.2 ++ outcomeEvents report (x.run s).1))⟩

theorem run_reporting (report : ε → List ω) (x : Session (σ × List ω) ε α) (p : σ × List ω) :
    (reporting report x).run p =
      ((x.run p).1, ((x.run p).2.1, (x.run p).2.2 ++ outcomeEvents report (x.run p).1)) := rfl

section Rules

variable {s : σ} {log : List ω} {Q : α → σ × List ω → Prop} {E : Fault ε → σ × List ω → Prop}

theorem ensures_emit {events : List ω} {Q : Unit → σ × List ω → Prop} (h : Q () (s, log ++ events)) :
    (emit events : Session (σ × List ω) ε Unit).Ensures (s, log) Q E := ensures_of_run rfl h

theorem Ensures.quietly {x : Session σ ε α} (h : x.Ensures s (fun a s' => Q a (s', log)) fun e s' => E e (s', log)) :
    (quietly x).Ensures (s, log) Q E := by
  have hrun : (Session.quietly x).run (s, log) = ((x.run s).1, ((x.run s).2, log)) := rfl
  rcases hx : x.run s with ⟨a | a, s'⟩
  · rw [hx] at hrun
    exact ensures_of_fault hrun (h.error _ _ hx)
  · rw [hx] at hrun
    exact ensures_of_run hrun (h.ok _ _ hx)

theorem Ensures.reporting {x : Session (σ × List ω) ε α} {report : ε → List ω} {p : σ × List ω}
    (h : x.Ensures p Q fun e p' => E e (p'.1, p'.2 ++ faultEvents report e)) :
    (reporting report x).Ensures p Q E := by
  have hrun := run_reporting report x p
  rcases hx : x.run p with ⟨e | a, p'⟩
  · rw [hx] at hrun
    exact ensures_of_fault hrun (h.error _ _ hx)
  · rw [hx] at hrun
    apply ensures_of_run hrun
    rw [outcomeEvents, List.append_nil]
    exact h.ok _ _ hx

end Rules

section Invariants

variable {good : ω → Prop} {log : List ω}

def Grown (good : ω → Prop) (log : List ω) (p : σ × List ω) : Prop :=
  ∃ events, p.2 = log ++ events ∧ ∀ event ∈ events, good event

theorem grown_refl (s : σ) : Grown good log (s, log) := by
  refine ⟨[], (List.append_nil log).symm, ?_⟩
  intro event hevent
  cases hevent

theorem Grown.append {p : σ × List ω} {s : σ} {events : List ω} (h : Grown good log p)
    (hevents : ∀ event ∈ events, good event) : Grown good log (s, p.2 ++ events) := by
  obtain ⟨events', hlog, hgood⟩ := h
  refine ⟨events' ++ events, by rw [hlog, List.append_assoc], ?_⟩
  exact List.forall_mem_append.mpr ⟨hgood, hevents⟩

theorem keeps_quietly (x : Session σ ε α) : Keeps (Grown good log) (quietly x) := keeps_of_run fun _ h => h

theorem keeps_emit {events : List ω} (hevents : ∀ event ∈ events, good event) :
    Keeps (Grown good log) (emit events : Session (σ × List ω) ε Unit) :=
  keeps_of_run fun _ h => h.append hevents

theorem Keeps.reporting {x : Session (σ × List ω) ε α} {report : ε → List ω} (hx : Keeps (Grown good log) x)
    (hreport : ∀ e, ∀ event ∈ report e, good event) : Keeps (Grown good log) (reporting report x) := by
  intro p hp
  apply Ensures.reporting
  apply (hx p hp).mono
  · exact fun _ _ h => h
  · intro e p' hp'
    apply hp'.append
    cases e with
    | error e => exact hreport e
    | panic =>
      intro event hevent
      cases hevent

end Invariants

section Erasure

/-- With its log left out, a computation is another. -/
def Erases (x : Session (σ × List ω) ε α) (y : Session σ ε α) : Prop :=
  ∀ p : σ × List ω, Relates (fun p s => p.1 = s) Eq Eq x y p p.1

variable {x : Session (σ × List ω) ε α} {y : Session σ ε α}

theorem Erases.run (h : Erases x y) (s : σ) (log : List ω) :
    (x.run (s, log)).1 = (y.run s).1 ∧ (x.run (s, log)).2.1 = (y.run s).2 :=
  ⟨outcomes_eq_iff.mp (h (s, log)).outcome, (h (s, log)).state⟩

theorem erases_of_run (h : ∀ s log, (x.run (s, log)).1 = (y.run s).1 ∧ (x.run (s, log)).2.1 = (y.run s).2) :
    Erases x y := by
  rintro ⟨s, log⟩
  exact ⟨outcomes_eq_iff.mpr (h s log).1, (h s log).2⟩

theorem erases_quietly (y : Session σ ε α) : Erases (quietly y : Session (σ × List ω) ε α) y :=
  erases_of_run fun _ _ => ⟨rfl, rfl⟩

theorem erases_pure (a : α) : Erases (pure a : Session (σ × List ω) ε α) (lift (pure a)) :=
  erases_of_run fun _ _ => ⟨rfl, rfl⟩

theorem Erases.bind {f : α → Session (σ × List ω) ε β} {g : α → Session σ ε β} (h : Erases x y)
    (hnext : ∀ a, Erases (f a) (g a)) : Erases (x >>= f) (y >>= g) := by
  intro p
  apply (h p).bind
  rintro a _ p' _ rfl rfl
  exact hnext a p'

theorem Erases.after_emit {events : List ω} {f : Unit → Session (σ × List ω) ε α} (h : Erases (f ()) y) :
    Erases (emit events >>= f) y := by
  apply erases_of_run
  intro s log
  have hemit : (emit events : Session (σ × List ω) ε Unit).run (s, log) = (.ok (), (s, log ++ events)) := rfl
  rw [run_bind_of_ok hemit]
  exact h.run s (log ++ events)

theorem Erases.then_emit {events : α → List ω} (h : Erases x y) :
    Erases (x >>= fun a => emit (events a) >>= fun _ => pure a) y := by
  apply erases_of_run
  intro s log
  obtain ⟨hresult, hstate⟩ := h.run s log
  rcases hx : x.run (s, log) with ⟨e | a, p⟩
  · rw [run_bind_of_error hx, ← hresult, ← hstate, hx]
    exact ⟨rfl, rfl⟩
  · rw [run_bind_of_ok hx, ← hresult, ← hstate, hx]
    exact ⟨rfl, rfl⟩

theorem Erases.before_emit {x : Session (σ × List ω) ε Unit} {y : Session σ ε Unit} {events : List ω} (h : Erases x y) :
    Erases (x >>= fun _ => emit events) y := by
  apply erases_of_run
  intro s log
  obtain ⟨hresult, hstate⟩ := h.run s log
  rcases hx : x.run (s, log) with ⟨e | a, p⟩
  · rw [run_bind_of_error hx, ← hresult, ← hstate, hx]
    exact ⟨rfl, rfl⟩
  · rw [run_bind_of_ok hx, ← hresult, ← hstate, hx]
    exact ⟨rfl, rfl⟩

theorem Erases.reporting (h : Erases x y) (report : ε → List ω) : Erases (reporting report x) y :=
  erases_of_run h.run

theorem Erases.withError (h : Erases x y) (f : ε → ε) : Erases (x.withError f) (y.withError f) := by
  intro p
  apply (h p).withError
  rintro e _ rfl
  rfl

theorem erases_each {xs : List ι} {body : ι → Session (σ × List ω) ε Unit} {body' : ι → Session σ ε Unit}
    (h : ∀ x ∈ xs, Erases (body x) (body' x)) : Erases (each xs body) (each xs body') := by
  intro p
  apply relates_each
  · rintro x hx p' _ rfl
    exact h x hx p'
  · rfl

end Erasure

section Alike

variable {state : σ → τ → Prop} {error : ε → δ → Prop} {value : α → β → Prop} {p : σ × List ω} {q : τ × List ω}

def Alike (state : σ → τ → Prop) (p : σ × List ω) (q : τ × List ω) : Prop := state p.1 q.1 ∧ p.2 = q.2

theorem relates_emit {events events' : List ω} (hevents : events = events') (h : Alike state p q) :
    Relates (Alike state) error Eq (emit events) (emit events') p q :=
  ⟨.ok rfl, h.1, congrArg₂ (· ++ ·) h.2 hevents⟩

theorem relates_quietly {x : Session σ ε α} {y : Session τ δ β} (hx : Relates state error value x y p.1 q.1)
    (h : Alike state p q) : Relates (Alike state) error value (quietly x) (quietly y) p q :=
  ⟨hx.outcome, hx.state, h.2⟩

theorem Relates.reporting {x : Session (σ × List ω) ε α} {y : Session (τ × List ω) δ β} {report : ε → List ω}
    {report' : δ → List ω} (hx : Relates (Alike state) error value x y p q)
    (hreport : ∀ e d, error e d → report e = report' d) :
    Relates (Alike state) error value (reporting report x) (reporting report' y) p q := by
  obtain ⟨houtcome, hstate, hlog⟩ := hx
  have hevents : outcomeEvents report (x.run p).1 = outcomeEvents report' (y.run q).1 := by
    generalize (x.run p).1 = r at houtcome
    generalize (y.run q).1 = r' at houtcome
    cases houtcome with
    | ok h => rfl
    | error h => exact hreport _ _ h
    | panic => rfl
  exact ⟨houtcome, hstate, congrArg₂ (· ++ ·) hlog hevents⟩

end Alike

end Checked.Session
