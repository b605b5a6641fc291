import Mathlib.Data.List.Forall2

namespace Stepping

variable {σ τ ι α β : Type}

def run (step : ι → σ → α × σ) : List ι → σ → List α × σ
  | [], s => ([], s)
  | x :: xs, s => ((step x s).1 :: (run step xs (step x s).2).1, (run step xs (step x s).2).2)

/-- The runs of a machine that may choose its answers. -/
inductive Trace (trans : ι → τ → β → τ → Prop) : List ι → τ → List β → τ → Prop
  | nil (t : τ) : Trace trans [] t [] t
  | cons {x : ι} {xs : List ι} {t t' t'' : τ} {b : β} {bs : List β} (first : trans x t b t')
    (rest : Trace trans xs t' bs t'') : Trace trans (x :: xs) t (b :: bs) t''

section Run

variable {step : ι → σ → α × σ} {xs ys : List ι} {s : σ}

theorem run_append : run step (xs ++ ys) s =
    ((run step xs s).1 ++ (run step ys (run step xs s).2).1, (run step ys (run step xs s).2).2) := by
  induction xs generalizing s with
  | nil => rfl
  | cons x xs ih => rw [List.cons_append, run, run, ih, List.cons_append]

theorem run_keeps {inv : σ → Prop} (hstep : ∀ x ∈ xs, ∀ s, inv s → inv (step x s).2) (h : inv s) :
    inv (run step xs s).2 := by
  induction xs generalizing s with
  | nil => exact h
  | cons x xs ih =>
    apply ih
    · intro y hy
      exact hstep y (List.mem_cons_of_mem _ hy)
    · exact hstep x List.mem_cons_self s h

theorem forall_answers {inv : σ → Prop} {good : α → Prop}
    (hstep : ∀ x ∈ xs, ∀ s, inv s → good (step x s).1 ∧ inv (step x s).2) (h : inv s) :
    ∀ a ∈ (run step xs s).1, good a := by
  induction xs generalizing s with
  | nil =>
    intro a ha
    cases ha
  | cons x xs ih =>
    obtain ⟨hgood, hinv⟩ := hstep x List.mem_cons_self s h
    rw [run, List.forall_mem_cons]
    refine ⟨hgood, ih ?_ hinv⟩
    intro y hy
    exact hstep y (List.mem_cons_of_mem _ hy)

theorem run_filter {inv : σ → Prop} {input : α → ι} {keep : α → Bool} (hinput : ∀ x s, input (step x s).1 = x)
    (hstep : ∀ x s, inv s → inv (step x s).2)
    (hstutter : ∀ x s, inv s → keep (step x s).1 = false → (step x s).2 = s) (h : inv s) :
    run step (((run step xs s).1.filter keep).map input) s = ((run step xs s).1.filter keep, (run step xs s).2) := by
  induction xs generalizing s with
  | nil => rfl
  | cons x xs ih =>
    have hcons : run step (x :: xs) s =
        ((step x s).1 :: (run step xs (step x s).2).1, (run step xs (step x s).2).2) := rfl
    cases hkeep : keep (step x s).1 with
    | true => rw [hcons, List.filter_cons_of_pos hkeep, List.map_cons, hinput, run, ih (hstep x s h)]
    | false =>
      have hstay := hstutter x s h hkeep
      rw [hcons, List.filter_cons_of_neg (by rw [hkeep]; exact Bool.false_ne_true), hstay]
      exact ih h

end Run

section Simulation

variable {step : ι → σ → α × σ} {trans : ι → τ → β → τ → Prop} {related : σ → τ → Prop} {shows : α → β → Prop}
  {xs : List ι} {s : σ} {t : τ}

theorem trace_of_run (hstep : ∀ x ∈ xs, ∀ s t, related s t → ∃ b t', trans x t b t' ∧ shows (step x s).1 b ∧
    related (step x s).2 t') (h : related s t) : ∃ bs t', Trace trans xs t bs t' ∧
      List.Forall₂ shows (run step xs s).1 bs ∧ related (run step xs s).2 t' := by
  induction xs generalizing s t with
  | nil => exact ⟨[], t, .nil t, .nil, h⟩
  | cons x xs ih =>
    obtain ⟨b, t', hfirst, hshows, hrelated⟩ := hstep x List.mem_cons_self s t h
    obtain ⟨bs, t'', hrest, hall, hend⟩ := ih (fun y hy => hstep y (List.mem_cons_of_mem _ hy)) hrelated
    exact ⟨b :: bs, t'', .cons hfirst hrest, .cons hshows hall, hend⟩

theorem Trace.keeps {inv : τ → Prop} {bs : List β} {t' : τ} (htrace : Trace trans xs t bs t')
    (hstep : ∀ x t b t', inv t → trans x t b t' → inv t') (h : inv t) : inv t' := by
  induction htrace with
  | nil => exact h
  | cons hfirst _ ih => exact ih (hstep _ _ _ _ h hfirst)

theorem run_simulates {step' : ι → τ → β × τ} (hstep : ∀ x ∈ xs, ∀ s t, related s t →
    shows (step x s).1 (step' x t).1 ∧ related (step x s).2 (step' x t).2) (h : related s t) :
    List.Forall₂ shows (run step xs s).1 (run step' xs t).1 ∧ related (run step xs s).2 (run step' xs t).2 := by
  induction xs generalizing s t with
  | nil => exact ⟨.nil, h⟩
  | cons x xs ih =>
    obtain ⟨hshows, hrelated⟩ := hstep x List.mem_cons_self s t h
    obtain ⟨hall, hend⟩ := ih (fun y hy => hstep y (List.mem_cons_of_mem _ hy)) hrelated
    exact ⟨.cons hshows hall, hend⟩

/-- A machine that logs a segment at each step logs the segments of its run one after the other. -/
theorem run_logs {ω : Type} {logging : ι → σ × List ω → β × (σ × List ω)} {inv : σ → Prop} {answer : α → β}
    {tells : α → List ω → Prop} {log : List ω} (hstep : ∀ x ∈ xs, ∀ s log, inv s → inv (step x s).2 ∧
      ∃ segment, logging x (s, log) = (answer (step x s).1, ((step x s).2, log ++ segment)) ∧
        tells (step x s).1 segment) (h : inv s) : ∃ segments,
      run logging xs (s, log) = ((run step xs s).1.map answer, ((run step xs s).2, log ++ segments.flatten)) ∧
        List.Forall₂ tells (run step xs s).1 segments := by
  induction xs generalizing s log with
  | nil => exact ⟨[], by rw [List.flatten_nil, List.append_nil]; rfl, .nil⟩
  | cons x xs ih =>
    obtain ⟨hinv, segment, hlogging, htells⟩ := hstep x List.mem_cons_self s log h
    obtain ⟨segments, hrun, hall⟩ := @ih _ (log ++ segment) (fun y hy => hstep y (List.mem_cons_of_mem _ hy)) hinv
    refine ⟨segment :: segments, ?_, .cons htells hall⟩
    rw [run, hlogging, hrun, List.flatten_cons, ← List.append_assoc]
    rfl

theorem forall_mem_flatten {κ : Type} {expands : ι → List κ → Prop} {good : κ → Prop} {groups : List (List κ)}
    (hgroups : List.Forall₂ expands xs groups) (hgood : ∀ x ∈ xs, ∀ ys, expands x ys → ∀ y ∈ ys, good y) :
    ∀ y ∈ groups.flatten, good y := by
  induction hgroups with
  | nil =>
    intro y hy
    cases hy
  | @cons x ys xs groups hfirst _ ih =>
    rw [List.flatten_cons, List.forall_mem_append]
    refine ⟨hgood x List.mem_cons_self ys hfirst, ih ?_⟩
    intro z hz
    exact hgood z (List.mem_cons_of_mem _ hz)

theorem run_flatten_simulates {κ : Type} {step' : κ → τ → β × τ} {expands : ι → List κ → Prop}
    {groups : List (List κ)} (hgroups : List.Forall₂ expands xs groups)
    (hstep : ∀ x ∈ xs, ∀ ys s t, expands x ys → related s t → related (step x s).2 (run step' ys t).2)
    (h : related s t) : related (run step xs s).2 (run step' groups.flatten t).2 := by
  induction hgroups generalizing s t with
  | nil => exact h
  | @cons x ys xs groups hfirst _ ih =>
    rw [List.flatten_cons, run_append]
    apply ih
    · intro y hy
      exact hstep y (List.mem_cons_of_mem _ hy)
    · exact hstep x List.mem_cons_self ys s t hfirst h

end Simulation

end Stepping
