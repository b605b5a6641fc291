import Mathlib.Algebra.Order.BigOperators.Group.Finset
import Mathlib.Data.Nat.Cast.Basic

open scoped BigOperators

namespace Splitting

section Pieces

variable {P Q : ℕ → ℕ → Prop} {start count : ℕ} {counts : List ℕ}

def Pieces (P : ℕ → ℕ → Prop) : ℕ → List ℕ → Prop
  | _, [] => True
  | start, count :: counts => P start count ∧ Pieces P (start + count) counts

end Pieces

section Weight

variable {M : Type} [AddCommMonoid M] [LinearOrder M] [IsOrderedAddMonoid M] [CanonicallyOrderedAdd M] {w : ℕ → M}

def weight (w : ℕ → M) (start count : ℕ) : M := ∑ i ∈ Finset.range count, w (start + i)

omit [LinearOrder M] [IsOrderedAddMonoid M] [CanonicallyOrderedAdd M] in
theorem weight_add (w : ℕ → M) (start a b : ℕ) : weight w start (a + b) = weight w start a + weight w (start + a) b := by
  simp only [weight, Finset.sum_range_add, Nat.add_assoc]

theorem weight_le_weight {a b c d : ℕ} (hstart : c ≤ a) (hend : a + b ≤ c + d) : weight w a b ≤ weight w c d := by
  obtain ⟨before, rfl⟩ := Nat.exists_eq_add_of_le hstart
  obtain ⟨after, hafter⟩ := Nat.exists_eq_add_of_le hend
  obtain rfl : d = before + b + after := by omega
  rw [weight_add, weight_add]
  exact (le_add_of_nonneg_left zero_le).trans (le_add_of_nonneg_right zero_le)

def Fits (w : ℕ → M) (limit : M) (start count : ℕ) : Prop := 0 < count ∧ (weight w start count ≤ limit ∨ count = 1)

def Full (w : ℕ → M) (limit : M) (total start count : ℕ) : Prop :=
  start + count < total → limit < weight w start (count + 1)

theorem length_le_of_ahead {limit : M} {total a b : ℕ} {full other : List ℕ} (hahead : b ≤ a)
    (hfull : Pieces (Full w limit total) a full) (hpositive : ∀ count ∈ full, 0 < count)
    (hfulltotal : a + full.sum = total) (hother : Pieces (Fits w limit) b other) (hothertotal : b + other.sum = total) :
    full.length ≤ other.length := by
  induction full generalizing a b other with
  | nil => exact Nat.zero_le _
  | cons count counts ih =>
    have hcount := hpositive count (by simp)
    rw [List.sum_cons] at hfulltotal
    cases other with
    | nil =>
      rw [List.sum_nil] at hothertotal
      omega
    | cons first rest =>
      rw [List.sum_cons] at hothertotal
      have hnext : b + first ≤ a + count := by
        by_contra hbehind
        have hlimit := hfull.1 (by omega)
        have hinside : weight w a (count + 1) ≤ weight w b first := weight_le_weight hahead (by omega)
        rcases hother.1.2 with hfits | hsingle
        · exact absurd (hlimit.trans_le (hinside.trans hfits)) (lt_irrefl _)
        · omega
      have hrest : counts.length ≤ rest.length :=
        ih hnext hfull.2 (fun c hc => hpositive c (by simp [hc])) (by omega) hother.2 (by omega)
      exact Nat.succ_le_succ hrest

/-- Splitting greedily is optimal. -/
theorem length_le_of_full {limit : M} {total : ℕ} {full other : List ℕ} (hfull : Pieces (Full w limit total) 0 full)
    (hpositive : ∀ count ∈ full, 0 < count) (hfulltotal : full.sum = total) (hother : Pieces (Fits w limit) 0 other)
    (hothertotal : other.sum = total) : full.length ≤ other.length := by
  apply length_le_of_ahead (Nat.le_refl 0) hfull hpositive _ hother
  · omega
  · omega

end Weight

end Splitting
