import Mathlib.Algebra.Order.Ring.Int
import Mathlib.Tactic.Common
import Mathlib.Tactic.Linarith
import Mathlib.Tactic.Ring

namespace Rounding

/-- `x` is the multiple of `factor` nearest to `t`, the later one of two equally near. -/
structure IsNearest (factor t x : ℤ) : Prop where
  dvd : factor ∣ x
  above : -factor ≤ 2 * (t - x)
  below : 2 * (t - x) < factor

def nearest (factor t : ℤ) : ℤ :=
  (if 2 * (t % factor) < factor then t / factor else t / factor + 1) * factor

variable {factor t x y : ℤ}

theorem IsNearest.unique (hx : IsNearest factor t x) (hy : IsNearest factor t y) : x = y := by
  obtain ⟨a, rfl⟩ := hx.dvd
  obtain ⟨b, rfl⟩ := hy.dvd
  have hlt : factor * (a - b) < factor := by linarith [hx.above, hy.below, mul_sub factor a b]
  have hgt : -factor < factor * (a - b) := by linarith [hx.below, hy.above, mul_sub factor a b]
  have hpos : 0 < factor := by linarith [hx.above, hx.below]
  have ha : a - b < 1 := by nlinarith
  have hb : -1 < a - b := by nlinarith
  have hab : a = b := by omega
  rw [hab]

theorem isNearest_nearest (hpos : 0 < factor) : IsNearest factor t (nearest factor t) := by
  have hdiv := Int.mul_ediv_add_emod t factor
  have hnonneg := Int.emod_nonneg t hpos.ne'
  have hlt := Int.emod_lt_of_pos t hpos
  unfold nearest
  split
  case isTrue h => exact ⟨Dvd.intro_left _ rfl, by linarith, by linarith⟩
  case isFalse h => exact ⟨Dvd.intro_left _ rfl, by linarith, by linarith⟩

theorem isNearest_iff (hpos : 0 < factor) : IsNearest factor t x ↔ x = nearest factor t :=
  ⟨fun h => h.unique (isNearest_nearest hpos), fun h => h ▸ isNearest_nearest hpos⟩

theorem le_nearest_of_le {m : ℤ} (hpos : 0 < factor) (hm : factor ∣ m) (h : m ≤ t) : m ≤ nearest factor t := by
  obtain ⟨k, rfl⟩ := hm
  obtain ⟨j, hj⟩ := (isNearest_nearest (t := t) hpos).dvd
  have habove := (isNearest_nearest (t := t) hpos).above
  have hbelow := (isNearest_nearest (t := t) hpos).below
  rw [hj] at hbelow ⊢
  have hk : k ≤ j := by
    by_contra hlt
    have hle : j + 1 ≤ k := by omega
    have hmul : factor * (j + 1) ≤ factor * k := mul_le_mul_of_nonneg_left hle hpos.le
    linarith [mul_add factor j 1]
  exact mul_le_mul_of_nonneg_left hk hpos.le

def nearestCount (factor t : ℤ) : ℤ := if 2 * (t % factor) < factor then t / factor else t / factor + 1

theorem nearest_eq (factor t : ℤ) : nearest factor t = nearestCount factor t * factor := rfl

theorem nearestCount_mul (hpos : 0 < factor) (k : ℤ) : nearestCount factor (k * factor) = k := by
  rw [nearestCount, Int.mul_emod_left, Int.mul_ediv_cancel _ hpos.ne', if_pos (by omega)]

theorem nearestCount_mono (hpos : 0 < factor) {s : ℤ} (h : s ≤ t) : nearestCount factor s ≤ nearestCount factor t := by
  have hs := isNearest_nearest (t := s) hpos
  have ht := isNearest_nearest (t := t) hpos
  rw [nearest_eq] at hs ht
  by_contra hlt
  have hstep : (nearestCount factor t + 1) * factor ≤ nearestCount factor s * factor := by
    apply mul_le_mul_of_nonneg_right _ hpos.le
    omega
  rw [add_mul, one_mul] at hstep
  linarith [hs.above, ht.below]

end Rounding
