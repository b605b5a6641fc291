import ArrowTiberius.Direct.Measure
import ArrowTiberius.Lib.Splitting

namespace ArrowTiberius.Direct

open Checked Tiling Splitting

def Consecutive : ℕ → List MeasuredRowRange → ℕ → Prop
  | start, [], stop => start = stop
  | start, range :: ranges, stop => range.start = start ∧ 0 < range.len ∧ Consecutive (start + range.len) ranges stop

theorem Consecutive.append {a b c : ℕ} {xs ys : List MeasuredRowRange} (hx : Consecutive a xs b)
    (hy : Consecutive b ys c) : Consecutive a (xs ++ ys) c := by
  induction xs generalizing a with
  | nil =>
    cases hx
    exact hy
  | cons x xs ih => exact ⟨hx.1, hx.2.1, ih hx.2.2⟩

namespace Consecutive

variable {a b : ℕ} {ranges : List MeasuredRowRange}

theorem positive (h : Consecutive a ranges b) : ∀ count ∈ ranges.map MeasuredRowRange.len, 0 < count := by
  induction ranges generalizing a with
  | nil => nofun
  | cons range ranges ih =>
    intro count hcount
    rcases List.mem_cons.mp hcount with rfl | hrest
    · exact h.2.1
    · exact ih h.2.2 count hrest

theorem sum_len (h : Consecutive a ranges b) : a + (ranges.map MeasuredRowRange.len).sum = b := by
  induction ranges generalizing a with
  | nil => exact h
  | cons range ranges ih =>
    rw [List.map_cons, List.sum_cons, ← Nat.add_assoc]
    exact ih h.2.2

theorem pieces {P : ℕ → ℕ → Prop} (h : Consecutive a ranges b) (hp : ∀ range ∈ ranges, P range.start range.len) :
    Pieces P a (ranges.map MeasuredRowRange.len) := by
  induction ranges generalizing a with
  | nil => trivial
  | cons range ranges ih =>
    have hhead := hp range (by simp)
    rw [h.1] at hhead
    exact ⟨hhead, ih h.2.2 fun other hother => hp other (by simp [hother])⟩

theorem le (h : Consecutive a ranges b) : a ≤ b := by
  have hsum := h.sum_len
  omega

theorem stop_le (h : Consecutive a ranges b) : ∀ range ∈ ranges, range.start + range.len ≤ b := by
  induction ranges generalizing a with
  | nil => nofun
  | cons range ranges ih =>
    intro other hother
    rcases List.mem_cons.mp hother with rfl | hrest
    · rw [h.1]
      exact h.2.2.le
    · exact ih h.2.2 other hrest

theorem split {before after : List MeasuredRowRange} {range : MeasuredRowRange}
    (h : Consecutive a (before ++ range :: after) b) : Consecutive a before range.start ∧ range.start < b := by
  induction before generalizing a with
  | nil =>
    have hstop := h.stop_le range List.mem_cons_self
    have hlen : 0 < range.len := h.2.1
    exact ⟨h.1.symm, by omega⟩
  | cons first before ih =>
    obtain ⟨hbefore, hlt⟩ := ih h.2.2
    exact ⟨⟨h.1, h.2.1, hbefore⟩, hlt⟩

theorem rows_eq (h : Consecutive a ranges b) :
    (ranges.flatMap fun range => List.range' range.start range.len) = List.range' a (b - a) := by
  induction ranges generalizing a with
  | nil =>
    cases h
    simp
  | cons range ranges ih =>
    have hstop := h.2.2.le
    have hsplit : b - a = range.len + (b - (a + range.len)) := by omega
    rw [List.flatMap_cons, ih h.2.2, h.1, hsplit, List.range'_append_1]

theorem weights_sum {w : ℕ → ℕ} (h : Consecutive a ranges b) :
    (ranges.map fun range => weight w range.start range.len).sum = weight w a (b - a) := by
  induction ranges generalizing a with
  | nil =>
    cases h
    simp [weight]
  | cons range ranges ih =>
    have hstop := h.2.2.le
    have hsplit : b - a = range.len + (b - (a + range.len)) := by omega
    rw [List.map_cons, List.sum_cons, ih h.2.2, h.1, hsplit, weight_add]

end Consecutive

namespace MeasuredDirectBatch

def RangeFits (m : MeasuredDirectBatch) (limit : ℕ) (range : MeasuredRowRange) : Prop :=
  (∃ n, m.rangePayloadLen range.start range.len = .ok n ∧ n ≤ limit) ∨ range.len = 1

def RangeFull (m : MeasuredDirectBatch) (limit : ℕ) (range : MeasuredRowRange) : Prop :=
  range.start + range.len < m.rowCount → ∃ n, m.rangePayloadLen range.start (range.len + 1) = .ok n ∧ limit < n

end MeasuredDirectBatch

namespace Measures

open MeasuredDirectBatch

variable {rows columns limit : ℕ} {len : ℕ → ℕ → ℕ} {m : MeasuredDirectBatch}

theorem rangePayloadLen_eq_weight (h : Measures rows columns len m) {start count : ℕ} (hle : start + count ≤ rows) :
    m.rangePayloadLen start count = .ok (weight (rowLength columns rowTokenLen len) start count) :=
  h.rangePayloadLen_of_le hle

/-- The ranges closed so far are full, and the open one fits. -/
structure RangeInvariant (w : ℕ → ℕ) (limit rows : ℕ) (s : RangeState) : Prop where
  closed : Consecutive 0 s.ranges s.start
  stop : s.start + s.len = rows
  nonempty : 0 < rows → 0 < s.len
  bytes : s.bytes = weight w s.start s.len
  fits : ∀ range ∈ s.ranges, weight w range.start range.len ≤ limit ∨ range.len = 1
  full : ∀ range ∈ s.ranges, limit < weight w range.start (range.len + 1)
  current : s.len ≤ 1 ∨ s.bytes ≤ limit

theorem rowRangeStep_invariant {w : ℕ → ℕ} {i : ℕ} {s : RangeState} (h : RangeInvariant w limit i s)
    (hfits : weight w 0 (i + 1) < 2 ^ 64) :
    ∃ s', rowRangeStep limit s (w i, i) = .ok s' ∧ RangeInvariant w limit (i + 1) s' := by
  obtain ⟨ranges, start, count, bytes⟩ := s
  obtain ⟨hclosed, hstop, hnonempty, hbytes, hranges, hfull, hcurrent⟩ := h
  dsimp only at hclosed hstop hnonempty hbytes hranges hfull hcurrent
  subst hstop hbytes
  have hnext : weight w start count + w (start + count) = weight w start (count + 1) := by
    rw [weight_add]
    simp [weight]
  have hsmall : weight w start count + w (start + count) < 2 ^ 64 := by
    rw [hnext]
    exact lt_of_le_of_lt (weight_le_weight (Nat.zero_le _) (by omega)) hfits
  simp only [rowRangeStep, checkedAdd_of_lt hsmall, okOr_some, ok_bind]
  by_cases hover : count > 0 ∧ weight w start count + w (start + count) > limit
  · rw [if_pos hover]
    refine ⟨_, rfl, hclosed.append ⟨rfl, hover.1, rfl⟩, rfl, fun _ => Nat.one_pos, by simp [weight], ?_, ?_, .inl le_rfl⟩
    · intro range hrange
      rcases List.mem_append.mp hrange with hrange | hrange
      · exact hranges range hrange
      · obtain rfl := List.mem_singleton.mp hrange
        rcases hcurrent with hone | hwithin
        · exact .inr (by dsimp only; omega)
        · exact .inl hwithin
    · intro range hrange
      rcases List.mem_append.mp hrange with hrange | hrange
      · exact hfull range hrange
      · obtain rfl := List.mem_singleton.mp hrange
        rw [← hnext]
        exact hover.2
  · rw [if_neg hover]
    refine ⟨_, rfl, hclosed, (Nat.add_assoc start count 1).symm, fun _ => Nat.succ_pos _, hnext, hranges, hfull, ?_⟩
    dsimp only
    omega

theorem rowRanges_of_pos (h : Measures rows columns len m) (hlimit : 0 < limit) :
    ∃ ranges, m.rowRanges limit = .ok ranges ∧ Consecutive 0 ranges rows ∧
      (∀ range ∈ ranges, weight (rowLength columns rowTokenLen len) range.start range.len ≤ limit ∨ range.len = 1) ∧
      ∀ range ∈ ranges, range.start + range.len < rows →
        limit < weight (rowLength columns rowTokenLen len) range.start (range.len + 1) := by
  have hrange : m.rowLengths.zipIdx = (List.range rows).map fun r => (rowLength columns rowTokenLen len r, r) := by
    refine List.ext_getElem? fun i => ?_
    rw [h.rowLengths, List.getElem?_zipIdx]
    by_cases hi : i < rows <;> simp [hi]
  have htotal (i : ℕ) : weight (rowLength columns rowTokenLen len) 0 i = rowStart columns rowTokenLen len i := by
    simp only [weight, Nat.zero_add]
    rfl
  obtain ⟨s, hs, hinvariant⟩ := @forRange_of_invariant Error _ rows
    (fun s r => rowRangeStep limit s (rowLength columns rowTokenLen len r, r))
    (RangeInvariant (rowLength columns rowTokenLen len) limit) ⟨[], 0, 0, 0⟩
    ⟨rfl, rfl, by simp, by simp [weight], by simp, by simp, .inl (Nat.zero_le 1)⟩ (by
      intro i hi s hinvariant
      apply rowRangeStep_invariant hinvariant
      rw [htotal]
      exact lt_of_le_of_lt (rowStart_mono hi) h.fits)
  rw [rowRanges, ensure_of (by omega), ok_bind, hrange, forEach_map, ← forRange, hs, ok_bind]
  refine ⟨_, rfl, ?_⟩
  by_cases hopen : s.len > 0
  · rw [if_pos hopen]
    refine ⟨hinvariant.closed.append ⟨rfl, hopen, hinvariant.stop⟩, ?_, ?_⟩
    · intro range hrange
      rcases List.mem_append.mp hrange with hrange | hrange
      · exact hinvariant.fits range hrange
      · obtain rfl := List.mem_singleton.mp hrange
        rcases hinvariant.current with hone | hwithin
        · exact .inr (by dsimp only; omega)
        · rw [hinvariant.bytes] at hwithin
          exact .inl hwithin
    · intro range hrange hbefore
      rcases List.mem_append.mp hrange with hrange | hrange
      · exact hinvariant.full range hrange
      · obtain rfl := List.mem_singleton.mp hrange
        have hstop := hinvariant.stop
        dsimp only at hbefore
        omega
  · rw [if_neg hopen]
    have hstop := hinvariant.stop
    have hnonempty := hinvariant.nonempty
    have hstart : s.start = rows := by omega
    refine ⟨hstart ▸ hinvariant.closed, hinvariant.fits, fun range hrange _ => hinvariant.full range hrange⟩

end Measures

/-- The row ranges of a measured batch partition it, and no partition into ranges that fit has fewer. -/
theorem row_ranges_exact_and_optimal {rowCount columnCount limit : ℕ} {cellLengths : List ℕ} {m : MeasuredDirectBatch}
    (hm : MeasuredDirectBatch.new rowCount columnCount cellLengths = .ok m) (hlimit : 0 < limit) :
    ∃ ranges, m.rowRanges limit = .ok ranges ∧
      Consecutive 0 ranges m.rowCount ∧
      (ranges.flatMap fun range => List.range' range.start range.len) = List.range m.rowCount ∧
      (∀ range ∈ ranges, m.RangeFits limit range) ∧
      (∀ range ∈ ranges, m.RangeFull limit range) ∧
      (∀ other, Consecutive 0 other m.rowCount → (∀ range ∈ other, m.RangeFits limit range) →
        ranges.length ≤ other.length) ∧
      ∃ payloadLens, collect ranges (fun range => m.rangePayloadLen range.start range.len) = .ok payloadLens ∧
        payloadLens.sum = m.payloadLen := by
  obtain ⟨len, -, h⟩ := MeasuredDirectBatch.measures_of_new hm
  obtain ⟨ranges, hranges, hconsecutive, hfits, hfull⟩ := h.rowRanges_of_pos hlimit
  rw [h.rowCount]
  refine ⟨ranges, hranges, hconsecutive, ?_, ?_, ?_, ?_, ?_⟩
  · rw [hconsecutive.rows_eq, Nat.sub_zero, List.range_eq_range']
  · intro range hrange
    refine (hfits range hrange).imp (fun hle => ?_) id
    exact ⟨_, h.rangePayloadLen_eq_weight (hconsecutive.stop_le range hrange), hle⟩
  · intro range hrange hbefore
    rw [h.rowCount] at hbefore
    exact ⟨_, h.rangePayloadLen_eq_weight hbefore, hfull range hrange hbefore⟩
  · intro other hother hotherfits
    have hpieces : Pieces (Splitting.Fits (rowLength columnCount rowTokenLen len) limit) 0
        (other.map MeasuredRowRange.len) := by
      apply hother.pieces
      intro range hrange
      refine ⟨hother.positive _ (List.mem_map_of_mem hrange), ?_⟩
      refine (hotherfits range hrange).imp_left ?_
      rintro ⟨n, hn, hle⟩
      rw [h.rangePayloadLen_eq_weight (hother.stop_le range hrange)] at hn
      rwa [Except.ok.inj hn]
    have hpiecesFull : Pieces (Splitting.Full (rowLength columnCount rowTokenLen len) limit rowCount) 0
        (ranges.map MeasuredRowRange.len) := hconsecutive.pieces hfull
    have hlen := length_le_of_full hpiecesFull hconsecutive.positive
      ((Nat.zero_add _).symm.trans hconsecutive.sum_len) hpieces ((Nat.zero_add _).symm.trans hother.sum_len)
    rwa [List.length_map, List.length_map] at hlen
  · refine ⟨ranges.map fun range => weight (rowLength columnCount rowTokenLen len) range.start range.len, ?_, ?_⟩
    · rw [collect_eq_ok_iff, List.forall₂_map_right_iff, List.forall₂_same]
      intro range hrange
      exact h.rangePayloadLen_eq_weight (hconsecutive.stop_le range hrange)
    · rw [hconsecutive.weights_sum, Nat.sub_zero, h.payloadLen]
      simp only [weight, Nat.zero_add]
      rfl

theorem row_ranges_exact_and_optimal_at_long_row :
    (⟨3, 1, [3, 100, 3], [4, 101, 4], 109⟩ : MeasuredDirectBatch).rowRanges 10 = .ok [⟨0, 1⟩, ⟨1, 1⟩, ⟨2, 1⟩] ∧
      ∀ other, Consecutive 0 other 3 →
        (∀ range ∈ other, MeasuredDirectBatch.RangeFits ⟨3, 1, [3, 100, 3], [4, 101, 4], 109⟩ 10 range) →
        3 ≤ other.length := by
  obtain ⟨ranges, hranges, -, -, -, -, hoptimal, -⟩ := @row_ranges_exact_and_optimal 3 1 10 [3, 100, 3]
    ⟨3, 1, [3, 100, 3], [4, 101, 4], 109⟩ rfl (by decide)
  have hlen : ranges.length = 3 := by
    cases hranges
    rfl
  rw [hlen] at hoptimal
  exact ⟨rfl, hoptimal⟩

end ArrowTiberius.Direct
