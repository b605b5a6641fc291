import ArrowTiberius.Direct.BatchLaw
import ArrowTiberius.Direct.Encoder

namespace ArrowTiberius.Direct

open Checked Tiling

/-- A payload of rows laid end to end, each a token and its cells. -/
structure HoldsRows (rows columns : ℕ) (cell : ℕ → ℕ → List UInt8) (payload : EncodedRowsPayload) : Prop where
  bytes : payload.bytes = grid rows columns [tdsRowToken] cell
  tokens : payload.rowTokenOffsets =
    (List.range rows).map (rowStart columns rowTokenLen fun r c => (cell r c).length)

section Rows

variable {rows columns : ℕ} {cell : ℕ → ℕ → List UInt8} {len : ℕ → ℕ → ℕ} {payload : EncodedRowsPayload}

theorem rowStarts_increase (columns : ℕ) (len : ℕ → ℕ → ℕ) (rows : ℕ) :
    ((List.range rows).map (rowStart columns rowTokenLen len)).Pairwise (· < ·) := by
  rw [List.pairwise_map]
  apply List.Pairwise.imp _ List.pairwise_lt_range
  intro a b hab
  have hnext : rowStart columns rowTokenLen len (a + 1) ≤ rowStart columns rowTokenLen len b := rowStart_mono hab
  have hrow : rowTokenLen ≤ rowLength columns rowTokenLen len a := Nat.le_add_right _ _
  rw [rowStart_succ] at hnext
  unfold rowTokenLen at *
  omega

theorem pointsToTokens_grid (hlen : ∀ r < rows, ∀ c < columns, (cell r c).length = len r c) :
    PointsToTokens (grid rows columns [tdsRowToken] cell)
      ((List.range rows).map (rowStart columns rowTokenLen len)) := by
  refine ⟨?_, rowStarts_increase columns len rows⟩
  intro offset hoffset
  obtain ⟨r, hr, rfl⟩ := List.mem_map.mp hoffset
  exact @getElem?_grid_head _ _ _ [tdsRowToken] cell len r 0 (by simpa using hr) (by simp) hlen

theorem new_grid (hlen : ∀ r < rows, ∀ c < columns, (cell r c).length = len r c) :
    EncodedRowsPayload.new (grid rows columns [tdsRowToken] cell)
      ((List.range rows).map (rowStart columns rowTokenLen len)) = .ok payload ↔
        HoldsRows rows columns cell payload := by
  have htokens : (List.range rows).map (rowStart columns rowTokenLen len) =
      (List.range rows).map (rowStart columns rowTokenLen fun r c => (cell r c).length) := by
    apply List.map_congr_left
    intro r hr
    apply rowStart_congr
    intro i hi c hc
    exact (hlen i (hi.trans (List.mem_range.mp hr)) c hc).symm
  rw [EncodedRowsPayload.new_eq_ok]
  constructor
  · rintro ⟨-, hbytes, hoffsets⟩
    exact ⟨hbytes, hoffsets.trans htokens⟩
  · rintro ⟨hbytes, hoffsets⟩
    refine ⟨⟨pointsToTokens_grid hlen, ?_⟩, hbytes, hoffsets.trans htokens.symm⟩
    intro hempty
    rw [List.map_eq_nil_iff, List.range_eq_nil] at hempty
    rw [hempty]
    rfl

theorem exists_holdsRows (rows columns : ℕ) (cell : ℕ → ℕ → List UInt8) :
    ∃ payload, HoldsRows rows columns cell payload :=
  ⟨⟨_, _, pointsToTokens_grid fun _ _ _ _ => rfl⟩, rfl, rfl⟩

theorem HoldsRows.congr {cell' : ℕ → ℕ → List UInt8} (h : HoldsRows rows columns cell payload)
    (hcell : ∀ r < rows, ∀ c < columns, cell r c = cell' r c) : HoldsRows rows columns cell' payload where
  bytes := h.bytes.trans (grid_congr hcell)
  tokens := by
    rw [h.tokens]
    apply List.map_congr_left
    intro r hr
    apply rowStart_congr
    intro i hi c hc
    rw [hcell i (hi.trans (List.mem_range.mp hr)) c hc]

theorem new_empty {payload : EncodedRowsPayload} :
    EncodedRowsPayload.new [] [] = .ok payload ↔ HoldsRows 0 columns cell payload :=
  @new_grid 0 columns cell (fun r c => (cell r c).length) payload fun _ _ _ _ => rfl

end Rows

variable [Externals]

namespace BoundDirectBatch

def Writes (bound : BoundDirectBatch) (payload : EncodedRowsPayload) : Prop :=
  HoldsRows bound.rowCount bound.columns.length bound.bytes payload

def Fits (bound : BoundDirectBatch) : Prop :=
  rowStart bound.columns.length rowTokenLen bound.cellLength bound.rowCount < 2 ^ 64 ∧
    bound.rowCount * bound.columns.length < 2 ^ 64

variable {bound : BoundDirectBatch} {layout : RowLayout} {payload : EncodedRowsPayload}

theorem Lawful.encodeWithLayout_eq_ok (h : bound.Lawful) (haccepts : bound.Accepts) (hfits : bound.Fits)
    (hlays : LaysOut bound.rowCount bound.columns.length bound.cellLength layout) :
    bound.encodeWithLayout layout = .ok payload ↔ bound.Writes payload := by
  rw [encodeWithLayout, allocateRowsPayloadWithTokens_of hlays, ok_bind,
    h.fillColumns_grid haccepts hlays hfits.2 (by rw [hlays.total]; exact hfits.1) fun r _ c _ => List.length_replicate,
    ok_bind, hlays.tokens]
  exact new_grid fun r _ c _ => rfl

theorem Lawful.encodeRows_eq_ok (h : bound.Lawful) :
    bound.encodeRows = .ok payload ↔ bound.Accepts ∧ bound.Fits ∧ bound.Writes payload := by
  rw [encodeRows, bind_eq_ok]
  constructor
  · rintro ⟨layout, hlayout, hwritten⟩
    obtain ⟨haccepts, hfits, hcells, hlays⟩ := h.measureLayout_eq_ok.mp hlayout
    exact ⟨haccepts, ⟨hfits, hcells⟩, (h.encodeWithLayout_eq_ok haccepts ⟨hfits, hcells⟩ hlays).mp hwritten⟩
  · rintro ⟨haccepts, hfits, hwritten⟩
    obtain ⟨layout, hlays⟩ := exists_laysOut bound.rowCount bound.columns.length bound.cellLength
    refine ⟨layout, h.measureLayout_eq_ok.mpr ⟨haccepts, hfits.1, hfits.2, hlays⟩, ?_⟩
    exact (h.encodeWithLayout_eq_ok haccepts hfits hlays).mpr hwritten

end BoundDirectBatch

end ArrowTiberius.Direct
