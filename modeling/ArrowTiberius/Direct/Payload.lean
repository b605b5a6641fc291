import ArrowTiberius.Lib.MachineInt
import ArrowTiberius.Lib.Slice
import ArrowTiberius.Schema.Mapping

namespace ArrowTiberius.Direct

open Checked

def tdsRowToken : UInt8 := 0xD1

def hexDigit (n : ℕ) : Char := (Nat.digitChar n).toUpper

def hexByte (b : UInt8) : String := String.ofList [hexDigit (b.toNat / 16), hexDigit (b.toNat % 16)]

def validateRowTokenOffset (bytes : List UInt8) (previous : Option ℕ) (offset : ℕ) : Result (Option ℕ) := do
  ensure (offset < bytes.length)
    (invalidPayload s!"row token offset {offset} is outside payload length {bytes.length}")
  ensure (∀ previousOffset ∈ previous, previousOffset < offset) (invalidPayload
    s!"row token offsets must be strictly increasing: {offset} followed {previous.getD 0}")
  let byte ← getIndex bytes offset
  ensure (byte = tdsRowToken) (invalidPayload
    s!"row token offset {offset} points to byte 0x{hexByte byte}, not 0x{hexByte tdsRowToken}")
  pure (some offset)

def validateRowTokenOffsets (bytes : List UInt8) (rowTokenOffsets : List ℕ) : Result Unit := do
  let _ ← forEach rowTokenOffsets none (validateRowTokenOffset bytes)
  ensure (¬(rowTokenOffsets = [] ∧ bytes ≠ []))
    (invalidPayload "non-empty direct payload must include at least one row token offset")

def PointsToTokens (bytes : List UInt8) (rowTokenOffsets : List ℕ) : Prop :=
  (∀ offset ∈ rowTokenOffsets, bytes[offset]? = some tdsRowToken) ∧ rowTokenOffsets.Pairwise (· < ·)

theorem validateRowTokenOffset_eq_ok {bytes : List UInt8} {previous next : Option ℕ} {offset : ℕ} :
    validateRowTokenOffset bytes previous offset = .ok next ↔
      (bytes[offset]? = some tdsRowToken ∧ ∀ previousOffset ∈ previous, previousOffset < offset) ∧
        next = some offset := by
  simp only [validateRowTokenOffset, bind_eq_ok, ensure_eq_ok, getIndex, orCrash_eq_ok, pure_eq_ok, Except.ok.injEq]
  constructor
  · rintro ⟨_, -, _, hprevious, byte, hbyte, _, rfl, rfl⟩
    exact ⟨⟨hbyte, hprevious⟩, rfl⟩
  · rintro ⟨⟨hbyte, hprevious⟩, rfl⟩
    exact ⟨(), (List.getElem?_eq_some_iff.mp hbyte).1, (), hprevious, _, hbyte, (), rfl, rfl⟩

theorem forEach_validateRowTokenOffset {bytes : List UInt8} {rowTokenOffsets : List ℕ} {previous : Option ℕ} :
    (∃ last, forEach rowTokenOffsets previous (validateRowTokenOffset bytes) = .ok last) ↔
      PointsToTokens bytes rowTokenOffsets ∧
        ∀ previousOffset ∈ previous, ∀ offset ∈ rowTokenOffsets, previousOffset < offset := by
  induction rowTokenOffsets generalizing previous with
  | nil => simp [PointsToTokens]
  | cons offset rest ih =>
    simp only [forEach_cons, bind_eq_ok, validateRowTokenOffset_eq_ok, PointsToTokens, List.mem_cons,
      forall_eq_or_imp, List.pairwise_cons]
    constructor
    · rintro ⟨last, _, ⟨⟨hbyte, hprevious⟩, rfl⟩, h⟩
      obtain ⟨⟨htokens, hincreasing⟩, hnext⟩ := ih.mp ⟨last, h⟩
      have hrest := hnext offset rfl
      refine ⟨⟨⟨hbyte, htokens⟩, hrest, hincreasing⟩, fun p hp => ⟨hprevious p hp, fun o ho => ?_⟩⟩
      exact (hprevious p hp).trans (hrest o ho)
    · rintro ⟨⟨⟨hbyte, htokens⟩, hrest, hincreasing⟩, hprevious⟩
      obtain ⟨last, hlast⟩ := ih.mpr ⟨⟨htokens, hincreasing⟩, fun p hp => by
        rw [← Option.mem_some.mp hp]
        exact hrest⟩
      exact ⟨last, some offset, ⟨⟨hbyte, fun p hp => (hprevious p hp).1⟩, rfl⟩, hlast⟩

theorem validateRowTokenOffsets_eq_ok {bytes : List UInt8} {rowTokenOffsets : List ℕ} {u : Unit} :
    validateRowTokenOffsets bytes rowTokenOffsets = .ok u ↔
      PointsToTokens bytes rowTokenOffsets ∧ (rowTokenOffsets = [] → bytes = []) := by
  simp only [validateRowTokenOffsets, bind_eq_ok, ensure_eq_ok, exists_and_right, forEach_validateRowTokenOffset]
  simp

/-- Encoded rows. Every row-token offset points to a row token. -/
@[ext] structure EncodedRowsPayload where
  bytes : List UInt8
  rowTokenOffsets : List ℕ
  tokens : PointsToTokens bytes rowTokenOffsets

namespace EncodedRowsPayload

def new (bytes : List UInt8) (rowTokenOffsets : List ℕ) : Result EncodedRowsPayload :=
  match h : validateRowTokenOffsets bytes rowTokenOffsets with
  | .ok _ => .ok ⟨bytes, rowTokenOffsets, (validateRowTokenOffsets_eq_ok.mp h).1⟩
  | .error e => .error e

theorem new_eq_ok {bytes : List UInt8} {rowTokenOffsets : List ℕ} {payload : EncodedRowsPayload} :
    new bytes rowTokenOffsets = .ok payload ↔ (PointsToTokens bytes rowTokenOffsets ∧
      (rowTokenOffsets = [] → bytes = [])) ∧ payload.bytes = bytes ∧ payload.rowTokenOffsets = rowTokenOffsets := by
  rw [← @validateRowTokenOffsets_eq_ok _ _ ()]
  unfold new
  split
  case h_1 u h =>
    simp [EncodedRowsPayload.ext_iff, h, eq_comm]
  case h_2 e h =>
    simp [h]

theorem exists_new {bytes : List UInt8} {rowTokenOffsets : List ℕ} (h : PointsToTokens bytes rowTokenOffsets)
    (hempty : rowTokenOffsets = [] → bytes = []) : ∃ payload, new bytes rowTokenOffsets = .ok payload :=
  ⟨⟨bytes, rowTokenOffsets, h⟩, new_eq_ok.mpr ⟨⟨h, hempty⟩, rfl, rfl⟩⟩

theorem new_safe (bytes : List UInt8) (rowTokenOffsets : List ℕ) : Safe (new bytes rowTokenOffsets) := by
  have hvalidate : Safe (validateRowTokenOffsets bytes rowTokenOffsets) := by
    unfold validateRowTokenOffsets
    refine safe_bind ?_ fun _ _ => safe_ensure _ _
    rw [← forEach_zipIdx_fst]
    refine (forEach_zipIdx_safe (fun _ _ => True) 0 (fun i offset _ previous _ => ⟨?_, fun _ _ => trivial⟩) trivial).1
    refine safe_bind (safe_ensure _ _) fun _ hinside => safe_bind (safe_ensure _ _) fun _ _ => ?_
    have hat := List.getElem?_eq_getElem (ensure_eq_ok.mp hinside)
    rw [getIndex_of_getElem? hat, ok_bind]
    exact safe_bind (safe_ensure _ _) fun _ _ => safe_ok _
  unfold new
  split
  case h_1 => exact safe_ok _
  case h_2 e h =>
    intro hcrash
    rw [crash, Except.error.injEq] at hcrash
    rw [hcrash] at h
    exact hvalidate h

end EncodedRowsPayload

end ArrowTiberius.Direct
