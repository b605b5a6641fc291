import ArrowTiberius.Lib.Outcome
import ArrowTiberius.Lib.Tiling

namespace Checked

open Tiling

variable {ε α : Type}

def setIndex (buf : List α) (i : ℕ) (a : α) : Outcome ε (List α) :=
  if i < buf.length then .ok (splice buf i [a]) else crash

def getIndex (buf : List α) (i : ℕ) : Outcome ε α := orCrash buf[i]?

def getRange (buf : List α) (lo hi : ℕ) : Outcome ε (List α) :=
  if lo ≤ hi ∧ hi ≤ buf.length then .ok ((buf.drop lo).take (hi - lo)) else crash

def modifyRange (buf : List α) (lo hi : ℕ) (f : List α → Outcome ε (List α)) : Outcome ε (List α) :=
  if lo ≤ hi ∧ hi ≤ buf.length then do
    let seg ← f ((buf.drop lo).take (hi - lo))
    pure (splice buf lo seg)
  else crash

def copyFromSlice (dst src : List α) : Outcome ε (List α) :=
  if dst.length = src.length then .ok src else crash

theorem setIndex_of_lt {buf : List α} {i : ℕ} (h : i < buf.length) (a : α) :
    (setIndex buf i a : Outcome ε (List α)) = .ok (splice buf i [a]) := if_pos h

theorem getIndex_of_getElem? {buf : List α} {i : ℕ} {a : α} (h : buf[i]? = some a) :
    (getIndex buf i : Outcome ε α) = .ok a := by
  rw [getIndex, h, orCrash_some]

theorem getRange_of_le {buf : List α} {lo hi : ℕ} (hlo : lo ≤ hi) (hhi : hi ≤ buf.length) :
    (getRange buf lo hi : Outcome ε (List α)) = .ok ((buf.drop lo).take (hi - lo)) := if_pos ⟨hlo, hhi⟩

theorem copyFromSlice_of_length {dst src : List α} (h : dst.length = src.length) :
    (copyFromSlice dst src : Outcome ε (List α)) = .ok src := if_pos h

theorem modifyRange_of_le {buf : List α} {lo hi : ℕ} {f : List α → Outcome ε (List α)} {seg : List α}
    (hlo : lo ≤ hi) (hhi : hi ≤ buf.length)
    (hf : ∀ window : List α, window.length = hi - lo → f window = .ok seg) :
    modifyRange buf lo hi f = .ok (splice buf lo seg) := by
  rw [modifyRange, if_pos ⟨hlo, hhi⟩, hf _ (by simp only [List.length_take, List.length_drop]; omega), ok_bind]
  rfl

theorem window_of_modifyRange {buf out : List α} {lo hi : ℕ} {f : List α → Outcome ε (List α)}
    (h : modifyRange buf lo hi f = .ok out) : ∃ window seg, f window = .ok seg := by
  unfold modifyRange at h
  split at h
  case isTrue =>
    obtain ⟨seg, hseg, -⟩ := bind_eq_ok.mp h
    exact ⟨_, seg, hseg⟩
  case isFalse => cases h

theorem setIndex_eq_modifyRange (buf : List α) (i : ℕ) (a : α) :
    (setIndex buf i a : Outcome ε (List α)) = modifyRange buf i (i + 1) fun dst => copyFromSlice dst [a] := by
  by_cases h : i < buf.length
  · rw [setIndex_of_lt h, modifyRange_of_le (by omega) h fun window hw => copyFromSlice_of_length (by simpa using hw)]
  · rw [setIndex, if_neg h, modifyRange, if_neg (by omega)]

theorem modifyRange_behind {buf done seg : List α} {offset lo hi : ℕ} (hlo : lo = offset + done.length)
    (hhi : hi = lo + seg.length) (hfit : offset + (done ++ seg).length ≤ buf.length) :
    (modifyRange (splice buf offset done) lo hi (fun dst => copyFromSlice dst seg) : Outcome ε (List α)) =
      .ok (splice buf offset (done ++ seg)) := by
  rw [List.length_append] at hfit
  subst hlo hhi
  have hlen : (splice buf offset done).length = buf.length := length_splice (by omega)
  rw [modifyRange_of_le (by omega) (by omega) fun window hw => copyFromSlice_of_length (by omega),
    splice_splice (by omega)]

theorem setIndex_outside {buf : List α} {i : ℕ} (h : buf.length ≤ i) (a : α) :
    (setIndex buf i a : Outcome ε (List α)) = crash := if_neg (by omega)

theorem modifyRange_outside {buf : List α} {lo hi : ℕ} (h : buf.length < hi) (f : List α → Outcome ε (List α)) :
    modifyRange buf lo hi f = crash := if_neg (by omega)

theorem modifyRange_two_outside {buf first : List α} {lo mid hi : ℕ} (hmid : mid = lo + first.length)
    (h : buf.length < hi) (f : List α → Outcome ε (List α)) :
    ((modifyRange buf lo mid fun dst => copyFromSlice dst first) >>= fun buf => modifyRange buf mid hi f) = crash := by
  by_cases hfirst : mid ≤ buf.length
  · rw [modifyRange_of_le (by omega) hfirst fun window hw => copyFromSlice_of_length (by omega), ok_bind,
      modifyRange_outside (by rw [length_splice (by omega)]; exact h)]
  · rw [modifyRange_outside (by omega), crash_bind]

theorem modifyRange_next {dst done seg : List α} {lo hi : ℕ} {f : List α → Outcome ε (List α)}
    (hlo : lo = done.length) (hhi : hi = done.length + seg.length) (hfit : done.length + seg.length ≤ dst.length)
    (hf : ∀ window : List α, window.length = seg.length → f window = .ok seg) :
    modifyRange (splice dst 0 done) lo hi f = .ok (splice dst 0 (done ++ seg)) := by
  subst hlo hhi
  have hlen : (splice dst 0 done).length = dst.length := length_splice (by omega)
  rw [modifyRange_of_le (by omega) (by omega) fun window hw => hf window (by omega)]
  have h := @splice_splice _ dst done seg 0 (by omega)
  rw [Nat.zero_add] at h
  rw [h]

end Checked
