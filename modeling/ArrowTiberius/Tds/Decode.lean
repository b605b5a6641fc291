import Mathlib.Tactic.NormNum
import ArrowTiberius.Tds.Format

namespace ArrowTiberius.Tds

open LittleEndian

def takeBytes (n : ℕ) (bytes : List UInt8) : Option (List UInt8 × List UInt8) :=
  if n ≤ bytes.length then some (bytes.take n, bytes.drop n) else none

def readNat (n : ℕ) (bytes : List UInt8) : Option (ℕ × List UInt8) := do
  let (digits, rest) ← takeBytes n bytes
  some (decode digits, rest)

def unframeValue (len : ℕ) (bytes : List UInt8) : Option (Option (List UInt8) × List UInt8) := do
  let (content, rest) ← takeBytes len bytes
  some (some content, rest)

/-- A PLP value of one chunk, after its total length: an empty chunk ends it, any other is followed by one. -/
def unframeChunk (bytes : List UInt8) : Option (Option (List UInt8) × List UInt8) := do
  let (len, rest) ← readNat 4 bytes
  if len = 0 then some (some [], rest)
  else do
    let (content, rest) ← takeBytes len rest
    let (terminator, rest) ← readNat 4 rest
    if terminator = 0 then some (some content, rest) else none

def unframe (width : ℕ) : Framing → List UInt8 → Option (Option (List UInt8) × List UInt8)
  | .plain, bytes => unframeValue width bytes
  | .bytePrefixed, bytes => do
    let (len, rest) ← readNat 1 bytes
    if len = 0 then some (none, rest) else unframeValue len rest
  | .shortPrefixed, bytes => do
    let (len, rest) ← readNat 2 bytes
    if len = 0xffff then some (none, rest) else unframeValue len rest
  | .plp, bytes => do
    let (total, rest) ← readNat 8 bytes
    if total = 0xffffffffffffffff then some (none, rest)
    else if total = 0xfffffffffffffffe then unframeChunk rest
    else none

def Readable (width : ℕ) : Framing → Option (List UInt8) → Prop
  | .plain, none => False
  | .plain, some bytes => bytes.length = width
  | .bytePrefixed, some bytes => 0 < bytes.length ∧ bytes.length < 256
  | .shortPrefixed, some bytes => bytes.length < 0xffff
  | .plp, some bytes => bytes.length < 2 ^ 32
  | _, none => True

section Unframe

variable {n x width : ℕ} {bytes rest : List UInt8}

theorem takeBytes_append (h : bytes.length = n) : takeBytes n (bytes ++ rest) = some (bytes, rest) := by
  rw [takeBytes, if_pos (by simp [h]), List.take_left' h, List.drop_left' h]

theorem readNat_encode (h : x < 256 ^ n) : readNat n (encode n x ++ rest) = some (x, rest) := by
  rw [readNat, takeBytes_append (length_encode n x), Option.bind_eq_bind, Option.bind_some]
  dsimp only
  rw [decode_encode_of_lt h]

theorem unframeValue_append (h : bytes.length = n) : unframeValue n (bytes ++ rest) = some (some bytes, rest) := by
  rw [unframeValue, takeBytes_append h, Option.bind_eq_bind, Option.bind_some]

theorem unframeChunk_append (h : bytes.length < 2 ^ 32) :
    unframeChunk (encode 4 bytes.length ++ (bytes ++ ((if bytes = [] then [] else encode 4 0) ++ rest))) =
      some (some bytes, rest) := by
  rw [unframeChunk, readNat_encode h, Option.bind_eq_bind, Option.bind_some]
  by_cases hempty : bytes = []
  · subst hempty
    rfl
  · dsimp only
    rw [if_neg (by rwa [List.length_eq_zero_iff]), if_neg hempty, takeBytes_append rfl, Option.bind_eq_bind,
      Option.bind_some]
    dsimp only
    rw [readNat_encode (by decide), Option.bind_some]
    rfl

/-- A readable content comes back out of its frame, wherever the frame ends. -/
theorem unframe_frame {framing : Framing} {content : Option (List UInt8)} (h : Readable width framing content) :
    unframe width framing (frame framing content ++ rest) = some (content, rest) := by
  cases framing with
  | plain =>
    cases content with
    | none => cases h
    | some bytes => exact unframeValue_append h
  | bytePrefixed =>
    cases content with
    | none => rfl
    | some bytes =>
      have hlen : frame .bytePrefixed (some bytes) ++ rest = encode 1 bytes.length ++ (bytes ++ rest) := rfl
      obtain ⟨hpos, hlt⟩ := h
      rw [unframe, hlen, readNat_encode (by simpa using hlt), Option.bind_eq_bind, Option.bind_some]
      dsimp only
      rw [if_neg (by omega), unframeValue_append rfl]
  | shortPrefixed =>
    cases content with
    | none => rfl
    | some bytes =>
      have hlt : bytes.length < 0xffff := h
      rw [unframe, frame, List.append_assoc, readNat_encode (by omega), Option.bind_eq_bind, Option.bind_some]
      dsimp only
      rw [if_neg (by omega), unframeValue_append rfl]
  | plp =>
    have hmarker (total : ℕ) (tail : List UInt8) (h : total < 256 ^ 8) :
        unframe width .plp (encode 8 total ++ tail) = if total = 0xffffffffffffffff then some (none, tail)
          else if total = 0xfffffffffffffffe then unframeChunk tail else none := by
      rw [unframe, readNat_encode h, Option.bind_eq_bind, Option.bind_some]
    cases content with
    | none => exact (hmarker _ rest (by norm_num)).trans (if_pos rfl)
    | some bytes =>
      rw [frame, List.append_assoc, List.append_assoc, List.append_assoc, hmarker _ _ (by norm_num),
        if_neg (by norm_num), if_pos rfl]
      exact unframeChunk_append h

end Unframe

def decodeDecimal : List UInt8 → Option ℤ
  | [] => none
  | sign :: magnitude => some (if sign = 0 then -(decode magnitude : ℤ) else decode magnitude)

theorem decimalDigits_le {magnitude n : ℕ} (hn : 0 < n) : decimalDigits magnitude ≤ n ↔ magnitude < 10 ^ n :=
  Nat.length_toDigits_le_iff (by decide) hn

end ArrowTiberius.Tds
