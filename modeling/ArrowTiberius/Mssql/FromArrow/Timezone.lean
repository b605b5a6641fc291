import ArrowTiberius.Lib.Ascii
import ArrowTiberius.Lib.Slice
import ArrowTiberius.Schema.Mapping

namespace ArrowTiberius

open Checked

def sqlServerDatetimeoffsetMaxOffsetMinutes : ℤ := 14 * 60

def timezoneInstantError (mapping : SchemaMapping) (rowIndex : ℕ) (secondsFromUnixEpoch : ℤ) : Error :=
  rowError mapping rowIndex .timestampOutOfRange
    s!"Arrow timestamp second value {secondsFromUnixEpoch} cannot be represented in the planned timezone"

def unsupportedTimezoneOffsetError (mapping : SchemaMapping) (rowIndex : ℕ) (offsetSeconds : ℤ) : Error :=
  rowError mapping rowIndex .timezoneUnsupported s!"resolved timezone offset {
    offsetSeconds} second(s) cannot be represented as a SQL Server datetimeoffset minute offset"

def sqlServerOffsetMinutes (mapping : SchemaMapping) (rowIndex : ℕ) (offsetSeconds : ℤ) : Result ℤ := do
  ensure (offsetSeconds.tmod 60 = 0) (unsupportedTimezoneOffsetError mapping rowIndex offsetSeconds)
  let offsetMinutes ← okOr (checkedSigned 16 (offsetSeconds.tdiv 60))
    (unsupportedTimezoneOffsetError mapping rowIndex offsetSeconds)
  ensure (¬(offsetMinutes.natAbs : ℤ) > sqlServerDatetimeoffsetMaxOffsetMinutes)
    (unsupportedTimezoneOffsetError mapping rowIndex offsetSeconds)
  pure offsetMinutes

def fixedOffsetDigits (timezoneBytes : List UInt8) (unsupported : Error) : Result (List UInt8) :=
  match timezoneBytes.length with
  | 3 => do
    let h ← getIndex timezoneBytes 1
    let h' ← getIndex timezoneBytes 2
    pure [h, h', 48, 48]
  | 5 => do
    let h ← getIndex timezoneBytes 1
    let h' ← getIndex timezoneBytes 2
    let m ← getIndex timezoneBytes 3
    let m' ← getIndex timezoneBytes 4
    pure [h, h', m, m']
  | 6 => do
    let colon ← getIndex timezoneBytes 3
    ensure (colon = 58) unsupported
    let h ← getIndex timezoneBytes 1
    let h' ← getIndex timezoneBytes 2
    let m ← getIndex timezoneBytes 4
    let m' ← getIndex timezoneBytes 5
    pure [h, h', m, m']
  | _ => fail unsupported

def isAsciiDigit (byte : UInt8) : Bool := 48 ≤ byte && byte ≤ 57

def digitPair (digits : List UInt8) (i : ℕ) : Result ℤ := do
  let tens ← getIndex digits i
  let tens ← unsignedOp 8 (tens.toNat - 48)
  let tens ← unsignedOp 8 (tens * 10)
  let ones ← getIndex digits (i + 1)
  let ones ← unsignedOp 8 (ones.toNat - 48)
  let value ← unsignedOp 8 (tens + ones)
  pure value

def fixedOffsetMinutes (timezoneBytes : List UInt8) (unsupported : Error) : Result ℤ := do
  let digits ← fixedOffsetDigits timezoneBytes unsupported
  ensure (¬digits.any fun digit => !isAsciiDigit digit) unsupported
  let hours ← digitPair digits 0
  let minutes ← digitPair digits 2
  ensure (¬minutes ≥ 60) unsupported
  let totalMinutes ← okOr ((checkedSigned 16 (hours * 60)).bind fun value => checkedSigned 16 (value + minutes))
    unsupported
  ensure (¬totalMinutes > sqlServerDatetimeoffsetMaxOffsetMinutes) unsupported
  let sign ← getIndex timezoneBytes 0
  if sign = 45 then signedOp 16 (-totalMinutes) else pure totalMinutes

/-- The texts of an offset: a sign, two digits of hours, and two of minutes unless they are left out. -/
inductive OffsetShape : List UInt8 → List UInt8 → Prop where
  | hours (sign h h' : UInt8) : OffsetShape [sign, h, h'] [h, h', 48, 48]
  | minutes (sign h h' m m' : UInt8) : OffsetShape [sign, h, h', m, m'] [h, h', m, m']
  | colon (sign h h' m m' : UInt8) : OffsetShape [sign, h, h', 58, m, m'] [h, h', m, m']

section Parse

variable {timezoneBytes digits : List UInt8} {unsupported : Error} {h h' m m' : UInt8} {minutes : ℤ}

theorem fixedOffsetDigits_eq (timezoneBytes : List UInt8) (unsupported : Error) :
    (∃ digits, OffsetShape timezoneBytes digits ∧ fixedOffsetDigits timezoneBytes unsupported = .ok digits) ∨
      (∀ digits, ¬OffsetShape timezoneBytes digits) ∧ fixedOffsetDigits timezoneBytes unsupported = fail unsupported := by
  rcases timezoneBytes with _ | ⟨sign, _ | ⟨h, _ | ⟨h', _ | ⟨b, _ | ⟨m, _ | ⟨m', _ | ⟨_, _⟩⟩⟩⟩⟩⟩⟩
  case cons.cons.cons.nil => exact .inl ⟨_, .hours sign h h', rfl⟩
  case cons.cons.cons.cons.cons.nil => exact .inl ⟨_, .minutes sign h h' b m, rfl⟩
  case cons.cons.cons.cons.cons.cons.nil =>
    by_cases hcolon : b = 58
    · subst hcolon
      exact .inl ⟨_, .colon sign h h' m m', rfl⟩
    · refine .inr ⟨?_, ?_⟩
      · intro digits hshape
        cases hshape
        exact hcolon rfl
      · have hrefused : ensure (b = 58) unsupported = fail unsupported := if_neg hcolon
        simp only [fixedOffsetDigits, List.length_cons, List.length_nil, getIndex, List.getElem?_cons_succ,
          List.getElem?_cons_zero, orCrash_some, ok_bind, hrefused, fail_bind]
  all_goals
    refine .inr ⟨?_, rfl⟩
    intro digits hshape
    cases hshape

def pairValue (tens ones : UInt8) : ℤ := (tens.toNat - 48) * 10 + (ones.toNat - 48)

theorem isAsciiDigit_iff {byte : UInt8} : isAsciiDigit byte = true ↔ 48 ≤ byte.toNat ∧ byte.toNat ≤ 57 := by
  simp only [isAsciiDigit, Bool.and_eq_true, decide_eq_true_eq, UInt8.le_iff_toNat_le]
  rfl

theorem digitPair_of {i : ℕ} {tens ones : UInt8} (htens : digits[i]? = some tens) (hones : digits[i + 1]? = some ones)
    (hdigit : isAsciiDigit tens = true) (hdigit' : isAsciiDigit ones = true) :
    digitPair digits i = .ok (pairValue tens ones) := by
  obtain ⟨hlo, hhi⟩ := isAsciiDigit_iff.mp hdigit
  obtain ⟨hlo', hhi'⟩ := isAsciiDigit_iff.mp hdigit'
  rw [digitPair, getIndex_of_getElem? htens, ok_bind, unsignedOp_of_fits (fitsUnsigned_8.mpr (by omega)), ok_bind,
    unsignedOp_of_fits (fitsUnsigned_8.mpr (by omega)), ok_bind, getIndex_of_getElem? hones, ok_bind,
    unsignedOp_of_fits (fitsUnsigned_8.mpr (by omega)), ok_bind, unsignedOp_of_fits (fitsUnsigned_8.mpr (by omega)),
    ok_bind, pure_eq_ok, pairValue]
  congr 1
  omega

def WritesOffset (timezoneBytes : List UInt8) (minutes : ℤ) : Prop :=
  ∃ h h' m m', OffsetShape timezoneBytes [h, h', m, m'] ∧ (∀ digit ∈ [h, h', m, m'], isAsciiDigit digit = true) ∧
    pairValue m m' < 60 ∧ pairValue h h' * 60 + pairValue m m' ≤ 840 ∧
    minutes = if timezoneBytes.head? = some 45 then -(pairValue h h' * 60 + pairValue m m')
      else pairValue h h' * 60 + pairValue m m'

theorem OffsetShape.four (hshape : OffsetShape timezoneBytes digits) : ∃ h h' m m', digits = [h, h', m, m'] := by
  cases hshape <;> exact ⟨_, _, _, _, rfl⟩

theorem OffsetShape.unique (hshape : OffsetShape timezoneBytes [h, h', m, m'])
    (hdigits : OffsetShape timezoneBytes digits) : digits = [h, h', m, m'] := by
  cases hshape <;> cases hdigits <;> rfl

theorem OffsetShape.head (hshape : OffsetShape timezoneBytes digits) : ∃ sign, timezoneBytes[0]? = some sign := by
  cases hshape <;> exact ⟨_, rfl⟩

theorem fixedOffsetMinutes_of_digits (hshape : OffsetShape timezoneBytes [h, h', m, m'])
    (hdigits : fixedOffsetDigits timezoneBytes unsupported = .ok [h, h', m, m'])
    (hall : ∀ digit ∈ [h, h', m, m'], isAsciiDigit digit = true) :
    fixedOffsetMinutes timezoneBytes unsupported =
      if pairValue m m' < 60 ∧ pairValue h h' * 60 + pairValue m m' ≤ 840 then
        .ok (if timezoneBytes.head? = some 45 then -(pairValue h h' * 60 + pairValue m m')
          else pairValue h h' * 60 + pairValue m m')
      else fail unsupported := by
  have hmax : sqlServerDatetimeoffsetMaxOffsetMinutes = 840 := rfl
  have hcheck : ¬([h, h', m, m'].any fun digit => !isAsciiDigit digit) = true := by
    rw [Bool.not_eq_true, List.any_eq_false]
    intro digit hdigit
    rw [hall digit hdigit]
    decide
  have hhours : digitPair [h, h', m, m'] 0 = .ok (pairValue h h') :=
    digitPair_of rfl rfl (hall h (by simp)) (hall h' (by simp))
  have hminutes : digitPair [h, h', m, m'] 2 = .ok (pairValue m m') :=
    digitPair_of rfl rfl (hall m (by simp)) (hall m' (by simp))
  have hrange {a b : UInt8} (ha : isAsciiDigit a = true) (hb : isAsciiDigit b = true) :
      0 ≤ pairValue a b ∧ pairValue a b ≤ 99 := by
    have := isAsciiDigit_iff.mp ha
    have := isAsciiDigit_iff.mp hb
    unfold pairValue
    omega
  have hhoursRange := hrange (hall h (by simp)) (hall h' (by simp))
  have hminutesRange := hrange (hall m (by simp)) (hall m' (by simp))
  obtain ⟨sign, hsign⟩ := hshape.head
  have hhead : timezoneBytes.head? = some sign := by rw [List.head?_eq_getElem?, hsign]
  rw [fixedOffsetMinutes, hdigits, ok_bind, ensure_of hcheck, ok_bind, hhours, ok_bind, hminutes, ok_bind, hmax]
  generalize pairValue h h' = hours at *
  generalize pairValue m m' = minutes at *
  have hproduct : fitsSigned 16 (hours * 60) := fitsSigned_16.mpr (by omega)
  have htotal : fitsSigned 16 (hours * 60 + minutes) := fitsSigned_16.mpr (by omega)
  have hnegated : fitsSigned 16 (-(hours * 60 + minutes)) := fitsSigned_16.mpr (by omega)
  by_cases hlt : minutes < 60
  · rw [ensure_of (show ¬minutes ≥ 60 by omega), ok_bind, checkedSigned_of_fits hproduct, Option.bind_some,
      checkedSigned_of_fits htotal, okOr_some, ok_bind]
    by_cases hle : hours * 60 + minutes ≤ 840
    · have hboth : minutes < 60 ∧ hours * 60 + minutes ≤ 840 := ⟨hlt, hle⟩
      rw [ensure_of (show ¬hours * 60 + minutes > 840 by omega), ok_bind, getIndex_of_getElem? hsign, ok_bind,
        if_pos hboth, hhead]
      by_cases hminus : sign = 45
      · rw [if_pos hminus, if_pos (congrArg some hminus), signedOp_of_fits hnegated]
      · rw [if_neg hminus, if_neg (fun heq => hminus (Option.some.inj heq)), pure_eq_ok]
    · rw [ensure, if_neg (show ¬¬hours * 60 + minutes > 840 by omega), fail_bind, if_neg (fun hboth => hle hboth.2)]
  · rw [ensure, if_neg (show ¬¬minutes ≥ 60 by omega), fail_bind, if_neg (fun hboth => hlt hboth.1)]

theorem fixedOffsetMinutes_eq (timezoneBytes : List UInt8) (unsupported : Error) :
    (∃ minutes, WritesOffset timezoneBytes minutes ∧ fixedOffsetMinutes timezoneBytes unsupported = .ok minutes) ∨
      (∀ minutes, ¬WritesOffset timezoneBytes minutes) ∧
        fixedOffsetMinutes timezoneBytes unsupported = fail unsupported := by
  rcases fixedOffsetDigits_eq timezoneBytes unsupported with ⟨digits, hshape, hdigits⟩ | ⟨hnone, hfail⟩
  · obtain ⟨h, h', m, m', rfl⟩ := hshape.four
    by_cases hall : ∀ digit ∈ [h, h', m, m'], isAsciiDigit digit = true
    · rw [fixedOffsetMinutes_of_digits hshape hdigits hall]
      by_cases hrange : pairValue m m' < 60 ∧ pairValue h h' * 60 + pairValue m m' ≤ 840
      · exact .inl ⟨_, ⟨h, h', m, m', hshape, hall, hrange.1, hrange.2, rfl⟩, if_pos hrange⟩
      · refine .inr ⟨?_, if_neg hrange⟩
        rintro minutes ⟨_, _, _, _, hshape', -, hlt, hle, -⟩
        cases hshape'.unique hshape
        exact hrange ⟨hlt, hle⟩
    · refine .inr ⟨?_, ?_⟩
      · rintro minutes ⟨_, _, _, _, hshape', hall', -⟩
        cases hshape'.unique hshape
        exact hall hall'
      · have hrefused : ([h, h', m, m'].any fun digit => !isAsciiDigit digit) = true := by
          rw [List.any_eq_true]
          push Not at hall
          obtain ⟨digit, hdigit, hnot⟩ := hall
          refine ⟨digit, hdigit, ?_⟩
          rw [Bool.eq_false_iff.mpr hnot]
          rfl
        rw [fixedOffsetMinutes, hdigits, ok_bind, ensure, if_neg (not_not.mpr hrefused), fail_bind]
  · refine .inr ⟨?_, ?_⟩
    · rintro minutes ⟨_, _, _, _, hshape, -⟩
      exact hnone _ hshape
    · rw [fixedOffsetMinutes, hfail, fail_bind]

theorem WritesOffset.unique {minutes' : ℤ} (hwrites : WritesOffset timezoneBytes minutes)
    (hwrites' : WritesOffset timezoneBytes minutes') : minutes = minutes' := by
  obtain ⟨_, _, _, _, hshape, -, -, -, rfl⟩ := hwrites
  obtain ⟨_, _, _, _, hshape', -, -, -, rfl⟩ := hwrites'
  cases hshape.unique hshape'
  rfl

theorem fixedOffsetMinutes_eq_ok :
    fixedOffsetMinutes timezoneBytes unsupported = .ok minutes ↔ WritesOffset timezoneBytes minutes := by
  rcases fixedOffsetMinutes_eq timezoneBytes unsupported with ⟨total, hwrites, hok⟩ | ⟨hnone, hfail⟩
  · rw [hok, Except.ok.injEq]
    constructor
    · rintro rfl
      exact hwrites
    · exact hwrites.unique
  · rw [hfail]
    exact iff_of_false (by simp) (hnone minutes)

theorem natAbs_of_fixedOffsetMinutes (hok : fixedOffsetMinutes timezoneBytes unsupported = .ok minutes) :
    minutes.natAbs ≤ 840 := by
  obtain ⟨h, h', m, m', -, hall, -, hle, rfl⟩ := fixedOffsetMinutes_eq_ok.mp hok
  have hnonneg (a b : UInt8) (ha : isAsciiDigit a = true) (hb : isAsciiDigit b = true) : 0 ≤ pairValue a b := by
    have := isAsciiDigit_iff.mp ha
    have := isAsciiDigit_iff.mp hb
    unfold pairValue
    omega
  have hhours := hnonneg h h' (hall h (by simp)) (hall h' (by simp))
  have hminutes := hnonneg m m' (hall m (by simp)) (hall m' (by simp))
  split <;> omega

end Parse

def eqIgnoreAsciiCase (a b : String) : Bool := a.toLower = b.toLower

variable [Externals]

inductive TimezoneResolution where
  | fixedOffset (offsetMinutes : ℤ)
  | named (timezone : Externals.Tz)

def unsupportedTimezoneError (mapping : SchemaMapping) (rowIndex : ℕ) (timezone : String) : Error :=
  rowError mapping rowIndex .timezoneUnsupported
    s!"Arrow timestamp timezone {Externals.debug timezone} is not a valid Arrow timezone name or fixed offset"

def parseSqlServerFixedTimezoneOffset (mapping : SchemaMapping) (rowIndex : ℕ) (timezone : String) :
    Option (Result ℤ) :=
  if (Ascii.bytes timezone).head? = some 43 ∨ (Ascii.bytes timezone).head? = some 45 then
    some (fixedOffsetMinutes (Ascii.bytes timezone) (unsupportedTimezoneError mapping rowIndex timezone))
  else none

def timezoneResolutionFromMetadata (mapping : SchemaMapping) (rowIndex : ℕ) (timezone : String) :
    Result TimezoneResolution :=
  if eqIgnoreAsciiCase timezone "Z" ∨ eqIgnoreAsciiCase timezone "UTC" then .ok (.fixedOffset 0)
  else
    match parseSqlServerFixedTimezoneOffset mapping rowIndex timezone with
    | some offset => TimezoneResolution.fixedOffset <$> offset
    | none => do
      let timezone ← okOr (Externals.parseTz timezone) (unsupportedTimezoneError mapping rowIndex timezone)
      pure (.named timezone)

def TimezoneResolution.offsetForInstant (resolution : TimezoneResolution) (mapping : SchemaMapping) (rowIndex : ℕ)
    (secondsFromUnixEpoch : ℤ) (nanoseconds : ℕ) : Result ℤ :=
  match resolution with
  | .fixedOffset offsetMinutes => .ok offsetMinutes
  | .named timezone => do
    let offsetSeconds ← okOr (Externals.localMinusUtc timezone secondsFromUnixEpoch nanoseconds)
      (timezoneInstantError mapping rowIndex secondsFromUnixEpoch)
    sqlServerOffsetMinutes mapping rowIndex offsetSeconds

theorem natAbs_of_offsetForInstant {mapping : SchemaMapping} {rowIndex : ℕ} {timezone : String}
    {resolution : TimezoneResolution} {seconds minutes : ℤ} {nanoseconds : ℕ}
    (hresolution : timezoneResolutionFromMetadata mapping rowIndex timezone = .ok resolution)
    (h : resolution.offsetForInstant mapping rowIndex seconds nanoseconds = .ok minutes) : minutes.natAbs ≤ 840 := by
  cases resolution with
  | fixedOffset offset =>
    cases h
    unfold timezoneResolutionFromMetadata at hresolution
    split at hresolution
    case isTrue =>
      cases hresolution
      decide
    case isFalse =>
      split at hresolution
      case h_1 parsed hparsed =>
        obtain ⟨offset', hoffset, heq⟩ := map_eq_ok.mp hresolution
        cases heq
        unfold parseSqlServerFixedTimezoneOffset at hparsed
        split at hparsed
        case isFalse => cases hparsed
        case isTrue =>
          cases hparsed
          exact natAbs_of_fixedOffsetMinutes hoffset
      case h_2 =>
        simp only [bind_eq_ok, pure_eq_ok, Except.ok.injEq] at hresolution
        obtain ⟨_, -, heq⟩ := hresolution
        cases heq
  | named timezone =>
    simp only [TimezoneResolution.offsetForInstant, sqlServerOffsetMinutes, bind_eq_ok, okOr_eq_ok, ensure_eq_ok,
      pure_eq_ok, Except.ok.injEq, checkedSigned_eq_some] at h
    obtain ⟨_, -, _, -, _, ⟨-, rfl⟩, _, hmax, rfl⟩ := h
    unfold sqlServerDatetimeoffsetMaxOffsetMinutes at hmax
    omega

end ArrowTiberius
