import ArrowTiberius.Mssql.FromArrow.TemporalFailures

namespace ArrowTiberius

open Checked

inductive OffsetSign : Char → ℤ → Prop where
  | plus : OffsetSign '+' 1
  | minus : OffsetSign '-' (-1)

def DigitPair (tens ones : Char) (value : ℤ) : Prop :=
  tens.isDigit ∧ ones.isDigit ∧ value = ((tens.toNat : ℤ) - 48) * 10 + ((ones.toNat : ℤ) - 48)

/-- The texts of a fixed offset: `+hh`, `+hhmm`, `+hh:mm` and the same with a minus. -/
inductive OffsetText : List Char → ℤ → Prop where
  | hours {sign h h' : Char} {factor hours : ℤ} (hsign : OffsetSign sign factor) (hhours : DigitPair h h' hours)
      (hle : hours * 60 ≤ 840) : OffsetText [sign, h, h'] (factor * (hours * 60))
  | minutes {sign h h' m m' : Char} {factor hours minutes : ℤ} (hsign : OffsetSign sign factor)
      (hhours : DigitPair h h' hours) (hminutes : DigitPair m m' minutes) (hlt : minutes < 60)
      (hle : hours * 60 + minutes ≤ 840) : OffsetText [sign, h, h', m, m'] (factor * (hours * 60 + minutes))
  | colon {sign h h' m m' : Char} {factor hours minutes : ℤ} (hsign : OffsetSign sign factor)
      (hhours : DigitPair h h' hours) (hminutes : DigitPair m m' minutes) (hlt : minutes < 60)
      (hle : hours * 60 + minutes ≤ 840) : OffsetText [sign, h, h', ':', m, m'] (factor * (hours * 60 + minutes))

inductive UtcText : List Char → Prop where
  | zulu {z : Char} (hz : z = 'Z' ∨ z = 'z') : UtcText [z]
  | utc {u t c : Char} (hu : u = 'U' ∨ u = 'u') (ht : t = 'T' ∨ t = 't') (hc : c = 'C' ∨ c = 'c') : UtcText [u, t, c]

theorem toNat_char {byte : UInt8} (h : byte < 128) : (Ascii.char byte).toNat = byte.toNat := by
  have hlt : byte.toNat < 128 := h
  have hvalid : byte.toNat.isValidChar := Or.inl (by omega)
  rw [Ascii.char, Char.ofNat, dif_pos hvalid]
  rfl

theorem isDigit_iff {c : Char} : c.isDigit = true ↔ 48 ≤ c.toNat ∧ c.toNat ≤ 57 := by
  simp only [Char.isDigit, Bool.and_eq_true, decide_eq_true_eq, ge_iff_le, UInt32.le_iff_toNat_le]
  rfl

theorem isAsciiDigit_lt {byte : UInt8} (h : isAsciiDigit byte = true) : byte < 128 := by
  have hrange := isAsciiDigit_iff.mp h
  have hlt : byte.toNat < (128 : UInt8).toNat := by
    change byte.toNat < 128
    omega
  exact hlt

theorem exists_of_isDigit {c : Char} (h : c.isDigit = true) :
    ∃ byte : UInt8, isAsciiDigit byte = true ∧ c = Ascii.char byte := by
  obtain ⟨hlo, hhi⟩ := isDigit_iff.mp h
  have hbyte : (UInt8.ofNat c.toNat).toNat = c.toNat := by
    rw [UInt8.toNat_ofNat', Nat.mod_eq_of_lt (by omega)]
  refine ⟨UInt8.ofNat c.toNat, isAsciiDigit_iff.mpr (by omega), ?_⟩
  rw [Ascii.char, hbyte, Char.ofNat_toNat]

theorem isDigit_char {byte : UInt8} (h : isAsciiDigit byte = true) : (Ascii.char byte).isDigit = true := by
  rw [isDigit_iff, toNat_char (isAsciiDigit_lt h)]
  exact isAsciiDigit_iff.mp h

theorem digitPair_char {tens ones : UInt8} (htens : isAsciiDigit tens = true) (hones : isAsciiDigit ones = true) :
    DigitPair (Ascii.char tens) (Ascii.char ones) (pairValue tens ones) := by
  refine ⟨isDigit_char htens, isDigit_char hones, ?_⟩
  rw [toNat_char (isAsciiDigit_lt htens), toNat_char (isAsciiDigit_lt hones), pairValue]

theorem digitPair_exists {h h' : Char} {value : ℤ} (hpair : DigitPair h h' value) : ∃ tens ones : UInt8,
    isAsciiDigit tens = true ∧ isAsciiDigit ones = true ∧ h = Ascii.char tens ∧ h' = Ascii.char ones ∧
      value = pairValue tens ones := by
  obtain ⟨hdigit, hdigit', rfl⟩ := hpair
  obtain ⟨tens, htens, rfl⟩ := exists_of_isDigit hdigit
  obtain ⟨ones, hones, rfl⟩ := exists_of_isDigit hdigit'
  refine ⟨tens, ones, htens, hones, rfl, rfl, ?_⟩
  rw [toNat_char (isAsciiDigit_lt htens), toNat_char (isAsciiDigit_lt hones), pairValue]

def signFactor (sign : UInt8) : ℤ := if sign = 45 then -1 else 1

theorem offsetSign_char {sign : UInt8} (h : sign = 43 ∨ sign = 45) :
    sign < 128 ∧ OffsetSign (Ascii.char sign) (signFactor sign) := by
  rcases h with rfl | rfl
  · exact ⟨by decide, .plus⟩
  · exact ⟨by decide, .minus⟩

theorem offsetSign_exists {c : Char} {factor : ℤ} (h : OffsetSign c factor) :
    ∃ sign : UInt8, (sign = 43 ∨ sign = 45) ∧ c = Ascii.char sign ∧ factor = signFactor sign := by
  cases h with
  | plus => exact ⟨43, .inl rfl, rfl, rfl⟩
  | minus => exact ⟨45, .inr rfl, rfl, rfl⟩

theorem signed_eq {sign : UInt8} {total : ℤ} {rest : List UInt8} :
    (if (sign :: rest).head? = some 45 then -total else total) = signFactor sign * total := by
  rw [List.head?_cons, signFactor]
  by_cases h : sign = 45
  · rw [if_pos (congrArg some h), if_pos h, neg_one_mul]
  · rw [if_neg (fun heq => h (Option.some.inj heq)), if_neg h, one_mul]

theorem pairValue_zeros : pairValue 48 48 = 0 := by decide

theorem offsetText_of_writes {text : String} {minutes : ℤ}
    (hsign : (Ascii.bytes text).head? = some 43 ∨ (Ascii.bytes text).head? = some 45)
    (h : WritesOffset (Ascii.bytes text) minutes) : OffsetText text.toList minutes := by
  obtain ⟨h, h', m, m', hshape, hall, hlt, hle, rfl⟩ := h
  have hh := hall h (by simp)
  have hh' := hall h' (by simp)
  have hm := hall m (by simp)
  have hm' := hall m' (by simp)
  generalize hbytes : Ascii.bytes text = bytes at hshape hsign
  cases hshape with
  | hours sign =>
    obtain ⟨hascii, hfactor⟩ := offsetSign_char (hsign.imp Option.some.inj Option.some.inj)
    have htext : text.toList = [sign, h, h'].map Ascii.char := by
      apply (Ascii.bytes_eq_iff _).mp hbytes
      simp [hascii, isAsciiDigit_lt hh, isAsciiDigit_lt hh']
    rw [signed_eq, htext, pairValue_zeros, add_zero]
    rw [pairValue_zeros, add_zero] at hle
    exact .hours hfactor (digitPair_char hh hh') hle
  | minutes sign =>
    obtain ⟨hascii, hfactor⟩ := offsetSign_char (hsign.imp Option.some.inj Option.some.inj)
    have htext : text.toList = [sign, h, h', m, m'].map Ascii.char := by
      apply (Ascii.bytes_eq_iff _).mp hbytes
      simp [hascii, isAsciiDigit_lt hh, isAsciiDigit_lt hh', isAsciiDigit_lt hm, isAsciiDigit_lt hm']
    rw [signed_eq, htext]
    exact .minutes hfactor (digitPair_char hh hh') (digitPair_char hm hm') hlt hle
  | colon sign =>
    obtain ⟨hascii, hfactor⟩ := offsetSign_char (hsign.imp Option.some.inj Option.some.inj)
    have htext : text.toList = [sign, h, h', 58, m, m'].map Ascii.char := by
      apply (Ascii.bytes_eq_iff _).mp hbytes
      simp [hascii, isAsciiDigit_lt hh, isAsciiDigit_lt hh', isAsciiDigit_lt hm, isAsciiDigit_lt hm']
    rw [signed_eq, htext]
    exact .colon hfactor (digitPair_char hh hh') (digitPair_char hm hm') hlt hle

theorem writes_of_offsetText {text : String} {minutes : ℤ} (h : OffsetText text.toList minutes) :
    ((Ascii.bytes text).head? = some 43 ∨ (Ascii.bytes text).head? = some 45) ∧
      WritesOffset (Ascii.bytes text) minutes := by
  generalize htext : text.toList = chars at h
  cases h with
  | hours hsign hhours hle =>
    obtain ⟨sign, hbyte, rfl, rfl⟩ := offsetSign_exists hsign
    obtain ⟨h, h', hh, hh', rfl, rfl, rfl⟩ := digitPair_exists hhours
    have hbytes : Ascii.bytes text = [sign, h, h'] := by
      apply (Ascii.bytes_eq_iff _).mpr htext
      simp [(offsetSign_char hbyte).1, isAsciiDigit_lt hh, isAsciiDigit_lt hh']
    rw [hbytes]
    refine ⟨hbyte.imp (congrArg some) (congrArg some), h, h', 48, 48, .hours sign h h', ?_, by decide, ?_, ?_⟩
    · have hzero : isAsciiDigit 48 = true := by decide
      simp [hh, hh', hzero]
    · rw [pairValue_zeros, add_zero]
      exact hle
    · rw [signed_eq, pairValue_zeros, add_zero]
  | minutes hsign hhours hminutes hlt hle =>
    obtain ⟨sign, hbyte, rfl, rfl⟩ := offsetSign_exists hsign
    obtain ⟨h, h', hh, hh', rfl, rfl, rfl⟩ := digitPair_exists hhours
    obtain ⟨m, m', hm, hm', rfl, rfl, rfl⟩ := digitPair_exists hminutes
    have hbytes : Ascii.bytes text = [sign, h, h', m, m'] := by
      apply (Ascii.bytes_eq_iff _).mpr htext
      simp [(offsetSign_char hbyte).1, isAsciiDigit_lt hh, isAsciiDigit_lt hh', isAsciiDigit_lt hm, isAsciiDigit_lt hm']
    rw [hbytes]
    refine ⟨hbyte.imp (congrArg some) (congrArg some), h, h', m, m', .minutes sign h h' m m', ?_, hlt, hle, ?_⟩
    · simp [hh, hh', hm, hm']
    · rw [signed_eq]
  | colon hsign hhours hminutes hlt hle =>
    obtain ⟨sign, hbyte, rfl, rfl⟩ := offsetSign_exists hsign
    obtain ⟨h, h', hh, hh', rfl, rfl, rfl⟩ := digitPair_exists hhours
    obtain ⟨m, m', hm, hm', rfl, rfl, rfl⟩ := digitPair_exists hminutes
    have hbytes : Ascii.bytes text = [sign, h, h', 58, m, m'] := by
      apply (Ascii.bytes_eq_iff _).mpr htext
      simp [(offsetSign_char hbyte).1, isAsciiDigit_lt hh, isAsciiDigit_lt hh', isAsciiDigit_lt hm, isAsciiDigit_lt hm']
    rw [hbytes]
    refine ⟨hbyte.imp (congrArg some) (congrArg some), h, h', m, m', .colon sign h h' m m', ?_, hlt, hle, ?_⟩
    · simp [hh, hh', hm, hm']
    · rw [signed_eq]

theorem toLower_eq_iff {c upper lower : Char} (hrange : 65 ≤ upper.toNat ∧ upper.toNat ≤ 90)
    (hlower : lower.toNat = upper.toNat + 32) : c.toLower = lower ↔ c = upper ∨ c = lower := by
  have hchar {a b : Char} : a = b ↔ a.toNat = b.toNat := ⟨congrArg _, fun h => Char.ext (UInt32.toNat_inj.mp h)⟩
  have hval : c.toLower.toNat = if 65 ≤ c.toNat ∧ c.toNat ≤ 90 then c.toNat + 32 else c.toNat := by
    unfold Char.toLower
    by_cases h : c.val ≥ 'A'.val ∧ c.val ≤ 'Z'.val
    · have hnat : 65 ≤ c.toNat ∧ c.toNat ≤ 90 := h
      rw [dif_pos h, if_pos hnat]
      change (c.val + 32).toNat = c.toNat + 32
      rw [UInt32.toNat_add]
      change (c.toNat + 32) % 2 ^ 32 = c.toNat + 32
      omega
    · have hnat : ¬(65 ≤ c.toNat ∧ c.toNat ≤ 90) := h
      rw [dif_neg h, if_neg hnat]
  rw [hchar, hchar, hchar, hval]
  split <;> omega

theorem utcText_iff {text : String} :
    UtcText text.toList ↔ eqIgnoreAsciiCase text "Z" = true ∨ eqIgnoreAsciiCase text "UTC" = true := by
  have hlower (s : String) : s.toLower = s.map Char.toLower := rfl
  have hz : text.toLower = "Z".toLower ↔ text.toList.map Char.toLower = ['z'] := by
    rw [hlower, hlower, ← String.toList_inj, String.toList_map, String.toList_map]
    rfl
  have hutc : text.toLower = "UTC".toLower ↔ text.toList.map Char.toLower = ['u', 't', 'c'] := by
    rw [hlower, hlower, ← String.toList_inj, String.toList_map, String.toList_map]
    rfl
  have hletter {c upper lower : Char} (hrange : 65 ≤ upper.toNat ∧ upper.toNat ≤ 90)
    (hlower : lower.toNat = upper.toNat + 32) : c.toLower = lower ↔ c = upper ∨ c = lower := toLower_eq_iff hrange hlower
  simp only [eqIgnoreAsciiCase, decide_eq_true_eq, hz, hutc, List.map_eq_cons_iff, List.map_eq_nil_iff]
  constructor
  · intro h
    generalize text.toList = chars at h
    cases h with
    | zulu hz => exact .inl ⟨_, _, rfl, (hletter (by decide) (by decide)).mpr hz, rfl⟩
    | utc hu ht hc =>
      exact .inr ⟨_, _, rfl, (hletter (by decide) (by decide)).mpr hu, _, _, rfl,
        (hletter (by decide) (by decide)).mpr ht, _, _, rfl, (hletter (by decide) (by decide)).mpr hc, rfl⟩
  · rintro (⟨z, _, htext, hz, rfl⟩ | ⟨u, _, htext, hu, t, _, rfl, ht, c, _, rfl, hc, rfl⟩)
    · rw [htext]
      exact .zulu ((hletter (by decide) (by decide)).mp hz)
    · rw [htext]
      exact .utc ((hletter (by decide) (by decide)).mp hu) ((hletter (by decide) (by decide)).mp ht)
        ((hletter (by decide) (by decide)).mp hc)

theorem signed_iff {text : String} : (∃ sign factor, text.toList.head? = some sign ∧ OffsetSign sign factor) ↔
    (Ascii.bytes text).head? = some 43 ∨ (Ascii.bytes text).head? = some 45 := by
  rw [Ascii.head_bytes_eq (by decide), Ascii.head_bytes_eq (by decide)]
  constructor
  · rintro ⟨sign, factor, hhead, hsign⟩
    cases hsign with
    | plus => exact .inl hhead
    | minus => exact .inr hhead
  · rintro (hhead | hhead)
    · exact ⟨_, 1, hhead, .plus⟩
    · exact ⟨_, -1, hhead, .minus⟩

theorem UtcText.not_signed {text : String} (h : UtcText text.toList) :
    ¬((Ascii.bytes text).head? = some 43 ∨ (Ascii.bytes text).head? = some 45) := by
  rw [Ascii.head_bytes_eq (by decide), Ascii.head_bytes_eq (by decide)]
  generalize text.toList = chars at h
  cases h with
  | zulu hz => rcases hz with rfl | rfl <;> decide
  | utc hu _ _ => rcases hu with rfl | rfl <;> simp [Ascii.char]

variable [Externals] (mapping : SchemaMapping) (rowIndex : ℕ)

theorem timezoneResolution_of_signed {timezone : String}
    (hsigned : (Ascii.bytes timezone).head? = some 43 ∨ (Ascii.bytes timezone).head? = some 45) :
    timezoneResolutionFromMetadata mapping rowIndex timezone = TimezoneResolution.fixedOffset <$>
      fixedOffsetMinutes (Ascii.bytes timezone) (unsupportedTimezoneError mapping rowIndex timezone) := by
  have hutc : ¬(eqIgnoreAsciiCase timezone "Z" = true ∨ eqIgnoreAsciiCase timezone "UTC" = true) := by
    rw [← utcText_iff]
    intro hutc
    exact hutc.not_signed hsigned
  have hparse : parseSqlServerFixedTimezoneOffset mapping rowIndex timezone =
    some (fixedOffsetMinutes (Ascii.bytes timezone) (unsupportedTimezoneError mapping rowIndex timezone)) :=
    if_pos hsigned
  rw [timezoneResolutionFromMetadata, if_neg hutc, hparse]

theorem timezoneResolution_of_unsigned {timezone : String} (hutc : ¬UtcText timezone.toList)
    (hsigned : ¬((Ascii.bytes timezone).head? = some 43 ∨ (Ascii.bytes timezone).head? = some 45)) :
    timezoneResolutionFromMetadata mapping rowIndex timezone =
      TimezoneResolution.named <$> okOr (Externals.parseTz timezone) (unsupportedTimezoneError mapping rowIndex timezone) := by
  have hparse : parseSqlServerFixedTimezoneOffset mapping rowIndex timezone = none := if_neg hsigned
  rw [timezoneResolutionFromMetadata, if_neg (mt utcText_iff.mpr hutc), hparse]
  cases Externals.parseTz timezone <;> rfl

/-- A text is a fixed offset exactly when the grammar gives it one; of the others only those without a sign reach the
named zones. -/
theorem timezone_text_grammar (timezone : String) :
    (∀ minutes, timezoneResolutionFromMetadata mapping rowIndex timezone = .ok (.fixedOffset minutes) ↔
      UtcText timezone.toList ∧ minutes = 0 ∨ OffsetText timezone.toList minutes) ∧
    ((∃ sign factor, timezone.toList.head? = some sign ∧ OffsetSign sign factor) →
      (∀ minutes, ¬OffsetText timezone.toList minutes) →
      timezoneResolutionFromMetadata mapping rowIndex timezone =
        fail (unsupportedTimezoneError mapping rowIndex timezone)) ∧
    ((¬∃ sign factor, timezone.toList.head? = some sign ∧ OffsetSign sign factor) → ¬UtcText timezone.toList →
      timezoneResolutionFromMetadata mapping rowIndex timezone =
        TimezoneResolution.named <$> okOr (Externals.parseTz timezone)
          (unsupportedTimezoneError mapping rowIndex timezone)) ∧
    Safe (timezoneResolutionFromMetadata mapping rowIndex timezone) := by
  rw [signed_iff]
  refine ⟨?_, ?_, ?_, (failsWith_timezoneResolutionFromMetadata timezone).safe⟩
  · intro minutes
    by_cases hutc : UtcText timezone.toList
    · have hzero : timezoneResolutionFromMetadata mapping rowIndex timezone = .ok (.fixedOffset 0) :=
        if_pos (utcText_iff.mp hutc)
      rw [hzero, Except.ok.injEq, TimezoneResolution.fixedOffset.injEq]
      constructor
      · intro h
        exact .inl ⟨hutc, h.symm⟩
      · rintro (⟨-, rfl⟩ | hoffset)
        · rfl
        · exact absurd (writes_of_offsetText hoffset).1 hutc.not_signed
    · by_cases hsigned : (Ascii.bytes timezone).head? = some 43 ∨ (Ascii.bytes timezone).head? = some 45
      · simp only [timezoneResolution_of_signed mapping rowIndex hsigned, map_eq_ok, fixedOffsetMinutes_eq_ok,
          TimezoneResolution.fixedOffset.injEq, hutc, false_and, false_or]
        constructor
        · rintro ⟨_, hwrites, rfl⟩
          exact offsetText_of_writes hsigned hwrites
        · intro hoffset
          exact ⟨minutes, (writes_of_offsetText hoffset).2, rfl⟩
      · simp only [timezoneResolution_of_unsigned mapping rowIndex hutc hsigned, map_eq_ok, reduceCtorEq, and_false,
          exists_false, hutc, false_and, false_or, false_iff]
        intro hoffset
        exact hsigned (writes_of_offsetText hoffset).1
  · intro hsigned hnone
    rw [timezoneResolution_of_signed mapping rowIndex hsigned]
    rcases fixedOffsetMinutes_eq (Ascii.bytes timezone) (unsupportedTimezoneError mapping rowIndex timezone) with
      ⟨minutes, hwrites, -⟩ | ⟨-, hfail⟩
    · exact absurd (offsetText_of_writes hsigned hwrites) (hnone minutes)
    · rw [hfail]
      rfl
  · intro hsigned hutc
    exact timezoneResolution_of_unsigned mapping rowIndex hutc hsigned

omit [Externals] in
theorem timezone_text_grammar_at_samples :
    @timezoneResolutionFromMetadata .silent wholeSecondMapping 0 "+05:30" = .ok (@TimezoneResolution.fixedOffset .silent 330) ∧
    @timezoneResolutionFromMetadata .silent wholeSecondMapping 0 "+5" =
      fail (@unsupportedTimezoneError .silent wholeSecondMapping 0 "+5") := by
  constructor
  · apply ((@timezone_text_grammar .silent wholeSecondMapping 0 "+05:30").1 330).mpr
    have hhours : DigitPair '0' '5' 5 := ⟨rfl, rfl, rfl⟩
    have hminutes : DigitPair '3' '0' 30 := ⟨rfl, rfl, rfl⟩
    have htext : OffsetText "+05:30".toList (1 * (5 * 60 + 30)) :=
      .colon .plus hhours hminutes (by decide) (by decide)
    exact .inr htext
  · apply (@timezone_text_grammar .silent wholeSecondMapping 0 "+5").2.1 ⟨_, _, rfl, .plus⟩
    intro minutes h
    nomatch h

end ArrowTiberius
