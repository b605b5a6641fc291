import ArrowTiberius.Arrow.Value

namespace ArrowTiberius

/-- What the program takes from the Rust standard library and from its dependencies without their
source being at hand: text formatting, the time-zone table and half-precision widening; and whether
it is built with debug assertions. -/
class Externals where
  debug : {α : Type} → α → String
  display : {α : Type} → α → String
  Tz : Type
  parseTz : String → Option Tz
  localMinusUtc : Tz → ℤ → ℕ → Option ℤ
  f16ToF32 : F16 → F32
  debugAssertions : Bool

abbrev Externals.silent : Externals where
  debug _ := ""
  display _ := ""
  Tz := Empty
  parseTz _ := none
  localMinusUtc timezone := nomatch timezone
  f16ToF32 _ := ⟨0⟩
  debugAssertions := true

end ArrowTiberius
