import Kessh.Host.LynxPages
import Kessh.Host.Validation
import Kessh.Lib.Number

set_option autoImplicit false

-- The two readers of a port, with the Number that parseInt makes of the digits.
namespace Kessh

open Ecma

namespace ConnectionStore

def parsePortNumber (rounding : Rounding) (portText : JsString) : Option Number :=
  let value := trim portText
  if !isDecimal value then none
  else
    let port := rounding.parseInt value
    if port.isNaN || port.lt (.finite 1) || (Number.finite 65535).lt port then none else some port

end ConnectionStore

namespace AddHostPage

def parsePortNumber (rounding : Rounding) (text : JsString) : Option Number :=
  if !isDecimal (trim text) then none
  else
    let value := rounding.parseInt text
    if value.isNaN || value.lt (.finite 1) || (Number.finite 65535).lt value then none else some value

end AddHostPage

theorem port_range (rounding : Rounding) (n : Nat) :
    ((rounding.round n).isNaN || (rounding.round n).lt (.finite 1) || (Number.finite 65535).lt (rounding.round n)) =
      ((n : Int) < 1 || (n : Int) > 65535) := by
  have lower := rounding.round_lt n 1 (by decide)
  have upper := rounding.lt_round n 65535 (by decide)
  rw [Nat.cast_one] at lower
  rw [Nat.cast_ofNat] at upper
  rw [rounding.round_isNaN, Bool.false_or, lower, upper]
  congr 1
  · exact decide_eq_decide.mpr (by omega)
  · exact decide_eq_decide.mpr (by omega)

theorem parsePortNumber_exact (rounding : Rounding) (text : JsString) :
    ConnectionStore.parsePortNumber rounding text =
      (ConnectionStore.parsePortText text).map fun port => .finite port := by
  unfold ConnectionStore.parsePortNumber ConnectionStore.parsePortText
  dsimp only
  by_cases numeral : isDecimal (trim text) = true
  · have parsed := parseInt_decimal_text _ numeral
    simp only [numeral, Bool.not_true, Bool.false_eq_true, if_false, parsed, rounding.parseInt_natCast _ _ parsed,
      port_range]
    split
    · rfl
    · rename_i inside
      simp only [Bool.or_eq_true, decide_eq_true_eq, not_or] at inside
      rw [rounding.round_natCast _ (by omega), Int.toNat_natCast]
      rfl
  · simp [numeral]

/-- Whatever digits a text has, both readers return the value if it is a port, and no number otherwise. -/
theorem parsePortNumber_iff (rounding : Rounding) (text : JsString) :
    (∀ port, ConnectionStore.parsePortNumber rounding text = some port ↔
      isDecimal (trim text) = true ∧ 1 ≤ digitsFrom 0 (trim text) ∧ digitsFrom 0 (trim text) ≤ 65535 ∧
        port = .finite (digitsFrom 0 (trim text))) ∧
      AddHostPage.parsePortNumber rounding text = ConnectionStore.parsePortNumber rounding text := by
  constructor
  · intro port
    rw [parsePortNumber_exact, Option.map_eq_some_iff]
    simp only [Validation.parsePortText_iff, Validation.NumericPort]
    constructor
    · rintro ⟨n, ⟨⟨numeral, lower, upper⟩, rfl⟩, rfl⟩
      exact ⟨numeral, lower, upper, rfl⟩
    · rintro ⟨numeral, lower, upper, rfl⟩
      exact ⟨_, ⟨⟨numeral, lower, upper⟩, rfl⟩, rfl⟩
  · unfold AddHostPage.parsePortNumber ConnectionStore.parsePortNumber
    dsimp only
    by_cases numeral : isDecimal (trim text) = true
    · rw [rounding.parseInt_natCast _ _ (parseInt_trimmed text numeral),
        rounding.parseInt_natCast _ _ (parseInt_decimal_text _ numeral)]
    · simp [numeral]

end Kessh
