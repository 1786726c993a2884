import Kessh.Lib.Numerals
import Mathlib.Data.Int.Log
import Mathlib.Data.Rat.Floor
import Mathlib.Tactic.Linarith
import Mathlib.Tactic.NormNum

set_option autoImplicit false

-- The Numbers of ECMAScript: what arithmetic, comparison and parseFloat make of them.
namespace Ecma

-- The sign of a zero is left out: nothing here divides by a zero that has one.
inductive Number where
  | nan
  | infinite (negative : Bool)
  | finite (value : ℚ)
  deriving DecidableEq

namespace Number

def isNaN : Number → Bool
  | .nan => true
  | _ => false

def lt : Number → Number → Bool
  | .finite p, .finite q => p < q
  | .finite _, .infinite negative => !negative
  | .infinite negative, .finite _ => negative
  | .infinite first, .infinite second => first && !second
  | _, _ => false

-- What || 0 makes of a Number: a zero and NaN are falsy.
def orZero : Number → Number
  | .nan => .finite 0
  | number => number

end Number

-- How a rational becomes a Number: it stays on its side of a small integer.
structure Rounding where
  round : ℚ → Number
  ordered : ∀ q, round q ≠ .nan
  below : ∀ (q : ℚ) (n : Nat), n < 0x20000000000000 → q ≤ n → (Number.finite n).lt (round q) = false
  above : ∀ (q : ℚ) (n : Nat), n < 0x20000000000000 → n ≤ q → (round q).lt (.finite n) = false

-- e or E, a sign, digits: without digits there is no exponent.
def exponent : JsString → Int
  | e :: rest =>
      if e = 0x65 ∨ e = 0x45 then
        let digits := (if rest.head? = some 0x2D ∨ rest.head? = some 0x2B then rest.tail else rest).takeWhile isDigit
        if rest.head? = some 0x2D then -(digitsFrom 0 digits : Int) else digitsFrom 0 digits
      else 0
  | [] => 0

-- The digits behind a point, and what follows them.
def fraction : JsString → JsString × JsString
  | 0x2E :: rest => (rest.takeWhile isDigit, rest.dropWhile isDigit)
  | rest => ([], rest)

theorem digitsFrom_append (left right : JsString) :
    digitsFrom 0 (left ++ right) = digitsFrom 0 left * 10 ^ right.length + digitsFrom 0 right := by
  have from_value : ∀ value, digitsFrom value right = value * 10 ^ right.length + digitsFrom 0 right := by
    induction right with
    | nil => simp [digitsFrom]
    | cons unit right ih =>
        intro value
        have first : ∀ value, digitsFrom value (unit :: right) = digitsFrom (10 * value + (unit.toNat - 0x30)) right :=
          fun _ => rfl
        rw [first, first, ih, ih (10 * 0 + _), List.length_cons, pow_succ]
        ring
  rw [← from_value]
  exact List.foldl_append

def point (decimals : JsString) : JsString := if decimals.isEmpty then [] else 0x2E :: decimals

theorem fraction_point (decimals : JsString) (digits : ∀ unit ∈ decimals, isDigit unit = true) :
    fraction (point decimals) = (decimals, []) := by
  cases decimals with
  | nil => rfl
  | cons unit rest =>
      have whole : (unit :: rest).takeWhile isDigit = unit :: rest := List.takeWhile_eq_self_iff.mpr digits
      have none : (unit :: rest).dropWhile isDigit = [] := List.dropWhile_eq_nil_iff.mpr digits
      exact congrArg₂ Prod.mk whole none

theorem point_members (decimals : JsString) (digits : ∀ unit ∈ decimals, isDigit unit = true) (unit : UInt16)
    (member : unit ∈ point decimals) : unit = 0x2E ∨ isDigit unit = true := by
  cases decimals with
  | nil => cases member
  | cons first decimals =>
      rcases List.mem_cons.mp member with same | member
      · exact .inl same
      · exact .inr (digits unit member)

theorem point_stops (decimals rest : JsString) (ends : ∀ unit ∈ rest.head?, isDigit unit = false) :
    ∀ unit ∈ (point decimals ++ rest).head?, isDigit unit = false := by
  cases decimals with
  | nil => exact ends
  | cons digit decimals =>
      intro unit first
      obtain rfl := Option.some.inj first
      decide

namespace Rounding

variable (rounding : Rounding)

def add : Number → Number → Number
  | .finite p, .finite q => rounding.round (p + q)
  | .finite _, .infinite negative => .infinite negative
  | .infinite negative, .finite _ => .infinite negative
  | .infinite first, .infinite second => if first = second then .infinite first else .nan
  | _, _ => .nan

def sub : Number → Number → Number
  | first, .finite q => rounding.add first (.finite (-q))
  | first, .infinite negative => rounding.add first (.infinite !negative)
  | _, .nan => .nan

def mul : Number → Number → Number
  | .finite p, .finite q => rounding.round (p * q)
  | .finite p, .infinite negative => if p = 0 then .nan else .infinite (negative != decide (p < 0))
  | .infinite negative, .finite q => if q = 0 then .nan else .infinite (negative != decide (q < 0))
  | .infinite first, .infinite second => .infinite (first != second)
  | _, _ => .nan

def div : Number → Number → Number
  | .finite p, .finite q => if q = 0 then if p = 0 then .nan else .infinite (p < 0) else rounding.round (p / q)
  | .finite _, .infinite _ => .finite 0
  | .infinite negative, .finite q => .infinite (negative != decide (q < 0))
  | _, _ => .nan

def ofParsed : Option Int → Number
  | none => .nan
  | some n => rounding.round n

def parseInt (text : JsString) : Number := rounding.ofParsed (Ecma.parseInt text)

-- The longest decimal literal at the start, behind white space and a sign.
def parseFloat (text : JsString) : Number :=
  let (negative, body) := unsigned text
  if (js "Infinity").isPrefixOf body then .infinite negative
  else
    let whole := body.takeWhile isDigit
    let (decimals, rest) := fraction (body.dropWhile isDigit)
    if (whole ++ decimals).isEmpty then .nan
    else
      let value := (digitsFrom 0 (whole ++ decimals) : ℚ) * 10 ^ (exponent rest - decimals.length)
      rounding.round (if negative then -value else value)

def exact : Rounding where
  round := .finite
  ordered := fun _ same => nomatch same
  below := fun q n _ bound => by simpa [Number.lt] using bound
  above := fun q n _ bound => by simpa [Number.lt] using bound

theorem round_natCast (n : Nat) (small : n < 0x20000000000000) : rounding.round n = .finite n := by
  have below := rounding.below n n small le_rfl
  have above := rounding.above n n small le_rfl
  cases rounded : rounding.round n with
  | nan => exact absurd rounded (rounding.ordered n)
  | infinite negative =>
      rw [rounded] at below above
      cases negative with
      | false => cases below
      | true => cases above
  | finite value =>
      rw [rounded] at below above
      simp only [Number.lt, decide_eq_false_iff_not, not_lt] at below above
      rw [le_antisymm below above]

theorem parseInt_natCast (text : JsString) (n : Nat) (parsed : Ecma.parseInt text = some (n : Int)) :
    rounding.parseInt text = rounding.round n := by
  rw [Rounding.parseInt, parsed, ofParsed, Int.cast_natCast]

theorem round_lt (n bound : Nat) (small : bound < 0x20000000000000) :
    (rounding.round n).lt (.finite bound) = decide (n < bound) := by
  by_cases less : n < bound
  · rw [rounding.round_natCast n (by omega), Number.lt, decide_eq_true less, decide_eq_true_eq]
    exact_mod_cast less
  · rw [decide_eq_false less]
    exact rounding.above n bound small (by exact_mod_cast not_lt.mp less)

theorem lt_round (n bound : Nat) (small : bound + 1 < 0x20000000000000) :
    (Number.finite bound).lt (rounding.round n) = decide (bound < n) := by
  by_cases more : bound < n
  · have above := rounding.above n (bound + 1) small (by exact_mod_cast more)
    rw [decide_eq_true more]
    cases rounded : rounding.round n with
    | nan => exact absurd rounded (rounding.ordered n)
    | infinite negative =>
        rw [rounded] at above
        simpa [Number.lt] using above
    | finite value =>
        rw [rounded] at above
        simp only [Number.lt, decide_eq_false_iff_not, not_lt, decide_eq_true_eq] at above ⊢
        push_cast at above
        linarith
  · rw [decide_eq_false more]
    exact rounding.below n bound (by omega) (by exact_mod_cast not_lt.mp more)

theorem parseFloat_decimal (whole decimals : JsString) (numeral : isDecimal whole = true)
    (digits : ∀ unit ∈ decimals, isDigit unit = true) :
    rounding.parseFloat (whole ++ point decimals) =
      rounding.round (digitsFrom 0 whole + digitsFrom 0 decimals / 10 ^ decimals.length) := by
  obtain ⟨some, members⟩ := decimal_digits whole numeral
  obtain ⟨first, others, rfl⟩ := List.exists_cons_of_ne_nil some
  have digit := members first List.mem_cons_self
  have plain : unsigned (first :: others ++ point decimals) = (false, first :: others ++ point decimals) :=
    signed_unsigned _ false first (others ++ point decimals) digit (.bare [] _ fun _ none => by cases none)
  have infinity : (js "Infinity").isPrefixOf (first :: others ++ point decimals) = false := by
    have letter : first ≠ 0x49 := by rintro rfl; exact absurd digit (by decide)
    rw [show js "Infinity" = 0x49 :: js "nfinity" by decide, List.cons_append, List.isPrefixOf]
    simp [Ne.symm letter]
  obtain ⟨run, rest⟩ : (first :: others ++ point decimals).takeWhile isDigit = first :: others ∧
      (first :: others ++ point decimals).dropWhile isDigit = point decimals := by
    have stops := point_stops decimals [] fun _ none => by cases none
    rw [List.append_nil] at stops
    have taken := (takeWhile_iff isDigit _ _).mpr ⟨point decimals, rfl, members, stops⟩
    refine ⟨taken, ?_⟩
    have whole := List.takeWhile_append_dropWhile (p := isDigit) (l := first :: others ++ point decimals)
    rw [taken] at whole
    exact List.append_cancel_left whole
  rw [parseFloat, plain]
  simp only [infinity, Bool.false_eq_true, if_false, run, rest, fraction_point decimals digits]
  rw [if_neg (by simp), digitsFrom_append]
  congr 1
  rw [show exponent [] - (decimals.length : Int) = -(decimals.length : Int) by simp [exponent], zpow_neg, zpow_natCast]
  push_cast
  field_simp

theorem parseFloat_numeral (numeral : JsString) (decimal : isDecimal numeral = true) :
    rounding.parseFloat numeral = rounding.round (digitsFrom 0 numeral) := by
  have parsed := rounding.parseFloat_decimal numeral [] decimal fun _ none => by cases none
  rw [show point [] = [] from rfl, List.append_nil, show digitsFrom 0 [] = 0 from rfl] at parsed
  rw [parsed]
  simp

theorem round_isNaN (q : ℚ) : (rounding.round q).isNaN = false := by
  have ordered := rounding.ordered q
  cases rounded : rounding.round q with
  | nan => exact absurd rounded ordered
  | infinite negative => rfl
  | finite value => rfl

end Rounding

-- To the nearest integer, ties to even.
def roundEven (q : ℚ) : Int :=
  let rest := q - ⌊q⌋
  if 1 / 2 < rest ∨ rest = 1 / 2 ∧ ⌊q⌋ % 2 = 1 then ⌊q⌋ + 1 else ⌊q⌋

theorem le_roundEven (q : ℚ) (m : Int) (bound : m ≤ q) : m ≤ roundEven q := by
  have floor := Int.le_floor.mpr bound
  unfold roundEven
  dsimp only
  split <;> omega

theorem roundEven_le (q : ℚ) (m : Int) (bound : q ≤ m) : roundEven q ≤ m := by
  have floor : ⌊q⌋ ≤ m := Int.floor_le_iff.mpr (bound.trans_lt (lt_add_one _))
  unfold roundEven
  dsimp only
  split
  · rename_i more
    rcases floor.lt_or_eq with less | same
    · omega
    · have none : q - ⌊q⌋ ≤ 0 := by rw [same]; linarith
      rcases more with up | ⟨tie, _⟩ <;> linarith
  · exact floor

-- The distance between neighbours at a rational, with 53 bits from the first one on and none below 2^-1074.
def spacing (q : ℚ) : ℚ := 2 ^ max (Int.log 2 |q| - 52) (-1074)

def nearestDouble (q : ℚ) : ℚ := roundEven (q / spacing q) * spacing q

theorem spacing_pos (q : ℚ) : 0 < spacing q := zpow_pos (by norm_num) _

-- Where neighbours are at most one apart, the integers are among them.
theorem spacing_divides (q : ℚ) (small : Int.log 2 |q| ≤ 52) (n : Nat) : ∃ m : Int, (n : ℚ) = m * spacing q := by
  obtain ⟨k, exponent⟩ : ∃ k : Nat, max (Int.log 2 |q| - 52) (-1074) = -(k : Int) :=
    ⟨(-max (Int.log 2 |q| - 52) (-1074)).toNat, by omega⟩
  refine ⟨n * 2 ^ k, ?_⟩
  rw [spacing, exponent, zpow_neg, zpow_natCast]
  push_cast
  field_simp

theorem wide_log (q : ℚ) (wide : ¬ Int.log 2 |q| ≤ 52) : (0x20000000000000 : ℚ) ≤ |q| := by
  have positive : 0 < |q| := by
    rw [abs_pos]
    rintro rfl
    simp at wide
  have bound : ((2 : Nat) : ℚ) ^ (53 : Int) ≤ |q| := (Int.zpow_le_iff_le_log (by decide) positive).mpr (by omega)
  norm_num at bound
  exact bound

theorem wide_spacing (q : ℚ) (wide : ¬ Int.log 2 |q| ≤ 52) : 2 ≤ spacing q ∧ 2 ^ 52 * spacing q ≤ |q| := by
  have exponent : spacing q = 2 ^ (Int.log 2 |q| - 52) := by rw [spacing, max_eq_left (by omega)]
  have positive : 0 < |q| := lt_of_lt_of_le (by norm_num) (wide_log q wide)
  have log : (2 : ℚ) ^ Int.log 2 |q| ≤ |q| := Int.zpow_log_le_self (by decide) positive
  constructor
  · have step : (2 : ℚ) ^ (1 : Int) ≤ 2 ^ (Int.log 2 |q| - 52) := zpow_le_zpow_right₀ (by norm_num) (by omega)
    rwa [exponent, ← zpow_one (2 : ℚ)]
  · rw [exponent, ← zpow_natCast, ← zpow_add₀ (by norm_num)]
    simpa using log

theorem le_nearestDouble (q : ℚ) (n : Nat) (small : n < 0x20000000000000) (bound : n ≤ q) : (n : ℚ) ≤ nearestDouble q := by
  have positive := spacing_pos q
  by_cases narrow : Int.log 2 |q| ≤ 52
  · obtain ⟨m, same⟩ := spacing_divides q narrow n
    have floor : m ≤ roundEven (q / spacing q) := le_roundEven _ m ((le_div_iff₀ positive).mpr (same ▸ bound))
    rw [same, nearestDouble]
    exact mul_le_mul_of_nonneg_right (by exact_mod_cast floor) positive.le
  · obtain ⟨step, whole⟩ := wide_spacing q narrow
    have nonnegative : 0 ≤ q := (Nat.cast_nonneg n).trans bound
    have least : ((2 ^ 52 : Int) : ℚ) ≤ q / spacing q := by
      rw [abs_of_nonneg nonnegative] at whole
      rw [le_div_iff₀ positive]
      exact_mod_cast whole
    have floor : (2 ^ 52 : ℚ) ≤ roundEven (q / spacing q) := by exact_mod_cast le_roundEven _ _ least
    calc (n : ℚ) ≤ 0x20000000000000 := by exact_mod_cast small.le
      _ = 2 ^ 52 * 2 := by norm_num
      _ ≤ nearestDouble q := mul_le_mul floor step (by norm_num) (by linarith)

theorem nearestDouble_le (q : ℚ) (n : Nat) (small : n < 0x20000000000000) (bound : q ≤ n) : nearestDouble q ≤ n := by
  have positive := spacing_pos q
  by_cases narrow : Int.log 2 |q| ≤ 52
  · obtain ⟨m, same⟩ := spacing_divides q narrow n
    have ceiling : roundEven (q / spacing q) ≤ m := roundEven_le _ m ((div_le_iff₀ positive).mpr (same ▸ bound))
    rw [same, nearestDouble]
    exact mul_le_mul_of_nonneg_right (by exact_mod_cast ceiling) positive.le
  · have whole := wide_log q narrow
    have integer : (n : ℚ) < 0x20000000000000 := by exact_mod_cast small
    have negative : q ≤ 0 := by
      by_contra positive
      rw [abs_of_pos (not_le.mp positive)] at whole
      linarith
    have ceiling : (roundEven (q / spacing q) : ℚ) ≤ 0 := by
      exact_mod_cast roundEven_le (q / spacing q) 0 (by
        rw [Int.cast_zero]
        exact div_nonpos_of_nonpos_of_nonneg negative positive.le)
    exact (mul_nonpos_of_nonpos_of_nonneg ceiling positive.le).trans (Nat.cast_nonneg n)

def binary64 (q : ℚ) : Number :=
  let value := nearestDouble q
  if |value| < 2 ^ 1024 then .finite value else .infinite (q < 0)

/-- The Numbers that engines have: the nearest double, ties to even, and an infinity where it is too large. -/
def Rounding.double : Rounding where
  round := binary64
  ordered := fun q => by
    unfold binary64
    dsimp only
    split <;> simp
  below := fun q n small bound => by
    have ceiling := nearestDouble_le q n small bound
    unfold binary64
    dsimp only
    split
    · simpa [Number.lt] using ceiling
    · rename_i large
      by_cases negative : q < 0
      · simp [Number.lt, negative]
      · have floor := le_nearestDouble q 0 (by decide) (by simpa using negative)
        rw [Nat.cast_zero] at floor
        have integer : (n : ℚ) < 0x20000000000000 := by exact_mod_cast small
        refine absurd ?_ large
        rw [abs_of_nonneg floor]
        have limit : (2 : ℚ) ^ 53 ≤ 2 ^ 1024 := pow_le_pow_right₀ (by norm_num) (by decide)
        exact (ceiling.trans_lt integer).trans_le (le_trans (by norm_num) limit)
  above := fun q n small bound => by
    have floor := le_nearestDouble q n small bound
    have positive : ¬ q < 0 := not_lt.mpr ((Nat.cast_nonneg n).trans bound)
    unfold binary64
    dsimp only
    split
    · simpa [Number.lt] using floor
    · simp [Number.lt, positive]

end Ecma
