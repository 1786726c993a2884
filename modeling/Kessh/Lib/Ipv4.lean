import Kessh.Lib.Columns
import Kessh.Lib.Word32

set_option autoImplicit false

-- Addresses of 32 bits, their text, and the parts of a prefix of n bits.
namespace Ipv4

open Ecma (JsString js decimal join)

def dotted (value : Nat) : JsString :=
  join (js ".") [decimal (value / 16777216 % 256), decimal (value / 65536 % 256), decimal (value / 256 % 256),
    decimal (value % 256)]

-- n ones and then zeros.
def mask (n : Nat) : Nat := (2 ^ n - 1) <<< (32 - n)

def network (address n : Nat) : Nat := address >>> (32 - n) <<< (32 - n)

def broadcast (address n : Nat) : Nat := network address n ||| (2 ^ (32 - n) - 1)

theorem mask_value (n : Nat) (inside : n ≤ 32) : mask n = 2 ^ 32 - 2 ^ (32 - n) := by
  have whole : 2 ^ n * 2 ^ (32 - n) = 2 ^ 32 := by rw [← Nat.pow_add, Nat.add_sub_cancel' inside]
  rw [mask, Nat.shiftLeft_eq, Nat.sub_mul, Nat.one_mul, whole]

theorem network_value (address n : Nat) : network address n = address / 2 ^ (32 - n) * 2 ^ (32 - n) := by
  rw [network, Nat.shiftLeft_eq, Nat.shiftRight_eq_div_pow]

theorem broadcast_value (address n : Nat) : broadcast address n = network address n + (2 ^ (32 - n) - 1) := by
  have positive : 1 ≤ 2 ^ (32 - n) := Nat.one_le_two_pow
  rw [broadcast, network, ← Nat.shiftLeft_add_eq_or_of_lt (by omega)]

theorem network_le (address n : Nat) : network address n ≤ address := by
  rw [network_value]
  exact Nat.div_mul_le_self _ _

theorem broadcast_lt (address n : Nat) (inside : n ≤ 32) (range : address < 2 ^ 32) : broadcast address n < 2 ^ 32 := by
  have positive : 1 ≤ 2 ^ (32 - n) := Nat.one_le_two_pow
  have whole : 2 ^ n * 2 ^ (32 - n) = 2 ^ 32 := by rw [← Nat.pow_add, Nat.add_sub_cancel' inside]
  have quotient : address / 2 ^ (32 - n) < 2 ^ n := Nat.div_lt_of_lt_mul (by rw [Nat.mul_comm, whole]; exact range)
  have most : (address / 2 ^ (32 - n) + 1) * 2 ^ (32 - n) ≤ 2 ^ n * 2 ^ (32 - n) := Nat.mul_le_mul_right _ quotient
  rw [Nat.add_mul, Nat.one_mul, whole] at most
  rw [broadcast_value, network_value]
  omega

theorem size_value (address n : Nat) : broadcast address n - network address n + 1 = 2 ^ (32 - n) := by
  have positive : 1 ≤ 2 ^ (32 - n) := Nat.one_le_two_pow
  rw [broadcast_value]
  omega

theorem word_mask (n : Nat) (some : 1 ≤ n) (inside : n ≤ 32) : (BitVec.allOnes 32 <<< (32 - n)).toNat = mask n := by
  rw [Word32.mask_toNat _ (by omega), mask_value n inside]

theorem word_network (bits : BitVec 32) (n : Nat) :
    (bits &&& (BitVec.allOnes 32 <<< (32 - n))).toNat = network bits.toNat n := Word32.and_mask_toNat bits _

theorem word_broadcast (bits : BitVec 32) (n : Nat) (some : 1 ≤ n) :
    ((bits &&& (BitVec.allOnes 32 <<< (32 - n))) ||| ~~~ (BitVec.allOnes 32 <<< (32 - n))).toNat =
      broadcast bits.toNat n := by
  rw [BitVec.toNat_or, word_network, Word32.not_mask_toNat _ (by omega)]
  rfl

theorem decimal_dotless (n : Nat) : 0x2E ∉ decimal n := fun member =>
  absurd ((Ecma.decimal_digits _ (Ecma.decimal_isDecimal n)).2 _ member) (by decide)

theorem decimal_injective (a b : Nat) (same : decimal a = decimal b) : a = b := by
  rw [← Ecma.digits_decimal a, same, Ecma.digits_decimal]

theorem js_dot : js "." = [0x2E] := by decide

theorem dotted_pieces (value : Nat) : (dotted value).splitOn 0x2E =
    [decimal (value / 16777216 % 256), decimal (value / 65536 % 256), decimal (value / 256 % 256),
      decimal (value % 256)] := by
  refine (Ecma.splitOn_iff 0x2E _ _).mpr ⟨List.cons_ne_nil _ _, ?_, by rw [dotted, js_dot]⟩
  simp only [List.forall_mem_cons, List.not_mem_nil, false_implies, implies_true, and_true]
  exact ⟨decimal_dotless _, decimal_dotless _, decimal_dotless _, decimal_dotless _⟩

theorem dotted_injective (a b : Nat) (first : a < 2 ^ 32) (second : b < 2 ^ 32) (same : dotted a = dotted b) : a = b := by
  have pieces := congrArg (List.splitOn 0x2E) same
  rw [dotted_pieces, dotted_pieces] at pieces
  simp only [List.cons.injEq, and_true] at pieces
  obtain ⟨high, upper, lower, low⟩ := pieces
  have := decimal_injective _ _ high
  have := decimal_injective _ _ upper
  have := decimal_injective _ _ lower
  have := decimal_injective _ _ low
  omega

-- The bits of a number, each in one of two parts and not in the other.
def Parts (whole left right : Nat) : Prop :=
  ∀ i, whole.testBit i = (left.testBit i || right.testBit i) ∧ (left.testBit i && right.testBit i) = false

theorem parts_octet (whole left right l r : Nat) (parts : Parts whole left right) (ls : l < 256) (rs : r < 256)
    (one : l = 0 ∨ r = 0) : Parts (whole * 256 + (l + r)) (left * 256 + l) (right * 256 + r) := by
  have bits (a b : Nat) (small : b < 256) (i : Nat) :
      (a * 256 + b).testBit i = if i < 8 then b.testBit i else a.testBit (i - 8) := by
    rw [Nat.mul_comm]
    exact Nat.testBit_two_pow_mul_add a (i := 8) small i
  intro i
  rw [bits whole (l + r) (by omega), bits left l ls, bits right r rs]
  by_cases low : i < 8
  · rw [if_pos low, if_pos low, if_pos low]
    rcases one with rfl | rfl
    · simp
    · simp
  · rw [if_neg low, if_neg low, if_neg low]
    exact parts (i - 8)

theorem parts_shift (whole left right : Nat) (parts : Parts whole left right) (k : Nat) :
    whole >>> k = left >>> k ↔ right < 2 ^ k := by
  constructor
  · intro same
    have zero : right >>> k = 0 := by
      refine Nat.eq_of_testBit_eq fun i => ?_
      have bit := congrArg (fun number => Nat.testBit number i) same
      obtain ⟨joined, apart⟩ := parts (k + i)
      simp only [Nat.testBit_shiftRight] at bit
      rw [bit] at joined
      rw [Nat.testBit_shiftRight, Nat.zero_testBit]
      cases here : left.testBit (k + i) with
      | true =>
          rw [here, Bool.true_and] at apart
          exact apart
      | false =>
          rw [here, Bool.false_or] at joined
          exact joined.symm
    rw [Nat.shiftRight_eq_div_pow, Nat.div_eq_zero_iff] at zero
    rcases zero with none | less
    · exact absurd none (Nat.two_pow_pos k).ne'
    · exact less
  · intro less
    refine Nat.eq_of_testBit_eq fun i => ?_
    have above : right.testBit (k + i) = false :=
      Nat.testBit_lt_two_pow (less.trans_le (Nat.pow_le_pow_right (by omega) (Nat.le_add_right k i)))
    rw [Nat.testBit_shiftRight, Nat.testBit_shiftRight, (parts (k + i)).1, above, Bool.or_false]

theorem parts_network (whole left right : Nat) (parts : Parts whole left right) (n : Nat) :
    network whole n = network left n ↔ right < 2 ^ (32 - n) := by
  rw [← parts_shift whole left right parts, network, network, Nat.shiftLeft_eq, Nat.shiftLeft_eq]
  exact Nat.mul_left_inj (Nat.two_pow_pos _).ne'

end Ipv4
