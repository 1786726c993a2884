import Mathlib.Data.BitVec

set_option autoImplicit false

-- The operators of ECMAScript that work on 32 bits, for operands that are integers. Only the
-- unsigned shift gives an unsigned result, and only five bits of a shift count are used.
namespace Word32

def word (a : Int) : BitVec 32 := BitVec.ofInt 32 a

def shiftLeft (a count : Int) : Int := (word a <<< (count % 32).toNat).toInt

def unsignedShiftRight (a count : Int) : Int := (word a >>> (count % 32).toNat).toNat

def bitAnd (a b : Int) : Int := (word a &&& word b).toInt

def bitOr (a b : Int) : Int := (word a ||| word b).toInt

def bitXor (a b : Int) : Int := (word a ^^^ word b).toInt

def bitNot (a : Int) : Int := (~~~ word a).toInt

@[simp] theorem word_toInt (bits : BitVec 32) : word bits.toInt = bits := BitVec.ofInt_toInt

@[simp] theorem word_toNat (bits : BitVec 32) : word (bits.toNat : Int) = bits := by
  rw [word, BitVec.ofInt_natCast, BitVec.ofNat_toNat, BitVec.setWidth_eq]

@[simp] theorem word_shiftLeft (a count : Int) : word (shiftLeft a count) = word a <<< (count % 32).toNat := word_toInt _

@[simp] theorem word_unsignedShiftRight (a count : Int) :
    word (unsignedShiftRight a count) = word a >>> (count % 32).toNat := word_toNat _

@[simp] theorem word_bitAnd (a b : Int) : word (bitAnd a b) = word a &&& word b := word_toInt _

@[simp] theorem word_bitOr (a b : Int) : word (bitOr a b) = word a ||| word b := word_toInt _

@[simp] theorem word_bitNot (a : Int) : word (bitNot a) = ~~~ word a := word_toInt _

theorem word_add (a b : Int) : word (a + b) = word a + word b := BitVec.ofInt_add a b

theorem word_natCast (n : Nat) : (word n).toNat = n % 2 ^ 32 := by
  rw [word, BitVec.ofInt_natCast, BitVec.toNat_ofNat]

theorem unsignedShiftRight_zero (a : Int) : unsignedShiftRight a 0 = (word a).toNat := by
  simp [unsignedShiftRight]

theorem bitAnd_byte (a : Int) : bitAnd a 0xFF = ((word a).toNat % 256 : Nat) := by
  have low : (word a &&& word 0xFF).toNat = (word a).toNat % 256 := by
    rw [BitVec.toNat_and]
    exact Nat.and_two_pow_sub_one_eq_mod _ 8
  rw [bitAnd, BitVec.toInt_eq_toNat_of_lt (by omega), low]

theorem mask_toNat (k : Nat) (inside : k < 32) : (BitVec.allOnes 32 <<< k).toNat = 2 ^ 32 - 2 ^ k := by
  have positive : 1 ≤ 2 ^ k := Nat.one_le_two_pow
  have most : 2 ^ k < 2 ^ 32 := Nat.pow_lt_pow_right (by omega) inside
  rw [BitVec.toNat_shiftLeft, BitVec.toNat_allOnes, Nat.shiftLeft_eq]
  generalize 2 ^ k = size at positive most
  omega

theorem and_mask (bits : BitVec 32) (k : Nat) : bits &&& (BitVec.allOnes 32 <<< k) = (bits >>> k) <<< k := by
  apply BitVec.eq_of_getLsbD_eq
  intro i inside
  simp only [BitVec.getLsbD_and, BitVec.getLsbD_shiftLeft, BitVec.getLsbD_allOnes, BitVec.getLsbD_ushiftRight]
  by_cases low : i < k
  · simp [low]
  · have above : k + (i - k) = i := by omega
    have below : i - k < 32 := by omega
    simp [inside, low, above, below]

theorem and_mask_toNat (bits : BitVec 32) (k : Nat) :
    (bits &&& (BitVec.allOnes 32 <<< k)).toNat = bits.toNat >>> k <<< k := by
  have range := bits.isLt
  have less : bits.toNat >>> k <<< k ≤ bits.toNat := by
    rw [Nat.shiftLeft_eq, Nat.shiftRight_eq_div_pow]
    exact Nat.div_mul_le_self _ _
  rw [and_mask, BitVec.toNat_shiftLeft, BitVec.toNat_ushiftRight, Nat.mod_eq_of_lt (by omega)]

theorem not_mask_toNat (k : Nat) (inside : k < 32) : (~~~ (BitVec.allOnes 32 <<< k)).toNat = 2 ^ k - 1 := by
  have most : 2 ^ k < 2 ^ 32 := Nat.pow_lt_pow_right (by omega) inside
  rw [BitVec.toNat_not, mask_toNat k inside]
  omega

end Word32
