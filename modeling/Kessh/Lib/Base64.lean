import Kessh.Lib.Ecma

set_option autoImplicit false

-- Base64 text: groups of four digits for three bytes.
namespace Base64

open Utf8 (Bytes)
open Ecma (JsString)

def alphabet : JsString := Ecma.js "ABCDEFGHIJKLMNOPQRSTUVWXYZabcdefghijklmnopqrstuvwxyz0123456789+/"

def pad : UInt16 := 0x3D

def digit (n : Nat) : UInt16 := alphabet.getD n 0

-- The value of a digit; '-' and '_' are those of the alphabet for URLs.
def value (unit : UInt16) : Option Nat :=
  if unit = 0x2D then some 62
  else if unit = 0x5F then some 63
  else alphabet.findIdx? (· == unit)

def byte (n : Nat) : UInt8 := UInt8.ofNat n

def fromDigits : List Nat → Bytes
  | a :: b :: c :: d :: rest =>
      byte (a * 4 + b / 16) :: byte (b % 16 * 16 + c / 4) :: byte (c % 4 * 64 + d) :: fromDigits rest
  | [a, b, c] => [byte (a * 4 + b / 16), byte (b % 16 * 16 + c / 4)]
  | [a, b] => [byte (a * 4 + b / 16)]
  | _ => []

/-- Decoding ends at the padding and passes over what is no digit. -/
def decode (text : JsString) : Bytes := fromDigits ((text.takeWhile (· != pad)).filterMap value)

def group (a b c : UInt8) : JsString :=
  [digit (a.toNat / 4), digit (a.toNat % 4 * 16 + b.toNat / 16), digit (b.toNat % 16 * 4 + c.toNat / 64),
    digit (c.toNat % 64)]

def digits : Bytes → JsString
  | a :: b :: c :: rest => group a b c ++ digits rest
  | [a, b] => [digit (a.toNat / 4), digit (a.toNat % 4 * 16 + b.toNat / 16), digit (b.toNat % 16 * 4)]
  | [a] => [digit (a.toNat / 4), digit (a.toNat % 4 * 16)]
  | [] => []

-- The standard encoding, padded to groups of four.
def encode (bytes : Bytes) : JsString := digits bytes ++ List.replicate ((3 - bytes.length % 3) % 3) pad

theorem alphabet_units : alphabet =
    [0x41, 0x42, 0x43, 0x44, 0x45, 0x46, 0x47, 0x48, 0x49, 0x4A, 0x4B, 0x4C, 0x4D, 0x4E, 0x4F, 0x50,
      0x51, 0x52, 0x53, 0x54, 0x55, 0x56, 0x57, 0x58, 0x59, 0x5A, 0x61, 0x62, 0x63, 0x64, 0x65, 0x66,
      0x67, 0x68, 0x69, 0x6A, 0x6B, 0x6C, 0x6D, 0x6E, 0x6F, 0x70, 0x71, 0x72, 0x73, 0x74, 0x75, 0x76,
      0x77, 0x78, 0x79, 0x7A, 0x30, 0x31, 0x32, 0x33, 0x34, 0x35, 0x36, 0x37, 0x38, 0x39, 0x2B, 0x2F] :=
  (Ecma.js_ofList _).trans (by decide +kernel)

theorem digit_mem (n : Nat) (small : n < 64) : digit n ∈ alphabet := by
  have length : alphabet.length = 64 := by rw [alphabet_units]; rfl
  rw [digit, List.getD_eq_getElem?_getD, List.getElem?_eq_getElem (by omega), Option.getD_some]
  exact List.getElem_mem _

theorem digit_index (n : Nat) (small : n < 64) : alphabet.findIdx? (· == digit n) = some n := by
  have all : ∀ n ∈ List.range 64, alphabet.findIdx? (· == digit n) = some n := by
    simp only [digit, alphabet_units]
    decide +kernel
  exact all n (List.mem_range.mpr small)

theorem alphabet_each : ∀ unit ∈ alphabet, unit ≠ 0x2D ∧ unit ≠ 0x5F ∧ (unit != pad) = true := by
  have all : alphabet.all (fun unit => unit != 0x2D && (unit != 0x5F && unit != pad)) = true := by
    rw [alphabet_units]
    decide +kernel
  simpa only [List.all_eq_true, Bool.and_eq_true, bne_iff_ne] using all

theorem pad_index : alphabet.findIdx? (· == pad) = none := by
  rw [List.findIdx?_eq_none_iff]
  intro unit member
  exact bne_iff_ne.mp (alphabet_each unit member).2.2 |> beq_eq_false_iff_ne.mpr

theorem digit_value (n : Nat) (small : n < 64) : value (digit n) = some n ∧ (digit n != pad) = true := by
  obtain ⟨minus, underscore, unpadded⟩ := alphabet_each _ (digit_mem n small)
  rw [value, if_neg minus, if_neg underscore, digit_index n small]
  exact ⟨rfl, unpadded⟩

theorem byte_toNat (n : Nat) (b : UInt8) (same : n = b.toNat) : byte n = b := by
  rw [byte, same, UInt8.ofNat_toNat]

theorem decode_group (a b c : UInt8) (rest : JsString) : decode (group a b c ++ rest) = a :: b :: c :: decode rest := by
  have first := a.toNat_lt
  have second := b.toNat_lt
  have third := c.toNat_lt
  obtain ⟨firstValue, firstDigit⟩ := digit_value (a.toNat / 4) (by omega)
  obtain ⟨secondValue, secondDigit⟩ := digit_value (a.toNat % 4 * 16 + b.toNat / 16) (by omega)
  obtain ⟨thirdValue, thirdDigit⟩ := digit_value (b.toNat % 16 * 4 + c.toNat / 64) (by omega)
  obtain ⟨fourthValue, fourthDigit⟩ := digit_value (c.toNat % 64) (by omega)
  simp only [decode, group, List.cons_append, List.nil_append, List.takeWhile_cons, firstDigit, secondDigit, thirdDigit,
    fourthDigit, if_true, List.filterMap_cons, firstValue, secondValue, thirdValue, fourthValue, fromDigits]
  rw [byte_toNat _ a (by omega), byte_toNat _ b (by omega), byte_toNat _ c (by omega)]

theorem fromDigits_length (values : List Nat) : (fromDigits values).length * 4 ≤ values.length * 3 := by
  match values with
  | [] => simp [fromDigits]
  | [a] => simp [fromDigits]
  | [a, b] => simp [fromDigits]
  | [a, b, c] => simp [fromDigits]
  | a :: b :: c :: d :: rest =>
      have later := fromDigits_length rest
      simp only [fromDigits, List.length_cons]
      omega

theorem decode_length (text : JsString) : (decode text).length * 4 ≤ text.length * 3 := by
  have values := fromDigits_length ((text.takeWhile (· != pad)).filterMap value)
  have kept := List.length_filterMap_le value (text.takeWhile (· != pad))
  have taken := (List.takeWhile_sublist (· != pad) (l := text)).length_le
  unfold decode
  omega

theorem digits_each (property : UInt16 → Prop) (each : ∀ n, n < 64 → property (digit n)) (bytes : Bytes) :
    ∀ unit ∈ digits bytes, property unit := by
  have small : ∀ byte : UInt8, byte.toNat < 256 := fun byte => byte.toNat_lt
  match bytes with
  | [] => simp [digits]
  | [a] =>
      have first := small a
      simp only [digits, List.forall_mem_cons, List.not_mem_nil, false_implies, implies_true, and_true]
      exact ⟨each _ (by omega), each _ (by omega)⟩
  | [a, b] =>
      have first := small a
      have second := small b
      simp only [digits, List.forall_mem_cons, List.not_mem_nil, false_implies, implies_true, and_true]
      exact ⟨each _ (by omega), each _ (by omega), each _ (by omega)⟩
  | a :: b :: c :: rest =>
      have first := small a
      have second := small b
      have third := small c
      simp only [digits, group, List.cons_append, List.nil_append, List.forall_mem_cons]
      exact ⟨each _ (by omega), each _ (by omega), each _ (by omega), each _ (by omega), digits_each property each rest⟩

theorem digits_unpadded (bytes : Bytes) : ∀ unit ∈ digits bytes, unit ≠ pad :=
  digits_each _ (fun n small => by simpa using (digit_value n small).2) bytes

theorem decode_padded (bytes : Bytes) (count : Nat) : decode (digits bytes ++ List.replicate count pad) = bytes := by
  have ended : (List.replicate count pad).takeWhile (· != pad) = [] := by
    cases count with
    | zero => rfl
    | succ count => simp [List.replicate_succ]
  match bytes with
  | [] => simp [digits, decode, ended, fromDigits]
  | [a] =>
      have first := a.toNat_lt
      obtain ⟨firstValue, firstDigit⟩ := digit_value (a.toNat / 4) (by omega)
      obtain ⟨secondValue, secondDigit⟩ := digit_value (a.toNat % 4 * 16) (by omega)
      simp only [decode, digits, List.cons_append, List.nil_append, List.takeWhile_cons, firstDigit, secondDigit, if_true,
        ended, List.filterMap_cons, List.filterMap_nil, firstValue, secondValue, fromDigits]
      rw [byte_toNat _ a (by omega)]
  | [a, b] =>
      have first := a.toNat_lt
      have second := b.toNat_lt
      obtain ⟨firstValue, firstDigit⟩ := digit_value (a.toNat / 4) (by omega)
      obtain ⟨secondValue, secondDigit⟩ := digit_value (a.toNat % 4 * 16 + b.toNat / 16) (by omega)
      obtain ⟨thirdValue, thirdDigit⟩ := digit_value (b.toNat % 16 * 4) (by omega)
      simp only [decode, digits, List.cons_append, List.nil_append, List.takeWhile_cons, firstDigit, secondDigit, thirdDigit,
        if_true, ended, List.filterMap_cons, List.filterMap_nil, firstValue, secondValue, thirdValue, fromDigits]
      rw [byte_toNat _ a (by omega), byte_toNat _ b (by omega)]
  | a :: b :: c :: rest => rw [digits, List.append_assoc, decode_group, decode_padded rest count]

theorem decode_encode (bytes : Bytes) : decode (encode bytes) = bytes := decode_padded bytes _

theorem bitmap_sum (a b c : Nat) (second : b < 256) (third : c < 256) :
    (a <<< 16 ||| b <<< 8) ||| c = a * 65536 + b * 256 + c := by
  have upper : a <<< 16 ||| b <<< 8 = a * 65536 + b * 256 := by
    rw [← Nat.shiftLeft_add_eq_or_of_lt (by rw [Nat.shiftLeft_eq]; omega), Nat.shiftLeft_eq, Nat.shiftLeft_eq]
  have shifted : a * 65536 + b * 256 = (a * 256 + b) <<< 8 := by
    rw [Nat.shiftLeft_eq]
    omega
  rw [upper, shifted, ← Nat.shiftLeft_add_eq_or_of_lt (by omega)]

theorem high_bits (a b : Nat) (second : b < 64) : a <<< 18 ||| b <<< 12 = a * 262144 + b * 4096 := by
  rw [← Nat.shiftLeft_add_eq_or_of_lt (by rw [Nat.shiftLeft_eq]; omega), Nat.shiftLeft_eq, Nat.shiftLeft_eq]

theorem middle_bits (a b c : Nat) (second : b < 64) (third : c < 64) :
    (a <<< 18 ||| b <<< 12) ||| c <<< 6 = a * 262144 + b * 4096 + c * 64 := by
  have shifted : a * 262144 + b * 4096 = (a * 64 + b) <<< 12 := by
    rw [Nat.shiftLeft_eq]
    omega
  rw [high_bits a b second, shifted, ← Nat.shiftLeft_add_eq_or_of_lt (by rw [Nat.shiftLeft_eq]; omega), Nat.shiftLeft_eq c]

theorem all_bits (a b c d : Nat) (second : b < 64) (third : c < 64) (fourth : d < 64) :
    ((a <<< 18 ||| b <<< 12) ||| c <<< 6) ||| d = a * 262144 + b * 4096 + c * 64 + d := by
  have shifted : a * 262144 + b * 4096 + c * 64 = (a * 4096 + b * 64 + c) <<< 6 := by
    rw [Nat.shiftLeft_eq]
    omega
  rw [middle_bits a b c second third, shifted, ← Nat.shiftLeft_add_eq_or_of_lt (by omega)]

theorem masked (bits : Nat) : bits &&& 63 = bits % 64 := Nat.and_two_pow_sub_one_eq_mod bits 6

theorem bitmap_digits (a b c : Nat) (first : a < 256) (second : b < 256) (third : c < 256) :
    ((a <<< 16 ||| b <<< 8) ||| c) >>> 18 &&& 63 = a / 4 ∧
      ((a <<< 16 ||| b <<< 8) ||| c) >>> 12 &&& 63 = a % 4 * 16 + b / 16 ∧
      ((a <<< 16 ||| b <<< 8) ||| c) >>> 6 &&& 63 = b % 16 * 4 + c / 64 ∧
      ((a <<< 16 ||| b <<< 8) ||| c) &&& 63 = c % 64 := by
  rw [bitmap_sum a b c second third, masked, masked, masked, masked]
  refine ⟨?_, ?_, ?_, ?_⟩
  all_goals omega

theorem masked_byte (bits : Nat) : bits &&& 255 = bits % 256 := Nat.and_two_pow_sub_one_eq_mod bits 8

end Base64
