import Mathlib.Logic.Equiv.Defs
import Mathlib.Data.List.Basic

set_option autoImplicit false

-- Block ciphers on byte strings: cutting into blocks, cipher block chaining, and the
-- padding that names its own length.
namespace BlockCipher

abbrev Bytes := List UInt8

abbrev Block (size : Nat) := { bytes : Bytes // bytes.length = size }

variable {size : Nat}

def Block.xor (left right : Block size) : Block size :=
  ⟨List.zipWith (· ^^^ ·) left.val right.val, by simp [left.property, right.property]⟩

def Block.zero : Block size := ⟨List.replicate size 0, List.length_replicate⟩

theorem zipWith_undo (left right : Bytes) (same : left.length = right.length) :
    List.zipWith (· ^^^ ·) (List.zipWith (· ^^^ ·) left right) right = left := by
  induction left generalizing right with
  | nil => simp
  | cons byte left ih =>
      cases right with
      | nil => simp at same
      | cons other right =>
          have shorter : left.length = right.length := by simpa using same
          rw [List.zipWith_cons_cons, List.zipWith_cons_cons, ih right shorter, UInt8.xor_assoc, UInt8.xor_self,
            UInt8.xor_zero]

@[simp] theorem xor_undo (left right : Block size) : (left.xor right).xor right = left :=
  Subtype.ext (zipWith_undo left.val right.val (left.property.trans right.property.symm))

theorem xor_comm (left right : Block size) : left.xor right = right.xor left :=
  Subtype.ext (List.zipWith_comm_of_comm fun a b => UInt8.xor_comm a b)

theorem zipWith_assoc (first second third : Bytes) :
    List.zipWith (· ^^^ ·) (List.zipWith (· ^^^ ·) first second) third =
      List.zipWith (· ^^^ ·) first (List.zipWith (· ^^^ ·) second third) := by
  induction first generalizing second third with
  | nil => simp
  | cons a first ih =>
      cases second with
      | nil => simp
      | cons b second =>
          cases third with
          | nil => simp
          | cons c third =>
              simp only [List.zipWith_cons_cons, UInt8.xor_assoc]
              rw [ih]

theorem xor_assoc (first second third : Block size) : (first.xor second).xor third = first.xor (second.xor third) :=
  Subtype.ext (zipWith_assoc first.val second.val third.val)

-- Under one key a block cipher permutes the blocks.
abbrev Cipher (size : Nat) := Equiv.Perm (Block size)

-- Cipher block chaining: every block is enciphered together with the one sealed before it.
def chain (cipher : Cipher size) : Block size → List (Block size) → List (Block size)
  | _, [] => []
  | previous, block :: rest => cipher (block.xor previous) :: chain cipher (cipher (block.xor previous)) rest

def unchain (cipher : Cipher size) : Block size → List (Block size) → List (Block size)
  | _, [] => []
  | previous, block :: rest => (cipher.symm block).xor previous :: unchain cipher block rest

theorem unchain_chain (cipher : Cipher size) (previous : Block size) (blocks : List (Block size)) :
    unchain cipher previous (chain cipher previous blocks) = blocks := by
  induction blocks generalizing previous with
  | nil => rfl
  | cons block rest ih => rw [chain, unchain, Equiv.symm_apply_apply, xor_undo, ih]

theorem chain_unchain (cipher : Cipher size) (previous : Block size) (blocks : List (Block size)) :
    chain cipher previous (unchain cipher previous blocks) = blocks := by
  induction blocks generalizing previous with
  | nil => rfl
  | cons block rest ih => rw [unchain, chain, xor_undo, Equiv.apply_symm_apply, ih]

theorem chain_length (cipher : Cipher size) (previous : Block size) (blocks : List (Block size)) :
    (chain cipher previous blocks).length = blocks.length := by
  induction blocks generalizing previous with
  | nil => rfl
  | cons block rest ih => rw [chain, List.length_cons, List.length_cons, ih]

theorem unchain_length (cipher : Cipher size) (previous : Block size) (blocks : List (Block size)) :
    (unchain cipher previous blocks).length = blocks.length := by
  rw [← chain_length cipher previous, chain_unchain]

def join (blocks : List (Block size)) : Bytes := blocks.flatMap Subtype.val

def cut (size : Nat) : Nat → Bytes → List (Block size)
  | 0, _ => []
  | count + 1, bytes =>
      if whole : (bytes.take size).length = size then ⟨bytes.take size, whole⟩ :: cut size count (bytes.drop size) else []

theorem join_cons (block : Block size) (rest : List (Block size)) : join (block :: rest) = block.val ++ join rest := rfl

theorem join_length (blocks : List (Block size)) : (join blocks).length = blocks.length * size := by
  induction blocks with
  | nil => simp [join]
  | cons block rest ih => rw [join_cons, List.length_append, ih, block.property, List.length_cons, Nat.succ_mul, Nat.add_comm]

theorem cut_join (blocks : List (Block size)) : cut size blocks.length (join blocks) = blocks := by
  induction blocks with
  | nil => rfl
  | cons block rest ih =>
      have front : (join (block :: rest)).take size = block.val := by
        rw [join_cons]
        exact List.take_left' block.property
      have back : (join (block :: rest)).drop size = join rest := by
        rw [join_cons]
        exact List.drop_left' block.property
      rw [List.length_cons, cut, dif_pos (front ▸ block.property), back, ih]
      exact congrArg (· :: rest) (Subtype.ext front)

theorem join_cut (count : Nat) (bytes : Bytes) (whole : bytes.length = count * size) : join (cut size count bytes) = bytes := by
  induction count generalizing bytes with
  | zero =>
      rw [Nat.zero_mul] at whole
      obtain rfl := List.length_eq_zero_iff.mp whole
      rfl
  | succ count ih =>
      rw [Nat.succ_mul] at whole
      have front : (bytes.take size).length = size := by rw [List.length_take]; omega
      have back : (bytes.drop size).length = count * size := by rw [List.length_drop]; omega
      rw [cut, dif_pos front, join_cons, ih _ back]
      exact List.take_append_drop size bytes

-- PKCS #7: as many bytes as are missing to the next block, at least one, each of them that number.
def missing (size : Nat) (bytes : Bytes) : Nat := size - bytes.length % size

def pad (size : Nat) (bytes : Bytes) : Bytes :=
  bytes ++ List.replicate (missing size bytes) (UInt8.ofNat (missing size bytes))

def unpad (size : Nat) (bytes : Bytes) : Option Bytes :=
  match bytes.getLast? with
  | none => none
  | some final =>
      let kept := bytes.length - final.toNat
      if 0 < final.toNat ∧ final.toNat ≤ size ∧ final.toNat ≤ bytes.length ∧
          bytes.drop kept = List.replicate final.toNat final then some (bytes.take kept)
      else none

section Padding

variable (positive : 0 < size) (small : size < 256)
include positive

theorem missing_bounds (bytes : Bytes) : 0 < missing size bytes ∧ missing size bytes ≤ size := by
  have rest := Nat.mod_lt bytes.length positive
  unfold missing
  omega

theorem pad_length (bytes : Bytes) : (pad size bytes).length = (bytes.length / size + 1) * size := by
  have rest := Nat.mod_lt bytes.length positive
  have parts := Nat.div_add_mod bytes.length size
  unfold pad missing
  rw [List.length_append, List.length_replicate, Nat.succ_mul, Nat.mul_comm]
  omega

include small

theorem missing_byte (bytes : Bytes) : (UInt8.ofNat (missing size bytes)).toNat = missing size bytes := by
  have bounds := missing_bounds positive bytes
  rw [UInt8.toNat_ofNat']
  exact Nat.mod_eq_of_lt (by omega)

omit small in
theorem pad_last (bytes : Bytes) : (pad size bytes).getLast? = some (UInt8.ofNat (missing size bytes)) := by
  have bounds := missing_bounds positive bytes
  unfold pad
  rw [List.getLast?_append, List.getLast?_replicate, if_neg (by omega), Option.some_or]

theorem unpad_pad (bytes : Bytes) : unpad size (pad size bytes) = some bytes := by
  have bounds := missing_bounds positive bytes
  have length : (pad size bytes).length - missing size bytes = bytes.length := by
    unfold pad
    rw [List.length_append, List.length_replicate, Nat.add_sub_cancel]
  have front : (pad size bytes).take bytes.length = bytes := List.take_left' rfl
  have back : (pad size bytes).drop bytes.length =
      List.replicate (missing size bytes) (UInt8.ofNat (missing size bytes)) := List.drop_left' rfl
  have enough : missing size bytes ≤ (pad size bytes).length := by
    unfold pad
    rw [List.length_append, List.length_replicate]
    omega
  unfold unpad
  rw [pad_last positive bytes]
  dsimp only
  rw [missing_byte positive small bytes, length, front, back, if_pos ⟨bounds.1, bounds.2, enough, rfl⟩]

/-- Of the texts that fill their blocks, unpadding accepts the padded ones only. -/
theorem unpad_iff (bytes text : Bytes) (whole : bytes.length % size = 0) :
    unpad size bytes = some text ↔ pad size text = bytes := by
  constructor
  · intro accepted
    unfold unpad at accepted
    cases last : bytes.getLast? with
    | none => simp [last] at accepted
    | some final =>
        rw [last] at accepted
        dsimp only at accepted
        split at accepted
        case isFalse => simp at accepted
        case isTrue marked =>
            obtain ⟨one, fits, inside, same⟩ := marked
            obtain rfl := Option.some.inj accepted
            have length : (bytes.take (bytes.length - final.toNat)).length = bytes.length - final.toNat := by
              rw [List.length_take]
              omega
            have number : missing size (bytes.take (bytes.length - final.toNat)) = final.toNat := by
              obtain ⟨count, blocks⟩ := Nat.dvd_of_mod_eq_zero whole
              have most : size ≤ bytes.length := Nat.le_of_dvd (by omega) (Nat.dvd_of_mod_eq_zero whole)
              unfold missing
              rw [length]
              rcases Nat.lt_or_ge final.toNat size with less | least
              · have shifted : bytes.length - final.toNat = size - final.toNat + size * (count - 1) := by
                  have cut : size * count = size + size * (count - 1) := by
                    cases count with
                    | zero => omega
                    | succ count => rw [Nat.mul_succ, Nat.add_sub_cancel, Nat.add_comm]
                  omega
                rw [shifted, Nat.add_mul_mod_self_left, Nat.mod_eq_of_lt (by omega)]
                omega
              · have exactly : final.toNat = size := by omega
                rw [exactly, ← Nat.mod_eq_sub_mod most, whole, Nat.sub_zero]
            unfold pad
            rw [number, UInt8.ofNat_toNat, ← same, List.take_append_drop]
  · rintro rfl
    exact unpad_pad positive small text

end Padding

def encrypt (cipher : Cipher size) (iv : Block size) (text : Bytes) : Bytes :=
  join (chain cipher iv (cut size ((pad size text).length / size) (pad size text)))

def decrypt (cipher : Cipher size) (iv : Block size) (sealed : Bytes) : Option Bytes :=
  if sealed.length % size = 0 then unpad size (join (unchain cipher iv (cut size (sealed.length / size) sealed))) else none

theorem whole_blocks (bytes : Bytes) (whole : bytes.length % size = 0) : join (cut size (bytes.length / size) bytes) = bytes :=
  join_cut _ bytes (Nat.div_mul_cancel (Nat.dvd_of_mod_eq_zero whole)).symm

section Texts

variable (positive : 0 < size) (small : size < 256)
include positive

theorem join_blocks (blocks : List (Block size)) : cut size ((join blocks).length / size) (join blocks) = blocks := by
  rw [join_length, Nat.mul_div_cancel _ positive, cut_join]

theorem pad_whole (text : Bytes) : (pad size text).length % size = 0 := by
  rw [pad_length positive, Nat.mul_mod_left]

theorem encrypt_length (cipher : Cipher size) (iv : Block size) (text : Bytes) :
    (encrypt cipher iv text).length = (text.length / size + 1) * size := by
  have blocks := whole_blocks _ (pad_whole positive text)
  unfold encrypt
  rw [join_length, chain_length, ← join_length, blocks, pad_length positive]

include small

/-- Deciphering accepts exactly what enciphering under the same key and the same first block can have made. -/
theorem decrypt_iff (cipher : Cipher size) (iv : Block size) (sealed text : Bytes) :
    decrypt cipher iv sealed = some text ↔ encrypt cipher iv text = sealed := by
  constructor
  · intro opened
    unfold decrypt at opened
    by_cases whole : sealed.length % size = 0
    · rw [if_pos whole] at opened
      have length : (join (unchain cipher iv (cut size (sealed.length / size) sealed))).length = sealed.length := by
        rw [join_length, unchain_length, ← join_length, whole_blocks sealed whole]
      have padded := (unpad_iff positive small _ text (by rw [length]; exact whole)).mp opened
      unfold encrypt
      rw [padded, join_blocks positive, chain_unchain, whole_blocks sealed whole]
    · rw [if_neg whole] at opened
      exact nomatch opened
  · rintro rfl
    have whole : (encrypt cipher iv text).length % size = 0 := by
      rw [encrypt_length positive, Nat.mul_mod_left]
    unfold decrypt
    rw [if_pos whole]
    unfold encrypt
    rw [join_blocks positive, unchain_chain, whole_blocks _ (pad_whole positive text), unpad_pad positive small]

theorem decrypt_encrypt (cipher : Cipher size) (iv : Block size) (text : Bytes) :
    decrypt cipher iv (encrypt cipher iv text) = some text := (decrypt_iff positive small cipher iv _ text).mpr rfl

def masked (mask : Block size) (text : Bytes) : Bytes :=
  List.zipWith (· ^^^ ·) (text.take size) mask.val ++ text.drop size

omit positive small in
theorem masked_length (mask : Block size) (text : Bytes) (long : size ≤ text.length) :
    (masked mask text).length = text.length := by
  rw [masked, List.length_append, List.length_zipWith, List.length_take, List.length_drop, mask.property]
  omega

omit positive small in
theorem masked_append (mask : Block size) (text rest : Bytes) (long : size ≤ text.length) :
    masked mask (text ++ rest) = masked mask text ++ rest := by
  rw [masked, masked, List.take_append_of_le_length long, List.drop_append_of_le_length long, List.append_assoc]

omit positive small in
theorem masked_join (mask block : Block size) (rest : List (Block size)) :
    masked mask (join (block :: rest)) = join (block.xor mask :: rest) := by
  rw [masked, join_cons, List.take_left' block.property, List.drop_left' block.property]
  rfl

omit small in
/-- The same mask on the initialization vector and on the first block leaves what is sealed as it is. -/
theorem encrypt_masked (cipher : Cipher size) (iv mask : Block size) (text : Bytes) (long : size ≤ text.length) :
    encrypt cipher (iv.xor mask) (masked mask text) = encrypt cipher iv text := by
  have same : pad size (masked mask text) = masked mask (pad size text) := by
    unfold pad missing
    rw [masked_length mask text long, masked_append mask text _ long]
  obtain ⟨block, rest, blocks⟩ : ∃ block rest, cut size ((pad size text).length / size) (pad size text) = block :: rest := by
    have some : (pad size text).length / size = text.length / size + 1 := by
      rw [pad_length positive, Nat.mul_div_cancel _ positive]
    have front : ((pad size text).take size).length = size := by
      rw [List.length_take, pad, List.length_append]
      omega
    rw [some, cut, dif_pos front]
    exact ⟨_, _, rfl⟩
  have whole : pad size text = join (block :: rest) := by
    rw [← blocks, whole_blocks _ (pad_whole positive text)]
  unfold encrypt
  rw [blocks, same, whole, masked_join, join_blocks positive, chain, chain]
  have cancelled : (block.xor mask).xor (iv.xor mask) = block.xor iv := by
    rw [xor_assoc, ← xor_assoc mask iv mask, xor_comm mask iv, xor_undo]
  rw [cancelled]

end Texts

end BlockCipher
