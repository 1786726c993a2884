import Kessh.Lib.BlockCipher
import Kessh.Lib.Columns
import Kessh.Lib.Word32
import Kessh.Store.Keys
import Kessh.Tools.Base64RoundTrip

set_option autoImplicit false

-- The hashes and the encryption of texts that the app offers its stores.
namespace Kessh.SecurityUtils

open BlockCipher (Block Cipher)
open Ecma (JsString js utf8)
open Utf8 (Bytes)
open Word32 (bitXor shiftLeft unsignedShiftRight)

def padStart (width : Nat) (text : JsString) : JsString := List.replicate (width - text.length) 0x30 ++ text

-- toString(16) of a number that is not negative.
def hex (n : Nat) : JsString := Utf16.encode (Nat.toDigits 16 n)

def toHex (bytes : Bytes) : JsString := bytes.flatMap fun byte => padStart 2 (hex byte.toNat)

-- The product is rounded to a double before >>> takes its low bits.
def fallbackRound (h1 h2 : Int) (c : UInt16) : Int × Int :=
  (unsignedShiftRight (Ecma.nearestInt (bitXor h1 c.toNat * 0x01000193)) 0,
    unsignedShiftRight (bitXor (shiftLeft h2 5 - h2) c.toNat) 0)

-- The two words that the loop ends with.
def fallbackWords (data : JsString) : Int × Int :=
  data.foldl (fun h c => fallbackRound h.1 h.2 c) (0x811c9dc5, 0x01000193)

def fallbackHash (data : JsString) : JsString :=
  padStart 8 (hex (fallbackWords data).1.toNat) ++ padStart 8 (hex (fallbackWords data).2.toNat)

-- The platform: SHA-256, the permutation of the blocks that AES makes of a key, its errors, and
-- the Base64 helper, which undoes its own encoding.
structure Platform where
  digestSync : Bytes → Option (Block 32)
  convertKeySync : Block 16 → Except JsString (Cipher 16)
  badIv : JsString
  badFinal : JsString
  decodeSync : JsString → Except JsString Bytes
  keepsMark : Bool
  decoded : ∀ bytes, decodeSync (Base64.encode bytes) = .ok bytes

-- What sha256Hex makes of a text that is not empty.
def digestHex (platform : Platform) (data : JsString) : JsString :=
  match platform.digestSync (utf8 data) with
  | some digest => toHex digest.val
  | none => fallbackHash data

-- parseInt(text, 16), to the byte that a Uint8Array keeps of it; NaN is kept as 0.
def hexByte (text : JsString) : UInt8 :=
  let body := text.dropWhile Ecma.isSpace
  let negative := body.head? == some 0x2D
  let digits := match if negative || body.head? == some 0x2B then body.tail else body with
    | 0x30 :: x :: rest => if x = 0x78 ∨ x = 0x58 then rest else 0x30 :: x :: rest
    | other => other
  match Ecma.parseHex digits with
  | some n => if negative then -UInt8.ofNat n else UInt8.ofNat n
  | none => 0

def keyBytes (keyHash : JsString) : Block 16 :=
  ⟨(List.range 16).map fun i => hexByte ((keyHash.drop (i * 2)).take 2), by simp⟩

def keyOf (platform : Platform) (key : JsString) : Block 16 := keyBytes (sha256Hex (digestHex platform) key)

-- The initialization vector is what sixteen draws of Math.random gave.
def aesEncrypt (platform : Platform) (iv : Block 16) (plaintext key : JsString) : Except JsString JsString :=
  match platform.convertKeySync (keyOf platform key) with
  | .error message => .error (js "加密失败: " ++ message)
  | .ok cipher => .ok (Base64.encode (iv.val ++ BlockCipher.encrypt cipher iv (utf8 plaintext)))

def decodeToString (platform : Platform) (bytes : Bytes) : JsString :=
  if platform.keepsMark then Utf16.encode (Utf8.decode bytes) else Base64ToolPage.textDecode bytes

def opened (platform : Platform) (ciphertext key : JsString) : Except JsString JsString :=
  match platform.decodeSync ciphertext with
  | .error message => .error message
  | .ok combined =>
      match platform.convertKeySync (keyOf platform key) with
      | .error message => .error message
      | .ok cipher =>
          if whole : (combined.take 16).length = 16 then
            match BlockCipher.decrypt cipher ⟨combined.take 16, whole⟩ (combined.drop 16) with
            | some decrypted => .ok (decodeToString platform decrypted)
            | none => .error platform.badFinal
          else .error platform.badIv

def aesDecrypt (platform : Platform) (ciphertext key : JsString) : Except JsString JsString :=
  match opened platform ciphertext key with
  | .ok text => .ok text
  | .error message => .error (js "解密失败: " ++ message)

def digitUnit (n : Nat) : UInt16 := ((hex n).head?).getD 0x30

def fixed : Nat → Nat → JsString
  | 0, _ => []
  | width + 1, n => fixed width (n / 16) ++ [digitUnit (n % 16)]

theorem fixed_length (width n : Nat) : (fixed width n).length = width := by
  induction width generalizing n with
  | zero => rfl
  | succ width ih => rw [fixed, List.length_append, ih, List.length_singleton]

theorem fixed_zero (width : Nat) : fixed width 0 = List.replicate width 0x30 := by
  induction width with
  | zero => rfl
  | succ width ih => rw [fixed, Nat.zero_div, ih, List.replicate_succ']; rfl

theorem fixed_add (first second n : Nat) : fixed (first + second) n = fixed first (n / 16 ^ second) ++ fixed second n := by
  induction second generalizing n with
  | zero => simp [fixed]
  | succ second ih =>
      rw [← Nat.add_assoc, fixed, fixed, ih, Nat.div_div_eq_div_mul, Nat.pow_succ, Nat.mul_comm 16, List.append_assoc]

theorem fixed_mod (width n : Nat) : fixed width (n % 16 ^ width) = fixed width n := by
  induction width generalizing n with
  | zero => rfl
  | succ width ih =>
      have low : n % 16 ^ (width + 1) % 16 = n % 16 := by
        rw [Nat.pow_succ, Nat.mul_comm, Nat.mod_mul_right_mod]
      have high : n % 16 ^ (width + 1) / 16 = n / 16 % 16 ^ width := by
        rw [Nat.pow_succ, Nat.mul_comm, Nat.mod_mul_right_div_self]
      rw [fixed, fixed, low, high, ih]

theorem hex_digit (n : Nat) (small : n < 16) : hex n = [digitUnit n] := by
  have every : ∀ k : Fin 16, hex k.val = [digitUnit k.val] := by decide
  exact every ⟨n, small⟩

theorem hex_succ (n : Nat) (large : ¬ n < 16) : hex n = hex (n / 16) ++ [digitUnit (n % 16)] := by
  have last := hex_digit (n % 16) (Nat.mod_lt n (by decide))
  unfold hex at last ⊢
  rw [Nat.toDigits_of_base_le (by decide) (Nat.le_of_not_lt large), ← last, Nat.toDigits_of_lt_base (Nat.mod_lt n (by decide))]
  exact List.flatMap_append

theorem padStart_hex (width n : Nat) (fits : n < 16 ^ width) (some : 0 < width) : padStart width (hex n) = fixed width n := by
  induction width generalizing n with
  | zero => omega
  | succ width ih =>
      by_cases small : n < 16
      · rw [hex_digit n small, fixed, Nat.div_eq_of_lt small, Nat.mod_eq_of_lt small, fixed_zero]
        rfl
      · have positive : 0 < width := by
          rcases Nat.eq_zero_or_pos width with rfl | positive
          · exact absurd fits small
          · exact positive
        have shorter := ih (n / 16) ((Nat.div_lt_iff_lt_mul (by decide)).mpr (by rwa [← Nat.pow_succ])) positive
        rw [fixed, ← shorter, hex_succ n small, padStart, padStart, List.length_append, List.length_singleton,
          Nat.add_sub_add_right, List.append_assoc]

theorem toHex_fixed (bytes : Bytes) : toHex bytes = bytes.flatMap fun byte => fixed 2 byte.toNat :=
  List.flatMap_congr fun byte _ => padStart_hex 2 byte.toNat byte.toNat_lt (by decide)

def wordBytes (n : Nat) : Bytes :=
  [UInt8.ofNat (n / 16 ^ 6), UInt8.ofNat (n / 16 ^ 4), UInt8.ofNat (n / 16 ^ 2), UInt8.ofNat n]

theorem fixed_byte (n : Nat) : fixed 2 (UInt8.ofNat n).toNat = fixed 2 n := by
  rw [UInt8.toNat_ofNat']
  exact fixed_mod 2 n

theorem word_hex (n : Nat) (small : n < 16 ^ 8) : padStart 8 (hex n) = toHex (wordBytes n) := by
  rw [padStart_hex 8 n small (by decide), toHex_fixed, wordBytes, List.flatMap_cons, List.flatMap_cons, List.flatMap_cons,
    List.flatMap_cons, fixed_byte, fixed_byte, fixed_byte, fixed_byte, fixed_add 2 6, fixed_add 2 4, fixed_add 2 2]
  rfl

theorem unsigned_small (a : Int) : (unsignedShiftRight a 0).toNat < 16 ^ 8 := by
  rw [Word32.unsignedShiftRight_zero, Int.toNat_natCast]
  exact (Word32.word a).isLt

theorem fallbackWords_small (data : JsString) :
    (fallbackWords data).1.toNat < 16 ^ 8 ∧ (fallbackWords data).2.toNat < 16 ^ 8 := by
  unfold fallbackWords
  induction data using List.reverseRecOn with
  | nil => decide
  | append_singleton data c ih =>
      rw [List.foldl_append]
      exact ⟨unsigned_small _, unsigned_small _⟩

theorem fallbackHash_toHex (data : JsString) :
    fallbackHash data = toHex (wordBytes (fallbackWords data).1.toNat ++ wordBytes (fallbackWords data).2.toNat) := by
  obtain ⟨first, second⟩ := fallbackWords_small data
  rw [fallbackHash, word_hex _ first, word_hex _ second, toHex, toHex, toHex, List.flatMap_append]

theorem hexByte_pair (byte : UInt8) : hexByte (fixed 2 byte.toNat) = byte := by
  have every : ((List.range 256).all fun n => hexByte (fixed 2 n) == UInt8.ofNat n) = true := by decide +kernel
  have same := List.all_eq_true.mp every byte.toNat (List.mem_range.mpr byte.toNat_lt)
  rw [beq_iff_eq.mp same, UInt8.ofNat_toNat]

theorem hexByte_nil : hexByte [] = 0 := rfl

theorem hexByte_substring (bytes : Bytes) (i : Nat) :
    hexByte (((toHex bytes).drop (i * 2)).take 2) = bytes.getD i 0 := by
  rw [toHex_fixed]
  induction bytes generalizing i with
  | nil => simp [hexByte_nil]
  | cons byte rest ih =>
      rw [List.flatMap_cons]
      cases i with
      | zero =>
          rw [Nat.zero_mul, List.drop_zero, List.take_left' (fixed_length 2 _), hexByte_pair]
          rfl
      | succ i =>
          rw [Nat.succ_mul, Nat.add_comm, ← List.drop_drop, List.drop_left' (fixed_length 2 _), ih]
          rfl

/-- The key keeps the first sixteen bytes that a hash shows, and zeros where it shows fewer. -/
theorem keyBytes_toHex (bytes : Bytes) :
    (keyBytes (toHex bytes)).val = bytes.take 16 ++ List.replicate (16 - bytes.length) 0 := by
  refine List.ext_getElem ?_ fun i inside within => ?_
  · rw [(keyBytes (toHex bytes)).property, List.length_append, List.length_take, List.length_replicate]
    omega
  · have bound : i < 16 := (keyBytes (toHex bytes)).property ▸ inside
    simp only [keyBytes, List.getElem_map, List.getElem_range, hexByte_substring, List.getElem_append, List.length_take,
      List.getElem_take, List.getElem_replicate, List.getD_eq_getElem?_getD]
    split
    case isTrue short => rw [List.getElem?_eq_getElem (by omega), Option.getD_some]
    case isFalse long => rw [List.getElem?_eq_none (by omega), Option.getD_none]

-- What the key of aesEncrypt and aesDecrypt is, for every platform and every text.
theorem keyOf_bytes (platform : Platform) (key : JsString) :
    (keyOf platform key).val =
      if key.isEmpty then List.replicate 16 0
      else match platform.digestSync (utf8 key) with
        | some digest => digest.val.take 16
        | none => wordBytes (fallbackWords key).1.toNat ++ wordBytes (fallbackWords key).2.toNat ++ List.replicate 8 0 := by
  unfold keyOf sha256Hex digestHex
  by_cases empty : key.isEmpty = true
  · rw [if_pos empty, if_pos empty]
    exact keyBytes_toHex []
  · rw [if_neg empty, if_neg empty]
    cases platform.digestSync (utf8 key) with
    | some digest =>
        dsimp only
        rw [keyBytes_toHex, digest.property]
        exact List.append_nil _
    | none =>
        dsimp only
        rw [fallbackHash_toHex, keyBytes_toHex]
        rfl

theorem aesEncrypt_iff (platform : Platform) (iv : Block 16) (plaintext key sealed : JsString) :
    aesEncrypt platform iv plaintext key = .ok sealed ↔
      ∃ cipher, platform.convertKeySync (keyOf platform key) = .ok cipher ∧
        sealed = Base64.encode (iv.val ++ BlockCipher.encrypt cipher iv (utf8 plaintext)) := by
  unfold aesEncrypt
  cases platform.convertKeySync (keyOf platform key) with
  | error message => simp
  | ok cipher => simp [eq_comm]

theorem opened_iff (platform : Platform) (cipher : Cipher 16) (iv : Block 16) (sealed : Bytes) (ciphertext key text : JsString)
    (made : platform.convertKeySync (keyOf platform key) = .ok cipher)
    (decoded : platform.decodeSync ciphertext = .ok (iv.val ++ sealed)) :
    opened platform ciphertext key = .ok text ↔
      ∃ plain, BlockCipher.encrypt cipher iv plain = sealed ∧ decodeToString platform plain = text := by
  have front : (iv.val ++ sealed).take 16 = iv.val := List.take_left' iv.property
  have back : (iv.val ++ sealed).drop 16 = sealed := List.drop_left' iv.property
  have vector : ∀ whole, (⟨(iv.val ++ sealed).take 16, whole⟩ : Block 16) = iv := fun _ => Subtype.ext front
  unfold opened
  rw [decoded, made]
  dsimp only
  rw [dif_pos (by rw [front, iv.property]), vector, back]
  constructor
  · intro accepted
    cases plain : BlockCipher.decrypt cipher iv sealed with
    | none => simp [plain] at accepted
    | some decrypted =>
        refine ⟨decrypted, (BlockCipher.decrypt_iff (by decide) (by decide) cipher iv sealed decrypted).mp plain, ?_⟩
        simpa [plain] using accepted
  · rintro ⟨plain, rfl, rfl⟩
    rw [BlockCipher.decrypt_encrypt (by decide) (by decide)]

theorem aesDecrypt_opened (platform : Platform) (ciphertext key text : JsString) :
    aesDecrypt platform ciphertext key = .ok text ↔ opened platform ciphertext key = .ok text := by
  unfold aesDecrypt
  cases opened platform ciphertext key <;> simp

/-- Decryption has no check of its own: it accepts the sealings of every byte string under the key, with every
initialization vector in front. -/
theorem aesDecrypt_iff (platform : Platform) (ciphertext key text : JsString) :
    aesDecrypt platform ciphertext key = .ok text ↔
      ∃ cipher iv plain, platform.convertKeySync (keyOf platform key) = .ok cipher ∧
        platform.decodeSync ciphertext = .ok (iv.val ++ BlockCipher.encrypt cipher iv plain) ∧
        text = decodeToString platform plain := by
  rw [aesDecrypt_opened]
  constructor
  · intro accepted
    cases decoded : platform.decodeSync ciphertext with
    | error message => simp [opened, decoded] at accepted
    | ok combined =>
        cases made : platform.convertKeySync (keyOf platform key) with
        | error message => simp [opened, decoded, made] at accepted
        | ok cipher =>
            by_cases whole : (combined.take 16).length = 16
            · have parts : platform.decodeSync ciphertext = .ok ((⟨combined.take 16, whole⟩ : Block 16).val ++ combined.drop 16) := by
                rw [decoded, List.take_append_drop]
              obtain ⟨plain, sealed, rfl⟩ := (opened_iff platform cipher _ _ ciphertext key text made parts).mp accepted
              exact ⟨cipher, ⟨combined.take 16, whole⟩, plain, rfl, by rw [sealed, List.take_append_drop], rfl⟩
            · simp only [opened, decoded, made, dif_neg whole] at accepted
              exact nomatch accepted
  · rintro ⟨cipher, iv, plain, made, decoded, rfl⟩
    exact (opened_iff platform cipher iv _ ciphertext key _ made decoded).mpr ⟨plain, rfl, rfl⟩

theorem decodeToString_iff (platform : Platform) (text : JsString) :
    decodeToString platform (utf8 text) = text ↔
      Utf16.WellFormed text ∧ (platform.keepsMark = false → text.head? ≠ some 0xFEFF) := by
  have encoded : ∀ chars, decodeToString platform (utf8 (Utf16.encode chars)) = Utf16.encode chars ↔
      (platform.keepsMark = false → chars.head? ≠ some '\uFEFF') := by
    intro chars
    unfold decodeToString
    rw [utf8, Utf16.scalars_encode]
    by_cases kept : platform.keepsMark = true
    · rw [if_pos kept, Utf8.decode_encode]
      simp [kept]
    · rw [if_neg kept, Base64ToolPage.textDecode, Utf8.decode_encode, ← Base64ToolPage.dropMark_iff]
      simp only [kept, forall_const]
      exact ⟨Utf16.encode_injective _ _, congrArg Utf16.encode⟩
  constructor
  · intro same
    have wellFormed : Utf16.WellFormed text := by
      rw [← same]
      unfold decodeToString
      split
      · exact ⟨_, rfl⟩
      · exact ⟨_, rfl⟩
    obtain ⟨chars, rfl⟩ := wellFormed
    rw [ne_eq, Base64ToolPage.encode_mark]
    exact ⟨⟨chars, rfl⟩, (encoded chars).mp same⟩
  · rintro ⟨⟨chars, rfl⟩, mark⟩
    rw [ne_eq, Base64ToolPage.encode_mark] at mark
    exact (encoded chars).mpr mark

/-- What was encrypted comes back under the same key exactly if it has no lone surrogate, and no byte order mark
in front that the decoder drops. -/
theorem aesDecrypt_aesEncrypt (platform : Platform) (iv : Block 16) (plaintext key sealed : JsString)
    (made : aesEncrypt platform iv plaintext key = .ok sealed) :
    aesDecrypt platform sealed key = .ok plaintext ↔
      Utf16.WellFormed plaintext ∧ (platform.keepsMark = false → plaintext.head? ≠ some 0xFEFF) := by
  obtain ⟨cipher, converted, rfl⟩ := (aesEncrypt_iff platform iv plaintext key sealed).mp made
  rw [aesDecrypt_opened, opened_iff platform cipher iv _ _ key plaintext converted (platform.decoded _), ← decodeToString_iff]
  constructor
  · rintro ⟨plain, same, decoded⟩
    have opened := (BlockCipher.decrypt_iff (by decide) (by decide) cipher iv _ plain).mpr same
    rw [BlockCipher.decrypt_encrypt (by decide) (by decide)] at opened
    rw [Option.some.inj opened, decoded]
  · intro decoded
    exact ⟨utf8 plaintext, rfl, decoded⟩

-- A platform with the two blocks that AES makes of these two under the key of the empty text.
def firstSealed : Block 16 :=
  ⟨[0x66, 0xE9, 0x4B, 0xD4, 0xEF, 0x8A, 0x2C, 0x3B, 0x88, 0x4C, 0xFA, 0x59, 0xCA, 0x34, 0x2B, 0x2E], rfl⟩

def secondBlock : Block 16 :=
  ⟨[0x76, 0xF9, 0x5B, 0xC4, 0xFF, 0x9A, 0x3C, 0x2B, 0x98, 0x5C, 0xEA, 0x49, 0xDA, 0x24, 0x3B, 0x3E], rfl⟩

def secondSealed : Block 16 :=
  ⟨[0x94, 0x34, 0xDE, 0xC2, 0xD0, 0x0F, 0xDA, 0xC7, 0x65, 0xF0, 0x0C, 0x0C, 0x11, 0x62, 0x8C, 0xD1], rfl⟩

def twoBlocks : Platform where
  digestSync _ := none
  convertKeySync _ := .ok ((Equiv.swap Block.zero firstSealed).trans (Equiv.swap secondBlock secondSealed))
  badIv := []
  badFinal := []
  decodeSync text := .ok (Base64.decode text)
  keepsMark := true
  decoded bytes := congrArg Except.ok (Base64.decode_encode bytes)

def digitsIv : Block 16 :=
  ⟨[0x30, 0x31, 0x32, 0x33, 0x34, 0x35, 0x36, 0x37, 0x38, 0x39, 0x61, 0x62, 0x63, 0x64, 0x65, 0x66], rfl⟩

theorem twoBlocks_sealed : aesEncrypt twoBlocks digitsIv (js "0123456789abcdef") [] =
    .ok (js "MDEyMzQ1Njc4OWFiY2RlZmbpS9Tviiw7iEz6Wco0Ky6UNN7C0A/ax2XwDAwRYozR") := by decide +kernel

theorem aesDecrypt_aesEncrypt_digits :
    aesDecrypt twoBlocks (js "MDEyMzQ1Njc4OWFiY2RlZmbpS9Tviiw7iEz6Wco0Ky6UNN7C0A/ax2XwDAwRYozR") [] =
      .ok (js "0123456789abcdef") :=
  (aesDecrypt_aesEncrypt twoBlocks digitsIv _ [] _ twoBlocks_sealed).mpr ⟨⟨"0123456789abcdef".toList, rfl⟩, nofun⟩

-- A sealed text with a mask laid over its first sixteen bytes: nothing here depends on the key.
def tampered (mask : Block 16) (sealed : JsString) : JsString :=
  Base64.encode (BlockCipher.masked mask (Base64.decode sealed))

/-- Whoever lays a mask over the first bytes of a sealed text has laid it over the first bytes of the plain text. -/
theorem aesDecrypt_tampered (platform : Platform) (iv mask : Block 16) (plaintext key sealed : JsString)
    (made : aesEncrypt platform iv plaintext key = .ok sealed) (long : 16 ≤ (utf8 plaintext).length) :
    aesDecrypt platform (tampered mask sealed) key =
      .ok (decodeToString platform (BlockCipher.masked mask (utf8 plaintext))) := by
  obtain ⟨cipher, converted, rfl⟩ := (aesEncrypt_iff platform iv plaintext key sealed).mp made
  have front : ∀ rest, BlockCipher.masked mask (iv.val ++ rest) = (iv.xor mask).val ++ rest := by
    intro rest
    rw [BlockCipher.masked, List.take_left' iv.property, List.drop_left' iv.property]
    rfl
  have parts : platform.decodeSync (tampered mask (Base64.encode (iv.val ++ BlockCipher.encrypt cipher iv (utf8 plaintext)))) =
      .ok ((iv.xor mask).val ++ BlockCipher.encrypt cipher iv (utf8 plaintext)) := by
    rw [tampered, Base64.decode_encode, platform.decoded, front]
  rw [aesDecrypt_opened, opened_iff platform cipher (iv.xor mask) _ _ key _ converted parts]
  exact ⟨_, BlockCipher.encrypt_masked (by decide) cipher iv mask _ long, rfl⟩

theorem aesDecrypt_tampered_digits :
    aesDecrypt twoBlocks (tampered digitsIv (js "MDEyMzQ1Njc4OWFiY2RlZmbpS9Tviiw7iEz6Wco0Ky6UNN7C0A/ax2XwDAwRYozR")) [] =
      .ok (decodeToString twoBlocks (BlockCipher.masked digitsIv (utf8 (js "0123456789abcdef")))) :=
  aesDecrypt_tampered twoBlocks digitsIv digitsIv _ [] _ twoBlocks_sealed (by decide)

end Kessh.SecurityUtils
