import Kessh.Lib.Base64
import Kessh.Lib.BinaryString

set_option autoImplicit false

-- The Lynx page that encodes text to Base64 and back.
namespace Kessh.Base64ToolPage

open Utf8 (Bytes)
open Ecma (JsString js utf8)
open BinaryString (fromCharCodes)

-- Which of the platform's two classes are there.
structure Environment where
  textEncoder : Bool
  textDecoder : Bool
deriving DecidableEq

-- The bytes that the fallback pushes for one charCodeAt.
def pushed (unit : UInt16) : Bytes :=
  let code := unit.toNat
  if code < 0x80 then [UInt8.ofNat code]
  else if code < 0x800 then [UInt8.ofNat (0xC0 ||| code >>> 6), UInt8.ofNat (0x80 ||| (code &&& 0x3F))]
  else [UInt8.ofNat (0xE0 ||| code >>> 12), UInt8.ofNat (0x80 ||| (code >>> 6 &&& 0x3F)),
    UInt8.ofNat (0x80 ||| (code &&& 0x3F))]

def utf8Encode (environment : Environment) (input : JsString) : Bytes :=
  if environment.textEncoder then utf8 input else input.flatMap pushed

def base64Chars : JsString := js "ABCDEFGHIJKLMNOPQRSTUVWXYZabcdefghijklmnopqrstuvwxyz0123456789+/"

def charAt (index : Nat) : UInt16 := base64Chars.getD index 0

-- One round of the loop; a byte that is missing is -1.
def encodeRound (a b c : Int) : JsString :=
  let buffer := (a.toNat <<< 16 ||| (if b > -1 then b else 0).toNat <<< 8) ||| (if c > -1 then c else 0).toNat
  [charAt (buffer >>> 18 &&& 0x3F), charAt (buffer >>> 12 &&& 0x3F),
    if b > -1 then charAt (buffer >>> 6 &&& 0x3F) else 0x3D, if c > -1 then charAt (buffer &&& 0x3F) else 0x3D]

def encodeFrom : Bytes → JsString
  | a :: b :: c :: rest => encodeRound a.toNat b.toNat c.toNat ++ encodeFrom rest
  | [a, b] => encodeRound a.toNat b.toNat (-1)
  | [a] => encodeRound a.toNat (-1) (-1)
  | [] => []

def base64Encode (environment : Environment) (input : JsString) : JsString := encodeFrom (utf8Encode environment input)

-- The class [A-Za-z0-9+/=]; every other unit is replaced by nothing.
def isKept (unit : UInt16) : Bool :=
  let u := unit.toNat
  (0x41 ≤ u && u ≤ 0x5A) || (0x61 ≤ u && u ≤ 0x7A) || (0x30 ≤ u && u ≤ 0x39) || u == 0x2B || u == 0x2F || u == 0x3D

-- A unit behind the end is the empty text, which indexOf finds at the start.
def indexOf : Option UInt16 → Int
  | none => 0
  | some unit => match base64Chars.findIdx? (· == unit) with
    | some index => index
    | none => -1

def decodeRound (first second third fourth : Option UInt16) : Bytes :=
  let a := indexOf first
  let b := indexOf second
  let c := indexOf third
  let d := indexOf fourth
  if a < 0 || b < 0 then []
  else
    let buffer := ((a.toNat <<< 18 ||| b.toNat <<< 12) ||| (if c > -1 then c else 0).toNat <<< 6) |||
      (if d > -1 then d else 0).toNat
    UInt8.ofNat (buffer >>> 16 &&& 0xFF) ::
      ((if c > -1 && third != some 0x3D then [UInt8.ofNat (buffer >>> 8 &&& 0xFF)] else []) ++
        if d > -1 && fourth != some 0x3D then [UInt8.ofNat (buffer &&& 0xFF)] else [])

def collectFrom : JsString → Bytes
  | a :: b :: c :: d :: rest => decodeRound a b c d ++ collectFrom rest
  | [a, b, c] => decodeRound a b c none
  | [a, b] => decodeRound a b none none
  | [a] => decodeRound a none none none
  | [] => []

-- The bytes that the loop of base64Decode collects.
def collect (input : JsString) : Bytes := collectFrom (input.filter isKept)

-- A decoder made for utf-8 and no more drops a byte order mark at the start of the text.
def textDecode (bytes : Bytes) : JsString :=
  let text := Utf8.decode bytes
  Utf16.encode (if text.head? = some '\uFEFF' then text.tail else text)

def base64Decode (environment : Environment) (input : JsString) : JsString :=
  if environment.textDecoder then textDecode (collect input) else fromCharCodes (collect input)

theorem charAt_digit (n : Nat) : charAt n = Base64.digit n := rfl

theorem indexOf_digit (n : Nat) (small : n < 64) : indexOf (some (Base64.digit n)) = n := by
  have index : base64Chars.findIdx? (· == Base64.digit n) = some n := Base64.digit_index n small
  unfold indexOf
  dsimp only
  rw [index]

theorem encodeRound_three (a b c : UInt8) : encodeRound a.toNat b.toNat c.toNat = Base64.group a b c := by
  obtain ⟨high, upper, lower, low⟩ := Base64.bitmap_digits a.toNat b.toNat c.toNat a.toNat_lt b.toNat_lt c.toNat_lt
  have second : (b.toNat : Int) > -1 := by omega
  have third : (c.toNat : Int) > -1 := by omega
  simp only [encodeRound, charAt_digit, if_pos second, if_pos third, Int.toNat_natCast, high, upper, lower, low]
  rfl

theorem encodeRound_two (a b : UInt8) : encodeRound a.toNat b.toNat (-1) = Base64.digits [a, b] ++ [Base64.pad] := by
  obtain ⟨high, upper, lower, _⟩ := Base64.bitmap_digits a.toNat b.toNat 0 a.toNat_lt b.toNat_lt (by decide)
  have second : (b.toNat : Int) > -1 := by omega
  have missing : ¬ ((-1 : Int) > -1) := by decide
  simp only [encodeRound, charAt_digit, if_pos second, if_neg missing, Int.toNat_natCast, Int.toNat_zero, high, upper, lower]
  rfl

theorem encodeRound_one (a : UInt8) :
    encodeRound a.toNat (-1) (-1) = Base64.digits [a] ++ [Base64.pad, Base64.pad] := by
  obtain ⟨high, upper, _, _⟩ := Base64.bitmap_digits a.toNat 0 0 a.toNat_lt (by decide) (by decide)
  have missing : ¬ ((-1 : Int) > -1) := by decide
  simp only [encodeRound, charAt_digit, if_neg missing, Int.toNat_natCast, Int.toNat_zero, high, upper]
  rfl

theorem encodeFrom_encode (bytes : Bytes) : encodeFrom bytes = Base64.encode bytes := by
  match bytes with
  | [] => rfl
  | [a] => exact encodeRound_one a
  | [a, b] => exact encodeRound_two a b
  | a :: b :: c :: rest =>
      have pads : (3 - (a :: b :: c :: rest).length % 3) % 3 = (3 - rest.length % 3) % 3 := by
        simp only [List.length_cons]
        omega
      rw [encodeFrom, encodeRound_three, encodeFrom_encode rest, Base64.encode, Base64.encode, pads, Base64.digits,
        List.append_assoc]

-- The third and the fourth unit of a round: its six bits, and whether it adds a byte.
def sixBits (unit : Option UInt16) : Nat := (if indexOf unit > -1 then indexOf unit else 0).toNat

def adds (unit : Option UInt16) : Bool := indexOf unit > -1 && unit != some 0x3D

theorem decodeRound_value (p q : Nat) (third fourth : Option UInt16) (ps : p < 64) (qs : q < 64)
    (cs : sixBits third < 64) (ds : sixBits fourth < 64) :
    decodeRound (some (Base64.digit p)) (some (Base64.digit q)) third fourth =
      UInt8.ofNat (p * 4 + q / 16) ::
        ((if adds third then [UInt8.ofNat (q % 16 * 16 + sixBits third / 4)] else []) ++
          if adds fourth then [UInt8.ofNat (sixBits third % 4 * 64 + sixBits fourth)] else []) := by
  have present : ¬ ((decide ((p : Int) < 0) || decide ((q : Int) < 0)) = true) := by
    rw [Bool.or_eq_true, decide_eq_true_eq, decide_eq_true_eq]
    omega
  have word := Base64.all_bits p q (sixBits third) (sixBits fourth) qs cs ds
  unfold decodeRound
  dsimp only
  rw [indexOf_digit p ps, indexOf_digit q qs, if_neg present, Int.toNat_natCast, Int.toNat_natCast]
  rw [sixBits, sixBits] at word
  rw [word, Base64.masked_byte, Base64.masked_byte, Base64.masked_byte]
  have high : (p * 262144 + q * 4096 + sixBits third * 64 + sixBits fourth) >>> 16 % 256 = p * 4 + q / 16 := by omega
  have middle : (p * 262144 + q * 4096 + sixBits third * 64 + sixBits fourth) >>> 8 % 256 =
      q % 16 * 16 + sixBits third / 4 := by omega
  have low : (p * 262144 + q * 4096 + sixBits third * 64 + sixBits fourth) % 256 =
      sixBits third % 4 * 64 + sixBits fourth := by omega
  rw [sixBits, sixBits] at high middle low
  rw [high, middle, low]
  rfl

theorem digit_adds (n : Nat) (small : n < 64) :
    sixBits (some (Base64.digit n)) = n ∧ adds (some (Base64.digit n)) = true := by
  have index := indexOf_digit n small
  have other : Base64.digit n ≠ 0x3D := by simpa [Base64.pad] using (Base64.digit_value n small).2
  constructor
  · rw [sixBits, index, if_pos (by omega), Int.toNat_natCast]
  · have positive : (-1 : Int) < n := by omega
    rw [adds, index]
    simp [other, positive]

theorem indexOf_pad : indexOf (some Base64.pad) = -1 := by
  have index : base64Chars.findIdx? (· == Base64.pad) = none := Base64.pad_index
  unfold indexOf
  dsimp only
  rw [index]

theorem pad_adds : sixBits (some Base64.pad) = 0 ∧ adds (some Base64.pad) = false := by
  rw [sixBits, adds, indexOf_pad]
  decide

theorem missing_adds : sixBits none = 0 ∧ adds none = true := by decide

def padding (bytes : Bytes) : Nat := (3 - bytes.length % 3) % 3

theorem byte_ofNat (n : Nat) (byte : UInt8) (same : n = byte.toNat) : UInt8.ofNat n = byte := Base64.byte_toNat n byte same

theorem decodeRound_three (a b c : UInt8) :
    decodeRound (Base64.digit (a.toNat / 4)) (Base64.digit (a.toNat % 4 * 16 + b.toNat / 16))
      (Base64.digit (b.toNat % 16 * 4 + c.toNat / 64)) (Base64.digit (c.toNat % 64)) = [a, b, c] := by
  have first := a.toNat_lt
  have second := b.toNat_lt
  have third := c.toNat_lt
  obtain ⟨thirdBits, thirdAdds⟩ := digit_adds (b.toNat % 16 * 4 + c.toNat / 64) (by omega)
  obtain ⟨fourthBits, fourthAdds⟩ := digit_adds (c.toNat % 64) (by omega)
  rw [decodeRound_value _ _ _ _ (by omega) (by omega) (by omega) (by omega), thirdBits, fourthBits, thirdAdds, fourthAdds,
    if_pos rfl, if_pos rfl, byte_ofNat _ a (by omega), byte_ofNat _ b (by omega), byte_ofNat _ c (by omega)]
  rfl

theorem decodeRound_two (a b : UInt8) (fourth : Option UInt16) (blank : sixBits fourth = 0) :
    decodeRound (Base64.digit (a.toNat / 4)) (Base64.digit (a.toNat % 4 * 16 + b.toNat / 16))
      (Base64.digit (b.toNat % 16 * 4)) fourth = [a, b] ++ if adds fourth then [0] else [] := by
  have first := a.toNat_lt
  have second := b.toNat_lt
  obtain ⟨thirdBits, thirdAdds⟩ := digit_adds (b.toNat % 16 * 4) (by omega)
  have left : b.toNat % 16 * 4 % 4 * 64 + 0 = 0 := by omega
  rw [decodeRound_value _ _ _ _ (by omega) (by omega) (by omega) (by omega), thirdBits, thirdAdds, blank, left, if_pos rfl,
    byte_ofNat _ a (by omega), byte_ofNat _ b (by omega)]
  rfl

theorem decodeRound_one (a : UInt8) (third fourth : Option UInt16) (blankThird : sixBits third = 0)
    (blankFourth : sixBits fourth = 0) :
    decodeRound (Base64.digit (a.toNat / 4)) (Base64.digit (a.toNat % 4 * 16)) third fourth =
      [a] ++ ((if adds third then [0] else []) ++ if adds fourth then [0] else []) := by
  have first := a.toNat_lt
  have left : a.toNat % 4 * 16 % 16 * 16 + 0 / 4 = 0 := by omega
  rw [decodeRound_value _ _ _ _ (by omega) (by omega) (by omega) (by omega), blankThird, blankFourth, left,
    byte_ofNat _ a (by omega)]
  rfl

theorem collectFrom_digits (bytes : Bytes) (removed : Nat) (some_left : removed ≤ padding bytes) :
    collectFrom (Base64.digits bytes ++ List.replicate (padding bytes - removed) Base64.pad) =
      bytes ++ List.replicate removed 0 := by
  match bytes with
  | [] =>
      obtain rfl : removed = 0 := Nat.le_zero.mp some_left
      rfl
  | [a] =>
      have small : removed ≤ 2 := some_left
      obtain rfl | rfl | rfl : removed = 0 ∨ removed = 1 ∨ removed = 2 := by omega
      · have round := decodeRound_one a (some Base64.pad) (some Base64.pad) pad_adds.1 pad_adds.1
        rw [pad_adds.2] at round
        exact (List.append_nil _).trans round
      · have round := decodeRound_one a (some Base64.pad) none pad_adds.1 missing_adds.1
        rw [pad_adds.2] at round
        exact round
      · exact decodeRound_one a none none missing_adds.1 missing_adds.1
  | [a, b] =>
      have small : removed ≤ 1 := some_left
      obtain rfl | rfl : removed = 0 ∨ removed = 1 := by omega
      · have round := decodeRound_two a b (some Base64.pad) pad_adds.1
        rw [pad_adds.2] at round
        exact (List.append_nil _).trans round
      · exact decodeRound_two a b none missing_adds.1
  | a :: b :: c :: rest =>
      have pads : padding (a :: b :: c :: rest) = padding rest := by
        simp only [padding, List.length_cons]
        omega
      rw [pads] at some_left ⊢
      rw [Base64.digits, Base64.group, List.append_assoc]
      simp only [List.cons_append, List.nil_append]
      rw [collectFrom, decodeRound_three, collectFrom_digits rest removed some_left]
      rfl

theorem digit_kept (n : Nat) (small : n < 64) : isKept (Base64.digit n) = true := by
  have all : Base64.alphabet.all isKept = true := by
    rw [Base64.alphabet_units]
    decide +kernel
  exact List.all_eq_true.mp all _ (Base64.digit_mem n small)

theorem padded_kept (bytes : Bytes) (count : Nat) :
    ∀ unit ∈ Base64.digits bytes ++ List.replicate count Base64.pad, isKept unit = true := by
  intro unit member
  rcases List.mem_append.mp member with digit | pads
  · exact Base64.digits_each (isKept · = true) digit_kept bytes unit digit
  · rw [List.eq_of_mem_replicate pads]
    decide

-- A text with units inserted anywhere that the decoder throws away.
inductive Interspersed : JsString → JsString → Prop
  | nil : Interspersed [] []
  | keep (unit : UInt16) (text longer : JsString) (later : Interspersed text longer) :
      Interspersed (unit :: text) (unit :: longer)
  | insert (unit : UInt16) (text longer : JsString) (foreign : isKept unit = false) (later : Interspersed text longer) :
      Interspersed text (unit :: longer)

theorem interspersed_filter (text longer : JsString) (kept : ∀ unit ∈ text, isKept unit = true)
    (inserted : Interspersed text longer) : longer.filter isKept = text := by
  induction inserted with
  | nil => rfl
  | keep unit text longer later ih =>
      rw [List.filter_cons_of_pos (kept unit List.mem_cons_self),
        ih fun other member => kept other (List.mem_cons_of_mem _ member)]
  | insert unit text longer foreign later ih =>
      rw [List.filter_cons_of_neg (by rw [foreign]; exact Bool.false_ne_true), ih kept]

theorem collect_interspersed (bytes : Bytes) (removed : Nat) (some_left : removed ≤ padding bytes) (text : JsString)
    (inserted : Interspersed
      (Base64.digits bytes ++ List.replicate (padding bytes - removed) Base64.pad) text) :
    collect text = bytes ++ List.replicate removed 0 := by
  rw [collect, interspersed_filter _ text (padded_kept bytes _) inserted, collectFrom_digits bytes removed some_left]

theorem interspersed_self (text : JsString) : Interspersed text text := by
  induction text with
  | nil => exact .nil
  | cons unit rest ih => exact .keep unit rest rest ih

/-- Encoding gives the standard text of the bytes of UTF-8, and decoding collects the bytes of a standard
text with anything inserted that is not in the alphabet. -/
theorem base64_bytes (environment : Environment) (input : JsString) (bytes : Bytes) (text : JsString)
    (encoder : environment.textEncoder = true) (inserted : Interspersed (Base64.encode bytes) text) :
    base64Encode environment input = Base64.encode (utf8 input) ∧ collect text = bytes := by
  constructor
  · rw [base64Encode, utf8Encode, if_pos encoder, encodeFrom_encode]
  · have collected := collect_interspersed bytes 0 (Nat.zero_le _) text inserted
    simpa using collected

theorem base64_bytes_lines : base64Encode ⟨true, true⟩ (js "é") = js "w6k=" ∧ collect (js "w6\nk=-") = [0xC3, 0xA9] := by
  have inserted : Interspersed (Base64.encode [0xC3, 0xA9]) (js "w6\nk=-") :=
    .keep 0x77 _ _ (.keep 0x36 _ _ (.insert 0x0A _ _ (by decide) (.keep 0x6B _ _ (.keep 0x3D _ _
      (.insert 0x2D _ _ (by decide) .nil)))))
  obtain ⟨encoded, collected⟩ := base64_bytes ⟨true, true⟩ (js "é") [0xC3, 0xA9] (js "w6\nk=-") rfl inserted
  exact ⟨encoded.trans (by decide +kernel), collected⟩

/-- Where pads were removed from the end of a standard text, the loop collects the bytes only if none was. -/
theorem base64_unpadded (bytes : Bytes) (removed : Nat) (some_left : removed ≤ padding bytes) :
    collect (Base64.digits bytes ++ List.replicate (padding bytes - removed) Base64.pad) = bytes ↔ removed = 0 := by
  rw [collect_interspersed bytes removed some_left _ (interspersed_self _)]
  constructor
  · intro same
    have lengths := congrArg List.length same
    rw [List.length_append, List.length_replicate] at lengths
    omega
  · rintro rfl
    exact List.append_nil bytes

theorem base64_unpadded_one :
    collect (Base64.digits [0x41] ++ List.replicate (padding [0x41] - 1) Base64.pad) ≠ [0x41] := fun same =>
  absurd ((base64_unpadded [0x41] 1 (by decide)).mp same) (by decide)

-- QQ is a standard text without its two pads.
theorem base64_unpadded_letter :
    Base64.encode [0x41] = js "QQ" ++ [Base64.pad, Base64.pad] ∧ collect (js "QQ") ≠ [0x41] := by
  decide +kernel

end Kessh.Base64ToolPage
