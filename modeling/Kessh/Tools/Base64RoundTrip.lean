import Kessh.Tools.Base64Tool

set_option autoImplicit false

namespace Kessh.Base64ToolPage

open Utf8 (Bytes)
open Ecma (JsString js utf8)
open BinaryString (fromCharCodes)

theorem collect_encoded (environment : Environment) (input : JsString) :
    collect (base64Encode environment input) = utf8Encode environment input := by
  have collected := collect_interspersed (utf8Encode environment input) 0 (Nat.zero_le _) _ (interspersed_self _)
  rw [base64Encode, encodeFrom_encode]
  exact collected.trans (List.append_nil _)

theorem tagged (tag part bits : Nat) (small : part < 1 <<< bits) : tag <<< bits ||| part = part + tag <<< bits := by
  rw [Nat.one_shiftLeft] at small
  rw [← Nat.shiftLeft_add_eq_or_of_lt small, Nat.add_comm]

theorem pushed_short (unit : UInt16) (ascii : unit.toNat < 0x80) : pushed unit = [UInt8.ofNat unit.toNat] := if_pos ascii

theorem pushed_two (unit : UInt16) (long : ¬ unit.toNat < 0x80) (short : unit.toNat < 0x800) :
    pushed unit = [UInt8.ofNat (unit.toNat / 64 + 192), UInt8.ofNat (unit.toNat % 64 + 128)] := by
  have lead : 0xC0 ||| unit.toNat >>> 6 = unit.toNat >>> 6 + 192 := tagged 3 _ 6 (by omega)
  have last : 0x80 ||| unit.toNat % 64 = unit.toNat % 64 + 128 := tagged 2 _ 6 (by omega)
  unfold pushed
  dsimp only
  rw [if_neg long, if_pos short, Base64.masked, lead, last, Nat.shiftRight_eq_div_pow]

theorem pushed_three (unit : UInt16) (long : ¬ unit.toNat < 0x800) :
    pushed unit = [UInt8.ofNat (unit.toNat / 4096 + 224), UInt8.ofNat (unit.toNat / 64 % 64 + 128),
      UInt8.ofNat (unit.toNat % 64 + 128)] := by
  have range := unit.toNat_lt
  have lead : 0xE0 ||| unit.toNat >>> 12 = unit.toNat >>> 12 + 224 := tagged 14 _ 4 (by omega)
  have middle : 0x80 ||| unit.toNat >>> 6 % 64 = unit.toNat >>> 6 % 64 + 128 := tagged 2 _ 6 (by omega)
  have last : 0x80 ||| unit.toNat % 64 = unit.toNat % 64 + 128 := tagged 2 _ 6 (by omega)
  unfold pushed
  dsimp only
  rw [if_neg (by omega), if_neg long, Base64.masked, Base64.masked, lead, middle, last, Nat.shiftRight_eq_div_pow,
    Nat.shiftRight_eq_div_pow]

theorem pushed_basic (c : Char) (basic : c.toNat < 0x10000) :
    (Utf16.units c).flatMap pushed = String.utf8EncodeChar c := by
  have value : c.val.toNat = c.toNat := rfl
  obtain ⟨unit, same, number, _, _⟩ := Utf16.units_basic c basic
  rw [same, List.flatMap_singleton]
  unfold String.utf8EncodeChar
  simp only [value]
  by_cases one : c.toNat ≤ 127
  · rw [if_pos one, pushed_short unit (by omega), number]
  rw [if_neg one]
  by_cases two : c.toNat ≤ 2047
  · rw [if_pos two, pushed_two unit (by omega) (by omega), number, Nat.mod_eq_of_lt (by omega : c.toNat / 64 < 32)]
  · rw [if_neg two, if_pos (by omega), pushed_three unit (by omega), number,
      Nat.mod_eq_of_lt (by omega : c.toNat / 4096 < 16)]

theorem decode_surrogate (unit : UInt16) (rest : Bytes) (lower : 0xD800 ≤ unit.toNat) (upper : unit.toNat < 0xE000) :
    Utf8.decodeFrom none (pushed unit ++ rest) = List.replicate 3 Utf16.replacement ++ Utf8.decodeFrom none rest := by
  have second := Utf8.byte_value (unit.toNat / 64 % 64 + 128) (by omega)
  have third := Utf8.byte_value (unit.toNat % 64 + 128) (by omega)
  have lead : unit.toNat / 4096 + 224 = 0xED := by omega
  have secondAlone := Utf8.first_continuation (UInt8.ofNat (unit.toNat / 64 % 64 + 128))
    ((Utf8.continuation_iff _).mpr (by omega))
  have thirdAlone := Utf8.first_continuation (UInt8.ofNat (unit.toNat % 64 + 128))
    ((Utf8.continuation_iff _).mpr (by omega))
  have outside : ¬ (0x80 ≤ (UInt8.ofNat (unit.toNat / 64 % 64 + 128)).toNat ∧
      (UInt8.ofNat (unit.toNat / 64 % 64 + 128)).toNat ≤ 0x9F) := by omega
  rw [pushed_three unit (by omega), lead, List.cons_append, List.cons_append, List.singleton_append,
    Utf8.decode_lead _ _ ⟨0xD, 1, 0x80, 0x9F, by decide, by decide⟩ rfl, Utf8.decodeFrom]
  simp only [Utf8.next, if_neg outside, secondAlone]
  rw [Utf8.decodeFrom]
  simp only [Utf8.next, thirdAlone]
  rfl

-- What the decoder makes of the fallback's bytes for a character.
def garbled (c : Char) : List Char := if c.toNat < 0x10000 then [c] else List.replicate 6 Utf16.replacement

theorem decode_garbled (c : Char) (rest : Bytes) :
    Utf8.decodeFrom none ((Utf16.units c).flatMap pushed ++ rest) = garbled c ++ Utf8.decodeFrom none rest := by
  by_cases basic : c.toNat < 0x10000
  · rw [pushed_basic c basic, Utf8.decode_char, garbled, if_pos basic]
    rfl
  · have range := Utf16.char_range c
    obtain ⟨high, low, same, highNumber, lowNumber, _, _⟩ := Utf16.units_supplementary c basic
    rw [same, List.flatMap_cons, List.flatMap_singleton, List.append_assoc, decode_surrogate high _ (by omega) (by omega),
      decode_surrogate low _ (by omega) (by omega), garbled, if_neg basic]
    rfl

theorem decode_fallback (text : List Char) :
    Utf8.decode ((Utf16.encode text).flatMap pushed) = text.flatMap garbled := by
  induction text with
  | nil => rfl
  | cons c rest ih =>
      rw [Utf8.decode] at ih ⊢
      rw [Utf16.encode_cons, List.flatMap_append, decode_garbled, ih]
      rfl

theorem garbled_basic (text : List Char) (basic : ∀ c ∈ text, c.toNat < 0x10000) : text.flatMap garbled = text := by
  refine (List.flatMap_congr fun c member => ?_).trans (List.flatMap_singleton' text)
  exact if_pos (basic c member)

theorem garbled_length (text : List Char) :
    (text.flatMap garbled).length = text.length + 5 * text.countP fun c => !decide (c.toNat < 0x10000) := by
  induction text with
  | nil => rfl
  | cons c rest ih =>
      rw [List.flatMap_cons, List.length_append, ih, List.countP_cons, List.length_cons, garbled]
      by_cases basic : c.toNat < 0x10000
      · rw [if_pos basic]
        simp only [basic, decide_true, Bool.not_true, Bool.false_eq_true, if_false, List.length_singleton]
        omega
      · rw [if_neg basic]
        simp only [basic, decide_false, Bool.not_false, if_true, List.length_replicate]
        omega

def dropMark (text : List Char) : List Char := if text.head? = some '\uFEFF' then text.tail else text

theorem dropMark_iff (text : List Char) : dropMark text = text ↔ text.head? ≠ some '\uFEFF' := by
  unfold dropMark
  by_cases mark : text.head? = some '\uFEFF'
  · rw [if_pos mark]
    refine iff_of_false (fun same => ?_) fun other => other mark
    cases text with
    | nil => cases mark
    | cons c rest => exact List.cons_ne_self c rest same.symm
  · rw [if_neg mark]
    exact iff_of_true rfl mark

theorem dropMark_garbled_iff (text : List Char) :
    dropMark (text.flatMap garbled) = text ↔ text.head? ≠ some '\uFEFF' ∧ ∀ c ∈ text, c.toNat < 0x10000 := by
  have kept : (∀ c ∈ text, c.toNat < 0x10000) → text.flatMap garbled = text := garbled_basic text
  constructor
  · intro same
    have most : (text.flatMap garbled).length ≤ (dropMark (text.flatMap garbled)).length + 1 := by
      unfold dropMark
      split
      · rw [List.length_tail]
        omega
      · exact Nat.le_succ _
    rw [same, garbled_length] at most
    have none : (text.countP fun c => !decide (c.toNat < 0x10000)) = 0 := by omega
    have basic : ∀ c ∈ text, c.toNat < 0x10000 := fun c member => by
      simpa using List.countP_eq_zero.mp none c member
    rw [kept basic] at same
    exact ⟨(dropMark_iff text).mp same, basic⟩
  · rintro ⟨mark, basic⟩
    rw [kept basic]
    exact (dropMark_iff text).mpr mark

theorem encode_mark (text : List Char) : (Utf16.encode text).head? = some 0xFEFF ↔ text.head? = some '\uFEFF' := by
  cases text with
  | nil => simp
  | cons c rest =>
      have mark : c = '\uFEFF' ↔ c.toNat = 0xFEFF := by rw [← Char.toNat_inj]; rfl
      rw [Utf16.encode_cons, List.head?_cons, Option.some.injEq, mark]
      by_cases basic : c.toNat < 0x10000
      · obtain ⟨unit, same, number, _, _⟩ := Utf16.units_basic c basic
        rw [same, List.singleton_append, List.head?_cons, Option.some.injEq, ← UInt16.toNat_inj, number]
        rfl
      · obtain ⟨high, low, same, _, _, isHigh, _⟩ := Utf16.units_supplementary c basic
        rw [same, List.cons_append, List.head?_cons, Option.some.injEq]
        refine iff_of_false (fun equal => ?_) (by omega)
        subst equal
        exact absurd isHigh (by decide)

theorem encode_basic (text : List Char) :
    (∀ unit ∈ Utf16.encode text, (Utf16.isHigh unit || Utf16.isLow unit) = false) ↔
      ∀ c ∈ text, c.toNat < 0x10000 := by
  induction text with
  | nil => simp
  | cons c rest ih =>
      rw [Utf16.encode_cons, List.forall_mem_append, ih, List.forall_mem_cons]
      refine and_congr_left fun _ => ?_
      by_cases basic : c.toNat < 0x10000
      · obtain ⟨unit, same, _, high, low⟩ := Utf16.units_basic c basic
        rw [same]
        exact iff_of_true (by simp [high, low]) basic
      · obtain ⟨high, low, same, _, _, isHigh, _⟩ := Utf16.units_supplementary c basic
        rw [same]
        exact iff_of_false (by simp [isHigh]) basic

theorem flatMap_least {α β γ : Type} (left : α → List β) (right : α → List γ)
    (least : ∀ item, (left item).length ≤ (right item).length) (items : List α) :
    (items.flatMap left).length ≤ (items.flatMap right).length := by
  induction items with
  | nil => exact Nat.le_refl 0
  | cons item rest ih =>
      have here := least item
      rw [List.flatMap_cons, List.flatMap_cons, List.length_append, List.length_append]
      omega

theorem flatMap_same {α β γ : Type} (left : α → List β) (right : α → List γ)
    (least : ∀ item, (left item).length ≤ (right item).length) (items : List α)
    (same : (items.flatMap right).length = (items.flatMap left).length) :
    ∀ item ∈ items, (right item).length = (left item).length := by
  induction items with
  | nil => simp
  | cons item rest ih =>
      have here := least item
      have later := flatMap_least left right least rest
      rw [List.flatMap_cons, List.flatMap_cons, List.length_append, List.length_append] at same
      exact List.forall_mem_cons.mpr ⟨by omega, ih (by omega)⟩

theorem utf8_char_longer (c : Char) :
    (Utf16.units c).length + (if c.toNat < 0x80 then 0 else 1) ≤ (String.utf8EncodeChar c).length := by
  have value : c.val.toNat = c.toNat := rfl
  unfold String.utf8EncodeChar Utf16.units
  simp only [value]
  by_cases one : c.toNat ≤ 127
  · rw [if_pos one, if_pos (by omega), if_pos (by omega)]
    exact Nat.le_refl 1
  rw [if_neg one, if_neg (by omega : ¬ c.toNat < 0x80)]
  by_cases two : c.toNat ≤ 2047
  · rw [if_pos two, if_pos (by omega)]
    exact Nat.le_refl 2
  rw [if_neg two]
  by_cases three : c.toNat ≤ 65535
  · rw [if_pos three, if_pos (by omega)]
    exact Nat.le_succ 2
  · rw [if_neg three, if_neg (by omega)]
    exact Nat.le_succ 3

theorem pushed_longer (unit : UInt16) : 1 + (if unit.toNat < 0x80 then 0 else 1) ≤ (pushed unit).length := by
  by_cases one : unit.toNat < 0x80
  · rw [if_pos one, pushed_short unit one]
    exact Nat.le_refl 1
  rw [if_neg one]
  by_cases two : unit.toNat < 0x800
  · rw [pushed_two unit one two]
    exact Nat.le_refl 2
  · rw [pushed_three unit two]
    exact Nat.le_succ 2

theorem ascii_bytes (environment : Environment) (s : JsString) (ascii : ∀ unit ∈ s, unit.toNat < 0x80) :
    fromCharCodes (utf8Encode environment s) = s := by
  have codes : fromCharCodes (BinaryString.charCodes s) = s := by
    rw [fromCharCodes, BinaryString.charCodes, List.map_map]
    refine (List.map_congr_left fun unit member => ?_).trans (List.map_id s)
    have small := ascii unit member
    refine UInt16.toNat_inj.mp ?_
    simp only [Function.comp_apply, UInt8.toNat_toUInt16, UInt16.toNat_toUInt8, id_eq]
    omega
  have bytes : utf8Encode environment s = BinaryString.charCodes s := by
    unfold utf8Encode
    split
    · have small : ∀ byte ∈ BinaryString.charCodes s, byte.toNat < 0x80 := fun byte member => by
        obtain ⟨unit, inside, rfl⟩ := List.mem_map.mp member
        have bound := ascii unit inside
        rw [UInt16.toNat_toUInt8]
        omega
      have whole := (BinaryString.utf8_fromCharCodes_iff (BinaryString.charCodes s)).mpr small
      rwa [codes] at whole
    · rw [BinaryString.charCodes, List.map_eq_flatMap]
      refine List.flatMap_congr fun unit member => ?_
      rw [pushed_short unit (ascii unit member)]
      exact congrArg (fun byte => [byte]) (UInt8.toNat_inj.mp (by simp))
  rw [bytes, codes]

theorem binary_round_trip (environment : Environment) (text : List Char) :
    fromCharCodes (utf8Encode environment (Utf16.encode text)) = Utf16.encode text ↔
      ∀ unit ∈ Utf16.encode text, unit.toNat < 0x80 := by
  refine ⟨fun same => ?_, ascii_bytes environment _⟩
  have lengths := congrArg List.length same
  rw [fromCharCodes, List.length_map, utf8Encode] at lengths
  split at lengths
  · rw [utf8, Utf16.scalars_encode] at lengths
    have least (c : Char) : (Utf16.units c).length ≤ (String.utf8EncodeChar c).length :=
      (Nat.le_add_right _ _).trans (utf8_char_longer c)
    have small : ∀ c ∈ text, c.toNat < 0x80 := fun c member => by
      have longer := utf8_char_longer c
      rw [flatMap_same Utf16.units String.utf8EncodeChar least text lengths c member] at longer
      split at longer <;> omega
    have bytes := (Utf16.scalars_small (Utf16.encode text)).mp
    rw [Utf16.scalars_encode] at bytes
    exact bytes small
  · have least (unit : UInt16) : [unit].length ≤ (pushed unit).length := (Nat.le_add_right _ _).trans (pushed_longer unit)
    intro unit member
    have longer := pushed_longer unit
    rw [flatMap_same (fun unit => [unit]) pushed least _ (by rw [lengths, List.flatMap_singleton']) unit member,
      List.length_singleton] at longer
    split at longer <;> omega

def Kept (environment : Environment) (s : JsString) : Prop :=
  if environment.textDecoder then
    s.head? ≠ some 0xFEFF ∧
      (environment.textEncoder = true ∨ ∀ unit ∈ s, (Utf16.isHigh unit || Utf16.isLow unit) = false)
  else ∀ unit ∈ s, unit.toNat < 0x80

/-- Encoding and decoding bring a well-formed text back exactly in these cases: with a decoder, no byte order
mark in front and an encoder or no supplementary character; without a decoder, nothing but ASCII. -/
theorem base64_round_trip (environment : Environment) (s : JsString) (wellFormed : Utf16.WellFormed s) :
    base64Decode environment (base64Encode environment s) = s ↔ Kept environment s := by
  obtain ⟨text, rfl⟩ := wellFormed
  rw [base64Decode, collect_encoded, Kept]
  by_cases decoder : environment.textDecoder = true
  · rw [if_pos decoder, if_pos decoder, encode_basic, ne_eq, encode_mark]
    have decoded : textDecode (utf8Encode environment (Utf16.encode text)) = Utf16.encode text ↔
        dropMark (Utf8.decode (utf8Encode environment (Utf16.encode text))) = text :=
      ⟨Utf16.encode_injective _ _, congrArg Utf16.encode⟩
    rw [decoded, utf8Encode]
    by_cases encoder : environment.textEncoder = true
    · rw [if_pos encoder, utf8, Utf16.scalars_encode, Utf8.decode_encode, dropMark_iff]
      simp [encoder]
    · rw [if_neg encoder, decode_fallback, dropMark_garbled_iff]
      simp [encoder]
  · rw [if_neg decoder, if_neg decoder, binary_round_trip]

theorem base64_round_trip_letter : base64Decode ⟨true, true⟩ (base64Encode ⟨true, true⟩ (js "é")) = js "é" :=
  (base64_round_trip ⟨true, true⟩ (js "é") ⟨['é'], by decide⟩).mpr ⟨by decide, .inl rfl⟩

-- Without a TextDecoder the two bytes of the letter come back as two letters.
theorem base64_round_trip_binary :
    Utf16.WellFormed (js "é") ∧ base64Decode ⟨true, false⟩ (base64Encode ⟨true, false⟩ (js "é")) ≠ js "é" :=
  ⟨⟨['é'], by decide⟩, by decide⟩

end Kessh.Base64ToolPage
