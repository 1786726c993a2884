import Kessh.Lib.Base64
import Kessh.WebSocket.Client

set_option autoImplicit false

-- What the client makes of the output that the proxy sends.
namespace Kessh.WebSocketSSHClient

open Utf8 (Bytes)
open Ecma (JsString js)
open Base64 (all_bits high_bits masked_byte middle_bits)
open BinaryString (fromCharCodes charCodes)

-- charMap.indexOf, with -1 as a word of 32 bits.
def indexOf (unit : UInt16) : Nat := (chars.findIdx? (· == unit)).getD 0xFFFFFFFF

-- What one round of the loop in atob adds. An index of 64 stands for what is not there.
def atobRound (a b c d : Nat) : JsString :=
  let bitmap := ((a <<< 18 ||| b <<< 12) ||| c <<< 6) ||| d
  UInt16.ofNat (bitmap >>> 16 &&& 255) ::
    ((if c ≠ 64 then [UInt16.ofNat (bitmap >>> 8 &&& 255)] else []) ++
      if d ≠ 64 then [UInt16.ofNat (bitmap &&& 255)] else [])

-- A second unit that is missing is undefined, which has no index.
def atobFrom : JsString → JsString
  | a :: b :: c :: d :: rest => atobRound (indexOf a) (indexOf b) (indexOf c) (indexOf d) ++ atobFrom rest
  | [a, b, c] => atobRound (indexOf a) (indexOf b) (indexOf c) 64
  | [a, b] => atobRound (indexOf a) (indexOf b) 64 64
  | [a] => atobRound (indexOf a) 0xFFFFFFFF 64 64
  | [] => []

def atob (text : JsString) : JsString := atobFrom (text.rdropWhile (· == 0x3D))

def base64ToArrayBuffer (base64 : JsString) : Bytes := charCodes (atob base64)

-- A decoder that keeps nothing from one call to the next. The platform's leaves a byte order
-- mark in the text, unless it is created with ignoreBOM.
def decodeWithStream (bytes : Bytes) : JsString := Utf16.encode (Utf8.decode bytes)

def base64Decode (base64 : JsString) : JsString := decodeWithStream (base64ToArrayBuffer base64)

-- What handleMessage calls the data callback with. Without data the decoding throws.
def Message.dataCallback : Message → List JsString
  | .data (some base64) => [base64Decode base64]
  | _ => []

def Message.isData : Message → Bool
  | .data _ => true
  | _ => false

theorem indexOf_digit (n : Nat) (small : n < 64) : indexOf (Base64.digit n) = n := by
  have index : chars.findIdx? (· == Base64.digit n) = some n := Base64.digit_index n small
  rw [indexOf, index, Option.getD_some]

theorem unit_byte (n : Nat) (byte : UInt8) (same : n = byte.toNat) : UInt16.ofNat n = byte.toUInt16 := by
  rw [same]
  exact UInt16.toNat_inj.mp (by simp)

theorem atobRound_three (a b c : UInt8) :
    atobRound (a.toNat / 4) (a.toNat % 4 * 16 + b.toNat / 16) (b.toNat % 16 * 4 + c.toNat / 64) (c.toNat % 64) =
      fromCharCodes [a, b, c] := by
  have first := a.toNat_lt
  have second := b.toNat_lt
  have third := c.toNat_lt
  unfold atobRound
  dsimp only
  rw [all_bits _ _ _ _ (by omega) (by omega) (by omega), if_pos (by omega), if_pos (by omega)]
  rw [masked_byte, masked_byte, masked_byte, unit_byte _ a (by omega), unit_byte _ b (by omega), unit_byte _ c (by omega)]
  rfl

theorem atobRound_two (a b : UInt8) :
    atobRound (a.toNat / 4) (a.toNat % 4 * 16 + b.toNat / 16) (b.toNat % 16 * 4) 64 = fromCharCodes [a, b] := by
  have first := a.toNat_lt
  have second := b.toNat_lt
  unfold atobRound
  dsimp only
  rw [middle_bits _ _ _ (by omega) (by omega), if_pos (by omega), if_neg (by omega), masked_byte, masked_byte]
  rw [Nat.shiftRight_or_distrib, Nat.shiftRight_or_distrib]
  rw [show 64 >>> 16 = 0 from rfl, show 64 >>> 8 = 0 from rfl, Nat.or_zero, Nat.or_zero, unit_byte _ a (by omega),
    unit_byte _ b (by omega)]
  rfl

theorem atobRound_one (a : UInt8) : atobRound (a.toNat / 4) (a.toNat % 4 * 16) 64 64 = fromCharCodes [a] := by
  have first := a.toNat_lt
  unfold atobRound
  dsimp only
  rw [if_neg (by omega), if_neg (by omega), high_bits _ _ (by omega), Nat.or_assoc, Nat.shiftRight_or_distrib]
  rw [show (64 <<< 6 ||| 64) >>> 16 = 0 from rfl, Nat.or_zero, masked_byte, unit_byte _ a (by omega)]
  rfl

theorem atobFrom_digits (bytes : Bytes) : atobFrom (Base64.digits bytes) = fromCharCodes bytes := by
  match bytes with
  | [] => rfl
  | [a] =>
      have first := a.toNat_lt
      rw [Base64.digits, atobFrom, indexOf_digit _ (by omega), indexOf_digit _ (by omega), atobRound_one]
  | [a, b] =>
      have first := a.toNat_lt
      have second := b.toNat_lt
      rw [Base64.digits, atobFrom, indexOf_digit _ (by omega), indexOf_digit _ (by omega), indexOf_digit _ (by omega),
        atobRound_two]
  | a :: b :: c :: rest =>
      have first := a.toNat_lt
      have second := b.toNat_lt
      have third := c.toNat_lt
      rw [Base64.digits, Base64.group]
      simp only [List.cons_append, List.nil_append]
      rw [atobFrom, indexOf_digit _ (by omega), indexOf_digit _ (by omega), indexOf_digit _ (by omega),
        indexOf_digit _ (by omega), atobRound_three, atobFrom_digits rest]
      rfl

theorem stripped_padded (bytes : Bytes) (count : Nat) :
    (Base64.digits bytes ++ List.replicate count Base64.pad).rdropWhile (· == 0x3D) = Base64.digits bytes := by
  induction count with
  | zero =>
      rw [List.replicate_zero, List.append_nil, List.rdropWhile_eq_self_iff]
      intro some
      simpa [Base64.pad] using Base64.digits_unpadded bytes _ (List.getLast_mem some)
  | succ count ih => rw [List.replicate_succ', ← List.append_assoc, List.rdropWhile_concat_pos _ _ _ (by decide), ih]

theorem base64ToArrayBuffer_padded (bytes : Bytes) (count : Nat) :
    base64ToArrayBuffer (Base64.digits bytes ++ List.replicate count Base64.pad) = bytes := by
  rw [base64ToArrayBuffer, atob, stripped_padded, atobFrom_digits, charCodes, fromCharCodes, List.map_map]
  refine (List.map_congr_left fun byte _ => ?_).trans (List.map_id _)
  exact UInt8.toUInt8_toUInt16 byte

theorem base64ToArrayBuffer_encode (bytes : Bytes) : base64ToArrayBuffer (Base64.encode bytes) = bytes :=
  base64ToArrayBuffer_padded bytes _

/-- The decoder inverts the standard encoding, with its padding and without it. -/
theorem atob_inverts (bytes : Bytes) :
    base64ToArrayBuffer (Base64.encode bytes) = bytes ∧ base64ToArrayBuffer (Base64.digits bytes) = bytes := by
  have bare := base64ToArrayBuffer_padded bytes 0
  rw [List.replicate_zero, List.append_nil] at bare
  exact ⟨base64ToArrayBuffer_encode bytes, bare⟩

theorem carried_callbacks (chunks : List Bytes) (messages : List Message)
    (carried : messages.filter Message.isData = chunks.map fun chunk => .data (some (Base64.encode chunk))) :
    messages.flatMap Message.dataCallback = chunks.map fun chunk => Utf16.encode (Utf8.decode chunk) := by
  have silent : ∀ messages : List Message, messages.flatMap Message.dataCallback =
      (messages.filter Message.isData).flatMap Message.dataCallback := by
    intro messages
    induction messages with
    | nil => rfl
    | cons message rest ih =>
        rw [List.flatMap_cons, ih]
        cases message <;> rfl
  have decoded : ∀ chunk, Message.dataCallback (.data (some (Base64.encode chunk))) = [Utf16.encode (Utf8.decode chunk)] :=
    fun chunk => by rw [Message.dataCallback, base64Decode, base64ToArrayBuffer_encode, decodeWithStream]
  rw [silent, carried, List.flatMap_map, List.map_eq_flatMap]
  exact List.flatMap_congr fun chunk _ => decoded chunk

/-- The callbacks for the chunks of a well-formed stream, among any other messages, get the text of the
stream exactly when no chunk starts inside a character. -/
theorem output_text_kept (text : List Char) (chunks : List Bytes) (messages : List Message)
    (whole : chunks.flatten = Utf8.encode text)
    (carried : messages.filter Message.isData = chunks.map fun chunk => .data (some (Base64.encode chunk))) :
    (messages.flatMap Message.dataCallback).flatten = Utf16.encode (Utf8.decode chunks.flatten) ↔
      ∀ chunk ∈ chunks, Utf8.startsInside chunk = false := by
  rw [carried_callbacks chunks messages carried, ← Utf8.decode_chunks_iff chunks text whole, whole, Utf8.decode_encode]
  have joined : (chunks.map fun chunk => Utf16.encode (Utf8.decode chunk)).flatten =
      Utf16.encode (chunks.map Utf8.decode).flatten := by
    rw [Utf16.encode_flatten, List.map_map]
    rfl
  rw [joined]
  exact ⟨Utf16.encode_injective _ _, congrArg Utf16.encode⟩

-- The shell prints an e with an acute accent and a newline, cut behind the letter.
theorem output_text_kept_letter :
    ([.connected, .data (some (js "w6k=")), .data (some (js "Cg=="))].flatMap Message.dataCallback).flatten =
      Utf16.encode (Utf8.decode [0xC3, 0xA9, 0x0A]) :=
  (output_text_kept ['é', '\n'] [[0xC3, 0xA9], [0x0A]] [.connected, .data (some (js "w6k=")), .data (some (js "Cg=="))]
    (by decide) (by decide)).mpr (by decide)

-- Cut inside the letter, each half becomes U+FFFD.
theorem output_text_cut : ∃ (text : List Char) (chunks : List Bytes), chunks.flatten = Utf8.encode text ∧
    ((chunks.map fun chunk => Message.data (some (Base64.encode chunk))).flatMap Message.dataCallback).flatten ≠
      Utf16.encode (Utf8.decode chunks.flatten) :=
  ⟨['é'], [[0xC3], [0xA9]], by decide, by decide⟩

end Kessh.WebSocketSSHClient
