import Kessh.Lib.Ecma

set_option autoImplicit false

-- Strings that stand for bytes, one code unit for each, and what is left of the bytes when such
-- a string goes through an interface that takes it for text.
namespace BinaryString

open Utf8 (Bytes)
open Ecma (JsString utf8)

-- String.fromCharCode of each byte.
def fromCharCodes (bytes : Bytes) : JsString := bytes.map UInt8.toUInt16

-- charCodeAt stored in a Uint8Array, which keeps the lowest eight bits.
def charCodes (text : JsString) : Bytes := text.map UInt16.toUInt8

theorem utf8_fromCharCodes (bytes : Bytes) :
    utf8 (fromCharCodes bytes) = bytes.flatMap fun byte => String.utf8EncodeChar (Char.ofNat byte.toNat) := by
  induction bytes with
  | nil => rfl
  | cons byte rest ih =>
      have range := byte.toNat_lt
      have value : byte.toUInt16.toNat = byte.toNat := UInt8.toNat_toUInt16 byte
      have high : Utf16.isHigh byte.toUInt16 = false := by
        simp only [Utf16.isHigh, value, Bool.and_eq_false_iff, decide_eq_false_iff_not]
        omega
      have low : Utf16.isLow byte.toUInt16 = false := by
        simp only [Utf16.isLow, value, Bool.and_eq_false_iff, decide_eq_false_iff_not]
        omega
      have char : Utf16.single byte.toUInt16 = Char.ofNat byte.toNat := by
        rw [Utf16.single, high, low, value]
        rfl
      unfold utf8 at ih ⊢
      rw [fromCharCodes, List.map_cons, Utf16.scalars_cons_ordinary _ _ high, Utf8.encode_cons, char, List.flatMap_cons]
      exact congrArg _ ih

theorem byte_char (byte : UInt8) : (Char.ofNat byte.toNat).toNat = byte.toNat := by
  have range := byte.toNat_lt
  exact Utf16.toNat_ofNat _ (by unfold Nat.isValidChar; omega)

theorem utf8_char_ascii (byte : UInt8) (ascii : byte.toNat < 0x80) :
    String.utf8EncodeChar (Char.ofNat byte.toNat) = [byte] := by
  have value := byte_char byte
  rw [Utf8.char_ascii _ (by omega), value, UInt8.ofNat_toNat]

theorem utf8_char_long (byte : UInt8) (long : 0x80 ≤ byte.toNat) :
    (String.utf8EncodeChar (Char.ofNat byte.toNat)).length = 2 := by
  have range := byte.toNat_lt
  have value : (Char.ofNat byte.toNat).val.toNat = byte.toNat := byte_char byte
  unfold String.utf8EncodeChar
  simp only [value]
  rw [if_neg (by omega), if_pos (by omega)]
  rfl

theorem utf8_fromCharCodes_length (bytes : Bytes) :
    (utf8 (fromCharCodes bytes)).length = bytes.length + bytes.countP fun byte => 0x80 ≤ byte.toNat := by
  rw [utf8_fromCharCodes]
  induction bytes with
  | nil => rfl
  | cons byte rest ih =>
      rw [List.flatMap_cons, List.length_append, ih, List.countP_cons, List.length_cons]
      by_cases ascii : byte.toNat < 0x80
      · rw [utf8_char_ascii byte ascii, if_neg (by simpa using ascii)]
        simp only [List.length_singleton]
        omega
      · rw [utf8_char_long byte (by omega), if_pos (by simpa using ascii)]
        omega

/-- A byte interface gets the bytes of a binary string exactly when they are all ASCII. -/
theorem utf8_fromCharCodes_iff (bytes : Bytes) :
    utf8 (fromCharCodes bytes) = bytes ↔ ∀ byte ∈ bytes, byte.toNat < 0x80 := by
  constructor
  · intro same
    have lengths := utf8_fromCharCodes_length bytes
    rw [same] at lengths
    have none : (bytes.countP fun byte => 0x80 ≤ byte.toNat) = 0 := by omega
    intro byte member
    simpa using List.countP_eq_zero.mp none byte member
  · intro ascii
    rw [utf8_fromCharCodes]
    conv => rhs; rw [← List.flatMap_singleton' bytes]
    exact List.flatMap_congr fun byte member => utf8_char_ascii byte (ascii byte member)

theorem units_basic (c : Char) (basic : c.toNat < 0x10000) : (Utf16.units c).length = 1 := by
  rw [Utf16.units, if_pos basic]
  rfl

theorem units_most (c : Char) : (Utf16.units c).length ≤ 2 := by
  unfold Utf16.units
  split <;> simp

theorem first_units (byte : UInt8) :
    (Utf16.encode (Utf8.first byte).2).length + Utf8.owed (Utf8.first byte).1 = 1 := by
  by_cases ascii : byte.toNat < 0x80
  · have basic : (Char.ofNat byte.toNat).toNat < 0x10000 := by
      rw [byte_char]
      omega
    simp [Utf8.first, ascii, units_basic _ basic]
  · unfold Utf8.first
    dsimp only
    rw [if_neg ascii]
    repeat' split
    all_goals rfl

theorem first_short (byte : UInt8) (pending : Utf8.Pending) (chars : List Char)
    (lead : Utf8.first byte = (some pending, chars)) (short : pending.more = 0) : pending.value < 0x20 := by
  have state := congrArg Prod.fst lead
  unfold Utf8.first at state
  dsimp only at state
  split at state
  · cases state
  split at state
  · obtain rfl := Option.some.inj state
    simp only [Utf8.tail]
    omega
  -- every other state misses more bytes
  repeat' split at state
  all_goals first
    | exact absurd state (Option.some_ne_none pending).symm
    | exact absurd (congrArg Utf8.Pending.more (Option.some.inj state)) (by rw [short]; exact Nat.succ_ne_zero _)

theorem next_units (pending : Utf8.Pending) (byte : UInt8) :
    (Utf16.encode (Utf8.next (some pending) byte).2).length + Utf8.owed (Utf8.next (some pending) byte).1 ≤ 2 := by
  have start := first_units byte
  have replacement : (Utf16.units Utf16.replacement).length = 1 := rfl
  simp only [Utf8.next]
  split
  · split
    · have most := units_most (Char.ofNat (pending.value * 64 + (byte.toNat - 0x80)))
      simpa using most
    · simp
  · rw [Utf16.encode_cons, List.length_append, replacement]
    dsimp only
    omega

theorem decode_units (state : Option Utf8.Pending) (bytes : Bytes) :
    (Utf16.encode (Utf8.decodeFrom state bytes)).length ≤ bytes.length + Utf8.owed state := by
  induction bytes generalizing state with
  | nil =>
      cases state with
      | none => exact Nat.le_refl 0
      | some pending => exact Nat.le_refl 1
  | cons byte rest ih =>
      have later := ih (Utf8.next state byte).1
      rw [Utf8.decodeFrom, Utf16.encode_append, List.length_append, List.length_cons]
      cases state with
      | none =>
          have start := first_units byte
          simp only [Utf8.next, Utf8.owed_none] at later ⊢
          omega
      | some pending =>
          have here := next_units pending byte
          rw [Utf8.owed_some]
          omega

theorem decode_units_short (byte following : UInt8) (rest : Bytes) (pending : Utf8.Pending)
    (lead : Utf8.first byte = (some pending, []))
    (fits : pending.lower ≤ following.toNat ∧ following.toNat ≤ pending.upper) :
    (Utf16.encode (Utf8.decode (byte :: following :: rest))).length < (byte :: following :: rest).length := by
  have upper := pending.upperBound
  have lower := pending.lowerBound
  have one : (Utf16.encode (Utf8.next (some pending) following).2).length +
      Utf8.owed (Utf8.next (some pending) following).1 = 1 := by
    simp only [Utf8.next, if_pos fits]
    split
    · rename_i short
      have small := first_short byte pending [] lead short
      have value : (Char.ofNat (pending.value * 64 + (following.toNat - 0x80))).toNat < 0x10000 := by
        rw [Utf16.toNat_ofNat _ (by unfold Nat.isValidChar; omega)]
        omega
      simp [units_basic _ value]
    · rfl
  have later := decode_units (Utf8.next (some pending) following).1 rest
  rw [Utf8.decode, Utf8.decode_lead byte _ pending lead, Utf8.decodeFrom, Utf16.encode_append, List.length_append,
    List.length_cons, List.length_cons]
  omega

theorem first_ascii (byte : UInt8) (ascii : byte.toNat < 0x80) :
    Utf8.first byte = (none, [Char.ofNat byte.toNat]) := if_pos ascii

theorem first_cases (byte : UInt8) (long : ¬ byte.toNat < 0x80) :
    Utf8.first byte = (none, [Utf16.replacement]) ∨
      (∃ pending, Utf8.first byte = (some pending, [])) ∧ byte.toNat ≠ 0xFD := by
  unfold Utf8.first
  dsimp only
  rw [if_neg long]
  repeat' split
  all_goals first
    | exact .inl rfl
    | exact .inr ⟨⟨_, rfl⟩, by omega⟩

theorem charCodes_append (left right : JsString) : charCodes (left ++ right) = charCodes left ++ charCodes right :=
  List.map_append

theorem charCodes_length (text : JsString) : (charCodes text).length = text.length := List.length_map _

theorem charCodes_first (byte : UInt8) (rest : Bytes) (c : Char) (single : Utf8.first byte = (none, [c])) :
    charCodes (Utf16.encode (Utf8.decode (byte :: rest))) =
      charCodes (Utf16.units c) ++ charCodes (Utf16.encode (Utf8.decode rest)) := by
  rw [Utf8.decode, Utf8.decodeFrom]
  simp only [Utf8.next, single]
  rw [List.cons_append, Utf16.encode_cons, charCodes_append]
  rfl

theorem charCodes_ascii (byte : UInt8) (ascii : byte.toNat < 0x80) :
    charCodes (Utf16.units (Char.ofNat byte.toNat)) = [byte] := by
  have value := byte_char byte
  rw [Utf16.units, if_pos (by omega), value, charCodes, List.map_singleton]
  refine congrArg (fun byte => [byte]) (UInt8.toNat_inj.mp ?_)
  rw [UInt16.toNat_toUInt8, UInt16.toNat_ofNat']
  omega

/-- Bytes that are decoded and stored again, one byte for each code unit, stay what they are
exactly when each is ASCII or FD, which no character contains. -/
theorem charCodes_decode_iff (bytes : Bytes) :
    charCodes (Utf16.encode (Utf8.decode bytes)) = bytes ↔
      ∀ byte ∈ bytes, byte.toNat < 0x80 ∨ byte.toNat = 0xFD := by
  induction bytes with
  | nil => simp [Utf8.decode, Utf8.decodeFrom, charCodes]
  | cons byte rest ih =>
      rw [List.forall_mem_cons, ← ih]
      by_cases ascii : byte.toNat < 0x80
      · rw [charCodes_first byte rest _ (first_ascii byte ascii), charCodes_ascii byte ascii, List.singleton_append,
          List.cons.injEq]
        simp [ascii]
      have stored : charCodes (Utf16.units Utf16.replacement) = [0xFD] := rfl
      rcases first_cases byte ascii with broken | ⟨⟨pending, lead⟩, other⟩
      · rw [charCodes_first byte rest _ broken, stored, List.singleton_append, List.cons.injEq, ← UInt8.toNat_inj]
        simp only [ascii, false_or]
        exact and_congr_left fun _ => eq_comm
      · refine iff_of_false (fun same => ?_) fun allowed => allowed.1.elim ascii other
        cases rest with
        | nil =>
            rw [Utf8.decode, Utf8.decode_lead byte _ pending lead] at same
            exact other (congrArg UInt8.toNat (List.head_eq_of_cons_eq same)).symm
        | cons following rest =>
            by_cases fits : pending.lower ≤ following.toNat ∧ following.toNat ≤ pending.upper
            · have fewer := decode_units_short byte following rest pending lead fits
              rw [← charCodes_length, same] at fewer
              exact Nat.lt_irrefl _ fewer
            · rw [Utf8.decode, Utf8.decode_lead byte _ pending lead, Utf8.decodeFrom] at same
              simp only [Utf8.next, if_neg fits, List.cons_append, Utf16.encode_cons, charCodes_append, stored] at same
              exact other (congrArg UInt8.toNat (List.head_eq_of_cons_eq same)).symm

end BinaryString
