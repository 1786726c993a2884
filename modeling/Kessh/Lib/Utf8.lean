import Kessh.Lib.Utf16

set_option autoImplicit false

namespace Utf8

abbrev Bytes := List UInt8

def encode (text : List Char) : Bytes := text.flatMap String.utf8EncodeChar

def WellFormed (bytes : Bytes) : Prop := ∃ text, encode text = bytes

def isContinuation (byte : UInt8) : Bool := 0x80 ≤ byte.toNat && byte.toNat < 0xC0

-- The bytes of a character seen so far: their value, how many bytes are missing
-- after the next one, and the range in which the next one has to lie.
structure Pending where
  value : Nat
  more : Nat
  lower : Nat
  upper : Nat
  lowerBound : 0x80 ≤ lower
  upperBound : upper < 0xC0

def tail (value more : Nat) : Pending := ⟨value, more, 0x80, 0xBF, by decide, by decide⟩

-- After E0 and F0 the low continuation bytes would make an overlong form, after ED
-- a surrogate, and after F4 a value above U+10FFFF.
def first (byte : UInt8) : Option Pending × List Char :=
  let b := byte.toNat
  if b < 0x80 then (none, [Char.ofNat b])
  else if 0xC2 ≤ b ∧ b ≤ 0xDF then (some (tail (b - 0xC0) 0), [])
  else if b = 0xE0 then (some ⟨0, 1, 0xA0, 0xBF, by decide, by decide⟩, [])
  else if b = 0xED then (some ⟨0xD, 1, 0x80, 0x9F, by decide, by decide⟩, [])
  else if 0xE1 ≤ b ∧ b ≤ 0xEF then (some (tail (b - 0xE0) 1), [])
  else if b = 0xF0 then (some ⟨0, 2, 0x90, 0xBF, by decide, by decide⟩, [])
  else if b = 0xF4 then (some ⟨4, 2, 0x80, 0x8F, by decide, by decide⟩, [])
  else if 0xF1 ≤ b ∧ b ≤ 0xF3 then (some (tail (b - 0xF0) 2), [])
  else (none, [Utf16.replacement])

-- A byte that does not fit closes the broken character as one U+FFFD and is then
-- read again as a first byte.
def next : Option Pending → UInt8 → Option Pending × List Char
  | none, byte => first byte
  | some state, byte =>
      if state.lower ≤ byte.toNat ∧ byte.toNat ≤ state.upper then
        let value := state.value * 64 + (byte.toNat - 0x80)
        match state.more with
        | 0 => (none, [Char.ofNat value])
        | more + 1 => (some (tail value more), [])
      else ((first byte).1, Utf16.replacement :: (first byte).2)

def decodeFrom : Option Pending → Bytes → List Char
  | none, [] => []
  | some _, [] => [Utf16.replacement]
  | state, byte :: rest => (next state byte).2 ++ decodeFrom (next state byte).1 rest

/-- Decoding with replacement: every maximal ill-formed part becomes one U+FFFD. -/
def decode (bytes : Bytes) : List Char := decodeFrom none bytes

@[simp] theorem encode_nil : encode [] = [] := rfl

@[simp] theorem encode_cons (c : Char) (text : List Char) :
    encode (c :: text) = String.utf8EncodeChar c ++ encode text := rfl

@[simp] theorem encode_append (left right : List Char) : encode (left ++ right) = encode left ++ encode right := by
  simp [encode]

theorem byte_value (n : Nat) (bound : n < 256) : (UInt8.ofNat n).toNat = n := by
  rw [UInt8.toNat_ofNat', Nat.mod_eq_of_lt bound]

theorem char_ofNat_eq (c : Char) (n : Nat) (same : n = c.toNat) : Char.ofNat n = c := by
  rw [same, Char.ofNat_toNat]

theorem decode_lead (byte : UInt8) (rest : Bytes) (state : Pending) (lead : first byte = (some state, [])) :
    decodeFrom none (byte :: rest) = decodeFrom (some state) rest := by
  simp [decodeFrom, next, lead]

theorem decode_middle (state : Pending) (more : Nat) (byte : UInt8) (rest : Bytes) (missing : state.more = more + 1)
    (fits : state.lower ≤ byte.toNat ∧ byte.toNat ≤ state.upper) :
    decodeFrom (some state) (byte :: rest) =
      decodeFrom (some (tail (state.value * 64 + (byte.toNat - 0x80)) more)) rest := by
  simp [decodeFrom, next, fits, missing]

theorem decode_last (state : Pending) (byte : UInt8) (rest : Bytes) (missing : state.more = 0)
    (fits : state.lower ≤ byte.toNat ∧ byte.toNat ≤ state.upper) :
    decodeFrom (some state) (byte :: rest) =
      Char.ofNat (state.value * 64 + (byte.toNat - 0x80)) :: decodeFrom none rest := by
  simp [decodeFrom, next, fits, missing]

theorem tail_fits (value more n : Nat) (byte : UInt8) (code : byte.toNat = n % 64 + 128) :
    (tail value more).lower ≤ byte.toNat ∧ byte.toNat ≤ (tail value more).upper := by
  show 0x80 ≤ byte.toNat ∧ byte.toNat ≤ 0xBF
  omega

theorem first_three (byte second : UInt8) (value : Nat) (lead : byte.toNat = value + 0xE0) (small : value < 16)
    (inRange : 0x80 ≤ second.toNat ∧ second.toNat < 0xC0) (overlong : value = 0 → 0xA0 ≤ second.toNat)
    (surrogate : value = 0xD → second.toNat ≤ 0x9F) :
    ∃ state, first byte = (some state, []) ∧ state.value = value ∧ state.more = 1 ∧
      state.lower ≤ second.toNat ∧ second.toNat ≤ state.upper := by
  unfold first
  simp only [lead]
  rw [if_neg (by omega), if_neg (by omega)]
  split
  · exact ⟨_, rfl, by simp; omega, rfl, by simp; omega, by simp; omega⟩
  · split
    · exact ⟨_, rfl, by simp; omega, rfl, by simp; omega, by simp; omega⟩
    · rw [if_pos (by omega)]
      exact ⟨_, rfl, by simp [tail], rfl, by simp [tail]; omega, by simp [tail]; omega⟩

theorem first_four (byte second : UInt8) (value : Nat) (lead : byte.toNat = value + 0xF0) (small : value < 5)
    (inRange : 0x80 ≤ second.toNat ∧ second.toNat < 0xC0) (overlong : value = 0 → 0x90 ≤ second.toNat)
    (beyond : value = 4 → second.toNat ≤ 0x8F) :
    ∃ state, first byte = (some state, []) ∧ state.value = value ∧ state.more = 2 ∧
      state.lower ≤ second.toNat ∧ second.toNat ≤ state.upper := by
  unfold first
  simp only [lead]
  rw [if_neg (by omega), if_neg (by omega), if_neg (by omega), if_neg (by omega), if_neg (by omega)]
  split
  · exact ⟨_, rfl, by simp; omega, rfl, by simp; omega, by simp; omega⟩
  · split
    · exact ⟨_, rfl, by simp; omega, rfl, by simp; omega, by simp; omega⟩
    · rw [if_pos (by omega)]
      exact ⟨_, rfl, by simp [tail], rfl, by simp [tail]; omega, by simp [tail]; omega⟩

theorem sextets_two (n : Nat) (small : n ≤ 2047) : n / 64 % 32 * 64 + n % 64 = n := by omega

theorem sextets_three (n : Nat) (small : n ≤ 65535) : (n / 4096 % 16 * 64 + n / 64 % 64) * 64 + n % 64 = n := by omega

theorem sextets_four (n : Nat) (small : n < 0x110000) :
    ((n / 262144 % 8 * 64 + n / 4096 % 64) * 64 + n / 64 % 64) * 64 + n % 64 = n := by omega

theorem decode_char (c : Char) (rest : Bytes) :
    decodeFrom none (String.utf8EncodeChar c ++ rest) = c :: decodeFrom none rest := by
  have range := Utf16.char_range c
  have value : c.val.toNat = c.toNat := rfl
  unfold String.utf8EncodeChar
  simp only [value]
  by_cases one : c.toNat ≤ 127
  · rw [if_pos one]
    have byte := byte_value c.toNat (by omega)
    simp [decodeFrom, next, first, byte, show c.toNat < 128 by omega]
  rw [if_neg one]
  have last := byte_value (c.toNat % 64 + 128) (by omega)
  by_cases two : c.toNat ≤ 2047
  · rw [if_pos two]
    have lead := byte_value (c.toNat / 64 % 32 + 192) (by omega)
    have state : first (UInt8.ofNat (c.toNat / 64 % 32 + 192)) = (some (tail (c.toNat / 64 % 32) 0), []) := by
      unfold first
      simp only [lead]
      rw [if_neg (by omega), if_pos (by omega), Nat.add_sub_cancel]
    rw [List.cons_append, decode_lead _ _ _ state, List.cons_append, decode_last _ _ _ rfl (tail_fits _ _ _ _ last),
      char_ofNat_eq c _ (by simp only [tail, last, Nat.add_sub_cancel, sextets_two _ two])]
    rfl
  rw [if_neg two]
  have middle := byte_value (c.toNat / 64 % 64 + 128) (by omega)
  by_cases three : c.toNat ≤ 65535
  · rw [if_pos three]
    have lead := byte_value (c.toNat / 4096 % 16 + 224) (by omega)
    obtain ⟨state, start, stateValue, missing, fits⟩ := first_three _ (UInt8.ofNat (c.toNat / 64 % 64 + 128)) _ lead
      (by omega) (by omega) (by omega) (by omega)
    rw [List.cons_append, decode_lead _ _ _ start, List.cons_append, decode_middle _ _ _ _ missing fits,
      List.cons_append, decode_last _ _ _ rfl (tail_fits _ _ _ _ last),
      char_ofNat_eq c _ (by simp only [tail, stateValue, middle, last, Nat.add_sub_cancel, sextets_three _ three])]
    rfl
  · rw [if_neg three]
    have most : c.toNat < 0x110000 := by omega
    have lead := byte_value (c.toNat / 262144 % 8 + 240) (by omega)
    have second := byte_value (c.toNat / 4096 % 64 + 128) (by omega)
    obtain ⟨state, start, stateValue, missing, fits⟩ := first_four _ (UInt8.ofNat (c.toNat / 4096 % 64 + 128)) _ lead
      (by omega) (by omega) (by omega) (by omega)
    rw [List.cons_append, decode_lead _ _ _ start, List.cons_append, decode_middle _ _ _ _ missing fits,
      List.cons_append, decode_middle _ 0 _ _ rfl (tail_fits _ _ _ _ middle),
      List.cons_append, decode_last _ _ _ rfl (tail_fits _ _ _ _ last),
      char_ofNat_eq c _ (by simp only [tail, stateValue, second, middle, last, Nat.add_sub_cancel, sextets_four _ most])]
    rfl

theorem decode_encode (text : List Char) : decode (encode text) = text := by
  induction text with
  | nil => rfl
  | cons c rest ih =>
      change decodeFrom none (String.utf8EncodeChar c ++ encode rest) = c :: rest
      rw [decode_char]
      exact congrArg (List.cons c) ih

theorem encode_injective (left right : List Char) (same : encode left = encode right) : left = right := by
  rw [← decode_encode left, same, decode_encode]

def startsInside (bytes : Bytes) : Bool := bytes.head?.any isContinuation

-- Every character has exactly one byte that is not a continuation byte.
def leads (bytes : Bytes) : Nat := bytes.countP fun byte => !isContinuation byte

@[simp] theorem leads_append (left right : Bytes) : leads (left ++ right) = leads left + leads right :=
  List.countP_append

theorem continuation_iff (byte : UInt8) : isContinuation byte = true ↔ 0x80 ≤ byte.toNat ∧ byte.toNat < 0xC0 := by
  simp [isContinuation]

theorem not_continuation_iff (byte : UInt8) :
    isContinuation byte = false ↔ byte.toNat < 0x80 ∨ 0xC0 ≤ byte.toNat := by
  simp only [isContinuation, Bool.and_eq_false_iff, decide_eq_false_iff_not]
  omega

theorem char_bytes (c : Char) : ∃ lead rest, String.utf8EncodeChar c = lead :: rest ∧
    isContinuation lead = false ∧ ∀ byte ∈ rest, isContinuation byte = true := by
  have range := Utf16.char_range c
  have value : c.val.toNat = c.toNat := rfl
  have following (n : Nat) : isContinuation (UInt8.ofNat (n % 64 + 128)) = true := by
    rw [continuation_iff, byte_value _ (by omega)]
    omega
  have leading (n : Nat) (bound : n < 0x80 ∨ 0xC0 ≤ n ∧ n < 0x100) : isContinuation (UInt8.ofNat n) = false := by
    rw [not_continuation_iff, byte_value _ (by omega)]
    omega
  unfold String.utf8EncodeChar
  simp only [value]
  split
  · exact ⟨_, _, rfl, leading _ (by omega), by simp⟩
  · split
    · exact ⟨_, _, rfl, leading _ (by omega), by simp only [List.forall_mem_cons, following]; simp⟩
    · split
      · exact ⟨_, _, rfl, leading _ (by omega), by simp only [List.forall_mem_cons, following]; simp⟩
      · exact ⟨_, _, rfl, leading _ (by omega), by simp only [List.forall_mem_cons, following]; simp⟩

theorem char_ascii (c : Char) (ascii : c.toNat < 0x80) : String.utf8EncodeChar c = [UInt8.ofNat c.toNat] := by
  have value : c.val.toNat = c.toNat := rfl
  unfold String.utf8EncodeChar
  simp only [value]
  rw [if_pos (by omega)]

theorem ascii_byte (c : Char) (byte : UInt8) (member : byte ∈ String.utf8EncodeChar c) (ascii : byte.toNat < 0x80) :
    byte.toNat = c.toNat := by
  have range := Utf16.char_range c
  have value : c.val.toNat = c.toNat := rfl
  have large (n : Nat) (bound : n < 0x100) (big : 0x80 ≤ n) (same : byte = UInt8.ofNat n) : False := by
    rw [same, byte_value n bound] at ascii
    omega
  unfold String.utf8EncodeChar at member
  simp only [value] at member
  by_cases one : c.toNat ≤ 127
  · rw [if_pos one] at member
    rw [List.mem_singleton.mp member, byte_value _ (by omega)]
  rw [if_neg one] at member
  by_cases two : c.toNat ≤ 2047
  · rw [if_pos two] at member
    simp only [List.mem_cons, List.not_mem_nil, or_false] at member
    exact (member.elim (large _ (by omega) (by omega)) (large _ (by omega) (by omega))).elim
  rw [if_neg two] at member
  by_cases three : c.toNat ≤ 65535
  · rw [if_pos three] at member
    simp only [List.mem_cons, List.not_mem_nil, or_false] at member
    rcases member with same | same | same <;> exact (large _ (by omega) (by omega) same).elim
  · rw [if_neg three] at member
    simp only [List.mem_cons, List.not_mem_nil, or_false] at member
    rcases member with same | same | same | same <;> exact (large _ (by omega) (by omega) same).elim

theorem mem_encode_ascii (text : List Char) (c : Char) (ascii : c.toNat < 0x80) :
    UInt8.ofNat c.toNat ∈ encode text ↔ c ∈ text := by
  have same := byte_value c.toNat (by omega)
  constructor
  · intro member
    obtain ⟨other, there, inside⟩ := List.mem_flatMap.mp member
    have value := ascii_byte other _ inside (by omega)
    rw [same] at value
    rwa [Char.toNat_inj.mp value]
  · intro member
    exact List.mem_flatMap.mpr ⟨c, member, by rw [char_ascii c ascii]; simp⟩

theorem leads_char (c : Char) : leads (String.utf8EncodeChar c) = 1 := by
  obtain ⟨lead, rest, bytes, start, following⟩ := char_bytes c
  have none : rest.countP (fun byte => !isContinuation byte) = 0 := by
    rw [List.countP_eq_zero]
    intro byte member
    simp [following byte member]
  rw [bytes, leads, List.countP_cons, none, start]
  rfl

theorem leads_encode (text : List Char) : leads (encode text) = text.length := by
  induction text with
  | nil => rfl
  | cons c rest ih => rw [encode_cons, leads_append, leads_char, ih, List.length_cons, Nat.add_comm]

def owed (state : Option Pending) : Nat := if state.isSome then 1 else 0

@[simp] theorem owed_none : owed none = 0 := rfl

@[simp] theorem owed_some (pending : Pending) : owed (some pending) = 1 := rfl

def lead (byte : UInt8) : Nat := if isContinuation byte then 0 else 1

theorem first_count (byte : UInt8) : (first byte).2.length + owed (first byte).1 = 1 := by
  unfold first
  dsimp only
  repeat' split
  all_goals rfl

theorem next_count (state : Option Pending) (byte : UInt8) :
    owed state + lead byte ≤ (next state byte).2.length + owed (next state byte).1 := by
  have start := first_count byte
  have small : lead byte ≤ 1 := by unfold lead; split <;> omega
  cases state with
  | none =>
      simp only [next, owed_none]
      omega
  | some pending =>
      have lower := pending.lowerBound
      have upper := pending.upperBound
      simp only [next]
      split
      · rename_i fits
        have inside : lead byte = 0 := by
          rw [lead, if_pos ((continuation_iff byte).mpr (by omega))]
        rw [inside]
        split <;> simp
      · simp only [List.length_cons, owed_some]
        omega

theorem decode_length (state : Option Pending) (bytes : Bytes) :
    owed state + leads bytes ≤ (decodeFrom state bytes).length := by
  induction bytes generalizing state with
  | nil => cases state <;> simp [decodeFrom, owed, leads]
  | cons byte rest ih =>
      have head := next_count state byte
      have remaining := ih (next state byte).1
      have split : leads (byte :: rest) = lead byte + leads rest := by
        simp only [leads, List.countP_cons, lead]
        cases isContinuation byte <;> simp [Nat.add_comm]
      rw [decodeFrom, List.length_append, split]
      omega

theorem first_continuation (byte : UInt8) (continuation : isContinuation byte = true) :
    first byte = (none, [Utf16.replacement]) := by
  have range := (continuation_iff byte).mp continuation
  unfold first
  dsimp only
  rw [if_neg (by omega), if_neg (by omega), if_neg (by omega), if_neg (by omega), if_neg (by omega), if_neg (by omega),
    if_neg (by omega), if_neg (by omega)]

-- A chunk that starts inside a character decodes to one character too many.
theorem decode_inside (bytes : Bytes) (inside : startsInside bytes = true) :
    leads bytes < (decode bytes).length := by
  cases bytes with
  | nil => simp [startsInside] at inside
  | cons byte rest =>
      have continuation : isContinuation byte = true := by simpa [startsInside] using inside
      have alone : next none byte = (none, [Utf16.replacement]) := first_continuation byte continuation
      have remaining := decode_length none rest
      simp only [decode, decodeFrom, alone, leads, List.countP_cons, continuation] at remaining ⊢
      simp at remaining ⊢
      omega

theorem decode_length_le (bytes : Bytes) : leads bytes ≤ (decode bytes).length := by
  simpa [decode] using decode_length none bytes

theorem decode_chunks_length (chunks : List Bytes) :
    leads chunks.flatten ≤ ((chunks.map decode).flatten).length ∧
      ((∃ chunk ∈ chunks, startsInside chunk = true) →
        leads chunks.flatten < ((chunks.map decode).flatten).length) := by
  induction chunks with
  | nil => simp [leads]
  | cons chunk rest ih =>
      have here := decode_length_le chunk
      simp only [List.flatten_cons, leads_append, List.map_cons, List.length_append, List.mem_cons]
      refine ⟨by omega, ?_⟩
      rintro ⟨inside, rfl | member, starts⟩
      · have strict := decode_inside inside starts
        omega
      · have strict := ih.2 ⟨inside, member, starts⟩
        omega

-- In front of a byte that is no continuation byte a stream splits between characters.
theorem encode_split (text : List Char) (left right : Bytes) (whole : left ++ right = encode text)
    (cut : startsInside right = false) : ∃ before after, text = before ++ after ∧ left = encode before ∧
      right = encode after := by
  induction text generalizing left with
  | nil =>
      obtain ⟨rfl, rfl⟩ := List.append_eq_nil_iff.mp whole
      exact ⟨[], [], rfl, rfl, rfl⟩
  | cons c rest ih =>
      rw [encode_cons, List.append_eq_append_iff] at whole
      rcases whole with ⟨gap, charBytes, rightBytes⟩ | ⟨gap, leftBytes, restBytes⟩
      · cases left with
        | nil => exact ⟨[], c :: rest, rfl, rfl, by rw [rightBytes, encode_cons, charBytes, List.nil_append]⟩
        | cons byte before =>
            cases gap with
            | nil => exact ⟨[c], rest, rfl, by simp [charBytes], by simpa using rightBytes⟩
            | cons inner tail =>
                -- the first byte of the right part would follow the lead byte of this character
                obtain ⟨lead, following, bytes, _, continues⟩ := char_bytes c
                have member : inner ∈ following := by
                  rw [bytes, List.cons_append, List.cons.injEq] at charBytes
                  rw [charBytes.2]
                  simp
                simp [rightBytes, startsInside, continues inner member] at cut
      · obtain ⟨before, after, text, left, right⟩ := ih gap restBytes.symm
        exact ⟨c :: before, after, by rw [text, List.cons_append], by rw [leftBytes, left, encode_cons], right⟩

theorem flatten_starts (chunks : List Bytes) (aligned : ∀ chunk ∈ chunks, startsInside chunk = false) :
    startsInside chunks.flatten = false := by
  induction chunks with
  | nil => rfl
  | cons chunk rest ih =>
      cases chunk with
      | nil => simpa using ih (fun c member => aligned c (by simp [member]))
      | cons byte tail => simpa [startsInside] using aligned (byte :: tail) (by simp)

theorem decode_aligned (chunks : List Bytes) (text : List Char) (whole : chunks.flatten = encode text)
    (aligned : ∀ chunk ∈ chunks, startsInside chunk = false) : (chunks.map decode).flatten = text := by
  induction chunks generalizing text with
  | nil => exact encode_injective [] text whole
  | cons chunk rest ih =>
      have later : ∀ c ∈ rest, startsInside c = false := fun c member => aligned c (by simp [member])
      obtain ⟨before, after, parts, here, remaining⟩ :=
        encode_split text chunk rest.flatten whole (flatten_starts rest later)
      rw [List.map_cons, List.flatten_cons, here, decode_encode, ih after remaining later, parts]

/-- Chunks decoded one by one give the text of a well-formed stream exactly when no chunk
starts inside a character. -/
theorem decode_chunks_iff (chunks : List Bytes) (text : List Char) (whole : chunks.flatten = encode text) :
    (chunks.map decode).flatten = text ↔ ∀ chunk ∈ chunks, startsInside chunk = false := by
  constructor
  · intro same chunk member
    cases inside : startsInside chunk with
    | false => rfl
    | true =>
        have strict := (decode_chunks_length chunks).2 ⟨chunk, member, inside⟩
        rw [whole, leads_encode, same] at strict
        exact absurd strict (Nat.lt_irrefl _)
  · exact decode_aligned chunks text whole

end Utf8
