import Kessh.Tools.SubnetCalc

set_option autoImplicit false

namespace Kessh

open Ecma
open Word32 (shiftLeft unsignedShiftRight bitAnd bitOr bitNot word)

namespace Subnet

def address (octets : List Nat) : Nat := octets.foldl (fun value octet => value * 256 + octet) 0

def ints (octets : List Nat) : List Int := octets.map fun octet : Nat => (octet : Int)

theorem fold_word (octets : List Nat) (accumulator : Int) (value : Nat) (same : (word accumulator).toNat = value % 2 ^ 32) :
    (word ((ints octets).foldl (fun accumulator value => shiftLeft accumulator 8 + value) accumulator)).toNat =
      octets.foldl (fun value octet => value * 256 + octet) value % 2 ^ 32 := by
  induction octets generalizing accumulator value with
  | nil => exact same
  | cons octet rest ih =>
      refine ih _ (value * 256 + octet) ?_
      rw [Word32.word_add, Word32.word_shiftLeft, BitVec.toNat_add, BitVec.toNat_shiftLeft, Word32.word_natCast, same,
        Nat.shiftLeft_eq]
      have count : ((8 : Int) % 32).toNat = 8 := rfl
      rw [count]
      omega

theorem addressOf_address (octets : List Nat) : addressOf (ints octets) = (address octets % 2 ^ 32 : Nat) := by
  rw [addressOf, Word32.unsignedShiftRight_zero, fold_word octets 0 0 rfl, address]

theorem toDotted_dotted (value : Int) : toDotted value = Ipv4.dotted (word value).toNat := by
  have high : ((24 : Int) % 32).toNat = 24 := rfl
  have upper : ((16 : Int) % 32).toNat = 16 := rfl
  have lower : ((8 : Int) % 32).toNat = 8 := rfl
  rw [toDotted, Ipv4.dotted]
  simp only [Word32.bitAnd_byte, Word32.word_unsignedShiftRight, high, upper, lower, BitVec.toNat_ushiftRight,
    Nat.shiftRight_eq_div_pow]
  rfl

-- A shift by 32 - 0 is a shift by none: the calculators take a prefix of no bits for one of 32.
def prefixOf (maskBits : Nat) : Nat := if maskBits = 0 then 32 else maskBits

theorem prefix_bounds (maskBits : Nat) (inside : maskBits ≤ 32) : 1 ≤ prefixOf maskBits ∧ prefixOf maskBits ≤ 32 := by
  unfold prefixOf
  split
  · decide
  · omega

theorem shift_count (maskBits : Nat) (inside : maskBits ≤ 32) :
    (((32 : Int) - maskBits) % 32).toNat = 32 - prefixOf maskBits := by
  unfold prefixOf
  split
  · rename_i none
    rw [none]
    rfl
  · omega

theorem word_ones : word 0xFFFFFFFF = BitVec.allOnes 32 := by decide

theorem word_maskOf (maskBits : Nat) (inside : maskBits ≤ 32) :
    word (maskOf maskBits) = BitVec.allOnes 32 <<< (32 - prefixOf maskBits) := by
  rw [maskOf, Word32.unsignedShiftRight_zero, Word32.word_toNat, Word32.word_shiftLeft, word_ones,
    shift_count maskBits inside]

theorem networkOf_value (ipNum : Int) (maskBits : Nat) (inside : maskBits ≤ 32) :
    networkOf ipNum (maskOf maskBits) = (Ipv4.network (word ipNum).toNat (prefixOf maskBits) : Nat) := by
  rw [networkOf, Word32.unsignedShiftRight_zero, Word32.word_bitAnd, word_maskOf maskBits inside, Ipv4.word_network]

theorem broadcastOf_value (ipNum : Int) (maskBits : Nat) (inside : maskBits ≤ 32) :
    broadcastOf (networkOf ipNum (maskOf maskBits)) (maskOf maskBits) =
      (Ipv4.broadcast (word ipNum).toNat (prefixOf maskBits) : Nat) := by
  have net : word (networkOf ipNum (maskOf maskBits)) = word ipNum &&& word (maskOf maskBits) := by
    rw [networkOf, Word32.unsignedShiftRight_zero, Word32.word_toNat, Word32.word_bitAnd]
  rw [broadcastOf, Word32.unsignedShiftRight_zero, Word32.word_bitOr, net, Word32.word_bitAnd, Word32.word_bitNot,
    word_ones, BitVec.and_allOnes, word_maskOf maskBits inside,
    Ipv4.word_broadcast _ _ (prefix_bounds maskBits inside).1]

-- What the two calculators show, whatever the names of the classes.
structure Shown (result : SubnetResult) (address maskBits : Nat) : Prop where
  mask : result.mask = Ipv4.dotted (Ipv4.mask (prefixOf maskBits))
  network : result.network = Ipv4.dotted (Ipv4.network address (prefixOf maskBits))
  broadcast : result.broadcast = Ipv4.dotted (Ipv4.broadcast address (prefixOf maskBits))
  firstHost : result.firstHost = Ipv4.dotted ((Ipv4.network address (prefixOf maskBits) + 1) % 2 ^ 32)
  lastHost : result.lastHost = Ipv4.dotted ((Ipv4.broadcast address (prefixOf maskBits) + (2 ^ 32 - 1)) % 2 ^ 32)
  totalHosts : result.totalHosts = (2 ^ (32 - maskBits) : Nat)
  usableHosts : result.usableHosts =
    if maskBits = 32 then 1 else if maskBits = 31 then 2 else ((2 ^ (32 - maskBits) : Nat) : Int) - 2

theorem subnet_shown (names : ClassNames) (octets : List Nat) (range : address octets < 2 ^ 32) (maskBits : Nat)
    (inside : maskBits ≤ 32) : Shown (subnet names (ints octets) maskBits) (address octets) maskBits := by
  have ipNum : (word (addressOf (ints octets))).toNat = address octets := by
    rw [addressOf_address, Word32.word_natCast, Nat.mod_mod, Nat.mod_eq_of_lt range]
  have total : ((32 : Int) - maskBits).toNat = 32 - maskBits := by omega
  have bounds := prefix_bounds maskBits inside
  have lower := (Ipv4.network_le (address octets) (prefixOf maskBits)).trans_lt range
  have upper := Ipv4.broadcast_lt (address octets) (prefixOf maskBits) bounds.2 range
  constructor
  · simp only [subnet]
    rw [toDotted_dotted, word_maskOf maskBits inside, Ipv4.word_mask _ bounds.1 bounds.2]
  · simp only [subnet]
    rw [toDotted_dotted, networkOf_value _ maskBits inside, ipNum, Word32.word_natCast, Nat.mod_eq_of_lt lower]
  · simp only [subnet]
    rw [toDotted_dotted, broadcastOf_value _ maskBits inside, ipNum, Word32.word_natCast, Nat.mod_eq_of_lt upper]
  · simp only [subnet]
    rw [toDotted_dotted, networkOf_value _ maskBits inside, ipNum, ← Word32.word_natCast]
    rfl
  · simp only [subnet]
    rw [toDotted_dotted, broadcastOf_value _ maskBits inside, ipNum, Int.sub_eq_add_neg, Word32.word_add,
      BitVec.toNat_add, Word32.word_natCast, Nat.mod_add_mod]
    rfl
  · simp only [subnet]
    rw [total]
    push_cast
    rfl
  · have single : (maskBits : Int) = 32 ↔ maskBits = 32 := by omega
    have pair : (maskBits : Int) = 31 ↔ maskBits = 31 := by omega
    simp only [subnet, single, pair]
    rw [total]
    push_cast
    rfl

def Dotted (text : JsString) (octets : List Nat) : Prop :=
  ∃ pieces : List JsString, pieces.length = 4 ∧ text = join (js ".") pieces ∧
    (∀ piece ∈ pieces, isDecimal piece = true) ∧ octets = pieces.map (digitsFrom 0) ∧ ∀ octet ∈ octets, octet ≤ 255

theorem dotted_split (text : JsString) (octets : List Nat) (typed : Dotted text octets) :
    (text.splitOn 0x2E).length = 4 ∧ (∀ piece ∈ text.splitOn 0x2E, isDecimal piece = true) ∧
      octets = (text.splitOn 0x2E).map (digitsFrom 0) := by
  obtain ⟨pieces, four, rfl, numerals, rfl, _⟩ := typed
  have dotless : ∀ piece ∈ pieces, 0x2E ∉ piece := fun piece member inside =>
    absurd ((decimal_digits piece (numerals piece member)).2 _ inside) (by decide)
  have some : pieces ≠ [] := by
    rintro rfl
    cases four
  rw [(splitOn_iff 0x2E _ pieces).mpr ⟨some, dotless, by rw [Ipv4.js_dot]⟩]
  exact ⟨four, numerals, rfl⟩

theorem dotted_accepted (parse : JsString → Option Int)
    (reads : ∀ piece, isDecimal piece = true → parse piece = some (digitsFrom 0 piece : Int)) (text : JsString)
    (octets : List Nat) (typed : Dotted text octets) : octetsOf parse text = some (ints octets) := by
  obtain ⟨four, numerals, same⟩ := dotted_split text octets typed
  obtain ⟨_, _, _, _, _, small⟩ := typed
  refine (octetsOf_iff parse text _).mpr ⟨four, ?_⟩
  rw [same] at small ⊢
  rw [ints, List.map_map, List.forall₂_map_right_iff, List.forall₂_same]
  intro piece member
  have most := small _ (List.mem_map_of_mem member)
  exact ⟨reads piece (numerals piece member), by simp, Int.ofNat_le.mpr most⟩

theorem parseIntAuto_reads (piece : JsString) (numeral : isDecimal piece = true) :
    parseIntAuto piece = some (digitsFrom 0 piece : Int) := by
  rw [parseIntAuto_decimal_text piece numeral, parseInt_decimal_text piece numeral]

theorem address_range (text : JsString) (octets : List Nat) (typed : Dotted text octets) : address octets < 2 ^ 32 := by
  obtain ⟨pieces, four, _, _, rfl, small⟩ := typed
  obtain ⟨a, b, c, d, rfl⟩ := List.length_eq_four.mp four
  simp only [List.map_cons, List.map_nil, List.forall_mem_cons, List.not_mem_nil, false_implies, implies_true,
    and_true] at small
  simp only [address, List.map_cons, List.map_nil, List.foldl_cons, List.foldl_nil]
  omega

-- The law of a prefix of n bits, read from what is shown.
structure Arithmetic (result : SubnetResult) (address n : Nat) : Prop where
  mask : result.mask = Ipv4.dotted (Ipv4.mask n)
  network : result.network = Ipv4.dotted (Ipv4.network address n)
  broadcast : result.broadcast = Ipv4.dotted (Ipv4.broadcast address n)
  total : result.totalHosts = (2 ^ (32 - n) : Nat)
  counted : (Ipv4.broadcast address n : Int) - Ipv4.network address n + 1 = result.totalHosts

theorem mask_bounds (n : Nat) (some : 1 ≤ n) (inside : n ≤ 32) : 2 ^ 31 ≤ Ipv4.mask n ∧ Ipv4.mask n < 2 ^ 32 := by
  have positive : 1 ≤ 2 ^ (32 - n) := Nat.one_le_two_pow
  have most : 2 ^ (32 - n) ≤ 2 ^ 31 := Nat.pow_le_pow_right (by omega) (by omega)
  rw [Ipv4.mask_value n inside]
  omega

theorem arithmetic_iff (result : SubnetResult) (address maskBits n : Nat) (inside : maskBits ≤ 32)
    (typed : n ≠ 0 → maskBits = n) (shown : Shown result address maskBits) : Arithmetic result address n ↔ n ≠ 0 := by
  constructor
  · rintro law rfl
    have bounds := prefix_bounds maskBits inside
    have range := mask_bounds (prefixOf maskBits) bounds.1 bounds.2
    have same := Ipv4.dotted_injective _ _ range.2 (by decide) (shown.mask.symm.trans law.mask)
    have zero : Ipv4.mask 0 = 0 := rfl
    omega
  · intro some
    obtain rfl := typed some
    have whole : prefixOf maskBits = maskBits := if_neg some
    have size := Ipv4.size_value address maskBits
    have least : Ipv4.network address maskBits ≤ Ipv4.broadcast address maskBits := by
      rw [Ipv4.broadcast_value]
      omega
    refine ⟨whole ▸ shown.mask, whole ▸ shown.network, whole ▸ shown.broadcast, shown.totalHosts, ?_⟩
    rw [shown.totalHosts, ← size]
    omega

-- The hosts shown lie in order inside the network, and are as many as is said next to them.
def HostRange (result : SubnetResult) : Prop :=
  ∃ network first last broadcast : Nat, network < 2 ^ 32 ∧ first < 2 ^ 32 ∧ last < 2 ^ 32 ∧ broadcast < 2 ^ 32 ∧
    result.network = Ipv4.dotted network ∧ result.firstHost = Ipv4.dotted first ∧
    result.lastHost = Ipv4.dotted last ∧ result.broadcast = Ipv4.dotted broadcast ∧
    network ≤ first ∧ first ≤ last ∧ last ≤ broadcast ∧ (last : Int) - first + 1 = result.usableHosts

theorem hostRange_iff (result : SubnetResult) (address maskBits : Nat) (range : address < 2 ^ 32)
    (inside : maskBits ≤ 32) (shown : Shown result address maskBits) :
    HostRange result ↔ 1 ≤ maskBits ∧ maskBits ≤ 30 := by
  have bounds := prefix_bounds maskBits inside
  have upper := Ipv4.broadcast_lt address (prefixOf maskBits) bounds.2 range
  have ends := Ipv4.broadcast_value address (prefixOf maskBits)
  have lower : Ipv4.network address (prefixOf maskBits) < 2 ^ 32 := by omega
  constructor
  · rintro ⟨network, first, last, broadcast, networks, firsts, lasts, broadcasts, networkText, firstText, lastText,
      broadcastText, started, ordered, ended, _⟩
    have positive := Nat.two_pow_pos 32
    have networkSame := Ipv4.dotted_injective _ _ networks lower (networkText.symm.trans shown.network)
    have firstSame := Ipv4.dotted_injective _ _ firsts (Nat.mod_lt _ positive) (firstText.symm.trans shown.firstHost)
    have lastSame := Ipv4.dotted_injective _ _ lasts (Nat.mod_lt _ positive) (lastText.symm.trans shown.lastHost)
    have broadcastSame := Ipv4.dotted_injective _ _ broadcasts upper (broadcastText.symm.trans shown.broadcast)
    refine Decidable.byContradiction fun outside => ?_
    -- the network has one address or two
    have size : 2 ^ (32 - prefixOf maskBits) = 1 ∨ 2 ^ (32 - prefixOf maskBits) = 2 := by
      obtain rfl | rfl | rfl : maskBits = 0 ∨ maskBits = 31 ∨ maskBits = 32 := by omega
      · exact .inl rfl
      · exact .inr rfl
      · exact .inl rfl
    omega
  · rintro ⟨least, most⟩
    have whole : prefixOf maskBits = maskBits := if_neg (by omega)
    have size : 2 ^ 2 ≤ 2 ^ (32 - maskBits) := Nat.pow_le_pow_right (by omega) (by omega)
    have usable := shown.usableHosts
    rw [if_neg (by omega), if_neg (by omega)] at usable
    rw [whole] at ends upper lower
    refine ⟨_, _, _, _, lower, Nat.mod_lt _ (Nat.two_pow_pos 32), Nat.mod_lt _ (Nat.two_pow_pos 32), upper, whole ▸ shown.network,
      whole ▸ shown.firstHost, whole ▸ shown.lastHost, whole ▸ shown.broadcast, ?_⟩
    rw [usable]
    omega

-- An address of four octets and a prefix of n bits, typed in decimal.
structure Typed (ip maskText : JsString) (octets : List Nat) (n : Nat) : Prop where
  address : Dotted (trim ip) octets
  numeral : isDecimal maskText = true
  value : digitsFrom 0 maskText = n
  inside : n ≤ 32

theorem clamp_inside (n : Nat) (inside : n ≤ 32) : clamp n = n := by
  unfold clamp
  rw [if_neg (by omega), if_neg (by omega)]

theorem lynx_bits (maskText : JsString) (n : Nat) (numeral : isDecimal maskText = true)
    (value : digitsFrom 0 maskText = n) (inside : n ≤ 32) : SubnetCalcPage.bits maskText = n := by
  rw [SubnetCalcPage.bits, parseInt_decimal_text maskText numeral, value]
  exact clamp_inside n inside

-- The bits that the ArkTS page takes for a decimal numeral.
def arktsBits (n : Nat) : Nat := if n = 0 then 24 else n

theorem arkts_inside (n : Nat) (inside : n ≤ 32) : arktsBits n ≤ 32 := by
  unfold arktsBits
  split
  · decide
  · exact inside

theorem arkts_bits (maskText : JsString) (n : Nat) (numeral : isDecimal maskText = true)
    (value : digitsFrom 0 maskText = n) (inside : n ≤ 32) : SubnetCalc.maskBits maskText = arktsBits n := by
  have same : (if (n : Int) = 0 then 24 else (n : Int)) = (arktsBits n : Nat) := by
    unfold arktsBits
    split
    · rw [if_pos (by omega)]
      rfl
    · rw [if_neg (by omega)]
  rw [SubnetCalc.maskBits, parseIntAuto_reads maskText numeral, value]
  dsimp only
  rw [same]
  exact clamp_inside _ (arkts_inside n inside)

theorem lynx_shows (page : SubnetCalcPage.Page) (octets : List Nat) (n : Nat)
    (typed : Typed page.ip page.maskText octets n) :
    ∃ result, (SubnetCalcPage.run page).result = some result ∧ Shown result (address octets) n := by
  have accepted := dotted_accepted parseInt parseInt_decimal_text _ octets typed.address
  have bits := lynx_bits page.maskText n typed.numeral typed.value typed.inside
  refine ⟨subnet SubnetCalcPage.classNames (ints octets) n, ?_,
    subnet_shown _ octets (address_range _ octets typed.address) n typed.inside⟩
  rw [SubnetCalcPage.run_accepted page _ accepted, bits]

theorem arkts_shows (page : SubnetCalc.Page) (octets : List Nat) (n : Nat)
    (typed : Typed page.subnetIp page.subnetMask octets n) :
    ∃ result, SubnetCalc.computed (trim page.subnetIp) (SubnetCalc.maskBits page.subnetMask) = some result ∧
      (SubnetCalc.calculateSubnet page).subnetResult =
        SubnetCalc.resultText (trim page.subnetIp) (SubnetCalc.maskBits page.subnetMask) result ∧
      Shown result (address octets) (arktsBits n) := by
  have accepted := dotted_accepted parseIntAuto parseIntAuto_reads _ octets typed.address
  have bits := arkts_bits page.subnetMask n typed.numeral typed.value typed.inside
  have computed : SubnetCalc.computed (trim page.subnetIp) (SubnetCalc.maskBits page.subnetMask) =
      some (subnet SubnetCalc.classNames (ints octets) (arktsBits n)) := by
    rw [SubnetCalc.computed, accepted, bits]
    rfl
  refine ⟨_, computed, ?_, subnet_shown _ octets (address_range _ octets typed.address) _ (arkts_inside n typed.inside)⟩
  rw [SubnetCalc.calculateSubnet_accepted page _ accepted, bits]
  rfl

/-- For every address and prefix typed in decimal both pages show the mask, the network, the broadcast
and the count of the prefix, but for a prefix of no bits. -/
theorem subnet_arithmetic (lynx : SubnetCalcPage.Page) (arkts : SubnetCalc.Page) (octets : List Nat) (n : Nat)
    (lynxTyped : Typed lynx.ip lynx.maskText octets n) (arktsTyped : Typed arkts.subnetIp arkts.subnetMask octets n) :
    (∃ result, (SubnetCalcPage.run lynx).result = some result ∧ (Arithmetic result (address octets) n ↔ n ≠ 0)) ∧
      ∃ result, SubnetCalc.computed (trim arkts.subnetIp) (SubnetCalc.maskBits arkts.subnetMask) = some result ∧
        (SubnetCalc.calculateSubnet arkts).subnetResult =
          SubnetCalc.resultText (trim arkts.subnetIp) (SubnetCalc.maskBits arkts.subnetMask) result ∧
        (Arithmetic result (address octets) n ↔ n ≠ 0) := by
  constructor
  · obtain ⟨result, ran, shown⟩ := lynx_shows lynx octets n lynxTyped
    exact ⟨result, ran, arithmetic_iff result _ n n lynxTyped.inside (fun _ => rfl) shown⟩
  · obtain ⟨result, computed, text, shown⟩ := arkts_shows arkts octets n arktsTyped
    exact ⟨result, computed, text, arithmetic_iff result _ _ n (arkts_inside n arktsTyped.inside)
      (fun some => if_neg some) shown⟩

theorem typed_sample (maskText : JsString) (n : Nat) (numeral : isDecimal maskText = true)
    (value : digitsFrom 0 maskText = n) (inside : n ≤ 32) : Typed (js " 10.1.2.3") maskText [10, 1, 2, 3] n := by
  refine ⟨⟨[js "10", js "1", js "2", js "3"], ?_⟩, numeral, value, inside⟩
  decide

theorem subnet_arithmetic_eight :
    ∃ result, (SubnetCalcPage.run { ip := js " 10.1.2.3", maskText := js "8" }).result = some result ∧
      Arithmetic result (address [10, 1, 2, 3]) 8 := by
  have typed := typed_sample (js "8") 8 (by decide) (by decide) (by decide)
  obtain ⟨⟨result, ran, law⟩, _⟩ := subnet_arithmetic { ip := js " 10.1.2.3", maskText := js "8" }
    { subnetIp := js " 10.1.2.3", subnetMask := js "8" } [10, 1, 2, 3] 8 typed typed
  exact ⟨result, ran, law.mpr (by decide)⟩

-- The mask of no bits is shown as one of 32 on one page, and as one of 24 on the other.
theorem subnet_arithmetic_zero :
    Typed (js " 10.1.2.3") (js "0") [10, 1, 2, 3] 0 ∧
      (∃ result, (SubnetCalcPage.run { ip := js " 10.1.2.3", maskText := js "0" }).result = some result ∧
        result.mask = js "255.255.255.255" ∧ ¬ Arithmetic result (address [10, 1, 2, 3]) 0) ∧
      ∃ result, SubnetCalc.computed (trim (js " 10.1.2.3")) (SubnetCalc.maskBits (js "0")) = some result ∧
        result.mask = js "255.255.255.0" ∧ ¬ Arithmetic result (address [10, 1, 2, 3]) 0 := by
  have typed := typed_sample (js "0") 0 (by decide) (by decide) (by decide)
  have zero : Ipv4.dotted (Ipv4.mask 0) = js "0.0.0.0" := by decide
  obtain ⟨result, ran, shown⟩ := lynx_shows { ip := js " 10.1.2.3", maskText := js "0" } [10, 1, 2, 3] 0 typed
  obtain ⟨other, computed, _, shown'⟩ := arkts_shows { subnetIp := js " 10.1.2.3", subnetMask := js "0" } [10, 1, 2, 3] 0 typed
  have ones : result.mask = js "255.255.255.255" := shown.mask.trans (by decide)
  have most : other.mask = js "255.255.255.0" := shown'.mask.trans (by decide)
  refine ⟨typed, ⟨result, ran, ones, fun law => ?_⟩, other, computed, most, fun law => ?_⟩
  · exact absurd (ones.symm.trans (law.mask.trans zero)) (by decide)
  · exact absurd (most.symm.trans (law.mask.trans zero)) (by decide)

/-- The range of hosts fits the count on the Lynx page for prefixes of 1 to 30 bits, and on the ArkTS page,
which takes no bits for 24, for those of 0 to 30. -/
theorem subnet_host_range (lynx : SubnetCalcPage.Page) (arkts : SubnetCalc.Page) (octets : List Nat) (n : Nat)
    (lynxTyped : Typed lynx.ip lynx.maskText octets n) (arktsTyped : Typed arkts.subnetIp arkts.subnetMask octets n) :
    (∃ result, (SubnetCalcPage.run lynx).result = some result ∧ (HostRange result ↔ 1 ≤ n ∧ n ≤ 30)) ∧
      ∃ result, SubnetCalc.computed (trim arkts.subnetIp) (SubnetCalc.maskBits arkts.subnetMask) = some result ∧
        (SubnetCalc.calculateSubnet arkts).subnetResult =
          SubnetCalc.resultText (trim arkts.subnetIp) (SubnetCalc.maskBits arkts.subnetMask) result ∧
        (HostRange result ↔ n ≤ 30) := by
  have range := address_range _ octets lynxTyped.address
  constructor
  · obtain ⟨result, ran, shown⟩ := lynx_shows lynx octets n lynxTyped
    exact ⟨result, ran, hostRange_iff result _ n range lynxTyped.inside shown⟩
  · obtain ⟨result, computed, text, shown⟩ := arkts_shows arkts octets n arktsTyped
    refine ⟨result, computed, text, ?_⟩
    rw [hostRange_iff result _ _ range (arkts_inside n arktsTyped.inside) shown, arktsBits]
    split
    · rename_i none
      rw [none]
      decide
    · omega

theorem subnet_host_range_eight :
    ∃ result, (SubnetCalcPage.run { ip := js " 10.1.2.3", maskText := js "8" }).result = some result ∧
      HostRange result := by
  have typed := typed_sample (js "8") 8 (by decide) (by decide) (by decide)
  obtain ⟨⟨result, ran, law⟩, _⟩ := subnet_host_range { ip := js " 10.1.2.3", maskText := js "8" }
    { subnetIp := js " 10.1.2.3", subnetMask := js "8" } [10, 1, 2, 3] 8 typed typed
  exact ⟨result, ran, law.mpr (by decide)⟩

-- With 31 bits two hosts are counted, and the first one shown is behind the last.
theorem subnet_host_range_pair :
    Typed (js " 10.1.2.3") (js "31") [10, 1, 2, 3] 31 ∧
      (∃ result, (SubnetCalcPage.run { ip := js " 10.1.2.3", maskText := js "31" }).result = some result ∧
        result.firstHost = js "10.1.2.3" ∧ result.lastHost = js "10.1.2.2" ∧ result.usableHosts = 2 ∧
        ¬ HostRange result) ∧
      ∃ result, SubnetCalc.computed (trim (js " 10.1.2.3")) (SubnetCalc.maskBits (js "31")) = some result ∧
        ¬ HostRange result := by
  have typed := typed_sample (js "31") 31 (by decide) (by decide) (by decide)
  have range := address_range _ _ typed.address
  obtain ⟨result, ran, shown⟩ := lynx_shows { ip := js " 10.1.2.3", maskText := js "31" } [10, 1, 2, 3] 31 typed
  obtain ⟨other, computed, _, shown'⟩ := arkts_shows { subnetIp := js " 10.1.2.3", subnetMask := js "31" } [10, 1, 2, 3] 31 typed
  refine ⟨typed, ⟨result, ran, shown.firstHost.trans (by decide), shown.lastHost.trans (by decide), shown.usableHosts,
    fun law => ?_⟩, other, computed, fun law => ?_⟩
  · exact absurd ((hostRange_iff result _ 31 range typed.inside shown).mp law).2 (by decide)
  · exact absurd ((hostRange_iff other _ 31 range typed.inside shown').mp law).2 (by decide)

end Subnet

end Kessh
