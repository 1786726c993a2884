import Kessh.Tools.SubnetInput

set_option autoImplicit false

-- Where the Lynx page shows what the ArkTS page shows.
namespace Kessh

open Ecma

namespace Subnet

structure SameNumbers (one other : SubnetResult) : Prop where
  mask : one.mask = other.mask
  network : one.network = other.network
  broadcast : one.broadcast = other.broadcast
  firstHost : one.firstHost = other.firstHost
  lastHost : one.lastHost = other.lastHost
  totalHosts : one.totalHosts = other.totalHosts
  usableHosts : one.usableHosts = other.usableHosts

-- The pages name the classes with and without a space: the letter is what they share.
structure Same (one other : SubnetResult) : Prop where
  numbers : SameNumbers one other
  letter : one.ipClass.head? = other.ipClass.head?
  isPrivate : one.isPrivate = other.isPrivate

-- Both refuse the address, or both show the same.
def SameShown : Option SubnetResult → Option SubnetResult → Prop
  | none, none => True
  | some one, some other => Same one other
  | _, _ => False

def hexPart (piece : JsString) : Nat := if isHex piece then ((parseIntAuto piece).getD 0).toNat else 0

def Readable (pieces : List JsString) : Prop :=
  pieces.length = 4 ∧ ∀ piece ∈ pieces, isHex piece = false → ∃ value, parseInt piece = some value ∧ 0 ≤ value ∧ value ≤ 255

-- The mask is not read as 0, or without a radix it is read as a negative number.
def SameMask (maskText : JsString) : Prop :=
  parseInt maskText ≠ some 0 ∨ ∃ value, parseIntAuto maskText = some value ∧ value < 0

-- The pieces with 0x are octets that lie in the part for hosts and change neither class nor kind.
structure SameAddress (pieces : List JsString) (n : Nat) : Prop where
  hex : ∀ piece ∈ pieces, isHex piece = true → ∃ value, parseIntAuto piece = some value ∧ 0 ≤ value ∧ value ≤ 255
  low : address (pieces.map hexPart) < 2 ^ (32 - n)
  letter : hexPart (pieces.getD 0 []) = 0 ∨ hexPart (pieces.getD 0 []) = 127
  second172 : parseInt (pieces.getD 0 []) = some 172 →
    ¬ (16 ≤ hexPart (pieces.getD 1 []) ∧ hexPart (pieces.getD 1 []) ≤ 31)
  second192 : parseInt (pieces.getD 0 []) = some 192 → hexPart (pieces.getD 1 []) ≠ 168

theorem shown_numbers (one other : SubnetResult) (whole left right first second : Nat) (wholes : whole < 2 ^ 32)
    (lefts : left < 2 ^ 32) (parts : Ipv4.Parts whole left right) (firsts : first ≤ 32) (seconds : second ≤ 32)
    (shown : Shown one left first) (shown' : Shown other whole second) :
    SameNumbers one other ↔ first = second ∧ right < 2 ^ (32 - prefixOf first) := by
  have lower (number bits : Nat) (range : number < 2 ^ 32) : Ipv4.network number (prefixOf bits) < 2 ^ 32 :=
    (Ipv4.network_le _ _).trans_lt range
  constructor
  · intro same
    have totals := same.totalHosts
    rw [shown.totalHosts, shown'.totalHosts] at totals
    have powers := Nat.pow_right_injective (Nat.le_refl 2) (Int.ofNat_inj.mp totals)
    obtain rfl : first = second := by omega
    have networks := same.network
    rw [shown.network, shown'.network] at networks
    have equal := Ipv4.dotted_injective _ _ (lower left first lefts) (lower whole first wholes) networks
    exact ⟨rfl, (Ipv4.parts_network whole left right parts _).mp equal.symm⟩
  · rintro ⟨rfl, less⟩
    have equal := (Ipv4.parts_network whole left right parts (prefixOf first)).mpr less
    have ends : Ipv4.broadcast whole (prefixOf first) = Ipv4.broadcast left (prefixOf first) := by
      rw [Ipv4.broadcast, Ipv4.broadcast, equal]
    constructor
    · rw [shown.mask, shown'.mask]
    · rw [shown.network, shown'.network, equal]
    · rw [shown.broadcast, shown'.broadcast, ends]
    · rw [shown.firstHost, shown'.firstHost, equal]
    · rw [shown.lastHost, shown'.lastHost, ends]
    · rw [shown.totalHosts, shown'.totalHosts]
    · rw [shown.usableHosts, shown'.usableHosts]

theorem clamp_bounds (bits : Int) : ∃ n : Nat, n ≤ 32 ∧ clamp bits = n ∧ (n = 0 ↔ bits ≤ 0) := by
  unfold clamp
  dsimp only
  by_cases negative : bits < 0
  · exact ⟨0, by omega, by rw [if_pos negative]; rfl, by omega⟩
  · rw [if_neg negative]
    by_cases large : bits > 32
    · exact ⟨32, Nat.le_refl _, by rw [if_pos large]; rfl, by omega⟩
    · exact ⟨bits.toNat, by omega, by rw [if_neg large]; omega, by omega⟩

theorem sameMask_iff (maskText : JsString) :
    SubnetCalcPage.bits maskText = SubnetCalc.maskBits maskText ↔ SameMask maskText := by
  unfold SubnetCalcPage.bits SubnetCalc.maskBits SameMask
  have default : clamp 24 = 24 := rfl
  have zero : clamp 0 = 0 := rfl
  cases hex : isHex maskText with
  | false =>
      rw [parseIntAuto_plain maskText hex]
      cases parseInt maskText with
      | none => exact iff_of_true rfl (.inl (by simp))
      | some value =>
          by_cases none : value = 0
          · subst none
            simp [default, zero]
          · simp [none]
  | true =>
      rw [parseInt_hex maskText hex, Option.getD_some, zero]
      cases parseIntAuto maskText with
      | none => simp [default]
      | some value =>
          obtain ⟨n, _, same, least⟩ := clamp_bounds value
          by_cases none : value = 0
          · subst none
            simp [default]
          · simp only [none, if_false, same]
            simp only [ne_eq, not_true_eq_false, Option.some.injEq, exists_eq_left', false_or]
            omega

theorem classOf_letter (first : Int) :
    (classOf SubnetCalcPage.classNames first).head? = (classOf SubnetCalc.classNames first).head? := by
  unfold classOf
  repeat' split
  all_goals decide

theorem classOf_none (names : ClassNames) (first : Int) (lower : 0 ≤ first) (upper : first ≤ 255)
    (named : ∀ name ∈ [names.a, names.b, names.c, names.d, names.e], name ≠ []) :
    (classOf names first).head? = none ↔ first = 0 ∨ first = 127 := by
  simp only [List.forall_mem_cons, List.not_mem_nil, false_implies, implies_true, and_true] at named
  obtain ⟨a, b, c, d, e⟩ := named
  rw [List.head?_eq_none_iff, classOf]
  split
  · exact iff_of_false a (by omega)
  split
  · exact iff_of_false b (by omega)
  split
  · exact iff_of_false c (by omega)
  split
  · exact iff_of_false d (by omega)
  split
  · exact iff_of_false e (by omega)
  · exact iff_of_true rfl (by omega)

theorem letter_iff (l r : Nat) (rs : r < 256) (one : l = 0 ∨ r = 0) :
    (classOf SubnetCalcPage.classNames l).head? = (classOf SubnetCalc.classNames ((l + r : Nat) : Int)).head? ↔
      r = 0 ∨ r = 127 := by
  rw [← classOf_letter]
  rcases one with rfl | rfl
  · have zero := (classOf_none SubnetCalcPage.classNames 0 (by omega) (by omega) (by decide)).mpr (.inl rfl)
    have other := classOf_none SubnetCalcPage.classNames ((0 + r : Nat) : Int) (by omega) (by omega) (by decide)
    rw [Nat.cast_zero, zero, eq_comm, other]
    omega
  · exact iff_of_true rfl (.inl rfl)

theorem privateOf_iff (first second : Int) : privateOf first second = true ↔
    first = 10 ∨ first = 172 ∧ 16 ≤ second ∧ second ≤ 31 ∨ first = 192 ∧ second = 168 := by
  unfold privateOf
  split
  · exact iff_of_true rfl (by omega)
  · split
    · exact iff_of_true rfl (by omega)
    · rw [decide_eq_true_eq]
      omega

theorem private_iff (l r second other : Nat) (first : r = 0 ∨ l = 0 ∧ r = 127) (one : second = 0 ∨ other = 0) :
    privateOf l second = privateOf ((l + r : Nat) : Int) ((second + other : Nat) : Int) ↔
      (l = 172 → ¬ (16 ≤ other ∧ other ≤ 31)) ∧ (l = 192 → other ≠ 168) := by
  rw [Bool.eq_iff_iff, privateOf_iff, privateOf_iff]
  rcases first with rfl | ⟨rfl, rfl⟩
  · obtain rfl | rfl | rfl | ⟨_, _, _⟩ : l = 10 ∨ l = 172 ∨ l = 192 ∨ l ≠ 10 ∧ l ≠ 172 ∧ l ≠ 192 := by omega
    · omega
    · omega
    · omega
    · refine iff_of_true (iff_of_false ?_ ?_) ⟨?_, ?_⟩
      all_goals omega
  · omega

-- A piece as both pages read it: an octet for both, or one with 0x for the ArkTS page alone.
structure Split (piece : JsString) (l r : Nat) : Prop where
  octet : l + r < 256
  one : l = 0 ∨ r = 0
  hex : hexPart piece = r
  lynx : parseInt piece = some (l : Int)
  arkts : parseIntAuto piece = some ((l + r : Nat) : Int)

theorem piece_split (piece : JsString)
    (plain : isHex piece = false → ∃ value, parseInt piece = some value ∧ 0 ≤ value ∧ value ≤ 255)
    (hex : isHex piece = true → ∃ value, parseIntAuto piece = some value ∧ 0 ≤ value ∧ value ≤ 255) :
    ∃ l r, Split piece l r := by
  cases marked : isHex piece with
  | false =>
      obtain ⟨value, parsed, lower, upper⟩ := plain marked
      obtain ⟨n, rfl⟩ := Int.eq_ofNat_of_zero_le lower
      refine ⟨n, 0, by omega, .inr rfl, ?_, parsed, ?_⟩
      · rw [hexPart, marked, if_neg Bool.false_ne_true]
      · rw [parseIntAuto_plain piece marked, parsed, Nat.add_zero]
  | true =>
      obtain ⟨value, parsed, lower, upper⟩ := hex marked
      obtain ⟨n, rfl⟩ := Int.eq_ofNat_of_zero_le lower
      refine ⟨0, n, by omega, .inl rfl, ?_, parseInt_hex piece marked, ?_⟩
      · rw [hexPart, marked, if_pos rfl, parsed]
        rfl
      · rw [parsed, Nat.zero_add]

theorem four_accepted (parse : JsString → Option Int) (text : JsString) (p q s t : JsString) (a b c d : Nat)
    (pieces : text.splitOn 0x2E = [p, q, s, t]) (as : a < 256) (bs : b < 256) (cs : c < 256) (ds : d < 256)
    (first : parse p = some (a : Int)) (second : parse q = some (b : Int)) (third : parse s = some (c : Int))
    (fourth : parse t = some (d : Int)) : octetsOf parse text = some (ints [a, b, c, d]) := by
  have octet (n : Nat) (small : n < 256) : 0 ≤ (n : Int) ∧ (n : Int) ≤ 255 := by omega
  refine (octetsOf_iff parse text _).mpr ?_
  rw [pieces]
  exact ⟨rfl, .cons ⟨first, octet a as⟩ (.cons ⟨second, octet b bs⟩ (.cons ⟨third, octet c cs⟩
    (.cons ⟨fourth, octet d ds⟩ .nil)))⟩

theorem address_four (a b c d : Nat) : address [a, b, c, d] = ((a * 256 + b) * 256 + c) * 256 + d := by
  simp [address]

theorem parts_four (a b c d a' b' c' d' : Nat) (as : a < 256) (bs : b < 256) (cs : c < 256) (ds : d < 256)
    (as' : a' < 256) (bs' : b' < 256) (cs' : c' < 256) (ds' : d' < 256) (first : a = 0 ∨ a' = 0) (second : b = 0 ∨ b' = 0)
    (third : c = 0 ∨ c' = 0) (fourth : d = 0 ∨ d' = 0) :
    Ipv4.Parts (address [a + a', b + b', c + c', d + d']) (address [a, b, c, d]) (address [a', b', c', d']) := by
  rw [address_four, address_four, address_four]
  have none : Ipv4.Parts 0 0 0 := fun i => by simp
  have one := Ipv4.parts_octet 0 0 0 a a' none as as' first
  rw [Nat.zero_mul, Nat.zero_add, Nat.zero_add, Nat.zero_add] at one
  exact Ipv4.parts_octet _ _ _ d d' (Ipv4.parts_octet _ _ _ c c' (Ipv4.parts_octet _ _ _ b b' one bs bs' second) cs cs' third)
    ds ds' fourth

def HexOctets (pieces : List JsString) : Prop :=
  ∀ piece ∈ pieces, isHex piece = true → ∃ value, parseIntAuto piece = some value ∧ 0 ≤ value ∧ value ≤ 255

theorem lynx_accepts_iff (text : JsString) :
    (∃ octets, octetsOf parseInt text = some octets) ↔ Readable (text.splitOn 0x2E) := by
  constructor
  · rintro ⟨octets, accepted⟩
    obtain ⟨four, parsed⟩ := (octetsOf_iff parseInt text octets).mp accepted
    exact ⟨four, fun piece member _ => forall₂_left parsed piece member⟩
  · rintro ⟨four, plain⟩
    refine ⟨_, pieces_accepted parseInt text four fun piece member => ?_⟩
    cases marked : isHex piece with
    | false => exact plain piece member marked
    | true => exact ⟨0, parseInt_hex piece marked, by omega, by omega⟩

theorem arkts_accepts_iff (text : JsString) :
    (∃ octets, octetsOf parseIntAuto text = some octets) ↔
      Readable (text.splitOn 0x2E) ∧ HexOctets (text.splitOn 0x2E) := by
  constructor
  · rintro ⟨octets, accepted⟩
    obtain ⟨four, parsed⟩ := (octetsOf_iff parseIntAuto text octets).mp accepted
    have each := forall₂_left parsed
    refine ⟨⟨four, fun piece member marked => ?_⟩, fun piece member _ => each piece member⟩
    rw [← parseIntAuto_plain piece marked]
    exact each piece member
  · rintro ⟨⟨four, plain⟩, hex⟩
    refine ⟨_, pieces_accepted parseIntAuto text four fun piece member => ?_⟩
    cases marked : isHex piece with
    | false =>
        rw [parseIntAuto_plain piece marked]
        exact plain piece member marked
    | true => exact hex piece member marked

theorem octetsOf_none (parse : JsString → Option Int) (text : JsString)
    (refused : ¬ ∃ octets, octetsOf parse text = some octets) : octetsOf parse text = none :=
  Option.eq_none_iff_forall_ne_some.mpr fun octets accepted => refused ⟨octets, accepted⟩

theorem bits_inside (maskText : JsString) :
    ∃ m n : Nat, m ≤ 32 ∧ n ≤ 32 ∧ SubnetCalcPage.bits maskText = m ∧ SubnetCalc.maskBits maskText = n := by
  obtain ⟨m, lynxInside, lynx, _⟩ := clamp_bounds ((parseInt maskText).getD 24)
  obtain ⟨n, arktsInside, arkts, _⟩ := clamp_bounds _
  exact ⟨m, n, lynxInside, arktsInside, lynx, arkts⟩

theorem same_iff (a b c d a' b' c' d' m n : Nat) (as : a + a' < 256) (bs : b + b' < 256) (cs : c + c' < 256)
    (ds : d + d' < 256) (first : a = 0 ∨ a' = 0) (second : b = 0 ∨ b' = 0) (third : c = 0 ∨ c' = 0)
    (fourth : d = 0 ∨ d' = 0) (ms : m ≤ 32) (ns : n ≤ 32) :
    Same (subnet SubnetCalcPage.classNames (ints [a, b, c, d]) m)
        (subnet SubnetCalc.classNames (ints [a + a', b + b', c + c', d + d']) n) ↔
      m = n ∧ address [a', b', c', d'] < 2 ^ (32 - prefixOf m) ∧ (a' = 0 ∨ a' = 127) ∧
        (a = 172 → ¬ (16 ≤ b' ∧ b' ≤ 31)) ∧ (a = 192 → b' ≠ 168) := by
  have lefts : address [a, b, c, d] < 2 ^ 32 := by rw [address_four]; omega
  have wholes : address [a + a', b + b', c + c', d + d'] < 2 ^ 32 := by rw [address_four]; omega
  have parts := parts_four a b c d a' b' c' d' (by omega) (by omega) (by omega) (by omega) (by omega) (by omega) (by omega)
    (by omega) first second third fourth
  have numbers := shown_numbers _ _ _ _ _ m n wholes lefts parts ms ns
    (subnet_shown SubnetCalcPage.classNames _ lefts m ms) (subnet_shown SubnetCalc.classNames _ wholes n ns)
  have letter := letter_iff a a' (by omega) first
  constructor
  · rintro ⟨same, sameLetter, samePrivate⟩
    obtain ⟨bits, low⟩ := numbers.mp same
    have letters := letter.mp sameLetter
    exact ⟨bits, low, letters, (private_iff a a' b b' (by omega) second).mp samePrivate⟩
  · rintro ⟨bits, low, letters, kind⟩
    exact ⟨numbers.mpr ⟨bits, low⟩, letter.mpr letters, (private_iff a a' b b' (by omega) second).mpr kind⟩

theorem sameAddress_iff (p q s t : JsString) (a b c d a' b' c' d' n : Nat) (first : Split p a a') (second : Split q b b')
    (third : Split s c c') (fourth : Split t d d') (hex : HexOctets [p, q, s, t]) :
    SameAddress [p, q, s, t] n ↔ address [a', b', c', d'] < 2 ^ (32 - n) ∧ (a' = 0 ∨ a' = 127) ∧
      (a = 172 → ¬ (16 ≤ b' ∧ b' ≤ 31)) ∧ (a = 192 → b' ≠ 168) := by
  have known (k : Nat) : parseInt p = some (k : Int) ↔ a = k := by
    rw [first.lynx, Option.some.injEq]
    exact Int.ofNat_inj
  have parts : [p, q, s, t].map hexPart = [a', b', c', d'] := by
    simp [first.hex, second.hex, third.hex, fourth.hex]
  constructor
  · rintro ⟨_, low, letter, second172, second192⟩
    rw [parts] at low
    refine ⟨low, by simpa [first.hex] using letter, fun same => ?_, fun same => ?_⟩
    · simpa [second.hex] using second172 ((known 172).mpr same)
    · simpa [second.hex] using second192 ((known 192).mpr same)
  · rintro ⟨low, letter, second172, second192⟩
    refine ⟨hex, by rw [parts]; exact low, by simpa [first.hex] using letter, fun read => ?_, fun read => ?_⟩
    · simpa [second.hex] using second172 ((known 172).mp read)
    · simpa [second.hex] using second192 ((known 192).mp read)

theorem accepted_same_iff (text maskText : JsString) (readable : Readable (text.splitOn 0x2E))
    (hex : HexOctets (text.splitOn 0x2E)) :
    SameShown (SubnetCalcPage.calculate text (SubnetCalcPage.bits maskText))
        (SubnetCalc.computed text (SubnetCalc.maskBits maskText)) ↔
      SameMask maskText ∧ SameAddress (text.splitOn 0x2E) (prefixOf (SubnetCalcPage.bits maskText).toNat) := by
  obtain ⟨four, plain⟩ := readable
  obtain ⟨p, q, s, t, pieces⟩ := List.length_eq_four.mp four
  rw [pieces] at plain hex ⊢
  have each (piece : JsString) (member : piece ∈ [p, q, s, t]) := piece_split piece (plain piece member) (hex piece member)
  obtain ⟨a, a', first⟩ := each p (by simp)
  obtain ⟨b, b', second⟩ := each q (by simp)
  obtain ⟨c, c', third⟩ := each s (by simp)
  obtain ⟨d, d', fourth⟩ := each t (by simp)
  have as := first.octet
  have bs := second.octet
  have cs := third.octet
  have ds := fourth.octet
  have lynx := four_accepted parseInt text p q s t a b c d pieces (by omega) (by omega) (by omega) (by omega) first.lynx
    second.lynx third.lynx fourth.lynx
  have arkts := four_accepted parseIntAuto text p q s t _ _ _ _ pieces as bs cs ds first.arkts second.arkts third.arkts
    fourth.arkts
  obtain ⟨m, n, ms, ns, lynxBits, arktsBits⟩ := bits_inside maskText
  have sameMask := sameMask_iff maskText
  rw [lynxBits, arktsBits, Int.ofNat_inj] at sameMask
  rw [lynxBits, arktsBits, SubnetCalcPage.calculate, SubnetCalc.computed, lynx, arkts, Int.toNat_natCast, ← sameMask,
    sameAddress_iff p q s t a b c d a' b' c' d' _ first second third fourth hex]
  exact same_iff a b c d a' b' c' d' m n as bs cs ds first.one second.one third.one fourth.one ms ns

/-- The pages agree on an address and a mask exactly where both refuse the address for a piece without 0x, or
where the masks are read alike and every piece with 0x is an octet that shows in nothing. -/
theorem subnet_parity (ip maskText : JsString) :
    SameShown (SubnetCalcPage.calculate (trim ip) (SubnetCalcPage.bits maskText))
        (SubnetCalc.computed (SubnetCalc.normalizeHost ip) (SubnetCalc.maskBits maskText)) ↔
      ¬ Readable ((trim ip).splitOn 0x2E) ∨
        SameMask maskText ∧ SameAddress ((trim ip).splitOn 0x2E) (prefixOf (SubnetCalcPage.bits maskText).toNat) := by
  rw [SubnetCalc.normalizeHost]
  have lynx := lynx_accepts_iff (trim ip)
  have arkts := arkts_accepts_iff (trim ip)
  by_cases readable : Readable ((trim ip).splitOn 0x2E)
  · by_cases hex : HexOctets ((trim ip).splitOn 0x2E)
    · rw [accepted_same_iff _ maskText readable hex]
      simp [readable]
    · obtain ⟨octets, accepted⟩ := lynx.mpr readable
      have refused := octetsOf_none parseIntAuto (trim ip) fun accepts => hex (arkts.mp accepts).2
      rw [SubnetCalcPage.calculate, SubnetCalc.computed, accepted, refused]
      refine iff_of_false id ?_
      rintro (refuses | ⟨_, same⟩)
      · exact refuses readable
      · exact hex same.hex
  · have lynxNone := octetsOf_none parseInt (trim ip) fun accepts => readable (lynx.mp accepts)
    have arktsNone := octetsOf_none parseIntAuto (trim ip) fun accepts => readable (arkts.mp accepts).1
    rw [SubnetCalcPage.calculate, SubnetCalc.computed, lynxNone, arktsNone]
    exact iff_of_true trivial (.inl readable)

-- A mask of 0 bits is one of 24 for the ArkTS page.
theorem subnet_parity_zero :
    (SubnetCalcPage.calculate (trim (js "10.1.2.3")) (SubnetCalcPage.bits (js "0"))).map (·.mask) =
        some (js "255.255.255.255") ∧
      (SubnetCalc.computed (SubnetCalc.normalizeHost (js "10.1.2.3")) (SubnetCalc.maskBits (js "0"))).map (·.mask) =
        some (js "255.255.255.0") ∧
      ¬ SameShown (SubnetCalcPage.calculate (trim (js "10.1.2.3")) (SubnetCalcPage.bits (js "0")))
        (SubnetCalc.computed (SubnetCalc.normalizeHost (js "10.1.2.3")) (SubnetCalc.maskBits (js "0"))) := by
  generalize lynx : SubnetCalcPage.calculate (trim (js "10.1.2.3")) (SubnetCalcPage.bits (js "0")) = one
  generalize arkts : SubnetCalc.computed (SubnetCalc.normalizeHost (js "10.1.2.3")) (SubnetCalc.maskBits (js "0")) = other
  have lynxMask : one.map (·.mask) = some (js "255.255.255.255") := by rw [← lynx]; decide
  have arktsMask : other.map (·.mask) = some (js "255.255.255.0") := by rw [← arkts]; decide
  refine ⟨lynxMask, arktsMask, fun same => ?_⟩
  obtain ⟨result, rfl, shown⟩ := Option.map_eq_some_iff.mp lynxMask
  obtain ⟨result', rfl, shown'⟩ := Option.map_eq_some_iff.mp arktsMask
  have masks := same.numbers.mask
  rw [shown, shown'] at masks
  exact absurd masks (by decide)

end Subnet

end Kessh
