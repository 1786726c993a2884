import Kessh.Lib.Numerals
import Kessh.Tools.SubnetLaws

set_option autoImplicit false

namespace Kessh

open Ecma

namespace Subnet

theorem forall₂_left {α β : Type} {relation : α → β → Prop} {items : List α} {values : List β}
    (related : List.Forall₂ relation items values) : ∀ item ∈ items, ∃ value, relation item value := by
  induction related with
  | nil => exact fun item member => absurd member List.not_mem_nil
  | cons here later ih => exact List.forall_mem_cons.mpr ⟨⟨_, here⟩, ih⟩

theorem ints_injective (values others : List Nat) (same : ints values = ints others) : values = others :=
  List.map_injective_iff.mpr (fun _ _ equal => Int.ofNat_inj.mp equal) same

-- Accepted are the four numerals, and with the values they have.
def AcceptsRight (octets : Option (List Int)) (text : JsString) : Prop :=
  ∀ values : List Nat, octets = some (ints values) ↔ Dotted (trim text) values

-- Four pieces that are all read as octets, one of them with more in it than digits.
def Lenient (reads : JsString → Int → Prop) (text : JsString) : Prop :=
  (text.splitOn 0x2E).length = 4 ∧
    (∀ piece ∈ text.splitOn 0x2E, ∃ value, reads piece value ∧ 0 ≤ value ∧ value ≤ 255) ∧
    ∃ piece ∈ text.splitOn 0x2E, isDecimal piece = false

theorem pieces_accepted (parse : JsString → Option Int) (text : JsString) (four : (text.splitOn 0x2E).length = 4)
    (each : ∀ piece ∈ text.splitOn 0x2E, ∃ value, parse piece = some value ∧ 0 ≤ value ∧ value ≤ 255) :
    octetsOf parse text = some (ints ((text.splitOn 0x2E).map fun piece => ((parse piece).getD 0).toNat)) := by
  refine (octetsOf_iff parse text _).mpr ⟨four, ?_⟩
  rw [ints, List.map_map, List.forall₂_map_right_iff, List.forall₂_same]
  intro piece member
  obtain ⟨value, parsed, lower, upper⟩ := each piece member
  simp only [Function.comp_apply, parsed, Option.getD_some, Int.toNat_of_nonneg lower]
  exact ⟨trivial, lower, upper⟩

theorem acceptance_iff (parse : JsString → Option Int) (reads : JsString → Int → Prop)
    (parses : ∀ text value, parse text = some value ↔ reads text value)
    (numerals : ∀ piece, isDecimal piece = true → parse piece = some (digitsFrom 0 piece : Int)) (text : JsString) :
    AcceptsRight (octetsOf parse (trim text)) text ↔ ¬ Lenient reads (trim text) := by
  generalize whole : trim text = typed
  unfold AcceptsRight
  rw [whole]
  constructor
  · rintro right ⟨four, each, piece, member, more⟩
    have accepted := pieces_accepted parse typed four fun piece member => by
      obtain ⟨value, read, bounds⟩ := each piece member
      exact ⟨value, (parses piece value).mpr read, bounds⟩
    have plain := (dotted_split typed _ ((right _).mp accepted)).2.1 piece member
    rw [plain] at more
    cases more
  · intro strict values
    refine ⟨fun accepted => ?_, dotted_accepted parse numerals typed values⟩
    obtain ⟨four, parsed⟩ := (octetsOf_iff parse typed _).mp accepted
    have each : ∀ piece ∈ typed.splitOn 0x2E, ∃ value, parse piece = some value ∧ 0 ≤ value ∧ value ≤ 255 :=
      forall₂_left parsed
    have plain : ∀ piece ∈ typed.splitOn 0x2E, isDecimal piece = true := fun piece member => by
      refine Decidable.byContradiction fun more => strict ⟨four, fun piece member => ?_, piece, member, by simpa using more⟩
      obtain ⟨value, read, bounds⟩ := each piece member
      exact ⟨value, (parses piece value).mp read, bounds⟩
    have small : ∀ octet ∈ (typed.splitOn 0x2E).map (digitsFrom 0), octet ≤ 255 := fun octet member => by
      obtain ⟨piece, inside, rfl⟩ := List.mem_map.mp member
      obtain ⟨value, read, _, upper⟩ := each piece inside
      rw [numerals piece (plain piece inside)] at read
      obtain rfl := Option.some.inj read
      exact Int.ofNat_le.mp upper
    have dotted : Dotted typed ((typed.splitOn 0x2E).map (digitsFrom 0)) :=
      ⟨typed.splitOn 0x2E, four, by rw [Ipv4.js_dot]; exact ((splitOn_iff 0x2E typed _).mp rfl).2.2, plain, rfl, small⟩
    rw [dotted_accepted parse numerals typed _ dotted] at accepted
    rw [← ints_injective _ _ (Option.some.inj accepted)]
    exact dotted

/-- Each page accepts a text as the four numerals it is exactly where no piece is read as an octet that
has more in it than digits: white space, a sign, something behind the digits or, on the ArkTS page, 0x. -/
theorem ipv4_acceptance (text : JsString) :
    (AcceptsRight (SubnetCalcPage.accepted text) text ↔ ¬ Lenient Reads (trim text)) ∧
      (AcceptsRight (SubnetCalc.accepted text) text ↔ ¬ Lenient ReadsAuto (trim text)) :=
  ⟨acceptance_iff parseInt Reads parseInt_iff parseInt_decimal_text text,
    acceptance_iff parseIntAuto ReadsAuto parseIntAuto_iff parseIntAuto_reads text⟩

theorem acceptance_wrong (octets : Option (List Int)) (text : JsString) (values : List Nat)
    (accepted : octets = some (ints values)) (more : ∃ piece ∈ (trim text).splitOn 0x2E, isDecimal piece = false) :
    ¬ AcceptsRight octets text := by
  intro right
  obtain ⟨piece, member, other⟩ := more
  have plain := (dotted_split _ values ((right values).mp accepted)).2.1 piece member
  rw [plain] at other
  cases other

-- Letters behind the last octet are passed over.
theorem ipv4_acceptance_letters :
    SubnetCalcPage.accepted (js "1.2.3.4abc") = some (ints [1, 2, 3, 4]) ∧
      SubnetCalc.accepted (js "1.2.3.4abc") = some (ints [1, 2, 3, 4]) ∧
      ¬ AcceptsRight (SubnetCalcPage.accepted (js "1.2.3.4abc")) (js "1.2.3.4abc") ∧
      ¬ AcceptsRight (SubnetCalc.accepted (js "1.2.3.4abc")) (js "1.2.3.4abc") := by
  have more : ∃ piece ∈ (trim (js "1.2.3.4abc")).splitOn 0x2E, isDecimal piece = false :=
    ⟨js "4abc", by decide, by decide⟩
  have lynx : SubnetCalcPage.accepted (js "1.2.3.4abc") = some (ints [1, 2, 3, 4]) := by decide
  have arkts : SubnetCalc.accepted (js "1.2.3.4abc") = some (ints [1, 2, 3, 4]) := by decide
  exact ⟨lynx, arkts, acceptance_wrong _ _ _ lynx more, acceptance_wrong _ _ _ arkts more⟩

end Subnet

end Kessh
