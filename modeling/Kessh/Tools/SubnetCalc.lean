import Kessh.Lib.Ipv4

set_option autoImplicit false

namespace Kessh

open Ecma
open Word32 (shiftLeft unsignedShiftRight bitAnd bitOr bitNot word)

structure SubnetResult where
  network : JsString
  broadcast : JsString
  firstHost : JsString
  lastHost : JsString
  mask : JsString
  totalHosts : Int
  usableHosts : Int
  ipClass : JsString
  isPrivate : Bool
deriving DecidableEq

-- What the two calculators share: they differ in the parser of the octets, in the default of the
-- mask and in the names of the classes.
namespace Subnet

def octet (parse : JsString → Option Int) (part : JsString) : Option Int :=
  (parse part).filter fun value => 0 ≤ value && value ≤ 255

def octetsOf (parse : JsString → Option Int) (ip : JsString) : Option (List Int) :=
  let parts := ip.splitOn 0x2E
  if parts.length ≠ 4 then none else parts.mapM (octet parse)

def clamp (bits : Int) : Int :=
  let bits := if bits < 0 then 0 else bits
  if bits > 32 then 32 else bits

def maskOf (maskBits : Int) : Int := unsignedShiftRight (shiftLeft 0xFFFFFFFF (32 - maskBits)) 0

def addressOf (octets : List Int) : Int :=
  unsignedShiftRight (octets.foldl (fun accumulator value => shiftLeft accumulator 8 + value) 0) 0

def networkOf (ipNum mask : Int) : Int := unsignedShiftRight (bitAnd ipNum mask) 0

def broadcastOf (networkNum mask : Int) : Int :=
  unsignedShiftRight (bitOr networkNum (bitAnd (bitNot mask) 0xFFFFFFFF)) 0

def toDotted (value : Int) : JsString :=
  join (js ".") [decimalInt (bitAnd (unsignedShiftRight value 24) 0xFF),
    decimalInt (bitAnd (unsignedShiftRight value 16) 0xFF), decimalInt (bitAnd (unsignedShiftRight value 8) 0xFF),
    decimalInt (bitAnd value 0xFF)]

structure ClassNames where
  a : JsString
  b : JsString
  c : JsString
  d : JsString
  e : JsString

def classOf (names : ClassNames) (first : Int) : JsString :=
  if 1 ≤ first ∧ first ≤ 126 then names.a
  else if 128 ≤ first ∧ first ≤ 191 then names.b
  else if 192 ≤ first ∧ first ≤ 223 then names.c
  else if 224 ≤ first ∧ first ≤ 239 then names.d
  else if 240 ≤ first ∧ first ≤ 255 then names.e
  else []

def privateOf (first second : Int) : Bool :=
  if first = 10 then true
  else if first = 172 ∧ second ≥ 16 ∧ second ≤ 31 then true
  else first = 192 ∧ second = 168

def subnet (names : ClassNames) (octets : List Int) (maskBits : Int) : SubnetResult :=
  let mask := maskOf maskBits
  let networkNum := networkOf (addressOf octets) mask
  let broadcastNum := broadcastOf networkNum mask
  let totalHosts := 2 ^ (32 - maskBits).toNat
  { network := toDotted networkNum
    broadcast := toDotted broadcastNum
    firstHost := toDotted (networkNum + 1)
    lastHost := toDotted (broadcastNum - 1)
    mask := toDotted mask
    totalHosts
    usableHosts := if maskBits = 32 then 1 else if maskBits = 31 then 2 else totalHosts - 2
    ipClass := classOf names (octets.getD 0 0)
    isPrivate := privateOf (octets.getD 0 0) (octets.getD 1 0) }

theorem mapM_iff {α β : Type} (f : α → Option β) (items : List α) (values : List β) :
    items.mapM f = some values ↔ List.Forall₂ (fun item value => f item = some value) items values := by
  induction items generalizing values with
  | nil =>
      rw [List.mapM_nil, List.forall₂_nil_left_iff]
      exact ⟨fun same => (Option.some.inj same).symm, fun same => congrArg some same.symm⟩
  | cons item rest ih =>
      rw [List.mapM_cons, List.forall₂_cons_left_iff]
      constructor
      · intro mapped
        obtain ⟨value, first, mapped⟩ := Option.bind_eq_some_iff.mp mapped
        obtain ⟨others, later, mapped⟩ := Option.bind_eq_some_iff.mp mapped
        exact ⟨value, others, first, (ih others).mp later, (Option.some.inj mapped).symm⟩
      · rintro ⟨value, others, first, later, rfl⟩
        rw [first, (ih others).mpr later]
        rfl

theorem octetsOf_iff (parse : JsString → Option Int) (ip : JsString) (octets : List Int) :
    octetsOf parse ip = some octets ↔
      (ip.splitOn 0x2E).length = 4 ∧
        List.Forall₂ (fun part value => parse part = some value ∧ 0 ≤ value ∧ value ≤ 255) (ip.splitOn 0x2E) octets := by
  have each : ∀ part value, octet parse part = some value ↔ parse part = some value ∧ 0 ≤ value ∧ value ≤ 255 :=
    fun part value => by simp [octet, Option.filter_eq_some_iff]
  unfold octetsOf
  dsimp only
  by_cases four : (ip.splitOn 0x2E).length = 4
  · rw [if_neg (not_not.mpr four), mapM_iff]
    simp only [each, four, true_and]
  · rw [if_pos four]
    exact iff_of_false (by simp) fun accepted => four accepted.1

theorem octetsOf_blank (parse : JsString → Option Int) : octetsOf parse [] = none := rfl

end Subnet

-- The Lynx page.
namespace SubnetCalcPage

open Subnet

def classNames : ClassNames := ⟨js "A 类", js "B 类", js "C 类", js "D 类(组播)", js "E 类(保留)"⟩

def calculate (ip : JsString) (maskBits : Int) : Option SubnetResult :=
  (octetsOf parseInt ip).map fun octets => subnet classNames octets maskBits

def bits (maskText : JsString) : Int := clamp ((parseInt maskText).getD 24)

structure Page where
  ip : JsString := []
  maskText : JsString := js "24"
  result : Option SubnetResult := none
  error : JsString := []
  toasts : List JsString := []

def run (page : Page) : Page :=
  let trimmed := trim page.ip
  if trimmed.isEmpty then { page with toasts := js "请输入 IP 地址" :: page.toasts }
  else
    match calculate trimmed (bits page.maskText) with
    | none => { page with error := js "IP 地址格式错误", result := none }
    | some next => { page with error := [], result := some next }

-- The octets that the page computes with, where it accepts the text.
def accepted (ip : JsString) : Option (List Int) := octetsOf parseInt (trim ip)

theorem run_accepted (page : Page) (octets : List Int) (accepts : accepted page.ip = some octets) :
    run page = { page with error := [], result := some (subnet classNames octets (bits page.maskText)) } := by
  rw [accepted] at accepts
  have present : (trim page.ip).isEmpty = false := by
    cases text : trim page.ip with
    | nil =>
        rw [text, octetsOf_blank] at accepts
        cases accepts
    | cons unit rest => rfl
  simp [run, calculate, present, accepts]

end SubnetCalcPage

-- The ArkTS page.
namespace SubnetCalc

open Subnet

def classNames : ClassNames := ⟨js "A类", js "B类", js "C类", js "D类(组播)", js "E类(保留)"⟩

def normalizeHost (input : JsString) : JsString := trim input

-- `parseInt(this.subnetMask) || 24`
def maskBits (subnetMask : JsString) : Int :=
  clamp (match parseIntAuto subnetMask with
    | some bits => if bits = 0 then 24 else bits
    | none => 24)

def computed (ip : JsString) (maskBits : Int) : Option SubnetResult :=
  (octetsOf parseIntAuto ip).map fun octets => subnet classNames octets maskBits

def resultText (ip : JsString) (maskBits : Int) (result : SubnetResult) : JsString :=
  js "IP地址: " ++ ip ++ js "\n" ++
  js "子网掩码: " ++ result.mask ++ js " (/" ++ decimalInt maskBits ++ js ")\n" ++
  js "网络地址: " ++ result.network ++ js "\n" ++
  js "广播地址: " ++ result.broadcast ++ js "\n" ++
  js "主机范围: " ++ result.firstHost ++ js " - " ++ result.lastHost ++ js "\n" ++
  js "总IP数: " ++ decimalInt result.totalHosts ++ js "\n" ++
  js "可用主机数: " ++ decimalInt result.usableHosts ++ js "\n" ++
  js "IP类别: " ++ result.ipClass ++ js "\n" ++
  js "地址类型: " ++ if result.isPrivate then js "私有地址" else js "公网地址"

structure Page where
  subnetIp : JsString := []
  subnetMask : JsString := js "24"
  subnetResult : JsString := []
  toasts : List JsString := []

def calculateSubnet (page : Page) : Page :=
  let ip := normalizeHost page.subnetIp
  if ip.isEmpty then { page with toasts := js "请输入IP地址" :: page.toasts }
  else
    match computed ip (maskBits page.subnetMask) with
    | none => { page with toasts := js "IP地址格式错误" :: page.toasts }
    | some result => { page with subnetResult := resultText ip (maskBits page.subnetMask) result }

def accepted (ip : JsString) : Option (List Int) := octetsOf parseIntAuto (normalizeHost ip)

theorem calculateSubnet_accepted (page : Page) (octets : List Int) (accepts : accepted page.subnetIp = some octets) :
    calculateSubnet page = { page with
      subnetResult := resultText (normalizeHost page.subnetIp) (maskBits page.subnetMask)
        (subnet classNames octets (maskBits page.subnetMask)) } := by
  rw [accepted] at accepts
  have present : (normalizeHost page.subnetIp).isEmpty = false := by
    cases text : normalizeHost page.subnetIp with
    | nil =>
        rw [text, octetsOf_blank] at accepts
        cases accepts
    | cons unit rest => rfl
  simp [calculateSubnet, computed, present, accepts]

end SubnetCalc

end Kessh
