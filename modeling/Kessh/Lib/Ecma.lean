import Kessh.Lib.Utf8
import Mathlib.Data.List.DropRight

set_option autoImplicit false

-- The strings and numerals of ECMAScript, as far as text is trimmed, tested against
-- the character classes \s and \d, and turned into numbers and back.
namespace Ecma

abbrev JsString := List UInt16

def js (text : String) : JsString := Utf16.encode text.toList

/-- What a byte interface receives for a string: UTF-8, with U+FFFD for lost surrogates. -/
def utf8 (text : JsString) : Utf8.Bytes := Utf8.encode (Utf16.scalars text)

-- White space and line terminators: the class \s, and what trim removes.
def isSpace (unit : UInt16) : Bool :=
  let u := unit.toNat
  (9 ≤ u && u ≤ 13) || u == 0x20 || u == 0xA0 || u == 0x1680 || (0x2000 ≤ u && u ≤ 0x200A) || u == 0x2028 ||
    u == 0x2029 || u == 0x202F || u == 0x205F || u == 0x3000 || u == 0xFEFF

def trim (text : JsString) : JsString := (text.dropWhile isSpace).rdropWhile isSpace

def isDigit (unit : UInt16) : Bool := 0x30 ≤ unit.toNat && unit.toNat ≤ 0x39

-- The regular expression ^\d+$
def isDecimal (text : JsString) : Bool := !text.isEmpty && text.all isDigit

def digitsFrom (value : Nat) (text : JsString) : Nat := text.foldl (fun v unit => 10 * v + (unit.toNat - 0x30)) value

-- parseInt with radix 10: leading white space, a sign, the longest run of digits; none is NaN.
def parseInt (text : JsString) : Option Int :=
  let body := text.dropWhile isSpace
  let negative := body.head? == some 0x2D
  let digits := (if negative || body.head? == some 0x2B then body.tail else body).takeWhile isDigit
  if digits.isEmpty then none
  else some (if negative then -(digitsFrom 0 digits : Int) else (digitsFrom 0 digits : Int))

def decimal (n : Nat) : JsString := Utf16.encode (Nat.toDigits 10 n)

def decimalInt : Int → JsString
  | .ofNat n => decimal n
  | .negSucc n => 0x2D :: decimal (n + 1)

def padStart2 (text : JsString) : JsString := List.replicate (2 - text.length) 0x30 ++ text

def replaceUnit (unit : UInt16) (replacing text : JsString) : JsString :=
  text.flatMap fun other => if other = unit then replacing else [other]

theorem trimmed_start (text : JsString) : trim text <+: text.dropWhile isSpace := List.rdropWhile_prefix _ _

theorem dropWhile_trim (text : JsString) : (trim text).dropWhile isSpace = trim text := by
  cases whole : trim text with
  | nil => rfl
  | cons unit rest =>
      obtain ⟨dropped, tail⟩ := trimmed_start text
      have start : text.dropWhile isSpace = unit :: (rest ++ dropped) := by rw [← tail, whole, List.cons_append]
      have ordinary : isSpace ((text.dropWhile isSpace).head (by simp [start])) = false :=
        List.head_dropWhile_not _ _
      simp only [start, List.head_cons] at ordinary
      simp [ordinary]

@[simp] theorem trim_trim (text : JsString) : trim (trim text) = trim text := by
  rw [trim, dropWhile_trim, trim, List.rdropWhile_idempotent]

theorem trim_of_ordinary (text : JsString) (ordinary : ∀ unit ∈ text, isSpace unit = false) : trim text = text := by
  have kept : text.dropWhile isSpace = text := by
    cases text with
    | nil => rfl
    | cons unit rest => simp [ordinary unit (by simp)]
  rw [trim, kept, List.rdropWhile_eq_self_iff]
  intro nonempty
  simp [ordinary _ (List.getLast_mem nonempty)]

theorem digit_not_space (unit : UInt16) (digit : isDigit unit = true) : isSpace unit = false := by
  simp only [isDigit, Bool.and_eq_true, decide_eq_true_eq] at digit
  simp only [isSpace, Bool.or_eq_false_iff, Bool.and_eq_false_iff, decide_eq_false_iff_not, beq_eq_false_iff_ne]
  omega

theorem decimal_digits (text : JsString) (numeral : isDecimal text = true) :
    text ≠ [] ∧ ∀ unit ∈ text, isDigit unit = true := by
  simpa [isDecimal] using numeral

theorem trim_decimal_text (text : JsString) (numeral : isDecimal text = true) : trim text = text :=
  trim_of_ordinary text fun unit member => digit_not_space unit ((decimal_digits text numeral).2 unit member)

theorem parseInt_decimal_text (text : JsString) (numeral : isDecimal text = true) :
    parseInt text = some (digitsFrom 0 text : Int) := by
  obtain ⟨nonempty, digits⟩ := decimal_digits text numeral
  cases text with
  | nil => exact absurd rfl nonempty
  | cons unit rest =>
      have digit := digits unit (by simp)
      have minus : ¬ unit = 0x2D := by rintro rfl; exact absurd digit (by decide)
      have plus : ¬ unit = 0x2B := by rintro rfl; exact absurd digit (by decide)
      have all : (unit :: rest).takeWhile isDigit = unit :: rest :=
        List.takeWhile_eq_self_iff.mpr digits
      simp [parseInt, digit_not_space unit digit, minus, plus, all]

theorem char_digit (c : Char) (digit : c.isDigit = true) :
    Utf16.units c = [UInt16.ofNat c.toNat] ∧ (UInt16.ofNat c.toNat).toNat = c.toNat ∧
      0x30 ≤ c.toNat ∧ c.toNat ≤ 0x39 := by
  simp only [Char.isDigit, Bool.and_eq_true, decide_eq_true_eq] at digit
  have lower : 0x30 ≤ c.toNat := digit.1
  have upper : c.toNat ≤ 0x39 := digit.2
  refine ⟨?_, ?_, lower, upper⟩
  · rw [Utf16.units, if_pos (by omega)]
  · exact Utf16.unit_value c.toNat (by omega)

theorem encode_digits (text : List Char) (digits : ∀ c ∈ text, c.isDigit = true) (value : Nat) :
    (∀ unit ∈ Utf16.encode text, isDigit unit = true) ∧
      digitsFrom value (Utf16.encode text) = Nat.ofDigitChars 10 text value := by
  induction text generalizing value with
  | nil => simp [digitsFrom]
  | cons c rest ih =>
      obtain ⟨single, unit, lower, upper⟩ := char_digit c (digits c (by simp))
      have later := ih (fun d member => digits d (by simp [member])) (10 * value + (c.toNat - 0x30))
      rw [Utf16.encode_cons, single, Nat.ofDigitChars_cons]
      refine ⟨?_, ?_⟩
      · intro u member
        rcases List.mem_cons.mp member with rfl | tail
        · simp only [isDigit, unit, Bool.and_eq_true, decide_eq_true_eq]
          exact ⟨lower, upper⟩
        · exact later.1 u tail
      · refine Eq.trans ?_ later.2
        simp only [digitsFrom, List.cons_append, List.nil_append, List.foldl_cons, unit]

theorem decimal_isDecimal (n : Nat) : isDecimal (decimal n) = true := by
  have digits := (encode_digits (Nat.toDigits 10 n)
    (fun c member => Nat.isDigit_of_mem_toDigits (by decide) (by decide) member) 0).1
  have nonempty : decimal n ≠ [] := by
    intro empty
    have none := Utf16.encode_injective (Nat.toDigits 10 n) [] empty
    exact Nat.toDigits_ne_nil none
  simp only [isDecimal, Bool.and_eq_true, Bool.not_eq_true', List.isEmpty_eq_false_iff, List.all_eq_true]
  exact ⟨nonempty, digits⟩

theorem digits_decimal (n : Nat) : digitsFrom 0 (decimal n) = n := by
  rw [decimal, (encode_digits _ (fun c member => Nat.isDigit_of_mem_toDigits (by decide) (by decide) member) 0).2,
    Nat.ofDigitChars_toDigits (by decide) (by decide)]

@[simp] theorem trim_decimal (n : Nat) : trim (decimal n) = decimal n :=
  trim_decimal_text _ (decimal_isDecimal n)

theorem js_ofList (chars : List Char) : js (String.ofList chars) = Utf16.encode chars := by
  rw [js, String.toList_ofList]

theorem utf8_js_append (text : String) (right : JsString) :
    utf8 (js text ++ right) = Utf8.encode text.toList ++ utf8 right := by
  rw [utf8, js, Utf16.scalars_encode_append, Utf8.encode_append, utf8]

theorem utf8_append_js (left : JsString) (text : String) : utf8 (left ++ js text) = utf8 left ++ Utf8.encode text.toList := by
  rw [utf8, js, Utf16.scalars_append left _ (Utf16.encode_starts text.toList), Utf8.encode_append, utf8,
    Utf16.scalars_encode]

theorem mem_utf8_ascii (text : JsString) (n : Nat) (ascii : n < 0x80) :
    (∃ byte ∈ utf8 text, byte.toNat = n) ↔ ∃ unit ∈ text, unit.toNat = n := by
  rw [← Utf16.mem_scalars_ascii text n ascii]
  constructor
  · rintro ⟨byte, member, value⟩
    obtain ⟨c, there, inside⟩ := List.mem_flatMap.mp member
    exact ⟨c, there, (Utf8.ascii_byte c byte inside (by omega)).symm.trans value⟩
  · rintro ⟨c, member, value⟩
    exact ⟨UInt8.ofNat c.toNat, (Utf8.mem_encode_ascii _ c (by omega)).mpr member, by
      rw [Utf8.byte_value _ (by omega), value]⟩

theorem utf8_small (text : JsString) : (∀ byte ∈ utf8 text, byte.toNat < 0x80) ↔ ∀ unit ∈ text, unit.toNat < 0x80 := by
  rw [← Utf16.scalars_small]
  constructor
  · intro small c there
    obtain ⟨lead, rest, bytes, _⟩ := Utf8.char_bytes c
    have inside : lead ∈ String.utf8EncodeChar c := bytes ▸ List.mem_cons_self
    have ascii := small lead (List.mem_flatMap.mpr ⟨c, there, inside⟩)
    exact Utf8.ascii_byte c lead inside ascii ▸ ascii
  · intro small byte member
    obtain ⟨c, there, inside⟩ := List.mem_flatMap.mp member
    have ascii := small c there
    rw [Utf8.char_ascii c ascii, List.mem_singleton] at inside
    rw [inside, Utf8.byte_value _ (by omega)]
    exact ascii

theorem utf8_class (text : JsString) (kind : Nat → Bool) (small : ∀ n, kind n = true → n < 0x80) :
    (∀ byte ∈ utf8 text, kind byte.toNat = true) ↔ ∀ unit ∈ text, kind unit.toNat = true := by
  constructor
  · intro inside unit member
    have ascii := (utf8_small text).mp (fun byte there => small _ (inside byte there)) unit member
    obtain ⟨byte, there, same⟩ := (mem_utf8_ascii text _ ascii).mpr ⟨unit, member, rfl⟩
    exact same ▸ inside byte there
  · intro inside byte member
    have ascii := (utf8_small text).mpr (fun unit there => small _ (inside unit there)) byte member
    obtain ⟨unit, there, same⟩ := (mem_utf8_ascii text _ ascii).mp ⟨byte, member, rfl⟩
    exact same ▸ inside unit there

theorem utf8_eq_nil (text : JsString) : utf8 text = [] ↔ text = [] := by
  rw [← Utf16.scalars_eq_nil, utf8]
  cases Utf16.scalars text with
  | nil => simp
  | cons c rest =>
      obtain ⟨lead, tail, bytes, _⟩ := Utf8.char_bytes c
      simp [bytes]

theorem utf8_replaceUnit (unit : UInt16) (replacing : JsString) (ascii : unit.toNat < 0x80)
    (small : ∀ other ∈ replacing, other.toNat < 0x80) (some : replacing ≠ []) (text : JsString) :
    utf8 (replaceUnit unit replacing text) =
      (utf8 text).flatMap fun byte => if byte.toNat = unit.toNat then utf8 replacing else [byte] := by
  have whole := Utf16.scalars_replace unit replacing ascii small some [unit]
  have alone : (Utf16.single unit).toNat = unit.toNat := (Utf16.single_ascii unit _ ascii).mpr rfl
  have chars : Utf16.scalars replacing = replacing.map Utf16.single := by
    simpa [Utf16.scalars, alone] using whole
  unfold utf8 replaceUnit Utf8.encode
  rw [Utf16.scalars_replace unit replacing ascii small some, List.flatMap_assoc, List.flatMap_assoc, chars]
  refine List.flatMap_congr fun c _ => ?_
  by_cases same : c.toNat = unit.toNat
  · rw [if_pos same, Utf8.char_ascii c (by omega), List.flatMap_singleton, if_pos]
    rw [Utf8.byte_value _ (by omega), same]
  · have absent : ∀ byte ∈ String.utf8EncodeChar c, byte.toNat ≠ unit.toNat := fun byte inside value =>
      same ((Utf8.ascii_byte c byte inside (by omega)).symm.trans value)
    rw [if_neg same, List.flatMap_singleton]
    conv => lhs; rw [← List.flatMap_singleton' (String.utf8EncodeChar c)]
    exact List.flatMap_congr fun byte inside => (if_neg (absent byte inside)).symm

end Ecma
