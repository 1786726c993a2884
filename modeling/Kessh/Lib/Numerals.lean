import Kessh.Lib.Columns

set_option autoImplicit false

-- What parseInt takes for a number, with the radix 10 and without a radix: the white space and the
-- sign in front, the digits, and whatever comes behind them.
namespace Ecma

inductive Signed : JsString → Bool → JsString → Prop
  | bare (space body : JsString) (blank : ∀ unit ∈ space, isSpace unit = true) : Signed (space ++ body) false body
  | plus (space body : JsString) (blank : ∀ unit ∈ space, isSpace unit = true) : Signed (space ++ 0x2B :: body) false body
  | minus (space body : JsString) (blank : ∀ unit ∈ space, isSpace unit = true) : Signed (space ++ 0x2D :: body) true body

def unsigned (text : JsString) : Bool × JsString :=
  let body := text.dropWhile isSpace
  let negative := body.head? == some 0x2D
  (negative, if negative || body.head? == some 0x2B then body.tail else body)

def signedValue (negative : Bool) (n : Nat) : Int := if negative then -(n : Int) else n

def isHexDigit (unit : UInt16) : Bool := (hexDigit unit).isSome

def hexFrom (digits : JsString) : Nat := (digits.map hexDigit).foldl (fun v digit => 16 * v + digit.getD 0) 0

-- 0x or 0X, behind the sign.
def isHex (text : JsString) : Bool :=
  match (unsigned text).2 with
  | 0x30 :: x :: _ => x == 0x78 || x == 0x58
  | _ => false

def Reads (text : JsString) (value : Int) : Prop :=
  ∃ negative digits rest, Signed text negative (digits ++ rest) ∧ isDecimal digits = true ∧
    (∀ unit ∈ rest.head?, isDigit unit = false) ∧ value = signedValue negative (digitsFrom 0 digits)

def ReadsHex (text : JsString) (value : Int) : Prop :=
  ∃ negative x digits rest, Signed text negative (0x30 :: x :: (digits ++ rest)) ∧ (x = 0x78 ∨ x = 0x58) ∧ digits ≠ [] ∧
    (∀ unit ∈ digits, isHexDigit unit = true) ∧ (∀ unit ∈ rest.head?, isHexDigit unit = false) ∧
    value = signedValue negative (hexFrom digits)

def ReadsAuto (text : JsString) (value : Int) : Prop := if isHex text then ReadsHex text value else Reads text value

theorem unsigned_cases (body : JsString) :
    (body.head? == some 0x2D) = true ∧ (∃ rest, body = 0x2D :: rest) ∨
      (body.head? == some 0x2D) = false ∧ (body.head? == some 0x2B) = true ∧ (∃ rest, body = 0x2B :: rest) ∨
        (body.head? == some 0x2D) = false ∧ (body.head? == some 0x2B) = false := by
  cases body with
  | nil => exact .inr (.inr ⟨rfl, rfl⟩)
  | cons unit rest =>
      by_cases minus : unit = 0x2D
      · exact .inl ⟨by simp [minus], rest, by rw [minus]⟩
      · by_cases plus : unit = 0x2B
        · exact .inr (.inl ⟨by simp [minus], by simp [plus], rest, by rw [plus]⟩)
        · exact .inr (.inr ⟨by simp [minus], by simp [plus]⟩)

theorem unsigned_signed (text : JsString) : Signed text (unsigned text).1 (unsigned text).2 := by
  have blank : ∀ unit ∈ text.takeWhile isSpace, isSpace unit = true := fun unit member => List.mem_takeWhile_imp member
  have whole : text.takeWhile isSpace ++ text.dropWhile isSpace = text := List.takeWhile_append_dropWhile
  rw [unsigned]
  rcases unsigned_cases (text.dropWhile isSpace) with ⟨minus, rest, body⟩ | ⟨minus, plus, rest, body⟩ | ⟨minus, plus⟩
  · rw [minus, Bool.true_or, if_pos rfl, body]
    rw [body] at whole
    exact whole ▸ Signed.minus _ rest blank
  · rw [minus, plus, Bool.false_or, if_pos rfl, body]
    rw [body] at whole
    exact whole ▸ Signed.plus _ rest blank
  · rw [minus, plus, Bool.false_or, if_neg Bool.false_ne_true]
    exact whole.subst (motive := fun whole => Signed whole false (text.dropWhile isSpace)) (.bare _ _ blank)

-- A number begins with a digit, which is neither white space nor a sign.
theorem signed_unsigned (text : JsString) (negative : Bool) (digit : UInt16) (rest : JsString)
    (first : isDigit digit = true) (signed : Signed text negative (digit :: rest)) :
    unsigned text = (negative, digit :: rest) := by
  have solid := digit_not_space digit first
  have minus : digit ≠ 0x2D := by rintro rfl; exact absurd first (by decide)
  have plus : digit ≠ 0x2B := by rintro rfl; exact absurd first (by decide)
  generalize whole : digit :: rest = body at signed
  cases signed with
  | bare space _ blank =>
      rw [← whole, unsigned, List.dropWhile_append_of_pos blank, List.dropWhile_cons_of_neg (by simp [solid])]
      simp [minus, plus]
  | plus space _ blank =>
      rw [unsigned, List.dropWhile_append_of_pos blank, List.dropWhile_cons_of_neg (by decide)]
      rfl
  | minus space _ blank =>
      rw [unsigned, List.dropWhile_append_of_pos blank, List.dropWhile_cons_of_neg (by decide)]
      rfl

theorem takeWhile_iff (inClass : UInt16 → Bool) (text digits : JsString) :
    text.takeWhile inClass = digits ↔
      ∃ rest, text = digits ++ rest ∧ (∀ unit ∈ digits, inClass unit = true) ∧ ∀ unit ∈ rest.head?, inClass unit = false := by
  constructor
  · rintro rfl
    refine ⟨text.dropWhile inClass, List.takeWhile_append_dropWhile.symm, fun unit member => List.mem_takeWhile_imp member,
      fun unit member => ?_⟩
    have some : text.dropWhile inClass ≠ [] := by
      intro none
      rw [none] at member
      cases member
    have head := List.head_dropWhile_not inClass some
    rw [List.head?_eq_some_head some, Option.mem_some] at member
    rwa [member] at head
  · rintro ⟨rest, rfl, members, ends⟩
    rw [List.takeWhile_append_of_pos members]
    cases rest with
    | nil => exact List.append_nil digits
    | cons unit rest => rw [List.takeWhile_cons_of_neg (by simp [ends unit rfl]), List.append_nil]

theorem parseInt_unsigned (text : JsString) : parseInt text =
    if ((unsigned text).2.takeWhile isDigit).isEmpty then none
    else some (signedValue (unsigned text).1 (digitsFrom 0 ((unsigned text).2.takeWhile isDigit))) := rfl

theorem parseInt_iff (text : JsString) (value : Int) : parseInt text = some value ↔ Reads text value := by
  rw [parseInt_unsigned]
  constructor
  · intro parsed
    split at parsed
    · cases parsed
    · rename_i present
      obtain ⟨rest, whole, members, ends⟩ := (takeWhile_iff isDigit (unsigned text).2 _).mp rfl
      have signed := unsigned_signed text
      rw [whole] at signed
      refine ⟨_, _, rest, signed, ?_, ends, (Option.some.inj parsed).symm⟩
      have members' : ((unsigned text).2.takeWhile isDigit).all isDigit = true := List.all_eq_true.mpr members
      rw [isDecimal, members', Bool.and_true, Bool.not_eq_true', Bool.eq_false_iff]
      exact present
  · rintro ⟨negative, digits, rest, signed, numeral, ends, rfl⟩
    obtain ⟨some, members⟩ := decimal_digits digits numeral
    obtain ⟨digit, others, rfl⟩ := List.exists_cons_of_ne_nil some
    have run := (takeWhile_iff isDigit (digit :: (others ++ rest)) _).mpr ⟨rest, rfl, members, ends⟩
    rw [signed_unsigned text negative digit (others ++ rest) (members digit List.mem_cons_self) signed]
    dsimp only
    rw [run]
    rfl

theorem parseInt_trimmed (text : JsString) (numeral : isDecimal (trim text) = true) :
    parseInt text = some (digitsFrom 0 (trim text) : Int) := by
  have front : text.takeWhile isSpace ++ text.dropWhile isSpace = text := List.takeWhile_append_dropWhile
  have back : trim text ++ (text.dropWhile isSpace).rtakeWhile isSpace = text.dropWhile isSpace :=
    List.rdropWhile_append_rtakeWhile
  have signed : Signed text false (trim text ++ (text.dropWhile isSpace).rtakeWhile isSpace) := by
    rw [back]
    exact front.subst (motive := fun whole => Signed whole false (text.dropWhile isSpace))
      (.bare _ _ fun unit member => List.mem_takeWhile_imp member)
  refine (parseInt_iff text _).mpr ⟨false, trim text, _, signed, numeral, fun unit first => ?_, rfl⟩
  have blank := List.mem_rtakeWhile_imp (List.mem_of_mem_head? first)
  by_contra digit
  rw [digit_not_space unit (by simpa using digit)] at blank
  cases blank

theorem parseHex_iff (text : JsString) (n : Nat) :
    parseHex text = some n ↔
      ∃ digits rest, text = digits ++ rest ∧ digits ≠ [] ∧ (∀ unit ∈ digits, isHexDigit unit = true) ∧
        (∀ unit ∈ rest.head?, isHexDigit unit = false) ∧ n = hexFrom digits := by
  have mapped : (text.map hexDigit).takeWhile Option.isSome = (text.takeWhile isHexDigit).map hexDigit :=
    List.takeWhile_map
  have parsed : parseHex text =
      if (text.takeWhile isHexDigit).isEmpty then none else some (hexFrom (text.takeWhile isHexDigit)) := by
    unfold parseHex hexFrom
    dsimp only
    rw [mapped, List.isEmpty_map]
  rw [parsed]
  constructor
  · intro parsed
    split at parsed
    · cases parsed
    · rename_i present
      obtain ⟨rest, whole, members, ends⟩ := (takeWhile_iff isHexDigit text _).mp rfl
      exact ⟨_, rest, whole, fun none => present (List.isEmpty_iff.mpr none), members, ends, (Option.some.inj parsed).symm⟩
  · rintro ⟨digits, rest, rfl, present, members, ends, rfl⟩
    have run := (takeWhile_iff isHexDigit (digits ++ rest) digits).mpr ⟨rest, rfl, members, ends⟩
    rw [run, if_neg (by simpa using present)]

theorem isHex_iff (text : JsString) :
    isHex text = true ↔ ∃ x rest, (unsigned text).2 = 0x30 :: x :: rest ∧ (x = 0x78 ∨ x = 0x58) := by
  unfold isHex
  split
  · rename_i x rest same
    rw [same]
    simp
  · rename_i other
    refine iff_of_false Bool.false_ne_true ?_
    rintro ⟨x, rest, same, _⟩
    exact other x rest same

-- Without 0x there is no difference, and with it the radix 10 reads the 0 alone.
theorem parseIntAuto_plain (text : JsString) (plain : isHex text = false) : parseIntAuto text = parseInt text := by
  unfold parseIntAuto
  dsimp only
  split
  · rename_i x rest same
    have other : ¬ (x = 0x78 ∨ x = 0x58) := fun hex => by
      rw [(isHex_iff text).mpr ⟨x, rest, same, hex⟩] at plain
      cases plain
    rw [if_neg other]
  · rfl

theorem parseIntAuto_hex (text : JsString) (x : UInt16) (rest : JsString)
    (same : (unsigned text).2 = 0x30 :: x :: rest) (mark : x = 0x78 ∨ x = 0x58) :
    parseIntAuto text = (parseHex rest).map fun n => signedValue (unsigned text).1 n := by
  unfold parseIntAuto
  dsimp only
  split
  · rename_i other tail body
    have again : (unsigned text).2 = 0x30 :: other :: tail := body
    rw [same] at again
    simp only [List.cons.injEq, true_and] at again
    obtain ⟨rfl, rfl⟩ := again
    rw [if_pos mark]
    cases parseHex rest with
    | none => rfl
    | some n => rfl
  · rename_i other
    exact absurd same (other x rest)

theorem parseInt_hex (text : JsString) (hex : isHex text = true) : parseInt text = some 0 := by
  obtain ⟨x, rest, same, mark⟩ := (isHex_iff text).mp hex
  have other : isDigit x = false := by
    rcases mark with rfl | rfl
    · decide
    · decide
  rw [parseInt_unsigned, same]
  have zero : (0x30 :: x :: rest).takeWhile isDigit = [0x30] := by
    rw [List.takeWhile_cons_of_pos (by decide), List.takeWhile_cons_of_neg (by simp [other])]
  rw [zero]
  cases (unsigned text).1 with
  | true => rfl
  | false => rfl

theorem parseIntAuto_iff (text : JsString) (value : Int) : parseIntAuto text = some value ↔ ReadsAuto text value := by
  cases hex : isHex text with
  | false => rw [parseIntAuto_plain text hex, parseInt_iff, ReadsAuto, hex, if_neg Bool.false_ne_true]
  | true =>
      obtain ⟨x, rest, same, mark⟩ := (isHex_iff text).mp hex
      rw [ReadsAuto, hex, if_pos rfl, parseIntAuto_hex text x rest same mark, Option.map_eq_some_iff]
      constructor
      · rintro ⟨n, parsed, rfl⟩
        obtain ⟨digits, tail, rfl, present, members, ends, rfl⟩ := (parseHex_iff rest n).mp parsed
        have signed := unsigned_signed text
        rw [same] at signed
        exact ⟨_, x, digits, tail, signed, mark, present, members, ends, rfl⟩
      · rintro ⟨negative, other, digits, tail, signed, _, present, members, ends, rfl⟩
        have parts := signed_unsigned text negative 0x30 _ (by decide) signed
        have body := congrArg Prod.snd parts
        rw [same] at body
        simp only [List.cons.injEq, true_and] at body
        obtain ⟨_, rfl⟩ := body
        exact ⟨_, (parseHex_iff _ _).mpr ⟨digits, tail, rfl, present, members, ends, rfl⟩, by rw [parts]⟩

end Ecma
