import Kessh.Lib.Ecma
import Mathlib.Data.List.TakeDrop

set_option autoImplicit false

-- Text cut at white space or at one unit: the pieces of split, what join makes of them, and the words in them.
namespace Ecma

-- White space is skipped behind the white space that ended a piece.
def splitFrom (piece : JsString) (skipping : Bool) : JsString → List JsString
  | [] => [piece]
  | unit :: rest =>
      if isSpace unit then if skipping then splitFrom piece true rest else piece :: splitFrom [] true rest
      else splitFrom (piece ++ [unit]) false rest

def split (text : JsString) : List JsString := splitFrom [] false text

def join (separator : JsString) (pieces : List JsString) : JsString := separator.intercalate pieces

-- parseInt without a radix: 0x in front of the digits makes them hexadecimal.
def hexDigit (unit : UInt16) : Option Nat :=
  let u := unit.toNat
  if 0x30 ≤ u ∧ u ≤ 0x39 then some (u - 0x30)
  else if 0x41 ≤ u ∧ u ≤ 0x46 then some (u - 55)
  else if 0x61 ≤ u ∧ u ≤ 0x66 then some (u - 87)
  else none

def parseHex (text : JsString) : Option Nat :=
  let digits := text.map hexDigit |>.takeWhile Option.isSome
  if digits.isEmpty then none else some (digits.foldl (fun v digit => 16 * v + digit.getD 0) 0)

def parseIntAuto (text : JsString) : Option Int :=
  let body := text.dropWhile isSpace
  let negative := body.head? == some 0x2D
  match if negative || body.head? == some 0x2B then body.tail else body with
  | 0x30 :: x :: rest =>
      if x = 0x78 ∨ x = 0x58 then (parseHex rest).map fun n => if negative then -(n : Int) else n else parseInt text
  | _ => parseInt text

-- The Number nearest to an integer, ties to even, where it is finite.
def nearest (n : Nat) : Nat :=
  let unit := 1 <<< (n.log2 - 52)
  let low := n / unit
  let rest := n % unit
  (if unit < 2 * rest ∨ 2 * rest = unit ∧ low % 2 = 1 then low + 1 else low) * unit

def nearestInt : Int → Int
  | .ofNat n => nearest n
  | .negSucc n => -(nearest (n + 1))

theorem parseIntAuto_decimal_text (text : JsString) (numeral : isDecimal text = true) : parseIntAuto text = parseInt text := by
  obtain ⟨nonempty, digits⟩ := decimal_digits text numeral
  have spaceless : text.dropWhile isSpace = text := by
    cases text with
    | nil => rfl
    | cons unit rest => simp [digit_not_space unit (digits unit (by simp))]
  have signless : ∀ sign : UInt16, isDigit sign = false → (text.head? == some sign) = false := by
    intro sign other
    cases text with
    | nil => rfl
    | cons unit rest =>
        have different : unit ≠ sign := by rintro rfl; simp [digits unit (by simp)] at other
        simpa using different
  unfold parseIntAuto
  rw [spaceless]
  simp only [signless 0x2D (by decide), signless 0x2B (by decide), Bool.or_self, Bool.false_eq_true, if_false]
  split
  · rename_i x rest
    have digit := digits x (by simp)
    rw [if_neg]
    rintro (rfl | rfl) <;> exact absurd digit (by decide)
  · rfl

theorem nearestInt_parsed (n : Nat) : (parseInt (decimal n)).map nearestInt = some (nearest n : Int) := by
  rw [parseInt_decimal_text _ (decimal_isDecimal n), digits_decimal]
  rfl

def words (text : JsString) : List JsString := (text.splitOnP isSpace).filter fun piece => !piece.isEmpty

theorem words_append (left right : JsString) (unit : UInt16) (space : isSpace unit = true) :
    words (left ++ unit :: right) = words left ++ words right := by
  unfold words
  rw [List.splitOnP_append_cons left right space, List.filter_append]

theorem solid_text (text : JsString) (all : text.all (fun unit => !isSpace unit) = true) :
    ∀ unit ∈ text, isSpace unit = false := fun unit member => by simpa using List.all_eq_true.mp all unit member

theorem words_solid (text : JsString) (some : text ≠ []) (solid : ∀ unit ∈ text, isSpace unit = false) :
    words text = [text] := by
  unfold words
  rw [List.splitOnP_eq_singleton solid]
  simp [some]

theorem splitFrom_ne_nil (piece : JsString) (skipping : Bool) (text : JsString) : splitFrom piece skipping text ≠ [] := by
  induction text generalizing piece skipping with
  | nil => exact List.cons_ne_nil _ _
  | cons unit rest ih =>
      unfold splitFrom
      split
      · split
        · exact ih piece true
        · exact List.cons_ne_nil _ _
      · exact ih _ false

theorem join_cons (separator piece : JsString) (pieces : List JsString) (some : pieces ≠ []) :
    join separator (piece :: pieces) = piece ++ separator ++ join separator pieces := by
  cases pieces with
  | nil => exact absurd rfl some
  | cons next rest => simp [join, List.intercalate]

theorem join_append (separator : JsString) (left right : List JsString) (some : left ≠ []) (more : right ≠ []) :
    join separator (left ++ right) = join separator left ++ separator ++ join separator right := by
  induction left with
  | nil => exact absurd rfl some
  | cons piece rest ih =>
      by_cases last : rest = []
      · rw [last, List.singleton_append, join_cons separator piece right more]
        simp [join]
      · rw [List.cons_append, join_cons _ _ _ (by simp [last]), ih last, join_cons _ _ _ last]
        simp only [List.append_assoc]

theorem splitOn_bare (separator : UInt16) (text : JsString) :
    ∀ piece ∈ text.splitOn separator, separator ∉ piece := by
  induction text with
  | nil => simp
  | cons unit rest ih =>
      rw [List.splitOn_cons_eq_if_modifyHead]
      split
      · exact List.forall_mem_cons.mpr ⟨List.not_mem_nil, ih⟩
      · rename_i other
        have different : separator ≠ unit := fun same => other (by simp [same])
        cases pieces : rest.splitOn separator with
        | nil => exact absurd pieces (List.splitOn_ne_nil _ _)
        | cons first later =>
            rw [pieces] at ih
            rw [List.modifyHead_cons]
            obtain ⟨here, there⟩ := List.forall_mem_cons.mp ih
            exact List.forall_mem_cons.mpr ⟨by simp [different, here], there⟩

theorem splitOn_iff (separator : UInt16) (text : JsString) (pieces : List JsString) :
    text.splitOn separator = pieces ↔
      pieces ≠ [] ∧ (∀ piece ∈ pieces, separator ∉ piece) ∧ text = join [separator] pieces := by
  constructor
  · rintro rfl
    exact ⟨List.splitOn_ne_nil _ _, splitOn_bare separator text, (List.intercalate_splitOn separator).symm⟩
  · rintro ⟨some, bare, rfl⟩
    exact List.splitOn_intercalate separator bare some

theorem join_ended (parts : List JsString) (some : parts ≠ []) :
    join (js " ") (parts ++ [[]]) = join (js " ") parts ++ [0x20] := by
  have gap : js " " = [0x20] := by decide
  rw [join_append _ _ _ some (List.cons_ne_nil _ _), gap]
  exact List.append_nil _

theorem join_last (parts : List JsString) (some : parts ≠ []) (words : ∀ part ∈ parts, part ≠ [] ∧ ∀ unit ∈ part, isSpace unit = false) :
    ∃ last ∈ (join (js " ") parts).getLast?, isSpace last = false := by
  induction parts with
  | nil => exact absurd rfl some
  | cons part rest ih =>
      by_cases single : rest = []
      · subst single
        obtain ⟨full, solid⟩ := words part List.mem_cons_self
        have whole : join (js " ") [part] = part := by simp [join]
        rw [whole]
        exact ⟨_, List.getLast?_eq_some_getLast full, solid _ (List.getLast_mem full)⟩
      · obtain ⟨last, ends, solid⟩ := ih single fun other member => words other (List.mem_cons_of_mem _ member)
        have full : join (js " ") rest ≠ [] := fun none => by rw [none] at ends; cases ends
        rw [join_cons _ _ _ single, List.getLast?_append_of_ne_nil _ full]
        exact ⟨last, ends, solid⟩

theorem drop_singleton {α : Type} (n : Nat) (pieces : List α) (last : α) :
    pieces.drop n = [last] ↔ pieces.length = n + 1 ∧ pieces.getLast? = some last := by
  constructor
  · intro single
    have whole := List.take_append_drop n pieces
    have length := congrArg List.length single
    rw [List.length_drop, List.length_singleton] at length
    rw [single] at whole
    exact ⟨by omega, whole ▸ List.getLast?_concat⟩
  · intro ⟨length, ends⟩
    have some : pieces ≠ [] := List.ne_nil_of_length_pos (by omega)
    rw [List.getLast?_eq_some_getLast some] at ends
    rw [show n = pieces.length - 1 by omega, List.drop_length_sub_one some, Option.some.inj ends]

theorem splitFrom_words (piece : JsString) (skipping : Bool) (text : JsString) (started : skipping = true → piece = []) :
    (splitFrom piece skipping text).flatMap words = words (piece ++ text) := by
  induction text generalizing piece skipping with
  | nil => simp [splitFrom]
  | cons unit rest ih =>
      unfold splitFrom
      by_cases space : isSpace unit = true
      · rw [if_pos space, words_append piece rest unit space]
        cases skipping with
        | true =>
            obtain rfl := started rfl
            rw [if_pos rfl, ih [] true fun _ => rfl]
            simp [words]
        | false =>
            rw [if_neg Bool.false_ne_true, List.flatMap_cons, ih [] true fun _ => rfl, List.nil_append]
      · rw [if_neg space, ih _ false (by simp), List.append_assoc, List.singleton_append]

theorem join_words (pieces : List JsString) : words (join (js " ") pieces) = pieces.flatMap words := by
  induction pieces with
  | nil => simp [join, words]
  | cons piece rest ih =>
      by_cases last : rest = []
      · simp [last, join]
      · have gap : js " " = [0x20] := by decide
        rw [join_cons _ _ _ last, List.append_assoc, gap, List.singleton_append, words_append _ _ 0x20 (by decide), ← gap, ih,
          List.flatMap_cons]

theorem splitFrom_column (column : JsString) (skipping : Bool) (some : column ≠ [])
    (solid : ∀ unit ∈ column, isSpace unit = false) (rest : JsString) :
    splitFrom [] skipping (column ++ 0x20 :: rest) = column :: splitFrom [] true rest := by
  have grows : ∀ (column piece : JsString) (_ : ∀ unit ∈ column, isSpace unit = false),
      splitFrom piece false (column ++ 0x20 :: rest) = (piece ++ column) :: splitFrom [] true rest := by
    intro column
    induction column with
    | nil =>
        intro piece _
        rw [List.nil_append, List.append_nil, splitFrom, if_pos (by decide), if_neg Bool.false_ne_true]
    | cons unit tail ih =>
        intro piece solid
        rw [List.cons_append, splitFrom, if_neg (by simp [solid unit (by simp)]),
          ih _ fun other member => solid other (List.mem_cons_of_mem _ member)]
        simp
  cases column with
  | nil => exact absurd rfl some
  | cons unit tail =>
      rw [List.cons_append, splitFrom, if_neg (by simp [solid unit (by simp)]),
        grows tail _ fun other member => solid other (List.mem_cons_of_mem _ member)]
      simp

theorem splitFrom_spaces (count : Nat) (rest : JsString) :
    splitFrom [] true (List.replicate count 0x20 ++ rest) = splitFrom [] true rest := by
  induction count with
  | zero => rfl
  | succ count ih => rw [List.replicate_succ, List.cons_append, splitFrom, if_pos (by decide), if_pos rfl, ih]

-- No white space in front, one space at a time, and one at the end only where `ending` allows it.
def spaced (ending between : Bool) : JsString → Bool
  | [] => ending || !between
  | unit :: rest =>
      if isSpace unit then unit == 0x20 && !between && spaced ending true rest else spaced ending false rest

theorem join_length (piece : JsString) (skipping : Bool) (text : JsString) :
    (join (js " ") (splitFrom piece skipping text)).length ≤ piece.length + text.length := by
  induction text generalizing piece skipping with
  | nil => simp [splitFrom, join]
  | cons unit rest ih =>
      unfold splitFrom
      split
      · split
        · have shorter := ih piece true
          simp only [List.length_cons]
          omega
        · have shorter := ih [] true
          rw [join_cons _ _ _ (splitFrom_ne_nil _ _ _)]
          simp only [List.length_append, List.length_cons, List.length_nil, show (js " ").length = 1 by decide] at shorter ⊢
          omega
      · have shorter := ih (piece ++ [unit]) false
        simp only [List.length_append, List.length_cons, List.length_nil] at shorter ⊢
        omega

theorem join_spaced (text : JsString) :
    (∀ piece, join (js " ") (splitFrom piece false text) = piece ++ text ↔ spaced true false text = true) ∧
      (join (js " ") (splitFrom [] true text) = text ↔ spaced true true text = true) := by
  induction text with
  | nil => simp [splitFrom, join, spaced]
  | cons unit rest ih =>
      by_cases space : isSpace unit = true
      · refine ⟨fun piece => ?_, ?_⟩
        · have gap : js " " = [0x20] := by decide
          rw [splitFrom, if_pos space, if_neg Bool.false_ne_true, join_cons _ _ _ (splitFrom_ne_nil _ _ _), List.append_assoc,
            List.append_cancel_left_eq, gap, List.singleton_append, ← gap, List.cons.injEq, ih.2, spaced, if_pos space]
          simp only [Bool.not_false, Bool.and_true, Bool.and_eq_true, beq_iff_eq]
          exact and_congr_left fun _ => eq_comm
        · rw [splitFrom, if_pos space, if_pos rfl]
          have shorter := join_length [] true rest
          refine iff_of_false (fun same => ?_) (by simp [spaced, space])
          rw [same, List.length_cons, List.length_nil] at shorter
          omega
      · have longer : ∀ piece, join (js " ") (splitFrom (piece ++ [unit]) false rest) = piece ++ unit :: rest ↔
            spaced true false rest = true := fun piece => by simpa using ih.1 (piece ++ [unit])
        refine ⟨fun piece => ?_, ?_⟩
        · rw [splitFrom, if_neg space, longer piece, spaced, if_neg space]
        · rw [splitFrom, if_neg space, spaced, if_neg space]
          exact longer []

theorem spaced_ended (between : Bool) (text : JsString) (some : text ≠ []) :
    spaced false between text = true ↔ spaced true between text = true ∧ isSpace (text.getLast some) = false := by
  induction text generalizing between with
  | nil => exact absurd rfl some
  | cons unit rest ih =>
      by_cases last : rest = []
      · subst last
        by_cases space : isSpace unit = true <;> simp [spaced, space]
      · rw [List.getLast_cons last]
        by_cases space : isSpace unit = true
        · simp only [spaced, if_pos space, Bool.and_eq_true, ih true last, and_assoc]
        · simp only [spaced, if_neg space, ih false last]

theorem splitFrom_blank (spaces : JsString) (blank : ∀ unit ∈ spaces, isSpace unit = true) :
    splitFrom [] true spaces = [[]] := by
  induction spaces with
  | nil => rfl
  | cons unit rest ih =>
      rw [splitFrom, if_pos (blank unit List.mem_cons_self), if_pos rfl]
      exact ih fun other member => blank other (List.mem_cons_of_mem _ member)

theorem splitFrom_end (spaces : JsString) (some : spaces ≠ []) (blank : ∀ unit ∈ spaces, isSpace unit = true)
    (piece : JsString) (skipping : Bool) (text : JsString) (ends : ∀ last ∈ text.getLast?, isSpace last = false)
    (started : skipping = true → text ≠ []) :
    splitFrom piece skipping (text ++ spaces) = splitFrom piece skipping text ++ [[]] := by
  induction text generalizing piece skipping with
  | nil =>
      cases skipping with
      | true => exact absurd rfl (started rfl)
      | false =>
          cases spaces with
          | nil => exact absurd rfl some
          | cons unit rest =>
              rw [List.nil_append, splitFrom.eq_1, splitFrom, if_pos (blank unit List.mem_cons_self), if_neg Bool.false_ne_true,
                splitFrom_blank rest fun other member => blank other (List.mem_cons_of_mem _ member)]
              rfl
  | cons unit rest ih =>
      have later : ∀ last ∈ rest.getLast?, isSpace last = false := fun last member => by
        apply ends
        rw [List.getLast?_cons, Option.mem_def.mp member]
        rfl
      by_cases space : isSpace unit = true
      · have more : rest ≠ [] := by
          rintro rfl
          have ordinary := ends unit rfl
          rw [space] at ordinary
          cases ordinary
        rw [List.cons_append, splitFrom, if_pos space, splitFrom, if_pos space, ih piece true later fun _ => more,
          ih [] true later fun _ => more]
        cases skipping <;> rfl
      · rw [List.cons_append, splitFrom, if_neg space, splitFrom, if_neg space]
        exact ih _ false later (by simp)

theorem trim_last (text : JsString) : ∀ last ∈ (trim text).getLast?, isSpace last = false := by
  intro last member
  obtain ⟨nonempty, rfl⟩ := List.mem_getLast?_eq_getLast member
  exact Bool.not_eq_true _ |>.mp (List.rdropWhile_last_not isSpace _ nonempty)

theorem trim_idem (line : JsString) : trim (trim line) = trim line := by
  rw [trim, dropWhile_trim, trim, List.rdropWhile_idempotent]

theorem solid_kept (word rest : JsString) (solid : ∀ unit ∈ word, isSpace unit = false) :
    word <+: (word ++ rest).rdropWhile isSpace := by
  induction rest using List.reverseRecOn with
  | nil =>
      have whole : word.rdropWhile isSpace = word := List.rdropWhile_eq_self_iff.mpr fun some => by
        simp [solid _ (List.getLast_mem some)]
      simp [whole]
  | append_singleton before last ih =>
      rw [← List.append_assoc]
      by_cases space : isSpace last = true
      · rw [List.rdropWhile_concat_pos _ _ last space]
        exact ih
      · rw [List.rdropWhile_concat_neg _ _ last space, List.append_assoc]
        exact List.prefix_append _ _

theorem split_trim (text : JsString) (starts : text.dropWhile isSpace = text) :
    (text.rtakeWhile isSpace = [] → trim text = text) ∧
      (text.rtakeWhile isSpace ≠ [] → split text = split (trim text) ++ [[]]) := by
  have whole : trim text ++ text.rtakeWhile isSpace = text := by
    rw [trim, starts]
    exact List.rdropWhile_append_rtakeWhile
  refine ⟨fun none => by simpa [none] using whole, fun some => ?_⟩
  have longer := splitFrom_end (text.rtakeWhile isSpace) some (fun unit member => List.mem_rtakeWhile_imp member) [] false
    (trim text) (trim_last text) (by simp)
  rw [whole] at longer
  exact longer

theorem words_skip (space rest : JsString) (blank : ∀ unit ∈ space, isSpace unit = true) :
    words (space ++ rest) = words rest := by
  induction space with
  | nil => rfl
  | cons unit space ih =>
      have first := words_append [] (space ++ rest) unit (blank unit List.mem_cons_self)
      rw [List.nil_append] at first
      rw [List.cons_append, first, ih fun other member => blank other (List.mem_cons_of_mem _ member)]
      rfl

theorem words_blank (text : JsString) (blank : ∀ unit ∈ text, isSpace unit = true) : words text = [] := by
  have skipped := words_skip text [] blank
  rw [List.append_nil] at skipped
  exact skipped

theorem words_dropWhile (text : JsString) : words (text.dropWhile isSpace) = words text := by
  induction text with
  | nil => rfl
  | cons unit rest ih =>
      by_cases space : isSpace unit = true
      · have first := words_append [] rest unit space
        rw [List.nil_append] at first
        rw [List.dropWhile_cons_of_pos space, ih, first]
        rfl
      · rw [List.dropWhile_cons_of_neg space]

theorem words_trim (text : JsString) : words (trim text) = words text := by
  have whole : trim text ++ (text.dropWhile isSpace).rtakeWhile isSpace = text.dropWhile isSpace :=
    List.rdropWhile_append_rtakeWhile
  rw [← words_dropWhile text, ← whole]
  cases behind : (text.dropWhile isSpace).rtakeWhile isSpace with
  | nil => rw [List.append_nil]
  | cons unit rest =>
      have blank : ∀ other ∈ unit :: rest, isSpace other = true := fun other member =>
        List.mem_rtakeWhile_imp (behind ▸ member)
      rw [words_append _ _ unit (blank unit List.mem_cons_self),
        words_blank rest fun other member => blank other (List.mem_cons_of_mem _ member), List.append_nil]

theorem splitFrom_solid (piece : JsString) (skipping : Bool) (text : JsString) (solid : ∀ unit ∈ piece, isSpace unit = false) :
    ∀ part ∈ splitFrom piece skipping text, ∀ unit ∈ part, isSpace unit = false := by
  induction text generalizing piece skipping with
  | nil => simpa [splitFrom] using solid
  | cons unit rest ih =>
      unfold splitFrom
      split
      · split
        · exact ih piece true solid
        · exact List.forall_mem_cons.mpr ⟨solid, ih [] true fun _ none => by cases none⟩
      · rename_i ordinary
        refine ih _ false fun other member => ?_
        rcases List.mem_append.mp member with before | same
        · exact solid other before
        · rw [List.mem_singleton.mp same]
          exact Bool.not_eq_true _ |>.mp ordinary

theorem splitFrom_some (piece : JsString) (skipping : Bool) (text : JsString) (ends : ∀ last ∈ text.getLast?, isSpace last = false)
    (begun : if skipping then text ≠ [] else piece ≠ [] ∨ ∃ unit ∈ text.head?, isSpace unit = false)
    (started : skipping = true → piece = []) : ∀ part ∈ splitFrom piece skipping text, part ≠ [] := by
  induction text generalizing piece skipping with
  | nil =>
      cases skipping with
      | true => exact absurd rfl begun
      | false => simpa [splitFrom] using begun
  | cons unit rest ih =>
      have later : ∀ last ∈ rest.getLast?, isSpace last = false := fun last member => by
        apply ends
        rw [List.getLast?_cons, Option.mem_def.mp member]
        rfl
      unfold splitFrom
      by_cases space : isSpace unit = true
      · have more : rest ≠ [] := by
          rintro rfl
          have ordinary := ends unit rfl
          rw [space] at ordinary
          cases ordinary
        rw [if_pos space]
        cases skipping with
        | true =>
            rw [if_pos rfl]
            exact ih piece true later more started
        | false =>
            have full : piece ≠ [] := begun.resolve_right fun first => by
              obtain ⟨_, here, ordinary⟩ := first
              obtain rfl := Option.some.inj here
              rw [space] at ordinary
              cases ordinary
            rw [if_neg Bool.false_ne_true]
            exact List.forall_mem_cons.mpr ⟨full, ih [] true later more fun _ => rfl⟩
      · rw [if_neg space]
        exact ih _ false later (.inl (by simp)) (by simp)

theorem words_parts (parts : List JsString) (solid : ∀ part ∈ parts, ∀ unit ∈ part, isSpace unit = false)
    (some : ∀ part ∈ parts, part ≠ []) : parts.flatMap words = parts := by
  induction parts with
  | nil => rfl
  | cons part rest ih =>
      rw [List.flatMap_cons, words_solid part (some part List.mem_cons_self) (solid part List.mem_cons_self),
        ih (fun other member => solid other (List.mem_cons_of_mem _ member)) fun other member =>
          some other (List.mem_cons_of_mem _ member)]
      rfl

theorem trim_head (text : JsString) (some : trim text ≠ []) : ∃ unit ∈ (trim text).head?, isSpace unit = false := by
  obtain ⟨unit, rest, whole⟩ := List.exists_cons_of_ne_nil some
  refine ⟨unit, by rw [whole]; rfl, ?_⟩
  have kept := dropWhile_trim text
  rw [whole] at kept
  by_contra space
  rw [List.dropWhile_cons_of_pos (by simpa using space)] at kept
  have shorter := congrArg List.length kept
  have bound := (List.dropWhile_sublist isSpace (l := rest)).length_le
  rw [List.length_cons] at shorter
  omega

theorem split_trimmed (text : JsString) (some : trim text ≠ []) : split (trim text) = words text := by
  have full := splitFrom_some [] false (trim text) (trim_last text) (.inr (trim_head text some)) (by simp)
  have solid := splitFrom_solid [] false (trim text) fun _ none => by cases none
  rw [split, ← words_parts _ solid full, splitFrom_words [] false (trim text) (by simp), List.nil_append, words_trim]

theorem words_members (text : JsString) : ∀ word ∈ words text, word ≠ [] ∧ ∀ unit ∈ word, isSpace unit = false := by
  intro word member
  by_cases none : trim text = []
  · rw [← words_trim, none] at member
    cases member
  · rw [← split_trimmed text none] at member
    exact ⟨splitFrom_some [] false (trim text) (trim_last text) (.inr (trim_head text none)) (by simp) word member,
      splitFrom_solid [] false (trim text) (fun _ none => by cases none) word member⟩

theorem splitFrom_skip (text : JsString) (some : text.dropWhile isSpace ≠ []) :
    splitFrom [] true text = split (text.dropWhile isSpace) := by
  induction text with
  | nil => exact absurd rfl some
  | cons unit rest ih =>
      by_cases space : isSpace unit = true
      · rw [List.dropWhile_cons_of_pos space] at some ⊢
        rw [splitFrom, if_pos space, if_pos rfl, ih some]
      · rw [List.dropWhile_cons_of_neg space, split, splitFrom, if_neg space, splitFrom, if_neg space]

def leads (text : JsString) : Bool := text.head?.any isSpace

def trails (text : JsString) : Bool := text.getLast?.any isSpace

def edge (blank : Bool) : List JsString := if blank then [[]] else []

theorem rtakeWhile_trails (text : JsString) : text.rtakeWhile isSpace = [] ↔ trails text = false := by
  rw [List.rtakeWhile_eq_nil_iff, trails]
  cases text using List.reverseRecOn with
  | nil => simp
  | append_singleton before last => simp

theorem trim_clean (line : JsString) (start : leads line = false) (finish : trails line = false) : trim line = line := by
  have starts : line.dropWhile isSpace = line := by
    cases line with
    | nil => rfl
    | cons unit rest => rw [List.dropWhile_cons_of_neg (by simpa [leads] using start)]
  exact (split_trim line starts).1 ((rtakeWhile_trails line).mpr finish)

/-- The pieces are the words, with an empty one where white space is at an end. -/
theorem split_edges (text : JsString) (some : trim text ≠ []) : split text = edge (leads text) ++ words text ++ edge (trails text) := by
  have kept : text.dropWhile isSpace ≠ [] := fun none => some (by rw [trim, none]; rfl)
  have same : trim (text.dropWhile isSpace) = trim text := by rw [trim, trim, List.dropWhile_idempotent]
  have behind : trails (text.dropWhile isSpace) = trails text := by
    have whole := List.takeWhile_append_dropWhile (p := isSpace) (l := text)
    rw [trails, trails, ← whole, List.getLast?_append_of_ne_nil _ kept, whole]
  have core : split (text.dropWhile isSpace) = words text ++ edge (trails text) := by
    obtain ⟨clean, ended⟩ := split_trim (text.dropWhile isSpace) (List.dropWhile_idempotent _ _)
    rw [same] at clean ended
    cases trailing : trails text with
    | false =>
        rw [← clean ((rtakeWhile_trails _).mpr (behind.trans trailing)), split_trimmed text some]
        exact (List.append_nil _).symm
    | true =>
        rw [ended fun none => by simp [(rtakeWhile_trails _).mp none] at behind; simp [trailing] at behind,
          split_trimmed text some]
        rfl
  cases text with
  | nil => exact absurd rfl some
  | cons unit rest =>
      by_cases space : isSpace unit = true
      · rw [List.dropWhile_cons_of_pos space] at kept core
        have first : leads (unit :: rest) = true := by simpa [leads] using space
        rw [split, splitFrom, if_pos space, if_neg Bool.false_ne_true, splitFrom_skip rest kept, core, first]
        rfl
      · rw [List.dropWhile_cons_of_neg space] at core
        have first : leads (unit :: rest) = false := by simpa [leads] using space
        rw [core, first]
        rfl

end Ecma
