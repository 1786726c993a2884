import Kessh.Lib.Number
import Kessh.Lib.RegExpSearch
import Kessh.Lynx.MonitorMetrics

set_option autoImplicit false

-- What KesshHost reads out of the lines that top, free and df print.
namespace Kessh.KesshHost

open Ecma
open RegExpSearch (Pattern)

-- A letter in either case: no other unit folds to a letter of ASCII.
def letter (lower upper : UInt16) : Pattern UInt16 := .unit fun unit => unit == lower || unit == upper

def isLineTerminator (unit : UInt16) : Bool := unit == 0x0A || unit == 0x0D || unit == 0x2028 || unit == 0x2029

-- (\d+(?:\.\d+)?)
def numberPattern : Pattern UInt16 :=
  .group (.seq (.run isDigit 1) (.optional (.seq (.unit (· == 0x2E)) (.run isDigit 1))))

def spaces : Pattern UInt16 := .run isSpace 0

-- /(\d+(?:\.\d+)?)\s*%?\s*id/i
def idlePattern : Pattern UInt16 :=
  .seq numberPattern (.seq spaces (.seq (.optional (.unit (· == 0x25))) (.seq spaces
    (.seq (letter 0x69 0x49) (letter 0x64 0x44)))))

-- /(\d+(?:\.\d+)?)\s*us.*?(\d+(?:\.\d+)?)\s*sy/i
def usagePattern : Pattern UInt16 :=
  .seq numberPattern (.seq spaces (.seq (letter 0x75 0x55) (.seq (letter 0x73 0x53)
    (.seq (.lazy fun unit => !isLineTerminator unit)
      (.seq numberPattern (.seq spaces (.seq (letter 0x73 0x53) (letter 0x79 0x59))))))))

structure Usage where
  usage : Number
  detail : JsString

variable (rounding : Rounding) (shown : Number → JsString)

def parseCpu (output : JsString) : Usage :=
  if output.isEmpty then { usage := .finite 0, detail := js "--" }
  else match idlePattern.search output with
    | some groups =>
        let idle := rounding.parseFloat (groups.getD 0 [])
        { usage := rounding.sub (.finite 100) idle, detail := trim output }
    | none => match usagePattern.search output with
      | some groups =>
          { usage := rounding.add (rounding.parseFloat (groups.getD 0 [])) (rounding.parseFloat (groups.getD 1 []))
            detail := trim output }
      | none => { usage := .finite 0, detail := trim output }

def columns (output : JsString) : List JsString := split (trim output)

def parseMemory (output : JsString) : Usage :=
  if output.isEmpty then { usage := .finite 0, detail := js "--" }
  else if (columns output).length ≥ 4 then
    let total := rounding.parseFloat ((columns output).getD 1 [])
    let used := rounding.parseFloat ((columns output).getD 2 [])
    let free := rounding.parseFloat ((columns output).getD 3 [])
    let usage := if (Number.finite 0).lt total then rounding.mul (rounding.div used total) (.finite 100) else .finite 0
    { usage
      detail := js "total " ++ shown total ++ js "MB · used " ++ shown used ++ js "MB · free " ++ shown free ++ js "MB" }
  else { usage := .finite 0, detail := trim output }

def parseDisk (output : JsString) : Usage :=
  if output.isEmpty then { usage := .finite 0, detail := js "--" }
  else if (columns output).length ≥ 5 then
    let percent := ((columns output).getD 4 []).erase 0x25
    { usage := (rounding.parseFloat percent).orZero
      detail := js "size " ++ (columns output).getD 1 [] ++ js " · used " ++ (columns output).getD 2 [] ++
        js " · avail " ++ (columns output).getD 3 [] }
  else { usage := .finite 0, detail := trim output }

def fetchMetrics (cpuRaw memRaw diskRaw lastUpdate : JsString) : LynxMonitorPage.SystemMetrics Number :=
  let cpu := parseCpu rounding cpuRaw
  let memory := parseMemory rounding shown memRaw
  let disk := parseDisk rounding diskRaw
  { cpuUsage := cpu.usage
    cpuDetail := cpu.detail
    memoryUsage := memory.usage
    memoryDetail := memory.detail
    diskUsage := disk.usage
    diskDetail := disk.detail
    lastUpdate }

-- A value with what is in front of it and what is between it and its tag.
structure Reading where
  lead : JsString
  whole : JsString
  decimals : JsString
  before : JsString
  percent : Bool
  after : JsString
  lead_apart : ∀ unit ∈ lead, (unit == 0x2C || isSpace unit) = true
  whole_decimal : isDecimal whole = true
  decimals_digits : ∀ unit ∈ decimals, isDigit unit = true
  before_blank : ∀ unit ∈ before, isSpace unit = true
  after_blank : ∀ unit ∈ after, isSpace unit = true

namespace Reading

def number (reading : Reading) : JsString := reading.whole ++ point reading.decimals

def gap (reading : Reading) : JsString := reading.before ++ ((if reading.percent then [0x25] else []) ++ reading.after)

def value (reading : Reading) : ℚ :=
  digitsFrom 0 reading.whole + digitsFrom 0 reading.decimals / 10 ^ reading.decimals.length

def text (reading : Reading) (tag rest : JsString) : JsString :=
  reading.lead ++ (reading.number ++ (reading.gap ++ (tag ++ rest)))

end Reading

-- The line of top: a label and eight tagged values, each behind commas and spaces.
structure CpuLine where
  percentLabel : Bool
  us : Reading
  sy : Reading
  ni : Reading
  id : Reading
  wa : Reading
  hi : Reading
  si : Reading
  st : Reading
  ending : JsString

def CpuLine.text (line : CpuLine) : JsString :=
  (if line.percentLabel then js "%Cpu(s):" else js "Cpu(s):") ++
    line.us.text (js "us") (line.sy.text (js "sy") (line.ni.text (js "ni") (line.id.text (js "id")
      (line.wa.text (js "wa") (line.hi.text (js "hi") (line.si.text (js "si") (line.st.text (js "st") line.ending)))))))

-- The line of free: its words are the label and at least three integers.
structure MemoryLine where
  text : JsString
  total : JsString
  used : JsString
  free : JsString
  others : List JsString
  columns : words text = js "Mem:" :: total :: used :: free :: others
  total_decimal : isDecimal total = true
  used_decimal : isDecimal used = true
  free_decimal : isDecimal free = true
  total_positive : 0 < digitsFrom 0 total

-- The line of df: at least six words, and the fifth is a percentage.
structure DiskLine where
  text : JsString
  filesystem : JsString
  size : JsString
  used : JsString
  available : JsString
  whole : JsString
  decimals : JsString
  mounted : JsString
  others : List JsString
  columns : words text =
    filesystem :: size :: used :: available :: (whole ++ point decimals ++ [0x25]) :: mounted :: others
  whole_decimal : isDecimal whole = true
  decimals_digits : ∀ unit ∈ decimals, isDigit unit = true

-- What can be in front of the letters that the idle pattern ends with.
def inValue (unit : UInt16) : Bool := isDigit unit || unit == 0x2E || isSpace unit || unit == 0x25

theorem idle_takes (piece : JsString) (groups : RegExpSearch.Groups UInt16) (takes : idlePattern.Takes piece groups) :
    ∃ digit value i d, piece = digit :: value ++ [i, d] ∧ isDigit digit = true ∧
      (∀ unit ∈ digit :: value, inValue unit = true) ∧ (i == 0x69 || i == 0x49) = true := by
  obtain ⟨number, tail, _, _, _, rfl, ⟨_, _, whole, fraction, _, _, _, rfl, ⟨_, long, digits⟩, decimals⟩, before, tail, _, _,
    _, rfl, ⟨_, _, blank⟩, percent, tail, _, _, _, rfl, sign, after, tail, _, _, _, rfl, ⟨_, _, blankAfter⟩, i, d, _, _, _,
    rfl, ⟨_, i, isI, rfl⟩, ⟨_, d, _, rfl⟩⟩ := takes
  have inFraction : ∀ unit ∈ fraction, inValue unit = true := by
    rcases decimals with ⟨_, rfl⟩ | ⟨dot, decimals, _, _, _, rfl, ⟨_, dot, isDot, rfl⟩, _, _, digits⟩
    · intro unit member
      cases member
    · intro unit member
      rcases List.mem_cons.mp member with rfl | member
      · simp [inValue, isDot]
      · simp [inValue, digits unit member]
  have inPercent : ∀ unit ∈ percent, inValue unit = true := by
    rcases sign with ⟨_, rfl⟩ | ⟨_, sign, isSign, rfl⟩
    · intro unit member
      cases member
    · intro unit member
      obtain rfl := List.mem_singleton.mp member
      simp [inValue, isSign]
  cases whole with
  | nil => exact absurd long (by decide)
  | cons digit others =>
      refine ⟨digit, others ++ (fraction ++ (before ++ (percent ++ after))), i, d, by simp, digits digit List.mem_cons_self,
        ?_, isI⟩
      rw [← List.cons_append]
      intro unit member
      simp only [List.mem_append] at member
      rcases member with member | member | member | member | member
      · simp [inValue, digits unit member]
      · exact inFraction unit member
      · simp [inValue, blank unit member]
      · exact inPercent unit member
      · simp [inValue, blankAfter unit member]

theorem idle_here_starts (output : JsString) (groups : RegExpSearch.Groups UInt16)
    (hit : idlePattern.here output = some groups) :
    (∃ digit ∈ output.head?, isDigit digit = true) ∧
      ∃ i ∈ (output.dropWhile inValue).head?, (i == 0x69 || i == 0x49) = true := by
  obtain ⟨piece, rest, rfl, takes⟩ := Pattern.here_takes idlePattern output groups hit
  obtain ⟨digit, value, i, d, rfl, isDigit, inside, letter⟩ := idle_takes piece groups takes
  have outside : inValue i = false := by
    simp only [Bool.or_eq_true, beq_iff_eq] at letter
    rcases letter with rfl | rfl
    · decide
    · decide
  refine ⟨⟨digit, rfl, isDigit⟩, i, ?_, letter⟩
  rw [List.append_assoc, List.dropWhile_append_of_pos inside, List.cons_append,
    List.dropWhile_cons_of_neg (by simp [outside])]
  rfl

theorem idle_skips_words (piece rest : JsString) (words : ∀ unit ∈ piece, isDigit unit = false) :
    idlePattern.search (piece ++ rest) = idlePattern.search rest := by
  apply Pattern.search_skip
  intro tail suffix some
  obtain ⟨first, others, rfl⟩ := List.exists_cons_of_ne_nil some
  by_contra found
  obtain ⟨groups, hit⟩ := Option.ne_none_iff_exists'.mp found
  obtain ⟨⟨digit, head, isDigit⟩, _⟩ := idle_here_starts _ groups hit
  obtain rfl := Option.some.inj head
  rw [words first (suffix.subset List.mem_cons_self)] at isDigit
  cases isDigit

theorem idle_skips_value (piece rest : JsString) (tag : UInt16) (value : ∀ unit ∈ piece, inValue unit = true)
    (other : (inValue tag || tag == 0x69 || tag == 0x49) = false) :
    idlePattern.search (piece ++ tag :: rest) = idlePattern.search (tag :: rest) := by
  apply Pattern.search_skip
  intro tail suffix _
  by_contra found
  obtain ⟨groups, hit⟩ := Option.ne_none_iff_exists'.mp found
  obtain ⟨_, i, head, letter⟩ := idle_here_starts _ groups hit
  simp only [Bool.or_eq_false_iff] at other
  rw [List.dropWhile_append_of_pos fun unit member => value unit (suffix.subset member),
    List.dropWhile_cons_of_neg (by simp [other.1.1])] at head
  obtain rfl := Option.some.inj head
  rw [other.1.2, other.2] at letter
  cases letter

theorem digits_attempt (whole decimals rest : JsString) (groups found : RegExpSearch.Groups UInt16)
    (next : JsString → RegExpSearch.Groups UInt16 → Option (RegExpSearch.Groups UInt16))
    (numeral : isDecimal whole = true) (digits : ∀ unit ∈ decimals, isDigit unit = true)
    (ends : ∀ unit ∈ rest.head?, isDigit unit = false ∧ unit ≠ 0x2E) (later : next rest groups = some found) :
    (Pattern.seq (.run isDigit 1) (.optional (.seq (.unit (· == 0x2E)) (.run isDigit 1)))).attempt
      ((whole ++ point decimals) ++ rest) groups next = some found := by
  obtain ⟨some, members⟩ := decimal_digits whole numeral
  have stops := point_stops decimals rest fun unit first => (ends unit first).1
  rw [Pattern.attempt, List.append_assoc]
  apply Pattern.attempt_run isDigit 1 whole _ groups found _ members stops (List.length_pos_iff.mpr some)
  cases decimals with
  | nil =>
      rw [Pattern.attempt_optional_none]
      · exact later
      · rintro piece more captured whole ⟨dot, _, _, _, _, rfl, ⟨_, dot, isDot, rfl⟩, _⟩
        exact (ends dot (by rw [show rest = [dot] ++ _ ++ more from whole]; rfl)).2 (by simpa using isDot)
  | cons digit decimals =>
      apply Pattern.attempt_optional_some
      rw [Pattern.attempt, show point (digit :: decimals) ++ rest = 0x2E :: (digit :: decimals ++ rest) from rfl,
        Pattern.attempt_unit _ _ _ _ _ (by decide)]
      exact Pattern.attempt_run isDigit 1 (digit :: decimals) rest groups found _ digits (fun unit first => (ends unit first).1)
        (by simp) later

theorem number_attempt (whole decimals rest : JsString) (groups found : RegExpSearch.Groups UInt16)
    (next : JsString → RegExpSearch.Groups UInt16 → Option (RegExpSearch.Groups UInt16))
    (numeral : isDecimal whole = true) (digits : ∀ unit ∈ decimals, isDigit unit = true)
    (ends : ∀ unit ∈ rest.head?, isDigit unit = false ∧ unit ≠ 0x2E)
    (later : next rest (groups ++ [whole ++ point decimals]) = some found) :
    numberPattern.attempt ((whole ++ point decimals) ++ rest) groups next = some found := by
  have taken : (whole ++ point decimals ++ rest).take ((whole ++ point decimals ++ rest).length - rest.length) =
      whole ++ point decimals := by
    rw [List.length_append, Nat.add_sub_cancel, List.take_left]
  rw [← taken] at later
  rw [numberPattern, Pattern.attempt]
  exact digits_attempt whole decimals rest groups found _ numeral digits ends later

theorem gap_attempt (reading : Reading) (first : UInt16) (rest : JsString) (groups found : RegExpSearch.Groups UInt16)
    (pattern : Pattern UInt16) (next : JsString → RegExpSearch.Groups UInt16 → Option (RegExpSearch.Groups UInt16))
    (apart : isSpace first = false ∧ first ≠ 0x25) (later : pattern.attempt (first :: rest) groups next = some found) :
    (Pattern.seq spaces (.seq (.optional (.unit (· == 0x25))) (.seq spaces pattern))).attempt
      (reading.gap ++ first :: rest) groups next = some found := by
  have stops : ∀ unit ∈ (first :: rest).head?, isSpace unit = false := fun unit head => by
    obtain rfl := Option.some.inj head
    exact apart.1
  have blanks : ∀ space : JsString, (∀ unit ∈ space, isSpace unit = true) →
      (Pattern.seq spaces pattern).attempt (space ++ first :: rest) groups next = some found := fun space blank => by
    rw [Pattern.attempt]
    exact Pattern.attempt_run isSpace 0 space _ groups found _ blank stops (Nat.zero_le _) later
  rw [Pattern.attempt, Reading.gap]
  cases reading.percent with
  | true =>
      rw [if_pos rfl, List.append_assoc]
      apply Pattern.attempt_run isSpace 0 reading.before _ groups found _ reading.before_blank _ (Nat.zero_le _)
      · rw [Pattern.attempt]
        apply Pattern.attempt_optional_some
        exact (Pattern.attempt_unit _ _ _ _ _ (by decide)).trans (blanks reading.after reading.after_blank)
      · intro unit head
        obtain rfl := Option.some.inj head
        decide
  | false =>
      have none : (Pattern.optional (.unit (· == (0x25 : UInt16)))).attempt (first :: rest) groups
          (fun rest groups => (Pattern.seq spaces pattern).attempt rest groups next) = some found := by
        rw [Pattern.attempt_optional_none]
        · exact blanks [] fun _ none => by cases none
        · rintro piece more captured whole ⟨_, sign, isSign, rfl⟩
          obtain ⟨rfl, _⟩ := List.cons.inj whole
          exact apart.2 (by simpa using isSign)
      rw [if_neg Bool.false_ne_true, List.nil_append]
      apply Pattern.attempt_run isSpace 0 _ _ groups found _ _ stops (Nat.zero_le _) none
      intro unit member
      exact (List.mem_append.mp member).elim (reading.before_blank unit) (reading.after_blank unit)

theorem gap_units (reading : Reading) : ∀ unit ∈ reading.gap, (isSpace unit || unit == 0x25) = true := by
  intro unit member
  rcases List.mem_append.mp member with before | member
  · simp [reading.before_blank unit before]
  · rcases List.mem_append.mp member with sign | after
    · cases percent : reading.percent with
      | false =>
          rw [percent, if_neg Bool.false_ne_true] at sign
          cases sign
      | true =>
          rw [percent, if_pos rfl] at sign
          simp [List.mem_singleton.mp sign]
    · simp [reading.after_blank unit after]

theorem gap_stops (reading : Reading) (first : UInt16) (rest : JsString) (apart : isDigit first = false ∧ first ≠ 0x2E) :
    ∀ unit ∈ (reading.gap ++ first :: rest).head?, isDigit unit = false ∧ unit ≠ 0x2E := by
  have units := gap_units reading
  intro unit head
  cases gap : reading.gap with
  | nil =>
      rw [gap] at head
      obtain rfl := Option.some.inj head
      exact apart
  | cons other others =>
      rw [gap] at head units
      obtain rfl := Option.some.inj head
      have member := units other List.mem_cons_self
      refine ⟨?_, ?_⟩
      · by_contra digit
        rw [digit_not_space other (by simpa using digit), Bool.false_or, beq_iff_eq] at member
        rw [member] at digit
        exact digit (by decide)
      · rintro rfl
        exact absurd member (by decide)

theorem letter_attempt (lower upper : UInt16) (rest : JsString) (groups : RegExpSearch.Groups UInt16)
    (next : JsString → RegExpSearch.Groups UInt16 → Option (RegExpSearch.Groups UInt16)) :
    (letter lower upper).attempt (lower :: rest) groups next = next rest groups :=
  Pattern.attempt_unit _ lower rest groups next (by simp)

theorem idle_here (reading : Reading) (rest : JsString) :
    idlePattern.here (reading.number ++ (reading.gap ++ (js "id" ++ rest))) = some [reading.number] := by
  have tag : js "id" ++ rest = 0x69 :: 0x64 :: rest := by rw [show js "id" = [0x69, 0x64] by decide]; rfl
  rw [tag, Pattern.here, idlePattern, Pattern.attempt]
  apply number_attempt reading.whole reading.decimals _ [] _ _ reading.whole_decimal reading.decimals_digits
  · exact gap_stops reading 0x69 _ (by decide)
  · apply gap_attempt reading 0x69 _ _ _ _ _ (by decide)
    rw [Pattern.attempt, letter_attempt, letter_attempt]
    rfl

theorem reading_inValue (reading : Reading) : ∀ unit ∈ reading.number ++ reading.gap, inValue unit = true := by
  intro unit member
  rcases List.mem_append.mp member with number | gap
  · rcases List.mem_append.mp number with whole | decimals
    · simp [inValue, (decimal_digits _ reading.whole_decimal).2 unit whole]
    · rcases point_members _ reading.decimals_digits unit decimals with rfl | digit
      · decide
      · simp [inValue, digit]
  · have units := gap_units reading unit gap
    simp only [Bool.or_eq_true] at units
    rcases units with space | percent
    · simp [inValue, space]
    · simp [inValue, percent]

theorem lead_skipped (reading : Reading) (rest : JsString) :
    idlePattern.search (reading.lead ++ rest) = idlePattern.search rest := by
  apply idle_skips_words
  intro unit member
  have apart := reading.lead_apart unit member
  by_contra digit
  rw [digit_not_space unit (by simpa using digit), Bool.or_false, beq_iff_eq] at apart
  rw [apart] at digit
  exact digit (by decide)

theorem reading_skipped (reading : Reading) (first second : UInt16) (rest : JsString)
    (other : (inValue first || first == 0x69 || first == 0x49) = false) (words : isDigit second = false) :
    idlePattern.search (reading.text [first, second] rest) = idlePattern.search rest := by
  have outside : isDigit first = false := by
    simp only [inValue, Bool.or_eq_false_iff] at other
    exact other.1.1.1.1.1
  have units : ∀ unit ∈ [first, second], isDigit unit = false := fun unit member => by
    rcases List.mem_cons.mp member with rfl | member
    · exact outside
    · exact (List.mem_singleton.mp member) ▸ words
  rw [Reading.text, lead_skipped, ← List.append_assoc, List.cons_append,
    idle_skips_value _ _ first (reading_inValue reading) other, ← List.cons_append, idle_skips_words _ _ units]

theorem cpuLine_idle (line : CpuLine) : idlePattern.search line.text = some [line.id.number] := by
  have label : ∀ rest, idlePattern.search ((if line.percentLabel then js "%Cpu(s):" else js "Cpu(s):") ++ rest) =
      idlePattern.search rest := fun rest => by
    apply idle_skips_words
    have digitless : (if line.percentLabel then js "%Cpu(s):" else js "Cpu(s):").all (fun unit => !isDigit unit) = true := by
      cases line.percentLabel with
      | true => decide
      | false => decide
    exact fun unit member => by simpa using List.all_eq_true.mp digitless unit member
  have us : js "us" = [0x75, 0x73] := by decide
  have sy : js "sy" = [0x73, 0x79] := by decide
  have ni : js "ni" = [0x6E, 0x69] := by decide
  rw [CpuLine.text, label, us, reading_skipped line.us _ _ _ (by decide) (by decide), sy,
    reading_skipped line.sy _ _ _ (by decide) (by decide), ni, reading_skipped line.ni _ _ _ (by decide) (by decide),
    Reading.text, lead_skipped]
  exact Pattern.search_here _ _ _ (idle_here line.id _)

example : idlePattern.search (js "%Cpu(s):  1.2 us,  0.3 sy,  0.0 ni, 98.5 id") = some [js "98.5"] := by decide

theorem cpuLine_some (line : CpuLine) : line.text.isEmpty = false := by
  rw [List.isEmpty_eq_false_iff]
  intro none
  have found := cpuLine_idle line
  rw [none, show idlePattern.search [] = Option.none by decide] at found
  cases found

theorem words_some (text first : JsString) (others : List JsString) (columns : words text = first :: others) :
    text.isEmpty = false ∧ KesshHost.columns text = first :: others := by
  have full : trim text ≠ [] := fun none => by
    rw [← words_trim, none] at columns
    cases columns
  refine ⟨List.isEmpty_eq_false_iff.mpr ?_, (split_trimmed text full).trans columns⟩
  rintro rfl
  exact full rfl

theorem percent_exact (used total : ℚ) (positive : 0 < total) :
    Rounding.exact.mul (Rounding.exact.div (.finite used) (.finite total)) (.finite 100) = .finite (100 * used / total) := by
  have quotient : Rounding.exact.div (.finite used) (.finite total) = .finite (used / total) := if_neg positive.ne'
  rw [quotient, show 100 * used / total = used / total * 100 by ring]
  rfl

theorem parseMemory_line (line : MemoryLine) :
    (parseMemory .exact shown line.text).usage = .finite (100 * digitsFrom 0 line.used / digitsFrom 0 line.total) := by
  obtain ⟨full, columns⟩ := words_some line.text _ _ line.columns
  have positive : (0 : ℚ) < digitsFrom 0 line.total := by exact_mod_cast line.total_positive
  rw [parseMemory, full, columns, if_neg Bool.false_ne_true, if_pos (by simp)]
  simp only [List.getD_cons_succ, List.getD_cons_zero, Rounding.parseFloat_numeral _ _ line.total_decimal,
    Rounding.parseFloat_numeral _ _ line.used_decimal]
  have larger : (Number.finite 0).lt (Rounding.exact.round (digitsFrom 0 line.total)) = true := decide_eq_true positive
  rw [if_pos larger]
  exact percent_exact _ _ positive

theorem parseDisk_line (line : DiskLine) :
    (parseDisk .exact line.text).usage =
      .finite (digitsFrom 0 line.whole + digitsFrom 0 line.decimals / 10 ^ line.decimals.length) := by
  obtain ⟨full, columns⟩ := words_some line.text _ _ line.columns
  have unsigned : 0x25 ∉ line.whole ++ point line.decimals := fun member => by
    rcases List.mem_append.mp member with whole | decimals
    · exact absurd ((decimal_digits _ line.whole_decimal).2 _ whole) (by decide)
    · rcases point_members line.decimals line.decimals_digits _ decimals with dot | digit
      · exact absurd dot (by decide)
      · exact absurd digit (by decide)
  rw [parseDisk, full, columns, if_neg Bool.false_ne_true, if_pos (by simp)]
  simp only [List.getD_cons_succ, List.getD_cons_zero]
  rw [List.erase_append_right _ unsigned, List.erase_cons_head, List.append_nil,
    Rounding.exact.parseFloat_decimal _ _ line.whole_decimal line.decimals_digits]
  rfl

/-- For every line as the commands print it, the parsers return what it says. -/
theorem metrics_extracted (cpu : CpuLine) (memory : MemoryLine) (disk : DiskLine) :
    (parseCpu .exact cpu.text).usage = .finite (100 - cpu.id.value) ∧
      (parseMemory .exact shown memory.text).usage =
        .finite (100 * digitsFrom 0 memory.used / digitsFrom 0 memory.total) ∧
      (parseDisk .exact disk.text).usage =
        .finite (digitsFrom 0 disk.whole + digitsFrom 0 disk.decimals / 10 ^ disk.decimals.length) := by
  refine ⟨?_, parseMemory_line shown memory, parseDisk_line disk⟩
  rw [parseCpu, cpuLine_some, if_neg Bool.false_ne_true, cpuLine_idle]
  simp only [List.getD_cons_zero, Reading.number]
  rw [Rounding.exact.parseFloat_decimal _ _ cpu.id.whole_decimal cpu.id.decimals_digits]
  simp [Rounding.exact, Rounding.sub, Rounding.add, Reading.value, sub_eq_add_neg]

-- Lines of a calm machine.
def calm : Reading where
  lead := js ",  "
  whole := js "0"
  decimals := js "0"
  before := js " "
  percent := false
  after := []
  lead_apart := List.all_eq_true.mp (by decide)
  whole_decimal := by decide
  decimals_digits := List.all_eq_true.mp (by decide)
  before_blank := List.all_eq_true.mp (by decide)
  after_blank := List.all_eq_true.mp (by decide)

def topLine : CpuLine where
  percentLabel := true
  us := { calm with
    lead := js "  "
    whole := js "1"
    decimals := js "5"
    lead_apart := List.all_eq_true.mp (by decide)
    whole_decimal := by decide
    decimals_digits := List.all_eq_true.mp (by decide) }
  sy := calm
  ni := calm
  id := { calm with
    lead := js ", "
    whole := js "97"
    decimals := js "9"
    lead_apart := List.all_eq_true.mp (by decide)
    whole_decimal := by decide
    decimals_digits := List.all_eq_true.mp (by decide) }
  wa := calm
  hi := calm
  si := calm
  st := calm
  ending := []

def freeLine : MemoryLine where
  text := js "Mem:            7821        2104        3310         118        2406        5384"
  total := js "7821"
  used := js "2104"
  free := js "3310"
  others := [js "118", js "2406", js "5384"]
  columns := by decide
  total_decimal := by decide
  used_decimal := by decide
  free_decimal := by decide
  total_positive := by decide

def dfLine : DiskLine where
  text := js "/dev/sda1        40G   18G   20G  48% /"
  filesystem := js "/dev/sda1"
  size := js "40G"
  used := js "18G"
  available := js "20G"
  whole := js "48"
  decimals := []
  mounted := js "/"
  others := []
  columns := by decide
  whole_decimal := by decide
  decimals_digits := List.all_eq_true.mp (by decide)

theorem topLine_text :
    topLine.text = js "%Cpu(s):  1.5 us,  0.0 sy,  0.0 ni, 97.9 id,  0.0 wa,  0.0 hi,  0.0 si,  0.0 st" := by
  decide

theorem metrics_extracted_calm :
    (parseCpu .exact (js "%Cpu(s):  1.5 us,  0.0 sy,  0.0 ni, 97.9 id,  0.0 wa,  0.0 hi,  0.0 si,  0.0 st")).usage =
        .finite (21 / 10) ∧
      (parseMemory .exact (fun _ => [])
          (js "Mem:            7821        2104        3310         118        2406        5384")).usage =
        .finite (210400 / 7821) ∧
      (parseDisk .exact (js "/dev/sda1        40G   18G   20G  48% /")).usage = .finite 48 := by
  obtain ⟨cpu, memory, disk⟩ := metrics_extracted (fun _ => []) topLine freeLine dfLine
  have idle : digitsFrom 0 topLine.id.whole = 97 ∧ digitsFrom 0 topLine.id.decimals = 9 ∧ topLine.id.decimals.length = 1 := by
    decide
  have used : digitsFrom 0 freeLine.used = 2104 ∧ digitsFrom 0 freeLine.total = 7821 := by decide
  have full : digitsFrom 0 dfLine.whole = 48 ∧ digitsFrom 0 dfLine.decimals = 0 := by decide
  rw [topLine_text, Reading.value, idle.1, idle.2.1, idle.2.2] at cpu
  rw [used.1, used.2] at memory
  rw [full.1, full.2] at disk
  refine ⟨cpu.trans ?_, memory.trans ?_, disk.trans ?_⟩ <;> exact congrArg Number.finite (by norm_num)

end Kessh.KesshHost
