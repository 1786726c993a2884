import Kessh.Lib.Columns

set_option autoImplicit false

-- The long format of ls: a line of columns for each entry, with the name behind them.
namespace LongListing

open Ecma (JsString js isSpace split splitFrom join words spaced)

-- A column: a text without white space.
structure Word where
  text : JsString
  some : text ≠ []
  solid : ∀ unit ∈ text, isSpace unit = false

inductive Kind where
  | regular
  | directory
  | fifo
  | socket
  | link (target : JsString)
  | block (major minor : Nat)
  | character (major minor : Nat)

def Kind.letter : Kind → UInt16
  | .regular => 0x2D
  | .directory => 0x64
  | .fifo => 0x70
  | .socket => 0x73
  | .link _ => 0x6C
  | .block _ _ => 0x62
  | .character _ _ => 0x63

-- The gaps are what a column is padded with beside its one space. A size is an off_t.
structure Entry where
  kind : Kind
  rights : Word
  links : Nat
  owner : Word
  group : Word
  size : Nat
  month : Word
  day : Word
  time : Word
  gaps : Nat → Nat
  name : JsString
  sized : size < 0x8000000000000000
  named : name ≠ []
  slashless : 0x2F ∉ name
  oneLine : 0x0A ∉ name ∧ ∀ target, kind = .link target → 0x0A ∉ target
  dots : name = js "." ∨ name = js ".." → kind = .directory

namespace Entry

def mode (entry : Entry) : JsString := entry.kind.letter :: entry.rights.text

def sizeColumns (entry : Entry) : List JsString :=
  match entry.kind with
  | .block major minor => [Ecma.decimal major ++ js ",", Ecma.decimal minor]
  | .character major minor => [Ecma.decimal major ++ js ",", Ecma.decimal minor]
  | _ => [Ecma.decimal entry.size]

def columns (entry : Entry) : List JsString :=
  [entry.mode, Ecma.decimal entry.links, entry.owner.text, entry.group.text] ++ entry.sizeColumns ++
    [entry.month.text, entry.day.text, entry.time.text]

def shown (entry : Entry) : JsString :=
  match entry.kind with
  | .link target => entry.name ++ js " -> " ++ target
  | _ => entry.name

def isDot (entry : Entry) : Bool := entry.name == js "." || entry.name == js ".."

def isDirectory (entry : Entry) : Bool :=
  match entry.kind with
  | .directory => true
  | _ => false

-- Its size column is one number and its name stands alone.
def Simple (entry : Entry) : Prop :=
  match entry.kind with
  | .link _ => False
  | .block _ _ => False
  | .character _ _ => False
  | _ => True

end Entry

def layOut (gaps : Nat → Nat) : List JsString → JsString → JsString
  | [], shown => shown
  | [column], shown => column ++ 0x20 :: shown
  | column :: rest, shown => column ++ 0x20 :: (List.replicate (gaps rest.length) 0x20 ++ layOut gaps rest shown)

def line (entry : Entry) : JsString := layOut entry.gaps entry.columns entry.shown

def header (total : Nat) : JsString := js "total " ++ Ecma.decimal total

def render (total : Nat) (entries : List Entry) : JsString :=
  join [0x0A] (header total :: (entries.map line ++ [[]]))

theorem decimal_word (n : Nat) : Ecma.decimal n ≠ [] ∧ ∀ unit ∈ Ecma.decimal n, isSpace unit = false := by
  obtain ⟨some, digits⟩ := Ecma.decimal_digits _ (Ecma.decimal_isDecimal n)
  exact ⟨some, fun unit member => Ecma.digit_not_space unit (digits unit member)⟩

theorem mode_solid (entry : Entry) : ∀ unit ∈ entry.mode, isSpace unit = false := by
  intro unit member
  rcases List.mem_cons.mp member with rfl | right
  · cases entry.kind <;> rfl
  · exact entry.rights.solid unit right

theorem columns_solid (entry : Entry) : ∀ column ∈ entry.columns, column ≠ [] ∧ ∀ unit ∈ column, isSpace unit = false := by
  have comma : ∀ unit ∈ js ",", isSpace unit = false := Ecma.solid_text _ (by decide)
  have number : ∀ n, Ecma.decimal n ++ js "," ≠ [] ∧ ∀ unit ∈ Ecma.decimal n ++ js ",", isSpace unit = false := fun n => by
    refine ⟨by simp [(decimal_word n).1], fun unit member => ?_⟩
    rcases List.mem_append.mp member with digit | last
    · exact (decimal_word n).2 unit digit
    · exact comma unit last
  have sizes : ∀ column ∈ entry.sizeColumns, column ≠ [] ∧ ∀ unit ∈ column, isSpace unit = false := by
    unfold Entry.sizeColumns
    split <;> simp only [List.forall_mem_cons, List.not_mem_nil, false_implies, implies_true, and_true]
    · exact ⟨number _, decimal_word _⟩
    · exact ⟨number _, decimal_word _⟩
    · exact decimal_word _
  intro column member
  simp only [Entry.columns, List.cons_append, List.nil_append, List.mem_cons, List.mem_append, List.not_mem_nil,
    or_false] at member
  rcases member with rfl | rfl | rfl | rfl | size | rfl | rfl | rfl
  · exact ⟨List.cons_ne_nil _ _, mode_solid entry⟩
  · exact decimal_word entry.links
  · exact ⟨entry.owner.some, entry.owner.solid⟩
  · exact ⟨entry.group.some, entry.group.solid⟩
  · exact sizes column size
  · exact ⟨entry.month.some, entry.month.solid⟩
  · exact ⟨entry.day.some, entry.day.solid⟩
  · exact ⟨entry.time.some, entry.time.solid⟩

theorem splitFrom_layOut (gaps : Nat → Nat) (columns : List JsString)
    (solid : ∀ column ∈ columns, column ≠ [] ∧ ∀ unit ∈ column, isSpace unit = false) (shown : JsString) :
    splitFrom [] true (layOut gaps columns shown) = columns ++ splitFrom [] true shown := by
  induction columns with
  | nil => rfl
  | cons column rest ih =>
      have here := solid column List.mem_cons_self
      have later := ih fun other member => solid other (List.mem_cons_of_mem _ member)
      cases rest with
      | nil => exact Ecma.splitFrom_column column true here.1 here.2 shown
      | cons next others =>
          rw [layOut, Ecma.splitFrom_column column true here.1 here.2, Ecma.splitFrom_spaces, later]
          · rfl
          · simp

theorem line_starts (entry : Entry) : ∃ rest, line entry = entry.kind.letter :: rest :=
  ⟨_, rfl⟩

theorem letter_solid (kind : Kind) : isSpace kind.letter = false := by
  cases kind <;> rfl

theorem split_line (entry : Entry) : split (line entry) = entry.columns ++ splitFrom [] true entry.shown := by
  have same : split (line entry) = splitFrom [] true (line entry) := by
    obtain ⟨rest, starts⟩ := line_starts entry
    rw [starts, split, splitFrom, splitFrom, letter_solid]
    rfl
  rw [same]
  exact splitFrom_layOut entry.gaps entry.columns (columns_solid entry) entry.shown

theorem shown_some (entry : Entry) : entry.shown ≠ [] := by
  unfold Entry.shown
  split
  · simp [entry.named]
  · exact entry.named

theorem layOut_suffix (gaps : Nat → Nat) (columns : List JsString) (shown : JsString) :
    ∃ front, layOut gaps columns shown = front ++ shown := by
  induction columns with
  | nil => exact ⟨[], rfl⟩
  | cons column rest ih =>
      cases rest with
      | nil => exact ⟨column ++ [0x20], by simp [layOut]⟩
      | cons next others =>
          obtain ⟨front, same⟩ := ih
          refine ⟨column ++ 0x20 :: (List.replicate (gaps (next :: others).length) 0x20 ++ front), ?_⟩
          rw [layOut, same]
          · simp
          · simp

theorem line_last (entry : Entry) :
    (line entry).rtakeWhile isSpace = [] ↔ isSpace (entry.shown.getLast (shown_some entry)) = false := by
  obtain ⟨front, same⟩ := layOut_suffix entry.gaps entry.columns entry.shown
  have whole : line entry = front ++ entry.shown := same
  rw [List.rtakeWhile_eq_nil_iff, whole]
  have some : front ++ entry.shown ≠ [] := by simp [shown_some]
  rw [forall_prop_of_true some, List.getLast_append_of_ne_nil _ (shown_some entry), Bool.not_eq_true]

-- The pieces of a line are its columns and those of what is shown behind them.
def Pieces (ending : Bool) (entry : Entry) (parts : List JsString) : Prop :=
  ∃ more, parts = entry.columns ++ more ∧ more.flatMap words = words entry.shown ∧
    (more ≠ [] ∧ join (js " ") more = entry.shown ↔ spaced ending true entry.shown = true)

theorem split_pieces (entry : Entry) : Pieces true entry (split (line entry)) := by
  refine ⟨splitFrom [] true entry.shown, split_line entry, Ecma.splitFrom_words [] true _ fun _ => rfl, ?_⟩
  rw [and_iff_right (Ecma.splitFrom_ne_nil _ _ _)]
  exact (Ecma.join_spaced entry.shown).2

theorem trimmed_pieces (entry : Entry) : Pieces false entry (split (Ecma.trim (line entry))) := by
  have starts : (line entry).dropWhile isSpace = line entry := by
    obtain ⟨rest, first⟩ := line_starts entry
    simp [first, letter_solid]
  obtain ⟨kept, cut⟩ := Ecma.split_trim (line entry) starts
  by_cases ends : (line entry).rtakeWhile isSpace = []
  · rw [kept ends]
    obtain ⟨more, parts, same, faithful⟩ := split_pieces entry
    refine ⟨more, parts, same, faithful.trans ?_⟩
    rw [Ecma.spaced_ended true entry.shown (shown_some entry), and_iff_left ((line_last entry).mp ends)]
  · -- The last piece is empty and is lost with the white space at the end.
    have whole := cut ends
    rw [split_line entry] at whole
    obtain ⟨more, last, all⟩ := List.eq_nil_or_concat (splitFrom [] true entry.shown) |>.resolve_left (Ecma.splitFrom_ne_nil _ _ _)
    rw [List.concat_eq_append] at all
    rw [all, ← List.append_assoc] at whole
    obtain ⟨front, none⟩ := List.append_inj' whole rfl
    obtain rfl : last = [] := List.singleton_inj.mp none
    refine ⟨more, front.symm, ?_, iff_of_false ?_ ?_⟩
    · have same := Ecma.splitFrom_words [] true entry.shown fun _ => rfl
      rw [all, List.flatMap_append] at same
      simpa [words] using same
    · rintro ⟨some, same⟩
      have shorter := Ecma.join_length [] true entry.shown
      rw [all, Ecma.join_append _ more [[]] some (by simp), same] at shorter
      have gap : (js " ").length = 1 := by decide
      simp only [join, List.intercalate_singleton, List.append_nil, List.length_append, List.length_nil, gap] at shorter
      omega
    · rw [Ecma.spaced_ended true entry.shown (shown_some entry), ← line_last]
      exact fun both => ends both.2

theorem simple_columns (entry : Entry) (simple : entry.Simple) :
    entry.sizeColumns = [Ecma.decimal entry.size] ∧ entry.shown = entry.name := by
  unfold Entry.Simple at simple
  unfold Entry.sizeColumns Entry.shown
  cases kind : entry.kind <;> simp_all

theorem words_added (entry : Entry) (compound : ¬ entry.Simple) :
    (words entry.name).length < ((entry.columns.drop 8).flatMap words ++ words entry.shown).length := by
  have time : words entry.time.text = [entry.time.text] := Ecma.words_solid _ entry.time.some entry.time.solid
  unfold Entry.Simple at compound
  unfold Entry.columns Entry.sizeColumns Entry.shown
  cases kind : entry.kind with
  | link target =>
      have arrow : js " -> " = 0x20 :: (js "->" ++ [0x20]) := by decide
      have alone : words (js "->") = [js "->"] := Ecma.words_solid _ (by decide) (Ecma.solid_text _ (by decide))
      have whole : entry.name ++ js " -> " ++ target = entry.name ++ 0x20 :: (js "->" ++ 0x20 :: target) := by simp [arrow]
      dsimp only
      rw [whole, Ecma.words_append _ _ _ (by decide), Ecma.words_append _ _ _ (by decide), alone]
      simp only [List.length_append, List.length_cons]
      omega
  | block major minor => simp [time]
  | character major minor => simp [time]
  | regular => simp [kind] at compound
  | directory => simp [kind] at compound
  | fifo => simp [kind] at compound
  | socket => simp [kind] at compound

/-- The name that the pieces from the ninth on make is right where the name stands alone behind one
size column and has single spaces only. -/
theorem name_read (ending : Bool) (entry : Entry) (parts : List JsString) (pieces : Pieces ending entry parts) :
    (9 ≤ parts.length ∧ join (js " ") (parts.drop 8) = entry.name) ↔
      entry.Simple ∧ spaced ending true entry.name = true := by
  obtain ⟨more, rfl, same, faithful⟩ := pieces
  by_cases simple : entry.Simple
  · obtain ⟨sizes, shown⟩ := simple_columns entry simple
    have eight : entry.columns.length = 8 := by simp [Entry.columns, sizes]
    have counted : 9 ≤ (entry.columns ++ more).length ↔ more ≠ [] := by
      rw [List.length_append, eight, ← List.length_pos_iff]
      omega
    rw [List.drop_left' eight, counted, and_iff_right simple, ← shown]
    exact faithful
  · refine iff_of_false (fun read => ?_) fun both => simple both.1
    have longer := words_added entry simple
    have eight : 8 ≤ entry.columns.length := by
      simp only [Entry.columns, Entry.sizeColumns]
      split <;> simp
    rw [← read.2, Ecma.join_words, List.drop_append_of_le_length eight, List.flatMap_append, same] at longer
    exact Nat.lt_irrefl _ longer

theorem front_read (ending : Bool) (entry : Entry) (parts : List JsString) (pieces : Pieces ending entry parts)
    (simple : entry.Simple) : parts[0]? = some entry.mode ∧ parts[4]? = some (Ecma.decimal entry.size) := by
  obtain ⟨more, rfl, _⟩ := pieces
  simp [Entry.columns, (simple_columns entry simple).1]

theorem dots_read (ending : Bool) (entry : Entry) (dot : entry.isDot = true) :
    entry.Simple ∧ spaced ending true entry.name = true := by
  simp only [Entry.isDot, Bool.or_eq_true, beq_iff_eq] at dot
  have directory := entry.dots dot
  refine ⟨by simp [Entry.Simple, directory], ?_⟩
  rcases dot with name | name <;> rw [name] <;> cases ending <;> decide

theorem line_oneLine (entry : Entry) : 0x0A ∉ line entry := by
  have laid : ∀ columns : List JsString, (∀ column ∈ columns, column ≠ [] ∧ ∀ unit ∈ column, isSpace unit = false) →
      0x0A ∉ entry.shown → 0x0A ∉ layOut entry.gaps columns entry.shown := by
    intro columns solid shown
    induction columns with
    | nil => exact shown
    | cons column rest ih =>
        have plain : 0x0A ∉ column := fun member => by
          have ordinary := (solid column List.mem_cons_self).2 _ member
          exact absurd ordinary (by decide)
        have later := ih fun other member => solid other (List.mem_cons_of_mem _ member)
        cases rest with
        | nil => simp [layOut, plain, shown]
        | cons next others =>
            rw [layOut]
            · simp [plain, later, List.mem_replicate]
            · simp
  apply laid entry.columns (columns_solid entry)
  unfold Entry.shown
  split
  · rename_i target link
    have arrow : 0x0A ∉ js " -> " := by decide
    simp [entry.oneLine.1, entry.oneLine.2 target link, arrow]
  · exact entry.oneLine.1

theorem render_lines (total : Nat) (entries : List Entry) :
    (render total entries).splitOn 0x0A = header total :: (entries.map line ++ [[]]) := by
  unfold render join
  apply List.splitOn_intercalate
  · intro text member
    rcases List.mem_cons.mp member with rfl | body
    · have plain : 0x0A ∉ js "total " := by decide
      have digits : 0x0A ∉ Ecma.decimal total := fun member => absurd ((decimal_word total).2 _ member) (by decide)
      simp [header, plain, digits]
    · rcases List.mem_append.mp body with inside | last
      · obtain ⟨entry, _, rfl⟩ := List.mem_map.mp inside
        exact line_oneLine entry
      · simp [List.mem_singleton.mp last]
  · exact List.cons_ne_nil _ _

end LongListing
