import Kessh.Lib.LongListing
import Kessh.Pages.ScpTransfers

set_option autoImplicit false

-- The four parsers of ls -la: those of the two ArkTS pages and of the two Lynx pages.
namespace Kessh

open Ecma (JsString js trim split join spaced)
open LongListing (Entry Pieces)

namespace LsOutput

-- The pieces of a line that the parsers use.
structure Row where
  permissions : JsString
  size : JsString
  name : JsString

def Row.isDirectory (row : Row) : Bool := (js "d").isPrefixOf row.permissions

-- The name is what is left from the ninth piece on.
def readRow (line : JsString) : Option Row :=
  if (trim line).isEmpty || (js "total").isPrefixOf line then none
  else
    let parts := split line
    if parts.length < 9 then none
    else
      let name := join (js " ") (parts.drop 8)
      if name = js "." ∨ name = js ".." then none
      else some { permissions := parts.getD 0 [], size := parts.getD 4 [], name }

-- All parsers but one trim the lines first.
def prepared (trims : Bool) (raw : JsString) : JsString := if trims then trim raw else raw

def readRows {File : Type} (trims : Bool) (push : Row → File) (output : JsString) : List File :=
  (output.splitOn 0x0A).filterMap fun raw => (readRow (prepared trims raw)).map push

-- parseInt(text) || 0, as a Number.
def orZero (parsed : Option Int) : Int := (parsed.map Ecma.nearestInt).getD 0

def fullPath (currentPath name : JsString) : JsString :=
  if currentPath = js "/" then js "/" ++ name else currentPath ++ js "/" ++ name

end LsOutput

open LsOutput

namespace SCPPage

def listed (currentPath : JsString) (row : Row) : FileItem where
  name := row.name
  path := fullPath currentPath row.name
  size := orZero (Ecma.parseIntAuto row.size)
  isDirectory := row.isDirectory
  permissions := some row.permissions

def parentItem : FileItem := { name := js "..", path := js "..", size := 0, isDirectory := true, permissions := none }

def parents (currentPath : JsString) : List FileItem :=
  if currentPath ≠ js "/" ∧ currentPath ≠ js "~" then [parentItem] else []

def parseLsOutput (currentPath output : JsString) : List FileItem :=
  parents currentPath ++ readRows true (listed currentPath) output

end SCPPage

namespace LynxSCPPage

structure FileItem where
  name : JsString
  path : JsString
  size : Int
  isDirectory : Bool
  permissions : JsString
deriving DecidableEq, Repr

def listed (currentPath : JsString) (row : Row) : FileItem where
  name := row.name
  path := fullPath currentPath row.name
  size := orZero (Ecma.parseInt row.size)
  isDirectory := row.isDirectory
  permissions := row.permissions

def parentItem : FileItem := { name := js "..", path := js "..", size := 0, isDirectory := true, permissions := [] }

def parents (currentPath : JsString) : List FileItem :=
  if currentPath ≠ js "/" ∧ currentPath ≠ js "~" then [parentItem] else []

def parseLs (output currentPath : JsString) : List FileItem :=
  parents currentPath ++ readRows true (listed currentPath) output

end LynxSCPPage

-- The files of the two SFTP pages have the same fields.
structure SFTPFile where
  name : JsString
  isDir : Bool
  size : JsString
  permissions : JsString
deriving DecidableEq, Repr

def SFTPFile.listed (row : Row) : SFTPFile :=
  { name := row.name, isDir := row.isDirectory, size := row.size, permissions := row.permissions }

namespace SFTPPage

def parseLs (output : JsString) : List SFTPFile := readRows true SFTPFile.listed output

end SFTPPage

namespace ArkTS.SFTPPage

def parentFile : SFTPFile := { name := js "..", isDir := true, size := [], permissions := [] }

def parents (path : JsString) : List SFTPFile := if path ≠ js "/" ∧ path.length > 1 then [parentFile] else []

-- The files that listFiles sorts. It does not trim the lines.
def parsedFiles (path output : JsString) : List SFTPFile := parents path ++ readRows false SFTPFile.listed output

end ArkTS.SFTPPage

namespace LsOutput

theorem filterMap_faithful {α β : Type} (read expected : α → Option β) (entries : List α)
    (skipped : ∀ entry, expected entry = none → read entry = none) :
    entries.filterMap read = entries.filterMap expected ↔ ∀ entry ∈ entries, read entry = expected entry := by
  have shorter : ∀ entries : List α, (entries.filterMap read).length ≤ (entries.filterMap expected).length := by
    intro entries
    induction entries with
    | nil => exact Nat.le_refl _
    | cons entry rest ih =>
        simp only [List.filterMap_cons]
        cases wanted : expected entry with
        | none => simpa [skipped entry wanted] using ih
        | some file => cases read entry <;> simp <;> omega
  induction entries with
  | nil => simp
  | cons entry rest ih =>
      refine Iff.trans ?_ (List.forall_mem_cons.trans (and_congr_right' ih.symm)).symm
      simp only [List.filterMap_cons]
      cases wanted : expected entry with
      | none => simp [skipped entry wanted]
      | some file =>
          cases got : read entry with
          | none =>
              refine iff_of_false (fun same => ?_) (by simp)
              dsimp only at same
              have longer := shorter rest
              rw [same, List.length_cons] at longer
              omega
          | some other => simp

theorem prepared_starts (trims : Bool) (entry : Entry) :
    ∃ rest, prepared trims (LongListing.line entry) = entry.kind.letter :: rest := by
  obtain ⟨rest, first⟩ := LongListing.line_starts entry
  cases trims with
  | false => exact ⟨rest, first⟩
  | true =>
      have ordinary := LongListing.letter_solid entry.kind
      have starts : (LongListing.line entry).dropWhile Ecma.isSpace = entry.kind.letter :: rest := by simp [first, ordinary]
      obtain ⟨cut, whole⟩ := Ecma.trimmed_start (LongListing.line entry)
      rw [starts] at whole
      cases trimmed : trim (LongListing.line entry) with
      | nil =>
          have blank : ∀ unit ∈ (LongListing.line entry).dropWhile Ecma.isSpace, Ecma.isSpace unit = true :=
            List.rdropWhile_eq_nil_iff.mp trimmed
          rw [starts] at blank
          simp [blank _ List.mem_cons_self] at ordinary
      | cons unit tail =>
          rw [trimmed, List.cons_append, List.cons.injEq] at whole
          exact ⟨tail, by rw [prepared, if_pos rfl, trimmed, whole.1]⟩

theorem prepared_pieces (trims : Bool) (entry : Entry) :
    Pieces (!trims) entry (split (prepared trims (LongListing.line entry))) := by
  cases trims with
  | false => exact LongListing.split_pieces entry
  | true => exact LongListing.trimmed_pieces entry

theorem line_kept (trims : Bool) (entry : Entry) :
    ((trim (prepared trims (LongListing.line entry))).isEmpty ||
      (js "total").isPrefixOf (prepared trims (LongListing.line entry))) = false := by
  obtain ⟨rest, first⟩ := prepared_starts trims entry
  have ordinary := LongListing.letter_solid entry.kind
  have total : js "total" = 0x74 :: js "otal" := by decide
  have other : entry.kind.letter ≠ 0x74 := by cases entry.kind <;> simp [LongListing.Kind.letter]
  rw [first, total, List.isPrefixOf_cons_cons, Bool.or_eq_false_iff]
  refine ⟨?_, by simp [other.symm]⟩
  rw [List.isEmpty_eq_false_iff]
  intro none
  have blank : ∀ unit ∈ (entry.kind.letter :: rest).dropWhile Ecma.isSpace, Ecma.isSpace unit = true :=
    List.rdropWhile_eq_nil_iff.mp none
  simp [ordinary] at blank

theorem header_skipped (trims : Bool) (total : Nat) : readRow (prepared trims (LongListing.header total)) = none := by
  have kept : prepared trims (LongListing.header total) = LongListing.header total := by
    cases trims with
    | false => rfl
    | true =>
        obtain ⟨some, solid⟩ := LongListing.decimal_word total
        have last : (js "total " ++ Ecma.decimal total).rtakeWhile Ecma.isSpace = [] := by
          rw [List.rtakeWhile_eq_nil_iff]
          intro whole
          rw [List.getLast_append_of_ne_nil _ some, solid _ (List.getLast_mem some)]
          exact Bool.false_ne_true
        exact (Ecma.split_trim (LongListing.header total) rfl).1 last
  have first : (js "total").isPrefixOf (LongListing.header total) = true := by
    have word : js "total " = js "total" ++ [0x20] := by decide
    rw [List.isPrefixOf_iff_prefix, LongListing.header, word, List.append_assoc]
    exact List.prefix_append _ _
  rw [kept, readRow, first, Bool.or_true, if_pos rfl]

theorem blank_skipped (trims : Bool) : readRow (prepared trims []) = none := by
  cases trims <;> rfl

theorem readRow_line (trims : Bool) (entry : Entry) (row : Row)
    (read : readRow (prepared trims (LongListing.line entry)) = some row) (named : row.name = entry.name) :
    entry.Simple ∧ spaced (!trims) true entry.name = true := by
  apply (LongListing.name_read (!trims) entry _ (prepared_pieces trims entry)).mp
  rw [readRow, line_kept, if_neg Bool.false_ne_true] at read
  dsimp only at read
  split at read
  · cases read
  · rename_i enough
    split at read
    · cases read
    · obtain rfl := Option.some.inj read
      exact ⟨Nat.le_of_not_lt enough, named⟩

theorem readRow_simple (trims : Bool) (entry : Entry) (simple : entry.Simple) (single : spaced (!trims) true entry.name = true) :
    readRow (prepared trims (LongListing.line entry)) =
      if entry.isDot then none else some ⟨entry.mode, Ecma.decimal entry.size, entry.name⟩ := by
  have pieces := prepared_pieces trims entry
  obtain ⟨enough, named⟩ := (LongListing.name_read (!trims) entry _ pieces).mpr ⟨simple, single⟩
  obtain ⟨mode, size⟩ := LongListing.front_read (!trims) entry _ pieces simple
  rw [readRow, line_kept, if_neg Bool.false_ne_true]
  dsimp only
  rw [if_neg (Nat.not_lt.mpr enough), named, List.getD_eq_getElem?_getD, mode, List.getD_eq_getElem?_getD, size]
  by_cases dot : entry.name = js "." ∨ entry.name = js ".."
  · rw [if_pos dot, if_pos (by simpa [Entry.isDot] using dot)]
  · rw [if_neg dot, if_neg (by simpa [Entry.isDot] using dot)]
    rfl

/-- The rows that are read are those of the entries, without the two dots, where each entry is simple, is
named with single spaces, and has a row that is pushed as it should be. -/
theorem readRows_faithful {File : Type} (trims : Bool) (push : Row → File) (expected : Entry → File) (name : File → JsString)
    (pushed : ∀ row, name (push row) = row.name) (wanted : ∀ entry, name (expected entry) = entry.name)
    (total : Nat) (entries : List Entry) :
    readRows trims push (LongListing.render total entries) = (entries.filter fun entry => !entry.isDot).map expected ↔
      ∀ entry ∈ entries, entry.isDot = false → (entry.Simple ∧ spaced (!trims) true entry.name = true) ∧
        push ⟨entry.mode, Ecma.decimal entry.size, entry.name⟩ = expected entry := by
  let read : Entry → Option File := fun entry => (readRow (prepared trims (LongListing.line entry))).map push
  let right : Entry → Option File := fun entry => if entry.isDot then none else some (expected entry)
  have rows : readRows trims push (LongListing.render total entries) = entries.filterMap read := by
    rw [readRows, LongListing.render_lines, List.filterMap_cons, header_skipped, Option.map_none, List.filterMap_append,
      List.filterMap_map, List.filterMap_cons, blank_skipped]
    exact List.append_nil _
  have files : (entries.filter fun entry => !entry.isDot).map expected = entries.filterMap right := by
    rw [← List.filterMap_eq_map, List.filterMap_filter]
    refine List.filterMap_congr fun entry _ => ?_
    simp only [right]
    cases entry.isDot <;> rfl
  have skipped : ∀ entry, right entry = none → read entry = none := fun entry none => by
    have dot : entry.isDot = true := by simpa [right] using none
    obtain ⟨simple, single⟩ := LongListing.dots_read (!trims) entry dot
    simp only [read]
    rw [readRow_simple trims entry simple single, if_pos dot]
    rfl
  rw [rows, files, filterMap_faithful read right entries skipped]
  refine forall₂_congr fun entry _ => ?_
  simp only [read, right]
  cases dot : entry.isDot with
  | true =>
      refine iff_of_true ?_ fun other => by cases other
      obtain ⟨simple, single⟩ := LongListing.dots_read (!trims) entry dot
      rw [readRow_simple trims entry simple single, if_pos dot]
      rfl
  | false =>
      rw [if_neg Bool.false_ne_true, forall_prop_of_true rfl]
      constructor
      · intro same
        obtain ⟨row, there, made⟩ := Option.map_eq_some_iff.mp same
        have named : row.name = entry.name := by rw [← pushed, made, wanted]
        obtain ⟨simple, single⟩ := readRow_line trims entry row there named
        rw [readRow_simple trims entry simple single, dot, if_neg Bool.false_ne_true] at there
        exact ⟨⟨simple, single⟩, (congrArg push (Option.some.inj there)).trans made⟩
      · rintro ⟨⟨simple, single⟩, made⟩
        rw [readRow_simple trims entry simple single, dot, if_neg Bool.false_ne_true, Option.map_some, made]

-- The entries that are to be shown, and what is to be shown of them.
def shownEntries (entries : List Entry) : List Entry := entries.filter fun entry => !entry.isDot

def itemOf (currentPath : JsString) (entry : Entry) : SCPPage.FileItem where
  name := entry.name
  path := fullPath currentPath entry.name
  size := entry.size
  isDirectory := entry.isDirectory
  permissions := some entry.mode

def lynxItemOf (currentPath : JsString) (entry : Entry) : LynxSCPPage.FileItem where
  name := entry.name
  path := fullPath currentPath entry.name
  size := entry.size
  isDirectory := entry.isDirectory
  permissions := entry.mode

def fileOf (entry : Entry) : SFTPFile where
  name := entry.name
  isDir := entry.isDirectory
  size := join (js " ") entry.sizeColumns
  permissions := entry.mode

def Shaped (ending : Bool) (entry : Entry) : Prop := entry.Simple ∧ spaced ending true entry.name = true

theorem simple_directory (entry : Entry) (simple : entry.Simple) (size name : JsString) :
    Row.isDirectory ⟨entry.mode, size, name⟩ = entry.isDirectory := by
  unfold Entry.Simple at simple
  have first : js "d" = [0x64] := by decide
  unfold Entry.isDirectory Row.isDirectory Entry.mode
  rw [first]
  cases kind : entry.kind <;> simp_all [LongListing.Kind.letter, List.isPrefixOf]

theorem shown_entries (entries : List Entry) (holds : Entry → Prop) :
    (∀ entry ∈ shownEntries entries, holds entry) ↔ ∀ entry ∈ entries, entry.isDot = false → holds entry := by
  simp [shownEntries, and_imp]

theorem orZero_decimal (n : Nat) : orZero (Ecma.parseInt (Ecma.decimal n)) = Ecma.nearest n := by
  rw [orZero, Ecma.nearestInt_parsed]
  rfl

theorem files_read (trims : Bool) (total : Nat) (entries : List Entry) :
    readRows trims SFTPFile.listed (LongListing.render total entries) = (shownEntries entries).map fileOf ↔
      ∀ entry ∈ shownEntries entries, Shaped (!trims) entry := by
  rw [shownEntries, readRows_faithful trims SFTPFile.listed fileOf SFTPFile.name (fun _ => rfl) fun _ => rfl]
  rw [← shownEntries, shown_entries]
  refine forall₂_congr fun entry _ => forall_congr' fun _ => and_iff_left_of_imp fun shaped => ?_
  simp [SFTPFile.listed, fileOf, simple_directory entry shaped.1, (LongListing.simple_columns entry shaped.1).1, join]

theorem items_read {Item : Type} (push : Row → Item) (item : Entry → Item) (name : Item → JsString)
    (pushed : ∀ row, name (push row) = row.name) (wanted : ∀ entry, name (item entry) = entry.name)
    (same : ∀ entry : Entry, entry.Simple → (push ⟨entry.mode, Ecma.decimal entry.size, entry.name⟩ = item entry ↔
      Ecma.nearest entry.size = entry.size)) (total : Nat) (entries : List Entry) :
    readRows true push (LongListing.render total entries) = (shownEntries entries).map item ↔
      ∀ entry ∈ shownEntries entries, Shaped false entry ∧ Ecma.nearest entry.size = entry.size := by
  rw [shownEntries, readRows_faithful true push item name pushed wanted, ← shownEntries, shown_entries]
  exact forall₂_congr fun entry _ => forall_congr' fun _ => and_congr_right fun shaped => same entry shaped.1

/-- Each parser reads the entries of a listing exactly where none of them is a link or a device, all names
have single spaces inside only, and a size that is made a number is one. The parser that does not trim
leaves a space at the end of a name alone. -/
theorem listing_parsed (currentPath path : JsString) (total : Nat) (entries : List Entry) :
    let output := LongListing.render total entries
    let shown := shownEntries entries
    (SCPPage.parseLsOutput currentPath output = SCPPage.parents currentPath ++ shown.map (itemOf currentPath) ↔
      ∀ entry ∈ shown, Shaped false entry ∧ Ecma.nearest entry.size = entry.size) ∧
    (LynxSCPPage.parseLs output currentPath = LynxSCPPage.parents currentPath ++ shown.map (lynxItemOf currentPath) ↔
      ∀ entry ∈ shown, Shaped false entry ∧ Ecma.nearest entry.size = entry.size) ∧
    (SFTPPage.parseLs output = shown.map fileOf ↔ ∀ entry ∈ shown, Shaped false entry) ∧
    (ArkTS.SFTPPage.parsedFiles path output = ArkTS.SFTPPage.parents path ++ shown.map fileOf ↔
      ∀ entry ∈ shown, Shaped true entry) := by
  intro output shown
  refine ⟨?_, ?_, ?_, ?_⟩
  · refine List.append_cancel_left_eq _ _ _ |>.to_iff.trans ?_
    refine items_read _ _ SCPPage.FileItem.name (fun _ => rfl) (fun _ => rfl) (fun entry simple => ?_) total entries
    have size := orZero_decimal entry.size
    rw [← Ecma.parseIntAuto_decimal_text _ (Ecma.decimal_isDecimal entry.size)] at size
    refine Iff.trans ?_ Int.natCast_inj
    simp [SCPPage.listed, itemOf, simple_directory entry simple, size]
  · refine List.append_cancel_left_eq _ _ _ |>.to_iff.trans ?_
    refine items_read _ _ LynxSCPPage.FileItem.name (fun _ => rfl) (fun _ => rfl) (fun entry simple => ?_) total entries
    refine Iff.trans ?_ Int.natCast_inj
    simp [LynxSCPPage.listed, lynxItemOf, simple_directory entry simple, orZero_decimal]
  · exact files_read true total entries
  · exact List.append_cancel_left_eq _ _ _ |>.to_iff.trans (files_read false total entries)

-- A file whose name has two spaces in it.
def twoSpaces : Entry where
  kind := .regular
  rights := ⟨js "rw-r--r--", by decide, Ecma.solid_text _ (by decide)⟩
  links := 1
  owner := ⟨js "u", by decide, Ecma.solid_text _ (by decide)⟩
  group := ⟨js "g", by decide, Ecma.solid_text _ (by decide)⟩
  size := 12
  month := ⟨js "Dec", by decide, Ecma.solid_text _ (by decide)⟩
  day := ⟨js "22", by decide, Ecma.solid_text _ (by decide)⟩
  time := ⟨js "10:00", by decide, Ecma.solid_text _ (by decide)⟩
  gaps := fun _ => 0
  name := js "a  b"
  sized := by decide
  named := by decide
  slashless := by decide
  oneLine := ⟨by decide, fun _ link => by cases link⟩
  dots := fun dot => absurd dot (by decide)

theorem twoSpaces_misread :
    SCPPage.parseLsOutput (js "~") (LongListing.render 4 [twoSpaces]) ≠ [itemOf (js "~") twoSpaces] ∧
      LynxSCPPage.parseLs (LongListing.render 4 [twoSpaces]) (js "~") ≠ [lynxItemOf (js "~") twoSpaces] ∧
      SFTPPage.parseLs (LongListing.render 4 [twoSpaces]) ≠ [fileOf twoSpaces] ∧
      ArkTS.SFTPPage.parsedFiles (js "/") (LongListing.render 4 [twoSpaces]) ≠ [fileOf twoSpaces] := by
  decide

end LsOutput

end Kessh
