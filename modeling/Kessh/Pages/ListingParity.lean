import Kessh.Lynx.Listings

set_option autoImplicit false

-- The lists that the two SFTP pages show for one output.
namespace Kessh

open Ecma (JsString js trim split join words leads trails edge)
open LsOutput (Row readRow readRows)

namespace ArkTS.SFTPPage

def shownFiles (localeCompare : JsString → JsString → Int) (path output : JsString) : List SFTPFile :=
  (parsedFiles path output).mergeSort fun a b => decide (compareFiles localeCompare a b ≤ 0)

/-- What the page has once its output has come. -/
theorem listFiles_files (localeCompare : JsString → JsString → Int) (path output quoted : JsString) (w : World)
    (session : 0 < w.page.sessionId) (quotes : SSHEngine.shellQuoteArg path = .ok quoted) :
    (listFiles localeCompare path output w).page.files = shownFiles localeCompare path output := by
  unfold listFiles
  rw [if_neg (Int.not_le.mpr session)]
  dsimp only
  rw [quotes]
  rfl

end ArkTS.SFTPPage

namespace ListingParity

structure TotalPreorder (compare : JsString → JsString → Int) : Prop where
  total : ∀ a b, compare a b ≤ 0 ∨ compare b a ≤ 0
  trans : ∀ a b c, compare a b ≤ 0 → compare b c ≤ 0 → compare a c ≤ 0

def Dots (name : JsString) : Prop := name = js "." ∨ name = js ".."

-- A line that has white space at an end and that neither parser makes an entry of.
def Short (line : JsString) : Prop :=
  let count := (words line).length
  match leads line, trails line with
  | true, true => count ≤ 6
  | true, false => count ≤ 7 ∨ count = 8 ∧ ∃ last ∈ (words line).getLast?, Dots last
  | false, true => (js "total").isPrefixOf line = true ∨ count ≤ 7
  | false, false => True

def rowOf (parts : List JsString) : Option Row :=
  if parts.length < 9 then none
  else
    let name := join (js " ") (parts.drop 8)
    if name = js "." ∨ name = js ".." then none
    else some { permissions := parts.getD 0 [], size := parts.getD 4 [], name }

theorem readRow_blank (line : JsString) (blank : trim line = []) : readRow line = none := by
  rw [readRow, blank]
  rfl

theorem readRow_total (line : JsString) (total : (js "total").isPrefixOf line = true) : readRow line = none := by
  rw [readRow, total, Bool.or_true, if_pos rfl]

theorem readRow_rowOf (line : JsString) (some : trim line ≠ []) (other : (js "total").isPrefixOf line = false) :
    readRow line = rowOf (split line) := by
  rw [readRow, other, Bool.or_false, if_neg (by simpa using some)]
  rfl

theorem rowOf_none (parts : List JsString) : rowOf parts = none ↔ parts.length < 9 ∨ Dots (join (js " ") (parts.drop 8)) := by
  unfold rowOf
  by_cases few : parts.length < 9
  · rw [if_pos few]
    exact iff_of_true rfl (.inl few)
  · rw [if_neg few]
    dsimp only
    by_cases dots : join (js " ") (parts.drop 8) = js "." ∨ join (js " ") (parts.drop 8) = js ".."
    · rw [if_pos dots]
      exact iff_of_true rfl (.inr dots)
    · rw [if_neg dots]
      refine iff_of_false (Option.some_ne_none _) fun none => ?_
      exact none.elim few dots

theorem rowOf_some (parts : List JsString) (row : Row) (read : rowOf parts = some row) :
    9 ≤ parts.length ∧ row.permissions = parts.getD 0 [] ∧ row.name = join (js " ") (parts.drop 8) := by
  unfold rowOf at read
  split at read
  · cases read
  · rename_i enough
    dsimp only at read
    split at read
    · cases read
    · obtain rfl := Option.some.inj read
      exact ⟨Nat.le_of_not_lt enough, rfl, rfl⟩

theorem dots_solid (name : JsString) (dots : Dots name) : 0x20 ∉ name ∧ name ≠ [] := by
  rcases dots with rfl | rfl <;> exact ⟨by decide, by decide⟩

theorem join_dots (parts : List JsString) (dots : Dots (join (js " ") parts)) : ∃ name, parts = [name] ∧ Dots name := by
  cases parts with
  | nil => exact absurd rfl (dots_solid _ dots).2
  | cons piece rest =>
      by_cases last : rest = []
      · subst last
        exact ⟨piece, rfl, by simpa [join] using dots⟩
      · have gap : js " " = [0x20] := by decide
        refine absurd ?_ (dots_solid _ dots).1
        rw [Ecma.join_cons _ _ _ last, gap]
        simp

theorem dots_last (n : Nat) (parts : List JsString) :
    Dots (join (js " ") (parts.drop n)) ↔ parts.length = n + 1 ∧ ∃ last ∈ parts.getLast?, Dots last := by
  constructor
  · intro dots
    obtain ⟨name, single, dotted⟩ := join_dots _ dots
    obtain ⟨length, ends⟩ := (Ecma.drop_singleton n parts name).mp single
    exact ⟨length, name, ends, dotted⟩
  · intro ⟨length, last, ends, dotted⟩
    rw [(Ecma.drop_singleton n parts last).mpr ⟨length, ends⟩]
    simpa [join] using dotted

theorem join_ended_dots (parts : List JsString) : ¬ Dots (join (js " ") (parts ++ [[]])) := by
  intro dots
  obtain ⟨name, single, dotted⟩ := join_dots _ dots
  have none : parts = [] ∧ [[]] = [name] := by
    cases parts with
    | nil => exact ⟨rfl, single⟩
    | cons piece rest => simp at single
  rw [List.singleton_inj.mp none.2.symm] at dotted
  exact (dots_solid _ dotted).2 rfl

theorem total_trimmed (line : JsString) (total : (js "total").isPrefixOf line = true) :
    (js "total").isPrefixOf (trim line) = true := by
  rw [List.isPrefixOf_iff_prefix] at total ⊢
  obtain ⟨rest, rfl⟩ := total
  have word : js "total" = [0x74, 0x6F, 0x74, 0x61, 0x6C] := by decide
  have starts : (js "total" ++ rest).dropWhile Ecma.isSpace = js "total" ++ rest := by
    rw [word, List.cons_append, List.dropWhile_cons_of_neg (by decide)]
  rw [trim, starts]
  exact Ecma.solid_kept _ rest (Ecma.solid_text _ (by decide))

theorem readRow_words (line : JsString) (some : trim line ≠ []) (other : (js "total").isPrefixOf (trim line) = false) :
    readRow (trim line) = rowOf (words line) := by
  rw [readRow_rowOf _ (by rwa [Ecma.trim_idem]) other, Ecma.split_trimmed line some]

theorem trimmed_row (line : JsString) :
    readRow (trim line) = none ↔ (js "total").isPrefixOf (trim line) = true ∨ rowOf (words line) = none := by
  by_cases blank : trim line = []
  · have none : words line = [] := by rw [← Ecma.words_trim, blank]; rfl
    rw [readRow_blank _ (by rw [Ecma.trim_idem, blank]), none]
    exact iff_of_true rfl (.inr rfl)
  · by_cases total : (js "total").isPrefixOf (trim line) = true
    · exact iff_of_true (readRow_total _ total) (.inl total)
    · rw [readRow_words line blank (Bool.not_eq_true _ |>.mp total)]
      simp [total]

theorem leading_total (line : JsString) (leading : leads line = true) : (js "total").isPrefixOf line = false := by
  cases line with
  | nil => cases leading
  | cons unit rest =>
      have word : js "total" = [0x74, 0x6F, 0x74, 0x61, 0x6C] := by decide
      have different : unit ≠ 0x74 := by
        rintro rfl
        exact absurd leading (show Ecma.isSpace 0x74 ≠ true by decide)
      rw [word, List.isPrefixOf_cons_cons]
      simp [different.symm]

theorem ended_none (parts : List JsString) : rowOf (parts ++ [[]]) = none ↔ parts.length < 8 := by
  rw [rowOf_none, List.length_append, List.length_singleton]
  constructor
  · rintro (few | dots)
    · omega
    · by_contra many
      rw [List.drop_append_of_le_length (by omega)] at dots
      exact join_ended_dots _ dots
  · exact fun few => .inl (by omega)

theorem led_none (line : List JsString) :
    rowOf ([] :: line) = none ↔ line.length ≤ 7 ∨ line.length = 8 ∧ ∃ last ∈ line.getLast?, Dots last := by
  rw [rowOf_none, List.length_cons, List.drop_succ_cons, dots_last]
  exact or_congr_left (by omega)

theorem few_none (parts : List JsString) (few : parts.length < 9) : rowOf parts = none := (rowOf_none parts).mpr (.inl few)

/-- Neither parser makes an entry of a line with white space at an end exactly when the line is short. -/
theorem edged_short (line : JsString) (edged : leads line = true ∨ trails line = true) :
    (readRow line = none ∧ readRow (trim line) = none) ↔ Short line := by
  by_cases blank : trim line = []
  · have none : words line = [] := by rw [← Ecma.words_trim, blank]; rfl
    refine iff_of_true ⟨readRow_blank line blank, readRow_blank _ (by rw [Ecma.trim_idem, blank])⟩ ?_
    unfold Short
    rw [none]
    cases leads line <;> cases trails line <;> simp
  have parts := Ecma.split_edges line blank
  unfold Short
  rw [trimmed_row]
  cases leading : leads line with
  | true =>
      rw [readRow_rowOf line blank (leading_total line leading), parts, leading]
      cases trailing : trails line with
      | true =>
          have pieces : edge true ++ words line ++ edge true = ([] :: words line) ++ [[]] := rfl
          dsimp only
          rw [pieces, ended_none, List.length_cons]
          constructor
          · exact fun ⟨few, _⟩ => by omega
          · exact fun few => ⟨by omega, .inr (few_none _ (by omega))⟩
      | false =>
          have pieces : edge true ++ words line ++ edge false = [] :: words line := List.append_nil _
          dsimp only
          rw [pieces, led_none]
          refine and_iff_left_of_imp fun short => .inr (few_none _ ?_)
          rcases short with few | ⟨eight, _⟩ <;> omega
  | false =>
      have trailing : trails line = true := edged.resolve_left (by simp [leading])
      rw [trailing]
      dsimp only
      by_cases total : (js "total").isPrefixOf line = true
      · exact iff_of_true ⟨readRow_total line total, .inl (total_trimmed line total)⟩ (.inl total)
      · have pieces : edge false ++ words line ++ edge true = words line ++ [[]] := rfl
        rw [readRow_rowOf line blank (Bool.not_eq_true _ |>.mp total), parts, leading, trailing, pieces, ended_none]
        constructor
        · exact fun ⟨few, _⟩ => .inr (by omega)
        · intro short
          have few := short.resolve_left total
          exact ⟨by omega, .inr (few_none _ (by omega))⟩

-- What only the parser that does not trim can make: no permissions, or a name that is empty or ends with a space.
def Odd (row : Row) : Prop := row.permissions = [] ∨ row.name = [] ∨ row.name.getLast? = some 0x20

theorem edged_odd (line : JsString) (edged : leads line = true ∨ trails line = true) (row : Row)
    (read : readRow line = some row) : Odd row := by
  have full : trim line ≠ [] := fun blank => by simp [readRow_blank line blank] at read
  have other : (js "total").isPrefixOf line = false := by
    by_contra total
    rw [readRow_total line (by simpa using total)] at read
    cases read
  rw [readRow_rowOf line full other, Ecma.split_edges line full] at read
  obtain ⟨enough, permissions, name⟩ := rowOf_some _ row read
  rcases edged with leading | trailing
  · rw [leading] at permissions
    exact .inl permissions
  · rw [trailing] at name enough
    have ended : edge true = [[]] := rfl
    rw [ended, List.length_append, List.length_singleton] at enough
    rw [ended, List.drop_append_of_le_length (by omega)] at name
    right
    by_cases none : (edge (leads line) ++ words line).drop 8 = []
    · left
      rw [name, none]
      rfl
    · right
      rw [name, Ecma.join_ended _ none]
      exact List.getLast?_concat

theorem trimmed_ordinary (line : JsString) (row : Row) (read : readRow (trim line) = some row) : ¬ Odd row := by
  have full : trim line ≠ [] := fun blank => by simp [readRow_blank _ (by rw [Ecma.trim_idem, blank])] at read
  have other : (js "total").isPrefixOf (trim line) = false := by
    by_contra total
    rw [readRow_total _ (by simpa using total)] at read
    cases read
  rw [readRow_words line full other] at read
  obtain ⟨enough, permissions, name⟩ := rowOf_some _ row read
  obtain ⟨first, rest, begins⟩ := List.exists_cons_of_length_pos (l := words line) (by omega)
  have named : (words line).drop 8 ≠ [] := fun none => by
    have length := congrArg List.length none
    rw [List.length_drop, List.length_nil] at length
    omega
  obtain ⟨last, ends, solid⟩ := Ecma.join_last ((words line).drop 8) named fun part member =>
    Ecma.words_members line part (List.mem_of_mem_drop member)
  rw [← name] at ends
  rintro (none | none | space)
  · rw [begins] at permissions
    refine (Ecma.words_members line first (begins ▸ List.mem_cons_self)).1 ?_
    exact permissions.symm.trans none
  · rw [none] at ends
    cases ends
  · obtain rfl := Option.some.inj (ends.symm.trans space)
    exact absurd solid (by decide)

theorem clean_short (line : JsString) (start : leads line = false) (finish : trails line = false) : Short line := by
  unfold Short
  rw [start, finish]
  trivial

theorem same_short (line : JsString) : readRow line = readRow (trim line) ↔ Short line := by
  by_cases edged : leads line = true ∨ trails line = true
  · rw [← edged_short line edged]
    refine ⟨fun same => ?_, fun ⟨left, right⟩ => left.trans right.symm⟩
    cases read : readRow line with
    | none => exact ⟨rfl, same.symm.trans read⟩
    | some row => exact absurd (edged_odd line edged row read) (trimmed_ordinary line row (same.symm.trans read))
  · simp only [not_or, Bool.not_eq_true] at edged
    exact iff_of_true (by rw [Ecma.trim_clean line edged.1 edged.2]) (clean_short line edged.1 edged.2)

theorem filterMap_long {α β : Type} (read other : α → Option β) (lines : List α)
    (each : ∀ line ∈ lines, read line = other line ∨ read line = none)
    (long : (lines.filterMap other).length ≤ (lines.filterMap read).length) : ∀ line ∈ lines, read line = other line := by
  have shorter : ∀ lines : List α, (∀ line ∈ lines, read line = other line ∨ read line = none) →
      (lines.filterMap read).length ≤ (lines.filterMap other).length := by
    intro lines each
    induction lines with
    | nil => exact Nat.le_refl _
    | cons line rest ih =>
        have later := ih fun next member => each next (List.mem_cons_of_mem _ member)
        simp only [List.filterMap_cons]
        rcases each line List.mem_cons_self with same | none
        · rw [same]
          cases other line <;> simpa using later
        · rw [none]
          cases other line with
          | none => exact later
          | some row => exact Nat.le_succ_of_le later
  induction lines with
  | nil => intro line none; cases none
  | cons line rest ih =>
      have later : ∀ next ∈ rest, read next = other next ∨ read next = none := fun next member =>
        each next (List.mem_cons_of_mem _ member)
      have bound := shorter rest later
      simp only [List.filterMap_cons] at long
      rcases each line List.mem_cons_self with same | none
      · rw [same] at long
        refine List.forall_mem_cons.mpr ⟨same, ih later ?_⟩
        cases found : other line <;> rw [found] at long <;> simpa using long
      · rw [none] at long
        cases found : other line with
        | none =>
            rw [found] at long
            exact List.forall_mem_cons.mpr ⟨none.trans found.symm, ih later long⟩
        | some row =>
            rw [found] at long
            simp only [List.length_cons] at long
            omega

theorem same_files (output : JsString)
    (same : (readRows false SFTPFile.listed output).Perm (readRows true SFTPFile.listed output)) :
    ∀ line ∈ output.splitOn 0x0A, readRow line = readRow (trim line) := by
  let read : JsString → Option SFTPFile := fun line => (readRow line).map SFTPFile.listed
  have left : readRows false SFTPFile.listed output = (output.splitOn 0x0A).filterMap read := rfl
  have right : readRows true SFTPFile.listed output = (output.splitOn 0x0A).filterMap (read ∘ trim) := rfl
  have odd : ∀ line ∈ output.splitOn 0x0A, leads line = true ∨ trails line = true → readRow line = none := by
    intro line member edged
    by_contra some
    obtain ⟨row, found⟩ := Option.ne_none_iff_exists'.mp some
    have file : SFTPFile.listed row ∈ readRows false SFTPFile.listed output := by
      rw [left]
      exact List.mem_filterMap.mpr ⟨line, member, by simp [read, found]⟩
    rw [same.mem_iff, right] at file
    obtain ⟨other, _, made⟩ := List.mem_filterMap.mp file
    obtain ⟨trimmed, there, alike⟩ := Option.map_eq_some_iff.mp made
    simp only [SFTPFile.listed, SFTPFile.mk.injEq] at alike
    refine trimmed_ordinary other trimmed there ?_
    rw [Odd, alike.1, alike.2.2.2]
    exact edged_odd line edged row found
  have each : ∀ line ∈ output.splitOn 0x0A, readRow line = readRow (trim line) ∨ readRow line = none := by
    intro line member
    by_cases edged : leads line = true ∨ trails line = true
    · exact .inr (odd line member edged)
    · simp only [not_or, Bool.not_eq_true] at edged
      exact .inl (by rw [Ecma.trim_clean line edged.1 edged.2])
  refine filterMap_long readRow (readRow ∘ trim) _ each ?_
  have length := same.length_eq
  rw [left, right] at length
  have mapped : ∀ reader : JsString → Option Row, ((output.splitOn 0x0A).filterMap fun line => (reader line).map SFTPFile.listed).length =
      ((output.splitOn 0x0A).filterMap reader).length := fun reader => by
    rw [← List.map_filterMap, List.length_map]
  have first := mapped readRow
  have second := mapped (readRow ∘ trim)
  exact Nat.le_of_eq (second.symm.trans (length.symm.trans first))

theorem listed_named (trims : Bool) (output : JsString) : ∀ file ∈ readRows trims SFTPFile.listed output, file.name ≠ js ".." := by
  intro file member
  obtain ⟨raw, _, made⟩ := List.mem_filterMap.mp member
  obtain ⟨row, there, rfl⟩ := Option.map_eq_some_iff.mp made
  unfold readRow at there
  split at there
  · cases there
  · dsimp only at there
    split at there
    · cases there
    · split at there
      · cases there
      · rename_i other
        obtain rfl := Option.some.inj there
        exact fun parent => other (.inr parent)

section

variable (localeCompare : JsString → JsString → Int)

def before (a b : SFTPFile) : Bool := decide (ArkTS.SFTPPage.compareFiles localeCompare a b ≤ 0)

theorem before_iff (a b : SFTPFile) :
    before localeCompare a b = true ↔ ArkTS.SFTPPage.compareFiles localeCompare a b ≤ 0 := decide_eq_true_iff

theorem before_total (host : TotalPreorder localeCompare) (a b : SFTPFile) :
    (before localeCompare a b || before localeCompare b a) = true := by
  have names := host.total a.name b.name
  rw [Bool.or_eq_true, before_iff, before_iff]
  unfold ArkTS.SFTPPage.compareFiles
  by_cases first : a.name = js ".."
  · exact .inl (by rw [if_pos first]; decide)
  by_cases second : b.name = js ".."
  · exact .inr (by rw [if_pos second]; decide)
  rw [if_neg first, if_neg second, if_neg second, if_neg first]
  cases a.isDir <;> cases b.isDir <;> simp [names]

theorem before_trans (host : TotalPreorder localeCompare) (a b c : SFTPFile) (left : before localeCompare a b = true)
    (right : before localeCompare b c = true) : before localeCompare a c = true := by
  have names := host.trans a.name b.name c.name
  rw [before_iff] at left right ⊢
  unfold ArkTS.SFTPPage.compareFiles at left right ⊢
  by_cases first : a.name = js ".."
  · rw [if_pos first]
    decide
  rw [if_neg first] at left ⊢
  by_cases second : b.name = js ".."
  · rw [if_pos second] at left
    exact absurd left (by decide)
  rw [if_neg second] at left right
  by_cases third : c.name = js ".."
  · rw [if_pos third] at right
    exact absurd right (by decide)
  rw [if_neg third] at right ⊢
  revert left right
  cases a.isDir <;> cases b.isDir <;> cases c.isDir <;> simp
  · exact names
  · exact names

theorem shownFiles_parents (host : TotalPreorder localeCompare) (path output : JsString) :
    ArkTS.SFTPPage.shownFiles localeCompare path output = ArkTS.SFTPPage.parents path ++
      (readRows false SFTPFile.listed output).mergeSort fun a b => decide (SFTPPage.compareFiles localeCompare a b ≤ 0) := by
  have rows : (readRows false SFTPFile.listed output).mergeSort (before localeCompare) =
      (readRows false SFTPFile.listed output).mergeSort fun a b => decide (SFTPPage.compareFiles localeCompare a b ≤ 0) := by
    have alike := List.map_mergeSort (r := before localeCompare)
      (s := fun a b => decide (SFTPPage.compareFiles localeCompare a b ≤ 0)) (f := id) (l := readRows false SFTPFile.listed output)
      fun a here b there => by
        rw [Bool.eq_iff_iff, before_iff, decide_eq_true_iff, ArkTS.SFTPPage.compareFiles,
          if_neg (listed_named false output a here), if_neg (listed_named false output b there)]
        rfl
    rwa [List.map_id, List.map_id] at alike
  rw [← rows]
  unfold ArkTS.SFTPPage.shownFiles ArkTS.SFTPPage.parsedFiles ArkTS.SFTPPage.parents
  split
  · obtain ⟨early, late, whole, rest, after⟩ := List.mergeSort_cons (before_trans localeCompare host)
      (before_total localeCompare host) ArkTS.SFTPPage.parentFile (readRows false SFTPFile.listed output)
    have none : early = [] := List.eq_nil_iff_forall_not_mem.mpr fun file member => by
      have first : before localeCompare ArkTS.SFTPPage.parentFile file = true := by
        rw [before_iff, ArkTS.SFTPPage.compareFiles, if_pos (show ArkTS.SFTPPage.parentFile.name = js ".." from rfl)]
        decide
      exact absurd first (by simpa using after file member)
    subst none
    exact whole.trans (congrArg (ArkTS.SFTPPage.parentFile :: ·) rest.symm)
  · rfl

/-- The two pages show the same list for an output, whatever the path, exactly when every line with white
space at an end is too short to be an entry. -/
theorem sftp_lists_alike (host : TotalPreorder localeCompare) (path output : JsString) :
    ArkTS.SFTPPage.shownFiles localeCompare path output = SFTPPage.withParent localeCompare path output ↔
      ∀ line ∈ output.splitOn 0x0A, Short line := by
  have lynx : SFTPPage.withParent localeCompare path output = ArkTS.SFTPPage.parents path ++
      (readRows true SFTPFile.listed output).mergeSort fun a b => decide (SFTPPage.compareFiles localeCompare a b ≤ 0) := by
    unfold SFTPPage.withParent ArkTS.SFTPPage.parents
    split <;> rfl
  rw [shownFiles_parents localeCompare host, lynx, List.append_cancel_left_eq]
  refine Iff.trans ?_ (forall₂_congr fun line _ => same_short line)
  constructor
  · intro same
    have left := List.mergeSort_perm (readRows false SFTPFile.listed output) fun a b =>
      decide (SFTPPage.compareFiles localeCompare a b ≤ 0)
    have right := List.mergeSort_perm (readRows true SFTPFile.listed output) fun a b =>
      decide (SFTPPage.compareFiles localeCompare a b ≤ 0)
    rw [same] at left
    exact same_files output (left.symm.trans right)
  · intro same
    have rows : readRows false SFTPFile.listed output = readRows true SFTPFile.listed output :=
      List.filterMap_congr fun line member => congrArg (Option.map SFTPFile.listed) (same line member)
    rw [rows]

end

def codeUnits (a b : JsString) : Int := if a ≤ b then if b ≤ a then 0 else -1 else 1

theorem codeUnits_preorder : TotalPreorder codeUnits := by
  have below : ∀ a b, codeUnits a b ≤ 0 ↔ a ≤ b := by
    intro a b
    unfold codeUnits
    by_cases first : a ≤ b
    · rw [if_pos first]
      split <;> simp [first]
    · simp [first]
  refine ⟨fun a b => ?_, fun a b c left right => ?_⟩
  · rw [below, below]
    exact List.le_total a b
  · rw [below] at left right ⊢
    exact List.le_trans left right

theorem sftp_lists_alike_letter :
    ArkTS.SFTPPage.shownFiles codeUnits (js "/d") (js "total 4\n-rw-r--r-- 1 u g 1 Dec 22 10:00 a") =
      SFTPPage.withParent codeUnits (js "/d") (js "total 4\n-rw-r--r-- 1 u g 1 Dec 22 10:00 a") := by
  have clean : ∀ line ∈ (js "total 4\n-rw-r--r-- 1 u g 1 Dec 22 10:00 a").splitOn 0x0A,
      leads line = false ∧ trails line = false := by decide
  exact (sftp_lists_alike codeUnits codeUnits_preorder _ _).mpr fun line member =>
    clean_short line (clean line member).1 (clean line member).2

theorem space_trimmed :
    ArkTS.SFTPPage.shownFiles codeUnits (js "/") (js "-rw-r--r-- 1 u g 1 Dec 22 10:00 a ") ≠
      SFTPPage.withParent codeUnits (js "/") (js "-rw-r--r-- 1 u g 1 Dec 22 10:00 a ") := by
  have left : ArkTS.SFTPPage.parsedFiles (js "/") (js "-rw-r--r-- 1 u g 1 Dec 22 10:00 a ") =
    [⟨js "a ", false, js "1", js "-rw-r--r--"⟩] := by decide
  have right : SFTPPage.parseLs (js "-rw-r--r-- 1 u g 1 Dec 22 10:00 a ") = [⟨js "a", false, js "1", js "-rw-r--r--"⟩] := by
    decide
  unfold ArkTS.SFTPPage.shownFiles SFTPPage.withParent
  rw [left, right, List.mergeSort_singleton, List.mergeSort_singleton]
  decide

end ListingParity

end Kessh
