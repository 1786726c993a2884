import Kessh.Lib.Columns

set_option autoImplicit false

-- Paths as text: their pieces between slashes, and the paths that lead down from the root.
namespace SlashPath

open Ecma (JsString js join)

theorem slash : js "/" = [0x2F] := by decide

theorem join_dropLast (parts : List JsString) (some : parts.dropLast ≠ []) :
    ∃ last, join (js "/") parts = join (js "/") parts.dropLast ++ 0x2F :: last := by
  have nonempty : parts ≠ [] := fun none => some (by rw [none]; rfl)
  have whole := List.dropLast_append_getLast nonempty
  refine ⟨join (js "/") [parts.getLast nonempty], ?_⟩
  rw [← List.singleton_append, ← List.append_assoc]
  exact (congrArg (join (js "/")) whole.symm).trans (Ecma.join_append (js "/") _ _ some (List.cons_ne_nil _ _))

theorem parts_up (path : JsString) (some : (path.splitOn 0x2F).dropLast ≠ []) :
    ∃ last, path = join (js "/") (path.splitOn 0x2F).dropLast ++ 0x2F :: last := by
  obtain ⟨last, whole⟩ := join_dropLast (path.splitOn 0x2F) some
  exact ⟨last, (List.intercalate_splitOn 0x2F : join (js "/") (path.splitOn 0x2F) = path).symm.trans whole⟩

-- The path from the root through some names, none of which is empty or has a slash.
def fromRoot (names : List JsString) : JsString := js "/" ++ join (js "/") names

def Tidy (names : List JsString) : Prop := ∀ name ∈ names, name ≠ [] ∧ 0x2F ∉ name

theorem fromRoot_join (names : List JsString) (some : names ≠ []) : fromRoot names = join (js "/") ([] :: names) := by
  rw [Ecma.join_cons _ _ _ some]
  rfl

theorem splitOn_join (names : List JsString) (some : names ≠ []) (slashless : ∀ name ∈ names, 0x2F ∉ name) :
    (join (js "/") names).splitOn 0x2F = names := by
  rw [slash]
  exact List.splitOn_intercalate 0x2F slashless some

theorem fromRoot_splitOn (names : List JsString) (tidy : Tidy names) (some : names ≠ []) :
    (fromRoot names).splitOn 0x2F = [] :: names := by
  rw [fromRoot_join names some]
  exact splitOn_join _ (List.cons_ne_nil _ _) (List.forall_mem_cons.mpr ⟨List.not_mem_nil, fun name member => (tidy name member).2⟩)

theorem fromRoot_segments (names : List JsString) (tidy : Tidy names) :
    ((fromRoot names).splitOn 0x2F).filter (fun segment => !segment.isEmpty) = names := by
  have kept : names.filter (fun segment => !segment.isEmpty) = names :=
    List.filter_eq_self.mpr fun name member => by simpa using (tidy name member).1
  by_cases none : names = []
  · rw [none]
    decide
  · rw [fromRoot_splitOn names tidy none]
    simpa using kept

theorem fromRoot_enter (names : List JsString) (name : JsString) :
    fromRoot (names ++ [name]) = if names = [] then js "/" ++ name else fromRoot names ++ js "/" ++ name := by
  by_cases none : names = []
  · rw [if_pos none, none]
    simp [fromRoot, join]
  · rw [if_neg none, fromRoot, Ecma.join_append _ _ _ none (List.cons_ne_nil _ _), fromRoot]
    simp [join]

theorem fromRoot_root (names : List JsString) (tidy : Tidy names) : fromRoot names = js "/" ↔ names = [] := by
  constructor
  · intro root
    have segments := fromRoot_segments names tidy
    rw [root] at segments
    rw [← segments]
    decide
  · rintro rfl
    decide

theorem fromRoot_last (names : List JsString) (tidy : Tidy names) (nonempty : names ≠ []) :
    (fromRoot names).getLast? ≠ some 0x2F := by
  obtain ⟨before, last, rfl⟩ := (List.eq_nil_or_concat names).resolve_left nonempty
  rw [List.concat_eq_append] at tidy ⊢
  obtain ⟨full, slashless⟩ := tidy last (List.mem_append_right _ List.mem_cons_self)
  have ends : (fromRoot (before ++ [last])).getLast? = last.getLast? := by
    rw [fromRoot_enter]
    split <;> exact List.getLast?_append_of_ne_nil _ full
  rw [ends, List.getLast?_eq_some_getLast full]
  intro same
  exact slashless (Option.some.inj same ▸ List.getLast_mem full)

theorem fromRoot_longer (names : List JsString) (tidy : Tidy names) (some : names ≠ []) :
    fromRoot names ≠ js "/" ∧ (fromRoot names).length > 1 := by
  refine ⟨fun root => some ((fromRoot_root names tidy).mp root), ?_⟩
  have full : join (js "/") names ≠ [] := fun none => some ((fromRoot_root names tidy).mp (by rw [fromRoot, none]; rfl))
  have length : (js "/").length = 1 := by decide
  rw [fromRoot, List.length_append, length]
  have positive := List.length_pos_iff.mpr full
  omega

theorem tidy_enter (names : List JsString) (name : JsString) (tidy : Tidy names) (some : name ≠ []) (slashless : 0x2F ∉ name) :
    Tidy (names ++ [name]) := by
  intro other member
  rcases List.mem_append.mp member with before | same
  · exact tidy other before
  · exact List.mem_singleton.mp same ▸ ⟨some, slashless⟩

theorem tidy_up (names : List JsString) (tidy : Tidy names) : Tidy names.dropLast :=
  fun name member => tidy name ((List.dropLast_sublist names).subset member)

theorem segments_up (names : List JsString) :
    (if names.length > 0 then js "/" ++ join (js "/") names else js "/") = fromRoot names := by
  cases names with
  | nil => decide
  | cons name rest => rw [if_pos (by simp), fromRoot]

theorem segments_tidy (path : JsString) : Tidy ((path.splitOn 0x2F).filter fun segment => !segment.isEmpty).dropLast := by
  refine tidy_up _ fun name member => ?_
  obtain ⟨piece, full⟩ := List.mem_filter.mp member
  exact ⟨by simpa using full, Ecma.splitOn_bare 0x2F path name piece⟩

end SlashPath
