import Mathlib.Data.List.Basic

set_option autoImplicit false

-- A value that requests in a queue set, for whoever shows it before they are through.
namespace Pending

variable {α β : Type*} (asked : α → Option β)

def settled (requests : List α) (value : β) : β := requests.foldl (fun value request => (asked request).getD value) value

theorem settled_append (requests : List α) (request : α) (value : β) :
    settled asked (requests ++ [request]) value = (asked request).getD (settled asked requests value) := by
  rw [settled, List.foldl_append]
  rfl

theorem settled_quiet (requests : List α) (value : β) (quiet : ∀ request ∈ requests, asked request = none) :
    settled asked requests value = value := by
  induction requests generalizing value with
  | nil => rfl
  | cons request rest ih =>
      rw [settled, List.foldl_cons, quiet request List.mem_cons_self, Option.getD_none]
      exact ih value fun other member => quiet other (List.mem_cons_of_mem _ member)

-- No request after the mark sets the value: who reads it at the mark reads what is settled.
def QuietAfter (mark : α) : List α → Prop
  | [] => True
  | request :: rest => (request = mark → ∀ other ∈ rest, asked other = none) ∧ QuietAfter mark rest

theorem quiet_absent (mark : α) (requests : List α) (absent : mark ∉ requests) : QuietAfter asked mark requests := by
  induction requests with
  | nil => trivial
  | cons request rest ih =>
      refine ⟨fun same => absurd (same ▸ List.mem_cons_self) absent, ih fun member => absent (List.mem_cons_of_mem _ member)⟩

theorem quiet_append (mark : α) (requests : List α) (request : α) (quiet : QuietAfter asked mark requests)
    (plain : asked request = none) : QuietAfter asked mark (requests ++ [request]) := by
  induction requests with
  | nil => exact ⟨fun _ _ none => (nomatch none), trivial⟩
  | cons first rest ih =>
      refine ⟨fun same other member => ?_, ih quiet.2⟩
      rcases List.mem_append.mp member with before | last
      · exact quiet.1 same other before
      · exact List.mem_singleton.mp last ▸ plain

end Pending
