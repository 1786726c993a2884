import Kessh.Lynx.TerminalPage
import Kessh.Pages.Terminal

set_option autoImplicit false

namespace Kessh.TerminalPage

open Ecma

structure InputRow where
  command : JsString := []
  sessionId : Int := -1
  lines : List JsString := []
  pending : List JsString := []

def onInput (value : JsString) (row : InputRow) : InputRow := { row with command := value }

-- run up to its await, with what it writes to the session.
def run (row : InputRow) : InputRow × List JsString :=
  if row.command.isEmpty then (row, [])
  else if row.sessionId ≤ 0 then (row, [])
  else
    let data := row.command ++ js "\n"
    ({ row with lines := row.lines ++ [js "$ " ++ row.command], pending := data :: row.pending }, [data])

-- run after its await: a write that fails counts as one that is done.
def written (data : JsString) (row : InputRow) : Option InputRow :=
  if data ∈ row.pending then some { row with command := [], pending := row.pending.erase data } else none

end Kessh.TerminalPage

-- The terminal page in its two versions, when commands are typed.
namespace Kessh.TerminalInput

open Ecma Labelled
open TerminalPage (InputRow)

def runWrites (w : Terminal.World) : List JsString :=
  if w.page.cmd.isEmpty then [] else if w.page.sessionId ≤ 0 then [] else [w.page.cmd ++ js "\n"]

-- A write is completed for the Lynx page only: the other one does not wait.
inductive Event where
  | change (text : JsString)
  | submit
  | written (data : JsString)

-- Both pages, what each has written, and what the user has typed since the last submit.
structure Pages where
  arkts : Terminal.World
  lynx : InputRow
  arktsWrites : List JsString := []
  lynxWrites : List JsString := []
  typed : JsString

variable (lessEq less : JsNumber → JsNumber → Bool)

def step (pages : Pages) : Event → Option Pages
  | .change text =>
      (Terminal.step lessEq less pages.arkts (.input text)).map fun arkts =>
        { pages with arkts, lynx := TerminalPage.onInput text pages.lynx, typed := text }
  | .submit =>
      (Terminal.step lessEq less pages.arkts .run).map fun arkts =>
        { arkts
          lynx := (TerminalPage.run pages.lynx).1
          arktsWrites := pages.arktsWrites ++ runWrites pages.arkts
          lynxWrites := pages.lynxWrites ++ (TerminalPage.run pages.lynx).2
          typed := [] }
  | .written data => (TerminalPage.written data pages.lynx).map fun lynx => { pages with lynx }

def ready (w : Terminal.World) (sessionId : Int) : Pages where
  arkts := w
  lynx := { command := w.page.cmd, sessionId }
  typed := w.page.cmd

-- The writes are the same, and when all are completed the fields are.
structure Kept (pages : Pages) : Prop where
  writes : pages.lynxWrites = pages.arktsWrites
  field : pages.lynx.pending = [] → pages.lynx.command = pages.arkts.page.cmd

-- A submit finds what has been typed since the last one in the Lynx field, and the last write to be
-- completed finds nothing typed.
def Fits (pages : Pages) : Event → Prop
  | .change _ => True
  | .submit => pages.lynx.command = pages.typed
  | .written data => pages.lynx.pending = [data] → pages.typed = []

structure Sound (pages : Pages) : Prop where
  typed : pages.arkts.page.cmd = pages.typed
  arkts : 0 < pages.arkts.page.sessionId
  lynx : 0 < pages.lynx.sessionId

theorem run_ready (row : InputRow) (session : 0 < row.sessionId) : TerminalPage.run row =
    if row.command = [] then (row, []) else
      ({ row with
        lines := row.lines ++ [js "$ " ++ row.command], pending := (row.command ++ js "\n") :: row.pending },
        [row.command ++ js "\n"]) := by
  unfold TerminalPage.run
  rw [if_neg (Int.not_le.mpr session)]
  simp only [List.isEmpty_iff]

theorem runWrites_ready (w : Terminal.World) (session : 0 < w.page.sessionId) :
    runWrites w = if w.page.cmd = [] then [] else [w.page.cmd ++ js "\n"] := by
  unfold runWrites
  rw [if_neg (Int.not_le.mpr session)]
  simp only [List.isEmpty_iff]

theorem arkts_run (w : Terminal.World) (session : 0 < w.page.sessionId) :
    (Terminal.run w).page.cmd = [] ∧ (Terminal.run w).page.sessionId = w.page.sessionId := by
  unfold Terminal.run
  split
  · rename_i empty
    exact ⟨List.isEmpty_iff.mp empty, rfl⟩
  · rw [if_neg (Int.not_le.mpr session)]
    exact ⟨rfl, rfl⟩

theorem lynx_run (row : InputRow) : (TerminalPage.run row).1.sessionId = row.sessionId ∧
    (TerminalPage.run row).1.command = row.command := by
  unfold TerminalPage.run
  split
  · exact ⟨rfl, rfl⟩
  · split <;> exact ⟨rfl, rfl⟩

theorem step_sound (before : Pages) (event : Event) (after : Pages) (sound : Sound before)
    (move : step lessEq less before event = some after) : Sound after := by
  cases event with
  | change text =>
      obtain rfl := Option.some.inj move
      exact ⟨rfl, sound.arkts, sound.lynx⟩
  | submit =>
      obtain rfl := Option.some.inj move
      obtain ⟨cleared, same⟩ := arkts_run before.arkts sound.arkts
      exact ⟨cleared, same ▸ sound.arkts, (lynx_run before.lynx).1 ▸ sound.lynx⟩
  | written data =>
      obtain ⟨row, completed, rfl⟩ := Option.map_eq_some_iff.mp move
      obtain ⟨_, same⟩ := Option.ite_none_right_eq_some.mp completed
      obtain rfl := Option.some.inj same
      exact ⟨sound.typed, sound.arkts, sound.lynx⟩

def sent (text : JsString) : List JsString := if text = [] then [] else [text ++ js "\n"]

theorem sent_injective (left right : JsString) : sent left = sent right ↔ left = right := by
  unfold sent
  constructor
  · intro same
    split at same <;> split at same
    · rename_i first second
      rw [first, second]
    · cases same
    · cases same
    · exact List.append_cancel_right (List.singleton_inj.mp same)
  · rintro rfl
    rfl

theorem erase_last (data : JsString) (pending : List JsString) (there : data ∈ pending) :
    pending.erase data = [] ↔ pending = [data] := by
  constructor
  · intro none
    have one := List.length_erase_of_mem there
    have some' := List.length_pos_of_mem there
    rw [none, List.length_nil] at one
    obtain ⟨last, rfl⟩ := List.length_eq_one_iff.mp (show pending.length = 1 by omega)
    rw [List.mem_singleton.mp there]
  · rintro rfl
    simp

/-- After a step from pages that agree the pages agree exactly when the step fits. -/
theorem step_kept (before : Pages) (event : Event) (after : Pages) (sound : Sound before) (kept : Kept before)
    (move : step lessEq less before event = some after) : Kept after ↔ Fits before event := by
  cases event with
  | change text =>
      obtain rfl := Option.some.inj move
      exact iff_of_true ⟨kept.writes, fun _ => rfl⟩ trivial
  | submit =>
      obtain rfl := Option.some.inj move
      have cleared := (arkts_run before.arkts sound.arkts).1
      have arkts : runWrites before.arkts = sent before.typed := by
        rw [runWrites_ready before.arkts sound.arkts, sound.typed, sent]
      have lynx := run_ready before.lynx sound.lynx
      have lynxSent : (TerminalPage.run before.lynx).2 = sent before.lynx.command := by
        rw [lynx, sent]
        split <;> rfl
      constructor
      · intro after
        have writes := after.writes
        dsimp only at writes
        rw [kept.writes, arkts, lynxSent] at writes
        exact (sent_injective _ _).mp (List.append_cancel_left writes)
      · intro same
        refine ⟨?_, fun none => ?_⟩
        · dsimp only
          rw [kept.writes, arkts, lynxSent, show before.lynx.command = before.typed from same]
        · dsimp only at none ⊢
          rw [lynx] at none ⊢
          split at none
          · rename_i empty
            rw [if_pos empty, cleared, empty]
          · cases none
  | written data =>
      obtain ⟨row, completed, rfl⟩ := Option.map_eq_some_iff.mp move
      obtain ⟨there, same⟩ := Option.ite_none_right_eq_some.mp completed
      obtain rfl := Option.some.inj same
      have last := erase_last data before.lynx.pending there
      constructor
      · intro after single
        exact sound.typed ▸ (after.field (last.mpr single)).symm
      · intro fits
        exact ⟨kept.writes, fun none => ((fits (last.mp none)).symm.trans sound.typed.symm)⟩

/-- The pages write the same and come to show the same, for a sequence of changes, submits and completions,
exactly when all its steps fit. -/
theorem commands_written_alike (w : Terminal.World) (session : 0 < w.page.sessionId) (sessionId : Int) (positive : 0 < sessionId)
    (events : List Event) :
    Always (step lessEq less) (ready w sessionId) events Kept ↔
      Steps (step lessEq less) (ready w sessionId) events fun before event _ => Fits before event :=
  always_iff (step lessEq less) _ events Sound Kept ⟨rfl, session, positive⟩ ⟨rfl, fun _ => rfl⟩ Fits
    (step_sound lessEq less) (step_kept lessEq less)

def connected : Pages := ready { page := { sessionId := 7 } } 8

def typing : Pages → Event → Option Pages := step (fun _ _ => false) fun _ _ => false

theorem commands_written_alike_twice : Always typing connected
    [.change (js "ls"), .submit, .written (js "ls\n"), .change (js "id"), .submit, .written (js "id\n")] Kept := by
  refine (commands_written_alike _ _ { page := { sessionId := 7 } } (by decide) 8 (by decide) _).mpr ?_
  iterate 6 rw [steps_cons _ _ _ _ _ _ rfl]
  exact ⟨trivial, rfl, fun _ => rfl, trivial, rfl, fun _ => rfl, steps_nil _ _ _⟩

-- A command that is confirmed twice before it is written is written twice by the Lynx page, and text
-- typed before it is written is lost there.
theorem command_repeated :
    ¬ Always typing connected [.change (js "ls"), .submit, .submit] Kept ∧
      ¬ Always typing connected [.change (js "ls"), .submit, .change (js "id"), .written (js "ls\n")] Kept := by
  constructor <;> intro kept
  · have twice := (kept _ [] _ (List.append_nil _).symm (moves_run typing _ _ _ rfl)).writes
    exact absurd twice (by decide)
  · have lost := (kept _ [] _ (List.append_nil _).symm (moves_run typing _ _ _ rfl)).field
    exact absurd lost (by decide)

end Kessh.TerminalInput
