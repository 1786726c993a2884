import Kessh.Lib.Labelled
import Kessh.WebSocket.Output

set_option autoImplicit false

-- The Lynx test page and the proxy that it talks to. Every socket of the page has a connection of its own
-- in the proxy; both directions keep their messages in order.
namespace Kessh.WebSocketSSHTestPage

open Ecma (JsString js utf8 trim)
open Utf8 (Bytes)
open Labelled
open WebSocketSSHClient (Message)

structure SshConfigDraft where
  proxyUrl : JsString := js "ws://localhost:8080"
  host : JsString := js "192.168.1.100"
  port : JsString := js "22"
  username : JsString := js "root"
  password : JsString := []

inductive Key where
  | proxyUrl
  | host
  | port
  | username
  | password

def SshConfigDraft.update (key : Key) (value : JsString) (draft : SshConfigDraft) : SshConfigDraft :=
  match key with
  | .proxyUrl => { draft with proxyUrl := value }
  | .host => { draft with host := value }
  | .port => { draft with port := value }
  | .username => { draft with username := value }
  | .password => { draft with password := value }

-- What the functions of a render see.
structure Shown where
  draft : SshConfigDraft := {}
  command : JsString := []
  connected : Bool := false
  socket : Option Nat := none

-- Ghost: the output as it is to be, with the text of each chunk.
structure Page where
  draft : SshConfigDraft := {}
  status : JsString := js "Disconnected"
  output : JsString := []
  command : JsString := []
  connected : Bool := false
  socket : Option Nat := none
  shown : Shown := {}
  expected : JsString := []

-- The messages for the proxy: what the page sends, and what the other client sends.
inductive PageMessage where
  | connect (host : JsString) (port : Int) (username password : JsString)
  | data (data : JsString)
  | input (data : JsString)
  | disconnect
deriving DecidableEq

-- Ghost: the message is a command that was sent when the shell was open.
structure Sent where
  message : PageMessage
  owed : Bool := false
deriving DecidableEq

inductive ReadyState where
  | connecting
  | opened
  | closing
  | closed
deriving DecidableEq

-- What has come of the last SSH client of a connection.
inductive Ssh where
  | none
  | connecting
  | ready
  | shell
  | ended
  | closed
deriving DecidableEq

-- A socket, what it sends when it opens, what is on its way, and the proxy's connection. What has been
-- written to the shell and (ghost) what was to be written, oldest first.
structure Link where
  request : PageMessage
  readyState : ReadyState := .connecting
  toProxy : List Sent := []
  toPage : List Message := []
  attached : Bool := false
  sshClient : Bool := false
  ssh : Ssh := .none
  sshStream : Bool := false
  written : List Bytes := []
  owed : List Bytes := []

structure World where
  page : Page := {}
  links : List Link := []

inductive Event where
  | render
  | update (key : Key) (value : JsString)
  | setCommand (value : JsString)
  | connect (available : Bool) (raised : Option JsString)
  | disconnect
  | send
  | clear
  | opened (link : Nat)
  | message (link : Nat)
  | socketError (link : Nat)
  | socketClosed (link : Nat) (code : Nat)
  | received (link : Nat)
  | detached (link : Nat)
  | ready (link : Nat)
  | shell (link : Nat) (err : Option (Option JsString))
  | shellData (link : Nat) (chunk : Bytes)
  | shellError (link : Nat) (chunk : Bytes)
  | shellClosed (link : Nat)
  | sshError (link : Nat) (message : JsString)
  | sshClosed (link : Nat)

def append (text : JsString) (page : Page) : Page :=
  { page with output := page.output ++ text, expected := page.expected ++ text }

def textOf (base64 : JsString) : JsString := Utf16.encode (Utf8.decode (Base64.decode base64))

-- ws.onmessage. Data is appended as it is; the output expected gets its text.
def onMessage (message : Message) (page : Page) : Page :=
  match message with
  | .data data =>
      { page with
        output := page.output ++ data.getD []
        expected := page.expected ++ textOf (data.getD []) }
  | .connected =>
      append (js "\n[INFO] SSH connection established\n") { page with status := js "Connected", connected := true }
  | .error message => append (js "\n[ERROR] " ++ message.getD (js "unknown") ++ js "\n") page
  | _ => page

def onError (page : Page) : Page := append (js "\n[ERROR] WebSocket error\n") { page with status := js "Error" }

def onClose (code : Nat) (page : Page) : Page :=
  append (js "\n[INFO] SSH connection closed\n")
    { page with status := js "Closed: " ++ Ecma.decimal code, connected := false, socket := none }

def Link.send (message : Sent) (link : Link) : Link :=
  if link.readyState = .opened then { link with toProxy := link.toProxy ++ [message] } else link

def Link.reply (message : Message) (link : Link) : Link :=
  if link.attached then { link with toPage := link.toPage ++ [message] } else link

def Link.shellOpen (link : Link) : Bool := link.sshStream && link.ssh == .shell

def Link.write (bytes : Bytes) (link : Link) : Link :=
  if link.shellOpen then { link with written := link.written ++ [bytes] } else link

-- What a command is to make the proxy write.
def commandBytes : PageMessage → Bytes
  | .data data => utf8 data
  | _ => []

def Link.receive (message : PageMessage) (link : Link) : Link :=
  match message with
  | .connect _ _ _ _ => { link with sshClient := true, ssh := .connecting }
  | .input data => if link.sshStream then link.write (utf8 (textOf data)) else link
  | .disconnect => if link.sshClient then { link with sshClient := false } else link
  | .data _ => link

def connect (available : Bool) (raised : Option JsString) (w : World) : World :=
  let page := w.page
  if page.shown.connected then w
  else if !available then w
  else
    match Ecma.parseInt page.shown.draft.port with
    | none => { w with page := append (js "\n[ERROR] Invalid port number\n") page }
    | some port =>
        if port < 1 ∨ port > 65535 then { w with page := append (js "\n[ERROR] Invalid port number\n") page }
        else
          let draft := page.shown.draft
          let page := append (js "\n[INFO] Connecting to " ++ draft.host ++ js ":" ++ Ecma.decimalInt port ++ js " via " ++
            draft.proxyUrl ++ js "\n") { page with status := js "Connecting..." }
          match raised with
          | some message =>
              { w with
                page := append (js "\n[ERROR] " ++ message ++ js "\n")
                  { page with status := js "Connection failed: " ++ message } }
          | none =>
              { w with
                page := { page with socket := some w.links.length }
                links := w.links ++ [{ request := .connect draft.host port draft.username draft.password }] }

-- A socket that is not open yet throws; one that is closing sends nothing.
def send (w : World) : World :=
  match w.page.shown.socket with
  | none => { w with page := append (js "\n[WARN] Not connected\n") w.page }
  | some socket =>
      if !w.page.shown.connected then { w with page := append (js "\n[WARN] Not connected\n") w.page }
      else if (trim w.page.shown.command).isEmpty then w
      else
        let command := w.page.shown.command
        let page := append (js "$ " ++ command ++ js "\n") w.page
        if (w.links[socket]?).any fun link => link.readyState == .connecting then { w with page }
        else
          { page := { page with command := [] }
            links := w.links.modify socket fun link => link.send ⟨.data (command ++ js "\n"), link.shellOpen⟩ }

def disconnect (w : World) : World :=
  match w.page.shown.socket with
  | none => w
  | some socket =>
      { w with links := w.links.modify socket fun link =>
          if link.readyState = .closed then link else { link with readyState := .closing } }

def onLink (link : Nat) (enabled : Link → Bool) (change : Link → Link) (w : World) : Option World :=
  if (w.links[link]?).any enabled then some { w with links := w.links.modify link change } else none

def Link.takeSent (link : Link) : Link :=
  match link.toProxy with
  | [] => link
  | sent :: rest =>
      let link := { link with toProxy := rest }
      (if sent.owed then { link with owed := link.owed ++ [commandBytes sent.message] } else link).receive sent.message

def Link.connected (link : Link) : Bool := link.readyState == .opened || link.readyState == .closing

def takeMessage (link : Nat) (w : World) : Option World :=
  match w.links[link]? with
  | none => none
  | some there =>
      match there.toPage with
      | [] => none
      | message :: rest =>
          if there.connected then
            some { page := onMessage message w.page, links := w.links.modify link fun link => { link with toPage := rest } }
          else none

def step (w : World) : Event → Option World
  | .render =>
      let page := w.page
      some { w with page := { page with shown := ⟨page.draft, page.command, page.connected, page.socket⟩ } }
  | .update key value => some { w with page := { w.page with draft := w.page.draft.update key value } }
  | .setCommand value => some { w with page := { w.page with command := value } }
  | .connect available raised => some (connect available raised w)
  | .disconnect => some (disconnect w)
  | .send => some (send w)
  | .clear => some { w with page := { w.page with output := [], expected := [] } }
  | .opened link =>
      onLink link (·.readyState == .connecting)
        (fun link => { link with readyState := .opened, attached := true }.send ⟨link.request, false⟩) w
  | .message link => takeMessage link w
  | .socketError link =>
      (onLink link (·.readyState != .closed) id w).map fun w => { w with page := onError w.page }
  | .socketClosed link code =>
      (onLink link (·.readyState != .closed) (fun link => { link with readyState := .closed }) w).map fun w =>
        { w with page := onClose code w.page }
  | .received link => onLink link (fun link => link.attached && !link.toProxy.isEmpty) Link.takeSent w
  | .detached link => onLink link (·.attached) (fun link => { link with attached := false }) w
  | .ready link => onLink link (·.ssh == .connecting) (fun link => { link with ssh := .ready }.reply .connected) w
  | .shell link (some err) => onLink link (·.ssh == .ready) (fun link => link.reply (.error err)) w
  | .shell link none => onLink link (·.ssh == .ready) (fun link => { link with ssh := .shell, sshStream := true }) w
  | .shellData link chunk =>
      onLink link Link.shellOpen (fun link => link.reply (.data (some (Base64.encode chunk)))) w
  | .shellError link chunk =>
      onLink link Link.shellOpen (fun link => link.reply (.error (some (Utf16.encode (Utf8.decode chunk))))) w
  | .shellClosed link => onLink link Link.shellOpen (fun link => { link with ssh := .ended }.reply .closed) w
  | .sshError link message => onLink link (·.ssh != .none) (fun link => link.reply (.error (some message))) w
  | .sshClosed link => onLink link (·.ssh != .none) (fun link => { link with ssh := .closed }.reply .disconnected) w

-- Each command that has come to the proxy was written, and the output has the text of each chunk.
structure Kept (w : World) : Prop where
  written : ∀ link ∈ w.links, link.written = link.owed
  output : w.page.output = w.page.expected

-- No command that was sent to an open shell comes to the proxy, and no data to the page.
def Fits (w : World) : Event → Prop
  | .received link => ∀ there sent rest, w.links[link]? = some there → there.toProxy = sent :: rest → sent.owed = false
  | .message link => ∀ there data rest, w.links[link]? = some there → there.toPage = .data data :: rest → data.getD [] = []
  | _ => True

def Plain (message : PageMessage) : Prop := ∀ data, message ≠ .input data

structure LinkSound (link : Link) : Prop where
  written : link.written = link.owed
  request : Plain link.request
  plain : ∀ sent ∈ link.toProxy, Plain sent.message

structure Sound (w : World) : Prop where
  output : w.page.output = w.page.expected
  links : ∀ link ∈ w.links, LinkSound link

theorem initial_sound : Sound {} := ⟨rfl, fun _ member => by cases member⟩

theorem sound_kept (w : World) (sound : Sound w) : Kept w :=
  ⟨fun link member => (sound.links link member).written, sound.output⟩

theorem forall_modify {α : Type} (holds : α → Prop) (change : α → α) (n : Nat) (list : List α)
    (all : ∀ item ∈ list, holds item) (keeps : ∀ item, list[n]? = some item → holds item → holds (change item)) :
    ∀ item ∈ list.modify n change, holds item := by
  intro item member
  obtain ⟨index, there⟩ := List.mem_iff_getElem?.mp member
  rw [List.getElem?_modify] at there
  cases before : list[index]? with
  | none => rw [before] at there; cases there
  | some old =>
      have known := all old (List.mem_of_getElem? before)
      by_cases here : n = index
      · subst here
        simp only [before, if_true, Option.map_eq_map, Option.map_some, Option.some.injEq] at there
        exact there ▸ keeps old before known
      · simp only [before, if_neg here, Option.map_eq_map, Option.map_some, Option.some.injEq] at there
        exact there ▸ known

theorem append_output (text : JsString) (page : Page) (same : page.output = page.expected) :
    (append text page).output = (append text page).expected := congrArg (· ++ text) same

theorem send_sound (sent : Sent) (link : Link) (plain : Plain sent.message) (sound : LinkSound link) :
    LinkSound (link.send sent) := by
  unfold Link.send
  split
  · refine ⟨sound.written, sound.request, fun other member => ?_⟩
    rcases List.mem_append.mp member with old | new
    · exact sound.plain other old
    · exact List.mem_singleton.mp new ▸ plain
  · exact sound

theorem reply_sound (message : Message) (link : Link) (sound : LinkSound link) : LinkSound (link.reply message) := by
  unfold Link.reply
  split
  · exact ⟨sound.written, sound.request, sound.plain⟩
  · exact sound

theorem receive_written (message : PageMessage) (link : Link) (plain : Plain message) :
    (link.receive message).written = link.written ∧ (link.receive message).owed = link.owed ∧
      (link.receive message).request = link.request ∧ (link.receive message).toProxy = link.toProxy := by
  cases message with
  | input data => exact absurd rfl (plain data)
  | connect host port username password => exact ⟨rfl, rfl, rfl, rfl⟩
  | data data => exact ⟨rfl, rfl, rfl, rfl⟩
  | disconnect =>
      unfold Link.receive
      dsimp only
      split <;> exact ⟨rfl, rfl, rfl, rfl⟩

theorem takeSent_fields (link : Link) (sent : Sent) (rest : List Sent) (queue : link.toProxy = sent :: rest)
    (plain : Plain sent.message) : link.takeSent.written = link.written ∧ link.takeSent.request = link.request ∧
      link.takeSent.toProxy = rest ∧
      link.takeSent.owed = if sent.owed then link.owed ++ [commandBytes sent.message] else link.owed := by
  unfold Link.takeSent
  rw [queue]
  dsimp only
  obtain ⟨written, owed, request, toProxy⟩ := receive_written sent.message (if sent.owed then
    { link with toProxy := rest, owed := link.owed ++ [commandBytes sent.message] } else { link with toProxy := rest }) plain
  rw [written, owed, request, toProxy]
  split <;> exact ⟨rfl, rfl, rfl, rfl⟩

theorem takeSent_sound (link : Link) (sound : LinkSound link)
    (fits : ∀ sent rest, link.toProxy = sent :: rest → sent.owed = false) : LinkSound link.takeSent := by
  cases queue : link.toProxy with
  | nil =>
      unfold Link.takeSent
      rw [queue]
      exact sound
  | cons sent rest =>
      obtain ⟨written, request, toProxy, owed⟩ :=
        takeSent_fields link sent rest queue (sound.plain sent (queue ▸ List.mem_cons_self))
      rw [fits sent rest queue, if_neg Bool.false_ne_true] at owed
      refine ⟨?_, request ▸ sound.request, fun other member => sound.plain other ?_⟩
      · rw [written, owed, sound.written]
      · rw [queue]
        exact List.mem_cons_of_mem _ (toProxy ▸ member)

theorem onLink_sound (n : Nat) (enabled : Link → Bool) (change : Link → Link) (w next : World) (sound : Sound w)
    (keeps : ∀ link, w.links[n]? = some link → LinkSound link → LinkSound (change link))
    (move : onLink n enabled change w = some next) : Sound next := by
  obtain ⟨_, same⟩ := Option.ite_none_right_eq_some.mp move
  obtain rfl := Option.some.inj same
  exact ⟨sound.output, forall_modify LinkSound change n w.links sound.links keeps⟩

theorem connect_sound (available : Bool) (raised : Option JsString) (w : World) (sound : Sound w) :
    Sound (connect available raised w) := by
  unfold connect
  dsimp only
  split
  · exact sound
  split
  · exact sound
  split
  · exact ⟨append_output _ _ sound.output, sound.links⟩
  split
  · exact ⟨append_output _ _ sound.output, sound.links⟩
  have shown := append_output
  cases raised with
  | some message => exact ⟨append_output _ _ (append_output _ _ sound.output), sound.links⟩
  | none =>
      refine ⟨append_output _ _ sound.output, fun link member => ?_⟩
      rcases List.mem_append.mp member with old | new
      · exact sound.links link old
      · obtain rfl := List.mem_singleton.mp new
        exact ⟨rfl, fun data => by simp, fun sent member => by cases member⟩

theorem send_world_sound (w : World) (sound : Sound w) : Sound (send w) := by
  unfold send
  split
  · exact ⟨append_output _ _ sound.output, sound.links⟩
  split
  · exact ⟨append_output _ _ sound.output, sound.links⟩
  split
  · exact sound
  dsimp only
  split
  · exact ⟨append_output _ _ sound.output, sound.links⟩
  · refine ⟨append_output _ _ sound.output, forall_modify LinkSound _ _ w.links sound.links fun link _ known => ?_⟩
    exact send_sound _ link (fun data => by simp) known

theorem takeMessage_some (n : Nat) (w next : World) (move : takeMessage n w = some next) :
    ∃ there message rest, w.links[n]? = some there ∧ there.toPage = message :: rest ∧
      next = { page := onMessage message w.page, links := w.links.modify n fun link => { link with toPage := rest } } := by
  unfold takeMessage at move
  cases there : w.links[n]? with
  | none => rw [there] at move; cases move
  | some link =>
      rw [there] at move
      dsimp only at move
      cases queue : link.toPage with
      | nil => rw [queue] at move; cases move
      | cons message rest =>
          rw [queue] at move
          obtain ⟨_, same⟩ := Option.ite_none_right_eq_some.mp move
          exact ⟨link, message, rest, rfl, queue, (Option.some.inj same).symm⟩

theorem textOf_shorter (base64 : JsString) (some : base64 ≠ []) : (textOf base64).length < base64.length := by
  have units := BinaryString.decode_units none (Base64.decode base64)
  have bytes := Base64.decode_length base64
  have positive := List.length_pos_iff.mpr some
  rw [Utf8.owed_none] at units
  unfold textOf Utf8.decode
  omega

theorem textOf_empty : textOf [] = [] := rfl

theorem onMessage_output (message : Message) (page : Page) (same : page.output = page.expected)
    (fits : ∀ data, message = .data data → data.getD [] = []) :
    (onMessage message page).output = (onMessage message page).expected := by
  cases message with
  | data data =>
      unfold onMessage
      dsimp only
      rw [fits data rfl, same, textOf_empty]
  | connected => exact append_output _ _ same
  | error message => exact append_output _ _ same
  | disconnected => exact same
  | closed => exact same
  | unknown => exact same

theorem disconnect_sound (w : World) (sound : Sound w) : Sound (disconnect w) := by
  unfold disconnect
  split
  · exact sound
  · refine ⟨sound.output, forall_modify LinkSound _ _ w.links sound.links fun link _ known => ?_⟩
    split
    · exact known
    · exact ⟨known.written, known.request, known.plain⟩

theorem step_sound (w : World) (event : Event) (next : World) (sound : Sound w) (fits : Fits w event)
    (move : step w event = some next) : Sound next := by
  have page : ∀ page : Page, page.output = page.expected → Sound { w with page } := fun _ same => ⟨same, sound.links⟩
  have shell : ∀ (n : Nat) (enabled : Link → Bool) (ssh : Link → Ssh) (stream : Link → Bool),
      onLink n enabled (fun link => { link with ssh := ssh link, sshStream := stream link }) w = some next → Sound next :=
    fun n enabled ssh stream => onLink_sound n enabled _ w next sound fun link _ known => ⟨known.written, known.request, known.plain⟩
  have reply : ∀ (n : Nat) (enabled : Link → Bool) (ssh : Link → Ssh) (message : Message),
      onLink n enabled (fun link => { link with ssh := ssh link }.reply message) w = some next → Sound next :=
    fun n enabled ssh message => onLink_sound n enabled _ w next sound fun link _ known =>
      reply_sound message _ ⟨known.written, known.request, known.plain⟩
  cases event with
  | render =>
      obtain rfl := Option.some.inj move
      exact page _ sound.output
  | update key value =>
      obtain rfl := Option.some.inj move
      exact page _ sound.output
  | setCommand value =>
      obtain rfl := Option.some.inj move
      exact page _ sound.output
  | connect available raised =>
      obtain rfl := Option.some.inj move
      exact connect_sound available raised w sound
  | disconnect =>
      obtain rfl := Option.some.inj move
      exact disconnect_sound w sound
  | send =>
      obtain rfl := Option.some.inj move
      exact send_world_sound w sound
  | clear =>
      obtain rfl := Option.some.inj move
      exact page _ rfl
  | opened n =>
      refine onLink_sound n _ _ w next sound (fun link _ known => ?_) move
      exact send_sound _ _ known.request ⟨known.written, known.request, known.plain⟩
  | message n =>
      obtain ⟨there, message, rest, found, queue, rfl⟩ := takeMessage_some n w next move
      refine ⟨onMessage_output message w.page sound.output fun data same => ?_, ?_⟩
      · exact fits there data rest found (same ▸ queue)
      · refine forall_modify LinkSound _ _ w.links sound.links fun link _ known => ?_
        exact ⟨known.written, known.request, known.plain⟩
  | socketError n =>
      obtain ⟨middle, moved, rfl⟩ := Option.map_eq_some_iff.mp move
      have kept := onLink_sound n _ _ w middle sound (fun _ _ known => known) moved
      exact ⟨append_output _ _ kept.output, kept.links⟩
  | socketClosed n code =>
      obtain ⟨middle, moved, rfl⟩ := Option.map_eq_some_iff.mp move
      have kept : Sound middle := by
        refine onLink_sound n _ _ w middle sound (fun link _ known => ?_) moved
        exact ⟨known.written, known.request, known.plain⟩
      exact ⟨append_output _ _ kept.output, kept.links⟩
  | received n =>
      refine onLink_sound n _ _ w next sound (fun link found known => ?_) move
      exact takeSent_sound link known fun sent rest queue => fits link sent rest found queue
  | detached n =>
      refine onLink_sound n _ _ w next sound (fun link _ known => ?_) move
      exact ⟨known.written, known.request, known.plain⟩
  | ready n => exact reply n _ (fun _ => .ready) _ move
  | shell n err =>
      cases err with
      | some err => exact reply n _ (·.ssh) _ move
      | none => exact shell n _ (fun _ => .shell) (fun _ => true) move
  | shellData n chunk => exact reply n _ (·.ssh) _ move
  | shellError n chunk => exact reply n _ (·.ssh) _ move
  | shellClosed n => exact reply n _ (fun _ => .ended) _ move
  | sshError n message => exact reply n _ (·.ssh) _ move
  | sshClosed n => exact reply n _ (fun _ => .closed) _ move

theorem unfit_breaks (w : World) (event : Event) (next : World) (sound : Sound w) (unfit : ¬ Fits w event)
    (move : step w event = some next) : ¬ Kept next := by
  intro kept
  apply unfit
  cases event with
  | received n =>
      intro there sent rest found queue
      obtain ⟨_, same⟩ := Option.ite_none_right_eq_some.mp move
      obtain rfl := Option.some.inj same
      have known := sound.links there (List.mem_of_getElem? found)
      obtain ⟨written, _, _, owed⟩ := takeSent_fields there sent rest queue (known.plain sent (queue ▸ List.mem_cons_self))
      have taken : there.takeSent ∈ w.links.modify n Link.takeSent := by
        refine List.mem_iff_getElem?.mpr ⟨n, ?_⟩
        rw [List.getElem?_modify, found]
        simp
      have balance := kept.written _ taken
      cases ghost : sent.owed with
      | false => rfl
      | true =>
          rw [written, owed, ghost, if_pos rfl, known.written] at balance
          simp at balance
  | message n =>
      intro there data rest found queue
      obtain ⟨other, message, later, found', queue', rfl⟩ := takeMessage_some n w next move
      obtain rfl : there = other := Option.some.inj (found.symm.trans found')
      obtain rfl : .data data = message := (List.cons.inj (queue.symm.trans queue')).1
      have shown := kept.output
      simp only [onMessage, sound.output, List.append_cancel_left_eq] at shown
      by_contra some
      have shorter := textOf_shorter _ some
      rw [← shown] at shorter
      exact Nat.lt_irrefl _ shorter
  | _ => trivial

/-- The commands are written and the output shown in a run of the page and the proxy exactly when no command
that was sent to an open shell comes to the proxy and no data that is not empty comes to the page. -/
theorem commands_and_output_kept (events : List Event) :
    Always step {} events Kept ↔ Steps step {} events fun before event _ => Fits before event :=
  fits_iff step {} events Sound Kept initial_sound Fits step_sound sound_kept unfit_breaks

def session : List Event :=
  [.connect true none, .opened 0, .received 0, .ready 0, .message 0, .shell 0 none, .setCommand (js "ls"), .render, .send,
    .received 0, .shellData 0 [0x24], .message 0]

theorem session_lost : ¬ Always step {} session Kept := by
  intro always
  have run : Run (Moves step) {} session _ := moves_run step _ _ _ rfl
  have kept := always session [] _ (List.append_nil _).symm run
  have written := kept.written _ List.mem_cons_self
  exact absurd written (by decide)

end Kessh.WebSocketSSHTestPage
