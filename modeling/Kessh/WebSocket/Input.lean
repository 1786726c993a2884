import Kessh.Lib.Base64
import Kessh.WebSocket.Client

set_option autoImplicit false

-- What the proxy makes of the input that the client sends.
namespace Kessh.WebSocketSSHClient

open Utf8 (Bytes)
open Ecma (JsString js utf8)
open BinaryString (fromCharCodes)

-- The index after the reads is never beyond the end: no round writes padding.
theorem btoaRound_group (length i : Nat) (a b c : UInt8) (inside : i ≤ length) :
    btoaRound length i a.toUInt16 b.toUInt16 c.toUInt16 = Base64.group a b c := by
  have value : ∀ byte : UInt8, byte.toUInt16.toNat = byte.toNat := UInt8.toNat_toUInt16
  obtain ⟨high, upper, lower, low⟩ := Base64.bitmap_digits a.toNat b.toNat c.toNat a.toNat_lt b.toNat_lt c.toNat_lt
  unfold btoaRound
  simp only [value, high, upper, lower, low]
  rw [if_pos (by omega), if_pos (by omega)]
  rfl

theorem decode_btoaFrom (length i : Nat) (bytes : Bytes) (inside : i + bytes.length = length) :
    Base64.decode (btoaFrom length i (fromCharCodes bytes)) =
      bytes ++ List.replicate ((3 - bytes.length % 3) % 3) 0 := by
  match bytes with
  | [] => rfl
  | [a] =>
      have round := btoaRound_group length (i + 1) a 0 0 (by simp at inside; omega)
      have whole := Base64.decode_group a 0 0 []
      rw [List.append_nil] at whole
      exact (congrArg Base64.decode round).trans whole
  | [a, b] =>
      have round := btoaRound_group length (i + 2) a b 0 (by simp at inside; omega)
      have whole := Base64.decode_group a b 0 []
      rw [List.append_nil] at whole
      exact (congrArg Base64.decode round).trans whole
  | a :: b :: c :: rest =>
      rw [List.length_cons, List.length_cons, List.length_cons] at inside ⊢
      have round := btoaRound_group length (i + 3) a b c (by omega)
      have later := decode_btoaFrom length (i + 3) rest (by omega)
      have missing : (3 - (rest.length + 1 + 1 + 1) % 3) % 3 = (3 - rest.length % 3) % 3 := by omega
      simp only [fromCharCodes, List.map_cons, btoaFrom] at later ⊢
      rw [round, Base64.decode_group, later, missing]
      rfl

theorem decode_base64Encode (text : JsString) :
    Base64.decode (base64Encode text) = utf8 text ++ List.replicate ((3 - (utf8 text).length % 3) % 3) 0 := by
  have length : (fromCharCodes (utf8 text)).length = (utf8 text).length := List.length_map _
  unfold base64Encode arrayBufferToBase64 btoa
  rw [length]
  exact decode_btoaFrom _ 0 (utf8 text) (Nat.zero_add _)

/-- The proxy decodes the input that is sent to the bytes of the text exactly when their
number is a multiple of three. -/
theorem input_bytes_kept (client : Client) (data : JsString) (sending : Client)
    (sent : client.sendInput data = .ok sending) :
    (∃ socket encoded, sending.sent = (socket, .input encoded) :: client.sent ∧ Base64.decode encoded = utf8 data) ↔
      3 ∣ (utf8 data).length := by
  unfold Client.sendInput at sent
  split at sent
  · cases sent
  rename_i usable
  split at sent
  · cases sent
  obtain ⟨socket, current⟩ := Option.ne_none_iff_exists'.mp fun none => usable (.inl none)
  have frame : sending.sent = (socket, .input (base64Encode data)) :: client.sent := by
    rw [← Except.ok.inj sent, Client.send, current]
  rw [frame]
  constructor
  · rintro ⟨other, encoded, same, decoded⟩
    obtain rfl : base64Encode data = encoded := Frame.input.inj (Prod.mk.inj (List.cons.inj same).1).2
    rw [decode_base64Encode] at decoded
    have none := congrArg List.length decoded
    rw [List.length_append, List.length_replicate] at none
    omega
  · intro whole
    refine ⟨socket, _, rfl, ?_⟩
    have none : (3 - (utf8 data).length % 3) % 3 = 0 := by omega
    rw [decode_base64Encode, none, List.replicate_zero, List.append_nil]

def connectedClient : Client := { ws := some 0, isConnected := true, sshConnected := true }

theorem input_bytes_kept_command :
    ∃ sending, connectedClient.sendInput (js "ls\n") = .ok sending ∧
      ∃ socket encoded, sending.sent = (socket, .input encoded) :: connectedClient.sent ∧
        Base64.decode encoded = utf8 (js "ls\n") :=
  ⟨_, rfl, (input_bytes_kept connectedClient (js "ls\n") _ rfl).mpr (by decide)⟩

-- One letter and a newline are sent as "YQoA", and a zero byte follows them.
theorem input_gets_zero :
    ∃ sending socket encoded, connectedClient.sendInput (js "a\n") = .ok sending ∧
      sending.sent = [(socket, .input encoded)] ∧ Base64.decode encoded ≠ utf8 (js "a\n") :=
  ⟨_, 0, js "YQoA", rfl, by decide, by decide⟩

end Kessh.WebSocketSSHClient
