import Kessh.Lib.BinaryString

set_option autoImplicit false

-- The client of the WebSocket proxy. One client makes any number of sockets, which all share its fields.
namespace Kessh.WebSocketSSHClient

open Ecma (JsString js utf8)

structure SSHConnectionConfig where
  host : JsString
  port : Int
  username : JsString
  password : JsString
  wsServerUrl : JsString
deriving DecidableEq, Repr

inductive Frame where
  | connect (host : JsString) (port : Int) (username password : JsString)
  | input (data : JsString)
  | disconnect
deriving DecidableEq, Repr

inductive Outcome where
  | resolved
  | rejected (reason : JsString)
deriving DecidableEq, Repr

-- A call of connect with the promise it returned. Its socket has the number of the call.
structure Attempt where
  config : SSHConnectionConfig
  created : Bool
  outcome : Option Outcome
deriving DecidableEq, Repr

-- What a socket still has to call back for.
inductive Callback where
  | connect (socket : Nat)
  | sshConnect (attempt : Nat)
  | input
  | disconnect
  | close
deriving DecidableEq, Repr

structure Client where
  ws : Option Nat := none
  isConnected : Bool := false
  sshConnected : Bool := false
  connectResolve : Option Nat := none
  connectReject : Option Nat := none
  attempts : List Attempt := []
  sent : List (Nat × Frame) := []
  awaited : List Callback := []
deriving DecidableEq, Repr

-- A promise is settled once.
def Attempt.settle (outcome : Outcome) (attempt : Attempt) : Attempt :=
  { attempt with outcome := attempt.outcome.or (some outcome) }

def Client.settle (client : Client) (attempt : Nat) (outcome : Outcome) : Client :=
  { client with attempts := client.attempts.modify attempt (Attempt.settle outcome) }

def Client.send (client : Client) (frame : Frame) (callback : Callback) : Client :=
  match client.ws with
  | none => client
  | some socket => { client with sent := (socket, frame) :: client.sent, awaited := callback :: client.awaited }

-- An exception in the executor of the promise: before there is a socket, or after its listeners are set.
inductive Raised where
  | createWebSocket (error : JsString)
  | connect (error : JsString)
deriving DecidableEq, Repr

def connectionException (error : JsString) : Outcome := .rejected (js "Connection exception: " ++ error)

def Client.connect (client : Client) (config : SSHConnectionConfig) (raised : Option Raised) : Client :=
  let attempt := client.attempts.length
  match raised with
  | some (.createWebSocket error) =>
      { client with attempts := client.attempts ++ [⟨config, false, some (connectionException error)⟩] }
  | some (.connect error) =>
      { client with
        ws := some attempt
        attempts := client.attempts ++ [⟨config, true, some (connectionException error)⟩] }
  | none =>
      { client with
        ws := some attempt
        attempts := client.attempts ++ [⟨config, true, none⟩]
        awaited := .connect attempt :: client.awaited }

def SSHConnectionConfig.connectMsg (config : SSHConnectionConfig) : Frame :=
  .connect config.host config.port config.username config.password

-- The request goes to the socket that the client has by now.
def Client.sendSSHConnect (client : Client) (config : SSHConnectionConfig) (attempt : Nat) : Client :=
  { client with connectResolve := some attempt, connectReject := some attempt }.send config.connectMsg
    (.sshConnect attempt)

def Client.onOpen (client : Client) (config : SSHConnectionConfig) (attempt : Nat) (err : Option JsString) : Client :=
  match err with
  | some message => client.settle attempt (.rejected (js "WebSocket open error: " ++ message))
  | none => { client with isConnected := true }.sendSSHConnect config attempt

-- A message by its type. A field that is missing is none.
inductive Message where
  | connected
  | data (data : Option JsString)
  | error (message : Option JsString)
  | disconnected
  | closed
  | unknown
deriving DecidableEq, Repr

def Client.handleMessage (client : Client) : Message → Client
  | .connected =>
      let client := { client with sshConnected := true }
      match client.connectResolve with
      | none => client
      | some attempt => { client.settle attempt .resolved with connectResolve := none, connectReject := none }
  | .error message =>
      match client.connectReject with
      | none => client
      | some attempt =>
          { client.settle attempt (.rejected (message.getD [])) with connectResolve := none, connectReject := none }
  | .disconnected => { client with sshConnected := false }
  | .closed => { client with sshConnected := false }
  | .data _ => client
  | .unknown => client

inductive SocketEvent where
  | opened (err : Option JsString)
  -- an error, or the message: none where JSON.parse makes nothing of it
  | message (arrived : Except JsString (Option Message))
  | error (message : JsString)
  | closed
deriving DecidableEq

def Client.onSocket (client : Client) (config : SSHConnectionConfig) (attempt : Nat) : SocketEvent → Client
  | .opened err => client.onOpen config attempt err
  | .message (.ok (some message)) => client.handleMessage message
  | .message _ => client
  | .error _ => { client with isConnected := false, sshConnected := false }
  | .closed => { client with isConnected := false, sshConnected := false }

-- A callback without an error changes nothing, but for the one of a close.
def Client.onCallback (client : Client) : Callback → Option JsString → Client
  | .connect attempt, some message =>
      client.settle attempt (.rejected (js "WebSocket connection failed: " ++ message))
  | .sshConnect attempt, some message =>
      { client.settle attempt (.rejected (js "Failed to send SSH connect: " ++ message)) with
        connectResolve := none
        connectReject := none }
  | .close, none => { client with isConnected := false, sshConnected := false }
  | _, _ => client

def chars : JsString := js "ABCDEFGHIJKLMNOPQRSTUVWXYZabcdefghijklmnopqrstuvwxyz0123456789+/"

-- What one round of the loop in btoa adds: i is the index after the three reads.
def btoaRound (length i : Nat) (a b c : UInt16) : JsString :=
  let bitmap := (a.toNat <<< 16 ||| b.toNat <<< 8) ||| c.toNat
  [chars.getD (bitmap >>> 18 &&& 63) 0, chars.getD (bitmap >>> 12 &&& 63) 0,
    if (i : Int) - 2 < length then chars.getD (bitmap >>> 6 &&& 63) 0 else 0x3D,
    if (i : Int) - 1 < length then chars.getD (bitmap &&& 63) 0 else 0x3D]

-- The loop from index i on, where the text is not read yet: at its end 0 is read, and i stays.
def btoaFrom (length i : Nat) : JsString → JsString
  | a :: b :: c :: rest => btoaRound length (i + 3) a b c ++ btoaFrom length (i + 3) rest
  | [a, b] => btoaRound length (i + 2) a b 0
  | [a] => btoaRound length (i + 1) a 0 0
  | [] => []

def btoa (text : JsString) : JsString := btoaFrom text.length 0 text

def arrayBufferToBase64 (buffer : Utf8.Bytes) : JsString := btoa (BinaryString.fromCharCodes buffer)

-- TextEncoder.encodeInto makes UTF-8.
def base64Encode (text : JsString) : JsString := arrayBufferToBase64 (utf8 text)

def Client.sendInput (client : Client) (data : JsString) : Except JsString Client :=
  if client.ws = none ∨ client.isConnected = false then .error (js "WebSocket not connected")
  else if client.sshConnected = false then .error (js "SSH not connected")
  else .ok (client.send (.input (base64Encode data)) .input)

def Client.disconnect (client : Client) : Client :=
  if client.ws = none then client
  else
    let client := if client.sshConnected then client.send .disconnect .disconnect else client
    { client with awaited := .close :: client.awaited }

inductive Event where
  | connect (config : SSHConnectionConfig) (raised : Option Raised)
  | socket (socket : Nat) (event : SocketEvent)
  | callback (callback : Callback) (err : Option JsString)
  | sendInput (data : JsString)
  | disconnect

-- Only a socket that was made reports anything, and a callback comes once for each call.
def step (client : Client) : Event → Option Client
  | .connect config raised => some (client.connect config raised)
  | .socket socket event =>
      match client.attempts[socket]? with
      | some attempt => if attempt.created then some (client.onSocket attempt.config socket event) else none
      | none => none
  | .callback callback err =>
      if callback ∈ client.awaited then
        some ({ client with awaited := client.awaited.erase callback }.onCallback callback err)
      else none
  | .sendInput data =>
      match client.sendInput data with
      | .ok client => some client
      | .error _ => some client
  | .disconnect => some client.disconnect

end Kessh.WebSocketSSHClient
