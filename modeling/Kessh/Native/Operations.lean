import Kessh.Lib.Ecma
import Kessh.Native.OpenSession

set_option autoImplicit false

namespace Kessh.Native

open Utf8 (Bytes)
open Ecma (JsString)
open Interaction

-- What an operation hands back: a JavaScript value, a thrown error, or, for the worker
-- that opens a session, what it leaves in its data.
inductive Result where
  | undefined
  | int32 (value : Int)
  | boolean (value : Bool)
  | string (value : JsString)
  | promise (deferred : Nat)
  | thrown (message : Bytes)
  | ran (sessionId : Int) (error : Bytes)
deriving DecidableEq, Repr

-- napi_create_string_utf8 decodes with replacement.
def createString (text : Bytes) : Result := .string (Utf16.encode (Utf8.decode text))

def openSession (host : Bytes) (port : Int) (user pass : Bytes) : Routine Result := do
  match ← openSessionInternal host port user pass with
  | .ok sessionId => return if sessionId ≤ 0 then .thrown (bytes "Failed to open SSH session") else .int32 sessionId
  | .error error => return .thrown (if error.isEmpty then bytes "Failed to open SSH session" else error)

def executeOpenSessionAsync (data : OpenSessionAsyncData) : Routine Result := do
  match ← openSessionInternal data.host data.port data.user data.pass with
  | .ok sessionId => return .ran sessionId []
  | .error error => return .ran (-1) error

-- The status is ok when the work ran; a cancelled work item never ran.
def completeOpenSessionAsync (statusOk : Bool) (data : OpenSessionAsyncData) (sessionId : Int) : Routine Result := do
  ask (.resolveDeferred data.deferred (if statusOk then sessionId else -1))
  ask .deleteAsyncWork
  return .undefined

def openSessionAsync (host : Bytes) (port : Int) (user pass : Bytes) : Routine Result := do
  let deferred ← ask .createPromise
  let data : OpenSessionAsyncData := { deferred, host, port, user, pass }
  if !(← ask (.createAsyncWork data)) then
    ask (.resolveDeferred deferred (-1))
    return .promise deferred
  if !(← ask (.queueAsyncWork data)) then
    ask .deleteAsyncWork
    ask (.resolveDeferred deferred (-1))
  return .promise deferred

def closeSession (sessionId : Int) : Routine Result :=
  withLock .session do
    match ← ask (.findSession sessionId .close) with
    | none => return .undefined
    | some entry =>
        let _ ← ask (.channelFree entry.channel)
        let _ ← ask (.sessionDisconnect entry.session (bytes "Normal Shutdown"))
        let _ ← ask (.sessionFree entry.session)
        ask (.close entry.sock)
        ask (.eraseSession sessionId)
        return .undefined

def setKeepaliveConfig (interval attempts : Int) : Routine Result := do
  withLock .keepaliveConfig
    (ask (.setKeepaliveConfig (if interval < 0 then 0 else interval) (if attempts < 0 then 0 else attempts)))
  return .undefined

def sendKeepalive (sessionId : Int) : Routine Result := do
  let success ← withLock .session do
    match ← ask (.findSession sessionId .use) with
    | none => return false
    | some entry =>
        let rc ← ask (.keepaliveSend entry.session)
        if rc = 0 then
          ask (.setKeepaliveFailures sessionId 0)
          return true
        else
          ask (.setKeepaliveFailures sessionId (entry.keepaliveFailures + 1))
          return false
  return .boolean success

def write (sessionId : Int) (data : Bytes) : Routine Result :=
  withLock .session do
    match ← ask (.findSession sessionId .use) with
    | none => return .undefined
    | some entry =>
        let _ ← ask (.channelWrite entry.channel data)
        return .undefined

-- Reads until there is no more: again holds the text so far while the channel has data.
def drain (request : Call) (data : Reply request → Option Bytes) (text : Bytes) : Routine Bytes :=
  .loop text (fun _ => request) (fun sofar reply => (data reply).map (sofar ++ ·)) (fun sofar _ => .done sofar)

def ReadResult.available : ReadResult → Option Bytes
  | .bytes data => some data
  | _ => none

-- EAGAIN sleeps and reads again.
def ReadResult.awaited : ReadResult → Option Bytes
  | .bytes data => some data
  | .eof => none
  | .error code => if code = LIBSSH2_ERROR_EAGAIN then some [] else none

def read (sessionId : Int) : Routine Result :=
  withLock .session do
    match ← ask (.findSession sessionId .use) with
    | none => return createString []
    | some entry =>
        ask (.channelSetBlocking entry.channel false)
        let text ← drain (.channelRead entry.channel 4096) ReadResult.available []
        return createString text

def executeCommand (sessionId : Int) (command : Bytes) : Routine Result :=
  withLock .session do
    match ← ask (.findSession sessionId .use) with
    | none => return .thrown (bytes "Session not found")
    | some entry =>
    match ← ask (.channelOpenSession entry.session) with
    | none => do
        let _ ← ask (.sessionLastError entry.session)
        return .thrown (bytes "Failed to open channel")
    | some number => do
        let channel : Channel := { session := entry.session, number }
        if (← ask (.channelExec channel (cStr command))) ≠ 0 then
          let _ ← ask (.sessionLastError entry.session)
          let _ ← ask (.channelFree channel)
          return .thrown (bytes "Failed to execute command")
        let text ← drain (.channelRead channel 4096) ReadResult.awaited []
        let text ← drain (.channelReadStderr channel 4096) ReadResult.available text
        let _ ← ask (.channelClose channel)
        let _ ← ask (.channelFree channel)
        return createString text

-- None where the path has a byte that no shell word can carry over one line.
def shellQuoteArg (value : Bytes) : Fallible Bytes :=
  if value.any fun c => c == 0x00 || c == 0x0D || c == 0x0A then
    .error (bytes "Remote path contains invalid control characters")
  else
    .ok (bytes "'" ++ value.flatMap (fun c => if c = 0x27 then bytes "'\\''" else [c]) ++ bytes "'")

def downloadCommand (quotedPath : Bytes) : Bytes := bytes "cat -- " ++ quotedPath ++ bytes " 2>&1"

def uploadCommand (quotedPath : Bytes) : Bytes := bytes "cat > " ++ quotedPath

def downloadFile (sessionId : Int) (remotePath : Bytes) : Routine Result :=
  withLock .session do
    match ← ask (.findSession sessionId .use) with
    | none => return .thrown (bytes "Session not found")
    | some entry =>
    match shellQuoteArg remotePath with
    | .error quoteError => return .thrown quoteError
    | .ok quotedPath =>
    match ← ask (.channelOpenSession entry.session) with
    | none => return .thrown (bytes "Failed to open channel")
    | some number => do
        let channel : Channel := { session := entry.session, number }
        if (← ask (.channelExec channel (cStr (downloadCommand quotedPath)))) ≠ 0 then
          let _ ← ask (.channelFree channel)
          return .thrown (bytes "Failed to execute cat command")
        let text ← drain (.channelRead channel 8192) ReadResult.awaited []
        let _ ← ask (.channelClose channel)
        let _ ← ask (.channelFree channel)
        return createString text

-- The write loop: how much was written, none for an error.
def writeAll (channel : Channel) (content : Bytes) : Routine (Option Nat) :=
  if content.length = 0 then return some 0
  else
    .loop 0 (fun totalWritten => .channelWrite channel (content.drop totalWritten))
      (fun totalWritten written =>
        if written > 0 then
          (if totalWritten + written.toNat < content.length then some (totalWritten + written.toNat) else none)
        else if written = LIBSSH2_ERROR_EAGAIN then some totalWritten
        else none)
      (fun totalWritten written => .done (if written > 0 then some (totalWritten + written.toNat) else none))

def uploadFile (sessionId : Int) (remotePath content : Bytes) : Routine Result :=
  withLock .session do
    match ← ask (.findSession sessionId .use) with
    | none => return .thrown (bytes "Session not found")
    | some entry =>
    match shellQuoteArg remotePath with
    | .error quoteError => return .thrown quoteError
    | .ok quotedPath =>
    match ← ask (.channelOpenSession entry.session) with
    | none => return .thrown (bytes "Failed to open channel")
    | some number => do
        let channel : Channel := { session := entry.session, number }
        if (← ask (.channelExec channel (cStr (uploadCommand quotedPath)))) ≠ 0 then
          let _ ← ask (.channelFree channel)
          return .thrown (bytes "Failed to execute cat command")
        match ← writeAll channel content with
        | none => do
            let _ ← ask (.channelFree channel)
            return .thrown (bytes "Failed to write file content")
        | some totalWritten => do
            let _ ← ask (.channelSendEof channel)
            let _ ← ask (.channelClose channel)
            let _ ← ask (.channelFree channel)
            return .int32 (Int.bmod totalWritten 0x100000000)

inductive Operation where
  | openSession (host : Bytes) (port : Int) (user pass : Bytes)
  | openSessionAsync (host : Bytes) (port : Int) (user pass : Bytes)
  | executeOpenSessionAsync (data : OpenSessionAsyncData)
  | completeOpenSessionAsync (statusOk : Bool) (data : OpenSessionAsyncData) (sessionId : Int)
  | closeSession (sessionId : Int)
  | setKeepaliveConfig (interval attempts : Int)
  | sendKeepalive (sessionId : Int)
  | write (sessionId : Int) (data : Bytes)
  | read (sessionId : Int)
  | executeCommand (sessionId : Int) (command : Bytes)
  | downloadFile (sessionId : Int) (remotePath : Bytes)
  | uploadFile (sessionId : Int) (remotePath content : Bytes)
deriving DecidableEq, Repr

def Operation.program : Operation → Routine Result
  | .openSession host port user pass => Native.openSession host port user pass
  | .openSessionAsync host port user pass => Native.openSessionAsync host port user pass
  | .executeOpenSessionAsync data => Native.executeOpenSessionAsync data
  | .completeOpenSessionAsync statusOk data sessionId => Native.completeOpenSessionAsync statusOk data sessionId
  | .closeSession sessionId => Native.closeSession sessionId
  | .setKeepaliveConfig interval attempts => Native.setKeepaliveConfig interval attempts
  | .sendKeepalive sessionId => Native.sendKeepalive sessionId
  | .write sessionId data => Native.write sessionId data
  | .read sessionId => Native.read sessionId
  | .executeCommand sessionId command => Native.executeCommand sessionId command
  | .downloadFile sessionId remotePath => Native.downloadFile sessionId remotePath
  | .uploadFile sessionId remotePath content => Native.uploadFile sessionId remotePath content

end Kessh.Native
