import Kessh.Native.Calls

set_option autoImplicit false

namespace Kessh.Native

open Utf8 (Bytes)
open Interaction

-- isalnum in the C locale, '.', '-' and ':'.
def isHostByte (byte : UInt8) : Bool :=
  let b := byte.toNat
  (0x30 ≤ b && b ≤ 0x39) || (0x41 ≤ b && b ≤ 0x5A) || (0x61 ≤ b && b ≤ 0x7A) || b == 0x2E || b == 0x2D || b == 0x3A

def isValidHost (host : Bytes) : Bool := !host.isEmpty && host.all isHostByte

def toString (n : Int) : Bytes := bytes (ToString.toString n)

-- The value of the C++ functions that return -1 and fill in an error text.
abbrev Fallible (α : Type) := Except Bytes α

def ensureLibssh2Initialized : Routine (Fallible Unit) :=
  withLock .init do
    if ← ask .libssh2Initialized then return .ok ()
    let rc ← ask .libssh2Init
    if rc ≠ 0 then return .error (bytes "Failed to initialize libssh2")
    ask .setLibssh2Initialized
    return .ok ()

def lastSessionError (session : Nat) (fallback : String) : Routine Bytes := do
  let errmsg ← ask (.sessionLastError session)
  return if errmsg.isEmpty then bytes fallback else errmsg

-- The do-while around connect, at most three attempts: the errno it ends with, none for success.
def connectAttempts (sock : Nat) (address : Address) (retries : Nat) : Routine (Option Errno) := do
  match ← ask (.connect sock address) with
  | none => return none
  | some errno =>
      if errno.code = EISCONN then return none
      else
        match retries with
        | more + 1 => if errno.code = EINTR then connectAttempts sock address more else return some errno
        | 0 => return some errno

def connectAny (list : Nat) : List Address → Option Errno → Routine (Except (Option Errno) Nat)
  | [], lastError => do
      ask (.freeaddrinfo list)
      return .error lastError
  | address :: rest, _ => do
      match ← ask (.socket address) with
      | .error errno => connectAny list rest (some errno)
      | .ok sock =>
          let _ ← ask (.setSocketTimeouts sock 10)
          match ← connectAttempts sock address 2 with
          | none =>
              ask (.freeaddrinfo list)
              return .ok sock
          | some errno =>
              ask (.close sock)
              connectAny list rest (some errno)

def connectError : Option Errno → Bytes
  | none => bytes "Failed to connect"
  | some lastError =>
      if lastError.code = 0 then bytes "Failed to connect"
      else if lastError.code = EINPROGRESS ∨ lastError.code = ETIMEDOUT then
        bytes "Connection timeout: unable to reach server"
      else bytes "Failed to connect: " ++ lastError.text

def connectTcpSocket (host : Bytes) (port : Int) : Routine (Fallible Nat) := do
  if !isValidHost host then return .error (bytes "Invalid host")
  if port < 1 || port > 65535 then return .error (bytes "Invalid port")
  match ← ask (.getaddrinfo host (toString port)) with
  | .error status => return .error (bytes "Address resolution failed: " ++ status)
  | .ok addrResult =>
      match ← connectAny addrResult.handle addrResult.addresses none with
      | .ok sock => return .ok sock
      | .error lastError => return .error (connectError lastError)

def cleanupOpenFailure (session : Nat) (channel : Option Channel) (sock : Nat) (reason : Option String) :
    Routine Unit := do
  if let some channel := channel then
    let _ ← ask (.channelFree channel)
  if let some reason := reason then
    let _ ← ask (.sessionDisconnect session (bytes reason))
  let _ ← ask (.sessionFree session)
  ask (.close sock)

-- What is left of an open that fails once it has a session.
def openFailure (session : Nat) (channel : Option Channel) (sock : Nat) (reason : Option String) (fallback : String) :
    Routine (Fallible Int) := do
  let error ← lastSessionError session fallback
  cleanupOpenFailure session channel sock reason
  return .error error

-- The rest of an open, from authentication to the entry in the table.
def openShell (session sock : Nat) : Routine (Fallible Int) := do
  match ← ask (.channelOpenSession session) with
  | none => openFailure session none sock (some "Failed to open channel") "Failed to open channel"
  | some number => do
      let channel : Channel := { session, number }
      if (← ask (.channelRequestPty channel (bytes "vt100"))) ≠ 0 then
        return ← openFailure session (some channel) sock (some "Failed to request PTY") "Failed to request PTY"
      if (← ask (.channelShell channel)) ≠ 0 then
        return ← openFailure session (some channel) sock (some "Failed to start shell") "Failed to start shell"
      withLock .session do
        let sessionId ← ask (.insertSession (.opened session number sock))
        return .ok sessionId

def openSessionInternal (host : Bytes) (port : Int) (user pass : Bytes) : Routine (Fallible Int) := do
  if host.isEmpty then return .error (bytes "Host cannot be empty")
  if user.isEmpty then return .error (bytes "Username cannot be empty")
  match ← connectTcpSocket host port with
  | .error error => return .error error
  | .ok sock =>
  match ← ensureLibssh2Initialized with
  | .error error => do
      ask (.close sock)
      return .error error
  | .ok () =>
  match ← ask .sessionInit with
  | none => do
      ask (.close sock)
      return .error (bytes "Failed to create libssh2 session")
  | some session => do
      ask (.sessionSetTimeout session 5000)
      if (← ask (.sessionHandshake session sock)) ≠ 0 then
        return ← openFailure session none sock none "SSH handshake failed"
      let configuredKeepalive ← withLock .keepaliveConfig (ask .keepaliveIntervalSeconds)
      ask (.keepaliveConfig session (if configuredKeepalive > 0 then configuredKeepalive else 0))
      if (← ask (.userauthPassword session (cStr user) (cStr pass))) ≠ 0 then
        return ← openFailure session none sock (some "Authentication failed") "Authentication failed"
      openShell session sock

end Kessh.Native
