import Kessh.Lib.Interaction
import Kessh.Lib.Utf8

set_option autoImplicit false

-- What the native module asks of its surroundings: the C library, libssh2, N-API, and the
-- state that its operations share.
namespace Kessh.Native

open Utf8 (Bytes)

def bytes (text : String) : Bytes := Utf8.encode text.toList

-- What a C function sees of c_str().
def cStr (text : Bytes) : Bytes := text.takeWhile (· != 0)

inductive Mutex where
  | session
  | init
  | keepaliveConfig
deriving DecidableEq, Repr

-- Descriptors and pointers are named by the call that returned them: a number that the
-- system hands out again after a close is a new handle here. A channel knows its session.
structure Channel where
  session : Nat
  number : Nat
deriving DecidableEq, Repr

structure KesshSession where
  session : Nat
  channel : Channel
  sock : Nat
  keepaliveFailures : Int
  nested : channel.session = session
deriving DecidableEq, Repr

def KesshSession.opened (session number sock : Nat) : KesshSession :=
  { session, channel := { session, number }, sock, keepaliveFailures := 0, nested := rfl }

structure Address where
  family : Int
  socktype : Int
  protocol : Int
  addr : Bytes
deriving DecidableEq, Repr

structure AddressList where
  handle : Nat
  addresses : List Address
deriving DecidableEq, Repr

-- An error number with the text strerror has for it.
structure Errno where
  code : Nat
  text : Bytes
deriving DecidableEq, Repr

def EINTR : Nat := 4
def EISCONN : Nat := 106
def ETIMEDOUT : Nat := 110
def EINPROGRESS : Nat := 115

def LIBSSH2_ERROR_EAGAIN : Int := -37

inductive ReadResult where
  | bytes (data : Bytes)
  | eof
  | error (code : Int)
deriving DecidableEq, Repr

structure OpenSessionAsyncData where
  deferred : Nat
  host : Bytes
  port : Int
  user : Bytes
  pass : Bytes
deriving DecidableEq, Repr

-- Ghost: whether an operation only uses the entry it finds or takes it over to close it.
inductive Purpose where
  | use
  | close
deriving DecidableEq, Repr

inductive Call where
  | lock (mutex : Mutex)
  | unlock (mutex : Mutex)
  | libssh2Initialized
  | setLibssh2Initialized
  | keepaliveIntervalSeconds
  | setKeepaliveConfig (interval attempts : Int)
  | findSession (sessionId : Int) (purpose : Purpose)
  | insertSession (entry : KesshSession)
  | eraseSession (sessionId : Int)
  | setKeepaliveFailures (sessionId : Int) (failures : Int)
  | getaddrinfo (host port : Bytes)
  | freeaddrinfo (list : Nat)
  | socket (address : Address)
  | setSocketTimeouts (sock : Nat) (timeoutSeconds : Nat)
  | connect (sock : Nat) (address : Address)
  | close (sock : Nat)
  | libssh2Init
  | sessionInit
  | sessionSetTimeout (session : Nat) (milliseconds : Nat)
  | sessionHandshake (session sock : Nat)
  | sessionLastError (session : Nat)
  | keepaliveConfig (session : Nat) (interval : Int)
  | keepaliveSend (session : Nat)
  | userauthPassword (session : Nat) (user pass : Bytes)
  | sessionDisconnect (session : Nat) (reason : Bytes)
  | sessionFree (session : Nat)
  | channelOpenSession (session : Nat)
  | channelRequestPty (channel : Channel) (term : Bytes)
  | channelShell (channel : Channel)
  | channelExec (channel : Channel) (command : Bytes)
  | channelSetBlocking (channel : Channel) (blocking : Bool)
  | channelRead (channel : Channel) (size : Nat)
  | channelReadStderr (channel : Channel) (size : Nat)
  | channelWrite (channel : Channel) (buffer : Bytes)
  | channelSendEof (channel : Channel)
  | channelClose (channel : Channel)
  | channelFree (channel : Channel)
  | createPromise
  | createAsyncWork (data : OpenSessionAsyncData)
  | queueAsyncWork (data : OpenSessionAsyncData)
  | deleteAsyncWork
  | resolveDeferred (deferred : Nat) (value : Int)
deriving DecidableEq, Repr

-- Handles that are acquired come back as numbers; none is a null pointer or -1.
@[reducible] def Reply : Call → Type
  | .libssh2Initialized => Bool
  | .keepaliveIntervalSeconds => Int
  | .findSession _ _ => Option KesshSession
  | .insertSession _ => Int
  | .getaddrinfo _ _ => Except Bytes AddressList
  | .socket _ => Except Errno Nat
  | .setSocketTimeouts _ _ => Bool
  | .connect _ _ => Option Errno
  | .libssh2Init => Int
  | .sessionInit => Option Nat
  | .sessionHandshake _ _ => Int
  | .sessionLastError _ => Bytes
  | .keepaliveSend _ => Int
  | .userauthPassword _ _ _ => Int
  | .sessionDisconnect _ _ => Int
  | .sessionFree _ => Int
  | .channelOpenSession _ => Option Nat
  | .channelRequestPty _ _ => Int
  | .channelShell _ => Int
  | .channelExec _ _ => Int
  | .channelRead _ _ => ReadResult
  | .channelReadStderr _ _ => ReadResult
  | .channelWrite _ _ => Int
  | .channelSendEof _ => Int
  | .channelClose _ => Int
  | .channelFree _ => Int
  | .createPromise => Nat
  | .createAsyncWork _ => Bool
  | .queueAsyncWork _ => Bool
  | _ => Unit

abbrev Routine (α : Type) := Interaction.Program Call Reply α

def ask (call : Call) : Routine (Reply call) := Interaction.Program.ask call

-- std::lock_guard: the mutex is released wherever the scope is left.
def withLock {α : Type} (mutex : Mutex) (scope : Routine α) : Routine α := do
  ask (.lock mutex)
  let value ← scope
  ask (.unlock mutex)
  return value

end Kessh.Native
