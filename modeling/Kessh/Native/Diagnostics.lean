import Kessh.Native.OpenSession

set_option autoImplicit false

-- PingHost and TestPort: whether a host answers, without a session.
namespace Kessh.Native

open Utf8 (Bytes)
open Interaction

-- What the two ask for besides: their own timeouts, the clock in nanoseconds, a pause.
-- The results of setsockopt are only logged.
inductive ProbeCall where
  | native (call : Call)
  | setTimeouts (sock : Nat) (seconds microseconds : Int)
  | steadyClock
  | usleep (microseconds : Nat)
deriving DecidableEq, Repr

@[reducible] def ProbeReply : ProbeCall → Type
  | .native call => Reply call
  | .steadyClock => Int
  | _ => Unit

abbrev Probe (α : Type) := Interaction.Program ProbeCall ProbeReply α

def probe (call : ProbeCall) : Probe (ProbeReply call) := Interaction.Program.ask call

-- A list without addresses is a null pointer, which PingHost would follow.
inductive Diagnosis (α : Type) where
  | thrown (message : Bytes)
  | crashed
  | returned (value : α)

def SOCK_STREAM : Int := 1

-- connect returned 0, or errno says that it was connected already.
def isConnected : Option Errno → Bool
  | none => true
  | some errno => errno.code == EISCONN

-- Times are in nanoseconds; they are shown in milliseconds.
structure Ping where
  stream : Bytes
  success : Nat := 0
  failed : Nat := 0
  totalTime : Int := 0
  minTime : Int := 999999000000
  maxTime : Int := 0

-- The text of a quotient in fixed notation, with a number of decimals.
variable (fixed : (decimals : Nat) → (numerator denominator : Int) → Bytes)

def milliseconds : Int := 1000000

def pingAttempt (host : Bytes) (first : Address) (pause : Bool) (ping : Ping) : Probe Ping := do
  match ← probe (.native (.socket { first with socktype := SOCK_STREAM, protocol := 0 })) with
  | .error _ => return { ping with stream := ping.stream ++ bytes "错误: 无法创建 socket\n", failed := ping.failed + 1 }
  | .ok sock =>
      probe (.setTimeouts sock 2 0)
      let start ← probe .steadyClock
      let connResult ← probe (.native (.connect sock first))
      let finish ← probe .steadyClock
      let duration := finish - start
      let ping :=
        if isConnected connResult then
          { stream := ping.stream ++ (bytes "Reply from " ++ host ++ bytes ": time=" ++ fixed 2 duration milliseconds ++
              bytes "ms\n")
            success := ping.success + 1
            failed := ping.failed
            totalTime := ping.totalTime + duration
            minTime := if duration < ping.minTime then duration else ping.minTime
            maxTime := if duration > ping.maxTime then duration else ping.maxTime }
        else { ping with stream := ping.stream ++ bytes "Request timeout\n", failed := ping.failed + 1 }
      probe (.native (.close sock))
      if pause then probe (.usleep 200000)
      return ping

-- Every attempt is on the first address.
def pingRounds (host : Bytes) (first : Address) : Nat → Ping → Probe Ping
  | 0, ping => return ping
  | more + 1, ping => do
      let ping ← pingAttempt fixed host first (more > 0) ping
      pingRounds host first more ping

def pingCount (count : Option Int) : Nat :=
  let count := count.getD 4
  let count := if count ≤ 0 then 4 else count
  (if count > 10 then 10 else count).toNat

def pingStatistics (host : Bytes) (count : Nat) (ping : Ping) : Bytes :=
  bytes "\n--- " ++ host ++ bytes " ping 统计 ---\n" ++ toString count ++ bytes " 个数据包已发送, " ++
    toString ping.success ++ bytes " 个已接收, " ++ toString ping.failed ++ bytes " 个丢失 (" ++
    fixed 1 (ping.failed * 100) count ++ bytes "% 丢包率)\n" ++
    if ping.success > 0 then
      bytes "往返时间(ms): 最小 = " ++ fixed 2 ping.minTime milliseconds ++ bytes ", 最大 = " ++
        fixed 2 ping.maxTime milliseconds ++ bytes ", 平均 = " ++
        fixed 2 ping.totalTime (ping.success * milliseconds) ++ bytes "\n"
    else []

def pingHost (host : Bytes) (count : Option Int) : Probe (Diagnosis Ping) := do
  if !isValidHost host then return .thrown (bytes "PingHost: invalid host")
  let stream := bytes "PING " ++ host ++ bytes "\n"
  match ← probe (.native (.getaddrinfo host (bytes "80"))) with
  | .error status => return .returned { stream := stream ++ bytes "DNS 解析失败: " ++ status ++ bytes "\n" }
  | .ok addrResult =>
      match addrResult.addresses with
      | [] => return .crashed
      | first :: _ => do
          let ping ← pingRounds fixed host first (pingCount count) { stream }
          probe (.native (.freeaddrinfo addrResult.handle))
          return .returned { ping with stream := ping.stream ++ pingStatistics fixed host (pingCount count) ping }

structure PortTest where
  connected : Bool
  message : Bytes

def portTimeout (timeoutMs : Option Int) : Int :=
  let timeoutMs := timeoutMs.getD 3000
  let timeoutMs := if timeoutMs < 1000 then 1000 else timeoutMs
  if timeoutMs > 15000 then 15000 else timeoutMs

def testAddresses (timeoutMs : Int) : List Address → Option Errno → Probe (Bool × Option Errno)
  | [], errorCode => return (false, errorCode)
  | address :: rest, errorCode => do
      match ← probe (.native (.socket address)) with
      | .error errno => testAddresses timeoutMs rest (some errno)
      | .ok sock =>
          probe (.setTimeouts sock (timeoutMs / 1000) (timeoutMs % 1000 * 1000))
          let connResult ← probe (.native (.connect sock address))
          probe (.native (.close sock))
          if isConnected connResult then return (true, errorCode)
          else testAddresses timeoutMs rest connResult

-- An error number of 0 stands for ECONNREFUSED.
def portError : Option Errno → Bytes
  | none => bytes "Connection refused"
  | some errorCode => if errorCode.code = 0 then bytes "Connection refused" else errorCode.text

def testPort (host : Bytes) (port : Int) (timeoutMs : Option Int) : Probe (Diagnosis PortTest) := do
  if !isValidHost host then return .thrown (bytes "TestPort: invalid host")
  if port ≤ 0 || port > 65535 then return .thrown (bytes "TestPort: invalid port")
  match ← probe (.native (.getaddrinfo host (toString port))) with
  | .error status => return .returned { connected := false, message := bytes "解析地址失败: " ++ status }
  | .ok addrResult =>
      let start ← probe .steadyClock
      let (connected, errorCode) ← testAddresses (portTimeout timeoutMs) addrResult.addresses none
      probe (.native (.freeaddrinfo addrResult.handle))
      let finish ← probe .steadyClock
      let duration := (finish - start).tdiv milliseconds
      let message :=
        if connected then bytes "端口开放，响应时间 " ++ toString duration ++ bytes " ms"
        else bytes "端口不可用: " ++ portError errorCode
      return .returned { connected, message }

end Kessh.Native
