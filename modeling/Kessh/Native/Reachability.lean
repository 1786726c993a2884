import Kessh.Lib.Ending
import Kessh.Native.Diagnostics
import Kessh.Native.Traces

set_option autoImplicit false

-- The three ways to find out whether a host answers on a port, in a network that does not change.
namespace Kessh.Native

open Utf8 (Bytes)
open Interaction

-- What socket and connect do for an address, known by its family and its bytes. A name is resolved to at
-- least one address, or not at all, and no call is interrupted.
structure Network where
  resolve : Bytes → Bytes → Except Bytes (List Address)
  socketFails : Int → Bytes → Option Errno
  connectFails : Int → Bytes → Option Errno
  resolved : ∀ host port addresses, resolve host port = .ok addresses → addresses ≠ []
  uninterrupted : ∀ family addr errno, connectFails family addr = some errno → errno.code ≠ EINTR

namespace Network

variable (network : Network)

def allows : Exchange → Prop
  | ⟨.getaddrinfo host port, reply⟩ => Except.map AddressList.addresses reply = network.resolve host port
  | ⟨.socket address, reply⟩ =>
      match network.socketFails address.family address.addr with
      | some errno => reply = .error errno
      | none => ∃ sock, reply = .ok sock
  | ⟨.connect _ address, reply⟩ => reply = network.connectFails address.family address.addr
  | _ => True

def allowsProbe : Interaction.Event ProbeCall ProbeReply → Prop
  | ⟨.native call, reply⟩ => network.allows ⟨call, reply⟩
  | _ => True

def works (address : Address) : Bool :=
  (network.socketFails address.family address.addr).isNone &&
    isConnected (network.connectFails address.family address.addr)

theorem socket_replies (address : Address) :
    (∃ errno, network.works address = false ∧
        ∀ reply, network.allows ⟨.socket address, reply⟩ ↔ reply = .error errno) ∨
      network.works address = isConnected (network.connectFails address.family address.addr) ∧
        ∀ reply, network.allows ⟨.socket address, reply⟩ ↔ ∃ sock, reply = .ok sock := by
  unfold works
  cases made : network.socketFails address.family address.addr with
  | some errno => exact .inl ⟨errno, rfl, fun _ => by simp only [allows, made]⟩
  | none => exact .inr ⟨rfl, fun _ => by simp only [allows, made]⟩

theorem connectAttempts_ends (sock : Nat) (address : Address) (retries : Nat) :
    Terminates network.allows
      (fun result => result.isNone = isConnected (network.connectFails address.family address.addr))
      (connectAttempts sock address retries) := by
  unfold connectAttempts
  simp only [ask, Program.bind_eq, Program.ask_bind]
  refine .call _ _ ⟨_, rfl⟩ fun reply same => ?_
  obtain rfl : reply = network.connectFails address.family address.addr := same
  cases failed : network.connectFails address.family address.addr with
  | none => exact .done _ rfl
  | some errno =>
      have interrupted := network.uninterrupted _ _ errno failed
      dsimp only
      by_cases connected : errno.code = EISCONN
      · rw [if_pos connected]
        exact .done _ (by simp [isConnected, connected])
      · rw [if_neg connected]
        cases retries with
        | zero => exact .done _ (by simp [isConnected, connected])
        | succ more =>
            dsimp only
            rw [if_neg interrupted]
            exact .done _ (by simp [isConnected, connected])

theorem connectAny_ends (list : Nat) (addresses : List Address) (lastError : Option Errno) :
    Terminates network.allows (fun result => result.isOk = addresses.any network.works)
      (connectAny list addresses lastError) := by
  induction addresses generalizing lastError with
  | nil =>
      unfold connectAny
      exact .call _ _ ⟨(), trivial⟩ fun _ _ => .done _ rfl
  | cons address rest ih =>
      unfold connectAny
      simp only [ask, Program.bind_eq, Program.ask_bind]
      rw [List.any_cons]
      rcases network.socket_replies address with ⟨errno, fails, failing⟩ | ⟨works, making⟩
      · refine .call _ _ ⟨_, (failing _).mpr rfl⟩ fun reply same => ?_
        obtain rfl := (failing reply).mp same
        rw [fails, Bool.false_or]
        exact ih _
      · refine .call _ _ ⟨.ok 0, (making _).mpr ⟨0, rfl⟩⟩ fun reply same => ?_
        obtain ⟨sock, rfl⟩ := (making reply).mp same
        refine .call _ _ ⟨true, trivial⟩ fun _ _ => ?_
        refine terminates_bind _ _ _ _ _ (network.connectAttempts_ends sock address 2) fun result connected => ?_
        rw [works, ← connected]
        cases result with
        | none => exact .call _ _ ⟨(), trivial⟩ fun _ _ => .done _ rfl
        | some errno => exact .call _ _ ⟨(), trivial⟩ fun _ _ => ih _

theorem testAddresses_ends (timeoutMs : Int) (addresses : List Address) (errorCode : Option Errno) :
    Terminates network.allowsProbe (fun result => result.1 = addresses.any network.works)
      (testAddresses timeoutMs addresses errorCode) := by
  induction addresses generalizing errorCode with
  | nil =>
      unfold testAddresses
      exact .done _ rfl
  | cons address rest ih =>
      unfold testAddresses
      simp only [probe, Program.bind_eq, Program.ask_bind]
      rw [List.any_cons]
      rcases network.socket_replies address with ⟨errno, fails, failing⟩ | ⟨works, making⟩
      · refine .call _ _ ⟨_, (failing _).mpr rfl⟩ fun reply same => ?_
        obtain rfl := (failing reply).mp same
        rw [fails, Bool.false_or]
        exact ih _
      · refine .call _ _ ⟨.ok 0, (making _).mpr ⟨0, rfl⟩⟩ fun reply same => ?_
        obtain ⟨sock, rfl⟩ := (making reply).mp same
        refine .call _ _ ⟨(), trivial⟩ fun _ _ => ?_
        refine .call _ _ ⟨_, rfl⟩ fun reply same => ?_
        obtain rfl : reply = network.connectFails address.family address.addr := same
        refine .call _ _ ⟨(), trivial⟩ fun _ _ => ?_
        rw [works]
        cases isConnected (network.connectFails address.family address.addr) with
        | true => exact .done _ rfl
        | false => exact ih _

variable (fixed : (decimals : Nat) → (numerator denominator : Int) → Bytes)

theorem pingAttempt_ends (host : Bytes) (first : Address) (pause : Bool) (ping : Ping) :
    Terminates network.allowsProbe
      (fun after => after.success = ping.success + if network.works first then 1 else 0)
      (pingAttempt fixed host first pause ping) := by
  unfold pingAttempt
  simp only [probe, Program.bind_eq, Program.ask_bind]
  rcases network.socket_replies { first with socktype := SOCK_STREAM, protocol := 0 } with ⟨errno, fails, failing⟩ | ⟨works, making⟩
  · refine .call _ _ ⟨_, (failing _).mpr rfl⟩ fun reply same => ?_
    obtain rfl := (failing reply).mp same
    rw [show network.works first = false from fails]
    exact .done _ rfl
  · refine .call _ _ ⟨.ok 0, (making _).mpr ⟨0, rfl⟩⟩ fun reply same => ?_
    obtain ⟨sock, rfl⟩ := (making reply).mp same
    refine .call _ _ ⟨(), trivial⟩ fun _ _ => ?_
    refine .call _ _ ⟨(0 : Int), trivial⟩ fun start _ => ?_
    refine .call _ _ ⟨_, rfl⟩ fun reply same => ?_
    obtain rfl : reply = network.connectFails first.family first.addr := same
    refine .call _ _ ⟨(0 : Int), trivial⟩ fun finish _ => ?_
    refine .call _ _ ⟨(), trivial⟩ fun _ _ => ?_
    rw [show network.works first = isConnected (network.connectFails first.family first.addr) from works]
    cases isConnected (network.connectFails first.family first.addr) with
    | true =>
        cases pause with
        | true => exact .call _ _ ⟨(), trivial⟩ fun _ _ => .done _ rfl
        | false => exact .done _ rfl
    | false =>
        cases pause with
        | true => exact .call _ _ ⟨(), trivial⟩ fun _ _ => .done _ rfl
        | false => exact .done _ rfl

theorem pingRounds_ends (host : Bytes) (first : Address) (rounds : Nat) (ping : Ping) :
    Terminates network.allowsProbe
      (fun after => after.success = ping.success + if network.works first then rounds else 0)
      (pingRounds fixed host first rounds ping) := by
  induction rounds generalizing ping with
  | zero => exact .done _ (by simp)
  | succ more ih =>
      unfold pingRounds
      rw [Program.bind_eq]
      refine terminates_bind _ _ _ _ _ (network.pingAttempt_ends fixed host first _ ping) fun after one => ?_
      have others := ih after
      rw [one] at others
      cases works : network.works first with
      | true =>
          simp only [works, if_true] at others ⊢
          rwa [Nat.add_assoc, Nat.add_comm 1 more] at others
      | false =>
          simp only [works, Bool.false_eq_true, if_false] at others ⊢
          exact others

def addresses (host : Bytes) : List Address :=
  match network.resolve host (bytes "80") with
  | .ok addresses => addresses
  | .error _ => []

theorem resolution (host : Bytes) :
    (∃ reply, network.allows ⟨.getaddrinfo host (bytes "80"), reply⟩) ∧
      ∀ reply : Except Bytes AddressList, network.allows ⟨.getaddrinfo host (bytes "80"), reply⟩ →
        (∃ status, reply = .error status ∧ network.addresses host = []) ∨
          ∃ list, reply = .ok list ∧ list.addresses = network.addresses host ∧ network.addresses host ≠ [] := by
  have answer : ∀ reply : Except Bytes AddressList, network.allows ⟨.getaddrinfo host (bytes "80"), reply⟩ ↔
      Except.map AddressList.addresses reply = network.resolve host (bytes "80") := fun _ => Iff.rfl
  unfold addresses
  cases resolved : network.resolve host (bytes "80") with
  | error status =>
      refine ⟨⟨.error status, (answer _).mpr resolved.symm⟩, fun reply same => .inl ?_⟩
      have mapped := (answer reply).mp same
      rw [resolved] at mapped
      cases reply with
      | error other => exact ⟨other, rfl, rfl⟩
      | ok list => cases mapped
  | ok found =>
      refine ⟨⟨.ok { handle := 0, addresses := found }, (answer _).mpr resolved.symm⟩, fun reply same => .inr ?_⟩
      have mapped := (answer reply).mp same
      rw [resolved] at mapped
      cases reply with
      | error other => cases mapped
      | ok list => exact ⟨list, rfl, Except.ok.inj mapped, network.resolved _ _ _ resolved⟩

theorem connectTcpSocket_ends (host : Bytes) (accepted : isValidHost host = true) :
    Terminates network.allows (fun result => result.isOk = (network.addresses host).any network.works)
      (connectTcpSocket host 80) := by
  obtain ⟨answered, replies⟩ := network.resolution host
  unfold connectTcpSocket
  rw [accepted, if_neg (by decide), if_neg (by decide), show toString 80 = bytes "80" by decide]
  simp only [ask, Program.bind_eq, Program.ask_bind]
  refine .call _ _ answered fun reply fits => ?_
  rcases replies reply fits with ⟨status, rfl, none⟩ | ⟨list, rfl, same, _⟩
  · rw [none]
    exact .done _ rfl
  · rw [← same]
    refine terminates_bind _ _ _ _ _ (network.connectAny_ends list.handle list.addresses none) fun result found => ?_
    rw [← found]
    cases result with
    | ok sock => exact .done _ rfl
    | error lastError => exact .done _ rfl

end Network

-- Whether the answer says that the port is open, and how many replies it counts.
def Diagnosis.isOpen : Diagnosis PortTest → Bool
  | .returned test => test.connected
  | _ => false

def Diagnosis.replies : Diagnosis Ping → Nat
  | .returned ping => ping.success
  | _ => 0

namespace Network

variable (network : Network)

theorem testPort_ends (host : Bytes) (accepted : isValidHost host = true) (timeoutMs : Option Int) :
    Terminates network.allowsProbe (fun result => result.isOpen = (network.addresses host).any network.works)
      (testPort host 80 timeoutMs) := by
  obtain ⟨answered, replies⟩ := network.resolution host
  unfold testPort
  rw [accepted, if_neg (by decide), if_neg (by decide), show toString 80 = bytes "80" by decide]
  simp only [probe, Program.bind_eq, Program.ask_bind]
  refine .call _ _ answered fun reply fits => ?_
  rcases replies reply fits with ⟨status, rfl, none⟩ | ⟨list, rfl, same, _⟩
  · rw [none]
    exact .done _ rfl
  · rw [← same]
    refine .call _ _ ⟨(0 : Int), trivial⟩ fun start _ => ?_
    refine terminates_bind _ _ _ _ _ (network.testAddresses_ends _ list.addresses none) fun result found => ?_
    refine .call _ _ ⟨(), trivial⟩ fun _ _ => ?_
    exact .call _ _ ⟨(0 : Int), trivial⟩ fun finish _ => .done _ found

theorem pingHost_ends (fixed : (decimals : Nat) → (numerator denominator : Int) → Bytes) (host : Bytes)
    (accepted : isValidHost host = true) (count : Option Int) :
    Terminates network.allowsProbe
      (fun result => result.replies = if (network.addresses host).head?.any network.works then pingCount count else 0)
      (pingHost fixed host count) := by
  obtain ⟨answered, replies⟩ := network.resolution host
  unfold pingHost
  simp only [accepted, Bool.not_true, Bool.false_eq_true, if_false, probe, Program.bind_eq, Program.ask_bind]
  refine .call _ _ answered fun reply fits => ?_
  rcases replies reply fits with ⟨status, rfl, none⟩ | ⟨list, rfl, same, some⟩
  · rw [none]
    exact .done _ rfl
  · rw [← same] at some ⊢
    cases found : list.addresses with
    | nil => exact absurd found some
    | cons first rest =>
        simp only [found]
        refine terminates_bind _ _ _ _ _ (network.pingRounds_ends fixed host first _ _) fun ping success => ?_
        exact .call _ _ ⟨(), trivial⟩ fun _ _ => .done _ (success.trans (Nat.zero_add _))

theorem pingCount_pos (count : Option Int) : 1 ≤ pingCount count := by
  unfold pingCount
  dsimp only
  split <;> split <;> omega

theorem head_works (host : Bytes) (head : (network.addresses host).head?.any network.works = true) :
    (network.addresses host).any network.works = true := by
  cases found : network.addresses host with
  | nil =>
      rw [found] at head
      cases head
  | cons first rest =>
      rw [found] at head
      rw [List.any_cons, Bool.or_eq_true]
      exact .inl head

theorem first_works (host : Bytes) :
    ((network.addresses host).any network.works = true → (network.addresses host).head?.any network.works = true) ↔
      (∀ address ∈ network.addresses host, network.works address = false) ∨
        ∃ first ∈ (network.addresses host).head?, network.works first = true := by
  rw [Option.any_eq_true, List.any_eq_true]
  constructor
  · intro follows
    by_cases any : ∃ address ∈ network.addresses host, network.works address = true
    · exact .inr (follows any)
    · exact .inl fun address member => by
        by_contra works
        exact any ⟨address, member, by simpa using works⟩
  · rintro (none | head) ⟨address, member, works⟩
    · rw [none address member] at works
      cases works
    · exact head

/-- Each of the three ends, and on an accepted host they agree exactly when no address works or the first one does:
PingHost only tries the first. -/
theorem reachability_agrees_iff (fixed : (decimals : Nat) → (numerator denominator : Int) → Bytes) (host : Bytes)
    (accepted : isValidHost host = true) (count timeoutMs : Option Int) :
    ((∃ socket, Returns network.allows (connectTcpSocket host 80) socket) ∧
        (∃ port, Returns network.allowsProbe (testPort host 80 timeoutMs) port) ∧
        ∃ ping, Returns network.allowsProbe (pingHost fixed host count) ping) ∧
      ((∀ socket port ping, Returns network.allows (connectTcpSocket host 80) socket →
          Returns network.allowsProbe (testPort host 80 timeoutMs) port →
          Returns network.allowsProbe (pingHost fixed host count) ping →
          (socket.isOk = true ↔ port.isOpen = true) ∧ (port.isOpen = true ↔ 1 ≤ ping.replies)) ↔
        (∀ address ∈ network.addresses host, network.works address = false) ∨
          ∃ first ∈ (network.addresses host).head?, network.works first = true) := by
  have connect := network.connectTcpSocket_ends host accepted
  have test := network.testPort_ends host accepted timeoutMs
  have ping := network.pingHost_ends fixed host accepted count
  obtain ⟨socket, connected⟩ := terminates_exists _ _ _ connect
  obtain ⟨port, tested⟩ := terminates_exists _ _ _ test
  obtain ⟨answer, pinged⟩ := terminates_exists _ _ _ ping
  have first := network.first_works host
  have positive := pingCount_pos count
  refine ⟨⟨⟨socket, connected⟩, ⟨port, tested⟩, answer, pinged⟩, ?_⟩
  rw [← first]
  constructor
  · intro agree any
    have replied := (agree socket port answer connected tested pinged).2.mp
      ((terminates_returns _ _ _ test port tested).trans any)
    rw [terminates_returns _ _ _ ping answer pinged] at replied
    by_contra none
    rw [if_neg none] at replied
    exact absurd replied (by decide)
  · intro works socket port answer connected tested pinged
    rw [terminates_returns _ _ _ connect socket connected, terminates_returns _ _ _ test port tested,
      terminates_returns _ _ _ ping answer pinged]
    refine ⟨Iff.rfl, fun any => ?_, fun replied => ?_⟩
    · rwa [if_pos (works any)]
    · by_contra none
      rw [if_neg fun head => none (network.head_works host head)] at replied
      exact absurd replied (by decide)

def loopback (last : UInt8) : Address := { family := 2, socktype := 1, protocol := 6, addr := [0, 80, 127, 0, 0, last] }

-- A network in which the address that ends with 1 refuses connections.
def refusing (addresses : List Address) (some : addresses ≠ []) : Network where
  resolve := fun _ _ => .ok addresses
  socketFails := fun _ _ => none
  connectFails := fun _ addr =>
    if addr = (loopback 1).addr then Option.some { code := 111, text := bytes "Connection refused" } else none
  resolved := fun _ _ found same => Except.ok.inj same ▸ some
  uninterrupted := fun _ _ errno same => by
    split at same
    · cases same
      decide
    · cases same

def plainText (_ : Nat) (numerator _ : Int) : Bytes := toString numerator

theorem reachability_agrees_live :
    ∃ socket port ping,
      Returns (refusing [loopback 2] (by decide)).allows (connectTcpSocket (bytes "a") 80) socket ∧
      Returns (refusing [loopback 2] (by decide)).allowsProbe (testPort (bytes "a") 80 none) port ∧
      Returns (refusing [loopback 2] (by decide)).allowsProbe (pingHost plainText (bytes "a") none) ping ∧
      (socket.isOk = true ↔ port.isOpen = true) ∧ (port.isOpen = true ↔ 1 ≤ ping.replies) := by
  obtain ⟨⟨⟨socket, connected⟩, ⟨port, tested⟩, ping, pinged⟩, agree⟩ :=
    (refusing [loopback 2] (by decide)).reachability_agrees_iff plainText (bytes "a") (by decide) none none
  exact ⟨socket, port, ping, connected, tested, pinged,
    agree.mpr (.inr ⟨loopback 2, rfl, by decide⟩) socket port ping connected tested pinged⟩

-- Behind an address that refuses there is one that works.
theorem reachability_differs :
    ¬ ∀ socket port ping,
      Returns (refusing [loopback 1, loopback 2] (by decide)).allows (connectTcpSocket (bytes "a") 80) socket →
      Returns (refusing [loopback 1, loopback 2] (by decide)).allowsProbe (testPort (bytes "a") 80 none) port →
      Returns (refusing [loopback 1, loopback 2] (by decide)).allowsProbe (pingHost plainText (bytes "a") none) ping →
      (socket.isOk = true ↔ port.isOpen = true) ∧ (port.isOpen = true ↔ 1 ≤ ping.replies) := by
  intro agree
  have connect := (refusing [loopback 1, loopback 2] (by decide)).connectTcpSocket_ends (bytes "a") (by decide)
  have test := (refusing [loopback 1, loopback 2] (by decide)).testPort_ends (bytes "a") (by decide) none
  have ping := (refusing [loopback 1, loopback 2] (by decide)).pingHost_ends plainText (bytes "a") (by decide) none
  obtain ⟨socket, connected⟩ := terminates_exists _ _ _ connect
  obtain ⟨port, tested⟩ := terminates_exists _ _ _ test
  obtain ⟨answer, pinged⟩ := terminates_exists _ _ _ ping
  have opens : port.isOpen = true := (terminates_returns _ _ _ test port tested).trans (by decide)
  have silent : answer.replies = 0 := (terminates_returns _ _ _ ping answer pinged).trans (by decide)
  have replied := (agree socket port answer connected tested pinged).2.mp opens
  rw [silent] at replied
  exact absurd replied (by decide)

end Network

end Kessh.Native
