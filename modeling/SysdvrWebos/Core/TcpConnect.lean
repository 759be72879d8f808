/-
Module: SysdvrWebos.Core.TcpConnect
Layer: Core
Purpose: Connecting with a deadline (src/net.c, connect_one_timeout, sysdvr_tcp_connect_timeout and
  sysdvr_tcp_connect) over the descriptors the kernel keeps. What the kernel answers comes from outside; what
  the calls do to descriptors, `errno` and the time is modelled. The socket options, whose failure is
  ignored, are left out.
Trusted boundary: closing an open descriptor succeeds and leaves `errno` alone; `select` keeps its timeout
Main exports: Errno, SocketDescriptor, Kernel, ConnectAnswers, connectOneTimeout, AddressAnswers,
  sysdvrTcpConnectTimeout
Open obligations: none
-/
import SysdvrWebos.Lib.Handles

namespace SysdvrWebos

/-- An error number, as far as the code tells them apart; `wouldBlock` is also EAGAIN. -/
inductive Errno where
  | inProgress
  | wouldBlock
  | timedOut
  | other (code : Nat)
deriving Repr, DecidableEq

/-- `O_NONBLOCK`. -/
def oNonblock : UInt32 := 0x800

/-- A socket as the kernel keeps it: its status flags, and whether it is connected. -/
structure SocketDescriptor where
  flags : UInt32
  connected : Bool
deriving Repr, DecidableEq

/-- The open descriptors, `errno` of the calling thread, and the time its waits have taken. -/
structure Kernel where
  table : Handles.Table SocketDescriptor
  errno : Option Errno
  waitedMs : Nat

namespace Kernel

/-- A call fails. -/
def fail (k : Kernel) (e : Errno) : Kernel := { k with errno := some e }

/-- `fcntl(fd, F_SETFL, flags)`, which may fail. -/
def setFlags (k : Kernel) (fd : Nat) (flags : UInt32) : Option Errno → Bool × Kernel
  | some e => (false, k.fail e)
  | none => (true, { k with table := Handles.adjust k.table fd fun d => { d with flags := flags } })

/-- The kernel has connected the socket. -/
def establish (k : Kernel) (fd : Nat) : Kernel :=
  { k with table := Handles.adjust k.table fd fun d => { d with connected := true } }

def wait (k : Kernel) (ms : Nat) : Kernel := { k with waitedMs := k.waitedMs + ms }

/-- `socket`; `none` if the kernel hands out what is in use. -/
def socket (k : Kernel) (fd : Nat) (flags : UInt32) : Option Kernel :=
  (Handles.acquire k.table fd ⟨flags, false⟩).map fun table => { k with table := table }

/-- `close`; `none` if the descriptor is not open. -/
def close (k : Kernel) (fd : Nat) : Option Kernel :=
  (Handles.release k.table fd).map fun table => { k with table := table }

/-- The flags of an open descriptor. -/
def flagsOf (k : Kernel) (fd : Nat) : UInt32 := (k.table fd).elim 0 SocketDescriptor.flags

end Kernel

/-! ### One address -/

/-- What `select` answers, and after what time. -/
inductive SelectAnswer where
  | ready (afterMs : Nat)
  | timedOut
  | failed (e : Errno) (afterMs : Nat)
deriving Repr, DecidableEq

/-- What SO_ERROR reads: the call fails, or it brings an error or none. -/
inductive SoError where
  | unreadable (e : Errno)
  | error (e : Errno)
  | none
deriving Repr, DecidableEq

/-- What the calls of `connect_one_timeout` answer; a missing error stands for success. -/
structure ConnectAnswers where
  getFlags : Option Errno
  setFlags : Option Errno
  connect : Option Errno
  select : SelectAnswer
  soError : SoError
  restoreFlags : Option Errno
deriving Repr, DecidableEq

/-- `connect` has begun and goes on in the background. -/
def Errno.isPending (e : Errno) : Bool := e = .inProgress || e = .wouldBlock

/-- A failure behind which the flags are put back, whether that succeeds or not. -/
def giveUpConnect (k : Kernel) (fd : Nat) (oldFlags : UInt32) (a : ConnectAnswers) (e : Errno) :
    Bool × Kernel :=
  (false, ((k.fail e).setFlags fd oldFlags a.restoreFlags).2)

/-- The socket is connected; it counts only once its flags are put back. -/
def finishConnect (k : Kernel) (fd : Nat) (oldFlags : UInt32) (a : ConnectAnswers) : Bool × Kernel :=
  (k.establish fd).setFlags fd oldFlags a.restoreFlags

/-- `connect_one_timeout`: whether it returns 0, and the kernel behind it. -/
def connectOneTimeout (k : Kernel) (fd timeoutMs : Nat) (a : ConnectAnswers) : Bool × Kernel :=
  match a.getFlags with
  | some e => (false, k.fail e)
  | none =>
      let oldFlags := k.flagsOf fd
      match k.setFlags fd (oldFlags ||| oNonblock) a.setFlags with
      | (false, k) => (false, k)
      | (true, k) =>
          match a.connect with
          | none => finishConnect k fd oldFlags a
          | some e =>
              if !e.isPending then
                giveUpConnect k fd oldFlags a e
              else
                match a.select with
                | .timedOut => giveUpConnect ((k.fail e).wait timeoutMs) fd oldFlags a .timedOut
                | .failed e' afterMs =>
                    giveUpConnect ((k.fail e).wait (min afterMs timeoutMs)) fd oldFlags a e'
                | .ready afterMs =>
                    let k := (k.fail e).wait (min afterMs timeoutMs)
                    match a.soError with
                    | .unreadable e' => giveUpConnect k fd oldFlags a e'
                    | .error e' => giveUpConnect k fd oldFlags a e'
                    | .none => finishConnect k fd oldFlags a

/-! ### All addresses -/

/-- What the calls for one address answer: `socket` brings a descriptor with its flags or an error. -/
structure AddressAnswers where
  socket : Except Errno (Nat × UInt32)
  connect : ConnectAnswers
deriving DecidableEq

/-- The loop over the addresses: the descriptor it leaves, `last_errno` and the kernel. -/
def connectLoop (timeoutMs : Nat) :
    List AddressAnswers → Kernel → Option Errno → Option (Option Nat × Option Errno × Kernel)
  | [], k, lastErrno => some (none, lastErrno, k)
  | a :: addresses, k, lastErrno =>
      match a.socket with
      | .error e => connectLoop timeoutMs addresses (k.fail e) lastErrno
      | .ok (fd, flags) =>
          (k.socket fd flags).bind fun k =>
            match connectOneTimeout k fd timeoutMs a.connect with
            | (true, k) => some (some fd, lastErrno, k)
            | (false, k) => (k.close fd).bind fun closed =>
                connectLoop timeoutMs addresses closed k.errno

/-- The timeout in force. -/
def connectTimeout (timeoutMs : Int) : Nat := if timeoutMs ≤ 0 then 5000 else timeoutMs.toNat

/-- `sysdvr_tcp_connect_timeout`, with the addresses that `getaddrinfo` brings, if any: the descriptor or -1. -/
def sysdvrTcpConnectTimeout (k : Kernel) (timeoutMs : Int) (gai : Option (List AddressAnswers)) :
    Option (Option Nat × Kernel) :=
  match gai with
  | none => some (none, k)
  | some addresses =>
      (connectLoop (connectTimeout timeoutMs) addresses k none).map fun (fd, lastErrno, k) =>
        match fd, lastErrno with
        | none, some e => (none, k.fail e)
        | fd, _ => (fd, k)

/-- `sysdvr_tcp_connect`. -/
def sysdvrTcpConnect (k : Kernel) (gai : Option (List AddressAnswers)) : Option (Option Nat × Kernel) :=
  sysdvrTcpConnectTimeout k 5000 gai

end SysdvrWebos
