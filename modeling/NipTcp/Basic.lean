/-
  NipTcp.Basic — the shared vocabulary of the NewIP TCP model.

  Sequence numbers of `tcp_nip.h` are `u32` and every operation on them
  wraps.  They are modelled as `Nat` with the wrap written out:
  `seqAdd a b = (a + b) mod 2^32`, `seqSub a b = (a - b) mod 2^32`, and
  the kernel's `before(seq1, seq2)` — `(s32)(seq1 - seq2) < 0` — as
  `2^31 ≤ seqSub seq1 seq2`.  All three are plain arithmetic, so `omega`
  closes their goals once they are unfolded.

  The socket states are the kernel's `TCP_*` states; the `(1 << state) &
  (TCPF_A | TCPF_B | …)` idiom of the source is membership in a list of
  states.
-/
import Mathlib

namespace NipTcp

/-! ## §1. `u32` sequence arithmetic. -/

/-- `a + b` on `u32`. -/
def seqAdd (a b : Nat) : Nat := (a + b) % 2 ^ 32

/-- `a - b` on `u32`. -/
def seqSub (a b : Nat) : Nat := (a % 2 ^ 32 + (2 ^ 32 - b % 2 ^ 32)) % 2 ^ 32

/-- The kernel's `before(seq1, seq2)`: `seq1` comes strictly before `seq2`
in the circular sequence space, `(s32)(seq1 - seq2) < 0`. -/
def before (seq1 seq2 : Nat) : Bool := decide (2 ^ 31 ≤ seqSub seq1 seq2)

theorem seqAdd_lt (a b : Nat) : seqAdd a b < 2 ^ 32 := Nat.mod_lt _ (by decide)

theorem seqAdd_assoc (a b c : Nat) : seqAdd (seqAdd a b) c = seqAdd a (b + c) := by
  unfold seqAdd; omega

/-- Advancing `seq1` by `n` advances its distance from `seq2` by `n`, as long
as the distance stays inside the `u32` range. -/
theorem seqSub_seqAdd (a b n : Nat) (h : seqSub a b + n < 2 ^ 32) :
    seqSub (seqAdd a n) b = seqSub a b + n := by
  unfold seqSub seqAdd at *; omega

/-! ## §2. Socket states. -/

/-- The TCP states a NewIP socket moves through (`include/net/tcp_states.h`). -/
inductive TcpState where
  | established | synSent | synRecv | finWait1 | finWait2 | timeWait
  | close | closeWait | lastAck | listen | closing | newSynRecv
  deriving Repr, DecidableEq

/-! ## §3. Error numbers. -/

/-- The `errno` values the modelled functions return, negated, as `int`. -/
def EINTR : Int := 4
def EAGAIN : Int := 11
def ENOMEM : Int := 12
def EFAULT : Int := 14
def EINVAL : Int := 22
def EPIPE : Int := 32
def EAFNOSUPPORT : Int := 97
def EADDRNOTAVAIL : Int := 99
def ECONNRESET : Int := 104
def ENOTCONN : Int := 107
def ERESTARTSYS : Int := 512

/-! ## §4. Configuration. -/

/-- The module parameters of `tcp_nip_parameter.h` (not among the sources)
that the modelled functions read, and the kernel's `HZ`. -/
structure NipParams where
  /-- `g_ack_num`: the ACK-every-so-many-segments threshold. -/
  ackNum : Nat
  /-- `g_nip_keepalive_time`: idle-profile keepalive time for long packets. -/
  keepaliveTime : Nat
  /-- `g_nip_keepalive_time_short_pkt`: the same for short packets. -/
  keepaliveTimeShortPkt : Nat
  /-- `g_nip_keepalive_intvl`: idle-profile probe interval. -/
  keepaliveIntvl : Nat
  /-- `g_nip_idle_ka_probes_out`: unanswered probes before the profile is left. -/
  idleKaProbesOut : Nat
  /-- `HZ`. -/
  hz : Nat
  deriving Repr, DecidableEq

end NipTcp
