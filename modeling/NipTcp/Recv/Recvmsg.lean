/-
  NipTcp.Recv.Recvmsg — `tcp_nip_recvmsg` and `tcp_nip_cleanup_rbuf`.

  The call is a `do { … } while (len_tmp > 0)` loop.  One pass of its body
  (`recvIter`) walks `sk_receive_queue` from the head (`walkQueue`) and then
  takes one of three exits of the source:

    * `found_ok_skb` — copy bytes from the segment found (`foundOkSkb`),
    * `found_fin_ok` — consume its FIN and stop (`foundFinOk`),
    * nothing found — stop with what has been copied, or with an error,
      or let the socket go and wait (`noData`).

  While the socket is released (`sk_wait_data`, or the `release_sock` /
  `lock_sock` pair that runs the backlog) the rest of the stack acts on it.
  That is an environment `RecvEnv`: its `wake` says what happened during
  the `k`-th release — segments queued at the tail, and the error,
  shutdown, state, backlog, timeout and signal fields as they now are — and
  its `fault` says whether the copy of pass `k` faults.  The loop runs on
  `fuel` passes; `none` is a call still running when the fuel is spent.

  Besides the socket and the return value, the loop state keeps what a
  reader of the call can observe but the source does not store: the bytes
  copied to the user (`out`), the stream bytes that arrived past the
  frontier while the call slept (`arrived`), whether a FIN was consumed,
  whether a WARN fired, and how many ACKs `tcp_nip_cleanup_rbuf` sent.
-/
import NipTcp.Recv.Queue

namespace NipTcp

/-! ## §1. The socket as the receive path sees it. -/

/-- The fields `tcp_nip_cleanup_rbuf` reads to decide on an ACK. -/
structure AckState where
  /-- `inet_csk_ack_scheduled(sk)`. -/
  scheduled : Bool
  /-- `icsk_ack.pending & ICSK_ACK_PUSHED`. -/
  pushed : Bool
  /-- `icsk_ack.pending & ICSK_ACK_PUSHED2`. -/
  pushed2 : Bool
  /-- `inet_csk_in_pingpong_mode(sk)`. -/
  pingpong : Bool
  rcvNxt : Nat
  rcvWup : Nat
  rcvMss : Nat
  /-- `atomic_read(&sk->sk_rmem_alloc)`. -/
  rmemAlloc : Nat
  /-- What `tcp_receive_window(tp)` returns. -/
  receiveWindow : Nat
  windowClamp : Nat
  /-- What `__nip_tcp_select_window(sk)` returns (not among the sources). -/
  selectWindow : Nat
  deriving Repr, DecidableEq

/-- The fields of the socket `tcp_nip_recvmsg` reads or writes. -/
structure RecvSock where
  state : TcpState
  /-- `tp->copied_seq`. -/
  copiedSeq : Nat
  /-- `sk_receive_queue`. -/
  queue : List Skb
  /-- `sk->sk_err`: a positive errno, `0` when there is none. -/
  err : Nat
  /-- `sk->sk_shutdown & RCV_SHUTDOWN`. -/
  rcvShutdown : Bool
  /-- `sock_flag(sk, SOCK_DONE)`. -/
  done : Bool
  /-- `sk->sk_backlog.tail != NULL`. -/
  backlog : Bool
  rcvtimeo : Nat
  rcvlowat : Nat
  ack : AckState
  deriving Repr, DecidableEq

/-! ## §2. `tcp_nip_cleanup_rbuf`. -/

/-- What `tcp_nip_cleanup_rbuf` does: whether its WARN fires and whether it
sends an ACK. -/
structure Cleanup where
  warn : Bool
  timeToAck : Bool
  deriving Repr, DecidableEq

/-- `tcp_nip_cleanup_rbuf(sk, copied)`: warn when `copied_seq` is not
before the end of the head segment; ACK when the once-per-`g_ack_num`
threshold is passed, when a pushed read drained the buffer, or when the
window the read opened is at least twice the one advertised. -/
def tcpNipCleanupRbuf (p : NipParams) (sk : RecvSock) (copied : Int) : Cleanup :=
  let a := sk.ack
  let warn := match sk.queue.head? with
    | some s => !before sk.copiedSeq s.endSeq
    | none => false
  let timeToAck :=
    a.scheduled &&
      (decide (p.ackNum * 20 * a.rcvMss < seqSub a.rcvNxt a.rcvWup) ||
        (decide (0 < copied) && (a.pushed2 || (a.pushed && !a.pingpong)) &&
          decide (a.rmemAlloc = 0)))
  let timeToAck :=
    if decide (0 < copied) && !timeToAck && !sk.rcvShutdown &&
        decide (2 * a.receiveWindow ≤ a.windowClamp) then
      decide (a.selectWindow ≠ 0) && decide (2 * a.receiveWindow ≤ a.selectWindow)
    else timeToAck
  ⟨warn, timeToAck⟩

/-! ## §3. The environment and the loop state. -/

/-- What the rest of the stack did while the socket was released. -/
structure Wake where
  /-- Segments queued at the tail of `sk_receive_queue`. -/
  arrived : List Skb
  err : Nat
  rcvShutdown : Bool
  done : Bool
  state : TcpState
  backlog : Bool
  ack : AckState
  /-- The timeout left (`sk_wait_data` counts it down). -/
  timeo : Nat
  /-- `signal_pending(current)`. -/
  signal : Bool

/-- The socket after a release: the segments appended, the other fields
as the wake left them; `copied_seq` is the reader's and does not move. -/
def RecvSock.applyWake (sk : RecvSock) (w : Wake) : RecvSock :=
  { sk with
    queue := sk.queue ++ w.arrived
    err := w.err
    rcvShutdown := w.rcvShutdown
    done := w.done
    state := w.state
    backlog := w.backlog
    ack := w.ack }

/-- The environment of one call: the `k`-th release and the copy of pass
`k`. -/
structure RecvEnv where
  wake : Nat → RecvSock → Wake
  fault : Nat → Bool

/-- The flags of the call the model distinguishes. -/
structure RecvFlags where
  peek : Bool
  trunc : Bool
  waitall : Bool
  deriving Repr, DecidableEq

/-- The state of the `do … while` loop. -/
structure RecvLoop where
  sk : RecvSock
  copied : Int
  lenTmp : Nat
  timeo : Nat
  signal : Bool
  iter : Nat
  /-- The bytes copied into the user's buffer. -/
  out : List UInt8
  /-- The stream bytes that arrived past the frontier while released. -/
  arrived : List UInt8
  /-- A FIN was consumed. -/
  fin : Bool
  /-- A WARN fired. -/
  warned : Bool
  /-- ACKs sent by `tcp_nip_cleanup_rbuf`. -/
  acks : Nat

/-- `MAX_SCHEDULE_TIMEOUT`, `LONG_MAX`. -/
def maxScheduleTimeout : Nat := 2 ^ 63 - 1

/-- `sock_intr_errno(timeo)`. -/
def sockIntrErrno (timeo : Nat) : Int :=
  if timeo = maxScheduleTimeout then -ERESTARTSYS else -EINTR

/-- `sock_rcvtimeo(sk, nonblock)`. -/
def sockRcvtimeo (sk : RecvSock) (nonblock : Bool) : Nat := if nonblock then 0 else sk.rcvtimeo

/-- `sock_rcvlowat(sk, waitall, len)`: never below one byte. -/
def sockRcvlowat (sk : RecvSock) (waitall : Bool) (len : Nat) : Int :=
  let v := if waitall then len else min sk.rcvlowat len
  if v = 0 then 1 else v

/-! ## §4. One pass of the loop body. -/

/-- Where the queue walk of one pass stopped. -/
inductive Found where
  /-- `goto found_ok_skb` on segment `s`, the `i`-th, at offset `off`. -/
  | ok (i : Nat) (s : Skb) (off : Nat)
  /-- `goto found_fin_ok` on the `i`-th segment. -/
  | fin (i : Nat)
  /-- The walk ran off the queue, or broke on the sequence WARN. -/
  | none
  deriving Repr, DecidableEq

/-- The `skb_queue_walk` of `tcp_nip_recvmsg` from the `i`-th segment on,
with whether one of its WARNs fired. -/
def walkQueue (peek : Bool) (seq : Nat) : Nat → List Skb → Found × Bool
  | _, [] => (.none, false)
  | i, s :: q =>
    if before seq s.seq then (.none, true)
    else
      let off := if s.syn then seqSub (seqSub seq s.seq) 1 else seqSub seq s.seq
      if off < s.len then (.ok i s off, false)
      else if s.fin then (.fin i, false)
      else
        let r := walkQueue peek seq (i + 1) q
        (r.1, r.2 || !peek)

/-- Whether a pass continues to the `while` test or breaks out. -/
inductive Next where
  | cont | brk
  deriving Repr, DecidableEq

namespace RecvLoop

/-- `sk_eat_skb` on the `i`-th segment, which `MSG_PEEK` skips. -/
def eat (peek : Bool) (i : Nat) (L : RecvLoop) : RecvLoop :=
  if peek then L else { L with sk := { L.sk with queue := L.sk.queue.eraseIdx i } }

/-- The copy of `found_ok_skb`: `used` bytes of `s` from `off` on go to the
user (unless `MSG_TRUNC`), then `*seq += used; len_tmp -= used;
copied += used`. -/
def copy (trunc : Bool) (s : Skb) (off used : Nat) (L : RecvLoop) : RecvLoop :=
  { L with
    sk := { L.sk with copiedSeq := seqAdd L.sk.copiedSeq used }
    lenTmp := L.lenTmp - used
    copied := L.copied + used
    out := if trunc then L.out else L.out ++ (s.data.drop off).take used }

/-- `tcp_nip_cleanup_rbuf`, then the release: the environment's wake is
applied and what it queued past the frontier is logged. -/
def release (p : NipParams) (env : RecvEnv) (L : RecvLoop) : RecvLoop :=
  let c := tcpNipCleanupRbuf p L.sk L.copied
  let w := env.wake L.iter L.sk
  { L with
    sk := L.sk.applyWake w
    timeo := w.timeo
    signal := w.signal
    arrived := L.arrived ++ unread (frontier L.sk.copiedSeq L.sk.queue) w.arrived
    warned := L.warned || c.warn
    acks := L.acks + c.timeToAck.toNat }

end RecvLoop

/-- `found_fin_ok`: step over the FIN, eat the segment, break. -/
def foundFinOk (peek : Bool) (i : Nat) (L : RecvLoop) : Next × RecvLoop :=
  (.brk, RecvLoop.eat peek i
    { L with sk := { L.sk with copiedSeq := seqAdd L.sk.copiedSeq 1 }, fin := true })

/-- `found_ok_skb`: copy `min (len - offset) len_tmp` bytes of `s` and
advance; eat the segment once it is read to its end, and go on to its FIN
if it has one. -/
def foundOkSkb (env : RecvEnv) (flags : RecvFlags) (i : Nat) (s : Skb) (off : Nat)
    (L : RecvLoop) : Next × RecvLoop :=
  let used := min (s.len - off) L.lenTmp
  if !flags.trunc && env.fault L.iter then
    (.brk, { L with copied := if L.copied = 0 then -EFAULT else L.copied })
  else
    let L := L.copy flags.trunc s off used
    if used + off < s.len then (.cont, L)
    else if s.fin then foundFinOk flags.peek i L
    else (.cont, L.eat flags.peek i)

/-- The walk found nothing: break with what was copied, or with an error,
or release the socket and go round again. -/
def noData (p : NipParams) (env : RecvEnv) (target : Int) (L : RecvLoop) : Next × RecvLoop :=
  if target ≤ L.copied ∧ L.sk.backlog = false then (.brk, L)
  else if L.copied ≠ 0 then
    if L.sk.err ≠ 0 ∨ L.sk.state = .close ∨ L.sk.rcvShutdown ∨ L.timeo = 0 ∨ L.signal then
      (.brk, L)
    else (.cont, L.release p env)
  else if L.sk.done then (.brk, L)
  else if L.sk.err ≠ 0 then
    (.brk, { L with copied := -(L.sk.err : Int), sk := { L.sk with err := 0 } })
  else if L.sk.rcvShutdown then (.brk, L)
  else if L.sk.state = .close then
    (.brk, if L.sk.done then L else { L with copied := -ENOTCONN })
  else if L.timeo = 0 then (.brk, { L with copied := -EAGAIN })
  else if L.signal then (.brk, { L with copied := sockIntrErrno L.timeo })
  else (.cont, L.release p env)

/-- One pass of the loop body. -/
def recvIter (p : NipParams) (env : RecvEnv) (flags : RecvFlags) (target : Int)
    (L : RecvLoop) : Next × RecvLoop :=
  let r := walkQueue flags.peek L.sk.copiedSeq 0 L.sk.queue
  let L := { L with warned := L.warned || r.2 }
  match r.1 with
  | .ok i s off => foundOkSkb env flags i s off L
  | .fin i => foundFinOk flags.peek i L
  | .none => noData p env target L

/-! ## §5. The loop and the call. -/

/-- `do { body } while (len_tmp > 0)`, on at most `fuel` passes. -/
def recvLoop (p : NipParams) (env : RecvEnv) (flags : RecvFlags) (target : Int) :
    Nat → RecvLoop → Option RecvLoop
  | 0, _ => none
  | fuel + 1, L =>
    match recvIter p env flags target L with
    | (.brk, L') => some L'
    | (.cont, L') =>
      if 0 < L'.lenTmp then recvLoop p env flags target fuel { L' with iter := L'.iter + 1 }
      else some L'

/-- The loop state a call starts from. -/
def RecvLoop.init (sk : RecvSock) (len timeo : Nat) (signal : Bool) : RecvLoop :=
  ⟨sk, 0, len, timeo, signal, 0, [], [], false, false, 0⟩

/-- `tcp_nip_recvmsg(sk, msg, len, nonblock, flags)`.  The return value is
the result's `copied`.  On a listening socket the source returns its local
`err` before anything assigns it; `err` is that indeterminate value. -/
def tcpNipRecvmsg (p : NipParams) (env : RecvEnv) (fuel : Nat) (sk : RecvSock) (len : Nat)
    (nonblock : Bool) (flags : RecvFlags) (signal : Bool) (err : Int) : Option RecvLoop :=
  if sk.state = .listen then some { RecvLoop.init sk len 0 signal with copied := err }
  else
    (recvLoop p env flags (sockRcvlowat sk flags.waitall len) fuel
        (RecvLoop.init sk len (sockRcvtimeo sk nonblock) signal)).map fun L =>
      let c := tcpNipCleanupRbuf p L.sk L.copied
      { L with warned := L.warned || c.warn, acks := L.acks + c.timeToAck.toNat }

end NipTcp
