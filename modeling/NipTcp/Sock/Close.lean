/-
  NipTcp.Sock.Close — `tcp_nip_close`, `tcp_nip_done` and the orphan count.

  Closing a socket orphans it (`sock_orphan`) and leaves it to the protocol,
  which destroys it once it reaches `TCP_CLOSE`: inside `tcp_nip_close`
  through `inet_csk_destroy_sock`, or later when an inbound segment or a
  timer calls `tcp_nip_done`.  `*sk->sk_prot->orphan_count` counts the
  sockets orphaned and not yet destroyed; both destruction paths decrement
  it.

  The segments `release_sock` drains from the backlog, and those that come
  later, are the rest of the kernel's (`tcp_nip_rcv_state_process` is not
  among the sources): they move the socket's state or call `tcp_nip_done`.
  The model takes them as a list of events.

  The sum `orphans + destroyed` is what the proofs follow: every event and
  every destruction keeps it, and `tcp_nip_close` lowers it by one where it
  orphans the socket.

  Main results:
    * `runEvents_conserve` — inbound segments and timers keep the sum;
    * `tcpNipClose_conserve` — a close lowers it by one, whatever the
      backlog does;
    * `tcpNipClose_orphan_count` — a socket closed while established and
      destroyed later by `tcp_nip_done` leaves the count two below where it
      started.

  `tcp_nip_shutdown`, which moves the state by the same `new_state`
  table, is modelled at the end.
-/
import NipTcp.Recv.Queue

namespace NipTcp

/-! ## §1. The socket and the state table. -/

/-- The fields of a socket its teardown reads and writes. -/
structure LifeSock where
  state : TcpState
  /-- `sock_flag(sk, SOCK_DEAD)`. -/
  dead : Bool
  /-- `sk->sk_shutdown == SHUTDOWN_MASK`. -/
  shutdownAll : Bool
  /-- `sk_receive_queue`. -/
  receiveQueue : List Skb
  /-- `*sk->sk_prot->orphan_count`, summed over the CPUs. -/
  orphans : Int
  /-- How many times `sk->sk_prot->destroy` ran on the socket. -/
  destroyed : Nat
  /-- `sk->sk_refcnt`. -/
  refcnt : Nat
  /-- A FIN, and a RST, went out while closing. -/
  finSent : Bool
  rstSent : Bool
  deriving Repr

/-- `new_state[state]`: the state `close()` moves to, and whether a FIN is
due (`TCP_ACTION_FIN`). -/
def newState : TcpState → TcpState × Bool
  | .established => (.finWait1, true)
  | .synSent => (.close, false)
  | .synRecv => (.finWait1, true)
  | .finWait1 => (.finWait1, false)
  | .finWait2 => (.finWait2, false)
  | .timeWait => (.close, false)
  | .close => (.close, false)
  | .closeWait => (.lastAck, true)
  | .lastAck => (.lastAck, false)
  | .listen => (.close, false)
  | .closing => (.closing, false)
  | .newSynRecv => (.close, false)

/-- `tcp_nip_close_state(sk)`: move to the next state, and say whether a FIN
is due. -/
def tcpNipCloseState (sk : LifeSock) : LifeSock × Bool :=
  ({ sk with state := (newState sk.state).1 }, (newState sk.state).2)

/-- The `len` the purge loop of `tcp_nip_close` counts for one skb:
`end_seq - seq`, less one for a FIN, on `u32`. -/
def unreadLen (s : Skb) : Nat := (seqSub s.endSeq s.seq + (2 ^ 32 - s.fin.toNat)) % 2 ^ 32

/-- `data_was_unread` after the purge loop; the sum wraps at `2^32`. -/
def dataWasUnread (q : List Skb) : Nat := (q.map unreadLen).sum % 2 ^ 32

/-! ## §2. Destruction. -/

/-- `sk->sk_prot->destroy(sk)` and the queue purge that follows it. -/
def destroySock (sk : LifeSock) : LifeSock :=
  { sk with destroyed := sk.destroyed + 1, receiveQueue := [] }

/-- `inet_csk_destroy_sock(sk)` (`net/ipv4/inet_connection_sock.c`, not
among the sources): destroy the socket, decrement the orphan count and drop
the reference. -/
def inetCskDestroySock (sk : LifeSock) : LifeSock :=
  let sk := destroySock sk
  { sk with orphans := sk.orphans - 1, refcnt := sk.refcnt - 1 }

/-- `tcp_nip_done(sk)`: to `TCP_CLOSE`; an orphaned socket is destroyed on
the spot. -/
def tcpNipDone (sk : LifeSock) : LifeSock :=
  let sk := { sk with state := .close, shutdownAll := true }
  if !sk.dead then sk
  else
    let sk := destroySock sk
    { sk with orphans := sk.orphans - 1, refcnt := sk.refcnt - 1 }

/-- What the rest of the kernel does to the socket: an inbound segment
moves its state, or a segment or a timer calls `tcp_nip_done`. -/
inductive SockEvent where
  | moveTo (s : TcpState)
  | done
  deriving Repr, DecidableEq

def SockEvent.apply : SockEvent → LifeSock → LifeSock
  | .moveTo s, sk => { sk with state := s }
  | .done, sk => tcpNipDone sk

/-- The events in order. -/
def runEvents (evs : List SockEvent) (sk : LifeSock) : LifeSock :=
  evs.foldl (fun sk e => e.apply sk) sk

/-! ## §3. `tcp_nip_close`. -/

/-- The part of `tcp_nip_close` before `adjudge_to_death`: a listener just
goes to `TCP_CLOSE`; otherwise the receive queue is purged, unread data
resets the connection, and a FIN goes out if the state table asks for one. -/
def closeHead (sk : LifeSock) : LifeSock :=
  if sk.state = .listen then { sk with state := .close }
  else
    let unread := dataWasUnread sk.receiveQueue
    let sk := { sk with receiveQueue := [] }
    if sk.state = .close then sk
    else if unread ≠ 0 then { sk with state := .close, rstSent := true }
    else
      let r := tcpNipCloseState sk
      if r.2 then { r.1 with finSent := true } else r.1

/-- `tcp_nip_close(sk, timeout)`, with `backlog` what the segments that
`release_sock` processes do to the socket. -/
def tcpNipClose (backlog : List SockEvent) (sk : LifeSock) : LifeSock :=
  let sk := closeHead { sk with shutdownAll := true }
  -- adjudge_to_death
  let state := sk.state
  let sk := { sk with refcnt := sk.refcnt + 1, dead := true }
  let sk := runEvents backlog sk
  let sk := { sk with orphans := sk.orphans - 1 }
  let sk :=
    if state ≠ .close ∧ sk.state = .close then sk
    else if sk.state = .close then inetCskDestroySock sk else sk
  { sk with refcnt := sk.refcnt - 1 }

/-! ## §4. The orphan count. -/

theorem tcpNipDone_conserve (sk : LifeSock) :
    (tcpNipDone sk).orphans + (tcpNipDone sk).destroyed = sk.orphans + sk.destroyed := by
  simp only [tcpNipDone, destroySock]
  split_ifs <;> push_cast <;> omega

theorem sockEvent_conserve (e : SockEvent) (sk : LifeSock) :
    (e.apply sk).orphans + (e.apply sk).destroyed = sk.orphans + sk.destroyed := by
  cases e with
  | moveTo s => rfl
  | done => exact tcpNipDone_conserve sk

/-- Inbound segments and timers keep `orphans + destroyed`: each
destruction they cause decrements the count once. -/
theorem runEvents_conserve (evs : List SockEvent) (sk : LifeSock) :
    (runEvents evs sk).orphans + (runEvents evs sk).destroyed = sk.orphans + sk.destroyed := by
  induction evs generalizing sk with
  | nil => rfl
  | cons e evs ih =>
    simp only [runEvents, List.foldl_cons] at ih ⊢
    rw [ih, sockEvent_conserve]

theorem closeHead_conserve (sk : LifeSock) :
    (closeHead sk).orphans = sk.orphans ∧ (closeHead sk).destroyed = sk.destroyed := by
  simp only [closeHead, tcpNipCloseState]
  split_ifs <;> exact ⟨rfl, rfl⟩

/-- `tcp_nip_close` lowers `orphans + destroyed` by one, whatever the
backlog does: the orphaning itself decrements the count. -/
theorem tcpNipClose_conserve (backlog : List SockEvent) (sk : LifeSock) :
    (tcpNipClose backlog sk).orphans + (tcpNipClose backlog sk).destroyed =
      sk.orphans + sk.destroyed - 1 := by
  obtain ⟨ho, hd⟩ := closeHead_conserve { sk with shutdownAll := true }
  simp only [tcpNipClose]
  generalize closeHead { sk with shutdownAll := true } = c at ho hd ⊢
  have hr := runEvents_conserve backlog { c with refcnt := c.refcnt + 1, dead := true }
  generalize runEvents backlog { c with refcnt := c.refcnt + 1, dead := true } = r at hr ⊢
  simp only at ho hd hr
  split_ifs <;> simp only [inetCskDestroySock, destroySock] <;> push_cast <;> omega

/-- An established socket with nothing unread, one reference, and the
orphan count at zero. -/
def establishedLifeSock : LifeSock := ⟨.established, false, false, [], 0, 0, 1, false, false⟩

/-- Closed while established, the socket sends its FIN and waits in
`FIN_WAIT1`, counted at `-1`; when `tcp_nip_done` destroys it later the
count is at `-2`. -/
theorem tcpNipClose_orphan_count :
    (tcpNipClose [] establishedLifeSock).state = .finWait1 ∧
    (tcpNipClose [] establishedLifeSock).finSent = true ∧
    (tcpNipClose [] establishedLifeSock).destroyed = 0 ∧
    (tcpNipClose [] establishedLifeSock).orphans = -1 ∧
    (tcpNipDone (tcpNipClose [] establishedLifeSock)).destroyed = 1 ∧
    (tcpNipDone (tcpNipClose [] establishedLifeSock)).orphans = -2 := by
  decide

/-! ## §5. `tcp_nip_shutdown`. -/

/-- `SEND_SHUTDOWN`. -/
def SEND_SHUTDOWN : Nat := 2

/-- `tcp_nip_shutdown(sk, how)`: shutting the sending side of a socket that
has not sent its FIN moves it by the state table, and sends the FIN the
table asks for. -/
def tcpNipShutdown (how : Nat) (sk : LifeSock) : LifeSock :=
  if how &&& SEND_SHUTDOWN = 0 then sk
  else if sk.state ∈ [.established, .synSent, .synRecv, .closeWait] then
    let r := tcpNipCloseState sk
    if r.2 then { r.1 with finSent := true } else r.1
  else sk

end NipTcp
