/-
  NipTcp.Sock.Disconnect — `tcp_nip_disconnect`.

  A disconnect closes the socket whatever its state (`tcp_set_state`
  unhashes it), resets the peer of a synchronised connection, purges the
  receive and write queues, and puts the connection's fields back to those
  of a fresh socket, so that it may connect again.  The NewIP out-of-order
  list `tp->nip_out_of_order_queue` is not among what it purges: only
  `tcp_nip_destroy_sock` frees it (`skb_nip_ofo_queue_purge`).

  What the call does beyond the socket is a list of `DiscEvent`s: the
  listener stopped, the reset sent, the skbs, routes and page freed.

  Main results:
    * `tcpNipDisconnect_clears` — after every disconnect the socket is
      closed, unhashed unless it was already closed, has no peer port, no
      queued segment, no send head and no packet out, and a non-zero
      `write_seq`;
    * `tableInv_tcpNipDisconnect` — the tables stay consistent and the
      socket ends unhashed;
    * `tcpNipDisconnect_keeps_ofo` — a segment held out of order survives
      the disconnect of an established connection.
-/
import NipTcp.Sock.Connect

namespace NipTcp

/-! ## §1. The model. -/

/-- `TCP_NUM_2`, and the kernel's `TCP_INFINITE_SSTHRESH`. -/
def TCP_NUM_2 : Nat := 2
def TCP_INFINITE_SSTHRESH : Nat := 0x7fffffff

/-- The fields `tcp_nip_disconnect` reads and writes beyond those the tables
hold. -/
structure DiscSock where
  /-- `sk->sk_receive_queue`, `sk->sk_write_queue` and
  `tp->nip_out_of_order_queue`, as the skbs they hold. -/
  receiveQueue : List Nat
  writeQueue : List Nat
  ofoQueue : List Nat
  sendHead : Option Nat
  packetsOut : Nat
  /-- `sk->sk_err`. -/
  err : Int
  sndNxt : Nat
  writeSeq : Nat
  maxWindow : Nat
  /-- `sk->sk_shutdown` and `sock_flag(sk, SOCK_DONE)`. -/
  shutdown : Nat
  done : Bool
  srttUs : Nat
  sndCwnd : Nat
  sndSsthresh : Nat
  /-- `sk->sk_dst_cache`, `sk->sk_rx_dst` and `sk->sk_frag.page`. -/
  dstCache : Option Nat
  rxDst : Option Nat
  fragPage : Option Nat
  deriving Repr, DecidableEq

/-- What a disconnect does beyond the socket. -/
inductive DiscEvent where
  /-- `inet_csk_listen_stop(sk)`. -/
  | listenStop
  /-- `tcp_nip_send_active_reset(sk, gfp_any())`. -/
  | activeReset
  /-- An skb of a purged queue freed. -/
  | freeSkb (skb : Nat)
  /-- `dst_release(dst)`. -/
  | dstRelease (dst : Nat)
  /-- `put_page(page)`. -/
  | putPage (page : Nat)
  deriving Repr, DecidableEq

/-- The skbs a list of events frees. -/
def DiscEvent.freed : List DiscEvent → List Nat
  | [] => []
  | .freeSkb b :: evs => b :: DiscEvent.freed evs
  | _ :: evs => DiscEvent.freed evs

/-- `tcp_nip_need_reset(state)`. -/
def tcpNipNeedReset (state : TcpState) : Bool :=
  state ∈ [.established, .closeWait, .finWait1, .finWait2, .synRecv]

variable (H : HashFns)

/-- The reset of `tcp_nip_disconnect`: stop a listener; reset a
synchronised peer, or one still owed data in `CLOSING` or `LAST_ACK`; and
report `ECONNRESET` to a user whose connection is dropped. -/
def disconnectReset (oldState : TcpState) (s : DiscSock) : DiscSock × List DiscEvent :=
  if oldState = .listen then (s, [.listenStop])
  else if tcpNipNeedReset oldState ∨
      (s.sndNxt ≠ s.writeSeq ∧ (oldState = .closing ∨ oldState = .lastAck)) then
    ({ s with err := ECONNRESET }, [.activeReset])
  else if oldState = .synSent then ({ s with err := ECONNRESET }, [])
  else (s, [])

/-- `tcp_nip_disconnect(sk, flags)` on socket `id`: the tables, the socket,
what the call did beyond them, and its return.  The timers,
`tcp_nip_rtt_init`, `inet_csk_delack_init`, `tp->rx_opt` and the statistics
counters it clears are left out. -/
def tcpNipDisconnect (h : Hashinfo) (id : Nat) (s : DiscSock) :
    Hashinfo × DiscSock × List DiscEvent × Int :=
  let oldState := (h.socks id).state
  let h := if oldState ≠ .close then tcpSetState H h id .close else h
  let r := disconnectReset oldState s
  let s := r.1
  let evs := r.2 ++ (s.receiveQueue ++ s.writeQueue).map .freeSkb
  let h := h.setSock id { h.socks id with dport := 0 }
  let writeSeq := seqAdd s.writeSeq (s.maxWindow + TCP_NUM_2)
  let evs := evs ++ (s.dstCache.map .dstRelease).toList ++ (s.rxDst.map .dstRelease).toList ++
    (s.fragPage.map .putPage).toList
  (h, { s with
      receiveQueue := []
      writeQueue := []
      packetsOut := 0
      shutdown := 0
      done := false
      srttUs := 0
      writeSeq := if writeSeq = 0 then 1 else writeSeq
      sndCwnd := TCP_NUM_2
      sndSsthresh := TCP_INFINITE_SSTHRESH
      sendHead := none
      dstCache := none
      rxDst := none
      fragPage := none }, evs, 0)

/-! ## §2. What a disconnect leaves. -/

@[simp] theorem DiscEvent.freed_append (a b : List DiscEvent) :
    DiscEvent.freed (a ++ b) = DiscEvent.freed a ++ DiscEvent.freed b := by
  induction a with
  | nil => rfl
  | cons e a ih => cases e <;> simp [DiscEvent.freed, ih]

@[simp] theorem DiscEvent.freed_map_freeSkb (l : List Nat) :
    DiscEvent.freed (l.map .freeSkb) = l := by
  induction l with
  | nil => rfl
  | cons b l ih => simp [DiscEvent.freed, ih]

/-- After every disconnect the socket is closed, unhashed unless it was
already closed, with no peer port, no queued segment, no send head, no
packet out and a non-zero `write_seq`, and the call returns 0. -/
theorem tcpNipDisconnect_clears (h : Hashinfo) (id : Nat) (s : DiscSock) :
    let r := tcpNipDisconnect H h id s
    (r.1.socks id).state = .close ∧
      r.1.node id = (if (h.socks id).state = .close then h.node id else none) ∧
      (r.1.socks id).dport = 0 ∧ r.2.1.receiveQueue = [] ∧ r.2.1.writeQueue = [] ∧
      r.2.1.sendHead = none ∧ r.2.1.packetsOut = 0 ∧ r.2.1.writeSeq ≠ 0 ∧ r.2.2.2 = 0 := by
  have hseq : ∀ w : Nat, (if w = 0 then 1 else w) ≠ 0 := fun w => by split_ifs <;> omega
  by_cases hc : (h.socks id).state = .close
  · simp [tcpNipDisconnect, hc, hseq]
  · simp [tcpNipDisconnect, hc, hseq, tcpSetState_close_node]

/-- A disconnect keeps the table invariant and leaves the socket unhashed,
given a socket that is unhashed when closed, as `tcp_set_state` leaves
every socket it closes. -/
theorem tableInv_tcpNipDisconnect {h : Hashinfo} (hi : TableInv H h) {id : Nat}
    (hcl : (h.socks id).state = .close → h.node id = none) (s : DiscSock) :
    TableInv H (tcpNipDisconnect H h id s).1 ∧ (tcpNipDisconnect H h id s).1.node id = none := by
  unfold tcpNipDisconnect
  dsimp only
  by_cases hc : (h.socks id).state = .close
  · rw [if_neg (not_not.2 hc)]
    exact ⟨tableInv_setSock H hi (hcl hc) _, hcl hc⟩
  · rw [if_pos hc]
    exact ⟨tableInv_setSock H (tableInv_tcpSetState H hi (.inl rfl)) (tcpSetState_close_node H h id) _,
      tcpSetState_close_node H h id⟩

/-! ## §3. A segment that outlives its connection. -/

/-- Socket 1, a NewIP connection of namespace 0 from `[10, 20]` port 4000
to `[30, 40]` port 80, established. -/
def estSocks : Nat → NSock := fun _ =>
  ⟨0, true, .established, ⟨32, [10, 20]⟩, ⟨32, [30, 40]⟩, 4000, 4000, 80, 0, 0, false, 0, 1⟩

/-- Its other fields: skb 3 waiting to be read, everything it sent already
acknowledged (an empty write queue, no send head, no packet out), and skb 5
held out of order. -/
def ofoDiscSock : DiscSock :=
  ⟨[3], [], [5], none, 0, 0, 110, 110, 1000, 0, false, 8, 10, 20, some 1, none, none⟩

/-- The connection linked by `__ninet_check_established`. -/
def estTable : Hashinfo := (ninetCheckEstablished sampleHashFns (Hashinfo.empty estSocks true) 1 4000).1

/-- Disconnecting that connection frees skb 3, closes and unhashes the
socket, and keeps skb 5 on the out-of-order list. -/
theorem tcpNipDisconnect_keeps_ofo :
    estTable.node 1 ≠ none ∧
      ∃ h s evs, tcpNipDisconnect sampleHashFns estTable 1 ofoDiscSock = (h, s, evs, 0) ∧
        (h.socks 1).state = .close ∧ h.node 1 = none ∧ DiscEvent.freed evs = [3] ∧
        s.ofoQueue = [5] :=
  ⟨by decide, _, _, _, rfl, rfl, rfl, rfl, rfl⟩

end NipTcp
