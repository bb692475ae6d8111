/-
  NipTcp.Ingress.Rcv — `tcp_nip_rcv`, the dispatcher of inbound segments.

  The dispatcher is straight-line code over a handful of verdicts of
  functions that are not among the sources (the checksum, the socket
  lookup, `tcp_filter`, `tcp_nip_check_req`, the state handlers and
  `sk_add_backlog`); they are the fields of `RcvEnv`.  What it does to the
  packet, the socket's references and its bottom-half lock is the list of
  `RcvEvent`s it returns, in order, and three tallies over that list count
  the hand-offs of the packet, the lock balance and the `sock_put` calls.

  Main results:
    * `tcpNipRcv_consumes_once` — on every path the packet is handed on or
      freed exactly once;
    * `tcpNipRcv_unlocks` — on every path the lock is released as often as
      it is taken;
    * `tcpNipRcv_releases` — for a socket in any state but `TCP_TIME_WAIT`
      and `TCP_NEW_SYN_RECV`, a refcounted lookup's reference is put once;
    * `tcpNipRcv_time_wait_leaks` — a `TCP_TIME_WAIT` socket's packet is
      freed and the refcounted lookup's reference is kept;
    * `tcpNipRcv_short_segment_wraps` — the header is used after three
      checks that never compare `doff` with the segment's length;
    * `tcpNipEarlyDemux_finds`, `tcpNipEarlyDemux_sound` — early
      demultiplexing attaches exactly the connected socket the packet is for.
-/
import NipTcp.Hash.Established

namespace NipTcp

/-! ## §1. The segment and its control block. -/

/-- The fields of the TCP header that the dispatcher and its helpers read,
in host byte order. -/
structure TcpHdr where
  /-- `ntohl(th->seq)`. -/
  seq : Nat
  /-- `ntohl(th->ack_seq)`. -/
  ackSeq : Nat
  /-- `th->doff`, the header length in 32-bit words. -/
  doff : Nat
  syn : Bool
  fin : Bool
  rst : Bool
  ack : Bool
  deriving Repr, DecidableEq

/-- An inbound `sk_buff` as `tcp_nip_rcv` sees it. -/
structure InSkb where
  /-- `skb->pkt_type == PACKET_HOST`. -/
  pktHost : Bool
  /-- `nip_get_tcp_input_checksum(skb)`: the checksum over the `skb->len`
  bytes of the segment is `0xffff`. -/
  csumOk : Bool
  /-- `skb->len`, the segment with its header. -/
  len : Nat
  th : TcpHdr
  deriving Repr, DecidableEq

/-- The sequence numbers `tcp_nip_fill_cb` writes to `TCP_SKB_CB(skb)`. -/
structure TcpCb where
  seq : Nat
  endSeq : Nat
  ackSeq : Nat
  deriving Repr, DecidableEq

/-- `tcp_nip_fill_cb(skb, th)`: `end_seq = seq + syn + fin + skb->len -
th->doff * TCP_NUM_4`, all in `u32`. -/
def tcpNipFillCb (skb : InSkb) : TcpCb :=
  { seq := skb.th.seq
    endSeq := seqSub (skb.th.seq + skb.th.syn.toNat + skb.th.fin.toNat + skb.len) (skb.th.doff * 4)
    ackSeq := skb.th.ackSeq }

/-! ## §2. What the dispatcher does. -/

/-- The actions of `tcp_nip_rcv` on the packet, the socket and its lock. -/
inductive RcvEvent where
  /-- `kfree_skb(skb)`. -/
  | kfreeSkb
  /-- `tcp_nip_actual_send_reset` with the `seq` and `ack_seq` of the reply. -/
  | sendReset (seq ackSeq : Nat)
  /-- `tcp_nip_fill_cb` with the control block it writes. -/
  | fillCb (cb : TcpCb)
  /-- `tcp_nip_rcv_established` takes the packet. -/
  | rcvEstablished
  /-- `tcp_nip_rcv_state_process`; it keeps the packet unless it asks for
  a discard. -/
  | rcvStateProcess (discard : Bool)
  /-- `tcp_nip_child_process`; it keeps the packet unless it fails. -/
  | childProcess (fail : Bool)
  /-- `sk_add_backlog` queues the packet. -/
  | addBacklog
  | bhLock
  | bhUnlock
  | sockHold
  | sockPut
  | reqskPut
  /-- `sk_drops_add`. -/
  | dropsAdd
  deriving Repr, DecidableEq

/-- How many times an action takes the packet: hands it on or frees it. -/
@[simp] def RcvEvent.takesSkb : RcvEvent → Nat
  | .kfreeSkb | .rcvEstablished | .addBacklog => 1
  | .rcvStateProcess discard => if discard then 0 else 1
  | .childProcess fail => if fail then 0 else 1
  | _ => 0

/-- What an action does to the bottom-half lock. -/
@[simp] def RcvEvent.lockDelta : RcvEvent → Int
  | .bhLock => 1
  | .bhUnlock => -1
  | _ => 0

/-- `sock_put` calls. -/
@[simp] def RcvEvent.puts : RcvEvent → Nat
  | .sockPut => 1
  | _ => 0

/-- `sock_hold` calls. -/
@[simp] def RcvEvent.holds : RcvEvent → Nat
  | .sockHold => 1
  | _ => 0

/-- The tallies of a list of actions. -/
def skbTaken (evs : List RcvEvent) : Nat := (evs.map RcvEvent.takesSkb).sum

def lockBalance (evs : List RcvEvent) : Int := (evs.map RcvEvent.lockDelta).sum

def putCount (evs : List RcvEvent) : Nat := (evs.map RcvEvent.puts).sum

def holdCount (evs : List RcvEvent) : Nat := (evs.map RcvEvent.holds).sum

section Tallies

variable (e : RcvEvent) (evs evs' : List RcvEvent)

@[simp] theorem skbTaken_nil : skbTaken [] = 0 := rfl
@[simp] theorem skbTaken_cons : skbTaken (e :: evs) = e.takesSkb + skbTaken evs := List.sum_cons
@[simp] theorem skbTaken_append : skbTaken (evs ++ evs') = skbTaken evs + skbTaken evs' := by
  simp only [skbTaken, List.map_append, List.sum_append]

@[simp] theorem lockBalance_nil : lockBalance [] = 0 := rfl
@[simp] theorem lockBalance_cons : lockBalance (e :: evs) = e.lockDelta + lockBalance evs :=
  List.sum_cons
@[simp] theorem lockBalance_append :
    lockBalance (evs ++ evs') = lockBalance evs + lockBalance evs' := by
  simp only [lockBalance, List.map_append, List.sum_append]

@[simp] theorem putCount_nil : putCount [] = 0 := rfl
@[simp] theorem putCount_cons : putCount (e :: evs) = e.puts + putCount evs := List.sum_cons
@[simp] theorem putCount_append : putCount (evs ++ evs') = putCount evs + putCount evs' := by
  simp only [putCount, List.map_append, List.sum_append]

@[simp] theorem holdCount_nil : holdCount [] = 0 := rfl
@[simp] theorem holdCount_cons : holdCount (e :: evs) = e.holds + holdCount evs := List.sum_cons
@[simp] theorem holdCount_append : holdCount (evs ++ evs') = holdCount evs + holdCount evs' := by
  simp only [holdCount, List.map_append, List.sum_append]

end Tallies

/-! ## §3. The dispatcher. -/

/-- The socket `__ninet_lookup_skb` returns, as far as the dispatcher reads
it. -/
structure Looked where
  state : TcpState
  /-- `sock_owned_by_user(sk)`. -/
  ownedByUser : Bool
  /-- `READ_ONCE(sk->sk_rcvbuf)`. -/
  rcvbuf : Nat
  /-- `READ_ONCE(sk->sk_sndbuf)`. -/
  sndbuf : Nat
  /-- The lookup's `refcounted`: it took a reference on the socket. -/
  refcounted : Bool
  deriving Repr, DecidableEq

/-- The `nsk` of `tcp_nip_check_req`: `NULL`, the listener itself, or a new
child socket. -/
inductive CheckReq where
  | null | listener | child
  deriving Repr, DecidableEq

/-- The verdicts of the functions `tcp_nip_rcv` calls that are not among
the sources. -/
structure RcvEnv where
  /-- `__ninet_lookup_skb`. -/
  lookup : Option Looked
  /-- `tcp_filter(sk, skb)` rejects the packet. -/
  filter : Bool
  checkReq : CheckReq
  /-- `tcp_nip_child_process` returns non-zero. -/
  childFails : Bool
  /-- `tcp_nip_rcv_state_process` returns non-zero. -/
  stateDiscards : Bool
  /-- `sk_add_backlog(sk, skb, limit)` fails at this limit. -/
  backlogFull : Nat → Bool

/-- `tcp_nip_send_reset(NULL, skb)`: a reset never answers a reset; an ACK
is answered at its `ack_seq`, anything else is acknowledged up to its end. -/
def tcpNipSendReset (skb : InSkb) : List RcvEvent :=
  if skb.th.rst then []
  else if skb.th.ack then [.sendReset skb.th.ackSeq 0]
  else [.sendReset 0
    (seqSub (skb.th.seq + skb.th.syn.toNat + skb.th.fin.toNat + skb.len) (skb.th.doff <<< 2))]

/-- `tcp_nip_do_rcv(sk, skb)`, which returns 0 on every path. -/
def tcpNipDoRcv (env : RcvEnv) (state : TcpState) : List RcvEvent × Int :=
  if state = .established then ([.rcvEstablished], 0)
  else if env.stateDiscards then ([.rcvStateProcess true, .kfreeSkb], 0)
  else ([.rcvStateProcess false], 0)

/-- `tcp_nip_add_backlog(sk, skb)`, true when the packet is dropped; the
drop releases the lock. -/
def tcpNipAddBacklog (env : RcvEnv) (sk : Looked) : List RcvEvent × Bool :=
  let limit := (sk.rcvbuf + sk.sndbuf + 64 * 1024) % 2 ^ 32
  if env.backlogFull limit then ([.bhUnlock], true) else ([.addBacklog], false)

/-- The exit at `put_and_return`: put the lookup's reference, if it took
one. -/
def putAndReturn (refcounted : Bool) : List RcvEvent :=
  if refcounted then [.sockPut] else []

/-- The exit at `discard_and_relse`: count the drop, put the reference,
free the packet at `discard_it`. -/
def discardAndRelse (refcounted : Bool) : List RcvEvent :=
  .dropsAdd :: putAndReturn refcounted ++ [.kfreeSkb]

/-- The `TCP_NEW_SYN_RECV` branch: the request's listener, held and
counted as referenced, checks the third handshake packet and creates the
child. -/
def rcvNewSynRecv (env : RcvEnv) (skb : InSkb) : List RcvEvent × Int :=
  let fill := if env.filter then [] else [RcvEvent.fillCb (tcpNipFillCb skb)]
  let nsk := if env.filter then CheckReq.null else env.checkReq
  if nsk ≠ .child then (.sockHold :: fill ++ .reqskPut :: discardAndRelse true, 0)
  else if env.childFails then
    (.sockHold :: fill ++ .childProcess true :: discardAndRelse true, 0)
  else (.sockHold :: fill ++ [.childProcess false, .sockPut], 0)

/-- What follows `tcp_nip_fill_cb` for a socket in any other state: the
filter, then the hand-off to the listener, to the socket under its lock, or
to its backlog. -/
def rcvDeliver (env : RcvEnv) (sk : Looked) : List RcvEvent × Int :=
  if env.filter then (discardAndRelse sk.refcounted, 0)
  else if sk.state = .listen then
    let r := tcpNipDoRcv env sk.state
    (r.1 ++ putAndReturn sk.refcounted, if r.2 ≠ 0 then -1 else 0)
  else if !sk.ownedByUser then
    let r := tcpNipDoRcv env sk.state
    (.bhLock :: r.1 ++ .bhUnlock :: putAndReturn sk.refcounted, if r.2 ≠ 0 then -1 else 0)
  else
    let b := tcpNipAddBacklog env sk
    if b.2 then (.bhLock :: b.1 ++ discardAndRelse sk.refcounted, 0)
    else (.bhLock :: b.1 ++ .bhUnlock :: putAndReturn sk.refcounted, 0)

/-- The path of a socket in any other state: fill the control block, then
deliver. -/
def rcvSock (env : RcvEnv) (skb : InSkb) (sk : Looked) : List RcvEvent × Int :=
  let r := rcvDeliver env sk
  (.fillCb (tcpNipFillCb skb) :: r.1, r.2)

/-- `tcp_nip_rcv(skb)`. -/
def tcpNipRcv (env : RcvEnv) (skb : InSkb) : List RcvEvent × Int :=
  if !skb.pktHost then ([.kfreeSkb], 0)
  else if !skb.csumOk then ([.kfreeSkb], 0)
  else if skb.th.doff < 20 / 4 then ([.kfreeSkb], 0)
  else match env.lookup with
    | none => (tcpNipSendReset skb ++ [.kfreeSkb], 0)
    | some sk =>
      if sk.state = .timeWait then ([.kfreeSkb], 0)
      else if sk.state = .newSynRecv then rcvNewSynRecv env skb
      else rcvSock env skb sk

/-! ## §4. The tallies of each exit. -/

section Exits

variable (env : RcvEnv) (skb : InSkb) (r : Bool)

@[simp] theorem putCount_putAndReturn : putCount (putAndReturn r) = r.toNat := by
  cases r <;> rfl

@[simp] theorem skbTaken_putAndReturn : skbTaken (putAndReturn r) = 0 := by cases r <;> rfl
@[simp] theorem lockBalance_putAndReturn : lockBalance (putAndReturn r) = 0 := by cases r <;> rfl
@[simp] theorem holdCount_putAndReturn : holdCount (putAndReturn r) = 0 := by cases r <;> rfl

/-- A reset is a new packet: the received one is not taken, and the lock
and the references are not touched. -/
theorem tcpNipSendReset_tally :
    skbTaken (tcpNipSendReset skb) = 0 ∧ lockBalance (tcpNipSendReset skb) = 0 := by
  unfold tcpNipSendReset
  split_ifs <;> simp

/-- `tcp_nip_do_rcv` takes the packet once, through the state handler or
`kfree_skb`. -/
theorem tcpNipDoRcv_tally (state : TcpState) :
    skbTaken (tcpNipDoRcv env state).1 = 1 ∧ lockBalance (tcpNipDoRcv env state).1 = 0 ∧
      putCount (tcpNipDoRcv env state).1 = 0 ∧ holdCount (tcpNipDoRcv env state).1 = 0 ∧
      (tcpNipDoRcv env state).2 = 0 := by
  unfold tcpNipDoRcv
  split_ifs <;> simp

/-- `tcp_nip_add_backlog` either queues the packet or releases the lock. -/
theorem tcpNipAddBacklog_cases (sk : Looked) :
    tcpNipAddBacklog env sk = ([.bhUnlock], true) ∨ tcpNipAddBacklog env sk = ([.addBacklog], false) := by
  unfold tcpNipAddBacklog
  dsimp only
  split_ifs
  · exact .inl rfl
  · exact .inr rfl

end Exits

/-! ## §5. Every path. -/

section Paths

variable (env : RcvEnv) (skb : InSkb)

/-- The `TCP_NEW_SYN_RECV` branch takes the packet once and puts the
listener it holds. -/
theorem rcvNewSynRecv_tally :
    skbTaken (rcvNewSynRecv env skb).1 = 1 ∧ lockBalance (rcvNewSynRecv env skb).1 = 0 ∧
      putCount (rcvNewSynRecv env skb).1 = 1 ∧ holdCount (rcvNewSynRecv env skb).1 = 1 := by
  unfold rcvNewSynRecv
  dsimp only
  split_ifs <;> simp [discardAndRelse]

/-- A socket in any other state: the packet is taken once, the lock is
released as often as it is taken, and the lookup's reference is put once
if it was taken. -/
theorem rcvDeliver_tally (sk : Looked) :
    skbTaken (rcvDeliver env sk).1 = 1 ∧ lockBalance (rcvDeliver env sk).1 = 0 ∧
      putCount (rcvDeliver env sk).1 = sk.refcounted.toNat ∧
      holdCount (rcvDeliver env sk).1 = 0 := by
  have hb := tcpNipAddBacklog_cases env sk
  unfold rcvDeliver
  by_cases hf : env.filter
  · simp [hf, discardAndRelse]
  by_cases hl : sk.state = .listen
  · simp [hf, hl, tcpNipDoRcv_tally]
  cases ho : sk.ownedByUser
  · simp [hf, hl, ho, tcpNipDoRcv_tally]
  · rcases hb with h | h <;> simp [hf, hl, ho, h, discardAndRelse]

/-- The fill adds nothing to the tallies. -/
theorem rcvSock_tally (sk : Looked) :
    skbTaken (rcvSock env skb sk).1 = 1 ∧ lockBalance (rcvSock env skb sk).1 = 0 ∧
      putCount (rcvSock env skb sk).1 = sk.refcounted.toNat ∧
      holdCount (rcvSock env skb sk).1 = 0 := by
  simpa [rcvSock] using rcvDeliver_tally env sk

end Paths

/-! ## §6. The dispatch. -/

/-- The packets `tcp_nip_rcv` keeps: for the host, with a good checksum and
a data offset of at least five words. -/
def RcvGate (skb : InSkb) : Prop := skb.pktHost = true ∧ skb.csumOk = true ∧ 5 ≤ skb.th.doff

instance (skb : InSkb) : Decidable (RcvGate skb) := inferInstanceAs (Decidable (_ ∧ _ ∧ _))

/-- Any other packet is freed at once. -/
theorem tcpNipRcv_drops (env : RcvEnv) {skb : InSkb} (hg : ¬RcvGate skb) :
    tcpNipRcv env skb = ([.kfreeSkb], 0) := by
  unfold tcpNipRcv
  cases h1 : skb.pktHost
  · rfl
  cases h2 : skb.csumOk
  · rfl
  have h3 : skb.th.doff < 20 / 4 := by
    by_contra h
    exact hg ⟨h1, h2, by omega⟩
  simp only [Bool.not_true, Bool.false_eq_true, if_false, if_pos h3]

/-- A kept packet goes to the socket the lookup returns. -/
theorem tcpNipRcv_of_gate (env : RcvEnv) {skb : InSkb} (hg : RcvGate skb) :
    tcpNipRcv env skb =
      match env.lookup with
      | none => (tcpNipSendReset skb ++ [.kfreeSkb], 0)
      | some sk =>
        if sk.state = .timeWait then ([.kfreeSkb], 0)
        else if sk.state = .newSynRecv then rcvNewSynRecv env skb
        else rcvSock env skb sk := by
  obtain ⟨h1, h2, h3⟩ := hg
  have h3' : ¬skb.th.doff < 20 / 4 := by omega
  simp only [tcpNipRcv, h1, h2, h3', Bool.not_true, Bool.false_eq_true, if_false]

/-- On every path the packet is handed on or freed exactly once. -/
theorem tcpNipRcv_consumes_once (env : RcvEnv) (skb : InSkb) :
    skbTaken (tcpNipRcv env skb).1 = 1 := by
  by_cases hg : RcvGate skb
  · rw [tcpNipRcv_of_gate env hg]
    cases env.lookup with
    | none => simp [(tcpNipSendReset_tally skb).1]
    | some sk =>
      dsimp only
      split_ifs
      · rfl
      · exact (rcvNewSynRecv_tally env skb).1
      · exact (rcvSock_tally env skb sk).1
  · rw [tcpNipRcv_drops env hg]; rfl

/-- On every path the lock is released as often as it is taken. -/
theorem tcpNipRcv_unlocks (env : RcvEnv) (skb : InSkb) : lockBalance (tcpNipRcv env skb).1 = 0 := by
  by_cases hg : RcvGate skb
  · rw [tcpNipRcv_of_gate env hg]
    cases env.lookup with
    | none => simp [(tcpNipSendReset_tally skb).2]
    | some sk =>
      dsimp only
      split_ifs
      · rfl
      · exact (rcvNewSynRecv_tally env skb).2.1
      · exact (rcvSock_tally env skb sk).2.1
  · rw [tcpNipRcv_drops env hg]; rfl

/-- A socket in any state but `TCP_TIME_WAIT` and `TCP_NEW_SYN_RECV` gets
the packet through `rcvSock`. -/
theorem tcpNipRcv_sock {env : RcvEnv} {skb : InSkb} (hg : RcvGate skb) {sk : Looked}
    (hl : env.lookup = some sk) (htw : sk.state ≠ .timeWait) (hnsr : sk.state ≠ .newSynRecv) :
    tcpNipRcv env skb = rcvSock env skb sk := by
  rw [tcpNipRcv_of_gate env hg, hl]
  simp only [htw, hnsr, if_false]

/-- The lookup's reference on such a socket is put once if it was taken,
and no other reference is taken. -/
theorem tcpNipRcv_releases {env : RcvEnv} {skb : InSkb} (hg : RcvGate skb) {sk : Looked}
    (hl : env.lookup = some sk) (htw : sk.state ≠ .timeWait) (hnsr : sk.state ≠ .newSynRecv) :
    putCount (tcpNipRcv env skb).1 = sk.refcounted.toNat ∧ holdCount (tcpNipRcv env skb).1 = 0 := by
  rw [tcpNipRcv_sock hg hl htw hnsr]
  exact (rcvSock_tally env skb sk).2.2

/-- An established socket, not owned by its user, found by a refcounted
lookup, with every handler accepting. -/
def establishedRcvEnv : RcvEnv :=
  ⟨some ⟨.established, false, 0, 0, true⟩, false, .null, false, false, fun _ => false⟩

/-- The same socket in `TCP_TIME_WAIT`. -/
def timeWaitRcvEnv : RcvEnv :=
  { establishedRcvEnv with lookup := some ⟨.timeWait, false, 0, 0, true⟩ }

/-- A well-formed ACK with no payload. -/
def ackSkb : InSkb := ⟨true, true, 20, ⟨1000, 2000, 5, false, false, false, true⟩⟩

/-- The ACK reaches the established socket, whose reference is put once. -/
theorem tcpNipRcv_releases_established :
    RcvGate ackSkb ∧ putCount (tcpNipRcv establishedRcvEnv ackSkb).1 = 1 ∧
      holdCount (tcpNipRcv establishedRcvEnv ackSkb).1 = 0 :=
  ⟨by decide, @tcpNipRcv_releases establishedRcvEnv ackSkb (by decide) _ rfl (by decide) (by decide)⟩

theorem tcpNipRcv_time_wait_leaks :
    timeWaitRcvEnv.lookup.map Looked.refcounted = some true ∧
      (tcpNipRcv timeWaitRcvEnv ackSkb).1 = [.kfreeSkb] ∧
      putCount (tcpNipRcv timeWaitRcvEnv ackSkb).1 = 0 ∧
      putCount (tcpNipRcv establishedRcvEnv ackSkb).1 = 1 :=
  ⟨rfl, rfl, rfl, rfl⟩

/-- A 20-byte segment whose header gives a length of fifteen words. -/
def shortSkb : InSkb := ⟨true, true, 20, ⟨1000, 0, 15, false, false, false, false⟩⟩

theorem tcpNipRcv_short_segment_wraps :
    RcvGate shortSkb ∧ shortSkb.len < shortSkb.th.doff * 4 ∧
      (tcpNipRcv establishedRcvEnv shortSkb).1 =
        [.fillCb ⟨1000, 960, 0⟩, .bhLock, .rcvEstablished, .bhUnlock, .sockPut] ∧
      seqSub 960 1000 = 2 ^ 32 - 40 ∧
      (tcpNipRcv { establishedRcvEnv with lookup := none } shortSkb).1 = [.sendReset 0 960, .kfreeSkb] :=
  ⟨by decide, by decide, rfl, by decide, rfl⟩

/-! ## §7. Early demultiplexing. -/

/-- The fields of an inbound `sk_buff` that `tcp_nip_early_demux` reads. -/
structure DemuxSkb where
  /-- `skb->pkt_type == PACKET_HOST`. -/
  pktHost : Bool
  /-- `pskb_may_pull(skb, skb_transport_offset(skb) + sizeof(struct tcphdr))`. -/
  pullsHeader : Bool
  /-- `dev_net(skb->dev)`. -/
  net : Nat
  /-- `NIPCB(skb)->srcaddr`. -/
  srcaddr : NipAddr
  /-- `NIPCB(skb)->dstaddr`. -/
  dstaddr : NipAddr
  /-- `th->source`. -/
  source : Nat
  /-- `ntohs(th->dest)`. -/
  dest : Nat
  /-- `th->doff`. -/
  doff : Nat
  /-- `skb->skb_iif`. -/
  iif : Nat

/-- `tcp_nip_early_demux(skb)`: the socket it attaches to the packet. -/
def tcpNipEarlyDemux (H : HashFns) (h : Hashinfo) (skb : DemuxSkb) : Option Nat :=
  if !skb.pktHost then none
  else if !skb.pullsHeader then none
  else if skb.doff < 20 / 4 then none
  else ninetLookupEstablished H h skb.net skb.srcaddr skb.source skb.dstaddr skb.dest skb.iif

/-- The checks before the lookup. -/
def DemuxSkb.Kept (skb : DemuxSkb) : Prop :=
  skb.pktHost = true ∧ skb.pullsHeader = true ∧ 5 ≤ skb.doff

/-- The tuple a packet carries, in the order of `NSock.tuple`. -/
def DemuxSkb.tuple (skb : DemuxSkb) : Nat × NipAddr × NipAddr × Nat × Nat × Nat :=
  (skb.net, skb.srcaddr, skb.dstaddr, skb.source, skb.dest, skb.iif)

section Demux

variable {H : HashFns} {h : Hashinfo} {skb : DemuxSkb}

theorem tcpNipEarlyDemux_of_kept (hk : skb.Kept) :
    tcpNipEarlyDemux H h skb =
      ninetLookupEstablished H h skb.net skb.srcaddr skb.source skb.dstaddr skb.dest skb.iif := by
  obtain ⟨h1, h2, h3⟩ := hk
  have h3' : ¬skb.doff < 20 / 4 := by omega
  simp only [tcpNipEarlyDemux, h1, h2, h3', Bool.not_true, Bool.false_eq_true, if_false]

/-- A packet that carries a connected socket's tuple seen from its peer is
attached to that socket, if a reference can be taken on it. -/
theorem tcpNipEarlyDemux_finds (hi : TableInv H h) {b id : Nat} (hb : h.OnEhash b id)
    (hr : (h.socks id).refcnt ≠ 0) (hk : skb.Kept) (ht : skb.tuple = (h.socks id).tuple) :
    tcpNipEarlyDemux H h skb = some id := by
  simp only [DemuxSkb.tuple, NSock.tuple, Prod.mk.injEq] at ht
  obtain ⟨h1, h2, h3, h4, h5, h6⟩ := ht
  rw [tcpNipEarlyDemux_of_kept hk, h1, h2, h3, h4, h5, h6]
  exact ninetLookupEstablished_finds hi hb hr

/-- The table after `sampleEstablishedOps`. -/
def sampleEstablishedTable : Hashinfo :=
  runOps sampleHashFns (fun h _ => h) sampleEstablishedOps (Hashinfo.empty sampleSocks true)

theorem tableInv_sampleEstablished : TableInv sampleHashFns sampleEstablishedTable :=
  tableInv_runOps (fun h _ => h) sampleEstablishedOps (tableInv_empty sampleHashFns sampleSocks true)
    ⟨⟨rfl, .inl rfl⟩, ⟨rfl, by decide, rfl⟩, trivial, ⟨rfl, by decide, rfl⟩, trivial⟩

/-- The reply from `[30, 40]` port 5000 to the sample socket's port 4001. -/
def replySkb : DemuxSkb := ⟨true, true, 0, ⟨32, [30, 40]⟩, ⟨32, [10, 20]⟩, 5000, 4001, 5, 0⟩

theorem tcpNipEarlyDemux_finds_reply :
    tcpNipEarlyDemux sampleHashFns sampleEstablishedTable replySkb = some 3 :=
  tcpNipEarlyDemux_finds tableInv_sampleEstablished (b := _) rfl (by decide) ⟨rfl, rfl, by decide⟩
    rfl

/-- Whatever early demultiplexing attaches is a connected NewIP socket with
the packet's tuple and a reference to take. -/
theorem tcpNipEarlyDemux_sound (hi : TableInv H h) {id : Nat}
    (hd : tcpNipEarlyDemux H h skb = some id) :
    (∃ b, h.OnEhash b id) ∧ (h.socks id).ninet = true ∧ (h.socks id).tuple = skb.tuple ∧
      (h.socks id).refcnt ≠ 0 := by
  by_cases hk : skb.Kept
  · rw [tcpNipEarlyDemux_of_kept hk] at hd
    obtain ⟨hm, -, hmt, hr⟩ := lookupChain_sound _ _ _ _ _ _ _ _ hd
    obtain ⟨hni, ht⟩ := (ninetMatch_iff _ _ _ _ _ _).1 hmt
    exact ⟨⟨_, (hi.ehash.mem _ id).1 hm⟩, hni, ht, hr⟩
  · unfold DemuxSkb.Kept at hk
    unfold tcpNipEarlyDemux at hd
    split_ifs at hd with h1 h2 h3
    simp only [Bool.not_eq_true', Bool.not_eq_false] at h1 h2
    exact absurd ⟨h1, h2, by omega⟩ hk

end Demux

theorem tcpNipEarlyDemux_sound_reply :
    (∃ b, sampleEstablishedTable.OnEhash b 3) ∧ (sampleEstablishedTable.socks 3).ninet = true ∧
      (sampleEstablishedTable.socks 3).tuple = replySkb.tuple ∧
      (sampleEstablishedTable.socks 3).refcnt ≠ 0 :=
  tcpNipEarlyDemux_sound tableInv_sampleEstablished (by decide)

end NipTcp
