/-
  NipTcp.Sock.Child — the passive open: the request hooks and
  `tcp_nip_syn_recv_sock`.

  A listener answers a SYN through `tcp_newip_conn_request` (not among the
  sources), which calls the hooks of `tcp_request_sock_newip_ops`:
  `tcp_nip_init_req` records the SYN's addresses in the request,
  `tcp_nip_route_req` looks up the route back to the sender,
  `tcp_nip_init_sequence` draws the ISN, and `tcp_nip_send_synack` answers.
  When the handshake completes, `tcp_nip_syn_recv_sock` makes the child
  socket from the request.

  `tcp_nip_syn_recv_sock` works on a route reference, given by its caller or
  looked up on the spot, and has four exits besides success: the accept
  queue is full (`out_overflow:`), no route (`out:`), no child
  (`out_nonewsk:`), or the child cannot inherit the listener's port
  (`put_and_exit:`, which closes the child by force and falls into `out:`).
  What the call does beyond the child is a list of `ChildEvent`s; the kernel
  functions it calls are an environment `ChildEnv`.

  Main results:
    * `tcpNipSynRecvSock_balanced` — on every path the route the call holds
      is released exactly once and no other route is; the listener counts
      one drop exactly when no child is returned; `*own_req` is written
      exactly when one is; and a child keeps the one reference the call
      took on the SYN's route.
-/
import NipTcp.Hash.Table

namespace NipTcp

/-! ## §1. The request hooks. -/

/-- `TCP_BASE_MSS` (`include/net/tcp.h`). -/
def TCP_BASE_MSS : Nat := 1024

/-- The segment a hook reads: `NIPCB(skb)->srcaddr` and `->dstaddr`,
`th->source` and `th->dest` in host order, `skb_dst(skb)` and
`skb->skb_iif`. -/
structure SynSkb where
  srcaddr : NipAddr
  dstaddr : NipAddr
  source : Nat
  dest : Nat
  dst : Option Nat
  iif : Nat
  deriving Repr, DecidableEq

/-- `struct inet_request_sock` as the hooks use it. -/
structure ReqSock where
  /-- `ireq->ir_nip_rmt_addr` and `ireq->ir_nip_loc_addr`. -/
  rmtAddr : NipAddr
  locAddr : NipAddr
  /-- `ireq->nip_pktopts`. -/
  pktopts : Option Nat
  deriving Repr, DecidableEq

/-- `tcp_nip_init_req(req, sk_listener, skb)`: the peer is the SYN's
source, the local address its destination. -/
def tcpNipInitReq (req : ReqSock) (skb : SynSkb) : ReqSock :=
  { req with rmtAddr := skb.srcaddr, locAddr := skb.dstaddr }

/-- `tcp_nip_init_sequence(skb)`, with `secureSeq` the source's
`secure_tcp_nip_sequence_number`: the tuple from the listener's side. -/
def tcpNipInitSequence (secureSeq : NipAddr → NipAddr → Nat → Nat → Nat) (skb : SynSkb) : Nat :=
  secureSeq skb.dstaddr skb.srcaddr skb.dest skb.source

/-- `seq_scale(seq)`: the sequence plus the real-time clock
`ktime_get_real_ns()` in 64 ns ticks, cut to a `u32`. -/
def seqScale (clockNs seq : Nat) : Nat := (seq + clockNs / 64) % 2 ^ 32

/-- `secure_tcp_nip_sequence_number(saddr, daddr, sport, dport)`, with
`siphash` the keyed hash of the tuple under `net_secret` and `clockNs` the
clock: the hash, cut to its `u32 hash`, scaled by the clock.  It is the
`secureSeq` of `tcp_nip_init_sequence` and of `tcp_nip_connect`. -/
def secureTcpNipSequenceNumber (siphash : NipAddr → NipAddr → Nat → Nat → Nat) (clockNs : Nat)
    (saddr daddr : NipAddr) (sport dport : Nat) : Nat :=
  seqScale clockNs (siphash saddr daddr sport dport % 2 ^ 32)

/-- `tcp_nip_route_req(sk, fl, req)`, with `nipRouteOutput` the kernel's
`nip_route_output` for a destination: a route holding a reference, or
`NULL`. -/
def tcpNipRouteReq (nipRouteOutput : NipAddr → Option Nat) (req : ReqSock) : Option Nat :=
  nipRouteOutput req.rmtAddr

/-- `tcp_nip_send_synack(...)`: `-ENOMEM` unless `tcp_nip_make_synack`
built the segment, else what `nip_send_synack` returns for it. -/
def tcpNipSendSynack (makeSynack : Option Nat) (nipSendSynack : Nat → Int) : Int :=
  match makeSynack with
  | none => -ENOMEM
  | some skb => nipSendSynack skb

/-- `tcp_nip_reqsk_destructor(req)`: the skbs it frees (`kfree_skb(NULL)`
frees none). -/
def tcpNipReqskDestructor (req : ReqSock) : List Nat := req.pktopts.toList

/-! ## §2. The child. -/

/-- The listener's fields the call reads: `sk_ack_backlog`,
`sk_max_ack_backlog` and `tp->rx_opt.user_mss`. -/
structure ListenSk where
  ackBacklog : Nat
  maxAckBacklog : Nat
  userMss : Nat
  deriving Repr, DecidableEq

/-- `sk_acceptq_is_full(sk)` (`include/net/sock.h`). -/
def ListenSk.acceptqIsFull (sk : ListenSk) : Bool := decide (sk.maxAckBacklog < sk.ackBacklog)

/-- The child's fields the call writes. -/
structure ChildSock where
  /-- The fields the tables read, with `sk_nip_daddr` and
  `sk_nip_rcv_saddr`. -/
  nsk : NSock
  /-- `sk->sk_rx_dst` and `inet_sk(sk)->rx_dst_ifindex`. -/
  rxDst : Option Nat
  rxDstIfindex : Nat
  /-- `newinet->inet_opt`. -/
  inetOpt : Option Nat
  /-- `icsk_ext_hdr_len`, `retrans_stamp`, `mss_cache`. -/
  extHdrLen : Nat
  retransStamp : Nat
  mssCache : Nat
  /-- `tp->nip_out_of_order_queue`. -/
  ofoQueue : List Nat
  /-- `tp->advmss`. -/
  advmss : Nat
  deriving Repr, DecidableEq

/-- What the call does beyond the child. -/
inductive ChildEvent where
  /-- `__NET_INC_STATS(net, LINUX_MIB_LISTENOVERFLOWS)`. -/
  | listenOverflow
  /-- `tcp_listendrop(sk)`. -/
  | listenDrop
  /-- `dst_hold_safe(dst)` took a reference, which `sk_rx_dst` keeps. -/
  | dstHold (dst : Nat)
  /-- `dst_release(dst)`. -/
  | dstRelease (dst : Nat)
  /-- `inet_csk_prepare_forced_close(newsk); tcp_nip_done(newsk)`. -/
  | forcedClose
  deriving Repr, DecidableEq

/-- What the kernel's functions do during the call. -/
structure ChildEnv where
  /-- `nip_route_output(net, sk, &fln)` for `fln.daddr`. -/
  nipRouteOutput : NipAddr → Option Nat
  /-- `tcp_nip_create_openreq_child(sk, req, skb)`: the clone, or `NULL`. -/
  createOpenreqChild : Option ChildSock
  /-- `dst_hold_safe(dst)`: whether a reference could be taken. -/
  dstHoldSafe : Nat → Bool
  /-- `dst_metric_advmss(dst)`. -/
  dstMetricAdvmss : Nat → Nat
  /-- `__inet_inherit_port(sk, newsk)`. -/
  inheritPort : Int
  /-- `inet_ehash_nolisten(newsk, req_to_sk(req_unhash), &found_dup_sk)`. -/
  ehashNolisten : Bool
  jiffies : Nat

/-- `ninet_sk_rx_dst_set(sk, skb)`: keep the segment's route, if a
reference can be taken on it, with the interface it came in on. -/
def ninetSkRxDstSet (env : ChildEnv) (c : ChildSock) (skb : SynSkb) : ChildSock × List ChildEvent :=
  match skb.dst with
  | some dst =>
    if env.dstHoldSafe dst then ({ c with rxDst := some dst, rxDstIfindex := skb.iif }, [.dstHold dst])
    else (c, [])
  | none => (c, [])

/-- `out:`, which `out_overflow:` and `out_nonewsk:` fall into: release the
route (`dst_release(NULL)` does nothing) and count the drop. -/
def synRecvOut (dst : Option Nat) : List ChildEvent :=
  (dst.map .dstRelease).toList ++ [.listenDrop]

/-- The child's fields once it exists: the request's addresses, no IP
options, the base MSS, no out-of-order list, and the route's advertised MSS
capped by the listener's `TCP_MAXSEG`.  `tcp_nip_initialize_rcv_mss` (not
among the sources) is left out. -/
def synRecvFill (env : ChildEnv) (sk : ListenSk) (req : ReqSock) (dst : Nat) (c : ChildSock) :
    ChildSock :=
  let advmss := env.dstMetricAdvmss dst
  { c with
    nsk := { c.nsk with daddr := req.rmtAddr, rcvSaddr := req.locAddr }
    inetOpt := none
    extHdrLen := 0
    retransStamp := env.jiffies
    mssCache := TCP_BASE_MSS
    ofoQueue := []
    advmss := if sk.userMss ≠ 0 ∧ sk.userMss < advmss then sk.userMss else advmss }

/-- `tcp_nip_syn_recv_sock(sk, skb, req, dst, req_unhash, own_req)`: the
child or `NULL`, what it wrote to `*own_req` (if anything), and the
events. -/
def tcpNipSynRecvSock (env : ChildEnv) (sk : ListenSk) (skb : SynSkb) (req : ReqSock)
    (dst : Option Nat) : Option ChildSock × Option Bool × List ChildEvent :=
  if sk.acceptqIsFull then (none, none, .listenOverflow :: synRecvOut dst) else
  let dst := if dst.isNone then env.nipRouteOutput req.rmtAddr else dst
  match dst with
  | none => (none, none, synRecvOut none)
  | some d =>
    match env.createOpenreqChild with
    | none => (none, none, synRecvOut (some d))
    | some c =>
      let r := ninetSkRxDstSet env c skb
      let c := synRecvFill env sk req d r.1
      if env.inheritPort < 0 then (none, none, r.2 ++ .forcedClose :: synRecvOut (some d))
      else (some c, some env.ehashNolisten, r.2 ++ [.dstRelease d])

/-! ## §3. References and drops. -/

/-- The routes a list of events releases, and those it holds. -/
def ChildEvent.released : List ChildEvent → List Nat
  | [] => []
  | .dstRelease d :: evs => d :: ChildEvent.released evs
  | _ :: evs => ChildEvent.released evs

def ChildEvent.held : List ChildEvent → List Nat
  | [] => []
  | .dstHold d :: evs => d :: ChildEvent.held evs
  | _ :: evs => ChildEvent.held evs

/-- The drops a list of events counts. -/
def ChildEvent.drops : List ChildEvent → Nat
  | [] => 0
  | .listenDrop :: evs => ChildEvent.drops evs + 1
  | _ :: evs => ChildEvent.drops evs

@[simp] theorem ChildEvent.released_append (a b : List ChildEvent) :
    ChildEvent.released (a ++ b) = ChildEvent.released a ++ ChildEvent.released b := by
  induction a with
  | nil => rfl
  | cons e a ih => cases e <;> simp [ChildEvent.released, ih]

@[simp] theorem ChildEvent.held_append (a b : List ChildEvent) :
    ChildEvent.held (a ++ b) = ChildEvent.held a ++ ChildEvent.held b := by
  induction a with
  | nil => rfl
  | cons e a ih => cases e <;> simp [ChildEvent.held, ih]

@[simp] theorem ChildEvent.drops_append (a b : List ChildEvent) :
    ChildEvent.drops (a ++ b) = ChildEvent.drops a + ChildEvent.drops b := by
  induction a with
  | nil => simp [ChildEvent.drops]
  | cons e a ih =>
    cases e <;> simp [ChildEvent.drops, ih]
    omega

/-- `out:` releases the route it is given and counts one drop. -/
@[simp] theorem synRecvOut_released (dst : Option Nat) :
    ChildEvent.released (synRecvOut dst) = dst.toList := by
  cases dst <;> rfl

@[simp] theorem synRecvOut_held (dst : Option Nat) : ChildEvent.held (synRecvOut dst) = [] := by
  cases dst <;> rfl

@[simp] theorem synRecvOut_drops (dst : Option Nat) : ChildEvent.drops (synRecvOut dst) = 1 := by
  cases dst <;> rfl

/-- Keeping the segment's route either does nothing or takes one reference
on it, which the child keeps. -/
theorem ninetSkRxDstSet_cases (env : ChildEnv) (c : ChildSock) (skb : SynSkb) :
    ninetSkRxDstSet env c skb = (c, []) ∨
      ∃ d, skb.dst = some d ∧
        ninetSkRxDstSet env c skb = ({ c with rxDst := some d, rxDstIfindex := skb.iif }, [.dstHold d]) := by
  unfold ninetSkRxDstSet
  cases skb.dst with
  | none => exact .inl rfl
  | some d =>
    by_cases hh : env.dstHoldSafe d
    · exact .inr ⟨d, rfl, by simp [hh]⟩
    · exact .inl (by simp [hh])

@[simp] theorem synRecvFill_rxDst (env : ChildEnv) (sk : ListenSk) (req : ReqSock) (d : Nat)
    (c : ChildSock) : (synRecvFill env sk req d c).rxDst = c.rxDst := rfl

/-- On every path of `tcp_nip_syn_recv_sock` the route it holds — the one
it was given, or the one it looked up once the accept queue had room — is
released exactly once, and no other route is.  The listener counts one drop
exactly when no child is returned, and `*own_req` is written exactly when
one is.  The only reference the call takes is on the segment's route, and
a child it returns keeps it. -/
theorem tcpNipSynRecvSock_balanced (env : ChildEnv) (sk : ListenSk) (skb : SynSkb) (req : ReqSock)
    (dst : Option Nat) (child : Option ChildSock) (own : Option Bool) (evs : List ChildEvent)
    (h : tcpNipSynRecvSock env sk skb req dst = (child, own, evs)) :
    ChildEvent.released evs =
        (if sk.acceptqIsFull then dst else dst.or (env.nipRouteOutput req.rmtAddr)).toList ∧
      ChildEvent.drops evs = (if child.isNone then 1 else 0) ∧ own.isSome = child.isSome ∧
      (ChildEvent.held evs = [] ∨
        ∃ d, skb.dst = some d ∧ ChildEvent.held evs = [d] ∧ ∀ c, child = some c → c.rxDst = some d) := by
  unfold tcpNipSynRecvSock at h
  by_cases hf : sk.acceptqIsFull
  · rw [if_pos hf] at h
    simp only [Prod.mk.injEq] at h
    obtain ⟨rfl, rfl, rfl⟩ := h
    simp [hf, ChildEvent.released, ChildEvent.drops, ChildEvent.held]
  rw [if_neg hf] at h
  have key : (if dst.isNone then env.nipRouteOutput req.rmtAddr else dst) =
      dst.or (env.nipRouteOutput req.rmtAddr) := by cases dst <;> rfl
  dsimp only at h
  rw [if_neg hf, ← key]
  generalize (if dst.isNone then env.nipRouteOutput req.rmtAddr else dst) = route at h ⊢
  rcases route with _ | d
  · simp only [Prod.mk.injEq] at h
    obtain ⟨rfl, rfl, rfl⟩ := h
    simp
  rcases hc : env.createOpenreqChild with _ | c
  · simp only [hc, Prod.mk.injEq] at h
    obtain ⟨rfl, rfl, rfl⟩ := h
    simp
  rcases ninetSkRxDstSet_cases env c skb with hr | ⟨d', hd', hr⟩
  · by_cases hi : env.inheritPort < 0 <;>
      simp only [hc, hr, hi, if_true, if_false, Prod.mk.injEq] at h <;>
      obtain ⟨rfl, rfl, rfl⟩ := h <;>
      simp [ChildEvent.released, ChildEvent.drops, ChildEvent.held]
  · by_cases hi : env.inheritPort < 0 <;>
      simp only [hc, hr, hi, if_true, if_false, Prod.mk.injEq] at h <;>
      obtain ⟨rfl, rfl, rfl⟩ := h <;>
      simp [ChildEvent.released, ChildEvent.drops, ChildEvent.held, hd']

/-- A listener with room in its accept queue and `TCP_MAXSEG` 1200. -/
def roomyListener : ListenSk := ⟨3, 128, 1200⟩

/-- A SYN from `[30, 40]` port 5000 to `[10, 20]` port 80, come in on
interface 2 over route 9. -/
def sampleSyn : SynSkb := ⟨⟨32, [30, 40]⟩, ⟨32, [10, 20]⟩, 5000, 80, some 9, 2⟩

/-- A kernel that finds route 7 back to every peer, clones the listener,
takes every reference asked for, advertises MSS 1400 and lets the child
inherit the port. -/
def cloneOkEnv : ChildEnv :=
  ⟨fun _ => some 7,
    some ⟨⟨0, true, .synRecv, ⟨0, []⟩, ⟨0, []⟩, 80, 80, 5000, 0, 0, false, 0, 2⟩, none, 0, none,
      0, 0, 0, [], 0⟩,
    fun _ => true, fun _ => 1400, 0, true, 100⟩

theorem tcpNipSynRecvSock_balanced_sample :
    ∃ child own evs,
      tcpNipSynRecvSock cloneOkEnv roomyListener sampleSyn
          (tcpNipInitReq ⟨⟨0, []⟩, ⟨0, []⟩, none⟩ sampleSyn) none = (child, own, evs) ∧
        ChildEvent.released evs = (if roomyListener.acceptqIsFull then none
          else none.or (cloneOkEnv.nipRouteOutput
            (tcpNipInitReq ⟨⟨0, []⟩, ⟨0, []⟩, none⟩ sampleSyn).rmtAddr)).toList ∧
        ChildEvent.drops evs = (if child.isNone then 1 else 0) ∧ own.isSome = child.isSome ∧
        (ChildEvent.held evs = [] ∨ ∃ d, sampleSyn.dst = some d ∧ ChildEvent.held evs = [d] ∧
          ∀ c, child = some c → c.rxDst = some d) :=
  ⟨_, _, _, rfl, tcpNipSynRecvSock_balanced _ _ _ _ _ _ _ _ rfl⟩

end NipTcp
