/-
  NipTcp.Sock.Connect — the active open, `tcp_nip_connect`.

  The call checks the address, looks the route up, fills in the addresses,
  moves the socket to `SYN_SENT`, stores the route in it, binds a local
  port and links the socket in the established table
  (`ninet_hash_connect`), then sends the SYN.  An error before
  `tcp_set_state(sk, TCP_SYN_SENT)` jumps to `failure`, one after it to
  `late_failure`, which first moves the socket back to `TCP_CLOSE`; closing
  runs `ninet_unhash`.

  What the rest of the kernel decides is an environment `ConnectEnv`: the
  route lookup and the address checks, the port search of
  `__inet_hash_connect` (whose check is the source's
  `__ninet_check_established`), the hashes and the SYN's transmission.  The
  route references the call takes and gives up are kept as a list of
  `DstEvent`s.

  Main results:
    * `tcpSetState_close_node` — a socket `tcp_set_state` closes is
      unhashed;
    * `tcpNipConnect_error` — every error exit leaves the socket in
      `TCP_CLOSE`, unhashed and, past the argument checks, with
      `inet_dport` 0; every route it looked up is stored or released,
      except on the two address checks;
    * `tableInv_tcpNipConnect`, `tcpNipConnect_error_unlinked` — every
      connect keeps the table invariant, so a failed one leaves the socket
      on no established chain;
    * `tcpNipConnect_daddr_leaks` — an invalid destination after a route
      was found returns `-EFAULT` still holding that route.
-/
import NipTcp.Hash.Listen

namespace NipTcp

/-! ## §1. The model. -/

/-- `struct sockaddr_nin` as the call reads it. -/
structure SockaddrNin where
  /-- `sin_family == AF_NINET`. -/
  ninet : Bool
  port : Nat
  addr : NipAddr
  deriving Repr, DecidableEq

/-- The fields of a connecting socket the tables do not hold. -/
structure ConnSock where
  /-- `sk->sk_dst_cache`. -/
  dstCache : Option Nat
  routeCaps : Nat
  /-- `icsk->icsk_ext_hdr_len`. -/
  extHdrLen : Nat
  txhash : Nat
  /-- `tp->rx_opt.ts_recent` and `tp->rx_opt.ts_recent_stamp`. -/
  tsRecent : Nat
  tsRecentStamp : Nat
  repair : Bool
  writeSeq : Nat
  /-- `inet->inet_id`. -/
  inetId : Nat
  deriving Repr, DecidableEq

/-- A connecting socket: its table fields, socket `id` of `h`, and the rest. -/
structure ConnState where
  h : Hashinfo
  sk : ConnSock

/-- What becomes of a route reference. -/
inductive DstEvent where
  /-- `nip_dst_lookup_flow` returned the route with a reference for the caller. -/
  | lookup (dst : Nat)
  /-- `sk_dst_set(sk, dst)`: the socket's cache took the reference over. -/
  | set (dst : Nat)
  /-- `dst_release(dst)`. -/
  | release (dst : Nat)
  deriving Repr, DecidableEq

/-- Every route looked up was stored in the socket or released. -/
def DstEvent.Settled (evs : List DstEvent) : Prop :=
  ∀ d, DstEvent.lookup d ∈ evs → DstEvent.set d ∈ evs ∨ DstEvent.release d ∈ evs

/-- What `__inet_hash_connect` finds in the bind table for a port it tries. -/
inductive BindBucket where
  /-- No bucket: one is made and the port taken. -/
  | fresh
  /-- No bucket, and making one fails. -/
  | noMem
  /-- A bucket open to `SO_REUSEADDR` or `SO_REUSEPORT` binds: skipped. -/
  | reusable
  /-- A bucket of connected sockets: the port is taken if the tuple is unique. -/
  | connected
  deriving Repr, DecidableEq

/-- What the rest of the kernel does during a connect. -/
structure ConnectEnv where
  /-- `sizeof(struct sockaddr_nin)`. -/
  sockaddrNinSize : Nat
  /-- `nip_dst_lookup_flow(net, sk, &fln, NULL)` for `fln.flowin_oif` and
  `fln.daddr`: a route, holding a reference, and the source address
  `fln.saddr` it picked; or an errno. -/
  dstLookupFlow : Nat → NipAddr → Except Int (Nat × NipAddr)
  /-- `nip_addr_invalid(addr)`. -/
  nipAddrInvalid : NipAddr → Bool
  /-- `inet_opt->opt.optlen`, when the socket has options. -/
  optlen : Option Nat
  /-- `net_tx_rndhash()`, which `sk_set_txhash` stores. -/
  txRndhash : Nat
  /-- `secure_newip_port_ephemeral(saddr, daddr, dport)`. -/
  portEphemeral : NipAddr → NipAddr → Nat → Nat
  /-- The ports `__inet_hash_connect` tries from a port offset, in order,
  with what their bind buckets hold. -/
  hashConnectPorts : Nat → List (Nat × BindBucket)
  /-- A bound socket is the only owner of its bind bucket. -/
  soleOwner : Bool
  /-- `inet_ehash_nolisten(sk, NULL)`. -/
  ehashNolisten : Hashinfo → Nat → Hashinfo
  /-- `secure_tcp_nip_sequence_number(saddr, daddr, sport, dport)`. -/
  secureSeq : NipAddr → NipAddr → Nat → Nat → Nat
  /-- `prandom_u32()`. -/
  prandom : Nat
  /-- What `__tcp_nip_connect(sk)`, which builds and sends the SYN, returns. -/
  sendSyn : Int

variable (H : HashFns)

/-- Write socket `id`'s table fields. -/
def Hashinfo.setSock (h : Hashinfo) (id : Nat) (sk : NSock) : Hashinfo :=
  { h with socks := Function.update h.socks id sk }

/-- `tcp_set_state(sk, state)`: moving to `TCP_CLOSE` first runs
`sk->sk_prot->unhash(sk)`, `ninet_unhash`; then the state is stored.  The
statistics and the release of the bind bucket are left out. -/
def tcpSetState (h : Hashinfo) (id : Nat) (state : TcpState) : Hashinfo :=
  let h := if state = .close then ninetUnhash H h id else h
  h.setSock id { h.socks id with state := state }

/-- `__inet_hash_connect` for a socket without a port: try the ports in
turn; a fresh bind bucket takes the port at once, and a bucket of connected
sockets takes it if `__ninet_check_established` does. -/
def inetHashConnectPorts (env : ConnectEnv) (h : Hashinfo) (id : Nat) :
    List (Nat × BindBucket) → Hashinfo × Int
  | [] => (h, -EADDRNOTAVAIL)
  | (port, .fresh) :: _ =>
    (env.ehashNolisten (h.setSock id { h.socks id with num := port, sport := port }) id, 0)
  | (_, .noMem) :: _ => (h, -ENOMEM)
  | (_, .reusable) :: ps => inetHashConnectPorts env h id ps
  | (port, .connected) :: ps =>
    let r := ninetCheckEstablished H h id port
    if r.2 = 0 then r else inetHashConnectPorts env h id ps

/-- `__inet_hash_connect(death_row, sk, port_offset, __ninet_check_established)`:
a bound socket that owns its bind bucket alone is linked as it is, another
bound one checks its port. -/
def inetHashConnect (env : ConnectEnv) (h : Hashinfo) (id portOffset : Nat) : Hashinfo × Int :=
  let port := (h.socks id).num
  if port ≠ 0 then
    if env.soleOwner then (env.ehashNolisten h id, 0) else ninetCheckEstablished H h id port
  else inetHashConnectPorts H env h id (env.hashConnectPorts portOffset)

/-- `ninet_hash_connect(death_row, sk)`. -/
def ninetHashConnect (env : ConnectEnv) (h : Hashinfo) (id : Nat) : Hashinfo × Int :=
  let sk := h.socks id
  let portOffset := if sk.num = 0 then env.portEphemeral sk.rcvSaddr sk.daddr sk.dport else 0
  inetHashConnect H env h id portOffset

/-- `failure:` in `tcp_nip_connect`. -/
def connectFailure (c : ConnState) (id : Nat) : ConnState :=
  ⟨c.h.setSock id { c.h.socks id with dport := 0 }, { c.sk with routeCaps := 0 }⟩

/-- `late_failure:`, which falls through to `failure:`. -/
def connectLateFailure (c : ConnState) (id : Nat) : ConnState :=
  connectFailure { c with h := tcpSetState H c.h id .close } id

/-- `sk_dst_set(sk, dst)`: the cache takes `dst`, and the route it held is
released. -/
def skDstSet (s : ConnSock) (dst : Nat) : ConnSock × List DstEvent :=
  ({ s with dstCache := some dst }, .set dst :: (s.dstCache.map DstEvent.release).toList)

/-- After the port is bound: drop what an old timestamp left, draw
`write_seq` if it is 0, and `inet_id`. -/
def connectInitSeq (env : ConnectEnv) (nsk : NSock) (dport : Nat) (s : ConnSock) : ConnSock :=
  let s := if s.tsRecentStamp ≠ 0 then
      { s with tsRecent := 0, tsRecentStamp := 0, writeSeq := if s.repair then s.writeSeq else 0 }
    else s
  let s := if s.writeSeq = 0 then
      { s with writeSeq := env.secureSeq nsk.rcvSaddr nsk.daddr nsk.sport dport }
    else s
  { s with inetId := env.prandom }

/-- `tcp_nip_connect` from the port search on: `ninet_hash_connect`, the
sequence number, and `__tcp_nip_connect`, either failing to
`late_failure:`. -/
def connectBindSend (env : ConnectEnv) (c : ConnState) (id dport : Nat) : ConnState × Int :=
  let r := ninetHashConnect H env c.h id
  let c : ConnState := { c with h := r.1 }
  if r.2 ≠ 0 then (connectLateFailure H c id, r.2) else
  let c : ConnState := { c with sk := connectInitSeq env (c.h.socks id) dport c.sk }
  if env.sendSyn ≠ 0 then (connectLateFailure H c id, env.sendSyn) else (c, 0)

/-- `tcp_nip_connect` once `nip_dst_lookup_flow` found the route `dst` and
the source address `fln.saddr`. -/
def connectRoute (env : ConnectEnv) (c : ConnState) (id : Nat) (usin : SockaddrNin) (dst : Nat)
    (flnSaddr : NipAddr) : ConnState × List DstEvent × Int :=
  let nsk := c.h.socks id
  let saddr := if nsk.rcvSaddr = H.anyAddr then flnSaddr else nsk.rcvSaddr
  let c : ConnState := { c with h := c.h.setSock id { nsk with rcvSaddr := saddr } }
  if env.nipAddrInvalid usin.addr then (connectFailure c id, [.lookup dst], -EFAULT) else
  if env.nipAddrInvalid saddr then (connectFailure c id, [.lookup dst], -EFAULT) else
  let h := c.h.setSock id { c.h.socks id with dport := usin.port, daddr := usin.addr }
  let h := tcpSetState H h id .synSent
  let set := skDstSet { c.sk with extHdrLen := env.optlen.getD 0, txhash := env.txRndhash } dst
  let r := connectBindSend H env ⟨h, set.1⟩ id usin.port
  (r.1, .lookup dst :: set.2, r.2)

/-- `tcp_nip_connect(sk, uaddr, addr_len)` on socket `id`: the socket after
the call, the route references it took and gave up, and its return. -/
def tcpNipConnect (env : ConnectEnv) (c : ConnState) (id : Nat) (usin : SockaddrNin)
    (addrLen : Nat) : ConnState × List DstEvent × Int :=
  if addrLen < env.sockaddrNinSize then (c, [], -EINVAL) else
  if !usin.ninet then (c, [], -EAFNOSUPPORT) else
  match env.dstLookupFlow (c.h.socks id).boundDevIf usin.addr with
  | .error err => (connectFailure c id, [], err)
  | .ok (dst, flnSaddr) => connectRoute H env c id usin dst flnSaddr

/-! ## §2. Closing unhashes. -/

@[simp] theorem Hashinfo.setSock_socks_self (h : Hashinfo) (id : Nat) (sk : NSock) :
    (h.setSock id sk).socks id = sk := Function.update_same _ _ _

@[simp] theorem Hashinfo.setSock_node (h : Hashinfo) (id : Nat) (sk : NSock) :
    (h.setSock id sk).node = h.node := rfl

@[simp] theorem tcpSetState_socks_self (h : Hashinfo) (id : Nat) (s : TcpState) :
    (tcpSetState H h id s).socks id = { h.socks id with state := s } := by
  unfold tcpSetState; split_ifs <;> simp

/-- A socket `tcp_set_state` closes is unhashed. -/
theorem tcpSetState_close_node (h : Hashinfo) (id : Nat) :
    (tcpSetState H h id .close).node id = none := by
  simp [tcpSetState, ninetUnhash_node_self]

@[simp] theorem tcpSetState_synSent_node (h : Hashinfo) (id : Nat) :
    (tcpSetState H h id .synSent).node = h.node := by
  simp [tcpSetState]

/-! ## §3. The error exits. -/

@[simp] theorem connectFailure_socks_self (c : ConnState) (id : Nat) :
    (connectFailure c id).h.socks id = { c.h.socks id with dport := 0 } := by
  simp [connectFailure]

@[simp] theorem connectFailure_node (c : ConnState) (id : Nat) :
    (connectFailure c id).h.node = c.h.node := rfl

/-- `late_failure:` leaves the socket closed, unhashed, with no peer port. -/
theorem connectLateFailure_closed (c : ConnState) (id : Nat) :
    ((connectLateFailure H c id).h.socks id).state = .close ∧
      (connectLateFailure H c id).h.node id = none ∧
      ((connectLateFailure H c id).h.socks id).dport = 0 := by
  simp [connectLateFailure, tcpSetState_close_node]

theorem settled_nil : DstEvent.Settled [] := fun _ h => absurd h (List.not_mem_nil _)

/-- A route looked up and then stored by `sk_dst_set` is settled, and so is
the route the cache held before. -/
theorem settled_lookup_skDstSet (s : ConnSock) (dst : Nat) :
    DstEvent.Settled (.lookup dst :: (skDstSet s dst).2) := by
  intro d hd
  cases ho : s.dstCache <;> simp_all [skDstSet]

/-- Past the port search, every failure goes through `late_failure:`. -/
theorem connectBindSend_error (env : ConnectEnv) (c : ConnState) (id dport : Nat)
    (herr : (connectBindSend H env c id dport).2 ≠ 0) :
    ∃ c', (connectBindSend H env c id dport).1 = connectLateFailure H c' id := by
  unfold connectBindSend at herr ⊢
  dsimp only at herr ⊢
  split_ifs at herr ⊢
  · exact ⟨_, rfl⟩
  · exact ⟨_, rfl⟩
  · exact absurd rfl herr

/-- The failures once a route is found: the address checks return through
`failure:` holding the route, the later ones through `late_failure:` with it
stored. -/
theorem connectRoute_error (env : ConnectEnv) (c : ConnState) (id : Nat) (usin : SockaddrNin)
    (dst : Nat) (fs : NipAddr) (hclose : (c.h.socks id).state = .close) (hun : c.h.node id = none)
    (herr : (connectRoute H env c id usin dst fs).2.2 ≠ 0) :
    let r := connectRoute H env c id usin dst fs
    (r.1.h.socks id).state = .close ∧ r.1.h.node id = none ∧ (r.1.h.socks id).dport = 0 ∧
      (DstEvent.Settled r.2.1 ∨ r.2.2 = -EFAULT ∧ r.2.1 = [.lookup dst]) := by
  unfold connectRoute at herr ⊢
  dsimp only at herr ⊢
  generalize (if (c.h.socks id).rcvSaddr = H.anyAddr then fs else (c.h.socks id).rcvSaddr) = sa
    at herr ⊢
  split_ifs at herr ⊢
  iterate 2 exact ⟨by simpa using hclose, hun, by simp, .inr ⟨rfl, rfl⟩⟩
  obtain ⟨c', hc'⟩ := connectBindSend_error H env _ id usin.port herr
  obtain ⟨hs, hn, hd⟩ := connectLateFailure_closed H c' id
  exact ⟨hc' ▸ hs, hc' ▸ hn, hc' ▸ hd, .inl (settled_lookup_skDstSet _ _)⟩

/-- Every error exit of `tcp_nip_connect` on a closed, unhashed socket
leaves it closed and unhashed.  The argument checks return before touching
it; every later exit clears `inet_dport`.  Every route the call looked up is
in the socket's cache or released, except on the two address checks, which
return `-EFAULT` holding it. -/
theorem tcpNipConnect_error (env : ConnectEnv) (c : ConnState) (id : Nat) (usin : SockaddrNin)
    (addrLen : Nat) (hclose : (c.h.socks id).state = .close) (hun : c.h.node id = none)
    (herr : (tcpNipConnect H env c id usin addrLen).2.2 ≠ 0) :
    let r := tcpNipConnect H env c id usin addrLen
    (r.1.h.socks id).state = .close ∧ r.1.h.node id = none ∧
      (r.1 = c ∨ (r.1.h.socks id).dport = 0) ∧
      (DstEvent.Settled r.2.1 ∨ r.2.2 = -EFAULT ∧ ∃ d, r.2.1 = [.lookup d]) := by
  unfold tcpNipConnect at herr ⊢
  split_ifs at herr ⊢
  iterate 2 exact ⟨hclose, hun, .inl rfl, .inl settled_nil⟩
  rcases hl : env.dstLookupFlow (c.h.socks id).boundDevIf usin.addr with err | ⟨dst, fs⟩ <;>
    simp only [hl] at herr ⊢
  · exact ⟨by simpa using hclose, hun, .inr (by simp), .inl settled_nil⟩
  · obtain ⟨hs, hn, hd, hev⟩ := connectRoute_error H env c id usin _ _ hclose hun herr
    exact ⟨hs, hn, .inr hd, hev.imp_right fun ⟨he, hl⟩ => ⟨he, _, hl⟩⟩

/-! ## §4. The tables. -/

/-- What the port search asks of `inet_ehash_nolisten`: linking an unhashed
NewIP socket that is not listening keeps the table invariant. -/
def ConnectEnv.EhashOk (env : ConnectEnv) : Prop :=
  ∀ h id, TableInv H h → h.node id = none → (h.socks id).state ≠ .listen →
    (h.socks id).ninet = true → TableInv H (env.ehashNolisten h id)

/-- Writing the fields of an unhashed socket keeps the table invariant,
which reads the fields of linked sockets only. -/
theorem tableInv_setSock {h : Hashinfo} (hi : TableInv H h) {id : Nat} (hun : h.node id = none)
    (sk : NSock) : TableInv H (h.setSock id sk) := by
  have hs : ∀ x c, h.node x = some c → (h.setSock id sk).socks x = h.socks x :=
    fun x c hx => Function.update_noteq (fun hxi => by simp [hxi, hun] at hx) _ _
  refine ⟨hi.listening, hi.ehash, hi.lhash2, hi.listeningCount, hi.lhash2Count,
    fun b x hx => ?_, hi.portaddr, fun b x hx => ?_, fun a c ba bc ha hc => ?_⟩
  · rw [hs x _ hx]; exact hi.listener b x hx
  · rw [hs x _ hx]; exact hi.connected b x hx
  · rw [hs a _ ha, hs c _ hc]; exact hi.unique a c ba bc ha hc

theorem tableInv_tcpSetState {h : Hashinfo} (hi : TableInv H h) {id : Nat} {s : TcpState}
    (hs : s = .close ∨ h.node id = none) : TableInv H (tcpSetState H h id s) := by
  unfold tcpSetState
  by_cases hc : s = .close
  · rw [if_pos hc]
    exact tableInv_setSock H (tableInv_unhash hi id) (ninetUnhash_node_self h id) _
  · rw [if_neg hc]
    exact tableInv_setSock H hi (hs.resolve_left hc) _

theorem tableInv_connectLateFailure {c : ConnState} (hi : TableInv H c.h) (id : Nat) :
    TableInv H (connectLateFailure H c id).h :=
  tableInv_setSock H (tableInv_tcpSetState H hi (.inl rfl)) (tcpSetState_close_node H c.h id) _

section Tables

variable {H} {env : ConnectEnv} (henv : env.EhashOk H)
include henv

theorem tableInv_inetHashConnectPorts {h : Hashinfo} (hi : TableInv H h) {id : Nat}
    (hun : h.node id = none) (hnl : (h.socks id).state ≠ .listen)
    (hni : (h.socks id).ninet = true) :
    ∀ ps, TableInv H (inetHashConnectPorts H env h id ps).1
  | [] => hi
  | (_, .fresh) :: _ => henv _ _ (tableInv_setSock H hi hun _) hun (by simpa using hnl) (by simpa)
  | (_, .noMem) :: _ => hi
  | (_, .reusable) :: ps => tableInv_inetHashConnectPorts hi hun hnl hni ps
  | (port, .connected) :: ps => by
    simp only [inetHashConnectPorts]
    split_ifs
    · exact tableInv_checkEstablished hi hun hnl hni port
    · exact tableInv_inetHashConnectPorts hi hun hnl hni ps

/-- `ninet_hash_connect` links an unhashed NewIP socket that is not
listening, or leaves the tables as they were, and keeps the invariant. -/
theorem tableInv_ninetHashConnect {h : Hashinfo} (hi : TableInv H h) {id : Nat}
    (hun : h.node id = none) (hnl : (h.socks id).state ≠ .listen)
    (hni : (h.socks id).ninet = true) : TableInv H (ninetHashConnect H env h id).1 := by
  unfold ninetHashConnect inetHashConnect
  dsimp only
  by_cases hp : (h.socks id).num ≠ 0
  · rw [if_pos hp]
    split
    · exact henv _ _ hi hun hnl hni
    · exact tableInv_checkEstablished hi hun hnl hni _
  · rw [if_neg hp]
    exact tableInv_inetHashConnectPorts henv hi hun hnl hni _

theorem tableInv_connectBindSend {c : ConnState} (hi : TableInv H c.h) {id : Nat}
    (hun : c.h.node id = none) (hnl : (c.h.socks id).state ≠ .listen)
    (hni : (c.h.socks id).ninet = true) (dport : Nat) :
    TableInv H (connectBindSend H env c id dport).1.h := by
  have hr := tableInv_ninetHashConnect henv hi hun hnl hni
  unfold connectBindSend
  dsimp only
  split_ifs
  · exact tableInv_connectLateFailure H (c := ⟨_, _⟩) hr id
  · exact tableInv_connectLateFailure H (c := ⟨_, _⟩) hr id
  · exact hr

/-- `tcp_nip_connect` keeps the table invariant on every exit: it writes
the socket only while it is unhashed, links it through
`__ninet_check_established` or `inet_ehash_nolisten`, and `late_failure:`
unhashes it again. -/
theorem tableInv_tcpNipConnect {c : ConnState} (hi : TableInv H c.h) {id : Nat}
    (hun : c.h.node id = none) (hni : (c.h.socks id).ninet = true) (usin : SockaddrNin)
    (addrLen : Nat) : TableInv H (tcpNipConnect H env c id usin addrLen).1.h := by
  unfold tcpNipConnect
  split_ifs
  iterate 2 exact hi
  rcases env.dstLookupFlow (c.h.socks id).boundDevIf usin.addr with err | ⟨dst, fs⟩
  · exact tableInv_setSock H hi hun _
  · unfold connectRoute
    dsimp only
    generalize (if (c.h.socks id).rcvSaddr = H.anyAddr then fs else (c.h.socks id).rcvSaddr) = sa
    have hi' := tableInv_setSock H hi hun { c.h.socks id with rcvSaddr := sa }
    split_ifs
    iterate 2 exact tableInv_setSock H hi' hun _
    refine tableInv_connectBindSend henv
      (tableInv_tcpSetState H (tableInv_setSock H hi' hun _) (.inr hun)) (by simpa using hun)
      (by simp) (by simpa using hni) _

/-- With the tables consistent, a connect that fails leaves the socket on
no established chain. -/
theorem tcpNipConnect_error_unlinked {c : ConnState} (hi : TableInv H c.h) {id : Nat}
    (hun : c.h.node id = none) (hni : (c.h.socks id).ninet = true)
    (hclose : (c.h.socks id).state = .close) (usin : SockaddrNin) (addrLen : Nat)
    (herr : (tcpNipConnect H env c id usin addrLen).2.2 ≠ 0) (b : Nat) :
    id ∉ (tcpNipConnect H env c id usin addrLen).1.h.ehash b := by
  rw [(tableInv_tcpNipConnect henv hi hun hni usin addrLen).ehash.mem b id, Hashinfo.OnEhash,
    (tcpNipConnect_error H env c id usin addrLen hclose hun herr).2.1]
  exact Option.noConfusion

end Tables

/-! ## §5. A route held past `failure:`. -/

/-- Socket 1, a closed, unbound NewIP socket of namespace 0 on no device,
in tables with nothing linked. -/
def closedConn : ConnState :=
  ⟨Hashinfo.empty (fun _ => ⟨0, true, .close, ⟨0, []⟩, ⟨0, []⟩, 0, 0, 0, 0, 0, false, 0, 1⟩) true,
    ⟨none, 0, 0, 0, 0, 0, false, 0, 0⟩⟩

/-- A kernel whose route lookup finds route 7, from `[10, 20]`, for every
destination, and whose `nip_addr_invalid` rejects an address of bit
length 0. -/
def lookupOkEnv : ConnectEnv :=
  ⟨32, fun _ _ => .ok (7, ⟨32, [10, 20]⟩), fun a => a.bitlen == 0, none, 0, fun _ _ _ => 0,
    fun _ => [], false, fun h _ => h, fun _ _ _ _ => 1, 0, 0⟩

/-- A connect to an address of bit length 0 finds route 7, fails the
destination check and returns `-EFAULT` from `failure:`; the route is
neither in the socket's cache nor released. -/
theorem tcpNipConnect_daddr_leaks :
    ∃ c evs, tcpNipConnect sampleHashFns lookupOkEnv closedConn 1 ⟨true, 80, ⟨0, []⟩⟩ 32 =
        (c, evs, -EFAULT) ∧
      evs = [.lookup 7] ∧ c.sk.dstCache = none ∧ ¬DstEvent.Settled evs :=
  ⟨_, _, rfl, rfl, rfl, fun h => absurd (h 7 (by decide)) (by decide)⟩

/-- `lookupOkEnv` with a port search that tries port 4000 against a bucket
of connected sockets, and a SYN that fails with `-ENOMEM`. -/
def lateFailEnv : ConnectEnv :=
  { lookupOkEnv with hashConnectPorts := fun _ => [(4000, .connected)], sendSyn := -ENOMEM }

/-- A connect of socket 1 to `[30, 40]` port 80 whose port search links it
into bucket 6 through `__ninet_check_established` (as the same call with a
SYN that goes out shows), and whose SYN then fails: `late_failure:`
unlinks it again. -/
theorem tcpNipConnect_error_unlinked_late :
    1 ∈ (tcpNipConnect sampleHashFns { lateFailEnv with sendSyn := 0 } closedConn 1
        ⟨true, 80, ⟨32, [30, 40]⟩⟩ 32).1.h.ehash 6 ∧
      (tcpNipConnect sampleHashFns lateFailEnv closedConn 1 ⟨true, 80, ⟨32, [30, 40]⟩⟩ 32).2.2 ≠ 0 ∧
      1 ∉ (tcpNipConnect sampleHashFns lateFailEnv closedConn 1 ⟨true, 80, ⟨32, [30, 40]⟩⟩ 32).1.h.ehash 6 :=
  ⟨by decide, by decide, tcpNipConnect_error_unlinked (fun _ _ hi _ _ _ => hi) (c := closedConn)
    (tableInv_empty _ _ _) rfl rfl rfl _ _ (by decide) 6⟩

end NipTcp
