/-
  NipTcp.Sock.Ops — the socket calls that change the tables, in any order.

  The tables see five kinds of call: `ninet_hash` on a listener (or, doing
  nothing, on a closed socket), `ninet_unhash`, `tcp_set_state`,
  `tcp_nip_connect` and `tcp_nip_disconnect`, on any sockets, interleaved
  as the callers make them.  `SockInv` is what holds between calls: the
  table invariant, and that no closed socket is hashed (`tcp_set_state`
  unhashes a socket it closes).

  Every call touches its own socket only (`Hashinfo.FrameAt`), so the
  second half of the invariant is settled socket by socket: for the others
  by the frame, for the socket called by what the call leaves it
  (`ClosedAt`).  A disconnect then needs no promise of its caller, and a
  connect only a closed NewIP socket.

  Main results:
    * `sockInv_apply` — one call, made as its caller promises, keeps the
      invariant;
    * `runSockOps_consistent` — so does every run of them, and at every
      point of it the established table agrees with its lookups and every
      listener lookup is sound and complete.
-/
import NipTcp.Sock.Disconnect
import NipTcp.Hash.Established

namespace NipTcp

/-! ## §1. Calls that touch one socket. -/

/-- `h'` differs from `h` at most in socket `id`'s fields and node, and in
the chains and counts. -/
def Hashinfo.FrameAt (id : Nat) (h h' : Hashinfo) : Prop :=
  ∀ x, x ≠ id → h'.socks x = h.socks x ∧ h'.node x = h.node x

/-- Socket `id` is unhashed if it is closed. -/
def Hashinfo.ClosedAt (h : Hashinfo) (id : Nat) : Prop :=
  (h.socks id).state = .close → h.node id = none

namespace Hashinfo

theorem FrameAt.refl (id : Nat) (h : Hashinfo) : h.FrameAt id h := fun _ _ => ⟨rfl, rfl⟩

theorem FrameAt.trans {id : Nat} {h₁ h₂ h₃ : Hashinfo} (h₁₂ : h₁.FrameAt id h₂)
    (h₂₃ : h₂.FrameAt id h₃) : h₁.FrameAt id h₃ := fun x hx =>
  ⟨(h₂₃ x hx).1.trans (h₁₂ x hx).1, (h₂₃ x hx).2.trans (h₁₂ x hx).2⟩

theorem frameAt_setSock (h : Hashinfo) (id : Nat) (sk : NSock) : h.FrameAt id (h.setSock id sk) :=
  fun _ hx => ⟨Function.update_noteq hx _ _, rfl⟩

/-- A call that keeps the socket's state and node keeps `ClosedAt`. -/
theorem ClosedAt.of_eq {h h' : Hashinfo} {id : Nat} (hc : h.ClosedAt id)
    (hs : (h'.socks id).state = (h.socks id).state) (hn : h'.node id = h.node id) : h'.ClosedAt id :=
  fun h' => hn.trans (hc (hs ▸ h'))

/-- A socket left in another state than `TCP_CLOSE` is `ClosedAt` for
nothing. -/
theorem closedAt_of_ne {h : Hashinfo} {id : Nat} (hs : (h.socks id).state ≠ .close) : h.ClosedAt id :=
  fun hc => absurd hc hs

/-- The second half of `SockInv` after a call that touched socket `id`
only. -/
theorem closedAt_all {h h' : Hashinfo} {id : Nat} (hc : ∀ x, h.ClosedAt x) (hf : h.FrameAt id h')
    (hid : h'.ClosedAt id) (x : Nat) : h'.ClosedAt x := by
  by_cases hx : x = id
  · exact hx ▸ hid
  · obtain ⟨hs, hn⟩ := hf x hx
    exact ClosedAt.of_eq (hc x) (by rw [hs]) hn

end Hashinfo

open Hashinfo

variable (H : HashFns)

theorem frameAt_delNodeInit (h : Hashinfo) (id : Nat) : h.FrameAt id (delNodeInit h id) := by
  intro x hx
  unfold delNodeInit
  split
  · exact ⟨rfl, rfl⟩
  all_goals exact ⟨rfl, Function.update_noteq hx _ _⟩

theorem frameAt_ninetUnhash (h : Hashinfo) (id : Nat) : h.FrameAt id (ninetUnhash H h id) := by
  intro x hx
  refine ⟨by rw [ninetUnhash_socks], ?_⟩
  unfold ninetUnhash
  dsimp only
  split_ifs
  · rfl
  · exact ((frameAt_delNodeInit _ id) x hx).2.trans (by simp)
  · exact ((frameAt_delNodeInit h id) x hx).2

theorem frameAt_tcpSetState (h : Hashinfo) (id : Nat) (s : TcpState) :
    h.FrameAt id (tcpSetState H h id s) := by
  unfold tcpSetState
  split_ifs
  · exact (frameAt_ninetUnhash H h id).trans (frameAt_setSock _ id _)
  · exact frameAt_setSock h id _

theorem frameAt_ninetCheckEstablished (h : Hashinfo) (id lport : Nat) :
    h.FrameAt id (ninetCheckEstablished H h id lport).1 := by
  unfold ninetCheckEstablished
  dsimp only
  split_ifs
  · exact FrameAt.refl id h
  · exact fun x hx => ⟨Function.update_noteq hx _ _, Function.update_noteq hx _ _⟩

@[simp] theorem ninetCheckEstablished_state (h : Hashinfo) (id lport : Nat) :
    ((ninetCheckEstablished H h id lport).1.socks id).state = (h.socks id).state := by
  unfold ninetCheckEstablished
  dsimp only
  split_ifs <;> simp

/-- `ninet_hash` on a listener links it and touches no other socket. -/
theorem frameAt_ninetHash_listen (env : Hashinfo → Nat → Hashinfo) {h : Hashinfo} {id : Nat}
    (hl : (h.socks id).state = .listen) :
    h.FrameAt id (ninetHash H env h id) ∧ (ninetHash H env h id).socks = h.socks := by
  have hs : (ninetHash H env h id).socks = h.socks := by
    simp only [ninetHash, ninetHashInner, ninetHash2, hl, ne_eq, reduceCtorEq, not_false_eq_true,
      if_true, not_true_eq_false, if_false]
    split_ifs <;> rfl
  refine ⟨fun x hx => ⟨by rw [hs], ?_⟩, hs⟩
  simp only [ninetHash, ninetHashInner, ninetHash2, hl, ne_eq, reduceCtorEq, not_false_eq_true,
    if_true, not_true_eq_false, if_false]
  split_ifs <;> exact Function.update_noteq hx _ _

/-! ## §2. `tcp_nip_connect` touches its own socket. -/

/-- What a run of calls asks of `inet_ehash_nolisten` beyond keeping the
table invariant: it changes no other socket, and a socket handed to it in
another state than `TCP_CLOSE` it leaves closed only unhashed (the kernel
closes a socket it could not insert, without linking it). -/
def ConnectEnv.EhashLocal (env : ConnectEnv) : Prop :=
  ∀ h id, (h.socks id).state ≠ .close →
    h.FrameAt id (env.ehashNolisten h id) ∧ (env.ehashNolisten h id).ClosedAt id

section Connect

variable {H} {env : ConnectEnv} (henv : env.EhashLocal)
include henv

theorem inetHashConnectPorts_local {h : Hashinfo} {id : Nat} (hs : (h.socks id).state ≠ .close) :
    ∀ ps, h.FrameAt id (inetHashConnectPorts H env h id ps).1 ∧
      (inetHashConnectPorts H env h id ps).1.ClosedAt id
  | [] => ⟨FrameAt.refl id h, closedAt_of_ne hs⟩
  | (port, .fresh) :: _ => by
    obtain ⟨hf, hc⟩ := henv (h.setSock id { h.socks id with num := port, sport := port }) id
      (by simpa using hs)
    exact ⟨(frameAt_setSock h id _).trans hf, hc⟩
  | (_, .noMem) :: _ => ⟨FrameAt.refl id h, closedAt_of_ne hs⟩
  | (_, .reusable) :: ps => inetHashConnectPorts_local hs ps
  | (port, .connected) :: ps => by
    simp only [inetHashConnectPorts]
    split_ifs
    · exact ⟨frameAt_ninetCheckEstablished H h id port, closedAt_of_ne (by simpa using hs)⟩
    · exact inetHashConnectPorts_local hs ps

/-- The port search touches the connecting socket only, and leaves it
unhashed if it closed it. -/
theorem ninetHashConnect_local {h : Hashinfo} {id : Nat} (hs : (h.socks id).state ≠ .close) :
    h.FrameAt id (ninetHashConnect H env h id).1 ∧ (ninetHashConnect H env h id).1.ClosedAt id := by
  unfold ninetHashConnect inetHashConnect
  dsimp only
  by_cases hp : (h.socks id).num ≠ 0
  · rw [if_pos hp]
    split
    · exact henv h id hs
    · exact ⟨frameAt_ninetCheckEstablished H h id _, closedAt_of_ne (by simpa using hs)⟩
  · rw [if_neg hp]
    exact inetHashConnectPorts_local henv hs _

theorem connectBindSend_local {c : ConnState} {id : Nat} (hs : (c.h.socks id).state ≠ .close)
    (dport : Nat) :
    c.h.FrameAt id (connectBindSend H env c id dport).1.h ∧
      (connectBindSend H env c id dport).1.h.ClosedAt id := by
  obtain ⟨hf, hc⟩ := ninetHashConnect_local henv hs
  have late : ∀ sk : ConnSock, c.h.FrameAt id
      (connectLateFailure H ⟨(ninetHashConnect H env c.h id).1, sk⟩ id).h ∧
      (connectLateFailure H ⟨(ninetHashConnect H env c.h id).1, sk⟩ id).h.ClosedAt id := fun _ =>
    ⟨(hf.trans (frameAt_tcpSetState H _ id _)).trans (frameAt_setSock _ id _),
      fun _ => (connectLateFailure_closed H _ id).2.1⟩
  unfold connectBindSend
  dsimp only
  split_ifs
  · exact late _
  · exact late _
  · exact ⟨hf, hc⟩

/-- `tcp_nip_connect` on an unhashed socket touches that socket only, and
leaves it unhashed if it leaves it closed. -/
theorem tcpNipConnect_local {c : ConnState} {id : Nat} (hun : c.h.node id = none) (usin : SockaddrNin)
    (addrLen : Nat) :
    c.h.FrameAt id (tcpNipConnect H env c id usin addrLen).1.h ∧
      (tcpNipConnect H env c id usin addrLen).1.h.ClosedAt id := by
  unfold tcpNipConnect
  split_ifs
  iterate 2 exact ⟨FrameAt.refl id c.h, fun _ => hun⟩
  rcases env.dstLookupFlow (c.h.socks id).boundDevIf usin.addr with err | ⟨dst, fs⟩
  · exact ⟨frameAt_setSock _ id _, fun _ => hun⟩
  · unfold connectRoute
    dsimp only
    generalize (if (c.h.socks id).rcvSaddr = H.anyAddr then fs else (c.h.socks id).rcvSaddr) = sa
    have hf1 := frameAt_setSock c.h id { c.h.socks id with rcvSaddr := sa }
    split_ifs
    iterate 2 exact ⟨hf1.trans (frameAt_setSock _ id _), fun _ => hun⟩
    refine And.imp (fun hb => (hf1.trans ((frameAt_setSock _ id _).trans
      (frameAt_tcpSetState H _ id _))).trans hb) (fun hc => hc)
      (connectBindSend_local henv ?_ usin.port)
    simp

end Connect

theorem frameAt_tcpNipDisconnect (h : Hashinfo) (id : Nat) (s : DiscSock) :
    h.FrameAt id (tcpNipDisconnect H h id s).1 := by
  unfold tcpNipDisconnect
  dsimp only
  split_ifs
  · exact (frameAt_tcpSetState H h id _).trans (frameAt_setSock _ id _)
  · exact frameAt_setSock h id _

/-! ## §3. State changes of linked sockets. -/

/-- A socket on no listening chain may change to any state but
`TCP_LISTEN`: the table invariant reads its state only to tell listeners
from connected sockets. -/
theorem tableInv_setSock_state {h : Hashinfo} (hi : TableInv H h) {id : Nat}
    (hnl : ∀ b, ¬h.OnListening b id) {s : TcpState} (hs : s ≠ .listen) :
    TableInv H (h.setSock id { h.socks id with state := s }) := by
  have hsk : ∀ x, (h.setSock id { h.socks id with state := s }).socks x =
      if x = id then { h.socks x with state := s } else h.socks x := by
    intro x
    split_ifs with hx
    · subst hx; simp
    · exact Function.update_noteq hx _ _
  refine ⟨hi.listening, hi.ehash, hi.lhash2, hi.listeningCount, hi.lhash2Count, fun b x hx => ?_,
    hi.portaddr, fun b x hx => ?_, fun a c ba bc ha hc ht => hi.unique a c ba bc ha hc ?_⟩
  · rw [hsk, if_neg fun (hxi : x = id) => hnl b (hxi ▸ hx)]
    exact hi.listener b x hx
  · rw [hsk]
    split_ifs with hxi
    · obtain ⟨-, h2, h3, h4⟩ := hi.connected b x hx
      exact ⟨hs, h2, h3, h4⟩
    · exact hi.connected b x hx
  · rw [hsk, hsk] at ht
    split_ifs at ht <;> exact ht

/-- What `tcp_set_state` asks of its caller: closing is always allowed; an
unhashed socket may move to any state; a hashed one only away from
`TCP_LISTEN`, and not into it. -/
def SetStatePre (h : Hashinfo) (id : Nat) (s : TcpState) : Prop :=
  s = .close ∨ h.node id = none ∨ (s ≠ .listen ∧ ∀ b, ¬h.OnListening b id)

theorem tableInv_tcpSetState_of_pre {h : Hashinfo} (hi : TableInv H h) {id : Nat} {s : TcpState}
    (hp : SetStatePre h id s) : TableInv H (tcpSetState H h id s) := by
  by_cases hc : s = .close
  · exact tableInv_tcpSetState H hi (.inl hc)
  rcases hp with hc' | hn | ⟨hs, hnl⟩
  · exact absurd hc' hc
  · exact tableInv_tcpSetState H hi (.inr hn)
  · unfold tcpSetState
    rw [if_neg hc]
    exact tableInv_setSock_state H hi hnl hs

/-! ## §4. Runs of calls. -/

/-- The calls that change the tables. -/
inductive SockOp where
  /-- `ninet_hash(sk)`. -/
  | hash (id : Nat)
  /-- `ninet_unhash(sk)`. -/
  | unhash (id : Nat)
  /-- `tcp_set_state(sk, state)`. -/
  | setState (id : Nat) (state : TcpState)
  /-- `tcp_nip_connect(sk, uaddr, addr_len)`, with what the kernel does
  during it and the socket's other fields. -/
  | connect (id : Nat) (env : ConnectEnv) (sk : ConnSock) (usin : SockaddrNin) (addrLen : Nat)
  /-- `tcp_nip_disconnect(sk, flags)`. -/
  | disconnect (id : Nat) (s : DiscSock)

/-- The socket a call is made on. -/
def SockOp.id : SockOp → Nat
  | .hash id | .unhash id | .setState id _ | .connect id _ _ _ _ | .disconnect id _ => id

/-- One call, on the tables; `ehashNolisten` is what `ninet_hash` calls for
a socket that is not listening. -/
def SockOp.apply (ehashNolisten : Hashinfo → Nat → Hashinfo) (h : Hashinfo) : SockOp → Hashinfo
  | .hash id => ninetHash H ehashNolisten h id
  | .unhash id => ninetUnhash H h id
  | .setState id s => tcpSetState H h id s
  | .connect id env sk usin addrLen => (tcpNipConnect H env ⟨h, sk⟩ id usin addrLen).1.h
  | .disconnect id s => (tcpNipDisconnect H h id s).1

/-- What the callers promise: `ninet_hash` on a closed socket (which it
leaves alone) or on an unhashed listener; `tcp_set_state` as
`SetStatePre` says; `tcp_nip_connect` on a closed NewIP socket, with an
`inet_ehash_nolisten` that keeps the tables and touches that socket only.
`ninet_unhash` and `tcp_nip_disconnect` ask nothing. -/
def SockOp.Pre (h : Hashinfo) : SockOp → Prop
  | .hash id => (h.socks id).state = .close ∨ ((h.socks id).state = .listen ∧ h.node id = none)
  | .unhash _ => True
  | .setState id s => SetStatePre h id s
  | .connect id env _ _ _ =>
    (h.socks id).state = .close ∧ (h.socks id).ninet = true ∧ env.EhashOk H ∧ env.EhashLocal
  | .disconnect _ _ => True

/-- What holds between calls: the table invariant, and no closed socket
hashed. -/
structure SockInv (h : Hashinfo) : Prop where
  tables : TableInv H h
  closed : ∀ x, h.ClosedAt x

/-- Nothing linked: the state every run may start from. -/
theorem sockInv_empty (socks : Nat → NSock) (hasLhash2 : Bool) :
    SockInv H (Hashinfo.empty socks hasLhash2) :=
  ⟨tableInv_empty H socks hasLhash2, fun _ _ => rfl⟩

section Step

variable {H} (ehashNolisten : Hashinfo → Nat → Hashinfo) {h : Hashinfo}

/-- Each call touches only the socket it is made on, and leaves that
socket unhashed if it leaves it closed. -/
theorem sockOp_local (hi : SockInv H h) {op : SockOp} (hp : op.Pre H h) :
    h.FrameAt op.id (op.apply H ehashNolisten h) ∧ (op.apply H ehashNolisten h).ClosedAt op.id := by
  cases op with
  | hash id =>
    simp only [SockOp.apply, SockOp.id]
    rcases hp with hc | ⟨hl, -⟩
    · have he : ninetHash H ehashNolisten h id = h := by simp [ninetHash, hc]
      rw [he]
      exact ⟨FrameAt.refl id h, hi.closed id⟩
    · obtain ⟨hf, hs⟩ := frameAt_ninetHash_listen H ehashNolisten hl
      exact ⟨hf, closedAt_of_ne (by simp [hs, hl])⟩
  | unhash id => exact ⟨frameAt_ninetUnhash H h id, fun _ => ninetUnhash_node_self h id⟩
  | setState id s =>
    refine ⟨frameAt_tcpSetState H h id s, fun hc => ?_⟩
    simp only [SockOp.apply, SockOp.id, tcpSetState_socks_self] at hc ⊢
    rw [show s = .close from hc]
    exact tcpSetState_close_node H h id
  | connect id env sk usin addrLen =>
    obtain ⟨hc, -, -, hloc⟩ := hp
    exact tcpNipConnect_local hloc (c := ⟨h, sk⟩) (hi.closed id hc) usin addrLen
  | disconnect id s =>
    refine ⟨frameAt_tcpNipDisconnect H h id s, fun _ => ?_⟩
    have hn := (tcpNipDisconnect_clears H h id s).2.1
    split_ifs at hn with hc
    · exact hn.trans (hi.closed id hc)
    · exact hn

theorem tableInv_sockOp (hi : SockInv H h) {op : SockOp} (hp : op.Pre H h) :
    TableInv H (op.apply H ehashNolisten h) := by
  cases op with
  | hash id =>
    rcases hp with hc | ⟨hl, hn⟩
    · simpa [SockOp.apply, ninetHash, hc] using hi.tables
    · exact tableInv_hash ehashNolisten hi.tables hn (.inl hl)
  | unhash id => exact tableInv_unhash hi.tables id
  | setState id s => exact tableInv_tcpSetState_of_pre H hi.tables hp
  | connect id env sk usin addrLen =>
    obtain ⟨hc, hni, hok, -⟩ := hp
    exact tableInv_tcpNipConnect hok (c := ⟨h, sk⟩) hi.tables (hi.closed id hc) hni usin addrLen
  | disconnect id s => exact (tableInv_tcpNipDisconnect H hi.tables (hi.closed id) s).1

/-- One call, made as its caller promises, keeps the invariant. -/
theorem sockInv_apply (hi : SockInv H h) {op : SockOp} (hp : op.Pre H h) :
    SockInv H (op.apply H ehashNolisten h) :=
  ⟨tableInv_sockOp ehashNolisten hi hp,
    closedAt_all hi.closed (sockOp_local ehashNolisten hi hp).1 (sockOp_local ehashNolisten hi hp).2⟩

end Step

/-- The calls in order. -/
def runSockOps (ehashNolisten : Hashinfo → Nat → Hashinfo) (ops : List SockOp) (h : Hashinfo) :
    Hashinfo :=
  ops.foldl (SockOp.apply H ehashNolisten) h

/-- Every call of the run is made as its caller promises. -/
def SockRunPre (ehashNolisten : Hashinfo → Nat → Hashinfo) : List SockOp → Hashinfo → Prop
  | [], _ => True
  | op :: ops, h => op.Pre H h ∧ SockRunPre ehashNolisten ops (op.apply H ehashNolisten h)

theorem sockInv_runSockOps (ehashNolisten : Hashinfo → Nat → Hashinfo) :
    ∀ (ops : List SockOp) {h : Hashinfo}, SockInv H h → SockRunPre H ehashNolisten ops h →
      SockInv H (runSockOps H ehashNolisten ops h)
  | [], _, hi, _ => hi
  | _ :: ops, _, hi, ⟨hp, hr⟩ =>
    sockInv_runSockOps ehashNolisten ops (sockInv_apply ehashNolisten hi hp) hr

/-- Every run of listener hashes, unhashes, state changes, connects and
disconnects, on any sockets in any order, each made as its caller promises,
keeps the tables consistent and every closed socket unhashed; so after it
the established table agrees with its lookups and, with `lhash2`, every
listener lookup is sound and complete. -/
theorem runSockOps_consistent (ehashNolisten : Hashinfo → Nat → Hashinfo) (ops : List SockOp)
    {h0 : Hashinfo} (hi : SockInv H h0) (hpre : SockRunPre H ehashNolisten ops h0) :
    SockInv H (runSockOps H ehashNolisten ops h0) ∧
      (runSockOps H ehashNolisten ops h0).EstablishedOk H ∧
      ((runSockOps H ehashNolisten ops h0).hasLhash2 = true → ∀ k,
        ((ninetLookupListener H (runSockOps H ehashNolisten ops h0) k).isSome ↔
          ∃ id, (runSockOps H ehashNolisten ops h0).Accepts H k id) ∧
        ∀ id, ninetLookupListener H (runSockOps H ehashNolisten ops h0) k = some id →
          (runSockOps H ehashNolisten ops h0).Accepts H k id) := by
  have hr := sockInv_runSockOps H ehashNolisten ops hi hpre
  exact ⟨hr, establishedOk_of_tableInv hr.tables, fun hl k => ninetLookupListener_spec hr.tables hl k⟩

/-- Both sample listeners hashed, the first disconnected, the second
closed, and a closed socket hashed (which `ninet_hash` ignores). -/
def sampleSockOps : List SockOp :=
  [.hash 1, .hash 2, .disconnect 1 ofoDiscSock, .setState 2 .close, .hash 4]

theorem runSockOps_consistent_sample :
    SockInv sampleHashFns (runSockOps sampleHashFns (fun h _ => h) sampleSockOps
      (Hashinfo.empty sampleSocks true)) ∧
    (runSockOps sampleHashFns (fun h _ => h) sampleSockOps
      (Hashinfo.empty sampleSocks true)).EstablishedOk sampleHashFns ∧
    ((runSockOps sampleHashFns (fun h _ => h) sampleSockOps
      (Hashinfo.empty sampleSocks true)).hasLhash2 = true → ∀ k,
      ((ninetLookupListener sampleHashFns (runSockOps sampleHashFns (fun h _ => h) sampleSockOps
        (Hashinfo.empty sampleSocks true)) k).isSome ↔
        ∃ id, (runSockOps sampleHashFns (fun h _ => h) sampleSockOps
          (Hashinfo.empty sampleSocks true)).Accepts sampleHashFns k id) ∧
      ∀ id, ninetLookupListener sampleHashFns (runSockOps sampleHashFns (fun h _ => h) sampleSockOps
        (Hashinfo.empty sampleSocks true)) k = some id →
        (runSockOps sampleHashFns (fun h _ => h) sampleSockOps
          (Hashinfo.empty sampleSocks true)).Accepts sampleHashFns k id) :=
  runSockOps_consistent sampleHashFns (fun h _ => h) sampleSockOps
    (sockInv_empty sampleHashFns sampleSocks true)
    ⟨.inr ⟨rfl, rfl⟩, .inr ⟨rfl, rfl⟩, trivial, .inl rfl, .inl rfl, trivial⟩

/-- After the sample run no listener is left for port 80. -/
example : ninetLookupListener sampleHashFns
    (runSockOps sampleHashFns (fun h _ => h) sampleSockOps (Hashinfo.empty sampleSocks true))
    ⟨0, ⟨32, [30, 40]⟩, 5000, ⟨32, [10, 20]⟩, 80, 0, 0, 0⟩ = none := by decide

end NipTcp
