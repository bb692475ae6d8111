/-
  NipTcp.Hash.Invariant — the table invariant and the operations that keep
  it.

  A chain is a list of socket indices; it is right when it holds exactly
  the sockets whose node record names it, each once (`ChainRep`).  Linking
  a socket that is on no chain, and unlinking one from the chain it is on,
  keep a chain right.  `TableInv` adds the counts, what a listener's and a
  connected socket's records say, and that no two connected sockets share
  a tuple.

  The callers' side is `TableOp.Pre`: `ninet_hash` is called on an
  unhashed listener (or a closed socket), `__ninet_check_established` on an
  unhashed NewIP socket that is not listening.

  Main results:
    * `ChainRep.link`, `ChainRep.unlink` — one chain;
    * `tableInv_hash`, `tableInv_unhash`, `tableInv_checkEstablished` —
      one operation;
    * `tableInv_runOps` — every run of operations from a table that
      satisfies `TableInv`, the empty one for instance.
-/
import NipTcp.Hash.Table

namespace NipTcp

/-! ## §1. Chains. -/

/-- The chains `f` hold exactly the sockets `loc b` names, each once. -/
structure ChainRep (f : Nat → List Nat) (loc : Nat → Nat → Prop) : Prop where
  mem : ∀ b x, x ∈ f b ↔ loc b x
  nodup : ∀ b, (f b).Nodup

theorem ChainRep.congr {f : Nat → List Nat} {loc loc' : Nat → Nat → Prop} (h : ChainRep f loc)
    (he : ∀ b x, loc b x ↔ loc' b x) : ChainRep f loc' :=
  ⟨fun b x => (h.mem b x).trans (he b x), h.nodup⟩

theorem addHead_apply (f : Nat → List Nat) (b0 id b : Nat) :
    addHead f b0 id b = if b = b0 then id :: f b0 else f b := Function.update_apply _ _ _ _

theorem delNode_apply (f : Nat → List Nat) (b0 id b : Nat) :
    delNode f b0 id b = if b = b0 then (f b0).erase id else f b := Function.update_apply _ _ _ _

/-- Linking a socket that is on no chain at the head of chain `b0`. -/
theorem ChainRep.link {f : Nat → List Nat} {loc : Nat → Nat → Prop} (h : ChainRep f loc)
    {b0 id : Nat} (hid : ∀ b, ¬loc b id) :
    ChainRep (addHead f b0 id) (fun b x => loc b x ∨ (b = b0 ∧ x = id)) := by
  constructor
  · intro b x
    rw [addHead_apply]
    split_ifs with hb
    · subst hb; simp only [List.mem_cons, h.mem]; tauto
    · simp [h.mem, hb]
  · intro b
    rw [addHead_apply]
    split_ifs with hb
    · exact List.nodup_cons.2 ⟨fun hm => hid b0 ((h.mem b0 id).1 hm), h.nodup b0⟩
    · exact h.nodup b

/-- Unlinking a socket from the one chain `b0` it is on. -/
theorem ChainRep.unlink {f : Nat → List Nat} {loc : Nat → Nat → Prop} (h : ChainRep f loc)
    {b0 id : Nat} (hfun : ∀ b, loc b id → b = b0) :
    ChainRep (delNode f b0 id) (fun b x => loc b x ∧ x ≠ id) := by
  constructor
  · intro b x
    rw [delNode_apply]
    split_ifs with hb
    · subst hb; rw [(h.nodup b).mem_erase_iff, h.mem]; tauto
    · rw [h.mem]
      exact ⟨fun hx => ⟨hx, fun hxi => hb (hfun b (hxi ▸ hx))⟩, And.left⟩
  · intro b
    rw [delNode_apply]
    split_ifs
    · exact (h.nodup b0).erase id
    · exact h.nodup b

/-- A socket on no chain may be dropped from the locations. -/
theorem ChainRep.clear {f : Nat → List Nat} {loc : Nat → Nat → Prop} (h : ChainRep f loc)
    {id : Nat} (hid : ∀ b, ¬loc b id) : ChainRep f (fun b x => loc b x ∧ x ≠ id) :=
  h.congr fun b _ => ⟨fun hx => ⟨hx, fun hxi => hid b (hxi ▸ hx)⟩, And.left⟩

theorem length_addHead (f : Nat → List Nat) (b0 id b : Nat) :
    (addHead f b0 id b).length = (f b).length + if b = b0 then 1 else 0 := by
  rw [addHead_apply]; split_ifs with hb <;> simp [hb]

theorem length_delNode {f : Nat → List Nat} {b0 id : Nat} (hm : id ∈ f b0) (b : Nat) :
    (delNode f b0 id b).length = (f b).length - if b = b0 then 1 else 0 := by
  rw [delNode_apply]; split_ifs with hb
  · subst hb; exact List.length_erase_of_mem hm
  · simp

theorem bump_apply (f : Nat → Nat) (b0 : Nat) (d : Int) (b : Nat) :
    bump f b0 d b = if b = b0 then (f b0 + d).toNat else f b := Function.update_apply _ _ _ _

/-- A count that is its chain's length stays so when the chain gains a
node and the count is bumped. -/
theorem bump_addHead {cnt : Nat → Nat} {f : Nat → List Nat} (hc : ∀ b, cnt b = (f b).length)
    (b0 id b : Nat) : bump cnt b0 1 b = (addHead f b0 id b).length := by
  rw [bump_apply, length_addHead, hc, hc]
  split_ifs with hb
  · subst hb; omega
  · rfl

/-- The same when a node on the chain is unlinked and the count dropped. -/
theorem bump_delNode {cnt : Nat → Nat} {f : Nat → List Nat} (hc : ∀ b, cnt b = (f b).length)
    {b0 id : Nat} (hm : id ∈ f b0) (b : Nat) : bump cnt b0 (-1) b = (delNode f b0 id b).length := by
  have hpos := List.length_pos_of_mem hm
  rw [bump_apply, length_delNode hm, hc, hc]
  split_ifs with hb
  · subst hb; omega
  · rfl

/-! ## §2. The invariant. -/

/-- `sk_node` is on listening chain `b`. -/
def Hashinfo.OnListening (h : Hashinfo) (b id : Nat) : Prop := h.node id = some (.listening b)

/-- `sk_node` is on established chain `b`. -/
def Hashinfo.OnEhash (h : Hashinfo) (b id : Nat) : Prop := h.node id = some (.ehash b)

/-- `icsk_listen_portaddr_node` is on `lhash2` chain `b`. -/
def Hashinfo.OnLhash2 (h : Hashinfo) (b id : Nat) : Prop := h.portaddrNode id = some b

/-- The namespace, the peer address, the local address, the port pair and
the device of a connected socket. -/
def NSock.tuple (sk : NSock) : Nat × NipAddr × NipAddr × Nat × Nat × Nat :=
  (sk.net, sk.daddr, sk.rcvSaddr, sk.dport, sk.num, sk.boundDevIf)

/-- `NINET_MATCH` is a NewIP socket with the tuple. -/
theorem ninetMatch_iff (sk : NSock) (net : Nat) (saddr daddr : NipAddr) (ports : Nat × Nat)
    (dif : Nat) : ninetMatch sk net saddr daddr ports dif = true ↔
      sk.ninet = true ∧ sk.tuple = (net, saddr, daddr, ports.1, ports.2, dif) := by
  obtain ⟨p1, p2⟩ := ports
  simp only [ninetMatch, NSock.tuple, Bool.and_eq_true, decide_eq_true_eq, Prod.mk.injEq]
  tauto

variable (H : HashFns)

/-- A connected socket's hash is `ninet_ehashfn` of its own tuple. -/
def NSock.HashOk (sk : NSock) : Prop :=
  sk.hash = ninetEhashfn H sk.net sk.rcvSaddr sk.num sk.daddr sk.dport

/-- The table invariant. -/
structure TableInv (h : Hashinfo) : Prop where
  listening : ChainRep h.listening h.OnListening
  ehash : ChainRep h.ehash h.OnEhash
  lhash2 : ChainRep h.lhash2 h.OnLhash2
  listeningCount : ∀ b, h.listeningCount b = (h.listening b).length
  lhash2Count : ∀ b, h.lhash2Count b = (h.lhash2 b).length
  listener : ∀ b id, h.OnListening b id →
    (h.socks id).state = .listen ∧ b = listenBucket H (h.socks id) ∧
    h.portaddrNode id = if h.hasLhash2 then some (ninetLhash2BucketSk H (h.socks id)) else none
  portaddr : ∀ b id, h.OnLhash2 b id → ∃ b', h.OnListening b' id
  connected : ∀ b id, h.OnEhash b id →
    (h.socks id).state ≠ .listen ∧ (h.socks id).ninet = true ∧ (h.socks id).HashOk H ∧
    b = ehashBucket H (h.socks id).hash
  unique : ∀ a c ba bc, h.OnEhash ba a → h.OnEhash bc c →
    (h.socks a).tuple = (h.socks c).tuple → a = c

/-- A table with nothing linked. -/
def Hashinfo.empty (socks : Nat → NSock) (hasLhash2 : Bool) : Hashinfo :=
  ⟨socks, fun _ => none, fun _ => none, fun _ => [], fun _ => 0, hasLhash2, fun _ => [],
    fun _ => 0, fun _ => []⟩

theorem tableInv_empty (socks : Nat → NSock) (hasLhash2 : Bool) :
    TableInv H (Hashinfo.empty socks hasLhash2) := by
  refine ⟨⟨?_, ?_⟩, ⟨?_, ?_⟩, ⟨?_, ?_⟩, ?_, ?_, ?_, ?_, ?_, ?_⟩ <;>
    simp [Hashinfo.empty, Hashinfo.OnListening, Hashinfo.OnEhash, Hashinfo.OnLhash2]

theorem update_eq_some {α : Type} (f : Nat → Option α) (id : Nat) (v : Option α) (x : Nat) (c : α) :
    Function.update f id v x = some c ↔ (x = id ∧ v = some c) ∨ (x ≠ id ∧ f x = some c) := by
  rw [Function.update_apply]; split_ifs with hx <;> simp [hx]

theorem update_none_eq_some {α : Type} (f : Nat → Option α) (id x : Nat) (c : α) :
    Function.update f id none x = some c ↔ f x = some c ∧ x ≠ id := by
  rw [update_eq_some]; simp [and_comm]

section Ops

variable {H}

/-! ## §3. `ninet_hash`. -/

theorem tableInv_hash (env : Hashinfo → Nat → Hashinfo) {h : Hashinfo} (hi : TableInv H h)
    {id : Nat} (hn : h.node id = none)
    (hs : (h.socks id).state = .listen ∨ (h.socks id).state = .close) :
    TableInv H (ninetHash H env h id) := by
  rcases hs with hl | hc
  swap
  · simpa [ninetHash, hc] using hi
  have hnl : ∀ b, ¬h.OnListening b id := fun b hb => by simp [Hashinfo.OnListening, hn] at hb
  have hnp : ∀ b, ¬h.OnLhash2 b id := fun b hb => by
    obtain ⟨b', hb'⟩ := hi.portaddr b id hb; exact hnl b' hb'
  set b := listenBucket H (h.socks id)
  set b2 := ninetLhash2BucketSk H (h.socks id)
  have hL : ∀ b' x, Function.update h.node id (some (.listening b)) x = some (.listening b') ↔
      h.OnListening b' x ∨ (b' = b ∧ x = id) := by
    intro b' x; rw [update_eq_some]; by_cases hx : x = id
    · subst hx; simp [hnl, eq_comm]
    · simp [hx, Hashinfo.OnListening]
  have hE : ∀ b' x, Function.update h.node id (some (.listening b)) x = some (.ehash b') ↔
      h.OnEhash b' x := by
    intro b' x; rw [update_eq_some]; by_cases hx : x = id
    · subst hx; simp [Hashinfo.OnEhash, hn]
    · simp [hx, Hashinfo.OnEhash]
  have hP : ∀ b' x, Function.update h.portaddrNode id (some b2) x = some b' ↔
      h.OnLhash2 b' x ∨ (b' = b2 ∧ x = id) := by
    intro b' x; rw [update_eq_some]; by_cases hx : x = id
    · subst hx; simp [hnp, eq_comm]
    · simp [hx, Hashinfo.OnLhash2]
  have hm : id ∉ h.listening b := fun hm => hnl b ((hi.listening.mem b id).1 hm)
  have hcount : ∀ b', bump h.listeningCount b 1 b' = (addHead h.listening b id b').length :=
    bump_addHead hi.listeningCount b id
  have hpnone : h.portaddrNode id = none := by
    cases hp : h.portaddrNode id with
    | none => rfl
    | some c => exact absurd hp (hnp c)
  simp only [ninetHash, ninetHashInner, hl, ne_eq, reduceCtorEq, not_false_eq_true, if_true,
    not_true_eq_false, if_false, ninetHash2]
  cases hl2 : h.hasLhash2 <;>
    simp only [hl2, Bool.not_false, Bool.not_true, if_true, if_false, Bool.false_eq_true]
  · refine ⟨(hi.listening.link hnl).congr fun b' x => (hL b' x).symm,
      hi.ehash.congr fun b' x => (hE b' x).symm, hi.lhash2, hcount, hi.lhash2Count,
      fun b' x hx => ?_, fun b' x hx => ?_, fun b' x hx => hi.connected b' x ((hE b' x).1 hx),
      fun a c ba bc ha hc => hi.unique a c ba bc ((hE ba a).1 ha) ((hE bc c).1 hc)⟩
    · rcases (hL b' x).1 hx with hx | ⟨rfl, rfl⟩
      · simpa [hl2] using hi.listener b' x hx
      · simpa [hl2] using ⟨hl, hpnone⟩
    · obtain ⟨c, hc⟩ := hi.portaddr b' x hx
      exact ⟨c, (hL c x).2 (.inl hc)⟩
  · refine ⟨(hi.listening.link hnl).congr fun b' x => (hL b' x).symm,
      hi.ehash.congr fun b' x => (hE b' x).symm,
      (hi.lhash2.link hnp).congr fun b' x => (hP b' x).symm, hcount, fun b' => ?_,
      fun b' x hx => ?_, fun b' x hx => ?_, fun b' x hx => hi.connected b' x ((hE b' x).1 hx),
      fun a c ba bc ha hc => hi.unique a c ba bc ((hE ba a).1 ha) ((hE bc c).1 hc)⟩
    · exact bump_addHead hi.lhash2Count b2 id b'
    · rcases (hL b' x).1 hx with hx | ⟨rfl, rfl⟩
      · obtain ⟨h1, h2, h3⟩ := hi.listener b' x hx
        have hxi : x ≠ id := fun hxi => hnl b' (hxi ▸ hx)
        refine ⟨h1, h2, ?_⟩
        simpa [Function.update_apply, hxi, hl2] using h3
      · simp [hl, b2]
    · rcases (hP b' x).1 hx with hx | ⟨rfl, rfl⟩
      · obtain ⟨c, hc⟩ := hi.portaddr b' x hx
        exact ⟨c, (hL c x).2 (.inl hc)⟩
      · exact ⟨b, (hL b x).2 (.inr ⟨rfl, rfl⟩)⟩

/-! ## §4. `ninet_unhash`. -/

@[simp] theorem delNodeInit_socks (h : Hashinfo) (id : Nat) : (delNodeInit h id).socks = h.socks := by
  unfold delNodeInit; split <;> rfl

theorem delNodeInit_node_self (h : Hashinfo) (id : Nat) : (delNodeInit h id).node id = none := by
  unfold delNodeInit; split <;> simp_all

@[simp] theorem ninetUnhash2_socks (h : Hashinfo) (id : Nat) :
    (ninetUnhash2 H h id).socks = h.socks := by
  unfold ninetUnhash2; split <;> rfl

@[simp] theorem ninetUnhash2_node (h : Hashinfo) (id : Nat) : (ninetUnhash2 H h id).node = h.node := by
  unfold ninetUnhash2; split <;> rfl

@[simp] theorem ninetUnhash_socks (h : Hashinfo) (id : Nat) : (ninetUnhash H h id).socks = h.socks := by
  by_cases h0 : h.node id = none <;> by_cases hl : (h.socks id).state = .listen <;>
    simp [ninetUnhash, h0, hl]

/-- `ninet_unhash` leaves the socket unhashed, whichever table it was on. -/
theorem ninetUnhash_node_self (h : Hashinfo) (id : Nat) : (ninetUnhash H h id).node id = none := by
  unfold ninetUnhash
  split_ifs with h0
  · exact h0
  all_goals exact delNodeInit_node_self _ _

/-- Unhashing a connected socket unlinks it from its `ehash` chain and
touches nothing else. -/
theorem tableInv_unhash_ehash {h : Hashinfo} (hi : TableInv H h) {id b : Nat}
    (hc : h.node id = some (.ehash b)) : TableInv H (ninetUnhash H h id) := by
  have hnl : (h.socks id).state ≠ .listen := (hi.connected b id hc).1
  have hfun : ∀ b', h.OnEhash b' id → b' = b := fun b' hb' => by
    simp only [Hashinfo.OnEhash, hc, Option.some.injEq, NodeChain.ehash.injEq] at hb'
    exact hb'.symm
  have hnl' : ∀ b', ¬h.OnListening b' id := fun b' hb' => by simp [Hashinfo.OnListening, hc] at hb'
  have hpn : ∀ b', ¬h.OnLhash2 b' id := fun b' hb' =>
    (hi.portaddr b' id hb').elim fun b'' hb'' => hnl' b'' hb''
  have hL := fun b x => update_none_eq_some h.node id x (NodeChain.listening b)
  have hE := fun b x => update_none_eq_some h.node id x (NodeChain.ehash b)
  simp only [ninetUnhash, hc, reduceCtorEq, if_false, hnl, delNodeInit]
  refine ⟨(hi.listening.clear hnl').congr fun b' x => (hL b' x).symm,
    (hi.ehash.unlink hfun).congr fun b' x => (hE b' x).symm, hi.lhash2, hi.listeningCount,
    hi.lhash2Count, fun b' x hx => hi.listener b' x ((hL b' x).1 hx).1, fun b' x hx => ?_,
    fun b' x hx => hi.connected b' x ((hE b' x).1 hx).1,
    fun a c ba bc ha hc => hi.unique a c ba bc ((hE ba a).1 ha).1 ((hE bc c).1 hc).1⟩
  obtain ⟨b'', hb''⟩ := hi.portaddr b' x hx
  exact ⟨b'', (hL b'' x).2 ⟨hb'', fun hxi => hpn b' (hxi ▸ hx)⟩⟩

/-- Unhashing a listener unlinks it from its listening chain and, with
`lhash2`, from its `lhash2` chain, and drops both counts. -/
theorem tableInv_unhash_listening {h : Hashinfo} (hi : TableInv H h) {id b : Nat}
    (hc : h.node id = some (.listening b)) : TableInv H (ninetUnhash H h id) := by
  obtain ⟨hl, hb, hp⟩ := hi.listener b id hc
  have hfun : ∀ b', h.OnListening b' id → b' = b := fun b' hb' => by
    simp only [Hashinfo.OnListening, hc, Option.some.injEq, NodeChain.listening.injEq] at hb'
    exact hb'.symm
  have hne : ∀ b', ¬h.OnEhash b' id := fun b' hb' => by simp [Hashinfo.OnEhash, hc] at hb'
  have hm : id ∈ h.listening b := (hi.listening.mem b id).2 hc
  have hcount : ∀ b', bump h.listeningCount (listenBucket H (h.socks id)) (-1) b' =
      (delNode h.listening b id b').length := by
    rw [← hb]; exact bump_delNode hi.listeningCount hm
  have hL := fun b x => update_none_eq_some h.node id x (NodeChain.listening b)
  have hE := fun b x => update_none_eq_some h.node id x (NodeChain.ehash b)
  have hP := fun b x => update_none_eq_some h.portaddrNode id x b
  cases hl2 : h.hasLhash2 <;> simp only [hl2, if_false, if_true] at hp
  · simp only [ninetUnhash, hc, reduceCtorEq, if_false, hl, if_true, ninetUnhash2, hl2, delNodeInit]
    refine ⟨(hi.listening.unlink hfun).congr fun b' x => (hL b' x).symm,
      (hi.ehash.clear hne).congr fun b' x => (hE b' x).symm, hi.lhash2, hcount, hi.lhash2Count,
      fun b' x hx => ?_, fun b' x hx => ?_, fun b' x hx => hi.connected b' x ((hE b' x).1 hx).1,
      fun a c ba bc ha hc => hi.unique a c ba bc ((hE ba a).1 ha).1 ((hE bc c).1 hc).1⟩
    · simpa [hl2] using hi.listener b' x ((hL b' x).1 hx).1
    · obtain ⟨b'', hb''⟩ := hi.portaddr b' x hx
      refine ⟨b'', (hL b'' x).2 ⟨hb'', fun hxi => ?_⟩⟩
      subst hxi; simp [Hashinfo.OnLhash2, hp] at hx
  · have hfunp : ∀ b', h.OnLhash2 b' id → b' = ninetLhash2BucketSk H (h.socks id) :=
      fun b' hb' => by simpa [Hashinfo.OnLhash2, hp] using hb'.symm
    have hmp : id ∈ h.lhash2 (ninetLhash2BucketSk H (h.socks id)) := (hi.lhash2.mem _ id).2 hp
    simp only [ninetUnhash, hc, reduceCtorEq, if_false, hl, if_true, ninetUnhash2, hl2, hp,
      delNodeInit]
    refine ⟨(hi.listening.unlink hfun).congr fun b' x => (hL b' x).symm,
      (hi.ehash.clear hne).congr fun b' x => (hE b' x).symm,
      (hi.lhash2.unlink hfunp).congr fun b' x => (hP b' x).symm,
      hcount, bump_delNode hi.lhash2Count hmp, fun b' x hx => ?_, fun b' x hx => ?_,
      fun b' x hx => hi.connected b' x ((hE b' x).1 hx).1,
      fun a c ba bc ha hc => hi.unique a c ba bc ((hE ba a).1 ha).1 ((hE bc c).1 hc).1⟩
    · obtain ⟨hx, hxi⟩ := (hL b' x).1 hx
      obtain ⟨h1, h2, h3⟩ := hi.listener b' x hx
      exact ⟨h1, h2, by simpa [Function.update_apply, hxi, hl2] using h3⟩
    · obtain ⟨hx, hxi⟩ := (hP b' x).1 hx
      obtain ⟨b'', hb''⟩ := hi.portaddr b' x hx
      exact ⟨b'', (hL b'' x).2 ⟨hb'', hxi⟩⟩

/-- `ninet_unhash` keeps the invariant, on a hashed socket of either table
and, doing nothing, on an unhashed one. -/
theorem tableInv_unhash {h : Hashinfo} (hi : TableInv H h) (id : Nat) :
    TableInv H (ninetUnhash H h id) := by
  cases hc : h.node id with
  | none => simpa [ninetUnhash, hc] using hi
  | some c =>
    cases c with
    | ehash b => exact tableInv_unhash_ehash hi hc
    | listening b => exact tableInv_unhash_listening hi hc

/-! ## §5. `__ninet_check_established`. -/

/-- Two sockets with one tuple hash alike. -/
theorem ninetEhashfn_of_tuple {sk sk' : NSock} (ht : sk.tuple = sk'.tuple) :
    ninetEhashfn H sk.net sk.rcvSaddr sk.num sk.daddr sk.dport =
      ninetEhashfn H sk'.net sk'.rcvSaddr sk'.num sk'.daddr sk'.dport := by
  simp only [NSock.tuple, Prod.mk.injEq] at ht
  obtain ⟨h1, h2, h3, h4, h5, -⟩ := ht
  rw [h1, h2, h3, h4, h5]

theorem tableInv_checkEstablished {h : Hashinfo} (hi : TableInv H h) {id : Nat}
    (hn : h.node id = none) (hl : (h.socks id).state ≠ .listen) (hni : (h.socks id).ninet = true)
    (lport : Nat) : TableInv H (ninetCheckEstablished H h id lport).1 := by
  unfold ninetCheckEstablished
  dsimp only
  split_ifs with hany
  · exact hi
  set sk := h.socks id
  set hash := ninetEhashfn H sk.net sk.rcvSaddr lport sk.daddr sk.dport
  set b := ehashBucket H hash
  set sk' : NSock := { sk with num := lport, sport := lport, hash := hash }
  have hne : ∀ b', ¬h.OnEhash b' id := fun b' hb => by simp [Hashinfo.OnEhash, hn] at hb
  have hnl : ∀ b', ¬h.OnListening b' id := fun b' hb => by simp [Hashinfo.OnListening, hn] at hb
  have hL : ∀ b' x, Function.update h.node id (some (.ehash b)) x = some (.listening b') ↔
      h.OnListening b' x := by
    intro b' x; rw [update_eq_some]; by_cases hx : x = id
    · subst hx; simp [Hashinfo.OnListening, hn]
    · simp [hx, Hashinfo.OnListening]
  have hE : ∀ b' x, Function.update h.node id (some (.ehash b)) x = some (.ehash b') ↔
      h.OnEhash b' x ∨ (b' = b ∧ x = id) := by
    intro b' x; rw [update_eq_some]; by_cases hx : x = id
    · subst hx; simp [hne, eq_comm]
    · simp [hx, Hashinfo.OnEhash]
  have hsk : ∀ x, x ≠ id → Function.update h.socks id sk' x = h.socks x := fun x hx =>
    Function.update_noteq hx _ _
  have hid : Function.update h.socks id sk' id = sk' := Function.update_same _ _ _
  -- a connected socket with the new socket's tuple would have been found
  have hfresh : ∀ bc c, h.OnEhash bc c → (h.socks c).tuple ≠ sk'.tuple := by
    intro bc c hc ht
    obtain ⟨-, hcn, hch, hcb⟩ := hi.connected bc c hc
    have hhash : (h.socks c).hash = hash := hch.trans (ninetEhashfn_of_tuple ht)
    have hbc : bc = b := hcb.trans (by rw [hhash])
    refine hany (List.any_eq_true.2 ⟨c, (hi.ehash.mem b c).2 (hbc ▸ hc), ?_⟩)
    simp only [Bool.and_eq_true, decide_eq_true_eq, hhash, true_and, ninetMatch_iff, hcn, ht]
    rfl
  refine ⟨hi.listening.congr fun b' x => (hL b' x).symm, (hi.ehash.link hne).congr
    fun b' x => (hE b' x).symm, hi.lhash2, hi.listeningCount, hi.lhash2Count,
    fun b' x hx => ?_, fun b' x hx => ?_, fun b' x hx => ?_, fun a c ba bc ha hc ht => ?_⟩
  · have hx' := (hL b' x).1 hx
    have hxi : x ≠ id := fun hxi => hnl b' (hxi ▸ hx')
    simpa [hsk x hxi] using hi.listener b' x hx'
  · obtain ⟨c, hc⟩ := hi.portaddr b' x hx
    exact ⟨c, (hL c x).2 hc⟩
  · change Function.update h.node id (some (.ehash b)) x = some (.ehash b') at hx
    change (Function.update h.socks id sk' x).state ≠ .listen ∧
      (Function.update h.socks id sk' x).ninet = true ∧
      (Function.update h.socks id sk' x).HashOk H ∧
      b' = ehashBucket H (Function.update h.socks id sk' x).hash
    by_cases hxi : x = id
    · subst hxi
      obtain rfl : b' = b := by simpa [eq_comm] using hx
      rw [hid]
      exact ⟨hl, hni, rfl, rfl⟩
    · rw [hsk x hxi]
      exact hi.connected b' x (((hE b' x).1 hx).resolve_right fun h' => hxi h'.2)
  · change (Function.update h.socks id sk' a).tuple = (Function.update h.socks id sk' c).tuple at ht
    have hA : a ≠ id → h.OnEhash ba a := fun hai => ((hE ba a).1 ha).resolve_right fun h' => hai h'.2
    have hC : c ≠ id → h.OnEhash bc c := fun hci => ((hE bc c).1 hc).resolve_right fun h' => hci h'.2
    by_cases hai : a = id <;> by_cases hci : c = id
    · rw [hai, hci]
    · rw [hai, hid, hsk c hci] at ht
      exact absurd ht.symm (hfresh bc c (hC hci))
    · rw [hci, hid, hsk a hai] at ht
      exact absurd ht (hfresh ba a (hA hai))
    · rw [hsk a hai, hsk c hci] at ht
      exact hi.unique a c ba bc (hA hai) (hC hci) ht

/-! ## §6. Runs. -/

/-- What the callers promise: `ninet_hash` on an unhashed listener or a
closed socket, `__ninet_check_established` on an unhashed NewIP socket that
is not listening. -/
def TableOp.Pre (h : Hashinfo) : TableOp → Prop
  | .hash id => h.node id = none ∧ ((h.socks id).state = .listen ∨ (h.socks id).state = .close)
  | .unhash _ => True
  | .checkEstablished id _ =>
    h.node id = none ∧ (h.socks id).state ≠ .listen ∧ (h.socks id).ninet = true

theorem tableInv_apply (env : Hashinfo → Nat → Hashinfo) {h : Hashinfo} (hi : TableInv H h)
    {op : TableOp} (hp : op.Pre h) : TableInv H (op.apply H env h) := by
  cases op with
  | hash id => exact tableInv_hash env hi hp.1 hp.2
  | unhash id => exact tableInv_unhash hi id
  | checkEstablished id lport => exact tableInv_checkEstablished hi hp.1 hp.2.1 hp.2.2 lport

/-- Every call of the run is made as its caller promises. -/
def RunPre (H : HashFns) (env : Hashinfo → Nat → Hashinfo) : List TableOp → Hashinfo → Prop
  | [], _ => True
  | op :: ops, h => op.Pre h ∧ RunPre H env ops (op.apply H env h)

theorem tableInv_runOps (env : Hashinfo → Nat → Hashinfo) :
    ∀ (ops : List TableOp) {h : Hashinfo}, TableInv H h → RunPre H env ops h →
      TableInv H (runOps H env ops h)
  | [], _, hi, _ => hi
  | _ :: ops, _, hi, ⟨hp, hr⟩ => tableInv_runOps env ops (tableInv_apply env hi hp) hr

theorem apply_hasLhash2 (env : Hashinfo → Nat → Hashinfo) {h : Hashinfo} {op : TableOp}
    (hp : op.Pre h) : (op.apply H env h).hasLhash2 = h.hasLhash2 := by
  cases op with
  | hash id =>
    rcases hp.2 with hl | hc
    · simp only [TableOp.apply, ninetHash, ninetHashInner, ninetHash2, hl, ne_eq, not_true_eq_false,
        if_false, reduceCtorEq, not_false_eq_true, if_true]
      split_ifs <;> rfl
    · simp [TableOp.apply, ninetHash, hc]
  | unhash id =>
    simp only [TableOp.apply, ninetUnhash, ninetUnhash2, delNodeInit]
    split_ifs <;> (try split) <;> (try split) <;> rfl
  | checkEstablished id lport =>
    simp only [TableOp.apply, ninetCheckEstablished]
    split_ifs <;> rfl

theorem runOps_hasLhash2 (env : Hashinfo → Nat → Hashinfo) :
    ∀ (ops : List TableOp) {h : Hashinfo}, RunPre H env ops h →
      (runOps H env ops h).hasLhash2 = h.hasLhash2
  | [], _, _ => rfl
  | _ :: ops, _, ⟨hp, hr⟩ => (runOps_hasLhash2 env ops hr).trans (apply_hasLhash2 env hp)

end Ops

end NipTcp
