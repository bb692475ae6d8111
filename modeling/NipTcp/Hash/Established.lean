/-
  NipTcp.Hash.Established — the established table.

  `__ninet_check_established` links a connecting socket into the `ehash`
  bucket of its tuple unless a socket of that bucket with the same hash
  matches the tuple; `__ninet_lookup_established` returns the first socket
  of the bucket with the hash that matches the packet's tuple, if a
  reference can be taken on it.  With no writer running alongside, the
  lookup's second `NINET_MATCH` and its restart on a moved chain never
  fire, and the model leaves them out, with the reference the lookup takes.

  Main results:
    * `ninetCheckEstablished_spec` — an insertion fails, changing nothing,
      exactly when a connected socket has the tuple, and otherwise links
      the socket with the port recorded;
    * `ninetLookupEstablished_finds` — the inbound view of a connected
      socket's tuple finds that socket when its count is not zero;
    * `ninetEstablished_agree` — both, and the links, after every run.
-/
import NipTcp.Hash.Listen

namespace NipTcp

/-! ## §1. The lookup. -/

variable (H : HashFns)

/-- The walk of `sk_nulls_for_each_rcu` in `__ninet_lookup_established`:
skip sockets with another hash or another tuple; the first match is the
result, unless its reference count is zero (`refcount_inc_not_zero` fails
and the lookup gives up). -/
def lookupChain (socks : Nat → NSock) (hash net : Nat) (saddr daddr : NipAddr)
    (ports : Nat × Nat) (dif : Nat) : List Nat → Option Nat
  | [] => none
  | id :: chain =>
    let sk := socks id
    if sk.hash ≠ hash then lookupChain socks hash net saddr daddr ports dif chain
    else if !ninetMatch sk net saddr daddr ports dif then
      lookupChain socks hash net saddr daddr ports dif chain
    else if sk.refcnt = 0 then none
    else some id

/-- `__ninet_lookup_established(net, hashinfo, saddr, sport, daddr, hnum,
dif)`. -/
def ninetLookupEstablished (h : Hashinfo) (net : Nat) (saddr : NipAddr) (sport : Nat)
    (daddr : NipAddr) (hnum dif : Nat) : Option Nat :=
  let ports := (sport, hnum)
  let hash := ninetEhashfn H net daddr hnum saddr sport
  let slot := ehashBucket H hash
  lookupChain h.socks hash net saddr daddr ports dif (h.ehash slot)

/-- When `id` is on the chain and the only one there that passes the test,
the walk stops at it. -/
theorem lookupChain_unique (socks : Nat → NSock) (hash net : Nat) (saddr daddr : NipAddr)
    (ports : Nat × Nat) (dif : Nat) {id : Nat} :
    ∀ chain : List Nat, id ∈ chain →
      (socks id).hash = hash → ninetMatch (socks id) net saddr daddr ports dif = true →
      (∀ y ∈ chain, (socks y).hash = hash → ninetMatch (socks y) net saddr daddr ports dif = true →
        y = id) →
      lookupChain socks hash net saddr daddr ports dif chain =
        if (socks id).refcnt = 0 then none else some id
  | [], hm, _, _, _ => absurd hm (List.not_mem_nil _)
  | y :: chain, hm, hh, hmt, hu => by
    unfold lookupChain
    by_cases hy : y = id
    · subst hy; simp [hh, hmt]
    · have hm' : id ∈ chain := (List.mem_cons.1 hm).resolve_left (Ne.symm hy)
      have hu' : ∀ z ∈ chain, (socks z).hash = hash →
          ninetMatch (socks z) net saddr daddr ports dif = true → z = id :=
        fun z hz => hu z (List.mem_cons_of_mem _ hz)
      have hskip : ¬((socks y).hash = hash ∧ ninetMatch (socks y) net saddr daddr ports dif = true) :=
        fun ⟨h1, h2⟩ => hy (hu y (List.mem_cons_self _ _) h1 h2)
      rw [← lookupChain_unique socks hash net saddr daddr ports dif chain hm' hh hmt hu']
      by_cases h1 : (socks y).hash = hash
      · have h2 : ninetMatch (socks y) net saddr daddr ports dif = false := by
          simpa [h1] using hskip
        simp [h1, h2]
      · simp [h1]

/-- Whatever the walk returns is on the chain, has the hash, matches the
tuple and has a reference to take. -/
theorem lookupChain_sound (socks : Nat → NSock) (hash net : Nat) (saddr daddr : NipAddr)
    (ports : Nat × Nat) (dif : Nat) {id : Nat} :
    ∀ chain : List Nat, lookupChain socks hash net saddr daddr ports dif chain = some id →
      id ∈ chain ∧ (socks id).hash = hash ∧
        ninetMatch (socks id) net saddr daddr ports dif = true ∧ (socks id).refcnt ≠ 0
  | [], h => Option.noConfusion h
  | y :: chain, h => by
    unfold lookupChain at h
    by_cases h1 : (socks y).hash = hash
    · cases hm : ninetMatch (socks y) net saddr daddr ports dif
      · simp only [h1, hm, ne_eq, not_true_eq_false, if_false, Bool.not_false, if_true] at h
        obtain ⟨hc, hrest⟩ := lookupChain_sound socks hash net saddr daddr ports dif chain h
        exact ⟨List.mem_cons_of_mem _ hc, hrest⟩
      · simp only [h1, hm, ne_eq, not_true_eq_false, if_false, Bool.not_true,
          Bool.false_eq_true] at h
        split_ifs at h with hr
        cases h
        exact ⟨List.mem_cons_self _ _, h1, hm, hr⟩
    · simp only [h1, ne_eq, not_false_eq_true, if_true] at h
      obtain ⟨hc, hrest⟩ := lookupChain_sound socks hash net saddr daddr ports dif chain h
      exact ⟨List.mem_cons_of_mem _ hc, hrest⟩

/-! ## §2. What the table promises. -/

/-- The established table keeps its promises: (a) each connected socket is
on the `ehash` chain of its `sk_hash`, which is `ninet_ehashfn` of its
tuple; (b) an insertion of an unhashed NewIP socket fails, changing
nothing, exactly when a connected socket has its tuple with the chosen
port, and otherwise links it with `inet_num` and `inet_sport` set to that
port; (c) the inbound view of a connected socket's tuple finds it when its
reference count is not zero. -/
def Hashinfo.EstablishedOk (h : Hashinfo) : Prop :=
  (∀ b id, h.OnEhash b id →
    (h.socks id).HashOk H ∧ b = ehashBucket H (h.socks id).hash ∧ id ∈ h.ehash b) ∧
  (∀ id lport, h.node id = none → (h.socks id).state ≠ .listen → (h.socks id).ninet = true →
    ((∃ b c, h.OnEhash b c ∧ (h.socks c).tuple =
        ((h.socks id).net, (h.socks id).daddr, (h.socks id).rcvSaddr, (h.socks id).dport, lport,
          (h.socks id).boundDevIf)) →
      ninetCheckEstablished H h id lport = (h, -EADDRNOTAVAIL)) ∧
    ((¬∃ b c, h.OnEhash b c ∧ (h.socks c).tuple =
        ((h.socks id).net, (h.socks id).daddr, (h.socks id).rcvSaddr, (h.socks id).dport, lport,
          (h.socks id).boundDevIf)) →
      (ninetCheckEstablished H h id lport).2 = 0 ∧
      ((ninetCheckEstablished H h id lport).1.socks id).num = lport ∧
      ((ninetCheckEstablished H h id lport).1.socks id).sport = lport ∧
      ∃ b, id ∈ (ninetCheckEstablished H h id lport).1.ehash b)) ∧
  ∀ b id, h.OnEhash b id → (h.socks id).refcnt ≠ 0 →
    ninetLookupEstablished H h (h.socks id).net (h.socks id).daddr (h.socks id).dport
      (h.socks id).rcvSaddr (h.socks id).num (h.socks id).boundDevIf = some id

section Spec

variable {H} {h : Hashinfo}

theorem ninetCheckEstablished_spec (hi : TableInv H h) {id : Nat} (lport : Nat) :
    ((∃ b c, h.OnEhash b c ∧ (h.socks c).tuple =
        ((h.socks id).net, (h.socks id).daddr, (h.socks id).rcvSaddr, (h.socks id).dport, lport,
          (h.socks id).boundDevIf)) →
      ninetCheckEstablished H h id lport = (h, -EADDRNOTAVAIL)) ∧
    ((¬∃ b c, h.OnEhash b c ∧ (h.socks c).tuple =
        ((h.socks id).net, (h.socks id).daddr, (h.socks id).rcvSaddr, (h.socks id).dport, lport,
          (h.socks id).boundDevIf)) →
      (ninetCheckEstablished H h id lport).2 = 0 ∧
      ((ninetCheckEstablished H h id lport).1.socks id).num = lport ∧
      ((ninetCheckEstablished H h id lport).1.socks id).sport = lport ∧
      ∃ b, id ∈ (ninetCheckEstablished H h id lport).1.ehash b) := by
  set sk := h.socks id
  set hash := ninetEhashfn H sk.net sk.rcvSaddr lport sk.daddr sk.dport
  -- the test of the walk is: some socket of the bucket has the hash and the tuple
  have htest : ((h.ehash (ehashBucket H hash)).any fun id2 => (h.socks id2).hash = hash &&
      ninetMatch (h.socks id2) sk.net sk.daddr sk.rcvSaddr (sk.dport, lport) sk.boundDevIf) = true ↔
      ∃ b c, h.OnEhash b c ∧ (h.socks c).tuple =
        (sk.net, sk.daddr, sk.rcvSaddr, sk.dport, lport, sk.boundDevIf) := by
    rw [List.any_eq_true]
    constructor
    · rintro ⟨c, hc, hct⟩
      simp only [Bool.and_eq_true, decide_eq_true_eq, ninetMatch_iff] at hct
      exact ⟨_, c, (hi.ehash.mem _ c).1 hc, hct.2.2⟩
    · rintro ⟨b, c, hc, ht⟩
      obtain ⟨-, hcn, hch, hcb⟩ := hi.connected b c hc
      have hhash : (h.socks c).hash = hash := by
        rw [hch]; simp only [NSock.tuple, Prod.mk.injEq] at ht
        obtain ⟨h1, h2, h3, h4, h5, -⟩ := ht
        rw [h1, h2, h3, h4, h5]
      refine ⟨c, (hi.ehash.mem _ c).2 (hhash ▸ hcb ▸ hc), ?_⟩
      simp [ninetMatch_iff, hhash, hcn, ht]
  unfold ninetCheckEstablished
  dsimp only
  constructor
  · intro hex; rw [if_pos (htest.2 hex)]
  · intro hex
    rw [if_neg (mt htest.1 hex)]
    simp only [Function.update_same, and_self, true_and]
    exact ⟨ehashBucket H hash, by simp [addHead]⟩

theorem ninetLookupEstablished_finds (hi : TableInv H h) {b id : Nat} (hb : h.OnEhash b id)
    (hr : (h.socks id).refcnt ≠ 0) :
    ninetLookupEstablished H h (h.socks id).net (h.socks id).daddr (h.socks id).dport
      (h.socks id).rcvSaddr (h.socks id).num (h.socks id).boundDevIf = some id := by
  obtain ⟨-, hni, hh, hbk⟩ := hi.connected b id hb
  unfold ninetLookupEstablished
  dsimp only
  rw [← hh, ← hbk, lookupChain_unique _ _ _ _ _ _ _ _ ((hi.ehash.mem b id).2 hb) rfl
    ((ninetMatch_iff _ _ _ _ _ _).2 ⟨hni, rfl⟩), if_neg hr]
  intro y hy _ hm
  obtain ⟨-, ht⟩ := (ninetMatch_iff _ _ _ _ _ _).1 hm
  exact hi.unique y id b b ((hi.ehash.mem b y).1 hy) hb ht

theorem establishedOk_of_tableInv (hi : TableInv H h) : h.EstablishedOk H :=
  ⟨fun b id hb => by
    obtain ⟨-, -, hh, hbk⟩ := hi.connected b id hb
    exact ⟨hh, hbk, (hi.ehash.mem b id).2 hb⟩,
  fun _ lport _ _ _ => ninetCheckEstablished_spec hi lport,
  fun _ _ hb hr => ninetLookupEstablished_finds hi hb hr⟩

end Spec

/-- After every run of established insertions, `ninet_unhash` calls
(repeated or not) and listener hashes, the established table keeps its
promises. -/
theorem ninetEstablished_agree (H : HashFns) (env : Hashinfo → Nat → Hashinfo)
    (ops : List TableOp) {h0 : Hashinfo} (hi : TableInv H h0) (hpre : RunPre H env ops h0) :
    (runOps H env ops h0).EstablishedOk H :=
  establishedOk_of_tableInv (tableInv_runOps env ops hi hpre)

/-- A listener hashed, then the connecting socket inserted with port 4000,
unhashed, and inserted again with port 4001. -/
def sampleEstablishedOps : List TableOp :=
  [.hash 1, .checkEstablished 3 4000, .unhash 3, .checkEstablished 3 4001]

theorem ninetEstablished_agree_sample :
    (runOps sampleHashFns (fun h _ => h) sampleEstablishedOps
      (Hashinfo.empty sampleSocks true)).EstablishedOk sampleHashFns :=
  ninetEstablished_agree sampleHashFns (fun h _ => h) sampleEstablishedOps
    (tableInv_empty sampleHashFns sampleSocks true)
    ⟨⟨rfl, .inl rfl⟩, ⟨rfl, by decide, rfl⟩, trivial, ⟨rfl, by decide, rfl⟩, trivial⟩

/-- The reply from `[30, 40]` port 5000 to port 4001 finds the socket; one
to the port it had before finds nothing. -/
example : ninetLookupEstablished sampleHashFns
    (runOps sampleHashFns (fun h _ => h) sampleEstablishedOps (Hashinfo.empty sampleSocks true))
    0 ⟨32, [30, 40]⟩ 5000 ⟨32, [10, 20]⟩ 4001 0 = some 3 := by decide

example : ninetLookupEstablished sampleHashFns
    (runOps sampleHashFns (fun h _ => h) sampleEstablishedOps (Hashinfo.empty sampleSocks true))
    0 ⟨32, [30, 40]⟩ 5000 ⟨32, [10, 20]⟩ 4000 0 = none := by decide

end NipTcp
