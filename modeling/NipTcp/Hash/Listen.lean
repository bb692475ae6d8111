/-
  NipTcp.Hash.Listen — the listener lookup.

  `ninet_lookup_listener` scans the `lhash2` bucket of the packet's
  destination address and port, and if that finds nothing the bucket of
  `nip_any_addr` and the port.  `ninet_lhash2_lookup` keeps the best score
  seen; among reuseport listeners of that score a reservoir draw may swap
  the result for another of the same score.

  Main results:
    * `scanOk_foldl` — the scan's invariant: the result, if any, is a
      scanned socket with the best score, which is positive;
    * `ninetLhash2Lookup_max` — the scan finds nothing exactly when no
      socket scores above zero, and otherwise a socket of the chain's best
      score; the reservoir only trades it for a socket of that score;
    * `nipTcpComputeScore_pos` — when a socket scores above zero;
    * `ninetLookupListener_complete` — after every run of `ninet_hash` and
      `ninet_unhash`, the tables link each listener where its fields say,
      every count is right, and the lookup finds a listener exactly when
      one accepts the packet, and only such a one;
    * `ninetLookupListener_exact` — a listener bound to the packet's
      address shadows the wildcard ones when their buckets differ;
      `ninetLookupListener_wildcard_shadows` — when they share one, a
      wildcard listener on the packet's CPU ties it and may win.
-/
import NipTcp.Hash.Invariant

namespace NipTcp

/-! ## §1. The lookup. -/

/-- What a listener lookup is asked: the packet's namespace, source address
and port, destination address and port, its devices, and the CPU it runs on. -/
structure ListenKey where
  net : Nat
  saddr : NipAddr
  sport : Nat
  daddr : NipAddr
  hnum : Nat
  dif : Nat
  sdif : Nat
  cpu : Nat
  deriving Repr, DecidableEq

/-- The state of the `ninet_lhash2_lookup` loop. -/
structure Lhash2Scan where
  result : Option Nat
  hiscore : Int
  /-- `matches`. -/
  nmatches : Nat
  reuseport : Bool
  phash : Nat
  deriving Repr, DecidableEq

variable (H : HashFns)

/-- `nip_tcp_compute_score(sk, net, hnum, daddr, dif, sdif)`. -/
def nipTcpComputeScore (sk : NSock) (k : ListenKey) : Int :=
  if sk.num = k.hnum ∧ sk.ninet = true ∧ sk.net = k.net then
    if sk.rcvSaddr ≠ H.anyAddr ∧ sk.rcvSaddr ≠ k.daddr then -1 else
    let score : Int := if sk.rcvSaddr ≠ H.anyAddr then 2 else 1
    if !H.boundDevEq k.net sk.boundDevIf k.dif k.sdif then -1 else
    let score := score + 1
    if sk.incomingCpu = k.cpu then score + 1 else score
  else -1

/-- One iteration of `inet_lhash2_for_each_icsk_rcu` in `ninet_lhash2_lookup`. -/
def ninetLhash2Step (socks : Nat → NSock) (k : ListenKey) (st : Lhash2Scan) (id : Nat) :
    Lhash2Scan :=
  let sk := socks id
  let score := nipTcpComputeScore H sk k
  if score > st.hiscore then
    let st := { st with result := some id, hiscore := score, reuseport := sk.reuseport }
    if sk.reuseport then
      { st with phash := ninetEhashfn H k.net k.daddr k.hnum k.saddr k.sport, nmatches := 1 }
    else st
  else if score = st.hiscore ∧ st.reuseport then
    let nmatches := st.nmatches + 1
    { st with
      nmatches := nmatches
      result := if H.reciprocalScale st.phash nmatches = 0 then some id else st.result
      phash := H.nextPseudoRandom32 st.phash }
  else st

/-- `ninet_lhash2_lookup(net, ilb2, ...)` over the chain `ilb2`. -/
def ninetLhash2Lookup (socks : Nat → NSock) (ilb2 : List Nat) (k : ListenKey) : Option Nat :=
  (ilb2.foldl (ninetLhash2Step H socks k) ⟨none, 0, 0, false, 0⟩).result

/-- `ninet_lookup_listener(net, hashinfo, skb, doff, saddr, sport, daddr,
hnum, dif, sdif)`. -/
def ninetLookupListener (h : Hashinfo) (k : ListenKey) : Option Nat :=
  let ilb2 := h.lhash2 (lhash2Bucket H (nipPortaddrHash H k.net k.daddr k.hnum))
  match ninetLhash2Lookup H h.socks ilb2 k with
  | some r => some r
  | none =>
    let ilb2 := h.lhash2 (lhash2Bucket H (nipPortaddrHash H k.net H.anyAddr k.hnum))
    ninetLhash2Lookup H h.socks ilb2 { k with daddr := H.anyAddr }

/-! ## §2. The scan. -/

/-- The score in closed form: -1 unless the socket is a NewIP socket of the
namespace and port, bound to the address or to `nip_any_addr`, on a
compatible device; then 3 for the address and 2 for `nip_any_addr`, plus 1
on the packet's CPU. -/
theorem nipTcpComputeScore_eq (sk : NSock) (k : ListenKey) :
    nipTcpComputeScore H sk k =
      if sk.num = k.hnum ∧ sk.ninet = true ∧ sk.net = k.net ∧
          (sk.rcvSaddr = k.daddr ∨ sk.rcvSaddr = H.anyAddr) ∧
          H.boundDevEq k.net sk.boundDevIf k.dif k.sdif = true then
        (if sk.rcvSaddr = H.anyAddr then 2 else 3) + if sk.incomingCpu = k.cpu then 1 else 0
      else -1 := by
  unfold nipTcpComputeScore
  by_cases h1 : sk.num = k.hnum ∧ sk.ninet = true ∧ sk.net = k.net
  · obtain ⟨hn, hni, hnet⟩ := h1
    simp only [hn, hni, hnet, true_and, if_true]
    by_cases ha : sk.rcvSaddr = H.anyAddr
    · cases hd : H.boundDevEq k.net sk.boundDevIf k.dif k.sdif <;> simp [ha, hd]
      split_ifs <;> rfl
    · by_cases hda : sk.rcvSaddr = k.daddr
      · have ha' : k.daddr ≠ H.anyAddr := hda ▸ ha
        cases hd : H.boundDevEq k.net sk.boundDevIf k.dif k.sdif <;> simp [ha, hda, ha', hd]
        split_ifs <;> rfl
      · simp [ha, hda]
  · rw [if_neg h1, if_neg (fun h => h1 ⟨h.1, h.2.1, h.2.2.1⟩)]

/-- A socket scores above zero exactly when it is a NewIP socket of the
namespace and port, bound to the address or to `nip_any_addr`, on a
compatible device. -/
theorem nipTcpComputeScore_pos (sk : NSock) (k : ListenKey) :
    0 < nipTcpComputeScore H sk k ↔
      sk.num = k.hnum ∧ sk.ninet = true ∧ sk.net = k.net ∧
        (sk.rcvSaddr = k.daddr ∨ sk.rcvSaddr = H.anyAddr) ∧
        H.boundDevEq k.net sk.boundDevIf k.dif k.sdif = true := by
  rw [nipTcpComputeScore_eq]
  split
  · exact iff_of_true (by split_ifs <;> decide) ‹_›
  · exact iff_of_false (by decide) ‹_›

/-- What holds after scanning `seen`: the best score is the best of the
scores seen and of zero, a result exists once it is above zero and is a
scanned socket that scored it, and the reservoir is on only above zero. -/
def ScanOk (socks : Nat → NSock) (k : ListenKey) (seen : List Nat) (st : Lhash2Scan) : Prop :=
  0 ≤ st.hiscore ∧ (st.result = none ↔ st.hiscore = 0) ∧ (st.reuseport = true → 0 < st.hiscore) ∧
    (∀ r, st.result = some r → r ∈ seen ∧ nipTcpComputeScore H (socks r) k = st.hiscore) ∧
    ∀ x ∈ seen, nipTcpComputeScore H (socks x) k ≤ st.hiscore

theorem scanOk_init (socks : Nat → NSock) (k : ListenKey) :
    ScanOk H socks k [] ⟨none, 0, 0, false, 0⟩ := by
  simp [ScanOk]

/-- What one iteration does: a higher score takes the result; a score that
ties a reuseport best counts a match and may take the result; anything else
leaves the scan as it was. -/
theorem ninetLhash2Step_cases (socks : Nat → NSock) (k : ListenKey) (st : Lhash2Scan) (id : Nat) :
    (st.hiscore < nipTcpComputeScore H (socks id) k ∧
      (ninetLhash2Step H socks k st id).result = some id ∧
      (ninetLhash2Step H socks k st id).hiscore = nipTcpComputeScore H (socks id) k ∧
      (ninetLhash2Step H socks k st id).reuseport = (socks id).reuseport) ∨
    (nipTcpComputeScore H (socks id) k = st.hiscore ∧ st.reuseport = true ∧
      (ninetLhash2Step H socks k st id).hiscore = st.hiscore ∧
      (ninetLhash2Step H socks k st id).reuseport = true ∧
      ((ninetLhash2Step H socks k st id).result = st.result ∨
        (ninetLhash2Step H socks k st id).result = some id)) ∨
    (nipTcpComputeScore H (socks id) k ≤ st.hiscore ∧ ninetLhash2Step H socks k st id = st) := by
  unfold ninetLhash2Step
  dsimp only
  by_cases hgt : nipTcpComputeScore H (socks id) k > st.hiscore
  · rw [if_pos hgt]
    refine .inl ⟨hgt, ?_⟩
    split <;> exact ⟨rfl, rfl, rfl⟩
  · rw [if_neg hgt]
    by_cases hti : nipTcpComputeScore H (socks id) k = st.hiscore ∧ st.reuseport = true
    · rw [if_pos hti]
      refine .inr (.inl ⟨hti.1, hti.2, rfl, hti.2, ?_⟩)
      split
      · exact .inr rfl
      · exact .inl rfl
    · rw [if_neg hti]
      exact .inr (.inr ⟨Int.not_lt.1 hgt, rfl⟩)

theorem scanOk_step {socks : Nat → NSock} {k : ListenKey} {seen : List Nat} {st : Lhash2Scan}
    (h : ScanOk H socks k seen st) (id : Nat) :
    ScanOk H socks k (seen ++ [id]) (ninetLhash2Step H socks k st id) := by
  obtain ⟨h0, hn, hrp, hr, hmax⟩ := h
  have hmem : ∀ x ∈ seen ++ [id], x = id ∨ x ∈ seen := fun x hx => by
    rcases List.mem_append.1 hx with hx | hx
    · exact .inr hx
    · exact .inl (List.mem_singleton.1 hx)
  have hnew : id ∈ seen ++ [id] := List.mem_append_right _ (List.mem_singleton_self id)
  rcases ninetLhash2Step_cases H socks k st id with
    ⟨hgt, hres, hhi, -⟩ | ⟨heq, hrpt, hhi, hrp', hres⟩ | ⟨hle, hst⟩
  · rw [ScanOk, hres, hhi]
    refine ⟨by omega, by simp; omega, fun _ => by omega, fun r hr' => ?_, fun x hx => ?_⟩
    · cases hr'; exact ⟨hnew, rfl⟩
    · rcases hmem x hx with rfl | hx
      · exact Int.le_refl _
      · exact Int.le_of_lt (Int.lt_of_le_of_lt (hmax x hx) hgt)
  · have hpos := hrp hrpt
    have hsome : ∀ r, (ninetLhash2Step H socks k st id).result = some r →
        r ∈ seen ++ [id] ∧ nipTcpComputeScore H (socks r) k = st.hiscore := fun r hr' => by
      rcases hres with hres | hres <;> rw [hres] at hr'
      · exact ⟨List.mem_append_left _ (hr r hr').1, (hr r hr').2⟩
      · cases hr'; exact ⟨hnew, heq⟩
    refine ⟨hhi ▸ h0, ⟨fun hz => ?_, fun hz => by omega⟩, fun _ => hhi ▸ hpos, hhi ▸ hsome,
      fun x hx => hhi ▸ ?_⟩
    · rcases hres with hres | hres <;> rw [hres] at hz
      · exact absurd (hn.1 hz) (by omega)
      · cases hz
    · rcases hmem x hx with rfl | hx
      · exact Int.le_of_eq heq
      · exact hmax x hx
  · rw [hst]
    refine ⟨h0, hn, hrp, fun r hr' => ?_, fun x hx => ?_⟩
    · exact ⟨List.mem_append_left _ (hr r hr').1, (hr r hr').2⟩
    · rcases hmem x hx with rfl | hx
      · exact hle
      · exact hmax x hx


theorem scanOk_foldl {socks : Nat → NSock} {k : ListenKey} :
    ∀ (l seen : List Nat) (st : Lhash2Scan), ScanOk H socks k seen st →
      ScanOk H socks k (seen ++ l) (l.foldl (ninetLhash2Step H socks k) st)
  | [], seen, st, h => by simpa using h
  | id :: l, seen, st, h => by
    simpa using scanOk_foldl l (seen ++ [id]) _ (scanOk_step H h id)

/-- What `ScanOk` says of the result: none exactly when nothing seen scores
above zero, and otherwise a scanned socket of the best score seen. -/
theorem scanOk_result {socks : Nat → NSock} {k : ListenKey} {seen : List Nat} {st : Lhash2Scan}
    (h : ScanOk H socks k seen st) :
    (st.result = none ↔ ∀ x ∈ seen, nipTcpComputeScore H (socks x) k ≤ 0) ∧
    ∀ r, st.result = some r → r ∈ seen ∧ 0 < nipTcpComputeScore H (socks r) k ∧
      ∀ x ∈ seen, nipTcpComputeScore H (socks x) k ≤ nipTcpComputeScore H (socks r) k := by
  obtain ⟨h0, hn, -, hr, hmax⟩ := h
  have hsome : ∀ r, st.result = some r → r ∈ seen ∧ 0 < nipTcpComputeScore H (socks r) k ∧
      ∀ x ∈ seen, nipTcpComputeScore H (socks x) k ≤ nipTcpComputeScore H (socks r) k := by
    intro r hr'
    obtain ⟨hm, hs⟩ := hr r hr'
    have : st.hiscore ≠ 0 := fun hz => by simp [hn.2 hz] at hr'
    exact ⟨hm, by omega, fun x hx => hs ▸ hmax x hx⟩
  refine ⟨⟨fun hnone x hx => ?_, fun hle => ?_⟩, hsome⟩
  · have := hmax x hx; have := hn.1 hnone; omega
  · cases hres : st.result with
    | none => rfl
    | some r => obtain ⟨hm, hpos, -⟩ := hsome r hres; exact absurd (hle r hm) (by omega)

theorem scanOk_lookup (socks : Nat → NSock) (ilb2 : List Nat) (k : ListenKey) :
    ScanOk H socks k ilb2 (ilb2.foldl (ninetLhash2Step H socks k) ⟨none, 0, 0, false, 0⟩) := by
  simpa using scanOk_foldl H ilb2 [] _ (scanOk_init H socks k)

/-- The scan of a chain finds a socket exactly when one scores above zero,
and what it finds is on the chain and scores above zero. -/
theorem ninetLhash2Lookup_spec (socks : Nat → NSock) (ilb2 : List Nat) (k : ListenKey) :
    ((ninetLhash2Lookup H socks ilb2 k).isSome ↔
      ∃ x ∈ ilb2, 0 < nipTcpComputeScore H (socks x) k) ∧
    ∀ r, ninetLhash2Lookup H socks ilb2 k = some r →
      r ∈ ilb2 ∧ 0 < nipTcpComputeScore H (socks r) k := by
  obtain ⟨hnone, hsome⟩ := scanOk_result H (scanOk_lookup H socks ilb2 k)
  refine ⟨?_, fun r hr => ⟨(hsome r hr).1, (hsome r hr).2.1⟩⟩
  simp only [ninetLhash2Lookup, Option.isSome_iff_ne_none, Ne, hnone, not_forall, not_le,
    exists_prop]

/-- `ninet_lhash2_lookup` picks a socket of the chain's best score: none
exactly when no socket scores above zero, and otherwise one that scores above
zero and at least as much as every socket of the chain.  After any prefix of
a chain, the reservoir branch (a socket tying the best score, which a
reuseport listener set) keeps the result, a socket of that best score, or
swaps it for the tying socket. -/
theorem ninetLhash2Lookup_max (socks : Nat → NSock) (ilb2 : List Nat) (k : ListenKey) :
    (ninetLhash2Lookup H socks ilb2 k = none ↔
      ∀ x ∈ ilb2, nipTcpComputeScore H (socks x) k ≤ 0) ∧
    (∀ r, ninetLhash2Lookup H socks ilb2 k = some r →
      r ∈ ilb2 ∧ 0 < nipTcpComputeScore H (socks r) k ∧
        ∀ x ∈ ilb2, nipTcpComputeScore H (socks x) k ≤ nipTcpComputeScore H (socks r) k) ∧
    ∀ (pre : List Nat) (id : Nat),
      let st := pre.foldl (ninetLhash2Step H socks k) ⟨none, 0, 0, false, 0⟩
      st.reuseport = true → nipTcpComputeScore H (socks id) k = st.hiscore →
        ∃ r, st.result = some r ∧ nipTcpComputeScore H (socks r) k = st.hiscore ∧
          (∀ x ∈ pre, nipTcpComputeScore H (socks x) k ≤ st.hiscore) ∧
          (ninetLhash2Step H socks k st id).hiscore = st.hiscore ∧
          ((ninetLhash2Step H socks k st id).result = st.result ∨
            (ninetLhash2Step H socks k st id).result = some id) := by
  refine ⟨(scanOk_result H (scanOk_lookup H socks ilb2 k)).1,
    (scanOk_result H (scanOk_lookup H socks ilb2 k)).2, fun pre id => ?_⟩
  have hok := scanOk_lookup H socks pre k
  dsimp only
  generalize pre.foldl (ninetLhash2Step H socks k) ⟨none, 0, 0, false, 0⟩ = st at hok ⊢
  intro hrp hid
  obtain ⟨-, hn, hpos, hr, hmax⟩ := hok
  obtain ⟨r, hres⟩ := Option.ne_none_iff_exists'.1 (mt hn.1 (by have := hpos hrp; omega))
  refine ⟨r, hres, (hr r hres).2, hmax, ?_⟩
  rcases ninetLhash2Step_cases H socks k st id with ⟨hgt, -⟩ | ⟨-, -, hhi, -, hres'⟩ | ⟨-, hst⟩
  · omega
  · exact ⟨hhi, hres'⟩
  · rw [hst]; exact ⟨rfl, .inl rfl⟩

/-- Past a best score set by a listener without `SO_REUSEPORT`, a scan
keeps its state through every socket that scores no more. -/
theorem foldl_ninetLhash2Step_of_le {socks : Nat → NSock} {k : ListenKey} :
    ∀ (l : List Nat) (st : Lhash2Scan), st.reuseport = false →
      (∀ x ∈ l, nipTcpComputeScore H (socks x) k ≤ st.hiscore) →
        l.foldl (ninetLhash2Step H socks k) st = st
  | [], _, _, _ => rfl
  | x :: l, st, hrp, hle => by
    have hx : ninetLhash2Step H socks k st x = st := by
      have := hle x (List.mem_cons_self _ _)
      simp [ninetLhash2Step, hrp, not_lt.2 this]
    rw [List.foldl_cons, hx]
    exact foldl_ninetLhash2Step_of_le l st hrp fun y hy => hle y (List.mem_cons_of_mem _ hy)

/-- Ties go to the first socket scanned: a chain headed by a listener
without `SO_REUSEPORT` that scores above zero and no less than any socket
after it gives that head. -/
theorem ninetLhash2Lookup_head {socks : Nat → NSock} {k : ListenKey} {x : Nat} {rest : List Nat}
    (hrp : (socks x).reuseport = false) (hpos : 0 < nipTcpComputeScore H (socks x) k)
    (hle : ∀ y ∈ rest, nipTcpComputeScore H (socks y) k ≤ nipTcpComputeScore H (socks x) k) :
    ninetLhash2Lookup H socks (x :: rest) k = some x := by
  have h1 : ninetLhash2Step H socks k ⟨none, 0, 0, false, 0⟩ x =
      ⟨some x, nipTcpComputeScore H (socks x) k, 0, false, 0⟩ := by
    simp [ninetLhash2Step, hpos, hrp]
  simp only [ninetLhash2Lookup, List.foldl_cons, h1]
  rw [foldl_ninetLhash2Step_of_le H rest _ rfl hle]

/-! ## §3. The two phases. -/

/-- A hashed NewIP listener of the packet's namespace and port, bound to its
destination address or to `nip_any_addr`, on a compatible device. -/
def Hashinfo.Accepts (h : Hashinfo) (k : ListenKey) (id : Nat) : Prop :=
  (∃ b, h.OnListening b id) ∧ (h.socks id).ninet = true ∧ (h.socks id).net = k.net ∧
    (h.socks id).num = k.hnum ∧
    ((h.socks id).rcvSaddr = k.daddr ∨ (h.socks id).rcvSaddr = H.anyAddr) ∧
    H.boundDevEq k.net (h.socks id).boundDevIf k.dif k.sdif = true

section Lookup

variable {H} {h : Hashinfo}

/-- A socket on an `lhash2` chain is a hashed listener, on the chain its
fields give. -/
theorem lhash2_mem_listener (hi : TableInv H h) (hl2 : h.hasLhash2 = true) {b id : Nat}
    (hm : id ∈ h.lhash2 b) : (∃ b', h.OnListening b' id) ∧ b = ninetLhash2BucketSk H (h.socks id) := by
  have hp := (hi.lhash2.mem b id).1 hm
  obtain ⟨b', hb'⟩ := hi.portaddr b id hp
  obtain ⟨-, -, hpn⟩ := hi.listener b' id hb'
  simp only [Hashinfo.OnLhash2, hpn, hl2, if_true, Option.some.injEq] at hp
  exact ⟨⟨b', hb'⟩, hp.symm⟩

/-- A listener that accepts the packet is on the `lhash2` chain of its own
address and the packet's namespace and port. -/
theorem Hashinfo.Accepts.mem_lhash2 (hi : TableInv H h) (hl2 : h.hasLhash2 = true) {k : ListenKey}
    {id : Nat} (ha : h.Accepts H k id) :
    id ∈ h.lhash2 (lhash2Bucket H (nipPortaddrHash H k.net (h.socks id).rcvSaddr k.hnum)) := by
  obtain ⟨⟨b, hb⟩, -, hnet, hnum, -⟩ := ha
  obtain ⟨-, -, hpn⟩ := hi.listener b id hb
  simp only [hl2, if_true] at hpn
  refine (hi.lhash2.mem _ id).2 ?_
  simp only [Hashinfo.OnLhash2, hpn, ninetLhash2BucketSk, hnet, hnum]

theorem ninetLookupListener_spec (hi : TableInv H h) (hl2 : h.hasLhash2 = true) (k : ListenKey) :
    ((ninetLookupListener H h k).isSome ↔ ∃ id, h.Accepts H k id) ∧
      ∀ id, ninetLookupListener H h k = some id → h.Accepts H k id := by
  have sound : ∀ (k' : ListenKey) (b id : Nat), id ∈ h.lhash2 b →
      0 < nipTcpComputeScore H (h.socks id) k' → k'.net = k.net → k'.hnum = k.hnum →
      k'.dif = k.dif → k'.sdif = k.sdif → (k'.daddr = k.daddr ∨ k'.daddr = H.anyAddr) →
      h.Accepts H k id := by
    intro k' b id hm hs hn hh hd hsd ha
    obtain ⟨hnum, hni, hnet, hr, hdev⟩ := (nipTcpComputeScore_pos H _ _).1 hs
    refine ⟨(lhash2_mem_listener hi hl2 hm).1, hni, hnet.trans hn, hnum.trans hh, ?_, ?_⟩
    · rcases ha with ha | ha <;> rw [ha] at hr <;> tauto
    · rwa [hn, hd, hsd] at hdev
  have hsome : ∀ id, ninetLookupListener H h k = some id → h.Accepts H k id := by
    intro id hid
    simp only [ninetLookupListener] at hid
    split at hid
    · next r hr =>
      cases hid
      obtain ⟨hm, hs⟩ := (ninetLhash2Lookup_spec H _ _ _).2 _ hr
      exact sound k _ _ hm hs rfl rfl rfl rfl (.inl rfl)
    · obtain ⟨hm, hs⟩ := (ninetLhash2Lookup_spec H _ _ _).2 _ hid
      exact sound _ _ _ hm hs rfl rfl rfl rfl (.inr rfl)
  refine ⟨⟨fun hs => ?_, fun ⟨id, ha⟩ => ?_⟩, hsome⟩
  · obtain ⟨id, hid⟩ := Option.isSome_iff_exists.1 hs
    exact ⟨id, hsome id hid⟩
  have hin : ∀ a, (h.socks id).rcvSaddr = a →
      id ∈ h.lhash2 (lhash2Bucket H (nipPortaddrHash H k.net a k.hnum)) := by
    rintro a rfl; exact ha.mem_lhash2 hi hl2
  obtain ⟨-, hni, hnet, hnum, hr, hdev⟩ := ha
  have hfound : ∀ (k' : ListenKey) (a : NipAddr), k' = { k with daddr := a } →
      (h.socks id).rcvSaddr = a →
      (ninetLhash2Lookup H h.socks (h.lhash2 (lhash2Bucket H (nipPortaddrHash H k.net a k.hnum)))
        k').isSome := by
    rintro k' a rfl ha
    refine (ninetLhash2Lookup_spec H _ _ _).1.2 ⟨id, hin a ha, ?_⟩
    exact (nipTcpComputeScore_pos H _ _).2 ⟨hnum, hni, hnet, .inl ha, hdev⟩
  simp only [ninetLookupListener]
  split
  · rfl
  · next hnone =>
    rcases hr with hr | hr
    · have := hfound k k.daddr rfl hr
      rw [hnone] at this
      exact absurd this (by simp)
    · exact hfound _ H.anyAddr rfl hr

/-- When the packet's address and `nip_any_addr` fall in different `lhash2`
buckets for the port, a listener bound to the address that accepts the
packet shadows every wildcard one: the lookup returns a listener bound to the
address. -/
theorem ninetLookupListener_exact (hi : TableInv H h) (hl2 : h.hasLhash2 = true) {k : ListenKey}
    (hb : lhash2Bucket H (nipPortaddrHash H k.net k.daddr k.hnum) ≠
      lhash2Bucket H (nipPortaddrHash H k.net H.anyAddr k.hnum))
    {e : Nat} (he : h.Accepts H k e) (hex : (h.socks e).rcvSaddr = k.daddr) :
    ∃ r, ninetLookupListener H h k = some r ∧ h.Accepts H k r ∧ (h.socks r).rcvSaddr = k.daddr := by
  have hin := he.mem_lhash2 hi hl2
  rw [hex] at hin
  obtain ⟨-, hni, hnet, hnum, -, hdev⟩ := he
  obtain ⟨r, hr⟩ := Option.isSome_iff_exists.1 ((ninetLhash2Lookup_spec H _ _ k).1.2
    ⟨e, hin, (nipTcpComputeScore_pos H _ _).2 ⟨hnum, hni, hnet, .inl hex, hdev⟩⟩)
  have hlook : ninetLookupListener H h k = some r := by simp only [ninetLookupListener, hr]
  obtain ⟨hm, hs⟩ := (ninetLhash2Lookup_spec H _ _ _).2 r hr
  obtain ⟨hnum', -, hnet', ha, -⟩ := (nipTcpComputeScore_pos H _ _).1 hs
  refine ⟨r, hlook, (ninetLookupListener_spec hi hl2 k).2 r hlook, ha.resolve_right fun ha => hb ?_⟩
  rw [(lhash2_mem_listener hi hl2 hm).2, ninetLhash2BucketSk, hnum', hnet', ha]

end Lookup

/-- The listener tables are consistent with the lookup: each hashed
listener is on its `listening_hash` chain and on exactly the `lhash2` chain of
`nip_portaddr_hash(net, sk_nip_rcv_saddr, inet_num)`, every count is its
chain's length, and `ninet_lookup_listener` finds a socket exactly when a
listener accepts the packet, and only such a listener. -/
def Hashinfo.ListenerTablesOk (H : HashFns) (h : Hashinfo) : Prop :=
  (∀ b id, h.OnListening b id →
    b = listenBucket H (h.socks id) ∧ id ∈ h.listening b ∧
    ∀ b', id ∈ h.lhash2 b' ↔ b' = ninetLhash2BucketSk H (h.socks id)) ∧
  (∀ b, h.listeningCount b = (h.listening b).length ∧ h.lhash2Count b = (h.lhash2 b).length) ∧
  ∀ k, ((ninetLookupListener H h k).isSome ↔ ∃ id, h.Accepts H k id) ∧
    ∀ id, ninetLookupListener H h k = some id → h.Accepts H k id

/-- Every run of `ninet_hash` on unhashed listeners, of `ninet_unhash`
(repeated or not) and of established insertions, on a table with `lhash2`,
leaves the listener tables consistent with the lookup
(`ListenerTablesOk`). -/
theorem ninetLookupListener_complete (H : HashFns) (env : Hashinfo → Nat → Hashinfo)
    (ops : List TableOp) {h0 : Hashinfo} (hi : TableInv H h0) (hl2 : h0.hasLhash2 = true)
    (hpre : RunPre H env ops h0) : (runOps H env ops h0).ListenerTablesOk H := by
  have hi' := tableInv_runOps env ops hi hpre
  have hl2' := (runOps_hasLhash2 env ops hpre).trans hl2
  refine ⟨fun b id hb => ?_, fun b => ⟨hi'.listeningCount b, hi'.lhash2Count b⟩,
    ninetLookupListener_spec hi' hl2'⟩
  obtain ⟨-, hbk, hpn⟩ := hi'.listener b id hb
  simp only [hl2', if_true] at hpn
  refine ⟨hbk, (hi'.listening.mem b id).2 hb, fun b' => ?_⟩
  rw [hi'.lhash2.mem b' id, Hashinfo.OnLhash2, hpn, Option.some.injEq, eq_comm]

/-- Hash functions small enough to follow by hand: sums, and masks of 7. -/
def sampleHashFns : HashFns :=
  ⟨fun a b => a + b, fun a b c d => a + b + c + d, fun n => n, fun a b c d e => a + b + c + d + e,
    0, 0, fun net num => net + num, 7, 7, fun _ bound dif _ => bound == 0 || bound == dif,
    fun v n => v % n, fun s => s + 1, ⟨0, []⟩⟩

/-- Two NewIP listeners on port 80 of namespace 0, one bound to the address
`[10, 20]` and one to `nip_any_addr`, and a socket connecting from that
address, port 4000, to `[30, 40]` port 5000. -/
def sampleSocks : Nat → NSock
  | 1 => ⟨0, true, .listen, ⟨32, [10, 20]⟩, ⟨0, []⟩, 80, 80, 0, 0, 0, false, 0, 1⟩
  | 2 => ⟨0, true, .listen, ⟨0, []⟩, ⟨0, []⟩, 80, 80, 0, 0, 0, false, 0, 1⟩
  | 3 => ⟨0, true, .synSent, ⟨32, [10, 20]⟩, ⟨32, [30, 40]⟩, 0, 0, 5000, 0, 0, false, 0, 1⟩
  | _ => ⟨0, true, .close, ⟨0, []⟩, ⟨0, []⟩, 0, 0, 0, 0, 0, false, 0, 0⟩

/-- Both listeners hashed, the first unhashed twice and hashed again. -/
def sampleListenOps : List TableOp := [.hash 1, .hash 2, .unhash 1, .unhash 1, .hash 1]

theorem ninetLookupListener_complete_sample :
    (runOps sampleHashFns (fun h _ => h) sampleListenOps
      (Hashinfo.empty sampleSocks true)).ListenerTablesOk sampleHashFns :=
  ninetLookupListener_complete sampleHashFns (fun h _ => h) sampleListenOps
    (tableInv_empty sampleHashFns sampleSocks true) rfl
    ⟨⟨rfl, .inl rfl⟩, ⟨rfl, .inl rfl⟩, trivial, trivial, ⟨rfl, .inl rfl⟩, trivial⟩

/-- A packet for `[10, 20]` port 80 finds the listener bound to it; one for
another address falls back to the wildcard listener. -/
example : ninetLookupListener sampleHashFns
    (runOps sampleHashFns (fun h _ => h) sampleListenOps (Hashinfo.empty sampleSocks true))
    ⟨0, ⟨32, [30, 40]⟩, 5000, ⟨32, [10, 20]⟩, 80, 0, 0, 0⟩ = some 1 := by decide

example : ninetLookupListener sampleHashFns
    (runOps sampleHashFns (fun h _ => h) sampleListenOps (Hashinfo.empty sampleSocks true))
    ⟨0, ⟨32, [30, 40]⟩, 5000, ⟨32, [10, 21]⟩, 80, 0, 0, 0⟩ = some 2 := by decide

/-- The table after the sample run. -/
def sampleListenTable : Hashinfo :=
  runOps sampleHashFns (fun h _ => h) sampleListenOps (Hashinfo.empty sampleSocks true)

theorem tableInv_sampleListen : TableInv sampleHashFns sampleListenTable :=
  tableInv_runOps (fun h _ => h) sampleListenOps
    (tableInv_empty sampleHashFns sampleSocks true)
    ⟨⟨rfl, .inl rfl⟩, ⟨rfl, .inl rfl⟩, trivial, trivial, ⟨rfl, .inl rfl⟩, trivial⟩

/-- Under `sampleHashFns` the address `[10, 20]` and `nip_any_addr` fall in
different buckets for port 80, so its exact listener wins. -/
theorem ninetLookupListener_exact_sample :
    ∃ r, ninetLookupListener sampleHashFns sampleListenTable
        ⟨0, ⟨32, [30, 40]⟩, 5000, ⟨32, [10, 20]⟩, 80, 0, 0, 0⟩ = some r ∧
      sampleListenTable.Accepts sampleHashFns ⟨0, ⟨32, [30, 40]⟩, 5000, ⟨32, [10, 20]⟩, 80, 0, 0, 0⟩ r ∧
      (sampleListenTable.socks r).rcvSaddr = ⟨32, [10, 20]⟩ :=
  ninetLookupListener_exact tableInv_sampleListen rfl (by decide)
    (e := 1) ⟨⟨_, rfl⟩, rfl, rfl, rfl, .inl rfl, rfl⟩ rfl

/-! ## §4. An exact listener passed over. -/

/-- A listener bound to `[8, 0]` port 80 whose packets last ran on CPU 1,
and a wildcard listener of port 80 whose packets last ran on CPU 0.  Under
`sampleHashFns` both addresses hash to `lhash2` bucket 0 for port 80. -/
def tieSocks : Nat → NSock
  | 1 => ⟨0, true, .listen, ⟨32, [8, 0]⟩, ⟨0, []⟩, 80, 80, 0, 0, 1, false, 0, 1⟩
  | 2 => ⟨0, true, .listen, ⟨0, []⟩, ⟨0, []⟩, 80, 80, 0, 0, 0, false, 0, 1⟩
  | _ => ⟨0, true, .close, ⟨0, []⟩, ⟨0, []⟩, 0, 0, 0, 0, 0, false, 0, 0⟩

/-- A packet from `[30, 40]` port 5000 for `[8, 0]` port 80, on CPU 0. -/
def tieKey : ListenKey := ⟨0, ⟨32, [30, 40]⟩, 5000, ⟨32, [8, 0]⟩, 80, 0, 0, 0⟩

/-- The exact listener hashed, then the wildcard one. -/
def tieTable : Hashinfo :=
  runOps sampleHashFns (fun h _ => h) [.hash 1, .hash 2] (Hashinfo.empty tieSocks true)

/-- The exact listener, hashed first, ends behind the wildcard one on their
shared chain; both score 3, and the tie goes to the wildcard listener. -/
theorem ninetLookupListener_wildcard_shadows :
    tieTable.Accepts sampleHashFns tieKey 1 ∧ (tieTable.socks 1).rcvSaddr = tieKey.daddr ∧
      tieKey.daddr ≠ sampleHashFns.anyAddr ∧
      ninetLookupListener sampleHashFns tieTable tieKey = some 2 ∧
      (tieTable.socks 2).rcvSaddr = sampleHashFns.anyAddr :=
  ⟨⟨⟨listenBucket sampleHashFns (tieSocks 1), rfl⟩, rfl, rfl, rfl, .inl rfl, rfl⟩, rfl, by decide,
    by decide, rfl⟩

/-- On a chain headed by the wildcard listener both score 3, and the head
wins. -/
theorem ninetLhash2Lookup_head_tie :
    (tieSocks 2).reuseport = false ∧ ninetLhash2Lookup sampleHashFns tieSocks [2, 1] tieKey = some 2 :=
  ⟨rfl, ninetLhash2Lookup_head sampleHashFns rfl (by decide) (by decide)⟩

end NipTcp
