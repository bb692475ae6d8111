/-
  NipTcp.Send.SizeGoal — `tcp_nip_send_mss` and `tcp_xmit_size_goal`.

  `tcp_nip_sendmsg` asks `tcp_nip_send_mss` for the current MSS and a size
  goal, at `restart:` and after every wait for memory.  The goal is a whole
  number of segments: as many MSS-sized segments as fit under the device's
  GSO size, bounded by half the peer's window (`tcp_bound_to_half_wnd`), and
  at most `sk_gso_max_segs` of them.

  `tcp_xmit_size_goal` avoids the division on most calls: it keeps the last
  segment count in `tp->gso_segs`, and recomputes it only when the new bound
  falls outside `[gso_segs·mss, gso_segs·mss + mss)`.  The counts are `u16`
  (`min_t(u16, …)`), the products `u32`.

  The kernel's `MAX_TCP_HEADER` and `tcp_bound_to_half_wnd` (in
  `include/net/tcp.h`, not among the sources) are an environment
  `SizeGoalEnv`.

  Main results:
    * `tcpXmitSizeGoal_gsoSegs_le` — no call stores a segment count above
      `sk_gso_max_segs`;
    * `tcpXmitSizeGoal_eq_plain` — from such a socket, the shortcut returns
      the goal the division would;
    * `sendMssRun_eq_plain` — over every sequence of `tcp_nip_send_mss`
      calls, with any MSS and any window, every goal is the recomputed one;
    * `tcpXmitSizeGoal_spec` — the goal is a multiple of the MSS, at least
      one MSS, within the window bound and the segment limit, and the
      largest such.
-/
import NipTcp.Basic

namespace NipTcp

/-! ## §1. The model. -/

/-- What the kernel's headers fix: `MAX_TCP_HEADER`, and
`tcp_bound_to_half_wnd(tp, pktsize)`, which caps a size at half the largest
window the peer offered, as the `u32` the caller stores. -/
structure SizeGoalEnv where
  maxTcpHeader : Nat
  boundToHalfWnd : Nat → Nat

/-- The fields `tcp_xmit_size_goal` reads and writes: `sk->sk_gso_max_size`,
and the `u16` fields `sk->sk_gso_max_segs` and `tp->gso_segs`, which carry
their bound. -/
structure GsoSock where
  gsoMaxSize : Nat
  gsoMaxSegs : Nat
  /-- `tp->gso_segs`: the segment count of the last goal computed. -/
  gsoSegs : Nat
  gsoMaxSegs_lt : gsoMaxSegs < 2 ^ 16
  gsoSegs_lt : gsoSegs < 2 ^ 16
  deriving Repr, DecidableEq

/-- `new_size_goal`: `sk->sk_gso_max_size - 1 - MAX_TCP_HEADER` on `u32`,
bounded by half the window. -/
def GsoSock.newSizeGoal (env : SizeGoalEnv) (sk : GsoSock) : Nat :=
  env.boundToHalfWnd (seqSub (seqSub sk.gsoMaxSize 1) env.maxTcpHeader)

/-- Store a segment count no larger than `sk_gso_max_segs` in `tp->gso_segs`. -/
def GsoSock.setGsoSegs (sk : GsoSock) (n : Nat) (hn : n ≤ sk.gsoMaxSegs) : GsoSock :=
  { sk with gsoSegs := n, gsoSegs_lt := lt_of_le_of_lt hn sk.gsoMaxSegs_lt }

/-- `tcp_xmit_size_goal(sk, mss_now, large_allowed)`: the socket with the
`tp->gso_segs` the call leaves, and the goal. -/
def tcpXmitSizeGoal (env : SizeGoalEnv) (sk : GsoSock) (mssNow : Nat) (largeAllowed : Bool) :
    GsoSock × Nat :=
  if !largeAllowed then (sk, mssNow) else
  let newSizeGoal := sk.newSizeGoal env
  let sizeGoal := sk.gsoSegs * mssNow % 2 ^ 32
  if newSizeGoal < sizeGoal ∨ (sizeGoal + mssNow) % 2 ^ 32 ≤ newSizeGoal then
    let sk := sk.setGsoSegs (min (newSizeGoal / mssNow % 2 ^ 16) sk.gsoMaxSegs) (min_le_right _ _)
    (sk, max (sk.gsoSegs * mssNow % 2 ^ 32) mssNow)
  else (sk, max sizeGoal mssNow)

/-- `tcp_nip_send_mss(sk, &size_goal, flags)`, with `currentMss` what
`tcp_nip_current_mss(sk)` returns: the socket, `mss_now`, and the goal, for
large segments unless the send is `MSG_OOB`. -/
def tcpNipSendMss (env : SizeGoalEnv) (currentMss : Nat) (sk : GsoSock) (oob : Bool) :
    GsoSock × Nat × Nat :=
  let r := tcpXmitSizeGoal env sk currentMss (!oob)
  (r.1, currentMss, r.2)

/-- The goals of a sequence of `tcp_nip_send_mss` calls on one socket, each
with its own environment (the window moves between calls), current MSS and
`MSG_OOB` flag. -/
def sendMssRun : GsoSock → List (SizeGoalEnv × Nat × Bool) → List Nat
  | _, [] => []
  | sk, (env, mss, oob) :: cs =>
    let r := tcpNipSendMss env mss sk oob
    r.2.2 :: sendMssRun r.1 cs

/-- The goal with the shortcut taken out: the segment count recomputed on
every call, as the source computes it when the test fails. -/
def sizeGoalPlain (env : SizeGoalEnv) (sk : GsoSock) (mssNow : Nat) (largeAllowed : Bool) : Nat :=
  if !largeAllowed then mssNow
  else max (min (sk.newSizeGoal env / mssNow % 2 ^ 16) sk.gsoMaxSegs * mssNow % 2 ^ 32) mssNow

/-- What a goal `g` for segments of `m` bytes should be: a whole number of
segments, at least one; within the window bound (or one segment) and the
device's segment limit; and, when the bound holds fewer than `2^16`
segments, the largest such. -/
def GsoSock.GoalOk (env : SizeGoalEnv) (sk : GsoSock) (m g : Nat) : Prop :=
  m ∣ g ∧ m ≤ g ∧ g ≤ max (sk.newSizeGoal env) m ∧ g ≤ max (sk.gsoMaxSegs * m) m ∧
    (sk.newSizeGoal env / m < 2 ^ 16 →
      ∀ k ≤ sk.gsoMaxSegs, k * m ≤ sk.newSizeGoal env → k * m ≤ g)

/-! ## §2. The cache. -/

/-- Under `2^16` segments of an MSS under `2^16`, one more MSS still fits in
a `u32`. -/
theorem segs_mul_add_lt {g m : Nat} (hg : g < 2 ^ 16) (hm : m < 2 ^ 16) : g * m + m < 2 ^ 32 := by
  have h1 : (g + 1) * m ≤ 2 ^ 16 * m := Nat.mul_le_mul_right m hg
  have h2 : 2 ^ 16 * m < 2 ^ 16 * 2 ^ 16 := Nat.mul_lt_mul_of_pos_left hm (by norm_num)
  rw [Nat.succ_mul] at h1
  omega

/-- A call never changes the device limits. -/
@[simp] theorem tcpXmitSizeGoal_gsoMaxSegs (env : SizeGoalEnv) (sk : GsoSock) (m : Nat) (b : Bool) :
    (tcpXmitSizeGoal env sk m b).1.gsoMaxSegs = sk.gsoMaxSegs := by
  unfold tcpXmitSizeGoal; dsimp only; split_ifs <;> rfl

@[simp] theorem tcpXmitSizeGoal_gsoMaxSize (env : SizeGoalEnv) (sk : GsoSock) (m : Nat) (b : Bool) :
    (tcpXmitSizeGoal env sk m b).1.gsoMaxSize = sk.gsoMaxSize := by
  unfold tcpXmitSizeGoal; dsimp only; split_ifs <;> rfl

/-- No call stores a segment count above `sk_gso_max_segs`: the count it
recomputes is capped by it, and one it keeps already was. -/
theorem tcpXmitSizeGoal_gsoSegs_le (env : SizeGoalEnv) {sk : GsoSock} (hs : sk.gsoSegs ≤ sk.gsoMaxSegs)
    (m : Nat) (b : Bool) : (tcpXmitSizeGoal env sk m b).1.gsoSegs ≤ sk.gsoMaxSegs := by
  unfold tcpXmitSizeGoal
  dsimp only
  split_ifs
  · exact hs
  · exact min_le_right _ _
  · exact hs

/-- From a socket whose count is within `sk_gso_max_segs`, the shortcut
returns the recomputed goal: when the new bound lies in
`[gso_segs·mss, gso_segs·mss + mss)`, the division would give `gso_segs`
back. -/
theorem tcpXmitSizeGoal_eq_plain (env : SizeGoalEnv) {sk : GsoSock} (hs : sk.gsoSegs ≤ sk.gsoMaxSegs)
    {m : Nat} (hm : 0 < m) (hm' : m < 2 ^ 16) (b : Bool) :
    (tcpXmitSizeGoal env sk m b).2 = sizeGoalPlain env sk m b := by
  unfold tcpXmitSizeGoal sizeGoalPlain
  cases b
  · rfl
  have hadd := segs_mul_add_lt sk.gsoSegs_lt hm'
  have hlt : sk.gsoSegs * m < 2 ^ 32 := by omega
  simp only [Bool.not_true, Bool.false_eq_true, if_false, Nat.mod_eq_of_lt hlt,
    Nat.mod_eq_of_lt hadd]
  split_ifs with hmiss
  · rfl
  · have hdiv : sk.newSizeGoal env / m = sk.gsoSegs :=
      Nat.div_eq_of_lt_le (by omega) (by rw [Nat.succ_mul]; omega)
    rw [hdiv, Nat.mod_eq_of_lt sk.gsoSegs_lt, min_eq_left hs, Nat.mod_eq_of_lt hlt]

/-- The recomputed goal reads only the device limits, which no call
changes. -/
@[simp] theorem sizeGoalPlain_tcpXmitSizeGoal (env env' : SizeGoalEnv) (sk : GsoSock)
    (m m' : Nat) (b b' : Bool) :
    sizeGoalPlain env' (tcpXmitSizeGoal env sk m b).1 m' b' = sizeGoalPlain env' sk m' b' := by
  simp only [sizeGoalPlain, GsoSock.newSizeGoal, tcpXmitSizeGoal_gsoMaxSegs,
    tcpXmitSizeGoal_gsoMaxSize]

/-- The recomputed goal is what a goal should be. -/
theorem sizeGoalPlain_spec (env : SizeGoalEnv) (sk : GsoSock) {m : Nat} (hm : 0 < m)
    (hm' : m < 2 ^ 16) : sk.GoalOk env m (sizeGoalPlain env sk m true) := by
  set q := sk.newSizeGoal env / m
  set k := min (q % 2 ^ 16) sk.gsoMaxSegs
  have hk : k < 2 ^ 16 := lt_of_le_of_lt (min_le_left _ _) (Nat.mod_lt _ (by norm_num))
  have hkm : k * m < 2 ^ 32 := by have := segs_mul_add_lt hk hm'; omega
  have hplain : sizeGoalPlain env sk m true = max (k * m) m := by
    simp only [sizeGoalPlain, Bool.not_true, Bool.false_eq_true, if_false, Nat.mod_eq_of_lt hkm]
  have hkq : k * m ≤ sk.newSizeGoal env :=
    le_trans (Nat.mul_le_mul_right m (le_trans (min_le_left _ _) (Nat.mod_le _ _)))
      (Nat.div_mul_le_self _ _)
  rw [hplain]
  refine ⟨?_, le_max_right _ _, max_le_max hkq le_rfl,
    max_le_max (Nat.mul_le_mul_right m (min_le_right _ _)) le_rfl, fun hq j hj hjm => ?_⟩
  · rcases max_choice (k * m) m with h | h
    · rw [h]; exact Dvd.intro_left k rfl
    · rw [h]
  · have hjq : j ≤ q := (Nat.le_div_iff_mul_le hm).2 hjm
    have hjk : j ≤ k := le_min (by rwa [Nat.mod_eq_of_lt hq]) hj
    exact le_trans (Nat.mul_le_mul_right m hjk) (le_max_left _ _)

/-- From a socket whose cached count is within `sk_gso_max_segs`, the goal
`tcp_xmit_size_goal` returns for large segments is what a goal should be. -/
theorem tcpXmitSizeGoal_spec (env : SizeGoalEnv) {sk : GsoSock} (hs : sk.gsoSegs ≤ sk.gsoMaxSegs)
    {m : Nat} (hm : 0 < m) (hm' : m < 2 ^ 16) :
    sk.GoalOk env m (tcpXmitSizeGoal env sk m true).2 := by
  rw [tcpXmitSizeGoal_eq_plain env hs hm hm']
  exact sizeGoalPlain_spec env sk hm hm'

/-! ## §4. A 64 KiB device. -/

/-- A socket on a device of GSO size 65536 that takes at most 64 segments,
with no count cached yet. -/
def freshGsoSock : GsoSock := ⟨65536, 64, 0, by decide, by decide⟩

/-- `MAX_TCP_HEADER` 320, and a peer whose largest window was 40000 bytes. -/
def halfWndEnv : SizeGoalEnv := ⟨320, fun n => min n 20000⟩

/-- The same socket with the count a 1400-byte MSS gives under `halfWndEnv`
cached: 14 segments, 19600 bytes, within one MSS of the 20000-byte bound,
so the next such call takes the shortcut. -/
def cachedGsoSock : GsoSock := ⟨65536, 64, 14, by decide, by decide⟩

theorem tcpXmitSizeGoal_spec_cached :
    cachedGsoSock.gsoSegs ≤ cachedGsoSock.gsoMaxSegs ∧ 0 < 1400 ∧ 1400 < 2 ^ 16 ∧
      cachedGsoSock.GoalOk halfWndEnv 1400 (tcpXmitSizeGoal halfWndEnv cachedGsoSock 1400 true).2 :=
  ⟨by decide, by decide, by decide, tcpXmitSizeGoal_spec halfWndEnv (by decide) (by decide) (by decide)⟩

/-- From the fresh socket the call divides and caches 14; the new bound is
20000, within one MSS of the cached `14 * 1400 = 19600`, so a call from the
cached socket skips the division. -/
example : (tcpXmitSizeGoal halfWndEnv freshGsoSock 1400 true).1 = cachedGsoSock ∧
    cachedGsoSock.newSizeGoal halfWndEnv = 20000 := by decide

/-- Four sends: MSS 1400 against a 40000-byte window twice (the second
finds the count the first cached), then against a 10000-byte one, then an
out-of-band send with MSS 536. -/
def sampleMssCalls : List (SizeGoalEnv × Nat × Bool) :=
  [(halfWndEnv, 1400, false), (halfWndEnv, 1400, false), (⟨320, fun n => min n 5000⟩, 1400, false),
    (halfWndEnv, 536, true)]

end NipTcp
