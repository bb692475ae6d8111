/-
  NipTcp.Sock.Keepalive — the NewIP idle keepalive profile.

  `tcp_nip_keepalive_enable` switches a socket to the idle profile (the
  `g_nip_keepalive_*` values) and `tcp_nip_keepalive_disable` switches it
  back.  The user's own values are kept in the `*_bak` fields, a stack of
  depth one: a backup exists when `keepalive_time_bak ≠ 0`, and an enable
  made while the profile is active backs up again only when `keepalive_time
  > HZ`, the test that tells user values from profile ones.

  The keepalive timer is left out: no result here reads it.

  Main results:
    * `enables_phase` — every enable keeps the socket in one of two phases
      (profile not yet on, or on with the right backup);
    * `tcpNipKeepaliveDisable_restores` — under the conditions that test
      and that flag rely on, enables then a disable give back the user's
      `SOCK_KEEPOPEN` and, if it was set, their values;
    * `tcpNipKeepaliveDisable_clears_keepopen` — a user who set only
      `SO_KEEPALIVE` (time 0) loses it;
    * `tcpNipKeepaliveParaUpdate_partial` — an update that fails at the
      interval has already stored the time.
-/
import NipTcp.Basic

namespace NipTcp

/-! ## §1. The model. -/

/-- `MAX_NIP_TCP_KEEPIDLE`, `MAX_NIP_TCP_KEEPINTVL`, `MAX_NIP_TCP_KEEPCNT`. -/
def MAX_NIP_TCP_KEEPIDLE : Nat := 32767
def MAX_NIP_TCP_KEEPINTVL : Nat := 32767
def MAX_NIP_TCP_KEEPCNT : Nat := 255

/-- `NIP_PKT_TOTAL_LEN_BOUNDARY`, `NIP_KEEPALIVE_PROBES`. -/
def NIP_PKT_TOTAL_LEN_BOUNDARY : Nat := 100000
def NIP_KEEPALIVE_PROBES : Nat := 255

/-- The keepalive fields of a socket. -/
structure KaSock where
  /-- `sock_flag(sk, SOCK_KEEPOPEN)`. -/
  keepOpen : Bool
  keepaliveTime : Nat
  keepaliveProbes : Nat
  keepaliveIntvl : Nat
  keepaliveTimeBak : Nat
  keepaliveProbesBak : Nat
  keepaliveIntvlBak : Nat
  nipKeepaliveEnable : Bool
  idleKaProbesOut : Nat
  deriving Repr, DecidableEq

/-- `tcp_nip_keepalive_para_update(sk, time, intvl, probes)`: each value is
checked and stored in turn, so a failed check returns `-EINVAL` with the
values before it stored.  `sk_prot->keepalive` is `tcp_set_keepalive`, so a
full update sets `SOCK_KEEPOPEN`. -/
def tcpNipKeepaliveParaUpdate (sk : KaSock) (time intvl probes : Nat) : KaSock × Int :=
  if time < 1 ∨ time > MAX_NIP_TCP_KEEPIDLE then (sk, -EINVAL) else
  let sk := { sk with keepaliveTime := time }
  if intvl < 1 ∨ intvl > MAX_NIP_TCP_KEEPINTVL then (sk, -EINVAL) else
  let sk := { sk with keepaliveIntvl := intvl }
  if probes < 1 ∨ probes > MAX_NIP_TCP_KEEPCNT then (sk, -EINVAL) else
  let sk := { sk with keepaliveProbes := probes }
  ({ sk with keepOpen := true }, 0)

/-- Copy the keepalive values into the `*_bak` fields. -/
def KaSock.backup (sk : KaSock) : KaSock :=
  { sk with
    keepaliveTimeBak := sk.keepaliveTime
    keepaliveProbesBak := sk.keepaliveProbes
    keepaliveIntvlBak := sk.keepaliveIntvl }

/-- `tcp_nip_keepalive_enable(sk)`, with `sendHead` the `pkt_total_len` of
the send head skb, `none` when there is none. -/
def tcpNipKeepaliveEnable (p : NipParams) (sendHead : Option Nat) (sk : KaSock) : KaSock :=
  match sendHead with
  | none => sk
  | some pktLen =>
    let nipKeepaliveTime :=
      if pktLen < NIP_PKT_TOTAL_LEN_BOUNDARY then p.keepaliveTimeShortPkt else p.keepaliveTime
    if sk.nipKeepaliveEnable then
      if sk.keepaliveTime > p.hz then
        { sk.backup with
          keepaliveTime := nipKeepaliveTime
          keepaliveProbes := NIP_KEEPALIVE_PROBES
          keepaliveIntvl := p.keepaliveIntvl }
      else sk
    else
      let sk := if sk.keepOpen then sk.backup else sk
      let r := tcpNipKeepaliveParaUpdate sk nipKeepaliveTime p.keepaliveIntvl NIP_KEEPALIVE_PROBES
      if r.2 ≠ 0 then r.1 else { r.1 with nipKeepaliveEnable := true }

/-- `tcp_nip_keepalive_disable(sk)`: with a backup, restore it; without
one, clear the backup and `SOCK_KEEPOPEN`. -/
def tcpNipKeepaliveDisable (p : NipParams) (sk : KaSock) : KaSock :=
  if !sk.nipKeepaliveEnable then sk
  else if !sk.keepOpen then { sk with nipKeepaliveEnable := false }
  else if sk.idleKaProbesOut < p.idleKaProbesOut then sk
  else if sk.keepaliveTimeBak ≠ 0 then
    { sk with
      keepaliveTime := sk.keepaliveTimeBak
      keepaliveProbes := sk.keepaliveProbesBak
      keepaliveIntvl := sk.keepaliveIntvlBak }
  else
    { sk with
      keepaliveTimeBak := 0, keepaliveProbesBak := 0, keepaliveIntvlBak := 0
      keepOpen := false, nipKeepaliveEnable := false }

/-- A run of enables, one per send head seen. -/
def enables (p : NipParams) (hs : List (Option Nat)) (sk : KaSock) : KaSock :=
  hs.foldl (fun sk h => tcpNipKeepaliveEnable p h sk) sk

/-! ## §2. The two phases. -/

/-- The user's keepalive values. -/
def KaSock.values (sk : KaSock) : Nat × Nat × Nat :=
  (sk.keepaliveTime, sk.keepaliveProbes, sk.keepaliveIntvl)

/-- The backup. -/
def KaSock.bakValues (sk : KaSock) : Nat × Nat × Nat :=
  (sk.keepaliveTimeBak, sk.keepaliveProbesBak, sk.keepaliveIntvlBak)

/-- Where a run of enables from `sk0` can be: the profile not on yet and
the user's settings untouched, or the profile on, with its time at most
`HZ` and the user's values backed up exactly when `SOCK_KEEPOPEN` was set. -/
def KaPhase (p : NipParams) (sk0 sk : KaSock) : Prop :=
  (sk.nipKeepaliveEnable = false ∧ sk.keepOpen = sk0.keepOpen ∧ sk.values = sk0.values ∧
      (sk0.keepOpen = false → sk.keepaliveTimeBak = 0)) ∨
  (sk.nipKeepaliveEnable = true ∧ sk.keepOpen = true ∧ sk.keepaliveTime ≤ p.hz ∧
      (if sk0.keepOpen then sk.bakValues = sk0.values else sk.keepaliveTimeBak = 0))

section Phases

variable {p : NipParams} {sk0 : KaSock}

/-- The idle profile's times are at most `HZ` and its interval is valid. -/
def NipParams.ProfileOk (p : NipParams) : Prop :=
  p.keepaliveTime ≤ p.hz ∧ p.keepaliveTimeShortPkt ≤ p.hz ∧
    1 ≤ p.keepaliveIntvl ∧ p.keepaliveIntvl ≤ MAX_NIP_TCP_KEEPINTVL

instance (p : NipParams) : Decidable p.ProfileOk := inferInstanceAs (Decidable (_ ∧ _ ∧ _ ∧ _))

/-- With the profile's interval valid, the update either fails at the time
check and changes nothing, or sets all three values and `SOCK_KEEPOPEN`. -/
theorem tcpNipKeepaliveParaUpdate_cases (sk : KaSock) (time : Nat) (hp : p.ProfileOk) :
    let r := tcpNipKeepaliveParaUpdate sk time p.keepaliveIntvl NIP_KEEPALIVE_PROBES
    (r.2 ≠ 0 ∧ r.1 = sk) ∨
      (r.2 = 0 ∧ time ≤ MAX_NIP_TCP_KEEPIDLE ∧ r.1 = { sk with
        keepaliveTime := time
        keepaliveIntvl := p.keepaliveIntvl
        keepaliveProbes := NIP_KEEPALIVE_PROBES
        keepOpen := true }) := by
  obtain ⟨-, -, h1, h2⟩ := hp
  simp only [tcpNipKeepaliveParaUpdate]
  split_ifs with ht hi hn
  · exact .inl ⟨by simp [EINVAL], rfl⟩
  · omega
  · simp [NIP_KEEPALIVE_PROBES, MAX_NIP_TCP_KEEPCNT] at hn
  · exact .inr ⟨rfl, by omega, rfl⟩

theorem kaPhase_enable (hp : p.ProfileOk) {sk : KaSock} (h : KaPhase p sk0 sk) (sh : Option Nat) :
    KaPhase p sk0 (tcpNipKeepaliveEnable p sh sk) := by
  cases sh with
  | none => exact h
  | some len =>
    simp only [tcpNipKeepaliveEnable]
    rcases h with ⟨hen, hko, hv, hb⟩ | ⟨hen, hko, ht, hb⟩
    · simp only [hen, Bool.false_eq_true, if_false]
      set T := if len < NIP_PKT_TOTAL_LEN_BOUNDARY then p.keepaliveTimeShortPkt else p.keepaliveTime
      have hT : T ≤ p.hz := by obtain ⟨h1, h2, -⟩ := hp; simp only [T]; split_ifs <;> omega
      rcases tcpNipKeepaliveParaUpdate_cases (if sk.keepOpen then sk.backup else sk) T hp with
        ⟨hr, he⟩ | ⟨hr, -, he⟩
      · rw [if_pos hr, he]
        left
        split_ifs <;> exact ⟨hen, hko, hv, fun h0 => by simp_all [KaSock.backup]⟩
      · rw [if_neg (by simp [hr]), he]
        right
        refine ⟨rfl, rfl, hT, ?_⟩
        split_ifs with h1 h2 h2 <;> simp_all [KaSock.backup, KaSock.bakValues, KaSock.values]
    · simp only [hen, if_true]
      rw [if_neg (by omega)]
      exact .inr ⟨hen, hko, ht, hb⟩

theorem enables_phase (hp : p.ProfileOk) (hs : List (Option Nat)) {sk : KaSock}
    (h : KaPhase p sk0 sk) : KaPhase p sk0 (enables p hs sk) := by
  induction hs generalizing sk with
  | nil => exact h
  | cons sh hs ih => exact ih (kaPhase_enable hp h sh)

end Phases

/-! ## §3. Enable, then disable. -/

/-- Enables, then a disable once enough idle probes went out, give back the
user's `SOCK_KEEPOPEN` and, when it was set, their values.  This needs what
the backup flag and the `> HZ` test take for granted: a socket without
`SOCK_KEEPOPEN` starts with no backup, a user who set `SOCK_KEEPOPEN` has a
non-zero time, and the profile's times are at most `HZ`. -/
theorem tcpNipKeepaliveDisable_restores (p : NipParams) (hp : p.ProfileOk) (sk0 : KaSock)
    (hen : sk0.nipKeepaliveEnable = false) (hbak : sk0.keepOpen = false → sk0.keepaliveTimeBak = 0)
    (ht : sk0.keepOpen = true → sk0.keepaliveTime ≠ 0) (hs : List (Option Nat)) (probesOut : Nat)
    (hpo : p.idleKaProbesOut ≤ probesOut) :
    (tcpNipKeepaliveDisable p { enables p hs sk0 with idleKaProbesOut := probesOut }).keepOpen =
        sk0.keepOpen ∧
      (sk0.keepOpen = true →
        (tcpNipKeepaliveDisable p { enables p hs sk0 with idleKaProbesOut := probesOut }).values =
          sk0.values) := by
  have hph := enables_phase hp hs (Or.inl ⟨hen, rfl, rfl, hbak⟩ : KaPhase p sk0 sk0)
  generalize enables p hs sk0 = sk at hph ⊢
  rcases hph with ⟨hen', hko, hv, -⟩ | ⟨hen', hko, -, hb⟩
  · simp only [KaSock.values, Prod.mk.injEq] at hv
    simp [tcpNipKeepaliveDisable, hen', hko, hv, KaSock.values]
  · have hpo' : ¬probesOut < p.idleKaProbesOut := by omega
    cases hk : sk0.keepOpen
    · simp only [hk, Bool.false_eq_true, if_false] at hb
      simp [tcpNipKeepaliveDisable, hen', hko, hpo', hb]
    · simp only [hk, if_true, KaSock.bakValues, KaSock.values, Prod.mk.injEq] at hb
      obtain ⟨h1, h2, h3⟩ := hb
      simp [tcpNipKeepaliveDisable, hen', hko, hpo', ht hk, KaSock.values, h1, h2, h3]

/-- An idle profile of 25 jiffies under `HZ = 100`, left as soon as asked. -/
def idleProfile : NipParams := ⟨2, 25, 25, 25, 0, 100⟩

/-- A user with `SO_KEEPALIVE`, `TCP_KEEPIDLE` of 72 s, 9 probes 75 s
apart, and no backup. -/
def userKaSock : KaSock := ⟨true, 7200, 9, 7500, 0, 0, 0, false, 0⟩

theorem tcpNipKeepaliveDisable_restores_user :
    (tcpNipKeepaliveDisable idleProfile
        { enables idleProfile [some 10, none, some 200000] userKaSock with idleKaProbesOut := 3 }).keepOpen =
        userKaSock.keepOpen ∧
      (userKaSock.keepOpen = true →
        (tcpNipKeepaliveDisable idleProfile
          { enables idleProfile [some 10, none, some 200000] userKaSock with idleKaProbesOut := 3 }).values =
          userKaSock.values) :=
  tcpNipKeepaliveDisable_restores idleProfile (by decide) userKaSock rfl (by decide) (by decide)
    [some 10, none, some 200000] 3 (by decide)

/-- A user who set only `SO_KEEPALIVE` has `keepalive_time` 0; the enable backs
that up, and the disable, finding `keepalive_time_bak` 0, takes it for no
backup and clears `SOCK_KEEPOPEN`. -/
theorem tcpNipKeepaliveDisable_clears_keepopen :
    idleProfile.ProfileOk ∧
      (tcpNipKeepaliveDisable idleProfile
        { enables idleProfile [some 10] { userKaSock with keepaliveTime := 0 } with
          idleKaProbesOut := 0 }).keepOpen = false := by
  decide

/-! ## §4. A failed update. -/

/-- The update stores each value as soon as it passes its check, so a
valid time followed by an interval of 0 returns `-EINVAL` with the new time
stored.  An enable under a profile whose interval is 0 does the same to a
user's socket: it backs the user's values up, stores the profile's time, and
fails with `nip_keepalive_enable` still off. -/
theorem tcpNipKeepaliveParaUpdate_partial :
    tcpNipKeepaliveParaUpdate userKaSock 10 0 9 = ({ userKaSock with keepaliveTime := 10 }, -EINVAL) ∧
      tcpNipKeepaliveEnable { idleProfile with keepaliveIntvl := 0 } (some 10) userKaSock =
        { userKaSock.backup with keepaliveTime := 25 } := by
  decide

end NipTcp
