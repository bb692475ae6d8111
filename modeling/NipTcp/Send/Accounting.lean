/-
  NipTcp.Send.Accounting — what `tcp_nip_sendmsg` does to the write queue.

  The rest of the kernel runs while the call waits or pushes: ACK processing
  frees acknowledged skbs from the head of the write queue.  `SendEnv.OnlyAcks`
  says so, and that the waits return `0` or an error; under that contract the
  call keeps the accounting invariant `WInv` on every path and a call that
  returns `n ≥ 0` has appended exactly the first `n` bytes of the message.

  The send head is another matter: the copy-fault exit unlinks and frees the
  skb it just entailed, and when that skb became the send head the pointer is
  left naming a freed skb.

  Main results:
    * `sendStep_ok`, `sendRun_ok` — one move, and a whole run, keep
      `SendLoop.Ok`;
    * `tcpNipSendmsg_accounts` — the invariants and the bytes of a call;
    * `sendHeadOk_sendFill` — the fill keeps the send head on the queue
      except on the fault exit after the entailed skb became the send head;
    * `tcpNipSendmsg_fault_dangles` — a whole call that does so;
    * `tcpNipSendmsg_fault_moves_head` — a call that accepts no byte leaves
      the write queue, `write_seq` and `sk_wmem_queued` as they were, but
      not the send head.
-/
import NipTcp.Send.Sendmsg

namespace NipTcp

/-! ## §1. The contract and the invariant. -/

/-- The rest of the kernel only frees acknowledged skbs while the call
waits, flushes its backlog or pushes, and the waits fail with a negative
errno. -/
structure SendEnv.OnlyAcks (env : SendEnv) : Prop where
  waitConnect : ∀ sk : SendSock, sk.AckedFrom (env.waitConnect sk).1 ∧ (env.waitConnect sk).2 ≤ 0
  flushBacklog : ∀ (i : Nat) (sk sk' : SendSock), env.flushBacklog i sk = some sk' → sk.AckedFrom sk'
  waitMemory : ∀ (i : Nat) (sk : SendSock),
    sk.AckedFrom (env.waitMemory i sk).1 ∧ (env.waitMemory i sk).2 ≤ 0
  push : ∀ (i : Nat) (sk : SendSock), sk.AckedFrom (env.push i sk)

/-- The write queue of a call that started on `sk0` and consumed `pos` bytes
of `msg` into the skbs `app`: what is left of the old queue and `app` after
ACKs, with `write_seq` moved by `pos` and `WInv` kept. -/
structure Accounts (sk0 : SendSock) (msg : List UInt8) (sk : SendSock) (pos : Nat)
    (app : List WSkb) : Prop where
  inv : WInv sk
  pos_le : pos ≤ msg.length
  seq : sk.writeSeq = seqAdd sk0.writeSeq pos
  data : wdataOf app = msg.take pos
  suffix : ∃ k, sk.writeQueue = (sk0.writeQueue ++ app).drop k

/-- What each label promises: an error exit carries a negative errno, and a
non-negative return is the number of bytes consumed. -/
def PcOk (pc : SendPc) (err : Int) (pos : Nat) : Prop :=
  match pc with
  | .doError => err < 0
  | .ret v => 0 ≤ v → v = pos
  | _ => True

/-- The invariant of a call in progress. -/
structure SendLoop.Ok (sk0 : SendSock) (msg : List UInt8) (L : SendLoop) : Prop where
  acc : Accounts sk0 msg L.sk L.pos L.appended
  copied : L.copied = L.pos
  pc : PcOk L.pc L.err L.pos

theorem drop_append_singleton {α : Type} (X : List α) (k : Nat) (s : α) :
    X.drop k ++ [s] = (X ++ [s]).drop (min k X.length) := by
  rcases Nat.le_total k X.length with h | h
  · rw [Nat.min_eq_left h, List.drop_append_of_le_length h]
  · rw [Nat.min_eq_right h, List.drop_eq_nil_of_le h, List.drop_left]; rfl

theorem accounts_ackedFrom {sk0 sk sk' : SendSock} {msg : List UInt8} {pos : Nat}
    {app : List WSkb} (h : Accounts sk0 msg sk pos app) (ha : sk.AckedFrom sk') :
    Accounts sk0 msg sk' pos app := by
  have hinv := wInv_ackedFrom h.inv ha
  obtain ⟨j, hq, -, hw⟩ := ha
  obtain ⟨k, hk⟩ := h.suffix
  exact ⟨hinv, h.pos_le, hw ▸ h.seq, h.data, ⟨k + j, by rw [hq, hk, List.drop_drop]⟩⟩

/-- Linking one more skb `t` whose bytes are the next ones of the message. -/
theorem accounts_append {sk0 sk sk' : SendSock} {msg : List UInt8} {pos pos' : Nat}
    {app : List WSkb} {t : WSkb} (h : Accounts sk0 msg sk pos app) (hinv : WInv sk')
    (hq : sk'.writeQueue = sk.writeQueue ++ [t]) (hle : pos' ≤ msg.length)
    (hseq : sk'.writeSeq = seqAdd sk0.writeSeq pos') (hdata : msg.take pos ++ t.data = msg.take pos') :
    Accounts sk0 msg sk' pos' (app ++ [t]) := by
  obtain ⟨k, hk⟩ := h.suffix
  refine ⟨hinv, hle, hseq, by simp [h.data, hdata], min k (sk0.writeQueue ++ app).length, ?_⟩
  rw [hq, hk, drop_append_singleton, List.append_assoc]

/-! ## §2. The fill. -/

/-- The fault exit frees the empty skb it entailed: the queue, `write_seq`
and the charge are back to what they were. -/
theorem doFault_skbNipEntail (sk : SendSock) (truesize : Nat) :
    doFault (skbNipEntail sk truesize) (newSkb sk truesize) =
      { skbNipEntail sk truesize with writeQueue := sk.writeQueue, wmemQueued := sk.wmemQueued } := by
  have hd : (newSkb sk truesize).data = [] := rfl
  simp only [doFault, hd, if_true, skbNipEntail_writeQueue, skbNipEntail_wmemQueued,
    List.erase_append_right _ (newSkb_not_mem sk truesize)]
  simp [newSkb]

theorem ackedFrom_doFault (sk : SendSock) (truesize : Nat) :
    sk.AckedFrom (doFault (skbNipEntail sk truesize) (newSkb sk truesize)) := by
  rw [doFault_skbNipEntail]
  exact ackedFrom_of_eq rfl rfl rfl

/-- The copy into the entailed skb links an skb holding the next `copy`
bytes of the message and moves `write_seq` past them. -/
theorem accounts_addData {sk0 sk : SendSock} {msg : List UInt8} {pos : Nat} {app : List WSkb}
    (h : Accounts sk0 msg sk pos app) (truesize copy : Nat) (hc : copy ≤ msg.length - pos)
    (eor : Bool) :
    let r := addData (skbNipEntail sk truesize) (newSkb sk truesize)
      ((msg.drop pos).take copy) eor
    Accounts sk0 msg r.1 (pos + copy) (app ++ [r.2]) := by
  intro r
  have hlen : ((msg.drop pos).take copy).length = copy := by
    rw [List.length_take, List.length_drop]; omega
  have hws := h.inv.1
  have hpos := h.pos_le
  have hinv : WInv r.1 := wInv_append h.inv (t := r.2)
    ⟨hws, fun _ => by simp only [r, addData, newSkb, List.nil_append, hlen]⟩ rfl (seqAdd_lt _ _)
    (by simp only [r, addData, skbNipEntail_writeQueue, List.dropLast_concat]) rfl rfl
  refine accounts_append h hinv
    (by simp only [r, addData, skbNipEntail_writeQueue, List.dropLast_concat]) (by omega) ?_ ?_
  · simp only [r, addData, skbNipEntail_writeSeq, h.seq, seqAdd_assoc, hlen]
  · simp only [r, addData, newSkb, List.nil_append]
    exact (List.take_add ..).symm

theorem sendFill_ok {env : SendEnv} {msg : List UInt8} {flags : SendFlags} {L : SendLoop}
    {sk0 : SendSock} (h : Accounts sk0 msg L.sk L.pos L.appended) (hc : L.copied = L.pos)
    (truesize room : Nat) : (sendFill env msg flags L truesize room).Ok sk0 msg := by
  unfold sendFill
  by_cases hroom : 0 < room
  · rw [if_pos hroom]
    cases hf : env.fault L.iter
    · simp only [hf, Bool.false_eq_true, if_false]
      exact ⟨accounts_addData h truesize _ (by omega) _, congrArg (· + _) hc, by split <;> trivial⟩
    · simp only [hf, if_true]
      exact ⟨accounts_ackedFrom h (ackedFrom_doFault _ _), hc, show -EFAULT < (0 : Int) by decide⟩
  · rw [if_neg hroom]
    exact ⟨accounts_append h (wInv_skbNipEntail h.inv _) rfl h.pos_le (by simp [h.seq])
      (by simp [newSkb]), hc, trivial⟩

/-! ## §3. One move, and a run. -/

section Run

variable {env : SendEnv} {msg : List UInt8} {flags : SendFlags} {sk0 : SendSock}

/-- The pushes and waits of a move only free acknowledged skbs. -/
theorem ackedFrom_push (henv : env.OnlyAcks) (L : SendLoop) :
    L.sk.AckedFrom (if L.copied ≠ 0 then env.push L.iter L.sk else L.sk) := by
  split_ifs
  · exact henv.push _ _
  · exact ackedFrom_of_eq rfl rfl rfl

theorem ackedFrom_flush (henv : env.OnlyAcks) (L : SendLoop) {sk' : SendSock}
    (h : (if L.processBacklog then env.flushBacklog L.iter L.sk else none) = some sk') :
    L.sk.AckedFrom sk' := by
  split_ifs at h
  exact henv.flushBacklog _ _ _ h

theorem sendStep_ok (henv : env.OnlyAcks) {L : SendLoop} (h : L.Ok sk0 msg) :
    (sendStep env msg flags L).Ok sk0 msg := by
  obtain ⟨hacc, hc, hpc⟩ := h
  cases hL : L.pc with
  | restart =>
    simp only [sendStep, hL]
    exact ⟨hacc, hc, by simp only [PcOk]; split_ifs <;> simp [EPIPE]⟩
  | test =>
    simp only [sendStep, hL]
    exact ⟨hacc, hc, by simp only [PcOk]; split_ifs <;> trivial⟩
  | body =>
    simp only [sendStep, hL]
    generalize hfb : (if L.processBacklog then env.flushBacklog L.iter L.sk else none) = fb
    split_ifs
    · exact ⟨hacc, hc, trivial⟩
    · cases fb with
      | some sk' => exact ⟨accounts_ackedFrom hacc (ackedFrom_flush henv L hfb), hc, trivial⟩
      | none =>
        simp only
        split
        · exact ⟨hacc, hc, trivial⟩
        · exact sendFill_ok (by exact hacc) (by exact hc) _ _
  | waitSndbuf =>
    simp only [sendStep, hL]
    exact ⟨hacc, hc, trivial⟩
  | waitMemory =>
    obtain ⟨sk1, hsk1, hpush⟩ := (⟨_, rfl, ackedFrom_push henv L⟩ :
      ∃ sk1, (if L.copied ≠ 0 then env.push L.iter L.sk else L.sk) = sk1 ∧ L.sk.AckedFrom sk1)
    have hw := henv.waitMemory L.iter sk1
    have hacc' := accounts_ackedFrom hacc (hpush.trans hw.1)
    simp only [sendStep, hL, hsk1]
    split_ifs with he
    · exact ⟨hacc', hc, by simp only [PcOk]; omega⟩
    · exact ⟨hacc', hc, trivial⟩
  | out =>
    simp only [sendStep, hL]
    exact ⟨accounts_ackedFrom hacc (ackedFrom_push henv L), hc, fun _ => hc⟩
  | doError =>
    rw [hL] at hpc
    simp only [PcOk] at hpc
    simp only [sendStep, hL, skStreamError]
    split_ifs with he hs
    · exact ⟨hacc, hc, trivial⟩
    · exact ⟨accounts_ackedFrom hacc (ackedFrom_of_eq rfl rfl rfl), hc,
        fun hv => absurd hv (by simp only; omega)⟩
    · exact ⟨hacc, hc, fun hv => absurd hv (by omega)⟩
  | ret v =>
    simp only [sendStep, hL]
    exact ⟨hacc, hc, hL ▸ hpc⟩

theorem sendRun_ok (henv : env.OnlyAcks) :
    ∀ (fuel : Nat) {L L' : SendLoop}, L.Ok sk0 msg → sendRun env msg flags fuel L = some L' →
      L'.Ok sk0 msg
  | 0, _, _, _, hr => by simp [sendRun] at hr
  | fuel + 1, L, L', h, hr => by
    unfold sendRun at hr
    split at hr
    · cases hr; exact h
    · exact sendRun_ok henv fuel (sendStep_ok henv h) hr

/-- A run stops only at a return. -/
theorem sendRun_ret :
    ∀ (fuel : Nat) {L L' : SendLoop}, sendRun env msg flags fuel L = some L' → ∃ v, L'.pc = .ret v
  | 0, _, _, hr => by simp [sendRun] at hr
  | fuel + 1, L, L', hr => by
    unfold sendRun at hr
    split at hr
    · next v hv => cases hr; exact ⟨v, hv⟩
    · exact sendRun_ret fuel hr

end Run

/-! ## §4. The call. -/

/-- `tcp_nip_sendmsg` keeps the write-queue accounting on every exit, and
a call that returns `n ≥ 0` consumed `n` bytes: `write_seq` moved by `n`,
the skbs it filled hold the first `n` bytes of the message, and the queue
is what ACKs left of the old one followed by them. -/
theorem tcpNipSendmsg_accounts {env : SendEnv} (henv : env.OnlyAcks) {fuel : Nat} {sk : SendSock}
    (hinv : WInv sk) {msg : List UInt8} {flags : SendFlags} {L : SendLoop}
    (hr : tcpNipSendmsg env fuel sk msg flags = some L) :
    WInv L.sk ∧ ∃ n, L.pc = .ret n ∧ (0 ≤ n →
      n = L.pos ∧ L.pos ≤ msg.length ∧ L.sk.writeSeq = seqAdd sk.writeSeq L.pos ∧
      wdataOf L.appended = msg.take L.pos ∧
      ∃ k, L.sk.writeQueue = (sk.writeQueue ++ L.appended).drop k) := by
  have h0 : Accounts sk msg sk 0 [] :=
    ⟨hinv, Nat.zero_le _, by have := hinv.1; unfold seqAdd; omega, rfl, 0, by simp⟩
  simp only [tcpNipSendmsg] at hr
  have hok : L.Ok sk msg := sendRun_ok henv fuel ?_ hr
  · obtain ⟨v, hv⟩ := sendRun_ret fuel hr
    have hpc := hok.pc
    rw [hv] at hpc
    obtain ⟨k, hk⟩ := hok.acc.suffix
    exact ⟨hok.acc.inv, v, hv, fun hn =>
      ⟨hpc hn, hok.acc.pos_le, hok.acc.seq, hok.acc.data, k, hk⟩⟩
  · have hc := henv.waitConnect sk
    split_ifs with hs he
    · exact ⟨accounts_ackedFrom h0 hc.1, rfl, by simp only [PcOk]; omega⟩
    · exact ⟨accounts_ackedFrom h0 hc.1, rfl, trivial⟩
    · exact ⟨h0, rfl, trivial⟩

/-- An established socket with nothing queued and nothing to send. -/
def idleSendSock : SendSock := ⟨.established, false, [], none, 0, 0, 0, false, 0⟩

/-- A kernel with memory to spare, an MSS of 4, skbs of `truesize` 100 with
the `ALIGN(mss_now, 4)` = 4 bytes of room `sk_stream_alloc_skb` leaves,
nothing to wait for, and a user buffer whose copy faults when `fault`
holds. -/
def quietSendEnv (fault : Bool) : SendEnv :=
  ⟨fun sk => (sk, 0), fun _ _ => 4, fun _ _ => true, fun _ _ => none,
    fun _ _ => some (100, 4), fun _ => fault, fun _ sk => (sk, 0), fun _ sk => sk⟩

/-- Ten bytes sent with an MSS of 4 go out as three skbs of 4, 4 and 2. -/
theorem tcpNipSendmsg_accounts_idle :
    ∃ L, tcpNipSendmsg (quietSendEnv false) 20 idleSendSock (List.replicate 10 7) ⟨false⟩ = some L ∧
      WInv L.sk ∧ ∃ n, L.pc = .ret n ∧ (0 ≤ n →
        n = L.pos ∧ L.pos ≤ 10 ∧ L.sk.writeSeq = seqAdd idleSendSock.writeSeq L.pos ∧
        wdataOf L.appended = (List.replicate 10 7).take L.pos ∧
        ∃ k, L.sk.writeQueue = (idleSendSock.writeQueue ++ L.appended).drop k) :=
  ⟨_, rfl, @tcpNipSendmsg_accounts (quietSendEnv false)
    ⟨fun _ => ⟨ackedFrom_of_eq rfl rfl rfl, Int.le_refl 0⟩, fun _ _ _ h => Option.noConfusion h,
      fun _ _ => ⟨ackedFrom_of_eq rfl rfl rfl, Int.le_refl 0⟩, fun _ _ => ackedFrom_of_eq rfl rfl rfl⟩
    20 idleSendSock (by decide) (List.replicate 10 7) ⟨false⟩ _ rfl⟩

example : (tcpNipSendmsg (quietSendEnv false) 20 idleSendSock (List.replicate 10 7) ⟨false⟩).map
    (fun L => (L.pc, L.sk.writeQueue.map WSkb.endSeq, L.sk.wmemQueued)) =
      some (.ret 10, [4, 8, 10], 300) := by decide

/-! ## §5. The send head. -/

/-- The three ways a fill ends, as far as the socket goes. -/
theorem sendFill_sk (env : SendEnv) (msg : List UInt8) (flags : SendFlags) (L : SendLoop)
    (truesize room : Nat) :
    (0 < room ∧ env.fault L.iter = true ∧ (sendFill env msg flags L truesize room).sk =
        doFault (skbNipEntail L.sk truesize) (newSkb L.sk truesize)) ∨
    (0 < room ∧ env.fault L.iter = false ∧ ∃ bytes eor, (sendFill env msg flags L truesize room).sk =
        (addData (skbNipEntail L.sk truesize) (newSkb L.sk truesize) bytes eor).1) ∨
    (room = 0 ∧ (sendFill env msg flags L truesize room).sk = skbNipEntail L.sk truesize) := by
  unfold sendFill
  by_cases hroom : 0 < room
  · rw [if_pos hroom]
    cases hf : env.fault L.iter
    · exact .inr (.inl ⟨hroom, rfl, _, _, by simp only [hf, Bool.false_eq_true, if_false]; rfl⟩)
    · exact .inl ⟨hroom, rfl, by simp only [hf, if_true]⟩
  · rw [if_neg hroom]
    exact .inr (.inr ⟨by omega, rfl⟩)


@[simp] theorem skbNipEntail_sendHead (sk : SendSock) (truesize : Nat) :
    (skbNipEntail sk truesize).sendHead =
      if sk.sendHead = none then some (freshId sk.writeQueue) else sk.sendHead := rfl

/-- A fill keeps the send head on the queue except on one path: nothing was
left to send, so the entailed skb became the send head, and the copy into it
faulted, so `do_fault` unlinked and freed it. -/
theorem sendHeadOk_sendFill {env : SendEnv} {msg : List UInt8} {flags : SendFlags} {L : SendLoop}
    (h : SendHeadOk L.sk) (truesize room : Nat) :
    SendHeadOk (sendFill env msg flags L truesize room).sk ↔
      ¬(L.sk.sendHead = none ∧ 0 < room ∧ env.fault L.iter = true) := by
  rcases sendFill_sk env msg flags L truesize room with
    ⟨hroom, hf, hsk⟩ | ⟨hroom, hf, bytes, eor, hsk⟩ | ⟨hroom, hsk⟩ <;> rw [hsk]
  · rw [doFault_skbNipEntail]
    cases hs : L.sk.sendHead with
    | none =>
      simp only [SendHeadOk, skbNipEntail_sendHead, hs, if_true, Option.mem_def,
        Option.some.injEq, forall_eq', hroom, hf, and_self, not_true, iff_false, not_exists, not_and]
      exact fun s hs' => (id_lt_freshId hs').ne
    | some i =>
      simp only [reduceCtorEq, false_and, not_false_eq_true, iff_true]
      simpa [SendHeadOk, hs] using h
  · simp only [hf, Bool.false_eq_true, and_false, not_false_eq_true, iff_true]
    exact sendHeadOk_of_tail h
      (t := (addData (skbNipEntail L.sk truesize) (newSkb L.sk truesize) bytes eor).2)
      (by simp [addData]) (by simp [addData, newSkb])
  · simp only [hroom, lt_irrefl, false_and, and_false, not_false_eq_true, iff_true]
    exact sendHeadOk_skbNipEntail h truesize

/-- The first fill of an idle socket, with four bytes of room and a faulting
copy. -/
theorem sendHeadOk_sendFill_faulting :
    SendHeadOk idleSendSock ∧
      (SendHeadOk (sendFill (quietSendEnv true) [1] ⟨false⟩
          ⟨idleSendSock, .body, 0, 0, 4, false, 0, 0, []⟩ 100 4).sk ↔
        ¬(idleSendSock.sendHead = none ∧ 0 < 4 ∧ (quietSendEnv true).fault 0 = true)) :=
  ⟨by decide, sendHeadOk_sendFill (by decide) 100 4⟩

/-- A one-byte send whose copy faults, on a socket whose send head is
`NULL`, returns `-EFAULT` with the write queue empty and the send head naming
the skb `do_fault` freed. -/
theorem tcpNipSendmsg_fault_dangles :
    SendHeadOk idleSendSock ∧
      ∃ L, tcpNipSendmsg (quietSendEnv true) 10 idleSendSock [1] ⟨false⟩ = some L ∧
        L.pc = .ret (-EFAULT) ∧ L.sk.writeQueue = [] ∧ L.sk.sendHead = some 1 ∧
        ¬SendHeadOk L.sk :=
  ⟨by decide, _, rfl, rfl, rfl, rfl, by decide⟩

/-! ## §6. A send that accepts nothing. -/

/-- An established socket whose four queued bytes have all been sent and
wait for their ACK: skb 1 on the write queue, charged 100, and no send
head. -/
def sentSendSock : SendSock :=
  ⟨.established, false, [⟨1, 0, 4, [7, 7, 7, 7], 100, false, false⟩], none, 4, 100, 0, false, 0⟩

/-- A one-byte send whose copy faults accepts nothing and returns
`-EFAULT`: `do_fault` unlinks and uncharges the skb it entailed, so the
write queue, `write_seq` and `sk_wmem_queued` are as they were, but the
send head, `NULL` before the call, now names that freed skb. -/
theorem tcpNipSendmsg_fault_moves_head :
    ∃ L, tcpNipSendmsg (quietSendEnv true) 10 sentSendSock [1] ⟨false⟩ = some L ∧
      L.pc = .ret (-EFAULT) ∧ L.sk.writeQueue = sentSendSock.writeQueue ∧
      L.sk.writeSeq = sentSendSock.writeSeq ∧ L.sk.wmemQueued = sentSendSock.wmemQueued ∧
      sentSendSock.sendHead = none ∧ L.sk.sendHead = some 2 :=
  ⟨_, rfl, rfl, rfl, rfl, rfl, rfl, rfl⟩

end NipTcp
