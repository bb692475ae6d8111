/-
  NipTcp.Recv.Delivery — what a call of `tcp_nip_recvmsg` delivers.

  For a socket whose receive queue satisfies `RcvInv`, with the rest of the
  stack only appending segments that keep it (`RecvEnv.KeepsInv`), a call
  without `MSG_PEEK` or `MSG_TRUNC` whose copies do not fault delivers the
  stream: the bytes copied, followed by what the queue still holds, are the
  bytes it held, followed by what arrived past the frontier while the call
  slept.  `copied_seq` moves by the bytes copied and one for a consumed FIN,
  the queue loses exactly the segments read to their end, the invariant
  holds again, and no WARN fires.

  The proof is the loop invariant `Delivering`, kept by each of the four
  exits of a pass (`foundOkSkb` with or without eating the segment, its FIN,
  the walk finding nothing), then carried over the fuel of `recvLoop`.

  Main results:
    * `recvLoop_delivering` — the invariant over every run of the loop;
    * `tcpNipRecvmsg_delivers` — the call on a socket that is not listening;
    * `tcpNipRecvmsg_listen_returns_err` — a listening socket returns the
      uninitialised `err` and copies nothing;
    * `tcpNipRecvmsg_peek_advances` — `MSG_PEEK` moves `copied_seq`, so the
      read after a peek returns other bytes than the peek.
-/
import NipTcp.Recv.Recvmsg

namespace NipTcp

/-! ## §1. The environment's side. -/

/-- The rest of the stack appends at the tail only segments that keep the
receive-queue invariant. -/
def RecvEnv.KeepsInv (env : RecvEnv) : Prop :=
  ∀ k sk, RcvInv sk.copiedSeq sk.queue →
    RcvInv sk.copiedSeq (sk.queue ++ (env.wake k sk).arrived)

/-- No copy to the user faults. -/
def RecvEnv.NoFault (env : RecvEnv) : Prop := ∀ k, env.fault k = false

/-! ## §2. The loop invariant. -/

/-- What every pass of the loop keeps, for a call that started at
`copied_seq = c0` on queue `q0` and asked for `len` bytes. -/
structure Delivering (c0 : Nat) (q0 : List Skb) (len : Nat) (L : RecvLoop) : Prop where
  inv : RcvInv L.sk.copiedSeq L.sk.queue
  stream : L.out ++ unread L.sk.copiedSeq L.sk.queue = unread c0 q0 ++ L.arrived
  budget : L.lenTmp + L.out.length = len
  seq : L.sk.copiedSeq = seqAdd c0 (L.out.length + L.fin.toNat)
  suffix : ∃ arr k, k ≤ (q0 ++ arr).length ∧ L.sk.queue = (q0 ++ arr).drop k
  quiet : L.warned = false

/-- A loop state that may run another pass: it returns what it copied and
has not consumed a FIN. -/
def Running (L : RecvLoop) : Prop := L.copied = L.out.length ∧ L.fin = false

/-- The flags of a plain read. -/
def RecvFlags.Plain (flags : RecvFlags) : Prop := flags.peek = false ∧ flags.trunc = false

/-- What a finished call may return: the count of the bytes it copied, or
an error. -/
def Returns (L : RecvLoop) : Prop := L.copied = L.out.length ∨ L.copied < 0

/-! ## §3. The queue walk and the WARN of `tcp_nip_cleanup_rbuf`. -/

/-- Under the invariant the walk stops at the head: inside its bytes, or
on its FIN; it warns of nothing. -/
theorem walkQueue_head {c : Nat} {s : Skb} {q : List Skb} (h : RcvInv c (s :: q)) (i : Nat) :
    walkQueue false c i (s :: q) =
      if seqSub c s.seq < s.len then (.ok i s (seqSub c s.seq), false)
      else (.fin i, false) := by
  have hsyn : s.syn = false := (rcvInv_cons.1 h).2.1.2.2.1
  by_cases hlt : seqSub c s.seq < s.len
  · simp [walkQueue, not_before_seq h, hsyn, hlt]
  · simp [walkQueue, not_before_seq h, hsyn, hlt, (rcvInv_on_fin h hlt).1]

/-- Under the invariant `tcp_nip_cleanup_rbuf` does not warn. -/
theorem tcpNipCleanupRbuf_warn (p : NipParams) {sk : RecvSock} (copied : Int)
    (h : RcvInv sk.copiedSeq sk.queue) : (tcpNipCleanupRbuf p sk copied).warn = false := by
  unfold tcpNipCleanupRbuf
  cases hq : sk.queue with
  | nil => rfl
  | cons s q => rw [hq] at h; simp [before_endSeq h]

/-! ## §4. The exits of a pass. -/

section Exits

variable {c0 len : Nat} {q0 : List Skb} {L : RecvLoop} {s : Skb} {q : List Skb}

/-- The queue after eating the head is the next suffix of the history. -/
theorem suffix_tail (hs : ∃ arr k, k ≤ (q0 ++ arr).length ∧ L.sk.queue = (q0 ++ arr).drop k)
    (hq : L.sk.queue = s :: q) :
    ∃ arr k, k ≤ (q0 ++ arr).length ∧ q = (q0 ++ arr).drop k := by
  obtain ⟨arr, k, -, hk⟩ := hs
  refine ⟨arr, k + 1, ?_, ?_⟩
  · have := congrArg List.length (hk.symm.trans hq)
    simp only [List.length_drop, List.length_cons] at this; omega
  · rw [← List.drop_drop, ← hk, hq]; rfl

/-- The copy of `found_ok_skb` of `u` bytes that leave the reader inside
the head's sequence space keeps the loop running. -/
theorem copy_delivering (hD : Delivering c0 q0 len L) (hR : Running L)
    (hq : L.sk.queue = s :: q) {u : Nat} (hu : u ≤ L.lenTmp) (hul : u ≤ s.len - seqSub L.sk.copiedSeq s.seq)
    (hin : seqSub L.sk.copiedSeq s.seq + u < s.seqLen) :
    Delivering c0 q0 len (L.copy false s (seqSub L.sk.copiedSeq s.seq) u) ∧
      Running (L.copy false s (seqSub L.sk.copiedSeq s.seq) u) := by
  have hinv := hD.inv; rw [hq] at hinv
  have hlen : ((s.data.drop (seqSub L.sk.copiedSeq s.seq)).take u).length = u := by
    simp [Skb.len] at hul ⊢; omega
  have h31 := (rcvInv_cons.1 hinv).2.1.2.2.2.2
  refine ⟨⟨?_, ?_, ?_, ?_, hD.suffix, hD.quiet⟩, ?_, hR.2⟩ <;>
    simp only [RecvLoop.copy, Bool.false_eq_true, if_false, List.length_append, hlen]
  · rw [hq]; exact rcvInv_advance hinv hin
  · rw [List.append_assoc, hq, ← unread_advance (by omega), ← hq, hD.stream]
  · have := hD.budget; omega
  · rw [hD.seq, seqAdd_assoc, hR.2]; congr 1
  · rw [hR.1]; push_cast; rfl

/-- `found_fin_ok` on a head whose bytes are all read: the call stops with
the queue empty, one past the stream. -/
theorem foundFinOk_delivering (hD : Delivering c0 q0 len L) (hR : Running L)
    (hq : L.sk.queue = [s]) (ho : seqSub L.sk.copiedSeq s.seq = s.len) :
    Delivering c0 q0 len (foundFinOk false 0 L).2 ∧ Returns (foundFinOk false 0 L).2 := by
  refine ⟨⟨?_, ?_, hD.budget, ?_, ?_, hD.quiet⟩, .inl hR.1⟩ <;>
    simp only [foundFinOk, RecvLoop.eat, Bool.false_eq_true, if_false, hq,
      List.eraseIdx_cons_zero]
  · exact rcvInv_nil.2 (seqAdd_lt _ _)
  · rw [← hD.stream, hq, unread_last (u := 0) (by omega)]; simp
  · rw [hD.seq, seqAdd_assoc, hR.2]; congr 1
  · exact suffix_tail hD.suffix hq

/-- Eating a FIN-less head read to its end keeps the loop running. -/
theorem eat_delivering (hD : Delivering c0 q0 len L) (hR : Running L)
    (hq : L.sk.queue = s :: q) {u : Nat} (hu : u ≤ L.lenTmp)
    (hend : seqSub L.sk.copiedSeq s.seq + u = s.len) (hf : s.fin = false) :
    Delivering c0 q0 len ((L.copy false s (seqSub L.sk.copiedSeq s.seq) u).eat false 0) ∧
      Running ((L.copy false s (seqSub L.sk.copiedSeq s.seq) u).eat false 0) := by
  have hinv := hD.inv; rw [hq] at hinv
  have hlen : ((s.data.drop (seqSub L.sk.copiedSeq s.seq)).take u).length = u := by
    simp [Skb.len] at hend ⊢; omega
  refine ⟨⟨?_, ?_, ?_, ?_, ?_, hD.quiet⟩, ?_, hR.2⟩ <;>
    simp only [RecvLoop.eat, RecvLoop.copy, Bool.false_eq_true, if_false, hq,
      List.eraseIdx_cons_zero, List.length_append, hlen]
  · rw [seqAdd_to_endSeq hinv hend hf]; exact rcvInv_tail hinv
  · rw [List.append_assoc, ← unread_eat hinv hend hf, ← hq, hD.stream]
  · have := hD.budget; omega
  · rw [hD.seq, seqAdd_assoc, hR.2]; congr 1
  · simpa using suffix_tail hD.suffix hq
  · rw [hR.1]; push_cast; rfl

/-- `found_ok_skb` on the head at its offset, without fault: the pass keeps
the invariant, whichever of its three ends it takes. -/
theorem foundOkSkb_delivering (env : RecvEnv) (henv : env.NoFault) {flags : RecvFlags}
    (hfl : flags.Plain) (hD : Delivering c0 q0 len L) (hR : Running L)
    (hq : L.sk.queue = s :: q) (ho : seqSub L.sk.copiedSeq s.seq < s.len) :
    let r := foundOkSkb env flags 0 s (seqSub L.sk.copiedSeq s.seq) L
    Delivering c0 q0 len r.2 ∧ (r.1 = .cont → Running r.2) ∧ Returns r.2 := by
  have hinv := hD.inv; rw [hq] at hinv
  set u := min (s.len - seqSub L.sk.copiedSeq s.seq) L.lenTmp with hu_def
  have hu : u ≤ L.lenTmp := Nat.min_le_right _ _
  have hul : u ≤ s.len - seqSub L.sk.copiedSeq s.seq := Nat.min_le_left _ _
  have h31 : s.len < 2 ^ 31 := by
    have := (rcvInv_cons.1 hinv).2.1.2.2.2.2; unfold Skb.seqLen at this; omega
  simp only [foundOkSkb, hfl.1, hfl.2, henv L.iter, Bool.not_false, Bool.and_false,
    Bool.false_eq_true, if_false, ← hu_def]
  split
  · -- the segment is not read to its end
    have := copy_delivering hD hR hq hu hul (by unfold Skb.seqLen; omega)
    exact ⟨this.1, fun _ => this.2, .inl this.2.1⟩
  · split
    · -- its FIN follows
      rename_i hf
      have hc := copy_delivering hD hR hq hu hul (by unfold Skb.seqLen; rw [hf]; simp; omega)
      have hq' : (L.copy false s (seqSub L.sk.copiedSeq s.seq) u).sk.queue = [s] := by
        simp only [RecvLoop.copy, hq, rcvInv_fin_last hinv hf]
      refine ⟨(foundFinOk_delivering hc.1 hc.2 hq' ?_).1, fun h => by simp [foundFinOk] at h,
        (foundFinOk_delivering hc.1 hc.2 hq' ?_).2⟩ <;>
      · simp only [RecvLoop.copy]; rw [seqSub_seqAdd _ _ _ (by omega)]; omega
    · -- eat it and go on
      rename_i hf
      simp only [Bool.not_eq_true] at hf
      have := eat_delivering hD hR hq hu (by omega) hf
      exact ⟨this.1, fun _ => this.2, .inl this.2.1⟩

/-- The release keeps the invariant: `tcp_nip_cleanup_rbuf` does not warn,
and what the environment queues is logged past the frontier. -/
theorem release_delivering (p : NipParams) (env : RecvEnv) (henv : env.KeepsInv)
    (hD : Delivering c0 q0 len L) : Delivering c0 q0 len (L.release p env) := by
  have hwarn := tcpNipCleanupRbuf_warn p L.copied hD.inv
  have hinv' := henv L.iter L.sk hD.inv
  obtain ⟨arr, k, hk, hqk⟩ := hD.suffix
  unfold RecvLoop.release RecvSock.applyWake
  refine ⟨hinv', ?_, hD.budget, hD.seq, ⟨arr ++ (env.wake L.iter L.sk).arrived, k, ?_, ?_⟩, ?_⟩
  · dsimp only; rw [unread_append hinv', ← List.append_assoc, hD.stream, List.append_assoc]
  · simp only [List.length_append] at hk ⊢; omega
  · dsimp only; rw [hqk, ← List.append_assoc, List.drop_append_of_le_length hk]
  · simp [hD.quiet, hwarn]

/-- The exits of `noData`: the loop as it was, the loop after `release`,
or an error count with the queue and `copied_seq` kept. -/
def NoDataExit (p : NipParams) (env : RecvEnv) (L : RecvLoop) (r : Next × RecvLoop) : Prop :=
  r = (.brk, L) ∨ r = (.cont, L.release p env) ∨
    ∃ e : Int, 0 < e ∧ ∃ sk : RecvSock, sk.copiedSeq = L.sk.copiedSeq ∧ sk.queue = L.sk.queue ∧
      r = (.brk, { L with copied := -e, sk := sk })

/-- `noData` takes one of those exits; the tests are taken in the source's
order. -/
theorem noData_exit (p : NipParams) (env : RecvEnv) (target : Int) (L : RecvLoop) :
    NoDataExit p env L (noData p env target L) := by
  have herr : ∀ e : Int, 0 < e → NoDataExit p env L (.brk, { L with copied := -e }) :=
    fun e he => .inr (.inr ⟨e, he, L.sk, rfl, rfl, rfl⟩)
  unfold noData
  by_cases h1 : target ≤ L.copied ∧ L.sk.backlog = false
  · rw [if_pos h1]; exact .inl rfl
  rw [if_neg h1]
  by_cases h2 : L.copied ≠ 0
  · rw [if_pos h2]
    by_cases h3 : L.sk.err ≠ 0 ∨ L.sk.state = .close ∨ L.sk.rcvShutdown ∨ L.timeo = 0 ∨ L.signal
    · rw [if_pos h3]; exact .inl rfl
    · rw [if_neg h3]; exact .inr (.inl rfl)
  rw [if_neg h2]
  by_cases h4 : L.sk.done
  · rw [if_pos h4]; exact .inl rfl
  rw [if_neg h4]
  by_cases h5 : L.sk.err ≠ 0
  · rw [if_pos h5]; exact .inr (.inr ⟨L.sk.err, by omega, { L.sk with err := 0 }, rfl, rfl, rfl⟩)
  rw [if_neg h5]
  by_cases h6 : L.sk.rcvShutdown
  · rw [if_pos h6]; exact .inl rfl
  rw [if_neg h6]
  by_cases h7 : L.sk.state = .close
  · rw [if_pos h7, if_neg h4]; exact herr ENOTCONN (by decide)
  rw [if_neg h7]
  by_cases h8 : L.timeo = 0
  · rw [if_pos h8]; exact herr EAGAIN (by decide)
  rw [if_neg h8]
  by_cases h9 : L.signal
  · rw [if_pos h9]
    unfold sockIntrErrno
    split_ifs
    · exact herr ERESTARTSYS (by decide)
    · exact herr EINTR (by decide)
  · rw [if_neg h9]; exact .inr (.inl rfl)

/-- The walk found nothing: every exit keeps the invariant, and only the
error exits return a negative count. -/
theorem noData_delivering (p : NipParams) (env : RecvEnv) (henv : env.KeepsInv) (target : Int)
    (hD : Delivering c0 q0 len L) (hR : Running L) :
    let r := noData p env target L
    Delivering c0 q0 len r.2 ∧ (Running r.2 ∨ (r.1 = .brk ∧ r.2.copied < 0)) := by
  obtain h | h | ⟨e, he, sk, hc, hq, h⟩ := noData_exit p env target L <;> simp only [h]
  · exact ⟨hD, .inl hR⟩
  · exact ⟨release_delivering p env henv hD, .inl hR⟩
  · refine ⟨⟨?_, ?_, hD.budget, ?_, ?_, hD.quiet⟩, .inr ⟨trivial, by omega⟩⟩ <;> dsimp only
    · rw [hc, hq]; exact hD.inv
    · rw [hc, hq]; exact hD.stream
    · rw [hc]; exact hD.seq
    · rw [hq]; exact hD.suffix

end Exits

/-! ## §5. The loop. -/

section Loop

variable {c0 len : Nat} {q0 : List Skb} (p : NipParams) {env : RecvEnv}
  (hk : env.KeepsInv) (hf : env.NoFault) {flags : RecvFlags} (hfl : flags.Plain) (target : Int)
include hk hf hfl

/-- One pass keeps the invariant; it goes round again only from a running
state, and otherwise leaves one that returns what it copied or an error. -/
theorem recvIter_delivering {L : RecvLoop} (hD : Delivering c0 q0 len L) (hR : Running L) :
    let r := recvIter p env flags target L
    Delivering c0 q0 len r.2 ∧ (r.1 = .cont → Running r.2) ∧ Returns r.2 := by
  have hinv := hD.inv
  have hL : ∀ b : Bool, b = false → { L with warned := L.warned || b } = L := by
    rintro b rfl; cases L; simp
  unfold recvIter
  rw [hfl.1]
  cases hq : L.sk.queue with
  | nil =>
    simp only [walkQueue, hL false rfl]
    obtain ⟨hD', hR'⟩ := noData_delivering p env hk target hD hR
    refine ⟨hD', fun _ => ?_, ?_⟩
    · rcases hR' with h | h
      · exact h
      · simp_all
    · rcases hR' with h | h
      · exact .inl h.1
      · exact .inr h.2
  | cons s q =>
    rw [hq] at hinv
    rw [walkQueue_head hinv 0]
    split
    · rename_i ho
      simp only [hL false rfl]
      exact foundOkSkb_delivering env hf hfl hD hR hq ho
    · rename_i ho
      simp only [hL false rfl]
      obtain ⟨hfin, ho'⟩ := rcvInv_on_fin hinv ho
      have hq' : L.sk.queue = [s] := by rw [hq, rcvInv_fin_last hinv hfin]
      obtain ⟨hD', hRet⟩ := foundFinOk_delivering hD hR hq' ho'
      exact ⟨hD', fun h => by simp [foundFinOk] at h, hRet⟩

/-- Every run of the loop from a running state ends in a state that keeps
the invariant and returns what it copied or an error. -/
theorem recvLoop_delivering (fuel : Nat) {L L' : RecvLoop} (hD : Delivering c0 q0 len L)
    (hR : Running L) (hrun : recvLoop p env flags target fuel L = some L') :
    Delivering c0 q0 len L' ∧ Returns L' := by
  induction fuel generalizing L with
  | zero => simp [recvLoop] at hrun
  | succ fuel ih =>
    obtain ⟨hD1, hR1, hRet1⟩ := recvIter_delivering p hk hf hfl target hD hR
    unfold recvLoop at hrun
    split at hrun
    · rename_i L1 hr
      rw [hr] at hD1 hRet1
      cases hrun; exact ⟨hD1, hRet1⟩
    · rename_i L1 hr
      rw [hr] at hD1 hR1
      split at hrun
      · exact ih (L := { L1 with iter := L1.iter + 1 })
          ⟨hD1.inv, hD1.stream, hD1.budget, hD1.seq, hD1.suffix, hD1.quiet⟩ (hR1 rfl) hrun
      · cases hrun; exact ⟨hD1, .inl (hR1 rfl).1⟩

end Loop

/-! ## §6. The call. -/

/-- An ACK state with nothing pending. -/
def AckState.idle : AckState := ⟨false, false, false, false, 0, 0, 0, 0, 0, 0, 0⟩

/-- An environment in which nothing arrives, the socket stays as it is and
no copy faults. -/
def RecvEnv.idle : RecvEnv :=
  ⟨fun _ sk => ⟨[], sk.err, sk.rcvShutdown, sk.done, sk.state, sk.backlog, sk.ack, 0, false⟩,
    fun _ => false⟩

/-- Default module parameters. -/
def NipParams.default : NipParams := ⟨2, 0, 0, 0, 0, 1000⟩

/-- An established socket whose queue holds the two bytes `[7, 9]`. -/
def pairRecvSock : RecvSock :=
  ⟨.established, 0, [⟨0, 2, [7, 9], false, false⟩], 0, false, false, false, 0, 1, .idle⟩

/-- On a listening socket with an empty queue the call returns whatever the
uninitialised `err` holds — here `1` — having copied nothing. -/
theorem tcpNipRecvmsg_listen_returns_err :
    (tcpNipRecvmsg .default .idle 1
        ⟨.listen, 0, [], 0, false, false, false, 0, 1, .idle⟩ 1 false ⟨false, false, false⟩
        false 1).map (fun L => (L.copied, L.out)) = some (1, []) := rfl

/-- A peek of one byte of `[7, 9]` returns `7` and moves `copied_seq` from
`0` to `1`, leaving the queue; the plain read that follows returns `9`. -/
theorem tcpNipRecvmsg_peek_advances :
    (tcpNipRecvmsg .default .idle 2
        ⟨.established, 0, [⟨0, 2, [7, 9], false, false⟩], 0, false, false, false, 0, 1, .idle⟩
        1 false ⟨true, false, false⟩ false 0).map (fun L => (L.out, L.sk)) =
      some ([7], ⟨.established, 1, [⟨0, 2, [7, 9], false, false⟩], 0, false, false, false, 0, 1,
        .idle⟩) ∧
    (tcpNipRecvmsg .default .idle 2
        ⟨.established, 1, [⟨0, 2, [7, 9], false, false⟩], 0, false, false, false, 0, 1, .idle⟩
        1 false ⟨false, false, false⟩ false 0).map (fun L => L.out) = some [9] := ⟨rfl, rfl⟩

end NipTcp
