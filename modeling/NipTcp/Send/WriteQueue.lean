/-
  NipTcp.Send.WriteQueue — `sk_write_queue`, `sk_send_head` and the helpers
  of `tcp_nip.h` that change them.

  An `sk_buff` is named by its address; the model gives each one an `id`
  and keeps `sk_send_head` as the `id` it points at (`none` for `NULL`).
  Two invariants are stated here, with what `tcp_nip_add_write_queue_tail`
  and `skb_nip_entail` do to them:

    * `SendHeadOk` — `sk_send_head` is `NULL` or names an skb on the queue;
    * `WInv` — the queue's skbs are contiguous in sequence space and end at
      `tp->write_seq`, a data skb spans exactly its bytes, and
      `sk_wmem_queued` is the sum of the skbs' `truesize`.

  `tcp_nip_sendmsg` (in `NipTcp.Send.Sendmsg`) is built from these helpers;
  whether it keeps the two invariants is decided there.
-/
import NipTcp.Basic

namespace NipTcp

/-! ## §1. The write queue. -/

/-- An `sk_buff` of the write queue: its address, `TCP_SKB_CB(skb)->seq`
and `->end_seq`, payload, `truesize`, whether it carries a SYN or FIN (one
sequence number past its bytes), and the `eor` mark. -/
structure WSkb where
  id : Nat
  seq : Nat
  endSeq : Nat
  data : List UInt8
  truesize : Nat
  ctl : Bool
  eor : Bool
  deriving Repr, DecidableEq

/-- The fields of the socket the send path reads or writes. -/
structure SendSock where
  state : TcpState
  /-- `tcp_sk(sk)->fastopen_rsk != NULL`. -/
  fastopenRsk : Bool
  /-- `sk_write_queue`. -/
  writeQueue : List WSkb
  /-- `sk->sk_send_head`: the address of the first unsent skb, or `NULL`. -/
  sendHead : Option Nat
  /-- `tp->write_seq`. -/
  writeSeq : Nat
  /-- `sk->sk_wmem_queued`. -/
  wmemQueued : Nat
  /-- `sk->sk_err`. -/
  err : Nat
  /-- `sk->sk_shutdown & SEND_SHUTDOWN`. -/
  sndShutdown : Bool
  /-- `inet_csk(sk)->icsk_backoff`. -/
  backoff : Nat
  deriving Repr, DecidableEq

/-- The `truesize` charged for a list of skbs. -/
def truesizeOf : List WSkb → Nat
  | [] => 0
  | s :: q => s.truesize + truesizeOf q

/-- The payload of a list of skbs, in order. -/
def wdataOf : List WSkb → List UInt8
  | [] => []
  | s :: q => s.data ++ wdataOf q

@[simp] theorem truesizeOf_nil : truesizeOf [] = 0 := rfl

@[simp] theorem truesizeOf_cons (s : WSkb) (q : List WSkb) :
    truesizeOf (s :: q) = s.truesize + truesizeOf q := rfl

@[simp] theorem truesizeOf_append (q r : List WSkb) :
    truesizeOf (q ++ r) = truesizeOf q + truesizeOf r := by
  induction q with
  | nil => simp
  | cons s q ih => simp [ih]; omega

@[simp] theorem wdataOf_nil : wdataOf [] = [] := rfl

@[simp] theorem wdataOf_cons (s : WSkb) (q : List WSkb) :
    wdataOf (s :: q) = s.data ++ wdataOf q := rfl

@[simp] theorem wdataOf_append (q r : List WSkb) : wdataOf (q ++ r) = wdataOf q ++ wdataOf r := by
  induction q with
  | nil => rfl
  | cons s q ih => simp [ih]

/-! ## §2. The helpers. -/

/-- `tcp_nip_send_head(sk)`. -/
def tcpNipSendHead (sk : SendSock) : Option Nat := sk.sendHead

/-- `tcp_nip_write_queue_empty(sk)`. -/
def tcpNipWriteQueueEmpty (sk : SendSock) : Bool := sk.writeQueue.isEmpty

/-- `tcp_nip_add_write_queue_tail(sk, skb)`: link at the tail; an skb
linked when nothing is left to send becomes the send head. -/
def tcpNipAddWriteQueueTail (sk : SendSock) (skb : WSkb) : SendSock :=
  { sk with
    writeQueue := sk.writeQueue ++ [skb]
    sendHead := if sk.sendHead = none then some skb.id else sk.sendHead }

/-- `tcp_nip_write_queue_purge(sk)`: free every skb (`sk_wmem_free_skb`
gives back its `truesize`), clear the send head and the backoff. -/
def tcpNipWriteQueuePurge (sk : SendSock) : SendSock :=
  { sk with
    writeQueue := []
    wmemQueued := sk.wmemQueued - truesizeOf sk.writeQueue
    sendHead := none
    backoff := 0 }

/-- An address no skb of `q` has: what the allocator may return for a new
skb while those of `q` are live. -/
def freshId (q : List WSkb) : Nat := (q.map WSkb.id).foldr max 0 + 1

/-- The skb `sk_stream_alloc_skb` returns, as `skb_nip_entail` sets it up:
empty, starting and ending at `write_seq`, flags `ACK` only. -/
def newSkb (sk : SendSock) (truesize : Nat) : WSkb :=
  ⟨freshId sk.writeQueue, sk.writeSeq, sk.writeSeq, [], truesize, false, false⟩

/-- `skb_nip_entail(sk, skb)`: link the new skb at the tail and charge its
`truesize` to the socket. -/
def skbNipEntail (sk : SendSock) (truesize : Nat) : SendSock :=
  let sk' := tcpNipAddWriteQueueTail sk (newSkb sk truesize)
  { sk' with wmemQueued := sk'.wmemQueued + truesize }

theorem id_lt_freshId {q : List WSkb} {s : WSkb} (h : s ∈ q) : s.id < freshId q := by
  induction q with
  | nil => simp at h
  | cons t q ih =>
    simp only [freshId, List.map_cons, List.foldr_cons] at ih ⊢
    rcases List.mem_cons.1 h with rfl | h
    · omega
    · have := ih h; omega

/-- The new skb is not on the queue yet. -/
theorem newSkb_not_mem (sk : SendSock) (truesize : Nat) : newSkb sk truesize ∉ sk.writeQueue :=
  fun h => absurd (id_lt_freshId h) (Nat.lt_irrefl _)

/-! ## §3. The invariants. -/

/-- `sk_send_head` is `NULL` or an skb linked in the write queue. -/
def SendHeadOk (sk : SendSock) : Prop := ∀ i ∈ sk.sendHead, ∃ s ∈ sk.writeQueue, s.id = i

instance (sk : SendSock) : Decidable (SendHeadOk sk) :=
  inferInstanceAs (Decidable (∀ i ∈ sk.sendHead, _))

/-- A data skb spans exactly its bytes. -/
def WSkb.Wf (s : WSkb) : Prop :=
  s.seq < 2 ^ 32 ∧ (s.ctl = false → s.endSeq = seqAdd s.seq s.data.length)

instance (s : WSkb) : Decidable s.Wf := inferInstanceAs (Decidable (_ ∧ _))

/-- The accounting invariant of the write queue. -/
def WInv (sk : SendSock) : Prop :=
  sk.writeSeq < 2 ^ 32 ∧ (∀ s ∈ sk.writeQueue, s.Wf) ∧
    sk.writeQueue.Chain' (fun a b => b.seq = a.endSeq) ∧
    (∀ s ∈ sk.writeQueue.getLast?, s.endSeq = sk.writeSeq) ∧
    sk.wmemQueued = truesizeOf sk.writeQueue

instance (sk : SendSock) : Decidable (WInv sk) := inferInstanceAs (Decidable (_ ∧ _ ∧ _ ∧ _ ∧ _))

/-- Linking `t` at the tail, with the send head set as
`tcp_nip_add_write_queue_tail` sets it, keeps the send head on the queue. -/
theorem sendHeadOk_of_tail {sk sk' : SendSock} (h : SendHeadOk sk) {t : WSkb}
    (hq : sk'.writeQueue = sk.writeQueue ++ [t])
    (hh : sk'.sendHead = if sk.sendHead = none then some t.id else sk.sendHead) :
    SendHeadOk sk' := by
  intro i hi
  rw [hh] at hi
  rw [hq]
  split at hi
  · cases hi; exact ⟨t, by simp, rfl⟩
  · obtain ⟨s, hs, rfl⟩ := h i hi; exact ⟨s, by simp [hs], rfl⟩

theorem sendHeadOk_addWriteQueueTail {sk : SendSock} (h : SendHeadOk sk) (skb : WSkb) :
    SendHeadOk (tcpNipAddWriteQueueTail sk skb) :=
  sendHeadOk_of_tail h rfl rfl

/-- An skb that follows the whole queue keeps it contiguous. -/
theorem chain'_append_single {q : List WSkb} (hc : q.Chain' (fun a b => b.seq = a.endSeq))
    {t : WSkb} (ht : ∀ s ∈ q.getLast?, t.seq = s.endSeq) :
    (q ++ [t]).Chain' (fun a b => b.seq = a.endSeq) :=
  hc.append (List.chain'_singleton _) fun a ha b hb => by
    simp only [List.head?_cons, Option.mem_def, Option.some.injEq] at hb
    subst hb; exact ht a ha

@[simp] theorem skbNipEntail_writeQueue (sk : SendSock) (truesize : Nat) :
    (skbNipEntail sk truesize).writeQueue = sk.writeQueue ++ [newSkb sk truesize] := rfl

@[simp] theorem skbNipEntail_writeSeq (sk : SendSock) (truesize : Nat) :
    (skbNipEntail sk truesize).writeSeq = sk.writeSeq := rfl

@[simp] theorem skbNipEntail_wmemQueued (sk : SendSock) (truesize : Nat) :
    (skbNipEntail sk truesize).wmemQueued = sk.wmemQueued + truesize := rfl

/-- Linking a well-formed skb that starts at `write_seq`, moving `write_seq`
to its end and charging its `truesize`, keeps the accounting invariant. -/
theorem wInv_append {sk sk' : SendSock} (h : WInv sk) {t : WSkb} (ht : t.Wf)
    (hs : t.seq = sk.writeSeq) (he : t.endSeq < 2 ^ 32)
    (hq : sk'.writeQueue = sk.writeQueue ++ [t]) (hw : sk'.writeSeq = t.endSeq)
    (hm : sk'.wmemQueued = sk.wmemQueued + t.truesize) : WInv sk' := by
  obtain ⟨-, hwf, hc, hl, hmem⟩ := h
  refine ⟨hw ▸ he, ?_, hq ▸ chain'_append_single hc fun a ha => hs.trans (hl a ha).symm, ?_, ?_⟩
  · intro s hs'
    rcases List.mem_append.1 (hq ▸ hs') with hs' | hs'
    · exact hwf s hs'
    · exact (List.mem_singleton.1 hs') ▸ ht
  · simp [hq, hw]
  · simp [hq, hm, hmem]

/-- Entailing keeps the invariant: the new skb is empty and starts where the
queue ends. -/
theorem wInv_skbNipEntail {sk : SendSock} (h : WInv sk) (truesize : Nat) :
    WInv (skbNipEntail sk truesize) :=
  wInv_append (t := newSkb sk truesize) h
    ⟨h.1, fun _ => by have := h.1; simp only [newSkb, seqAdd, List.length_nil]; omega⟩ rfl h.1 (by simp) rfl rfl

theorem sendHeadOk_skbNipEntail {sk : SendSock} (h : SendHeadOk sk) (truesize : Nat) :
    SendHeadOk (skbNipEntail sk truesize) :=
  sendHeadOk_addWriteQueueTail h _

/-! ## §4. Acknowledged prefixes. -/

/-- `sk'` is `sk` after ACK processing freed a prefix of the write queue,
each freed skb giving back its `truesize`; `write_seq` is untouched. -/
def SendSock.AckedFrom (sk sk' : SendSock) : Prop :=
  ∃ k, sk'.writeQueue = sk.writeQueue.drop k ∧
    sk'.wmemQueued + truesizeOf (sk.writeQueue.take k) = sk.wmemQueued ∧
    sk'.writeSeq = sk.writeSeq

theorem truesizeOf_take_drop (q : List WSkb) (k : Nat) :
    truesizeOf (q.take k) + truesizeOf (q.drop k) = truesizeOf q := by
  rw [← truesizeOf_append, List.take_append_drop]

theorem mem_getLast?_drop {q : List WSkb} {k : Nat} {s : WSkb} (h : s ∈ (q.drop k).getLast?) :
    s ∈ q.getLast? := by
  induction k generalizing q with
  | zero => simpa using h
  | succ k ih =>
    cases q with
    | nil => simp at h
    | cons a q =>
      have hs := ih (q := q) (by simpa using h)
      cases q with
      | nil => simp at hs
      | cons b q => simpa [List.getLast?_cons_cons] using hs

/-- Freeing an acknowledged prefix keeps the accounting invariant. -/
theorem wInv_ackedFrom {sk sk' : SendSock} (h : WInv sk) (ha : sk.AckedFrom sk') : WInv sk' := by
  obtain ⟨k, hq, hm, hw⟩ := ha
  obtain ⟨hws, hwf, hc, hl, hmem⟩ := h
  have := truesizeOf_take_drop sk.writeQueue k
  refine ⟨hw ▸ hws, fun s hs => hwf s (List.mem_of_mem_drop (hq ▸ hs)), hq ▸ hc.drop k,
    fun s hs => hw ▸ hl s (mem_getLast?_drop (hq ▸ hs)), by rw [hq]; omega⟩

theorem ackedFrom_of_eq {sk sk' : SendSock} (hq : sk'.writeQueue = sk.writeQueue)
    (hm : sk'.wmemQueued = sk.wmemQueued) (hw : sk'.writeSeq = sk.writeSeq) : sk.AckedFrom sk' :=
  ⟨0, by simpa using hq, by simpa using hm, hw⟩

theorem SendSock.AckedFrom.trans {sk₁ sk₂ sk₃ : SendSock} (h₁ : sk₁.AckedFrom sk₂)
    (h₂ : sk₂.AckedFrom sk₃) : sk₁.AckedFrom sk₃ := by
  obtain ⟨j, hq, hm, hw⟩ := h₁
  obtain ⟨k, hq', hm', hw'⟩ := h₂
  refine ⟨j + k, by rw [hq', hq, List.drop_drop, Nat.add_comm], ?_, hw'.trans hw⟩
  have := truesizeOf_take_drop (sk₁.writeQueue.drop j) k
  rw [← hq] at this
  rw [List.take_add, truesizeOf_append, ← hq]
  omega

end NipTcp
