/-
  NipTcp.Recv.Queue — the receive queue and its invariant.

  `sk_receive_queue` holds the in-order segments the receive path has
  accepted and the application has not yet read.  `tcp_nip_recvmsg` reads
  them from `tp->copied_seq` on, and is only right if the queue has the
  shape `RcvInv` describes:

    * every segment is well formed (`Skb.Wf`): `end_seq - seq = len + FIN`,
      no SYN, not empty, and shorter than `2^31` (a receive window never
      admits more, and beyond it the `before` test of the code is no
      longer an order);
    * consecutive segments are `Linked`: the next starts where the
      previous ends, and only the last may carry FIN;
    * `copied_seq` lies inside the head segment.

  `unread c q` is the stream the queue still holds for a reader at `c`.
  The lemmas below say what each way `tcp_nip_recvmsg` consumes the head
  does to the invariant and to the unread stream; the loop proof of
  `NipTcp.Recv.Delivery` is assembled from them.
-/
import NipTcp.Basic

namespace NipTcp

/-! ## §1. Segments. -/

/-- The part of an `sk_buff` on the receive queue that the model reads:
`TCP_SKB_CB(skb)->seq`, `->end_seq`, the payload (`skb->len` is its
length) and the SYN and FIN bits of `tcp_flags`. -/
structure Skb where
  seq : Nat
  endSeq : Nat
  data : List UInt8
  syn : Bool
  fin : Bool
  deriving Repr, DecidableEq

namespace Skb

/-- `skb->len`. -/
def len (s : Skb) : Nat := s.data.length

/-- The sequence space the segment occupies: its bytes and its FIN. -/
def seqLen (s : Skb) : Nat := s.len + s.fin.toNat

/-- A segment as the receive path queues it. -/
def Wf (s : Skb) : Prop :=
  s.seq < 2 ^ 32 ∧ s.endSeq = seqAdd s.seq s.seqLen ∧ s.syn = false ∧
    0 < s.seqLen ∧ s.seqLen < 2 ^ 31

instance (s : Skb) : Decidable s.Wf := inferInstanceAs (Decidable (_ ∧ _))

/-- `t` follows `s` on the queue: it starts at `s`'s end, and `s` carries
no FIN. -/
def Linked (s t : Skb) : Prop := s.fin = false ∧ t.seq = s.endSeq

instance (s t : Skb) : Decidable (Linked s t) := inferInstanceAs (Decidable (_ ∧ _))

end Skb

/-- The payload bytes of a list of segments, in order. -/
def dataOf : List Skb → List UInt8
  | [] => []
  | s :: q => s.data ++ dataOf q

@[simp] theorem dataOf_nil : dataOf [] = [] := rfl

@[simp] theorem dataOf_cons (s : Skb) (q : List Skb) : dataOf (s :: q) = s.data ++ dataOf q := rfl

@[simp] theorem dataOf_append (q a : List Skb) : dataOf (q ++ a) = dataOf q ++ dataOf a := by
  induction q with
  | nil => rfl
  | cons s q ih => simp [ih]

/-! ## §2. The invariant. -/

/-- The receive-queue invariant for a reader at `copied_seq = c` (a `u32`). -/
def RcvInv (c : Nat) (q : List Skb) : Prop :=
  c < 2 ^ 32 ∧ (∀ s ∈ q, s.Wf) ∧ q.Chain' Skb.Linked ∧
    ∀ s ∈ q.head?, seqSub c s.seq < s.seqLen

instance (c : Nat) (q : List Skb) : Decidable (RcvInv c q) :=
  inferInstanceAs (Decidable (_ ∧ _ ∧ _ ∧ _))

/-- The stream the queue still holds for a reader at `c`: the head's bytes
from `c` on, then every later segment whole. -/
def unread (c : Nat) : List Skb → List UInt8
  | [] => []
  | s :: q => s.data.drop (seqSub c s.seq) ++ dataOf q

@[simp] theorem unread_nil (c : Nat) : unread c [] = [] := rfl

/-- Where the next in-order segment starts: the end of the last queued one,
or `c` itself when the queue is empty. -/
def frontier (c : Nat) (q : List Skb) : Nat := (q.getLast?.map Skb.endSeq).getD c

@[simp] theorem rcvInv_nil {c : Nat} : RcvInv c [] ↔ c < 2 ^ 32 := by simp [RcvInv]

theorem rcvInv_cons {c : Nat} {s : Skb} {q : List Skb} :
    RcvInv c (s :: q) ↔
      c < 2 ^ 32 ∧ s.Wf ∧ (∀ t ∈ q, t.Wf) ∧ (∀ t ∈ q.head?, s.Linked t) ∧
        q.Chain' Skb.Linked ∧ seqSub c s.seq < s.seqLen := by
  simp only [RcvInv, List.mem_cons, forall_eq_or_imp, List.chain'_cons',
    List.head?_cons, Option.mem_def, Option.some.injEq, forall_eq']
  tauto

/-- A segment `t` that follows a well-formed `s` is read from its first byte
by a reader at `s`'s end. -/
theorem seqSub_endSeq_linked {s t : Skb} (hl : s.Linked t) : seqSub s.endSeq t.seq = 0 := by
  rw [hl.2]; unfold seqSub; omega

/-- Removing the head of a queue whose head has been read to its end
leaves a queue in the invariant for a reader at the head's end. -/
theorem rcvInv_tail {c : Nat} {s : Skb} {q : List Skb} (h : RcvInv c (s :: q)) :
    RcvInv s.endSeq q := by
  obtain ⟨_, hs, hq, hlink, hchain, _⟩ := rcvInv_cons.1 h
  refine ⟨hs.2.1 ▸ Nat.mod_lt _ (by decide), hq, hchain, fun t ht => ?_⟩
  rw [seqSub_endSeq_linked (hlink t ht)]
  exact (hq t (List.mem_of_mem_head? ht)).2.2.2.1

/-- The stream of a queue whose head is read from its first byte is its
whole payload. -/
theorem unread_of_seqSub_zero {c : Nat} {q : List Skb}
    (h : ∀ t ∈ q.head?, seqSub c t.seq = 0) : unread c q = dataOf q := by
  cases q with
  | nil => rfl
  | cons t q => simp [unread, h t rfl]

/-! ## §3. Appending at the tail. -/

/-- What a reader at `c` gains when segments `a` are appended at the tail
is the part of `a` past the frontier. -/
theorem unread_append {c : Nat} {q a : List Skb} (h : RcvInv c (q ++ a)) :
    unread c (q ++ a) = unread c q ++ unread (frontier c q) a := by
  cases q with
  | nil => simp [unread, frontier]
  | cons s q =>
    have hlink : ∀ t ∈ a.head?, ((s :: q).getLast (List.cons_ne_nil s q)).Linked t := by
      intro t ht
      have hc := h.2.2.1
      rw [List.chain'_append] at hc
      exact hc.2.2 _ (by simp [List.getLast?_eq_getLast]) t ht
    rw [unread_of_seqSub_zero (c := frontier c (s :: q)) (fun t ht => by
      simp only [frontier, List.getLast?_eq_getLast (s :: q) (List.cons_ne_nil s q),
        Option.map_some', Option.getD_some]
      exact seqSub_endSeq_linked (hlink t ht))]
    simp [unread]

/-! ## §4. Reading the head. -/

section Head

variable {c : Nat} {s : Skb} {q : List Skb}

/-- The head's offset is below its sequence length, hence below `2^31`. -/
theorem rcvInv_offset_lt (h : RcvInv c (s :: q)) : seqSub c s.seq < 2 ^ 31 :=
  lt_trans (rcvInv_cons.1 h).2.2.2.2.2 (rcvInv_cons.1 h).2.1.2.2.2.2

/-- Reading `u` bytes that stay inside the head keeps the invariant. -/
theorem rcvInv_advance (h : RcvInv c (s :: q)) {u : Nat}
    (hu : seqSub c s.seq + u < s.seqLen) : RcvInv (seqAdd c u) (s :: q) := by
  obtain ⟨-, hs, hq, hlink, hchain, -⟩ := rcvInv_cons.1 h
  have := hs.2.2.2.2
  refine rcvInv_cons.2 ⟨seqAdd_lt _ _, hs, hq, hlink, hchain, ?_⟩
  rwa [seqSub_seqAdd _ _ _ (by omega)]

/-- The `u` bytes read from the head at `c` are the first `u` of the stream,
and the rest of it is what a reader at `c + u` sees. -/
theorem unread_advance {u : Nat} (hu : seqSub c s.seq + u < 2 ^ 32) :
    unread c (s :: q) =
      (s.data.drop (seqSub c s.seq)).take u ++ unread (seqAdd c u) (s :: q) := by
  simp only [unread, seqSub_seqAdd _ _ _ hu, ← List.append_assoc, ← List.drop_drop,
    List.take_append_drop]

/-- A reader inside the head is not before the head's start… -/
theorem not_before_seq (h : RcvInv c (s :: q)) : before c s.seq = false := by
  have := rcvInv_offset_lt h
  unfold before; simpa using this

/-- …and is before its end. -/
theorem before_endSeq (h : RcvInv c (s :: q)) : before c s.endSeq = true := by
  obtain ⟨hc, ⟨hseq, hend, -, -, hlt⟩, -, -, -, ho⟩ := rcvInv_cons.1 h
  unfold before; rw [hend]; unfold seqSub seqAdd at *; simp only [decide_eq_true_eq]; omega

/-- A reader inside the head but past its bytes is on its FIN. -/
theorem rcvInv_on_fin (h : RcvInv c (s :: q)) (ho : ¬ seqSub c s.seq < s.len) :
    s.fin = true ∧ seqSub c s.seq = s.len := by
  have := (rcvInv_cons.1 h).2.2.2.2.2
  unfold Skb.seqLen at this
  cases hf : s.fin
  · simp only [hf, Bool.toNat_false] at this; omega
  · simp only [hf, Bool.toNat_true] at this; exact ⟨rfl, by omega⟩

/-- Only the last segment carries a FIN. -/
theorem rcvInv_fin_last (h : RcvInv c (s :: q)) (hf : s.fin = true) : q = [] := by
  cases q with
  | nil => rfl
  | cons t q => simp [(rcvInv_cons.1 h).2.2.2.1 t rfl |>.1] at hf

/-- Reading a FIN-less head to its last byte brings the reader to its end. -/
theorem seqAdd_to_endSeq (h : RcvInv c (s :: q)) {u : Nat} (hu : seqSub c s.seq + u = s.len)
    (hf : s.fin = false) : seqAdd c u = s.endSeq := by
  obtain ⟨hc, ⟨hseq, hend, -⟩, -⟩ := rcvInv_cons.1 h
  rw [hend]; unfold Skb.seqLen; rw [hf]; unfold seqSub seqAdd at *; simp; omega

/-- Reading a FIN-less head to its end and eating it: the bytes read are
the first of the stream, the rest is what the tail holds. -/
theorem unread_eat (h : RcvInv c (s :: q)) {u : Nat} (hu : seqSub c s.seq + u = s.len)
    (hf : s.fin = false) :
    unread c (s :: q) = (s.data.drop (seqSub c s.seq)).take u ++ unread (seqAdd c u) q := by
  rw [seqAdd_to_endSeq h hu hf, unread_of_seqSub_zero fun t ht =>
    seqSub_endSeq_linked ((rcvInv_cons.1 h).2.2.2.1 t ht)]
  have : (s.data.drop (seqSub c s.seq)).length ≤ u := by simp [Skb.len] at hu ⊢; omega
  simp [unread, List.take_of_length_le this]

/-- A head read to its end holds nothing more for the reader. -/
theorem unread_last {u : Nat} (hu : seqSub c s.seq + u = s.len) :
    unread c [s] = (s.data.drop (seqSub c s.seq)).take u := by
  have : (s.data.drop (seqSub c s.seq)).length ≤ u := by simp [Skb.len] at hu ⊢; omega
  simp [unread, List.take_of_length_le this]

end Head

end NipTcp
