/-
  NipTcp.Send.Sendmsg — `tcp_nip_sendmsg`.

  The source moves between labels with `goto`: `restart`, the `while
  (msg_data_left(msg))` loop, `wait_for_sndbuf`, `wait_for_memory`, `out`,
  `do_fault` and `do_error`.  The model is a machine over those labels
  (`SendPc`); `sendStep` is one move, `sendRun` runs it on `fuel` moves.

  What the rest of the kernel decides is an environment `SendEnv`: the
  outcome of `sk_stream_wait_connect`, of `tcp_nip_current_mss`,
  `sk_stream_memory_free`, `sk_flush_backlog`, `sk_stream_alloc_skb`,
  `skb_add_data_nocache`, `sk_stream_wait_memory` and of the transmission
  `tcp_nip_push` starts.  Each is indexed by the move it happens in.

  The loop state also keeps, as a record for the proofs, the skbs the call
  filled (`appended`).
-/
import NipTcp.Send.WriteQueue

namespace NipTcp

/-! ## §1. The environment and the machine. -/

/-- What the rest of the kernel does during one call. -/
structure SendEnv where
  /-- `sk_stream_wait_connect`: the socket after the wait, and its return. -/
  waitConnect : SendSock → SendSock × Int
  /-- `tcp_nip_current_mss`. -/
  currentMss : Nat → SendSock → Nat
  /-- `sk_stream_memory_free`. -/
  memoryFree : Nat → SendSock → Bool
  /-- `sk_flush_backlog`: the socket after the backlog ran, if there was one. -/
  flushBacklog : Nat → SendSock → Option SendSock
  /-- `sk_stream_alloc_skb`: the new skb's `truesize` and `skb_availroom`.
  The room is not tied to `mss_now` here; the kernel leaves
  `ALIGN(mss_now, 4)` bytes, so with a positive MSS the no-room exit of the
  loop body is never taken. -/
  alloc : Nat → SendSock → Option (Nat × Nat)
  /-- `skb_add_data_nocache` faults. -/
  fault : Nat → Bool
  /-- `sk_stream_wait_memory`: the socket after the wait, and its return. -/
  waitMemory : Nat → SendSock → SendSock × Int
  /-- The socket after `tcp_nip_push` transmitted what it could. -/
  push : Nat → SendSock → SendSock

/-- The labels of `tcp_nip_sendmsg`. -/
inductive SendPc where
  | restart | test | body | waitSndbuf | waitMemory | out | doError
  /-- The call has returned this value. -/
  | ret (v : Int)
  deriving Repr, DecidableEq

/-- The state of a call. -/
structure SendLoop where
  sk : SendSock
  pc : SendPc
  copied : Int
  err : Int
  mssNow : Nat
  processBacklog : Bool
  /-- Bytes of the message consumed: `size - msg_data_left(msg)`. -/
  pos : Nat
  /-- Moves made, which index the environment. -/
  iter : Nat
  /-- The skbs this call filled, in order. -/
  appended : List WSkb

/-- The flags of the call the model reads. -/
structure SendFlags where
  eor : Bool
  deriving Repr, DecidableEq

/-- `sk_stream_error(sk, flags, err)`: a broken pipe reports the socket's
pending error instead, if there is one, clearing it. -/
def skStreamError (sk : SendSock) (err : Int) : SendSock × Int :=
  if err = -EPIPE ∧ sk.err ≠ 0 then ({ sk with err := 0 }, -(sk.err : Int)) else (sk, err)

/-- `tcp_passive_fastopen(sk)`. -/
def tcpPassiveFastopen (sk : SendSock) : Bool := sk.state = .synRecv && sk.fastopenRsk

/-- `skb_add_data_nocache` followed by `tp->write_seq += copy;
TCP_SKB_CB(skb)->end_seq += copy` on the tail skb, and its `eor` mark. -/
def addData (sk : SendSock) (skb : WSkb) (bytes : List UInt8) (eor : Bool) : SendSock × WSkb :=
  let skb' := { skb with
    data := skb.data ++ bytes, endSeq := seqAdd skb.endSeq bytes.length, eor := eor }
  ({ sk with
      writeQueue := sk.writeQueue.dropLast ++ [skb']
      writeSeq := seqAdd sk.writeSeq bytes.length }, skb')

/-- `do_fault`: an skb the failed copy left empty is unlinked and freed. -/
def doFault (sk : SendSock) (skb : WSkb) : SendSock :=
  if skb.data = [] then
    { sk with writeQueue := sk.writeQueue.erase skb, wmemQueued := sk.wmemQueued - skb.truesize }
  else sk

/-! ## §2. One move. -/

/-- The loop body from `sk_stream_alloc_skb` on, with an skb of `truesize`
and `room` bytes of head room. -/
def sendFill (env : SendEnv) (msg : List UInt8) (flags : SendFlags) (L : SendLoop)
    (truesize room : Nat) : SendLoop :=
  let skb := newSkb L.sk truesize
  let sk := skbNipEntail L.sk truesize
  let L := { L with sk := sk, processBacklog := true }
  let copy := min L.mssNow (msg.length - L.pos)
  if 0 < room then
    let copy := min copy room
    if env.fault L.iter then { L with sk := doFault sk skb, err := -EFAULT, pc := .doError }
    else
      let last := L.pos + copy = msg.length
      let r := addData sk skb ((msg.drop L.pos).take copy) (last && flags.eor)
      { L with
        sk := r.1
        copied := L.copied + copy
        pos := L.pos + copy
        appended := L.appended ++ [r.2]
        pc := if last then .out else .test }
  else { L with appended := L.appended ++ [skb], pc := .out }

/-- One move of `tcp_nip_sendmsg`. -/
def sendStep (env : SendEnv) (msg : List UInt8) (flags : SendFlags) (L : SendLoop) : SendLoop :=
  let L' := { L with iter := L.iter + 1 }
  match L.pc with
  | .restart =>
    let mss := env.currentMss L.iter L.sk
    { L' with
      mssNow := mss
      err := -EPIPE
      pc := if L.sk.err ≠ 0 ∨ L.sk.sndShutdown then .doError else .test }
  | .test => { L' with pc := if L.pos < msg.length then .body else .out }
  | .body =>
    if !env.memoryFree L.iter L.sk then { L' with pc := .waitSndbuf }
    else
      match (if L.processBacklog then env.flushBacklog L.iter L.sk else none) with
      | some sk => { L' with sk := sk, processBacklog := false, pc := .restart }
      | none =>
        match env.alloc L.iter L.sk with
        | none => { L' with pc := .waitMemory }
        | some (truesize, room) => sendFill env msg flags L' truesize room
  | .waitSndbuf => { L' with pc := .waitMemory }
  | .waitMemory =>
    let sk := if L.copied ≠ 0 then env.push L.iter L.sk else L.sk
    let r := env.waitMemory L.iter sk
    if r.2 ≠ 0 then { L' with sk := r.1, err := r.2, pc := .doError }
    else { L' with sk := r.1, mssNow := env.currentMss L.iter r.1, pc := .test }
  | .out =>
    let sk := if L.copied ≠ 0 then env.push L.iter L.sk else L.sk
    { L' with sk := sk, pc := .ret L.copied }
  | .doError =>
    if L.copied ≠ 0 then { L' with pc := .out }
    else
      let r := skStreamError L.sk L.err
      { L' with sk := r.1, pc := .ret r.2 }
  | .ret _ => L

/-- Run until the call returns, on at most `fuel` moves. -/
def sendRun (env : SendEnv) (msg : List UInt8) (flags : SendFlags) :
    Nat → SendLoop → Option SendLoop
  | 0, _ => none
  | fuel + 1, L =>
    match L.pc with
    | .ret _ => some L
    | _ => sendRun env msg flags fuel (sendStep env msg flags L)

/-- `tcp_nip_sendmsg(sk, msg, size)` with `msg` the bytes of the message.
A socket neither established nor in `CLOSE_WAIT` first waits to connect. -/
def tcpNipSendmsg (env : SendEnv) (fuel : Nat) (sk : SendSock) (msg : List UInt8)
    (flags : SendFlags) : Option SendLoop :=
  let L0 : SendLoop := ⟨sk, .restart, 0, 0, 0, false, 0, 0, []⟩
  let L0 :=
    if sk.state ∉ [.established, .closeWait] ∧ tcpPassiveFastopen sk = false then
      let r := env.waitConnect sk
      if r.2 ≠ 0 then { L0 with sk := r.1, err := r.2, pc := .doError } else { L0 with sk := r.1 }
    else L0
  sendRun env msg flags fuel L0

end NipTcp
