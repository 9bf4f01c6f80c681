import BluetoothStack.StepRun

/-!
# The ERTM transmit window (stack/l2cap/l2c_fcr.cc)

In enhanced retransmission mode the sender numbers its I-frames with a 6-bit
`tx_seq` and keeps a copy of each in `waiting_for_ack_q` until the peer's
`req_seq` acknowledges it. `prepare_I_frame` assigns `next_tx_seq` to a new
frame, `process_reqseq` releases the frames up to an acknowledged `req_seq`,
and `retransmit_i_frames` copies frames back into `retrans_q`, from which
`l2c_fcr_get_next_xmit_sdu_seg` sends them again with only their `req_seq`
and F bit rewritten.

The queue always holds the frames `last_rx_ack, …, next_tx_seq - 1` modulo
64, at most `tx_win_sz` of them, whatever the peer sends. A `req_seq` is
accepted exactly when it lies in that window, except in an SREJ whose P bit is
clear (or is cleared because it answers a poll): that frame acknowledges
nothing, and `process_reqseq` accepts it whatever its `req_seq`.
-/

namespace BluetoothStack.L2capErtm

open StepRun

/-! ### Control words (stack/include/l2cdefs.h) -/

/-- `L2CAP_FCR_S_FRAME_BIT`. -/
def l2capFcrSFrameBit : ℕ := 0x0001

/-- `L2CAP_FCR_SUP_BITS`. -/
def l2capFcrSupBits : ℕ := 0x000C

/-- `L2CAP_FCR_SUP_SHIFT`. -/
def l2capFcrSupShift : ℕ := 2

/-- `L2CAP_FCR_SUP_SREJ`. -/
def l2capFcrSupSrej : ℕ := 0x0003

/-- `L2CAP_FCR_P_BIT`. -/
def l2capFcrPBit : ℕ := 0x0010

/-- `L2CAP_FCR_F_BIT`. -/
def l2capFcrFBit : ℕ := 0x0080

/-- `L2CAP_FCR_REQ_SEQ_BITS`. -/
def l2capFcrReqSeqBits : ℕ := 0x3F00

/-- `L2CAP_FCR_REQ_SEQ_BITS_SHIFT`. -/
def l2capFcrReqSeqBitsShift : ℕ := 8

/-- `L2CAP_FCR_TX_SEQ_BITS`. -/
def l2capFcrTxSeqBits : ℕ := 0x007E

/-- `L2CAP_FCR_TX_SEQ_BITS_SHIFT`. -/
def l2capFcrTxSeqBitsShift : ℕ := 1

/-- `L2CAP_FCR_SEG_BITS`: the SAR bits of `layer_specific`. -/
def l2capFcrSegBits : ℕ := 0xC000

/-- `L2CAP_FCR_SEQ_MODULO`. -/
def l2capFcrSeqModulo : ℕ := 0x3F

/-- `L2C_FCR_RETX_ALL_PKTS`. -/
def l2cFcrRetxAllPkts : ℕ := 0xFF

/-- The `tx_seq` field of a control word. -/
def txSeqOf (ctrlWord : ℕ) : ℕ := (ctrlWord &&& l2capFcrTxSeqBits) >>> l2capFcrTxSeqBitsShift

/-- The `req_seq` field of a control word. -/
def reqSeqOf (ctrlWord : ℕ) : ℕ := (ctrlWord &&& l2capFcrReqSeqBits) >>> l2capFcrReqSeqBitsShift

/-- The supervisory function of an S-frame's control word. -/
def supOf (ctrlWord : ℕ) : ℕ := (ctrlWord &&& l2capFcrSupBits) >>> l2capFcrSupShift

/-- Whether a control word has a bit of `mask` set. -/
def hasBit (ctrlWord mask : ℕ) : Bool := ctrlWord &&& mask≠0

theorem testBit_lt_two_pow_le {n k i : ℕ} (hn : n < 2^k) (hi : k ≤ i) : n.testBit i = false :=
  Nat.testBit_eq_false_of_lt (lt_of_lt_of_le hn (Nat.pow_le_pow_right (by norm_num) hi))

/-- `tx_seq` reads bits 1 to 6 only. -/
theorem txSeqOf_eq_of_testBit {a b : ℕ} (h : ∀ i,1 ≤ i → i ≤ 6 → a.testBit i=b.testBit i) :
    txSeqOf a=txSeqOf b := by
  unfold txSeqOf
  apply Nat.eq_of_testBit_eq
  intro i
  simp only [Nat.testBit_shiftRight,Nat.testBit_and]
  by_cases hi : i ≤ 5
  · rw [h (l2capFcrTxSeqBitsShift+i) (by simp only [l2capFcrTxSeqBitsShift]; omega)
      (by simp only [l2capFcrTxSeqBitsShift]; omega)]
  · have hmask : l2capFcrTxSeqBits.testBit (l2capFcrTxSeqBitsShift+i)=false :=
      testBit_lt_two_pow_le (show l2capFcrTxSeqBits < 2^7 by decide)
        (by simp only [l2capFcrTxSeqBitsShift]; omega)
    simp [hmask]

theorem txSeqOf_lt (ctrlWord : ℕ) : txSeqOf ctrlWord < 64 := by
  unfold txSeqOf
  rw [Nat.shiftRight_eq_div_pow]
  have := Nat.and_le_right (n := ctrlWord) (m := l2capFcrTxSeqBits)
  simp only [l2capFcrTxSeqBits,l2capFcrTxSeqBitsShift] at this ⊢
  omega

theorem reqSeqOf_lt (ctrlWord : ℕ) : reqSeqOf ctrlWord < 64 := by
  unfold reqSeqOf
  rw [Nat.shiftRight_eq_div_pow]
  have := Nat.and_le_right (n := ctrlWord) (m := l2capFcrReqSeqBits)
  simp only [l2capFcrReqSeqBits,l2capFcrReqSeqBitsShift] at this ⊢
  omega

/-- A new frame's control word carries `next_tx_seq`. -/
theorem txSeqOf_segBits_or {layerSpecific n : ℕ} (hn : n < 64) :
    txSeqOf ((layerSpecific &&& l2capFcrSegBits) ||| (n <<< l2capFcrTxSeqBitsShift))=n := by
  unfold txSeqOf
  apply Nat.eq_of_testBit_eq
  intro i
  simp only [Nat.testBit_shiftRight,Nat.testBit_and,Nat.testBit_or,Nat.testBit_shiftLeft,
    l2capFcrTxSeqBitsShift]
  by_cases hi : i ≤ 5
  · have hseg : l2capFcrSegBits.testBit (1+i)=false := by
      simp only [l2capFcrSegBits]; interval_cases i <;> decide
    have hmask : l2capFcrTxSeqBits.testBit (1+i)=true := by
      simp only [l2capFcrTxSeqBits]; interval_cases i <;> decide
    simp [hseg,hmask,show 1 ≤ 1+i by omega]
  · simp [testBit_lt_two_pow_le (show n < 2^6 by omega) (show 6 ≤ i by omega),
      testBit_lt_two_pow_le (show l2capFcrTxSeqBits < 2^7 by decide) (show 7 ≤ 1+i by omega)]

/-- Clearing `req_seq` and the F bit keeps `tx_seq`. -/
theorem txSeqOf_clear_reqSeq_fBit (ctrlWord : ℕ) :
    txSeqOf (ctrlWord &&& (0xFFFF ^^^ (l2capFcrReqSeqBits+l2capFcrFBit)))=txSeqOf ctrlWord := by
  apply txSeqOf_eq_of_testBit
  intro i h1 h6
  have hkeep : Nat.testBit (0xFFFF ^^^ (l2capFcrReqSeqBits+l2capFcrFBit)) i=true := by
    simp only [l2capFcrReqSeqBits,l2capFcrFBit]; interval_cases i <;> decide
  rw [Nat.testBit_and,hkeep,Bool.and_true]

/-- Setting the F bit and `req_seq`, in a 16-bit word, keeps `tx_seq`. -/
theorem txSeqOf_final_reqSeq (ctrlWord reqSeq : ℕ) (setFBit isErtm : Bool) :
    txSeqOf ((if isErtm then (if setFBit then ctrlWord ||| l2capFcrFBit else ctrlWord) |||
      (reqSeq <<< l2capFcrReqSeqBitsShift) else ctrlWord)%65536)=txSeqOf ctrlWord := by
  apply txSeqOf_eq_of_testBit
  intro i h1 h6
  have hf : l2capFcrFBit.testBit i=false := by simp only [l2capFcrFBit]; interval_cases i <;> decide
  rw [show (65536 : ℕ)=2^16 by norm_num,Nat.testBit_mod_two_pow]
  cases isErtm
  · simp [show i < 16 by omega]
  · rw [if_pos rfl,Nat.testBit_or,Nat.testBit_shiftLeft]
    cases setFBit <;> simp [hf,l2capFcrReqSeqBitsShift,show ¬8 ≤ i by omega,show i < 16 by omega]

/-! ### The sender -/

/-- The two modes with a control word: `L2CAP_FCR_ERTM_MODE` and `L2CAP_FCR_STREAM_MODE`. -/
inductive FcrMode where
  | ertm
  | stream
  deriving DecidableEq,Repr

/-- A frame held in `waiting_for_ack_q` or `retrans_q`: the control word in its
buffer and its `layer_specific`. -/
structure HeldFrame where
  /-- The control word after the basic header. -/
  ctrlWord : ℕ
  /-- `layer_specific`: the SAR bits and the flushable flag. -/
  layerSpecific : ℕ
  deriving DecidableEq, Repr

/-- The transmit side of `tL2C_FCRB`. -/
structure Fcrb where
  /-- `next_tx_seq`. -/
  nextTxSeq : ℕ
  /-- `last_rx_ack`. -/
  lastRxAck : ℕ
  /-- `next_seq_expected`, the `req_seq` every sent frame carries. -/
  nextSeqExpected : ℕ
  /-- `send_f_rsp`. -/
  sendFRsp : Bool
  /-- `remote_busy`. -/
  remoteBusy : Bool
  /-- `wait_ack`: a poll is outstanding. -/
  waitAck : Bool
  /-- `num_tries`. -/
  numTries : ℕ
  /-- `waiting_for_ack_q`. -/
  waitingForAckQ : List HeldFrame
  /-- `retrans_q`. -/
  retransQ : List HeldFrame
  deriving DecidableEq, Repr

/-- The peer's ERTM options as configured: a window of 1 to 63 frames. -/
structure PeerFcr where
  /-- `tx_win_sz`. -/
  txWinSz : ℕ
  /-- `max_transmit`; 0 means no limit. -/
  maxTransmit : ℕ
  txWinSz_pos : 0 < txWinSz
  txWinSz_le : txWinSz ≤ 63

/-- `prepare_I_frame`, for the control word and the sequence state: a new frame
takes `next_tx_seq` and the SAR bits of its `layer_specific`; a retransmitted
one keeps its control word but for `req_seq` and the F bit. In retransmission
mode both get the F bit if one is owed, and `next_seq_expected` as `req_seq`. -/
def prepareIFrame (mode : FcrMode) (fcrb : Fcrb) (frame : HeldFrame) (isRetransmission : Bool) : Fcrb×ℕ :=
  let setFBit := fcrb.sendFRsp
  let fcrb := {fcrb with sendFRsp := false}
  let (fcrb,ctrlWord) :=
    if isRetransmission then (fcrb,frame.ctrlWord &&& (0xFFFF ^^^ (l2capFcrReqSeqBits+l2capFcrFBit)))
    else ({fcrb with nextTxSeq := (fcrb.nextTxSeq+1) &&& l2capFcrSeqModulo},
      (frame.layerSpecific &&& l2capFcrSegBits) ||| (fcrb.nextTxSeq <<< l2capFcrTxSeqBitsShift))
  let ctrlWord :=
    if mode=.ertm then
      (if setFBit then ctrlWord ||| l2capFcrFBit else ctrlWord) ||| (fcrb.nextSeqExpected <<< l2capFcrReqSeqBitsShift)
    else ctrlWord
  (fcrb,ctrlWord%65536)

/-- `l2c_fcr_is_flow_controlled` on an ERTM channel. -/
def isFlowControlled (peer : PeerFcr) (fcrb : Fcrb) : Bool :=
  fcrb.remoteBusy || peer.txWinSz ≤ fcrb.waitingForAckQ.length

/-- `l2c_fcr_get_next_xmit_sdu_seg`, for its effect on the window: a frame from
`retrans_q` is prepared again and sent; otherwise the next segment, whose
`layer_specific` carries its SAR bits, is prepared, and a copy of it joins
`waiting_for_ack_q` (the frame itself when no copy can be allocated). -/
def getNextXmitSduSeg (fcrb : Fcrb) (segment : ℕ) : Fcrb×HeldFrame :=
  match fcrb.retransQ with
  | frame::rest =>
    let (fcrb,ctrlWord) := prepareIFrame .ertm {fcrb with retransQ := rest} frame true
    (fcrb,⟨ctrlWord,frame.layerSpecific⟩)
  | [] =>
    let (fcrb,ctrlWord) := prepareIFrame .ertm fcrb ⟨0,segment⟩ false
    ({fcrb with waitingForAckQ := fcrb.waitingForAckQ++[⟨ctrlWord,segment⟩]},⟨ctrlWord,segment⟩)

/-- An SREJ whose P bit is clear: its `req_seq` acknowledges nothing. -/
def isSrejWithoutPoll (ctrlWord : ℕ) : Bool :=
  hasBit ctrlWord l2capFcrSFrameBit && supOf ctrlWord=l2capFcrSupSrej && !hasBit ctrlWord l2capFcrPBit

/-- `(req_seq - last_rx_ack) & L2CAP_FCR_SEQ_MODULO`, in `int` as C computes it. -/
def numBufsAcked (reqSeq lastRxAck : ℕ) : ℕ := (((reqSeq : ℤ)-lastRxAck)%64).toNat

/-- `process_reqseq`: `none` when the `req_seq` is out of range and the channel
is disconnected. -/
def processReqseq (fcrb : Fcrb) (ctrlWord : ℕ) : Option Fcrb :=
  if isSrejWithoutPoll ctrlWord then some fcrb
  else
    let reqSeq := reqSeqOf ctrlWord
    let acked := numBufsAcked reqSeq fcrb.lastRxAck
    if fcrb.waitingForAckQ.length<acked then none
    else some {fcrb with
      lastRxAck := reqSeq
      waitingForAckQ := fcrb.waitingForAckQ.drop acked
      numTries := if acked≠0 then 0 else fcrb.numTries}

/-- `retransmit_i_frames`: `none` when the retries are exhausted and the channel
is disconnected. One frame, found by its `tx_seq`, or every frame waiting for
an acknowledgement replacing `retrans_q`, is copied for sending again. -/
def retransmitIFrames (peer : PeerFcr) (fcrb : Fcrb) (txSeq : ℕ) : Option Fcrb :=
  if fcrb.waitingForAckQ≠[] ∧ peer.maxTransmit≠0 ∧ peer.maxTransmit ≤ fcrb.numTries then none
  else
    let retransQ :=
      if txSeq≠l2cFcrRetxAllPkts then
        match fcrb.waitingForAckQ.find? fun frame => txSeqOf frame.ctrlWord=txSeq with
        | some frame => fcrb.retransQ++[frame]
        | none => fcrb.retransQ
      else fcrb.waitingForAckQ
    some {fcrb with
      retransQ := retransQ
      numTries := if fcrb.waitingForAckQ≠[] then fcrb.numTries+1 else fcrb.numTries}

/-- `process_s_frame`, for its effect on the sender: RR clears a busy peer and
retransmits on the F bit or after busy, REJ retransmits everything, RNR marks
the peer busy, SREJ retransmits the one frame it names. An owed F bit then goes
out in an S-frame. -/
def processSFrame (peer : PeerFcr) (fcrb : Fcrb) (ctrlWord : ℕ) : Option Fcrb :=
  let fcrb := if hasBit ctrlWord l2capFcrPBit then {fcrb with sendFRsp := true} else fcrb
  let allOk := match supOf ctrlWord with
    | 0 =>
      let wasBusy := fcrb.remoteBusy
      let fcrb := {fcrb with remoteBusy := false}
      if hasBit ctrlWord l2capFcrFBit || wasBusy then retransmitIFrames peer fcrb l2cFcrRetxAllPkts
      else some fcrb
    | 1 => retransmitIFrames peer {fcrb with remoteBusy := false} l2cFcrRetxAllPkts
    | 2 => some {fcrb with remoteBusy := true}
    | _ => retransmitIFrames peer {fcrb with remoteBusy := false} (reqSeqOf ctrlWord)
  allOk.map fun fcrb => {fcrb with sendFRsp := false}

/-- The poll/final handshake of `l2c_fcr_proc_pdu`: while a poll is outstanding
a frame without the F bit is dropped (`none`; a polled S-frame is answered,
which the sender's state does not record), and one with it ends the wait and
loses an S-frame's P bit; otherwise the F bit is ignored. -/
def pollFinal (fcrb : Fcrb) (ctrlWord : ℕ) : Option (Fcrb×ℕ) :=
  if fcrb.waitAck then
    if !hasBit ctrlWord l2capFcrFBit then none
    else
      some ({fcrb with waitAck := false,numTries := if fcrb.waitingForAckQ=[] then 0 else fcrb.numTries},
        if hasBit ctrlWord l2capFcrSFrameBit then ctrlWord &&& (0xFFFF ^^^ l2capFcrPBit) else ctrlWord)
  else some (fcrb,ctrlWord &&& (0xFFFF ^^^ l2capFcrFBit))

/-- `l2c_fcr_proc_pdu` on an ERTM channel, for a frame that passed the length and
FCS checks, as far as the sender is concerned: the poll/final handshake, then
`process_reqseq`, then the S-frame, or the retransmission that an I-frame with
the F bit asks for. -/
def procPdu (peer : PeerFcr) (fcrb : Fcrb) (ctrlWord : ℕ) : Option Fcrb :=
  match pollFinal fcrb ctrlWord with
  | none => some fcrb
  | some (fcrb,ctrlWord) => do
    let fcrb ← processReqseq fcrb ctrlWord
    if hasBit ctrlWord l2capFcrSFrameBit then processSFrame peer fcrb ctrlWord
    else if hasBit ctrlWord l2capFcrFBit then retransmitIFrames peer fcrb l2cFcrRetxAllPkts
    else some fcrb

/-- `l2c_fcr_proc_tout`: one more try, or the channel is disconnected; the poll it
sends (unless a REJ or SREJ is outstanding) starts a wait for the final bit. -/
def procTout (peer : PeerFcr) (fcrb : Fcrb) (poll : Bool) : Option Fcrb :=
  let numTries := fcrb.numTries+1
  if peer.maxTransmit≠0 ∧ peer.maxTransmit<numTries then none
  else some {fcrb with numTries := numTries,waitAck := fcrb.waitAck || poll}

/-- The events of an ERTM sender. -/
inductive SenderEvent where
  /-- `l2cu_get_next_buffer_to_send` asks for a frame; a new segment has the
  given `layer_specific`. -/
  | transmit (segment : ℕ)
  /-- A frame arrives with this control word, and passes the length and FCS checks. -/
  | receive (ctrlWord : ℕ)
  /-- The retransmission or monitor timer expires; `poll` says whether a poll goes out. -/
  | timeout (poll : Bool)
  deriving DecidableEq, Repr

/-- The channel was disconnected. -/
inductive Disconnected where
  | disconnected
  deriving DecidableEq, Repr

/-- One step of the sender; its output is the frame sent, if any. -/
def senderStep (peer : PeerFcr) (fcrb : Fcrb) : SenderEvent → Except Disconnected (Fcrb×List HeldFrame)
  | .transmit segment =>
    -- a closed window is not asked for new frames
    if fcrb.retransQ=[] ∧ isFlowControlled peer fcrb then .ok (fcrb,[])
    else
      let (fcrb,frame) := getNextXmitSduSeg fcrb segment
      .ok (fcrb,[frame])
  | .receive ctrlWord =>
    match procPdu peer fcrb ctrlWord with
    | some fcrb => .ok (fcrb,[])
    | none => .error .disconnected
  | .timeout poll =>
    match procTout peer fcrb poll with
    | some fcrb => .ok (fcrb,[])
    | none => .error .disconnected

/-- A channel just opened: nothing sent, nothing acknowledged. -/
def initialFcrb : Fcrb := ⟨0,0,0,false,false,false,0,[],[]⟩

/-! ### What each step does to the window -/

/-- The part of the sender's state that the window is made of. -/
def Fcrb.window (fcrb : Fcrb) : ℕ×ℕ×List HeldFrame :=
  (fcrb.nextTxSeq,fcrb.lastRxAck,fcrb.waitingForAckQ)

theorem seqModulo_succ (n : ℕ) : (n+1) &&& l2capFcrSeqModulo=(n+1)%64 :=
  Nat.and_two_pow_sub_one_eq_mod (n+1) 6

theorem prepareIFrame_fst (mode : FcrMode) (fcrb : Fcrb) (frame : HeldFrame) (isRetransmission : Bool) :
    (prepareIFrame mode fcrb frame isRetransmission).1=
      if isRetransmission then {fcrb with sendFRsp := false}
      else {fcrb with sendFRsp := false,nextTxSeq := (fcrb.nextTxSeq+1)%64} := by
  cases isRetransmission <;> simp [prepareIFrame,seqModulo_succ]

/-- A retransmitted frame keeps its `tx_seq`. -/
theorem txSeqOf_prepareIFrame_retransmission (mode : FcrMode) (fcrb : Fcrb) (frame : HeldFrame) :
    txSeqOf (prepareIFrame mode fcrb frame true).2=txSeqOf frame.ctrlWord := by
  have h := txSeqOf_final_reqSeq (frame.ctrlWord &&& (0xFFFF ^^^ (l2capFcrReqSeqBits+l2capFcrFBit)))
    fcrb.nextSeqExpected fcrb.sendFRsp (decide (mode=.ertm))
  simp only [decide_eq_true_eq] at h
  simp only [prepareIFrame,if_true]
  rw [h,txSeqOf_clear_reqSeq_fBit]

/-- A new frame is numbered `next_tx_seq`. -/
theorem txSeqOf_prepareIFrame_new (mode : FcrMode) (fcrb : Fcrb) (frame : HeldFrame)
    (hn : fcrb.nextTxSeq < 64) : txSeqOf (prepareIFrame mode fcrb frame false).2=fcrb.nextTxSeq := by
  have h := txSeqOf_final_reqSeq ((frame.layerSpecific &&& l2capFcrSegBits) |||
    (fcrb.nextTxSeq <<< l2capFcrTxSeqBitsShift)) fcrb.nextSeqExpected fcrb.sendFRsp (decide (mode=.ertm))
  simp only [decide_eq_true_eq] at h
  simp only [prepareIFrame,Bool.false_eq_true,if_false]
  rw [h,txSeqOf_segBits_or hn]

/-! ### The control word of a new frame -/

/-- An I-frame's control word from its fields: the SAR bits, `tx_seq`, the F bit and `req_seq`. -/
def iFrameWord (sar txSeq : ℕ) (fBit : Bool) (reqSeq : ℕ) : ℕ :=
  sar ||| (txSeq <<< l2capFcrTxSeqBitsShift) ||| (if fBit then l2capFcrFBit else 0) |||
    (reqSeq <<< l2capFcrReqSeqBitsShift)

theorem testBit_iFrameWord (sar txSeq reqSeq i : ℕ) (fBit : Bool) :
    (iFrameWord sar txSeq fBit reqSeq).testBit i=
      (sar.testBit i || (decide (1 ≤ i) && txSeq.testBit (i-1)) || (fBit && decide (i=7)) ||
        (decide (8 ≤ i) && reqSeq.testBit (i-8))) := by
  have hf : l2capFcrFBit.testBit i=decide (i=7) := by
    rw [show l2capFcrFBit=2^7 by rfl,Nat.testBit_two_pow]
    simp only [decide_eq_decide]
    exact eq_comm
  cases fBit <;> simp [iFrameWord,Nat.testBit_or,Nat.testBit_shiftLeft,hf,l2capFcrTxSeqBitsShift,
    l2capFcrReqSeqBitsShift]

/-- Two words agree under a mask when they agree on its bits. -/
theorem and_eq_and_of_testBit {a b mask : ℕ} (h : ∀ i,mask.testBit i=true → a.testBit i=b.testBit i) :
    a &&& mask=b &&& mask := by
  apply Nat.eq_of_testBit_eq
  intro i
  rw [Nat.testBit_and,Nat.testBit_and]
  cases hm : mask.testBit i
  · simp only [Bool.and_false]
  · rw [h i hm]

/-- The words whose only bits are SAR bits. -/
def IsSarBits (sar : ℕ) : Prop := sar &&& l2capFcrSegBits=sar

theorem IsSarBits.testBit_eq_false {sar i : ℕ} (h : IsSarBits sar) (hi : i < 14) : sar.testBit i=false := by
  rw [← h,Nat.testBit_and]
  have hseg : l2capFcrSegBits.testBit i=false := by
    simp only [l2capFcrSegBits]; interval_cases i <;> decide
  rw [hseg,Bool.and_false]

theorem IsSarBits.lt {sar : ℕ} (h : IsSarBits sar) : sar < 2^16 := by
  rw [← h]
  exact lt_of_le_of_lt Nat.and_le_right (by decide)

section fields

variable {sar txSeq reqSeq : ℕ} {fBit : Bool}

theorem txSeqOf_iFrameWord (hs : IsSarBits sar) (ht : txSeq < 64) :
    txSeqOf (iFrameWord sar txSeq fBit reqSeq)=txSeq := by
  apply Nat.eq_of_testBit_eq
  intro j
  simp only [txSeqOf,Nat.testBit_shiftRight,Nat.testBit_and,testBit_iFrameWord,l2capFcrTxSeqBitsShift]
  by_cases hj : j ≤ 5
  · have hmask : l2capFcrTxSeqBits.testBit (1+j)=true := by
      simp only [l2capFcrTxSeqBits]; interval_cases j <;> decide
    rw [hmask,hs.testBit_eq_false (by omega)]
    simp [show 1+j-1=j by omega,show ¬1+j=7 by omega,show ¬8 ≤ 1+j by omega]
  · rw [testBit_lt_two_pow_le (show l2capFcrTxSeqBits < 2^7 by decide) (show 7 ≤ 1+j by omega),
      testBit_lt_two_pow_le (show txSeq < 2^6 by omega) (show 6 ≤ j by omega)]
    simp

theorem reqSeqOf_iFrameWord (hs : IsSarBits sar) (ht : txSeq < 64) (hr : reqSeq < 64) :
    reqSeqOf (iFrameWord sar txSeq fBit reqSeq)=reqSeq := by
  apply Nat.eq_of_testBit_eq
  intro j
  simp only [reqSeqOf,Nat.testBit_shiftRight,Nat.testBit_and,testBit_iFrameWord,l2capFcrReqSeqBitsShift]
  by_cases hj : j ≤ 5
  · have hmask : l2capFcrReqSeqBits.testBit (8+j)=true := by
      simp only [l2capFcrReqSeqBits]; interval_cases j <;> decide
    rw [hmask,hs.testBit_eq_false (by omega),testBit_lt_two_pow_le (show txSeq < 2^6 by omega)
      (show 6 ≤ 8+j-1 by omega)]
    simp [show 8+j-8=j by omega,show ¬8+j=7 by omega]
  · rw [testBit_lt_two_pow_le (show reqSeq < 2^6 by omega) (show 6 ≤ j by omega)]
    have hmask : l2capFcrReqSeqBits.testBit (8+j)=false :=
      testBit_lt_two_pow_le (show l2capFcrReqSeqBits < 2^14 by decide) (by omega)
    simp [hmask]

theorem segBits_iFrameWord (hs : IsSarBits sar) (ht : txSeq < 64) (hr : reqSeq < 64) :
    iFrameWord sar txSeq fBit reqSeq &&& l2capFcrSegBits=sar := by
  conv_rhs => rw [← hs]
  apply and_eq_and_of_testBit
  intro i hi
  have h14 : 14 ≤ i := by
    by_contra h
    have hseg : l2capFcrSegBits.testBit i=false := by
      simp only [l2capFcrSegBits]; interval_cases i <;> decide
    rw [hseg] at hi
    exact Bool.false_ne_true hi
  rw [testBit_iFrameWord,testBit_lt_two_pow_le (show txSeq < 2^6 by omega) (show 6 ≤ i-1 by omega),
    testBit_lt_two_pow_le (show reqSeq < 2^6 by omega) (show 6 ≤ i-8 by omega)]
  simp [show ¬i=7 by omega]

theorem hasBit_sFrameBit_iFrameWord (hs : IsSarBits sar) :
    hasBit (iFrameWord sar txSeq fBit reqSeq) l2capFcrSFrameBit=false := by
  have h0 : (iFrameWord sar txSeq fBit reqSeq).testBit 0=false := by
    rw [testBit_iFrameWord,hs.testBit_eq_false (by omega)]
    simp
  simp only [hasBit,l2capFcrSFrameBit,Nat.and_one_is_mod,ne_eq,decide_eq_false_iff_not,not_not]
  rw [Nat.testBit_zero] at h0
  simpa using h0

theorem hasBit_fBit_iFrameWord (hs : IsSarBits sar) (ht : txSeq < 64) :
    hasBit (iFrameWord sar txSeq fBit reqSeq) l2capFcrFBit=fBit := by
  have hand : iFrameWord sar txSeq fBit reqSeq &&& l2capFcrFBit=if fBit then l2capFcrFBit else 0 := by
    apply Nat.eq_of_testBit_eq
    intro i
    have hf : l2capFcrFBit.testBit i=decide (i=7) := by
      rw [show l2capFcrFBit=2^7 by rfl,Nat.testBit_two_pow]
      simp only [decide_eq_decide]
      exact eq_comm
    rw [Nat.testBit_and,hf,testBit_iFrameWord]
    by_cases hi : i=7
    · subst hi
      rw [hs.testBit_eq_false (by omega),testBit_lt_two_pow_le (show txSeq < 2^6 by omega) (by omega)]
      cases fBit <;> simp [hf]
    · cases fBit <;> simp [hi,hf]
  simp only [hasBit,hand]
  cases fBit <;> simp [l2capFcrFBit]

/-- Ignoring the F bit, as `l2c_fcr_proc_pdu` does outside a poll, clears just that field. -/
theorem iFrameWord_clear_fBit (hs : IsSarBits sar) (ht : txSeq < 64) (hr : reqSeq < 64) :
    iFrameWord sar txSeq fBit reqSeq &&& (0xFFFF ^^^ l2capFcrFBit)=iFrameWord sar txSeq false reqSeq := by
  apply Nat.eq_of_testBit_eq
  intro i
  rw [Nat.testBit_and,testBit_iFrameWord,testBit_iFrameWord]
  by_cases hi : i < 16
  · have hmask : Nat.testBit (0xFFFF ^^^ l2capFcrFBit) i=!decide (i=7) := by
      simp only [l2capFcrFBit]; interval_cases i <;> decide
    rw [hmask]
    by_cases h7 : i=7
    · subst h7
      rw [hs.testBit_eq_false (by omega),testBit_lt_two_pow_le (show txSeq < 2^6 by omega) (by omega)]
      simp
    · simp [h7]
  · rw [testBit_lt_two_pow_le (show (0xFFFF ^^^ l2capFcrFBit) < 2^16 by decide) (by omega),
      testBit_lt_two_pow_le hs.lt (by omega),testBit_lt_two_pow_le (show txSeq < 2^6 by omega) (by omega),
      testBit_lt_two_pow_le (show reqSeq < 2^6 by omega) (by omega)]
    simp [show ¬i=7 by omega]

theorem iFrameWord_lt (hs : IsSarBits sar) (ht : txSeq < 64) (hr : reqSeq < 64) :
    iFrameWord sar txSeq fBit reqSeq < 65536 := by
  show _ < 2^16
  apply Nat.lt_pow_two_of_testBit
  intro i hi
  rw [testBit_iFrameWord,testBit_lt_two_pow_le hs.lt hi,testBit_lt_two_pow_le (show txSeq < 2^6 by omega) (by omega),
    testBit_lt_two_pow_le (show reqSeq < 2^6 by omega) (by omega)]
  simp [show ¬i=7 by omega]

end fields

theorem isSarBits_and_segBits (word : ℕ) : IsSarBits (word &&& l2capFcrSegBits) := by
  rw [IsSarBits,Nat.and_assoc,Nat.and_self]

/-- The control word of a new frame, field by field. -/
theorem prepareIFrame_new_snd (mode : FcrMode) (fcrb : Fcrb) (frame : HeldFrame)
    (hn : fcrb.nextTxSeq < 64) (hr : fcrb.nextSeqExpected < 64) :
    (prepareIFrame mode fcrb frame false).2=
      iFrameWord (frame.layerSpecific &&& l2capFcrSegBits) fcrb.nextTxSeq (decide (mode=.ertm) && fcrb.sendFRsp)
        (if mode=.ertm then fcrb.nextSeqExpected else 0) := by
  have hr' : (if mode=.ertm then fcrb.nextSeqExpected else 0) < 64 := by split <;> omega
  rw [← Nat.mod_eq_of_lt (iFrameWord_lt (isSarBits_and_segBits frame.layerSpecific) hn hr')]
  cases mode <;> cases hf : fcrb.sendFRsp <;> simp [prepareIFrame,iFrameWord,hf,Nat.or_assoc]


/-- `retransmit_i_frames` touches only `retrans_q` and `num_tries`. -/
theorem retransmitIFrames_eq_some {peer : PeerFcr} {fcrb fcrb' : Fcrb} {txSeq : ℕ}
    (h : retransmitIFrames peer fcrb txSeq=some fcrb') :
    ∃ retransQ numTries,fcrb'={fcrb with retransQ := retransQ,numTries := numTries} := by
  unfold retransmitIFrames at h
  split at h
  · cases h
  · exact ⟨_,_,(Option.some.inj h).symm⟩

theorem retransmitIFrames_window {peer : PeerFcr} {fcrb fcrb' : Fcrb} {txSeq : ℕ}
    (h : retransmitIFrames peer fcrb txSeq=some fcrb') : fcrb'.window=fcrb.window := by
  obtain ⟨_,_,rfl⟩ := retransmitIFrames_eq_some h
  rfl

theorem processSFrame_window {peer : PeerFcr} {fcrb fcrb' : Fcrb} {ctrlWord : ℕ}
    (h : processSFrame peer fcrb ctrlWord=some fcrb') : fcrb'.window=fcrb.window := by
  unfold processSFrame at h
  generalize hpoll : (if hasBit ctrlWord l2capFcrPBit then {fcrb with sendFRsp := true} else fcrb)=polled at h
  have hpolled : polled.window=fcrb.window := by
    rw [← hpoll]
    split <;> rfl
  obtain ⟨mid,hmid,rfl⟩ := Option.map_eq_some_iff.1 h
  show mid.window=fcrb.window
  rw [← hpolled]
  split at hmid
  · dsimp only at hmid
    split at hmid
    · exact (retransmitIFrames_window hmid).trans rfl
    · cases hmid
      rfl
  · exact (retransmitIFrames_window hmid).trans rfl
  · cases hmid
    rfl
  · exact (retransmitIFrames_window hmid).trans rfl

theorem procTout_window {peer : PeerFcr} {fcrb fcrb' : Fcrb} {poll : Bool}
    (h : procTout peer fcrb poll=some fcrb') : fcrb'.window=fcrb.window := by
  unfold procTout at h
  dsimp only at h
  split at h
  · cases h
  · cases h
    rfl

/-! ### The window invariant -/

/-- The sender's window: `waiting_for_ack_q` holds the frames numbered
`last_rx_ack, …, next_tx_seq - 1` modulo 64, and no more than the peer's
window. -/
structure WindowInv (peer : PeerFcr) (fcrb : Fcrb) : Prop where
  nextTxSeq_lt : fcrb.nextTxSeq < 64
  lastRxAck_lt : fcrb.lastRxAck < 64
  length_eq : fcrb.waitingForAckQ.length=(fcrb.nextTxSeq+64-fcrb.lastRxAck)%64
  length_le : fcrb.waitingForAckQ.length ≤ peer.txWinSz
  txSeqOf_getElem : ∀ i (hi : i < fcrb.waitingForAckQ.length),
    txSeqOf fcrb.waitingForAckQ[i].ctrlWord=(fcrb.lastRxAck+i)%64

/-- Whether `seq` lies in the window `[last_rx_ack, next_tx_seq]` modulo 64. -/
def inWindow (fcrb : Fcrb) (seq : ℕ) : Bool :=
  (seq+64-fcrb.lastRxAck)%64 ≤ (fcrb.nextTxSeq+64-fcrb.lastRxAck)%64

theorem WindowInv.of_window_eq {peer : PeerFcr} {fcrb fcrb' : Fcrb} (h : WindowInv peer fcrb)
    (hw : fcrb'.window=fcrb.window) : WindowInv peer fcrb' := by
  simp only [Fcrb.window,Prod.mk.injEq] at hw
  obtain ⟨hn,hl,hq⟩ := hw
  exact ⟨hn ▸ h.nextTxSeq_lt,hl ▸ h.lastRxAck_lt,by rw [hn,hl,hq]; exact h.length_eq,
    hq ▸ h.length_le,by simpa only [hl,hq] using h.txSeqOf_getElem⟩

theorem initialFcrb_inv (peer : PeerFcr) : WindowInv peer initialFcrb :=
  ⟨by decide,by decide,rfl,Nat.zero_le _,fun _ hi => absurd hi (Nat.not_lt_zero _)⟩

/-- Modulo 64 the count of acknowledged frames is the distance from
`last_rx_ack` to `req_seq`. -/
theorem numBufsAcked_eq {reqSeq lastRxAck : ℕ} (hr : reqSeq < 64) (hl : lastRxAck < 64) :
    numBufsAcked reqSeq lastRxAck=(reqSeq+64-lastRxAck)%64 := by
  unfold numBufsAcked
  omega

/-- `process_reqseq` on a frame that acknowledges: it accepts `req_seq` when no
more frames than are waiting are acknowledged, and then releases them. -/
theorem processReqseq_of_not_srej {fcrb : Fcrb} {ctrlWord : ℕ}
    (hs : isSrejWithoutPoll ctrlWord=false) :
    processReqseq fcrb ctrlWord=
      if fcrb.waitingForAckQ.length < numBufsAcked (reqSeqOf ctrlWord) fcrb.lastRxAck then none
      else some {fcrb with
        lastRxAck := reqSeqOf ctrlWord
        waitingForAckQ := fcrb.waitingForAckQ.drop (numBufsAcked (reqSeqOf ctrlWord) fcrb.lastRxAck)
        numTries := if numBufsAcked (reqSeqOf ctrlWord) fcrb.lastRxAck≠0 then 0 else fcrb.numTries} := by
  simp only [processReqseq,hs,Bool.false_eq_true,if_false]

/-- Inside the window, `process_reqseq` accepts exactly the `req_seq` of the window. -/
theorem processReqseq_isSome_iff {peer : PeerFcr} {fcrb : Fcrb} {ctrlWord : ℕ}
    (h : WindowInv peer fcrb) (hs : isSrejWithoutPoll ctrlWord=false) :
    (processReqseq fcrb ctrlWord).isSome ↔ inWindow fcrb (reqSeqOf ctrlWord) := by
  rw [processReqseq_of_not_srej hs,numBufsAcked_eq (reqSeqOf_lt ctrlWord) h.lastRxAck_lt,h.length_eq]
  unfold inWindow
  split_ifs <;> simp <;> omega

/-- Releasing the acknowledged frames keeps the window. -/
theorem processReqseq_inv {peer : PeerFcr} {fcrb fcrb' : Fcrb} {ctrlWord : ℕ}
    (h : WindowInv peer fcrb) (hp : processReqseq fcrb ctrlWord=some fcrb') : WindowInv peer fcrb' := by
  cases hs : isSrejWithoutPoll ctrlWord
  case true =>
    simp only [processReqseq,hs,if_true,Option.some.injEq] at hp
    exact hp ▸ h
  case false =>
    rw [processReqseq_of_not_srej hs] at hp
    split at hp
    · cases hp
    injection hp with hp
    subst hp
    have hr := reqSeqOf_lt ctrlWord
    have hacked := numBufsAcked_eq hr h.lastRxAck_lt
    have hn := h.nextTxSeq_lt
    have hl := h.lastRxAck_lt
    have hlen' := h.length_eq
    refine ⟨hn,hr,?_,?_,?_⟩
    · simp only [List.length_drop]
      omega
    · simp only [List.length_drop]
      exact le_trans (Nat.sub_le _ _) h.length_le
    · intro i hi
      simp only [List.length_drop] at hi
      simp only [List.getElem_drop]
      rw [h.txSeqOf_getElem _ (by omega)]
      omega

/-- The poll/final handshake leaves the window alone. -/
theorem pollFinal_window {fcrb fcrb' : Fcrb} {ctrlWord ctrlWord' : ℕ}
    (h : pollFinal fcrb ctrlWord=some (fcrb',ctrlWord')) : fcrb'.window=fcrb.window := by
  unfold pollFinal at h
  split_ifs at h
  all_goals simp only [Option.some.injEq,Prod.mk.injEq] at h
  all_goals obtain ⟨rfl,-⟩ := h
  all_goals rfl

theorem procPdu_inv {peer : PeerFcr} {fcrb fcrb' : Fcrb} {ctrlWord : ℕ}
    (h : WindowInv peer fcrb) (hp : procPdu peer fcrb ctrlWord=some fcrb') : WindowInv peer fcrb' := by
  unfold procPdu at hp
  split at hp
  · exact Option.some.inj hp ▸ h
  · next fcrb1 ctrlWord1 hpf =>
    obtain ⟨mid,hmid,hrest⟩ := Option.bind_eq_some_iff.1 hp
    have hmidInv : WindowInv peer mid := processReqseq_inv (h.of_window_eq (pollFinal_window hpf)) hmid
    -- then the S-frame, an I-frame's retransmission, or nothing
    split_ifs at hrest
    all_goals first
      | exact hmidInv.of_window_eq (processSFrame_window hrest)
      | exact hmidInv.of_window_eq (retransmitIFrames_window hrest)
      | exact Option.some.inj hrest ▸ hmidInv

/-- A new frame, numbered `next_tx_seq` and sent while the window is open,
extends the window by one. -/
theorem WindowInv.push {peer : PeerFcr} {fcrb : Fcrb} {frame : HeldFrame} (h : WindowInv peer fcrb)
    (hopen : fcrb.waitingForAckQ.length < peer.txWinSz) (hseq : txSeqOf frame.ctrlWord=fcrb.nextTxSeq) :
    WindowInv peer {fcrb with
      nextTxSeq := (fcrb.nextTxSeq+1)%64
      waitingForAckQ := fcrb.waitingForAckQ++[frame]} := by
  have hn := h.nextTxSeq_lt
  have hl := h.lastRxAck_lt
  have hlen := h.length_eq
  have hwin := peer.txWinSz_le
  refine ⟨Nat.mod_lt _ (by norm_num),hl,?_,?_,?_⟩
  · simp only [List.length_append,List.length_singleton]
    omega
  · simp only [List.length_append,List.length_singleton]
    omega
  · intro i hi
    simp only [List.length_append,List.length_singleton] at hi
    rcases Nat.lt_or_ge i fcrb.waitingForAckQ.length with hold | hnew
    · rw [List.getElem_append_left hold]
      exact h.txSeqOf_getElem i hold
    · -- the new frame is the last one
      rw [List.getElem_append_right hnew]
      simp only [List.getElem_singleton]
      rw [hseq]
      omega

/-- `l2c_fcr_get_next_xmit_sdu_seg` keeps the window, when it is called as
`l2cu_get_next_buffer_to_send` calls it: with frames to retransmit, or while
the window is open. -/
theorem getNextXmitSduSeg_inv {peer : PeerFcr} {fcrb : Fcrb} {segment : ℕ} (h : WindowInv peer fcrb)
    (hcall : fcrb.retransQ≠[] ∨ isFlowControlled peer fcrb=false) :
    WindowInv peer (getNextXmitSduSeg fcrb segment).1 := by
  unfold getNextXmitSduSeg
  split
  · -- a retransmission only rewrites `req_seq` and the F bit
    apply h.of_window_eq
    simp only [prepareIFrame_fst,if_true]
    rfl
  · next hq =>
    have hopen : fcrb.waitingForAckQ.length < peer.txWinSz := by
      have hfc := hcall.resolve_left (by simp [hq])
      simp only [isFlowControlled,Bool.or_eq_false_iff,decide_eq_false_iff_not,not_le] at hfc
      exact hfc.2
    have hseq := txSeqOf_prepareIFrame_new .ertm fcrb ⟨0,segment⟩ h.nextTxSeq_lt
    have hfst := prepareIFrame_fst .ertm fcrb ⟨0,segment⟩ false
    generalize prepareIFrame .ertm fcrb ⟨0,segment⟩ false=prepared at hseq hfst
    obtain ⟨fcrb1,ctrlWord⟩ := prepared
    simp only [Bool.false_eq_true,if_false] at hfst
    subst hfst
    exact (@WindowInv.push peer fcrb ⟨ctrlWord,segment⟩ h hopen hseq).of_window_eq rfl

/-- Every step of the sender keeps the window. -/
theorem senderStep_inv {peer : PeerFcr} {fcrb fcrb' : Fcrb} {event : SenderEvent} {out : List HeldFrame}
    (h : WindowInv peer fcrb) (hs : senderStep peer fcrb event=.ok (fcrb',out)) : WindowInv peer fcrb' := by
  cases event with
  | transmit segment =>
    simp only [senderStep] at hs
    split_ifs at hs with hclosed
    · cases hs
      exact h
    · have hcall : fcrb.retransQ≠[] ∨ isFlowControlled peer fcrb=false := by
        by_cases hq : fcrb.retransQ=[]
        · exact .inr (by simpa [hq] using hclosed)
        · exact .inl hq
      have hinv := @getNextXmitSduSeg_inv peer fcrb segment h hcall
      obtain ⟨fcrb1,frame⟩ := getNextXmitSduSeg fcrb segment
      cases hs
      exact hinv
  | receive ctrlWord =>
    simp only [senderStep] at hs
    split at hs
    · next fcrb1 hp =>
      cases hs
      exact procPdu_inv h hp
    · cases hs
  | timeout poll =>
    simp only [senderStep] at hs
    split at hs
    · next fcrb1 hp =>
      cases hs
      exact h.of_window_eq (procTout_window hp)
    · cases hs

/-- Over every run of the sender the window invariant holds. -/
theorem runSteps_senderStep_inv {peer : PeerFcr} {fcrb fcrb' : Fcrb} {events : List SenderEvent}
    {out : List HeldFrame} (h : WindowInv peer fcrb) (hrun : runSteps (senderStep peer) fcrb events=.ok (fcrb',out)) :
    WindowInv peer fcrb' :=
  runSteps_invariant (fun _ _ _ _ hs hstep => senderStep_inv hs hstep) h hrun

/-- A frame taken from `retrans_q` goes out with the `tx_seq` it was queued with. -/
theorem getNextXmitSduSeg_retransmission {fcrb : Fcrb} {frame : HeldFrame} {rest : List HeldFrame}
    (hq : fcrb.retransQ=frame::rest) (segment : ℕ) :
    txSeqOf (getNextXmitSduSeg fcrb segment).2.ctrlWord=txSeqOf frame.ctrlWord := by
  unfold getNextXmitSduSeg
  rw [hq]
  exact txSeqOf_prepareIFrame_retransmission .ertm _ frame

/-! ### The window over every run -/

/-- A peer with a window of eight frames and three tries. -/
def windowEightPeer : PeerFcr := ⟨8,3,by decide,by decide⟩

/-- Two segments of one SDU sent, a REJ for the second, and its retransmission. -/
def rejectAndResend : List SenderEvent := [.transmit 0x4000,.transmit 0x8000,.receive 0x0105,.transmit 0]

/-- The sender after `rejectAndResend`: the START frame acknowledged, the END frame
waiting, sent twice. -/
def afterReject : Fcrb := ⟨2,1,0,false,false,false,1,[⟨0x8002,0x8000⟩],[]⟩

/-- What `rejectAndResend` sends. -/
def sentAfterReject : List HeldFrame := [⟨0x4000,0x4000⟩,⟨0x8002,0x8000⟩,⟨0x8002,0x8000⟩]

/-- An SREJ with `req_seq` 5 and the P bit clear. -/
def srejFiveWithoutPoll : ℕ := 0x050D

theorem ertm_sender_window (peer : PeerFcr) (events : List SenderEvent) (fcrb : Fcrb) (out : List HeldFrame)
    (hrun : runSteps (senderStep peer) initialFcrb events=.ok (fcrb,out)) :
    WindowInv peer fcrb ∧
      (∀ ctrlWord,isSrejWithoutPoll ctrlWord=false →
        ((processReqseq fcrb ctrlWord).isSome ↔ inWindow fcrb (reqSeqOf ctrlWord)) ∧
        ∀ fcrb',processReqseq fcrb ctrlWord=some fcrb' →
          fcrb'.waitingForAckQ=fcrb.waitingForAckQ.drop ((reqSeqOf ctrlWord+64-fcrb.lastRxAck)%64)) ∧
      (∀ frame rest segment,fcrb.retransQ=frame::rest →
        txSeqOf (getNextXmitSduSeg fcrb segment).2.ctrlWord=txSeqOf frame.ctrlWord) := by
  have h := runSteps_senderStep_inv (initialFcrb_inv peer) hrun
  refine ⟨h,fun ctrlWord hs => ⟨processReqseq_isSome_iff h hs,fun fcrb' hp => ?_⟩,
    fun frame rest segment hq => getNextXmitSduSeg_retransmission hq segment⟩
  rw [processReqseq_of_not_srej hs] at hp
  split at hp
  · cases hp
  · cases hp
    rw [numBufsAcked_eq (reqSeqOf_lt ctrlWord) h.lastRxAck_lt]

theorem ertm_sender_window_after_reject :
    runSteps (senderStep windowEightPeer) initialFcrb rejectAndResend=.ok (afterReject,sentAfterReject) ∧
      WindowInv windowEightPeer afterReject ∧
      (∀ ctrlWord,isSrejWithoutPoll ctrlWord=false →
        ((processReqseq afterReject ctrlWord).isSome ↔ inWindow afterReject (reqSeqOf ctrlWord)) ∧
        ∀ fcrb',processReqseq afterReject ctrlWord=some fcrb' →
          fcrb'.waitingForAckQ=afterReject.waitingForAckQ.drop ((reqSeqOf ctrlWord+64-afterReject.lastRxAck)%64)) ∧
      (∀ frame rest segment,afterReject.retransQ=frame::rest →
        txSeqOf (getNextXmitSduSeg afterReject segment).2.ctrlWord=txSeqOf frame.ctrlWord) :=
  have hrun : runSteps (senderStep windowEightPeer) initialFcrb rejectAndResend=.ok (afterReject,sentAfterReject) := by
    decide
  ⟨hrun,ertm_sender_window windowEightPeer rejectAndResend afterReject sentAfterReject hrun⟩

/-- An SREJ without the P bit is accepted on an empty window although its
`req_seq` lies outside it: `process_reqseq` returns before checking. -/
theorem srej_without_poll_accepted_outside_window :
    runSteps (senderStep windowEightPeer) initialFcrb [.receive srejFiveWithoutPoll]=.ok (initialFcrb,[]) ∧
      inWindow initialFcrb (reqSeqOf srejFiveWithoutPoll)=false ∧
      processReqseq initialFcrb srejFiveWithoutPoll=some initialFcrb :=
  ⟨by decide,by decide,by decide⟩

end BluetoothStack.L2capErtm
