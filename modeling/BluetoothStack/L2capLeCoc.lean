import BluetoothStack.L2capSar

/-!
# Segmentation and reassembly on LE credit-based channels (stack/l2cap/l2c_fcr.cc)

`l2c_lcc_get_next_xmit_sdu_seg` cuts the SDU at the head of `xmit_hold_q` into
K-frames whose information payload is at most the peer's MPS less the basic
header: the first carries the 2-byte SDU length and `max_pdu - 2` data bytes,
the later ones `max_pdu` bytes. `l2c_lcc_proc_pdu` takes each K-frame of the
channel after `l2c_rcv_acl_data` has removed its basic header: the payload must
fit the local MPS, a first segment's SDU length must be within the local MTU and
cover the data it carries, and a later segment must fit in what is left of the
SDU, or everything pending is thrown away and the channel disconnected.

Every SDU within the receiver's MTU comes out once and unchanged when the
receiver's MPS is at least the peer's; under arbitrary K-frames the SDU buffer
is never overrun and every SDU handed up has the length its first segment
announced.
-/

namespace BluetoothStack.L2capLeCoc

open ByteBuffer StepRun L2capSar

/-- `L2CAP_LCC_SDU_LENGTH`: the SDU length field of a first K-frame. -/
def l2capLccSduLength : ℕ := 2

/-! ### Sending an SDU -/

/-- The SDU at the head of `xmit_hold_q`: its bytes from `offset` on, a
`uint16_t` count, and whether its first K-frame has gone (`event != 0`). -/
structure LccSdu where
  /-- The bytes still to send. -/
  data : List UInt8
  /-- `p_buf->event != 0`. -/
  started : Bool
  data_length_lt : data.length < 65536

/-- `max_pdu`: the peer's MPS less the length and CID, stored in a `uint16_t`. -/
def lccMaxPdu (peerMps : ℕ) : ℕ := toUint16 ((peerMps : ℤ)-l2capPktOverhead)

/-- `no_of_bytes_to_send`: what is left of the SDU, at most the frame's data
budget, which on a first K-frame leaves room for the SDU length. -/
def noOfBytesToSend (maxPdu : ℕ) (sdu : LccSdu) : ℕ :=
  min sdu.data.length (toUint16 (if !sdu.started then (maxPdu : ℤ)-l2capLccSduLength else maxPdu))

/-- `l2c_lcc_get_next_xmit_sdu_seg`: the next K-frame, basic header first, and
what is left of the SDU, `none` once `last_piece_of_sdu` has dequeued it. -/
def lccGetNextXmitSduSeg (peerMps remoteCid : ℕ) (sdu : LccSdu) : List UInt8×Option LccSdu :=
  let n := noOfBytesToSend (lccMaxPdu peerMps) sdu
  -- the SDU length is written from `p_buf->len` before the first piece is removed
  let info := (if !sdu.started then encodeLE 2 sdu.data.length else [])++sdu.data.take n
  (encodeLE 2 info.length++encodeLE 2 remoteCid++info,
    if n=sdu.data.length then none
    else some ⟨sdu.data.drop n,true,lt_of_le_of_lt (by simp) sdu.data_length_lt⟩)

/-- The K-frames sent for one SDU: `l2c_lcc_get_next_xmit_sdu_seg` called until
the SDU leaves `xmit_hold_q`, at most `fuel` times. -/
def lccXmitSdu (peerMps remoteCid : ℕ) : ℕ → LccSdu → List (List UInt8)
  | 0,_ => []
  | fuel+1,sdu =>
    match lccGetNextXmitSduSeg peerMps remoteCid sdu with
    | (frame,none) => [frame]
    | (frame,some rest) => frame::lccXmitSdu peerMps remoteCid fuel rest

/-! ### Receiving -/

/-- The LE receive state of a channel. -/
structure LccRx where
  /-- `is_first_seg`: the next K-frame starts an SDU. -/
  isFirstSeg : Bool
  /-- `ble_sdu`: the SDU being rebuilt, allocated for `ble_sdu_length` bytes. -/
  bleSdu : Option RxSdu
  /-- `ble_sdu_length`. -/
  bleSduLength : ℕ
  deriving DecidableEq,Repr

/-- `local_conn_cfg`: the MTU and MPS this side announced, both `uint16_t`. -/
structure LocalConnCfg where
  mtu : ℕ
  mps : ℕ
  mtu_lt : mtu < 65536
  mps_lt : mps < 65536

/-- What `l2c_lcc_proc_pdu` passes on. -/
inductive LccOut where
  /-- `l2c_csm_execute(p_ccb, L2CEVT_L2CAP_DATA, p_data)`: a whole SDU for the upper layer. -/
  | data (sdu : List UInt8)
  /-- `l2cu_disconnect_chnl`. -/
  | disconnect
  deriving DecidableEq,Repr

/-- The receive state once an SDU is handed up or thrown away. -/
def idleRx : LccRx := ⟨true,none,0⟩

/-- The copy of a K-frame's data behind what `p_data` holds, then the SDU handed
up once it is complete. -/
def appendData (rx : LccRx) (pData : RxSdu) (data : List UInt8) : Except Fault (LccRx×List LccOut) :=
  match writeBytes pData.buf pData.len data with
  | none => .error .outOfRange
  | some buf =>
    let pData : RxSdu := ⟨buf,pData.len+data.length⟩
    if pData.len=rx.bleSduLength then .ok (idleRx,[.data (pData.buf.take pData.len)])
    else if pData.len<rx.bleSduLength then .ok ({rx with isFirstSeg := false,bleSdu := some pData},[])
    else .ok ({rx with bleSdu := some pData},[])

/-- The first K-frame of an SDU: its SDU length must be within the MTU and cover
the data it carries; the SDU buffer is then allocated for that many bytes
(`osi_malloc` does not return NULL). -/
def firstSegment (cfg : LocalConnCfg) (rx : LccRx) (info : List UInt8) : Except Fault (LccRx×List LccOut) :=
  if info.length<l2capLccSduLength then .ok (rx,[])
  else
    let sduLength := decodeLE (info.take l2capLccSduLength)
    if cfg.mtu<sduLength then .ok (rx,[])
    else
      let data := info.drop l2capLccSduLength
      if sduLength<data.length then .ok (rx,[])
      else
        let pData : RxSdu := ⟨List.replicate sduLength 0,0⟩
        appendData {rx with bleSdu := some pData,bleSduLength := sduLength} pData data

/-- A later K-frame must fit in what is left of the SDU; otherwise the pending
fragments are thrown away and the channel disconnected. -/
def nextSegment (rx : LccRx) (info : List UInt8) : Except Fault (LccRx×List LccOut) :=
  match rx.bleSdu with
  -- `p_data->len` read through a NULL `ble_sdu`
  | none => .error .outOfRange
  | some pData =>
    -- `ble_sdu_length - p_data->len` is computed in `int`
    if (rx.bleSduLength : ℤ)-pData.len < info.length then .ok (idleRx,[.disconnect])
    else appendData rx pData info

/-- `l2c_lcc_proc_pdu`, for the information payload of a K-frame. -/
def lccProcPdu (cfg : LocalConnCfg) (rx : LccRx) (info : List UInt8) : Except Fault (LccRx×List LccOut) :=
  if cfg.mps < info.length then .ok (rx,[])
  else if rx.isFirstSeg then firstSegment cfg rx info
  else nextSegment rx info

/-! ### The SDU buffer under arbitrary K-frames -/

/-- The receiver's invariant: the next K-frame starts an SDU, or `ble_sdu` was
allocated for `ble_sdu_length ≤ mtu` bytes and holds fewer. -/
def LccRxInv (mtu : ℕ) (rx : LccRx) : Prop :=
  rx.isFirstSeg=true ∨ ∃ pData,rx.bleSdu=some pData ∧ pData.buf.length=rx.bleSduLength ∧
    pData.len < rx.bleSduLength ∧ rx.bleSduLength ≤ mtu

/-- The length a K-frame's SDU was announced with: read from a first segment,
stored from it for a later one. -/
def declaredLength (rx : LccRx) (info : List UInt8) : ℕ :=
  if rx.isFirstSeg then decodeLE (info.take l2capLccSduLength) else rx.bleSduLength

/-- What a receive step does from an invariant state: it does not fault, keeps
the invariant, and hands up only SDUs of the length `len`. -/
def LccStepOk (mtu len : ℕ) (res : Except Fault (LccRx×List LccOut)) : Prop :=
  ∃ r,res=.ok r ∧ LccRxInv mtu r.1 ∧ ∀ sdu,LccOut.data sdu ∈ r.2 → sdu.length=len

theorem lccStepOk_unchanged {mtu len : ℕ} {rx : LccRx} (h : LccRxInv mtu rx) : LccStepOk mtu len (.ok (rx,[])) :=
  ⟨_,rfl,h,by simp⟩

/-- A copy that fits the allocation stays inside it, keeps the invariant and
hands up only the full buffer. -/
theorem appendData_ok {mtu : ℕ} {rx : LccRx} {pData : RxSdu} {data : List UInt8}
    (hbuf : pData.buf.length=rx.bleSduLength) (hfit : pData.len+data.length ≤ rx.bleSduLength)
    (hmtu : rx.bleSduLength ≤ mtu) :
    LccStepOk mtu rx.bleSduLength (appendData rx pData data) := by
  obtain ⟨buf,hw⟩ : ∃ buf,writeBytes pData.buf pData.len data=some buf :=
    ⟨_,writeBytes_eq_some (hbuf ▸ hfit)⟩
  have hlen : buf.length=rx.bleSduLength := (writeBytes_length hw).1.trans hbuf
  unfold appendData
  rw [hw]
  dsimp only
  split_ifs with hfull hlt
  · -- the SDU is complete: the whole allocation is handed up
    refine ⟨_,rfl,.inl rfl,fun sdu hsdu => ?_⟩
    simp only [List.mem_singleton,LccOut.data.injEq] at hsdu
    rw [hsdu,List.length_take,hlen,hfull,Nat.min_self]
  · exact ⟨_,rfl,.inr ⟨_,rfl,hlen,hlt,hmtu⟩,by simp⟩
  · omega

/-- A first segment is dropped, or starts an SDU of the length it announces. -/
theorem firstSegment_ok (cfg : LocalConnCfg) (rx : LccRx) (info : List UInt8) (h : LccRxInv cfg.mtu rx) :
    LccStepOk cfg.mtu (decodeLE (info.take l2capLccSduLength)) (firstSegment cfg rx info) := by
  unfold firstSegment
  dsimp only
  split_ifs with hshort hmtu hover
  · exact lccStepOk_unchanged h
  · exact lccStepOk_unchanged h
  · exact lccStepOk_unchanged h
  · exact appendData_ok (by simp) (by simpa using hover) (Nat.not_lt.1 hmtu)

/-- A later segment either overflows what is left and resets the receiver, or is
copied inside the allocation. -/
theorem nextSegment_ok {mtu : ℕ} {rx : LccRx} (info : List UInt8) (h : LccRxInv mtu rx)
    (hnext : rx.isFirstSeg=false) :
    LccStepOk mtu rx.bleSduLength (nextSegment rx info) := by
  obtain ⟨pData,hp,hbuf,hlt,hmtu⟩ := h.resolve_left (by simp [hnext])
  unfold nextSegment
  rw [hp]
  dsimp only
  split_ifs with hover
  · exact ⟨_,rfl,.inl rfl,by simp⟩
  · exact appendData_ok hbuf (by omega) hmtu

/-- One K-frame from an invariant state: no fault, the invariant again, and only
SDUs of the announced length handed up. -/
theorem lccProcPdu_ok (cfg : LocalConnCfg) {rx : LccRx} (info : List UInt8) (h : LccRxInv cfg.mtu rx) :
    LccStepOk cfg.mtu (declaredLength rx info) (lccProcPdu cfg rx info) := by
  unfold lccProcPdu
  by_cases hmps : cfg.mps < info.length
  · rw [if_pos hmps]
    exact lccStepOk_unchanged h
  rw [if_neg hmps]
  cases hfirst : rx.isFirstSeg
  · have hlen : declaredLength rx info=rx.bleSduLength := by simp [declaredLength,hfirst]
    rw [hlen,if_neg (by simp)]
    exact nextSegment_ok info h hfirst
  · have hlen : declaredLength rx info=decodeLE (info.take l2capLccSduLength) := by simp [declaredLength,hfirst]
    rw [hlen,if_pos rfl]
    exact firstSegment_ok cfg rx info h

/-- Over every sequence of K-frames from an invariant state the receiver never
faults and ends in an invariant state. -/
theorem runSteps_lccProcPdu_ok (cfg : LocalConnCfg) {rx : LccRx} (h : LccRxInv cfg.mtu rx)
    (frames : List (List UInt8)) :
    ∃ r,runSteps (lccProcPdu cfg) rx frames=.ok r ∧ LccRxInv cfg.mtu r.1 := by
  have hstep : ∀ s i s' o,LccRxInv cfg.mtu s → lccProcPdu cfg s i=.ok (s',o) → LccRxInv cfg.mtu s' := by
    intro s i s' o hs hi
    obtain ⟨r,hr,hinv,-⟩ := lccProcPdu_ok cfg i hs
    rw [hi,Except.ok.injEq] at hr
    subst hr
    exact hinv
  have hok : ∀ s i,LccRxInv cfg.mtu s → ∃ r,lccProcPdu cfg s i=.ok r := by
    intro s i hs
    obtain ⟨r,hr,-⟩ := lccProcPdu_ok cfg i hs
    exact ⟨r,hr⟩
  obtain ⟨⟨t,out⟩,hrun⟩ := runSteps_ok_of_step_ok hstep hok rx h frames
  exact ⟨_,hrun,runSteps_invariant hstep h hrun⟩

/-! ### The round trip of an SDU -/

/-- With the peer's MPS at least the basic header, `max_pdu` is what is left of it. -/
theorem lccMaxPdu_eq {peerMps : ℕ} (h : l2capPktOverhead ≤ peerMps) (h' : peerMps < 65536) :
    lccMaxPdu peerMps=peerMps-l2capPktOverhead := by
  have hcast : (peerMps : ℤ)-l2capPktOverhead=((peerMps-l2capPktOverhead : ℕ) : ℤ) := by omega
  rw [lccMaxPdu,hcast,toUint16_of_lt (by omega)]

/-- A first K-frame leaves two bytes of `max_pdu` for the SDU length. -/
theorem noOfBytesToSend_first {maxPdu : ℕ} {sdu : LccSdu} (hfresh : sdu.started=false)
    (h : l2capLccSduLength ≤ maxPdu) (h' : maxPdu < 65536) :
    noOfBytesToSend maxPdu sdu=min sdu.data.length (maxPdu-l2capLccSduLength) := by
  have hcast : (maxPdu : ℤ)-l2capLccSduLength=((maxPdu-l2capLccSduLength : ℕ) : ℤ) := by omega
  rw [noOfBytesToSend,hfresh,Bool.not_false,if_pos rfl,hcast,toUint16_of_lt (by omega)]

/-- A later K-frame carries up to `max_pdu` bytes. -/
theorem noOfBytesToSend_later {maxPdu : ℕ} {sdu : LccSdu} (hstarted : sdu.started=true) (h' : maxPdu < 65536) :
    noOfBytesToSend maxPdu sdu=min sdu.data.length maxPdu := by
  rw [noOfBytesToSend,hstarted,Bool.not_true,if_neg (by simp),toUint16_of_lt h']

/-- What a K-frame carries after its basic header. -/
theorem lccGetNextXmitSduSeg_info (peerMps remoteCid : ℕ) (sdu : LccSdu) :
    (lccGetNextXmitSduSeg peerMps remoteCid sdu).1.drop l2capPktOverhead=
      (if !sdu.started then encodeLE 2 sdu.data.length else [])++
        sdu.data.take (noOfBytesToSend (lccMaxPdu peerMps) sdu) := by
  simp only [lccGetNextXmitSduSeg]
  exact List.drop_left' (by simp [l2capPktOverhead])

/-- The last piece of an SDU dequeues it. -/
theorem lccGetNextXmitSduSeg_last {peerMps remoteCid : ℕ} {sdu : LccSdu}
    (h : noOfBytesToSend (lccMaxPdu peerMps) sdu=sdu.data.length) :
    (lccGetNextXmitSduSeg peerMps remoteCid sdu).2=none := by
  simp only [lccGetNextXmitSduSeg,h,if_true]

/-- Any other piece leaves the bytes after it at the head of the queue, marked as
started. -/
theorem lccGetNextXmitSduSeg_more {peerMps remoteCid : ℕ} {sdu : LccSdu}
    (h : noOfBytesToSend (lccMaxPdu peerMps) sdu≠sdu.data.length) :
    ∃ rest : LccSdu,(lccGetNextXmitSduSeg peerMps remoteCid sdu).2=some rest ∧
      rest.data=sdu.data.drop (noOfBytesToSend (lccMaxPdu peerMps) sdu) ∧ rest.started=true := by
  simp only [lccGetNextXmitSduSeg,if_neg h,Option.some.injEq,exists_eq_left',and_self]

/-- Every K-frame's length field is the length of its payload, which the peer's
MPS less the basic header bounds. -/
theorem lccGetNextXmitSduSeg_fits {peerMps : ℕ} (remoteCid : ℕ) (sdu : LccSdu) (hp : 6 ≤ peerMps)
    (hp' : peerMps < 65536) :
    decodeLE ((lccGetNextXmitSduSeg peerMps remoteCid sdu).1.take 2)=
        ((lccGetNextXmitSduSeg peerMps remoteCid sdu).1.drop l2capPktOverhead).length ∧
      ((lccGetNextXmitSduSeg peerMps remoteCid sdu).1.drop l2capPktOverhead).length ≤ peerMps-l2capPktOverhead := by
  have hmax := lccMaxPdu_eq (by simp [l2capPktOverhead]; omega) hp'
  have hbound : ((lccGetNextXmitSduSeg peerMps remoteCid sdu).1.drop l2capPktOverhead).length ≤
      peerMps-l2capPktOverhead := by
    rw [lccGetNextXmitSduSeg_info]
    cases hs : sdu.started
    · rw [noOfBytesToSend_first hs (by simp [hmax,l2capPktOverhead,l2capLccSduLength]; omega) (by omega),hmax]
      simp [l2capLccSduLength,l2capPktOverhead]
      omega
    · rw [noOfBytesToSend_later hs (by omega),hmax]
      simp
  refine ⟨?_,hbound⟩
  rw [lccGetNextXmitSduSeg_info] at hbound ⊢
  simp only [lccGetNextXmitSduSeg]
  rw [List.append_assoc,List.take_left' (length_encodeLE 2 _),decodeLE_encodeLE_of_lt
    (lt_of_le_of_lt hbound (by norm_num [l2capPktOverhead]; omega))]

theorem lccXmitSdu_succ_of_none {peerMps remoteCid fuel : ℕ} {sdu : LccSdu}
    (h : (lccGetNextXmitSduSeg peerMps remoteCid sdu).2=none) :
    lccXmitSdu peerMps remoteCid (fuel+1) sdu=[(lccGetNextXmitSduSeg peerMps remoteCid sdu).1] := by
  rcases hseg : lccGetNextXmitSduSeg peerMps remoteCid sdu with ⟨frame,_|rest⟩
  · simp only [lccXmitSdu,hseg]
  · rw [hseg] at h
    cases h

theorem lccXmitSdu_succ_of_some {peerMps remoteCid fuel : ℕ} {sdu rest : LccSdu}
    (h : (lccGetNextXmitSduSeg peerMps remoteCid sdu).2=some rest) :
    lccXmitSdu peerMps remoteCid (fuel+1) sdu=
      (lccGetNextXmitSduSeg peerMps remoteCid sdu).1::lccXmitSdu peerMps remoteCid fuel rest := by
  rcases hseg : lccGetNextXmitSduSeg peerMps remoteCid sdu with ⟨frame,_|rest'⟩
  · rw [hseg] at h
    cases h
  · rw [hseg,Option.some.injEq] at h
    subst h
    simp only [lccXmitSdu,hseg]

/-- Every K-frame sent for an SDU is one `l2c_lcc_get_next_xmit_sdu_seg` built. -/
theorem mem_lccXmitSdu {peerMps remoteCid : ℕ} :
    ∀ (fuel : ℕ) (sdu : LccSdu),∀ pdu ∈ lccXmitSdu peerMps remoteCid fuel sdu,
      ∃ sdu' : LccSdu,pdu=(lccGetNextXmitSduSeg peerMps remoteCid sdu').1
  | 0,_,pdu,hmem => by simp [lccXmitSdu] at hmem
  | fuel+1,sdu,pdu,hmem => by
    cases hrest : (lccGetNextXmitSduSeg peerMps remoteCid sdu).2 with
    | none =>
      rw [lccXmitSdu_succ_of_none hrest,List.mem_singleton] at hmem
      exact ⟨sdu,hmem⟩
    | some rest =>
      rw [lccXmitSdu_succ_of_some hrest,List.mem_cons] at hmem
      rcases hmem with rfl | hmem
      · exact ⟨sdu,rfl⟩
      · exact mem_lccXmitSdu fuel rest pdu hmem

/-- Data appended to a partly rebuilt SDU: the SDU handed up once it is full,
and otherwise the SDU extended, waiting for a later segment. -/
theorem appendData_partialSdu {rx : LccRx} {done data : List UInt8} {len : ℕ} (hlen : rx.bleSduLength=len)
    (hfit : done.length+data.length ≤ len) :
    appendData rx (partialSdu done len) data=
      if done.length+data.length=len then .ok (idleRx,[.data (done++data)])
      else .ok ({rx with isFirstSeg := false,bleSdu := some (partialSdu (done++data) len)},[]) := by
  unfold appendData
  rw [writeBytes_partialSdu hfit]
  dsimp only
  rw [partialSdu_len,hlen]
  by_cases hfull : done.length+data.length=len
  · have htake : (partialSdu (done++data) len).buf.take (done.length+data.length)=done++data :=
      List.take_left' (by simp)
    rw [if_pos hfull,if_pos hfull,htake]
  · rw [if_neg hfull,if_neg hfull,if_pos (lt_of_le_of_ne hfit hfull),← partialSdu_len done len,
      partialSdu_append_eq]

/-- A first segment that fits the MPS and the MTU allocates its SDU and copies
its data to the front. -/
theorem lccProcPdu_first {cfg : LocalConnCfg} {rx : LccRx} {len : ℕ} {data : List UInt8}
    (hfirst : rx.isFirstSeg=true) (hmps : l2capLccSduLength+data.length ≤ cfg.mps) (hmtu : len ≤ cfg.mtu)
    (hfit : data.length ≤ len) :
    lccProcPdu cfg rx (encodeLE 2 len++data)=
      appendData {rx with bleSdu := some (partialSdu [] len),bleSduLength := len} (partialSdu [] len) data := by
  have hlen : (encodeLE 2 len++data).length=l2capLccSduLength+data.length := by
    simp [l2capLccSduLength]
    omega
  have hfield : decodeLE ((encodeLE 2 len++data).take l2capLccSduLength)=len :=
    decodeLE_take_encodeLE (lt_of_le_of_lt hmtu cfg.mtu_lt) data
  have hnil : partialSdu [] len=⟨List.replicate len 0,0⟩ := by simp [partialSdu]
  unfold lccProcPdu firstSegment
  rw [if_neg (by omega),hfirst,if_pos rfl,if_neg (by omega)]
  dsimp only
  rw [hfield,if_neg (Nat.not_lt.2 hmtu),List.drop_left' (by simp [l2capLccSduLength]),if_neg (Nat.not_lt.2 hfit),hnil]

/-- A later segment that fits the MPS and what is left of the SDU is copied
behind what the receiver holds. -/
theorem lccProcPdu_later {cfg : LocalConnCfg} {rx : LccRx} {done data : List UInt8}
    (hnext : rx.isFirstSeg=false) (hmps : data.length ≤ cfg.mps) (hp : rx.bleSdu=some (partialSdu done rx.bleSduLength))
    (hfit : done.length+data.length ≤ rx.bleSduLength) :
    lccProcPdu cfg rx data=appendData rx (partialSdu done rx.bleSduLength) data := by
  unfold lccProcPdu nextSegment
  rw [if_neg (by omega),hnext,if_neg (by simp),hp]
  dsimp only
  rw [partialSdu_len,if_neg (by omega)]

/-- The later K-frames of an SDU whose first frame has gone rebuild the rest of
it behind what the receiver holds, by induction on the calls left. -/
theorem runSteps_lccXmitSdu_rest {cfg : LocalConnCfg} {peerMps remoteCid : ℕ} (hp : 6 ≤ peerMps)
    (hlocal : peerMps ≤ cfg.mps) :
    ∀ (fuel : ℕ) (sdu : LccSdu) (rx : LccRx) (done : List UInt8),
      sdu.started=true → sdu.data≠[] → sdu.data.length ≤ fuel*(peerMps-l2capPktOverhead) →
      rx.isFirstSeg=false → rx.bleSdu=some (partialSdu done rx.bleSduLength) →
      done.length+sdu.data.length=rx.bleSduLength →
      runSteps (lccProcPdu cfg) rx ((lccXmitSdu peerMps remoteCid fuel sdu).map fun pdu => pdu.drop l2capPktOverhead)=
        .ok (idleRx,[.data (done++sdu.data)])
  | 0,_,_,_,_,hne,hfuel,_,_,_ => absurd (List.length_eq_zero_iff.mp (by rw [Nat.zero_mul] at hfuel; omega)) hne
  | fuel+1,sdu,rx,done,hstarted,hne,hfuel,hnext,hp',hlen => by
    have hmps := lt_of_le_of_lt hlocal cfg.mps_lt
    have hmax := lccMaxPdu_eq (by simp [l2capPktOverhead]; omega) hmps
    obtain ⟨n,hn⟩ : ∃ n,noOfBytesToSend (lccMaxPdu peerMps) sdu=n := ⟨_,rfl⟩
    have hmin : n=min sdu.data.length (peerMps-l2capPktOverhead) := by
      rw [← hn,noOfBytesToSend_later hstarted (by omega),hmax]
    have hinfo : (lccGetNextXmitSduSeg peerMps remoteCid sdu).1.drop l2capPktOverhead=sdu.data.take n := by
      rw [lccGetNextXmitSduSeg_info,hstarted,hn]
      rfl
    have htake : (sdu.data.take n).length=n := by simp; omega
    have hstep := @lccProcPdu_later cfg rx done (sdu.data.take n) hnext (by omega) hp' (by omega)
    rw [appendData_partialSdu rfl (by omega)] at hstep
    by_cases hlast : n=sdu.data.length
    · -- the last piece completes the SDU
      rw [if_pos (by omega),List.take_of_length_le (by omega)] at hstep
      rw [lccXmitSdu_succ_of_none (lccGetNextXmitSduSeg_last (hn.trans hlast)),List.map_singleton,hinfo,
        List.take_of_length_le (by omega),runSteps_cons_of_ok hstep]
      rfl
    · -- a piece of `max_pdu` bytes, then the rest of the SDU
      rw [if_neg (by omega)] at hstep
      obtain ⟨rest,hrest,hdata,hstarted'⟩ := lccGetNextXmitSduSeg_more (hn ▸ hlast)
      rw [hn] at hdata
      have hrun := @runSteps_lccXmitSdu_rest cfg peerMps remoteCid hp hlocal fuel rest
        {rx with isFirstSeg := false,bleSdu := some (partialSdu (done++sdu.data.take n) rx.bleSduLength)}
        (done++sdu.data.take n) hstarted' (by rw [hdata]; simp; omega)
        (by rw [hdata]; simp [Nat.succ_mul] at hfuel ⊢; omega) rfl rfl (by rw [hdata]; simp; omega)
      rw [lccXmitSdu_succ_of_some hrest,List.map_cons,hinfo,runSteps_cons_of_ok hstep,hrun,hdata]
      simp only [Except.map,List.nil_append,List.append_assoc,List.take_append_drop]

/-- The LE round trip of an SDU: every K-frame `l2c_lcc_get_next_xmit_sdu_seg`
cuts from an SDU within the receiver's MTU has its payload length in its basic
header and at most the peer's MPS less that header, and a receiver waiting for a
first segment whose MPS is at least the peer's hands up exactly that SDU. -/
theorem lccXmitSdu_round_trip (cfg : LocalConnCfg) (peerMps remoteCid fuel : ℕ) (sdu : LccSdu) (rx : LccRx)
    (hp : 6 ≤ peerMps) (hlocal : peerMps ≤ cfg.mps) (hmtu : sdu.data.length ≤ cfg.mtu)
    (hfresh : sdu.started=false) (hfuel : sdu.data.length+l2capLccSduLength ≤ fuel*(peerMps-l2capPktOverhead))
    (hfirst : rx.isFirstSeg=true) :
    (∀ pdu ∈ lccXmitSdu peerMps remoteCid fuel sdu,
      decodeLE (pdu.take 2)=(pdu.drop l2capPktOverhead).length ∧
        (pdu.drop l2capPktOverhead).length ≤ peerMps-l2capPktOverhead) ∧
      runSteps (lccProcPdu cfg) rx ((lccXmitSdu peerMps remoteCid fuel sdu).map fun pdu => pdu.drop l2capPktOverhead)=
        .ok (idleRx,[.data sdu.data]) := by
  have hp' := lt_of_le_of_lt hlocal cfg.mps_lt
  refine ⟨fun pdu hmem => ?_,?_⟩
  · obtain ⟨sdu',rfl⟩ := mem_lccXmitSdu fuel sdu pdu hmem
    exact lccGetNextXmitSduSeg_fits remoteCid sdu' hp hp'
  obtain ⟨fuel,rfl⟩ : ∃ f,fuel=f+1 := ⟨fuel-1,by
    have : 0 < fuel*(peerMps-l2capPktOverhead) := by simp only [l2capLccSduLength] at hfuel; omega
    have := Nat.pos_of_mul_pos_right this
    omega⟩
  have hmax := lccMaxPdu_eq (by simp [l2capPktOverhead]; omega) hp'
  obtain ⟨n,hn⟩ : ∃ n,noOfBytesToSend (lccMaxPdu peerMps) sdu=n := ⟨_,rfl⟩
  have hmin : n=min sdu.data.length (peerMps-l2capPktOverhead-l2capLccSduLength) := by
    rw [← hn,noOfBytesToSend_first hfresh (by simp [hmax,l2capPktOverhead,l2capLccSduLength]; omega) (by omega),hmax]
  have hinfo : (lccGetNextXmitSduSeg peerMps remoteCid sdu).1.drop l2capPktOverhead=
      encodeLE 2 sdu.data.length++sdu.data.take n := by
    rw [lccGetNextXmitSduSeg_info,hfresh,hn]
    rfl
  have htake : (sdu.data.take n).length=n := by simp; omega
  -- the first segment allocates the SDU and copies its piece to the front
  have hstep := @lccProcPdu_first cfg rx sdu.data.length (sdu.data.take n) hfirst
    (by simp [l2capLccSduLength,l2capPktOverhead] at hmin ⊢; omega) hmtu (by omega)
  rw [@appendData_partialSdu _ [] (sdu.data.take n) sdu.data.length rfl
    (by rw [List.length_nil,htake]; omega)] at hstep
  by_cases hlast : n=sdu.data.length
  · -- the whole SDU fits the first K-frame
    rw [if_pos (by simp; omega),List.nil_append,List.take_of_length_le (by omega)] at hstep
    rw [lccXmitSdu_succ_of_none (lccGetNextXmitSduSeg_last (hn.trans hlast)),List.map_singleton,hinfo,
      List.take_of_length_le (by omega),runSteps_cons_of_ok hstep]
    rfl
  · rw [if_neg (by simp; omega),List.nil_append] at hstep
    obtain ⟨rest,hrest,hdata,hstarted⟩ := lccGetNextXmitSduSeg_more (hn ▸ hlast)
    rw [hn] at hdata
    have hrun := @runSteps_lccXmitSdu_rest cfg peerMps remoteCid hp hlocal fuel rest
      ⟨false,some (partialSdu (sdu.data.take n) sdu.data.length),sdu.data.length⟩ (sdu.data.take n) hstarted
      (by rw [hdata]; simp; omega)
      (by rw [hdata]; simp [Nat.succ_mul,l2capLccSduLength,l2capPktOverhead] at hfuel hmin ⊢; omega) rfl rfl
      (by rw [hdata]; simp; omega)
    rw [lccXmitSdu_succ_of_some hrest,List.map_cons,hinfo,runSteps_cons_of_ok hstep,hrun,hdata]
    simp only [Except.map,List.nil_append,List.take_append_drop]

/-- Three bytes with nothing sent yet. -/
def threeByteSdu : LccSdu := ⟨[7,8,9],false,by decide⟩

/-- Over the smallest MPS the first K-frame carries only the SDU length. -/
example : lccXmitSdu 6 0x40 3 threeByteSdu=[[2,0,0x40,0,3,0],[2,0,0x40,0,7,8],[1,0,0x40,0,9]] := by decide

/-- The three bytes sent over the smallest MPS come out whole. -/
theorem lccXmitSdu_round_trip_smallest_mps :
    runSteps (lccProcPdu ⟨672,23,by decide,by decide⟩) idleRx
        ((lccXmitSdu 6 0x40 3 threeByteSdu).map fun pdu => pdu.drop l2capPktOverhead)=
      .ok (idleRx,[.data [7,8,9]]) :=
  (lccXmitSdu_round_trip ⟨672,23,by decide,by decide⟩ 6 0x40 3 threeByteSdu idleRx (by decide) (by decide)
    (by decide) rfl (by decide) rfl).2

/-- LE credit-based channels: every SDU within the receiver's MTU goes out in
K-frames that fit the peer's MPS and comes out once and unchanged; and under
arbitrary K-frames the receiver never faults, keeps `is_first_seg` or a partly
filled SDU within its allocation and the MTU, and hands up only SDUs of the
length their first segment announced. -/
theorem le_coc_segmentation_reassembly :
    (∀ (cfg : LocalConnCfg) (peerMps remoteCid fuel : ℕ) (sdu : LccSdu) (rx : LccRx),
      6 ≤ peerMps → peerMps ≤ cfg.mps → sdu.data.length ≤ cfg.mtu → sdu.started=false →
      sdu.data.length+l2capLccSduLength ≤ fuel*(peerMps-l2capPktOverhead) → rx.isFirstSeg=true →
      (∀ pdu ∈ lccXmitSdu peerMps remoteCid fuel sdu,
        decodeLE (pdu.take 2)=(pdu.drop l2capPktOverhead).length ∧
          (pdu.drop l2capPktOverhead).length ≤ peerMps-l2capPktOverhead) ∧
        runSteps (lccProcPdu cfg) rx ((lccXmitSdu peerMps remoteCid fuel sdu).map fun pdu => pdu.drop l2capPktOverhead)=
          .ok (idleRx,[.data sdu.data])) ∧
    (∀ (cfg : LocalConnCfg) (rx : LccRx) (frames : List (List UInt8)),LccRxInv cfg.mtu rx →
      (∃ r,runSteps (lccProcPdu cfg) rx frames=.ok r ∧ LccRxInv cfg.mtu r.1) ∧
        ∀ rx' info,LccRxInv cfg.mtu rx' → LccStepOk cfg.mtu (declaredLength rx' info) (lccProcPdu cfg rx' info)) :=
  ⟨fun cfg peerMps remoteCid fuel sdu rx hp hlocal hmtu hfresh hfuel hfirst =>
      lccXmitSdu_round_trip cfg peerMps remoteCid fuel sdu rx hp hlocal hmtu hfresh hfuel hfirst,
    fun cfg _ frames h => ⟨runSteps_lccProcPdu_ok cfg h frames,fun _ info h' => lccProcPdu_ok cfg info h'⟩⟩

end BluetoothStack.L2capLeCoc
