import BluetoothStack.L2capErtm

/-!
# Segmentation and reassembly on ERTM and streaming channels (stack/l2cap/l2c_fcr.cc)

`l2c_fcr_get_next_xmit_sdu_seg` cuts the SDU at the head of `xmit_hold_q` into
I-frames of at most `tx_mps` bytes: one unsegmented frame when it fits, and
otherwise a START frame that also carries the SDU length, CONTINUATION frames
and an END frame. `prepare_I_frame` writes the control word, the length field
and the FCS. On the receiving side `l2c_fcr_proc_pdu` checks the length and the
FCS, and `process_i_frame` (or `process_stream_frame`) hands the frames that
arrive in sequence to `do_sar_reassembly`, which rebuilds the SDU in `p_rx_sdu`.

Every SDU no longer than the receiver's MTU comes out once and unchanged, for
every MPS. Under arbitrary frames the reassembly buffer is never overrun, the
SDUs rebuilt from segments have the announced length, and `srej_sent` implies a
non-empty `srej_rcv_hold_q`, so the peek at its last frame never finds it empty.
-/

namespace BluetoothStack.L2capSar

open ByteBuffer StepRun L2capErtm

/-! ### Frame layout (stack/include/l2cdefs.h) -/

/-- `L2CAP_PKT_OVERHEAD`: the length and channel id of the basic header. -/
def l2capPktOverhead : ℕ := 4

/-- `L2CAP_FCR_OVERHEAD`: the control word. -/
def l2capFcrOverhead : ℕ := 2

/-- `L2CAP_FCS_LEN`. -/
def l2capFcsLen : ℕ := 2

/-- `L2CAP_SDU_LEN_OVERHEAD`: the SDU length field of a START frame. -/
def l2capSduLenOverhead : ℕ := 2

/-- `L2CAP_MAX_HEADER_FCS`. -/
def l2capMaxHeaderFcs : ℕ := 12

/-- `L2CAP_FCR_UNSEG_SDU`. -/
def l2capFcrUnsegSdu : ℕ := 0x0000

/-- `L2CAP_FCR_START_SDU`. -/
def l2capFcrStartSdu : ℕ := 0x4000

/-- `L2CAP_FCR_END_SDU`. -/
def l2capFcrEndSdu : ℕ := 0x8000

/-- `L2CAP_FCR_CONT_SDU`. -/
def l2capFcrContSdu : ℕ := 0xC000

/-- `L2CAP_FLUSHABLE_MASK`: the part of an SDU's `layer_specific` its sender sets. -/
def l2capFlushableMask : ℕ := 0x0003

/-- `L2CAP_FCR_INIT_CRC`. -/
def l2capFcrInitCrc : ℕ := 0

/-! ### The frame check sequence -/

/-- `crctab`: the table of the reflected CRC-16. -/
def crctab : List ℕ := [
  0x0000,0xc0c1,0xc181,0x0140,0xc301,0x03c0,0x0280,0xc241,
  0xc601,0x06c0,0x0780,0xc741,0x0500,0xc5c1,0xc481,0x0440,
  0xcc01,0x0cc0,0x0d80,0xcd41,0x0f00,0xcfc1,0xce81,0x0e40,
  0x0a00,0xcac1,0xcb81,0x0b40,0xc901,0x09c0,0x0880,0xc841,
  0xd801,0x18c0,0x1980,0xd941,0x1b00,0xdbc1,0xda81,0x1a40,
  0x1e00,0xdec1,0xdf81,0x1f40,0xdd01,0x1dc0,0x1c80,0xdc41,
  0x1400,0xd4c1,0xd581,0x1540,0xd701,0x17c0,0x1680,0xd641,
  0xd201,0x12c0,0x1380,0xd341,0x1100,0xd1c1,0xd081,0x1040,
  0xf001,0x30c0,0x3180,0xf141,0x3300,0xf3c1,0xf281,0x3240,
  0x3600,0xf6c1,0xf781,0x3740,0xf501,0x35c0,0x3480,0xf441,
  0x3c00,0xfcc1,0xfd81,0x3d40,0xff01,0x3fc0,0x3e80,0xfe41,
  0xfa01,0x3ac0,0x3b80,0xfb41,0x3900,0xf9c1,0xf881,0x3840,
  0x2800,0xe8c1,0xe981,0x2940,0xeb01,0x2bc0,0x2a80,0xea41,
  0xee01,0x2ec0,0x2f80,0xef41,0x2d00,0xedc1,0xec81,0x2c40,
  0xe401,0x24c0,0x2580,0xe541,0x2700,0xe7c1,0xe681,0x2640,
  0x2200,0xe2c1,0xe381,0x2340,0xe101,0x21c0,0x2080,0xe041,
  0xa001,0x60c0,0x6180,0xa141,0x6300,0xa3c1,0xa281,0x6240,
  0x6600,0xa6c1,0xa781,0x6740,0xa501,0x65c0,0x6480,0xa441,
  0x6c00,0xacc1,0xad81,0x6d40,0xaf01,0x6fc0,0x6e80,0xae41,
  0xaa01,0x6ac0,0x6b80,0xab41,0x6900,0xa9c1,0xa881,0x6840,
  0x7800,0xb8c1,0xb981,0x7940,0xbb01,0x7bc0,0x7a80,0xba41,
  0xbe01,0x7ec0,0x7f80,0xbf41,0x7d00,0xbdc1,0xbc81,0x7c40,
  0xb401,0x74c0,0x7580,0xb541,0x7700,0xb7c1,0xb681,0x7640,
  0x7200,0xb2c1,0xb381,0x7340,0xb101,0x71c0,0x7080,0xb041,
  0x5000,0x90c1,0x9181,0x5140,0x9301,0x53c0,0x5280,0x9241,
  0x9601,0x56c0,0x5780,0x9741,0x5500,0x95c1,0x9481,0x5440,
  0x9c01,0x5cc0,0x5d80,0x9d41,0x5f00,0x9fc1,0x9e81,0x5e40,
  0x5a00,0x9ac1,0x9b81,0x5b40,0x9901,0x59c0,0x5880,0x9841,
  0x8801,0x48c0,0x4980,0x8941,0x4b00,0x8bc1,0x8a81,0x4a40,
  0x4e00,0x8ec1,0x8f81,0x4f40,0x8d01,0x4dc0,0x4c80,0x8c41,
  0x4400,0x84c1,0x8581,0x4540,0x8701,0x47c0,0x4680,0x8641,
  0x8201,0x42c0,0x4380,0x8341,0x4100,0x81c1,0x8081,0x4040
]

/-- `l2c_fcr_updcrc`: one table step per byte. -/
def updcrc (icrc : ℕ) (bytes : List UInt8) : ℕ :=
  bytes.foldl (fun crc b => ((crc >>> 8) &&& 0xff) ^^^ crctab.getD ((crc &&& 0xff) ^^^ b.toNat) 0) icrc

/-- `l2c_fcr_tx_get_fcs`: the CRC of the whole frame built so far. -/
def txGetFcs (frame : List UInt8) : ℕ := updcrc l2capFcrInitCrc frame

/-- `l2c_fcr_rx_get_fcs`: the CRC of the basic header, which lies before the
buffer's offset, and of the bytes after it. -/
def rxGetFcs (header body : List UInt8) : ℕ := updcrc l2capFcrInitCrc (header++body)

/-! ### Sending an SDU -/

/-- The SDU at the head of `xmit_hold_q`: the bytes still to send, whether its
segmentation has started (its `event` is set), and its `layer_specific`, of
which its sender sets only the flushable bits. -/
structure HoldSdu where
  /-- The bytes from `offset` on. -/
  data : List UInt8
  /-- `event != 0`. -/
  started : Bool
  /-- `layer_specific`. -/
  layerSpecific : ℕ
  layerSpecific_le : layerSpecific ≤ l2capFlushableMask

/-- `max_pdu`: `tx_mps`, or less when an AMP controller's packet is smaller. -/
def maxPduOf (txMps maxPacketLength : ℕ) : ℕ :=
  if l2capMaxHeaderFcs < maxPacketLength ∧ maxPacketLength < txMps+l2capMaxHeaderFcs then
    maxPacketLength-l2capMaxHeaderFcs
  else txMps

/-- The piece of a new I-frame that `l2c_fcr_get_next_xmit_sdu_seg` takes from
the head SDU: its SAR type, the SDU length field of a START frame, its data,
and what is left of the SDU (`none` once the SDU is dequeued). -/
def cutSegment (maxPdu : ℕ) (sdu : HoldSdu) : ℕ×List UInt8×List UInt8×Option HoldSdu :=
  if maxPdu < sdu.data.length then
    let rest := some {sdu with data := sdu.data.drop maxPdu,started := true}
    if !sdu.started then (l2capFcrStartSdu,encodeLE 2 sdu.data.length,sdu.data.take maxPdu,rest)
    else (l2capFcrContSdu,[],sdu.data.take maxPdu,rest)
  else if sdu.started then (l2capFcrEndSdu,[],sdu.data,none)
  else (l2capFcrUnsegSdu,[],sdu.data,none)

/-- The bytes of an I-frame as `l2c_fcr_get_next_xmit_sdu_seg` and
`prepare_I_frame` lay them out: the basic header (length, `remote_cid`), the
control word, a START frame's SDU length, the data, and the FCS unless it is
bypassed, in which case the length field is the one first written. -/
def buildIFrame (remoteCid : ℕ) (bypassFcs : Bool) (ctrlWord : ℕ) (sduLenField data : List UInt8) :
    List UInt8 :=
  let body := encodeLE 2 ctrlWord++sduLenField++data
  if bypassFcs then encodeLE 2 body.length++encodeLE 2 remoteCid++body
  else
    let frame := encodeLE 2 (body.length+l2capFcsLen)++encodeLE 2 remoteCid++body
    frame++encodeLE 2 (txGetFcs frame)

/-- `l2c_fcr_get_next_xmit_sdu_seg` with nothing to retransmit: the next piece of
the head SDU, prepared as a new I-frame. -/
def xmitNewFrame (mode : FcrMode) (remoteCid : ℕ) (bypassFcs : Bool) (maxPdu : ℕ) (fcrb : Fcrb)
    (sdu : HoldSdu) : Fcrb×List UInt8×Option HoldSdu :=
  let (sar,sduLenField,data,rest) := cutSegment maxPdu sdu
  let (fcrb,ctrlWord) := prepareIFrame mode fcrb ⟨0,sdu.layerSpecific ||| sar⟩ false
  (fcrb,buildIFrame remoteCid bypassFcs ctrlWord sduLenField data,rest)

/-- The frames sent for one SDU: `l2c_fcr_get_next_xmit_sdu_seg` called until
the SDU leaves `xmit_hold_q`, at most `fuel` times. -/
def xmitSdu (mode : FcrMode) (remoteCid : ℕ) (bypassFcs : Bool) (maxPdu : ℕ) :
    ℕ → Fcrb → HoldSdu → Fcrb×List (List UInt8)
  | 0,fcrb,_ => (fcrb,[])
  | fuel+1,fcrb,sdu =>
    let (fcrb,frame,rest) := xmitNewFrame mode remoteCid bypassFcs maxPdu fcrb sdu
    match rest with
    | none => (fcrb,[frame])
    | some sdu =>
      let (fcrb,frames) := xmitSdu mode remoteCid bypassFcs maxPdu fuel fcrb sdu
      (fcrb,frame::frames)

/-! ### Receiving -/

/-- `p_rx_sdu`: a buffer allocated for `rx_sdu_len` bytes, of which `len` are filled. -/
structure RxSdu where
  /-- The data area, as allocated. -/
  buf : List UInt8
  /-- `p_rx_sdu->len`. -/
  len : ℕ
  deriving DecidableEq,Repr

/-- A frame held in `srej_rcv_hold_q`: the control word before its offset, its
payload, and the `tx_seq` kept in its `layer_specific`. -/
structure HeldIFrame where
  ctrlWord : ℕ
  payload : List UInt8
  layerSpecific : ℕ
  deriving DecidableEq,Repr

/-- The receive side of `tL2C_FCRB`; `next_seq_expected` is kept with the sender's fields. -/
structure RxFcrb where
  /-- `rej_sent`. -/
  rejSent : Bool
  /-- `srej_sent`. -/
  srejSent : Bool
  /-- `local_busy`. -/
  localBusy : Bool
  /-- `rej_after_srej`. -/
  rejAfterSrej : Bool
  /-- `srej_rcv_hold_q`. -/
  srejRcvHoldQ : List HeldIFrame
  /-- `p_rx_sdu`; `none` is NULL. -/
  pRxSdu : Option RxSdu
  /-- `rx_sdu_len`. -/
  rxSduLen : ℕ
  deriving DecidableEq,Repr

/-- The flow-control state of a channel. -/
structure Ccb where
  fcrb : Fcrb
  rx : RxFcrb
  deriving DecidableEq,Repr

/-- What a channel was configured with. -/
structure ChannelCfg where
  /-- `peer_cfg.fcr.mode`. -/
  mode : FcrMode
  /-- `peer_cfg.fcr`. -/
  peer : PeerFcr
  /-- `our_cfg.fcr.tx_win_sz`. -/
  ourTxWinSz : ℕ
  /-- `max_rx_mtu`. -/
  maxRxMtu : ℕ
  /-- `bypass_fcs == L2CAP_BYPASS_FCS`. -/
  bypassFcs : Bool
  maxRxMtu_lt : maxRxMtu < 65536

/-- Why a channel stops taking frames: a fault of the code, or a disconnection. -/
inductive RxStop where
  | fault (f : Fault)
  | disconnected
  deriving DecidableEq,Repr

/-- The FCS check of `l2c_fcr_proc_pdu` and `process_stream_frame`: the last two
bytes must be the CRC of the frame before them, the basic header included. -/
def checkFcs (bypassFcs : Bool) (header info : List UInt8) : Option (List UInt8) :=
  if bypassFcs then some info
  else
    let body := info.take (info.length-l2capFcsLen)
    if rxGetFcs header body≠decodeLE (info.drop (info.length-l2capFcsLen)) then none
    else some body

/-- The SAR state check at the top of `do_sar_reassembly`: an unsegmented or START
frame needs no SDU in progress, and a START frame room for the SDU length; a
CONTINUATION or END frame needs an SDU in progress. -/
def sarStateOk (rx : RxFcrb) (sarType : ℕ) (payload : List UInt8) : Bool :=
  if sarType=l2capFcrUnsegSdu ∨ sarType=l2capFcrStartSdu then
    rx.pRxSdu.isNone && !(sarType=l2capFcrStartSdu && payload.length < l2capSduLenOverhead)
  else rx.pRxSdu.isSome

/-- A START frame's SDU length, stored before it is checked against the MTU, and
the buffer allocated for it; `false` when the SDU is too long. -/
def startSdu (maxRxMtu : ℕ) (rx : RxFcrb) (payload : List UInt8) : RxFcrb×Bool :=
  let rx := {rx with rxSduLen := decodeLE (payload.take 2)}
  if maxRxMtu < rx.rxSduLen then (rx,false)
  else ({rx with pRxSdu := some ⟨List.replicate rx.rxSduLen 0,0⟩},true)

/-- The copy of a segment's data into `p_rx_sdu`, once it is checked that the
data neither overruns the SDU nor, in an END frame, falls short of it. -/
def appendSegment (rx : RxFcrb) (sarType : ℕ) (data : List UInt8) :
    Except RxStop (RxFcrb×Bool×Option (List UInt8)) :=
  match rx.pRxSdu with
  | none => .error (.fault .outOfRange)
  | some sdu =>
    if rx.rxSduLen < sdu.len+data.length then .ok (rx,false,none)
    else if sarType=l2capFcrEndSdu ∧ sdu.len+data.length≠rx.rxSduLen then .ok (rx,false,none)
    else match writeBytes sdu.buf sdu.len data with
      | none => .error (.fault .outOfRange)
      | some buf =>
        if sarType=l2capFcrEndSdu then .ok ({rx with pRxSdu := none},true,some (buf.take (sdu.len+data.length)))
        else .ok ({rx with pRxSdu := some ⟨buf,sdu.len+data.length⟩},true,none)

/-- `do_sar_reassembly`: whether the frame was acceptable, and the SDU it
completes. -/
def doSarReassembly (maxRxMtu : ℕ) (rx : RxFcrb) (payload : List UInt8) (ctrlWord : ℕ) :
    Except RxStop (RxFcrb×Bool×Option (List UInt8)) :=
  let sarType := ctrlWord &&& l2capFcrSegBits
  if !sarStateOk rx sarType payload then .ok (rx,false,none)
  else if sarType=l2capFcrUnsegSdu then .ok (rx,true,some payload)
  else if sarType=l2capFcrStartSdu then
    let (rx,packetOk) := startSdu maxRxMtu rx payload
    if packetOk then appendSegment rx sarType (payload.drop 2) else .ok (rx,false,none)
  else appendSegment rx sarType payload

/-- `(a - b) & L2CAP_FCR_SEQ_MODULO` on sequence numbers, in `int` as C computes it. -/
def seqDistance (a b : ℕ) : ℕ := (((a : ℤ)-b)%64).toNat

/-- The checkpoint at the top of `process_i_frame`: an I-frame with the F bit
first retransmits every unacknowledged frame. -/
def checkpointRetransmit (peer : PeerFcr) (fcrb : Fcrb) (ctrlWord : ℕ) : Except RxStop Fcrb :=
  if hasBit ctrlWord l2capFcrFBit then
    match retransmitIFrames peer fcrb l2cFcrRetxAllPkts with
    | some fcrb => .ok fcrb
    | none => .error .disconnected
  else .ok fcrb

/-- An I-frame out of sequence in `process_i_frame`: dropped while the peer is
flowed off or as a duplicate; while an SREJ is outstanding, held if it follows
the last frame held (whose `tx_seq` is peeked at) and otherwise marked for a
REJ; answered by a REJ when more than one frame is missing; and otherwise held
for an SREJ. -/
def holdOutOfSequence (cfg : ChannelCfg) (nextSeqExpected : ℕ) (rx : RxFcrb) (ctrlWord : ℕ)
    (payload : List UInt8) : Except RxStop RxFcrb :=
  let txSeq := txSeqOf ctrlWord
  let numLost := seqDistance txSeq nextSeqExpected
  if rx.localBusy ∨ cfg.ourTxWinSz ≤ numLost then .ok rx
  else if rx.srejSent then
    match rx.srejRcvHoldQ.getLast? with
    | none => .error (.fault .outOfRange)
    | some last =>
      if txSeq=(last.layerSpecific+1) &&& l2capFcrSeqModulo ∧ rx.srejRcvHoldQ.length < cfg.ourTxWinSz then
        .ok {rx with srejRcvHoldQ := rx.srejRcvHoldQ++[⟨ctrlWord,payload,txSeq⟩]}
      else .ok {rx with rejAfterSrej := true}
  else if rx.rejSent then .ok rx
  else if 1 < numLost then .ok {rx with rejSent := true}
  else .ok {rx with srejRcvHoldQ := rx.srejRcvHoldQ++[⟨ctrlWord,payload,txSeq⟩],srejSent := true}

/-- `process_i_frame`: the checkpoint, then a frame out of sequence is held or
dropped, and one in sequence goes to `do_sar_reassembly`, whose failure
disconnects the channel. -/
def processIFrame (cfg : ChannelCfg) (ccb : Ccb) (ctrlWord : ℕ) (payload : List UInt8) :
    Except RxStop (Ccb×List (List UInt8)) :=
  match checkpointRetransmit cfg.peer ccb.fcrb ctrlWord with
  | .error e => .error e
  | .ok fcrb =>
    let txSeq := txSeqOf ctrlWord
    if txSeq≠fcrb.nextSeqExpected then
      (holdOutOfSequence cfg fcrb.nextSeqExpected ccb.rx ctrlWord payload).map fun rx => (⟨fcrb,rx⟩,[])
    else
      let rx := {ccb.rx with rejSent := false,srejSent := false}
      let fcrb := {fcrb with nextSeqExpected := (txSeq+1) &&& l2capFcrSeqModulo}
      match doSarReassembly cfg.maxRxMtu rx payload ctrlWord with
      | .error e => .error e
      | .ok (rx,packetOk,sdu) => if packetOk then .ok (⟨fcrb,rx⟩,sdu.toList) else .error .disconnected

/-- In streaming mode a gap in the sequence drops the SDU in progress. -/
def flushOnGap (txSeq nextSeqExpected : ℕ) (rx : RxFcrb) : RxFcrb :=
  if txSeq≠nextSeqExpected then {rx with pRxSdu := none} else rx

/-- `process_stream_frame`: after the FCS check, an S-frame is dropped, a gap in
the sequence flushes the partial SDU, and a SAR error flushes it too. -/
def processStreamFrame (cfg : ChannelCfg) (ccb : Ccb) (header info : List UInt8) :
    Except RxStop (Ccb×List (List UInt8)) :=
  match checkFcs cfg.bypassFcs header info with
  | none => .ok (ccb,[])
  | some body =>
    let ctrlWord := decodeLE (body.take 2)
    if hasBit ctrlWord l2capFcrSFrameBit then .ok (ccb,[])
    else
      let txSeq := txSeqOf ctrlWord
      let fcrb := {ccb.fcrb with nextSeqExpected := (txSeq+1) &&& l2capFcrSeqModulo}
      match doSarReassembly cfg.maxRxMtu (flushOnGap txSeq ccb.fcrb.nextSeqExpected ccb.rx) (body.drop 2) ctrlWord with
      | .error e => .error e
      | .ok (rx,packetOk,sdu) => .ok (⟨fcrb,if packetOk then rx else {rx with pRxSdu := none}⟩,sdu.toList)

/-- One held frame replayed through `process_i_frame`; frames lost meanwhile
are asked for by a REJ. -/
def replayStep (cfg : ChannelCfg) (acc : Ccb×List (List UInt8)) (held : HeldIFrame) :
    Except RxStop (Ccb×List (List UInt8)) :=
  match processIFrame cfg acc.1 held.ctrlWord held.payload with
  | .error e => .error e
  | .ok (ccb,out) =>
    let ccb :=
      if ccb.rx.rejAfterSrej then {ccb with rx := {ccb.rx with rejAfterSrej := false,rejSent := true}}
      else ccb
    .ok (ccb,acc.2++out)

/-- The replay at the end of `l2c_fcr_proc_pdu`: once the SREJ exception has
cleared, the held frames go through `process_i_frame` again, from a fresh hold queue. -/
def replayHeld (cfg : ChannelCfg) (ccb : Ccb) : Except RxStop (Ccb×List (List UInt8)) :=
  if !ccb.rx.localBusy && !ccb.rx.srejSent && !ccb.rx.srejRcvHoldQ.isEmpty then
    ccb.rx.srejRcvHoldQ.foldlM (replayStep cfg) ({ccb with rx := {ccb.rx with srejRcvHoldQ := []}},[])
  else .ok (ccb,[])

/-- The S-frame path of `l2c_fcr_proc_pdu`: a poll lets another REJ go out, and
`process_s_frame` acts on the sender's state. -/
def receiveSFrame (cfg : ChannelCfg) (ccb : Ccb) (fcrb : Fcrb) (ctrlWord : ℕ) :
    Except RxStop (Ccb×List (List UInt8)) :=
  let rx := if hasBit ctrlWord l2capFcrPBit then {ccb.rx with rejSent := false} else ccb.rx
  match processSFrame cfg.peer fcrb ctrlWord with
  | some fcrb => .ok (⟨fcrb,rx⟩,[])
  | none => .error .disconnected

/-- `l2c_fcr_proc_pdu` on an ERTM channel after the length check: the FCS
check, the poll/final handshake, `process_reqseq`, the S- or I-frame, and the
replay of held frames. -/
def procErtmPdu (cfg : ChannelCfg) (ccb : Ccb) (header info : List UInt8) :
    Except RxStop (Ccb×List (List UInt8)) :=
  match checkFcs cfg.bypassFcs header info with
  | none => .ok (ccb,[])
  | some body =>
    match pollFinal ccb.fcrb (decodeLE (body.take 2)) with
    | none => .ok (ccb,[])
    | some (fcrb,ctrlWord) =>
      match processReqseq fcrb ctrlWord with
      | none => .error .disconnected
      | some fcrb =>
        let frame :=
          if hasBit ctrlWord l2capFcrSFrameBit then receiveSFrame cfg ccb fcrb ctrlWord
          else processIFrame cfg ⟨fcrb,ccb.rx⟩ ctrlWord (body.drop 2)
        match frame with
        | .error e => .error e
        | .ok (ccb,out) => (replayHeld cfg ccb).map fun r => (r.1,out++r.2)

/-- `l2c_fcr_proc_pdu`, for a PDU whose basic header `l2c_rcv_acl_data` has
checked: the length check, then the streaming or the ERTM path. -/
def l2cFcrProcPdu (cfg : ChannelCfg) (ccb : Ccb) (header info : List UInt8) :
    Except RxStop (Ccb×List (List UInt8)) :=
  let minPduLen := if cfg.bypassFcs then l2capFcrOverhead else l2capFcsLen+l2capFcrOverhead
  if info.length < minPduLen then .ok (ccb,[])
  else if cfg.mode=.stream then processStreamFrame cfg ccb header info
  else procErtmPdu cfg ccb header info

/-- `L2CA_FlowControl` on an ERTM channel: the local side stops taking frames, or
resumes and polls the peer. -/
def flowControl (cfg : ChannelCfg) (ccb : Ccb) (dataEnabled : Bool) : Ccb :=
  let onOff := !dataEnabled
  if cfg.mode≠.ertm ∨ ccb.rx.localBusy=onOff then ccb
  else
    let ccb := {ccb with rx := {ccb.rx with localBusy := onOff}}
    if !ccb.fcrb.waitAck && !onOff then {ccb with fcrb := {ccb.fcrb with waitAck := true}} else ccb

/-- What a receiving channel sees. -/
inductive RxEvent where
  /-- A PDU for the channel, basic header first, as `l2c_rcv_acl_data` passes it on. -/
  | receive (pdu : List UInt8)
  /-- The upper layer calls `L2CA_FlowControl`. -/
  | flowControl (dataEnabled : Bool)
  deriving DecidableEq,Repr

/-- One event on a receiving channel; its output is the SDUs handed up. -/
def rxStep (cfg : ChannelCfg) (ccb : Ccb) : RxEvent → Except RxStop (Ccb×List (List UInt8))
  | .receive pdu => l2cFcrProcPdu cfg ccb (pdu.take l2capPktOverhead) (pdu.drop l2capPktOverhead)
  | .flowControl dataEnabled => .ok (flowControl cfg ccb dataEnabled,[])

/-! ### The reassembly buffer -/

/-- `p_rx_sdu` is NULL, or was allocated for `rx_sdu_len ≤ max_rx_mtu` bytes and
holds no more than that. -/
def RxSduInv (maxRxMtu : ℕ) (rx : RxFcrb) : Prop :=
  ∀ sdu,rx.pRxSdu=some sdu → sdu.len ≤ rx.rxSduLen ∧ sdu.buf.length=rx.rxSduLen ∧ rx.rxSduLen ≤ maxRxMtu

theorem rxSduInv_of_none {maxRxMtu : ℕ} {rx : RxFcrb} (h : rx.pRxSdu=none) : RxSduInv maxRxMtu rx := by
  intro sdu hsdu
  rw [h] at hsdu
  cases hsdu

theorem sarStateOk_start {rx : RxFcrb} {sarType : ℕ} {payload : List UInt8}
    (h : sarStateOk rx sarType payload=true) (hstart : sarType=l2capFcrStartSdu) : rx.pRxSdu=none := by
  unfold sarStateOk at h
  rw [if_pos (.inr hstart)] at h
  simp only [Bool.and_eq_true,Option.isNone_iff_eq_none] at h
  exact h.1

theorem sarStateOk_cont {rx : RxFcrb} {sarType : ℕ} {payload : List UInt8}
    (h : sarStateOk rx sarType payload=true) (hunseg : sarType≠l2capFcrUnsegSdu)
    (hstart : sarType≠l2capFcrStartSdu) : rx.pRxSdu.isSome := by
  unfold sarStateOk at h
  rwa [if_neg (not_or.2 ⟨hunseg,hstart⟩)] at h

/-- What `do_sar_reassembly` and its parts leave: the buffer within its
allocation, and the rest of the receive state as it was. -/
structure SarResult (maxRxMtu : ℕ) (rx rx' : RxFcrb) : Prop where
  inv : RxSduInv maxRxMtu rx'
  frame : ∃ pRxSdu rxSduLen,rx'={rx with pRxSdu := pRxSdu,rxSduLen := rxSduLen}

theorem SarResult.refl {maxRxMtu : ℕ} {rx : RxFcrb} (h : RxSduInv maxRxMtu rx) : SarResult maxRxMtu rx rx :=
  ⟨h,⟨rx.pRxSdu,rx.rxSduLen,rfl⟩⟩

theorem SarResult.trans {maxRxMtu : ℕ} {rx rx' rx'' : RxFcrb} (h : SarResult maxRxMtu rx rx')
    (h' : SarResult maxRxMtu rx' rx'') : SarResult maxRxMtu rx rx'' := by
  obtain ⟨p,l,rfl⟩ := h.frame
  obtain ⟨p',l',rfl⟩ := h'.frame
  exact ⟨h'.inv,⟨p',l',rfl⟩⟩

/-- The copy of a segment stays inside the buffer, and an END frame hands up
exactly `rx_sdu_len` bytes. -/
theorem appendSegment_spec {maxRxMtu : ℕ} {rx : RxFcrb} {sarType : ℕ} {data : List UInt8}
    (h : RxSduInv maxRxMtu rx) (hsome : rx.pRxSdu.isSome) :
    ∃ r,appendSegment rx sarType data=.ok r ∧ SarResult maxRxMtu rx r.1 ∧
      ∀ sdu,r.2.2=some sdu → sdu.length=r.1.rxSduLen := by
  obtain ⟨sdu,hsdu⟩ := Option.isSome_iff_exists.1 hsome
  obtain ⟨hlen,hbuf,hmtu⟩ := h sdu hsdu
  unfold appendSegment
  rw [hsdu]
  dsimp only
  split_ifs with hover hshort hend
  · exact ⟨_,rfl,SarResult.refl h,fun _ hs => by cases hs⟩
  · exact ⟨_,rfl,SarResult.refl h,fun _ hs => by cases hs⟩
  all_goals
    -- the copy stays inside the buffer allocated for `rx_sdu_len` bytes
    have hfit : sdu.len+data.length ≤ sdu.buf.length := by omega
    rw [writeBytes_eq_some hfit]
  · refine ⟨_,rfl,⟨rxSduInv_of_none rfl,⟨none,rx.rxSduLen,rfl⟩⟩,fun s hs => ?_⟩
    cases hs
    simp only [List.length_take,List.length_append,List.length_drop]
    have := not_and.1 hshort hend
    omega
  · refine ⟨_,rfl,⟨fun s hs => ?_,⟨_,rx.rxSduLen,rfl⟩⟩,fun _ hs => by cases hs⟩
    cases hs
    simp only [List.length_append,List.length_take,List.length_drop]
    omega

theorem startSdu_spec {maxRxMtu : ℕ} {rx : RxFcrb} {payload : List UInt8} (hnone : rx.pRxSdu=none) :
    SarResult maxRxMtu rx (startSdu maxRxMtu rx payload).1 ∧
      ((startSdu maxRxMtu rx payload).2=true → ((startSdu maxRxMtu rx payload).1.pRxSdu).isSome) := by
  unfold startSdu
  dsimp only
  split_ifs with hmtu
  · exact ⟨⟨rxSduInv_of_none hnone,⟨_,_,rfl⟩⟩,fun h => by cases h⟩
  · refine ⟨⟨fun sdu hsdu => ?_,⟨_,_,rfl⟩⟩,fun _ => rfl⟩
    cases hsdu
    simp only [List.length_replicate,Nat.zero_le,true_and]
    omega

/-- Whatever the frame, `do_sar_reassembly` stays within the buffer it allocated,
and an SDU it rebuilds from segments has the announced length. -/
theorem doSarReassembly_spec {maxRxMtu : ℕ} {rx : RxFcrb} {payload : List UInt8} {ctrlWord : ℕ}
    (h : RxSduInv maxRxMtu rx) :
    ∃ r,doSarReassembly maxRxMtu rx payload ctrlWord=.ok r ∧ SarResult maxRxMtu rx r.1 ∧
      ∀ sdu,r.2.2=some sdu →
        (ctrlWord &&& l2capFcrSegBits=l2capFcrUnsegSdu ∧ sdu=payload) ∨ sdu.length=r.1.rxSduLen := by
  unfold doSarReassembly
  dsimp only
  split_ifs with hstate hunseg hstart
  · exact ⟨_,rfl,SarResult.refl h,fun _ hs => by cases hs⟩
  · exact ⟨_,rfl,SarResult.refl h,fun _ hs => .inl ⟨hunseg,(Option.some.inj hs).symm⟩⟩
  all_goals have hok : sarStateOk rx (ctrlWord &&& l2capFcrSegBits) payload=true := by simpa using hstate
  · -- a START frame: the buffer is allocated for the length it announces
    obtain ⟨hres,hsome⟩ := @startSdu_spec maxRxMtu rx payload (sarStateOk_start hok hstart)
    obtain ⟨r,hr,hres',hlen⟩ := appendSegment_spec hres.inv (hsome ‹_›)
    exact ⟨r,hr,hres.trans hres',fun s hs => .inr (hlen s hs)⟩
  · exact ⟨_,rfl,(@startSdu_spec maxRxMtu rx payload (sarStateOk_start hok hstart)).1,fun _ hs => by cases hs⟩
  · obtain ⟨r,hr,hres,hlen⟩ := appendSegment_spec h (sarStateOk_cont hok hunseg hstart)
    exact ⟨r,hr,hres,fun s hs => .inr (hlen s hs)⟩

/-! ### The receiver's invariant -/

/-- The receiver's invariant: the reassembly buffer within its allocation, and an
SREJ outstanding only while frames are held. -/
structure RxInv (maxRxMtu : ℕ) (rx : RxFcrb) : Prop where
  sdu : RxSduInv maxRxMtu rx
  srej : rx.srejSent=true → rx.srejRcvHoldQ≠[]

/-- What a receive step does from an invariant state: it keeps the invariant,
or it disconnects the channel; it never faults. -/
def RxOk (cfg : ChannelCfg) : Except RxStop (Ccb×List (List UInt8)) → Prop :=
  ResultSpec (fun r => RxInv cfg.maxRxMtu r.1.rx) (fun e => e=.disconnected)

theorem checkpointRetransmit_ok (peer : PeerFcr) (fcrb : Fcrb) (ctrlWord : ℕ) :
    ResultSpec (fun _ => True) (fun e => e=.disconnected) (checkpointRetransmit peer fcrb ctrlWord) := by
  unfold checkpointRetransmit
  split
  · split <;> simp
  · simp

/-- Holding or dropping a frame out of sequence keeps the invariant: the peek at
the last held frame finds one whenever an SREJ is outstanding. -/
theorem holdOutOfSequence_ok {cfg : ChannelCfg} {nextSeqExpected : ℕ} {rx : RxFcrb} {ctrlWord : ℕ}
    {payload : List UInt8} (h : RxInv cfg.maxRxMtu rx) :
    ResultSpec (fun rx' => RxInv cfg.maxRxMtu rx') (fun e => e=.disconnected)
      (holdOutOfSequence cfg nextSeqExpected rx ctrlWord payload) := by
  have hsdu : ∀ rx' : RxFcrb,rx'.pRxSdu=rx.pRxSdu → rx'.rxSduLen=rx.rxSduLen → RxSduInv cfg.maxRxMtu rx' := by
    intro rx' hp hl sdu hs
    rw [hl]
    exact h.sdu sdu (hp ▸ hs)
  unfold holdOutOfSequence
  dsimp only
  split_ifs with hdrop hsrej
  · exact h
  · -- an SREJ is outstanding, so a frame is held
    split
    · next hlast => exact absurd (List.getLast?_eq_none_iff.1 hlast) (h.srej hsrej)
    · split_ifs
      · exact ⟨hsdu _ rfl rfl,fun _ => by simp⟩
      · exact ⟨hsdu _ rfl rfl,h.srej⟩
  · exact h
  · exact ⟨hsdu _ rfl rfl,h.srej⟩
  · exact ⟨hsdu _ rfl rfl,fun _ => by simp⟩

theorem processIFrame_ok {cfg : ChannelCfg} {ccb : Ccb} {ctrlWord : ℕ} {payload : List UInt8}
    (h : RxInv cfg.maxRxMtu ccb.rx) : RxOk cfg (processIFrame cfg ccb ctrlWord payload) := by
  have hcp := checkpointRetransmit_ok cfg.peer ccb.fcrb ctrlWord
  unfold processIFrame
  split
  · next e he => rw [he] at hcp; exact hcp
  · next fcrb he =>
    dsimp only
    split_ifs with hseq
    · -- out of sequence
      have hhold := @holdOutOfSequence_ok cfg fcrb.nextSeqExpected ccb.rx ctrlWord payload h
      revert hhold
      cases holdOutOfSequence cfg fcrb.nextSeqExpected ccb.rx ctrlWord payload <;> exact id
    · -- in sequence: the SREJ exception is cleared before reassembly
      have hclear : RxSduInv cfg.maxRxMtu {ccb.rx with rejSent := false,srejSent := false} := h.sdu
      obtain ⟨⟨rx',packetOk,sdu⟩,hr,hres,-⟩ := @doSarReassembly_spec cfg.maxRxMtu _ payload ctrlWord hclear
      rw [hr]
      dsimp only
      split_ifs
      · obtain ⟨p,l,rfl⟩ := hres.frame
        exact ⟨hres.inv,fun hs => by cases hs⟩
      · rfl

theorem flushOnGap_inv {maxRxMtu txSeq nextSeqExpected : ℕ} {rx : RxFcrb} (h : RxInv maxRxMtu rx) :
    RxInv maxRxMtu (flushOnGap txSeq nextSeqExpected rx) := by
  unfold flushOnGap
  split
  · exact ⟨rxSduInv_of_none rfl,h.srej⟩
  · exact h

/-- Reassembly leaves the SREJ state alone, so it keeps the invariant, and so
does dropping the SDU in progress afterwards. -/
theorem doSarReassembly_inv {maxRxMtu : ℕ} {rx : RxFcrb} {payload : List UInt8} {ctrlWord : ℕ}
    (h : RxInv maxRxMtu rx) :
    ∃ r,doSarReassembly maxRxMtu rx payload ctrlWord=.ok r ∧ RxInv maxRxMtu r.1 ∧
      RxInv maxRxMtu {r.1 with pRxSdu := none} := by
  obtain ⟨r,hr,hres,-⟩ := @doSarReassembly_spec maxRxMtu rx payload ctrlWord h.sdu
  obtain ⟨p,l,hrx⟩ := hres.frame
  refine ⟨r,hr,⟨hres.inv,?_⟩,⟨rxSduInv_of_none rfl,?_⟩⟩ <;> rw [hrx] <;> exact h.srej

theorem processStreamFrame_ok {cfg : ChannelCfg} {ccb : Ccb} {header info : List UInt8}
    (h : RxInv cfg.maxRxMtu ccb.rx) : RxOk cfg (processStreamFrame cfg ccb header info) := by
  unfold processStreamFrame
  split
  · exact h
  · next body hfcs =>
    dsimp only
    split_ifs with hs
    · exact h
    · obtain ⟨⟨rx',packetOk,sdu⟩,hr,hinv,hflush⟩ := @doSarReassembly_inv cfg.maxRxMtu _ (body.drop 2)
        (decodeLE (body.take 2)) (@flushOnGap_inv cfg.maxRxMtu (txSeqOf (decodeLE (body.take 2)))
          ccb.fcrb.nextSeqExpected ccb.rx h)
      rw [hr]
      dsimp only
      -- a SAR error drops the SDU in progress
      split
      · exact hinv
      · exact hflush

theorem replayStep_ok {cfg : ChannelCfg} {acc : Ccb×List (List UInt8)} {held : HeldIFrame}
    (h : RxInv cfg.maxRxMtu acc.1.rx) : RxOk cfg (replayStep cfg acc held) := by
  have hp := @processIFrame_ok cfg acc.1 held.ctrlWord held.payload h
  unfold replayStep
  split
  · next e he => rw [he] at hp; exact hp
  · next ccb out he =>
    rw [he] at hp
    dsimp only
    -- the REJ for frames lost meanwhile touches neither the SDU nor the SREJ state
    split
    · exact ⟨hp.sdu,hp.srej⟩
    · exact hp

/-- The replay starts from an empty hold queue with no SREJ outstanding, and
each replayed frame keeps the invariant. -/
theorem replayHeld_ok {cfg : ChannelCfg} {ccb : Ccb} (h : RxInv cfg.maxRxMtu ccb.rx) :
    RxOk cfg (replayHeld cfg ccb) := by
  unfold replayHeld
  split
  · next hcond =>
    simp only [Bool.and_eq_true,Bool.not_eq_eq_eq_not,Bool.not_true] at hcond
    have hstart : RxInv cfg.maxRxMtu {ccb.rx with srejRcvHoldQ := []} :=
      ⟨h.sdu,fun hs => absurd hs (by simp [hcond.1.2])⟩
    exact ResultSpec.foldlM (fun acc held hacc => replayStep_ok hacc) _ _ hstart
  · exact h

theorem receiveSFrame_ok {cfg : ChannelCfg} {ccb : Ccb} {fcrb : Fcrb} {ctrlWord : ℕ}
    (h : RxInv cfg.maxRxMtu ccb.rx) : RxOk cfg (receiveSFrame cfg ccb fcrb ctrlWord) := by
  unfold receiveSFrame
  dsimp only
  split
  · split
    · exact ⟨h.sdu,h.srej⟩
    · exact h
  · rfl

theorem procErtmPdu_ok {cfg : ChannelCfg} {ccb : Ccb} {header info : List UInt8}
    (h : RxInv cfg.maxRxMtu ccb.rx) : RxOk cfg (procErtmPdu cfg ccb header info) := by
  unfold procErtmPdu
  split
  · exact h
  · next body hfcs =>
    split
    · exact h
    · next fcrb ctrlWord hpf =>
      split
      · rfl
      · next fcrb' hreq =>
        dsimp only
        have hframe : RxOk cfg (if hasBit ctrlWord l2capFcrSFrameBit then receiveSFrame cfg ccb fcrb' ctrlWord
            else processIFrame cfg ⟨fcrb',ccb.rx⟩ ctrlWord (body.drop 2)) := by
          split
          · exact receiveSFrame_ok h
          · exact processIFrame_ok h
        generalize (if hasBit ctrlWord l2capFcrSFrameBit then receiveSFrame cfg ccb fcrb' ctrlWord
            else processIFrame cfg ⟨fcrb',ccb.rx⟩ ctrlWord (body.drop 2))=frame at hframe ⊢
        cases frame with
        | error e => exact hframe
        | ok r =>
          obtain ⟨ccb',out⟩ := r
          have hreplay : RxOk cfg (replayHeld cfg ccb') := replayHeld_ok hframe
          dsimp only
          revert hreplay
          cases replayHeld cfg ccb' <;> exact id

/-- One PDU on an ERTM or streaming channel keeps the receiver's invariant or
disconnects the channel; it never faults. -/
theorem l2cFcrProcPdu_ok {cfg : ChannelCfg} {ccb : Ccb} {header info : List UInt8}
    (h : RxInv cfg.maxRxMtu ccb.rx) : RxOk cfg (l2cFcrProcPdu cfg ccb header info) := by
  unfold l2cFcrProcPdu
  dsimp only
  split_ifs
  all_goals first
    | exact h
    | exact processStreamFrame_ok h
    | exact procErtmPdu_ok h

theorem flowControl_rx_inv {cfg : ChannelCfg} {ccb : Ccb} {dataEnabled : Bool}
    (h : RxInv cfg.maxRxMtu ccb.rx) : RxInv cfg.maxRxMtu (flowControl cfg ccb dataEnabled).rx := by
  unfold flowControl
  dsimp only
  split_ifs
  all_goals first | exact h | exact ⟨h.sdu,h.srej⟩

theorem rxStep_ok {cfg : ChannelCfg} {ccb : Ccb} {event : RxEvent} (h : RxInv cfg.maxRxMtu ccb.rx) :
    RxOk cfg (rxStep cfg ccb event) := by
  cases event with
  | receive pdu => exact l2cFcrProcPdu_ok h
  | flowControl dataEnabled => exact flowControl_rx_inv h

/-- Over every run of a receiving channel the invariant holds, and the run ends
only by a disconnection, never by a fault. -/
theorem runSteps_rxStep_ok {cfg : ChannelCfg} {ccb : Ccb} (events : List RxEvent)
    (h : RxInv cfg.maxRxMtu ccb.rx) : RxOk cfg (runSteps (rxStep cfg) ccb events) :=
  @runSteps_resultSpec Ccb RxEvent (List UInt8) RxStop (rxStep cfg) (fun ccb => RxInv cfg.maxRxMtu ccb.rx)
    (fun e => e=.disconnected) (fun _ _ hs => rxStep_ok hs) events ccb h

/-! ### Reassembly under arbitrary frames -/

/-- The receive state of a channel just configured. -/
def freshRx : RxFcrb := ⟨false,false,false,false,[],none,0⟩

/-- An ERTM channel with the default MTU of 672 bytes and the FCS in use. -/
def ertmChannel : ChannelCfg := ⟨.ertm,windowEightPeer,8,672,false,by decide⟩

/-- A START frame announcing a 3000-byte SDU, over the MTU, with a valid FCS,
then the peer told to stop. -/
def oversizedStart : List RxEvent :=
  [.receive (buildIFrame 0x40 false (iFrameWord l2capFcrStartSdu 0 false 0) (encodeLE 2 3000) [1,2,3]),
    .flowControl false]

theorem sar_reassembly_safety (cfg : ChannelCfg) (ccb : Ccb) (events : List RxEvent)
    (hsdu : ccb.rx.pRxSdu=none) (hsrej : ccb.rx.srejSent=false) :
    ResultSpec (fun r => RxInv cfg.maxRxMtu r.1.rx) (fun e => e=.disconnected)
        (runSteps (rxStep cfg) ccb events) ∧
      ∀ rx payload ctrlWord,RxSduInv cfg.maxRxMtu rx →
        ∃ r,doSarReassembly cfg.maxRxMtu rx payload ctrlWord=.ok r ∧ RxSduInv cfg.maxRxMtu r.1 ∧
          ∀ sdu,r.2.2=some sdu →
            (ctrlWord &&& l2capFcrSegBits=l2capFcrUnsegSdu ∧ sdu=payload) ∨ sdu.length=r.1.rxSduLen := by
  have h : RxInv cfg.maxRxMtu ccb.rx := ⟨rxSduInv_of_none hsdu,fun hs => absurd hs (by simp [hsrej])⟩
  refine ⟨runSteps_rxStep_ok events h,fun rx payload ctrlWord hrx => ?_⟩
  obtain ⟨r,hr,hres,hlen⟩ := @doSarReassembly_spec cfg.maxRxMtu rx payload ctrlWord hrx
  exact ⟨r,hr,hres.inv,hlen⟩

theorem sar_reassembly_safety_oversized_start :
    ResultSpec (fun r => RxInv ertmChannel.maxRxMtu r.1.rx) (fun e => e=.disconnected)
        (runSteps (rxStep ertmChannel) ⟨initialFcrb,freshRx⟩ oversizedStart) ∧
      ∀ rx payload ctrlWord,RxSduInv ertmChannel.maxRxMtu rx →
        ∃ r,doSarReassembly ertmChannel.maxRxMtu rx payload ctrlWord=.ok r ∧ RxSduInv ertmChannel.maxRxMtu r.1 ∧
          ∀ sdu,r.2.2=some sdu →
            (ctrlWord &&& l2capFcrSegBits=l2capFcrUnsegSdu ∧ sdu=payload) ∨ sdu.length=r.1.rxSduLen :=
  sar_reassembly_safety ertmChannel ⟨initialFcrb,freshRx⟩ oversizedStart rfl rfl

/-! ### The round trip of an SDU -/

set_option maxRecDepth 4096 in
theorem crctab_getD_lt (k : ℕ) : crctab.getD k 0 < 65536 := by
  have hall : ∀ x ∈ crctab,x < 65536 := by decide
  rw [List.getD_eq_getElem?_getD]
  cases h : crctab[k]? with
  | none => simp
  | some x => exact hall x (List.mem_of_getElem? h)

/-- The CRC stays a 16-bit value. -/
theorem updcrc_lt {icrc : ℕ} (h : icrc < 65536) (bytes : List UInt8) : updcrc icrc bytes < 65536 := by
  unfold updcrc
  induction bytes generalizing icrc with
  | nil => exact h
  | cons b bytes ih =>
    rw [List.foldl_cons]
    apply ih
    have hlow : (icrc >>> 8) &&& 0xff < 2^16 := lt_of_le_of_lt Nat.and_le_right (by decide)
    exact Nat.xor_lt_two_pow hlow (crctab_getD_lt _)

/-- The receiver recomputes over the frame exactly the FCS the sender appended. -/
theorem checkFcs_buildIFrame (remoteCid : ℕ) (bypassFcs : Bool) (ctrlWord : ℕ) (sduLenField data : List UInt8) :
    checkFcs bypassFcs ((buildIFrame remoteCid bypassFcs ctrlWord sduLenField data).take l2capPktOverhead)
      ((buildIFrame remoteCid bypassFcs ctrlWord sduLenField data).drop l2capPktOverhead)=
      some (encodeLE 2 ctrlWord++sduLenField++data) := by
  generalize hbody : encodeLE 2 ctrlWord++sduLenField++data=body
  cases bypassFcs
  · -- the FCS is in use: it covers the basic header and the body
    generalize hhead : encodeLE 2 (body.length+l2capFcsLen)++encodeLE 2 remoteCid=head
    have hlen : head.length=l2capPktOverhead := by rw [← hhead]; simp [l2capPktOverhead]
    have hframe : buildIFrame remoteCid false ctrlWord sduLenField data=head++(body++encodeLE 2 (txGetFcs (head++body))) := by
      simp only [buildIFrame,hbody,hhead,Bool.false_eq_true,if_false,List.append_assoc]
    have hfcs : txGetFcs (head++body) < 2^(8*2) := updcrc_lt (by decide) _
    rw [hframe,List.take_left' hlen,List.drop_left' hlen]
    simp only [checkFcs,Bool.false_eq_true,if_false,List.length_append,length_encodeLE,l2capFcsLen,
      Nat.add_sub_cancel,List.take_left,List.drop_left]
    rw [decodeLE_encodeLE_of_lt (by simpa using hfcs)]
    simp [rxGetFcs,txGetFcs]
  · have hframe : buildIFrame remoteCid true ctrlWord sduLenField data=
        (encodeLE 2 body.length++encodeLE 2 remoteCid)++body := by
      simp only [buildIFrame,hbody,if_true,List.append_assoc]
    have hlen : (encodeLE 2 body.length++encodeLE 2 remoteCid).length=l2capPktOverhead := by
      simp [l2capPktOverhead]
    rw [hframe,List.take_left' hlen,List.drop_left' hlen]
    rfl

/-- `p_rx_sdu` part of the way through an SDU of `len` bytes: the bytes so far,
then the rest of the allocation. -/
def partialSdu (done : List UInt8) (len : ℕ) : RxSdu :=
  ⟨done++List.replicate (len-done.length) 0,done.length⟩

theorem writeBytes_partialSdu {done data : List UInt8} {len : ℕ} (h : done.length+data.length ≤ len) :
    writeBytes (partialSdu done len).buf (partialSdu done len).len data=some (partialSdu (done++data) len).buf := by
  have hfit : (partialSdu done len).len+data.length ≤ (partialSdu done len).buf.length := by
    simp only [partialSdu,List.length_append,List.length_replicate]
    omega
  rw [writeBytes_eq_some hfit]
  simp only [partialSdu,List.take_left,List.length_append,List.drop_append,List.drop_replicate,
    List.append_assoc]
  rw [List.drop_eq_nil_of_le (by omega),List.nil_append,Nat.sub_sub,Nat.add_sub_cancel_left]

theorem doSarReassembly_unseg {maxRxMtu : ℕ} {rx : RxFcrb} {payload : List UInt8} {ctrlWord : ℕ}
    (hsar : ctrlWord &&& l2capFcrSegBits=l2capFcrUnsegSdu) (hnone : rx.pRxSdu=none) :
    doSarReassembly maxRxMtu rx payload ctrlWord=.ok (rx,true,some payload) := by
  have hok : sarStateOk rx l2capFcrUnsegSdu payload=true := by
    simp [sarStateOk,hnone,l2capFcrUnsegSdu,l2capFcrStartSdu]
  simp only [doSarReassembly,hsar,hok,Bool.not_true,Bool.false_eq_true,if_false,if_true]

/-- A START frame allocates the SDU it announces and copies its data to the front. -/
theorem doSarReassembly_start {maxRxMtu len : ℕ} {rx : RxFcrb} {data : List UInt8} {ctrlWord : ℕ}
    (hsar : ctrlWord &&& l2capFcrSegBits=l2capFcrStartSdu) (hnone : rx.pRxSdu=none)
    (hlt : data.length < len) (hmtu : len ≤ maxRxMtu) (hlen : len < 65536) :
    doSarReassembly maxRxMtu rx (encodeLE 2 len++data) ctrlWord=
      .ok ({rx with rxSduLen := len,pRxSdu := some (partialSdu data len)},true,none) := by
  have hok : sarStateOk rx l2capFcrStartSdu (encodeLE 2 len++data)=true := by
    simp [sarStateOk,hnone,l2capFcrStartSdu,l2capSduLenOverhead]
  have hfield : decodeLE ((encodeLE 2 len++data).take 2)=len := by
    rw [List.take_left' (length_encodeLE 2 len),decodeLE_encodeLE_of_lt (by simpa using hlen)]
  have hstart : startSdu maxRxMtu rx (encodeLE 2 len++data)=
      ({rx with rxSduLen := len,pRxSdu := some (partialSdu [] len)},true) := by
    simp only [startSdu,hfield,if_neg (Nat.not_lt.2 hmtu)]
    rfl
  have happend : appendSegment {rx with rxSduLen := len,pRxSdu := some (partialSdu [] len)}
      l2capFcrStartSdu data=.ok ({rx with rxSduLen := len,pRxSdu := some (partialSdu data len)},true,none) := by
    have hw := @writeBytes_partialSdu [] data len (by simpa using hlt.le)
    simp only [partialSdu,List.length_nil,List.nil_append] at hw
    simp only [appendSegment,partialSdu,List.length_nil,List.nil_append,Nat.zero_add,hw,
      if_neg (Nat.not_lt.2 hlt.le),l2capFcrStartSdu,l2capFcrEndSdu]
    simp
  simp only [doSarReassembly,hsar,hok,Bool.not_true,Bool.false_eq_true,if_false,if_true,hstart,
    List.drop_left' (length_encodeLE 2 len),happend,
    (by decide : l2capFcrStartSdu≠l2capFcrUnsegSdu)]

theorem partialSdu_len (done : List UInt8) (len : ℕ) : (partialSdu done len).len=done.length := rfl

theorem partialSdu_append_eq (done data : List UInt8) (len : ℕ) :
    (⟨(partialSdu (done++data) len).buf,(partialSdu done len).len+data.length⟩ : RxSdu)=
      partialSdu (done++data) len := by
  simp [partialSdu]

/-- A CONTINUATION frame extends the SDU in progress. -/
theorem doSarReassembly_cont {maxRxMtu : ℕ} {rx : RxFcrb} {done data : List UInt8} {ctrlWord : ℕ}
    (hsar : ctrlWord &&& l2capFcrSegBits=l2capFcrContSdu) (hp : rx.pRxSdu=some (partialSdu done rx.rxSduLen))
    (hlt : done.length+data.length < rx.rxSduLen) :
    doSarReassembly maxRxMtu rx data ctrlWord=
      .ok ({rx with pRxSdu := some (partialSdu (done++data) rx.rxSduLen)},true,none) := by
  have hok : sarStateOk rx l2capFcrContSdu data=true := by
    simp [sarStateOk,hp,l2capFcrContSdu,l2capFcrUnsegSdu,l2capFcrStartSdu]
  have hfit : ¬rx.rxSduLen < (partialSdu done rx.rxSduLen).len+data.length := Nat.not_lt.2 hlt.le
  simp only [doSarReassembly,hsar,hok,appendSegment,hp,Bool.not_true,Bool.false_eq_true,if_false,hfit,
    (by decide : l2capFcrContSdu≠l2capFcrUnsegSdu),(by decide : l2capFcrContSdu≠l2capFcrStartSdu),
    (by decide : l2capFcrContSdu≠l2capFcrEndSdu),false_and]
  rw [writeBytes_partialSdu hlt.le]
  dsimp only
  rw [partialSdu_append_eq]

/-- An END frame completes the SDU and hands it up. -/
theorem doSarReassembly_end {maxRxMtu : ℕ} {rx : RxFcrb} {done data : List UInt8} {ctrlWord : ℕ}
    (hsar : ctrlWord &&& l2capFcrSegBits=l2capFcrEndSdu) (hp : rx.pRxSdu=some (partialSdu done rx.rxSduLen))
    (heq : done.length+data.length=rx.rxSduLen) :
    doSarReassembly maxRxMtu rx data ctrlWord=.ok ({rx with pRxSdu := none},true,some (done++data)) := by
  have hok : sarStateOk rx l2capFcrEndSdu data=true := by
    simp [sarStateOk,hp,l2capFcrEndSdu,l2capFcrUnsegSdu,l2capFcrStartSdu]
  have hfull : (partialSdu done rx.rxSduLen).len+data.length=rx.rxSduLen := heq
  simp only [doSarReassembly,hsar,hok,appendSegment,hp,Bool.not_true,Bool.false_eq_true,if_false,if_true,
    hfull,ne_eq,not_true,and_false,
    (by decide : l2capFcrEndSdu≠l2capFcrUnsegSdu),(by decide : l2capFcrEndSdu≠l2capFcrStartSdu)]
  rw [writeBytes_partialSdu heq.le]
  dsimp only
  -- the whole allocation is handed up
  rw [← heq]
  simp [partialSdu]

theorem cutSegment_sar (maxPdu : ℕ) (sdu : HoldSdu) :
    (cutSegment maxPdu sdu).1=l2capFcrUnsegSdu ∨ (cutSegment maxPdu sdu).1=l2capFcrStartSdu ∨
      (cutSegment maxPdu sdu).1=l2capFcrContSdu ∨ (cutSegment maxPdu sdu).1=l2capFcrEndSdu := by
  unfold cutSegment
  split_ifs <;> simp

/-- The SAR type ORed into an SDU's `layer_specific` leaves its flushable bits out
of the SAR field. -/
theorem layerSpecific_or_sar {layerSpecific sar : ℕ} (hls : layerSpecific ≤ l2capFlushableMask)
    (hsar : sar=l2capFcrUnsegSdu ∨ sar=l2capFcrStartSdu ∨ sar=l2capFcrContSdu ∨ sar=l2capFcrEndSdu) :
    (layerSpecific ||| sar) &&& l2capFcrSegBits=sar := by
  simp only [l2capFlushableMask] at hls
  interval_cases layerSpecific <;> rcases hsar with rfl | rfl | rfl | rfl <;> decide

/-- A new frame, field by field: the next piece of the SDU, numbered
`next_tx_seq` and acknowledging `next_seq_expected` in retransmission mode. -/
theorem xmitNewFrame_eq (mode : FcrMode) (remoteCid : ℕ) (bypassFcs : Bool) (maxPdu : ℕ) (tx : Fcrb)
    (sdu : HoldSdu) (hn : tx.nextTxSeq < 64) (hr : tx.nextSeqExpected < 64) :
    xmitNewFrame mode remoteCid bypassFcs maxPdu tx sdu=
      ({tx with sendFRsp := false,nextTxSeq := (tx.nextTxSeq+1)%64},
        buildIFrame remoteCid bypassFcs
          (iFrameWord (cutSegment maxPdu sdu).1 tx.nextTxSeq (decide (mode=.ertm) && tx.sendFRsp)
            (if mode=.ertm then tx.nextSeqExpected else 0))
          (cutSegment maxPdu sdu).2.1 (cutSegment maxPdu sdu).2.2.1,
        (cutSegment maxPdu sdu).2.2.2) := by
  have hfst := prepareIFrame_fst mode tx ⟨0,sdu.layerSpecific ||| (cutSegment maxPdu sdu).1⟩ false
  have hsnd := prepareIFrame_new_snd mode tx ⟨0,sdu.layerSpecific ||| (cutSegment maxPdu sdu).1⟩ hn hr
  rw [layerSpecific_or_sar sdu.layerSpecific_le (cutSegment_sar maxPdu sdu)] at hsnd
  simp only [Bool.false_eq_true,if_false] at hfst
  unfold xmitNewFrame
  rw [← hfst,← hsnd]

theorem decodeLE_take_encodeLE {w : ℕ} (hw : w < 65536) (rest : List UInt8) :
    decodeLE ((encodeLE 2 w++rest).take 2)=w := by
  rw [List.take_left' (length_encodeLE 2 w),decodeLE_encodeLE_of_lt (by simpa using hw)]

section inSequence

variable {cfg : ChannelCfg} {ccb : Ccb} {header info payload : List UInt8} {sar txSeq reqSeq : ℕ}
  {fBit : Bool} {rx' : RxFcrb} {out : Option (List UInt8)}

/-- An I-frame that passed the FCS check and arrives in sequence on a streaming
channel goes to `do_sar_reassembly` with its data. -/
theorem processStreamFrame_iFrame
    (hfcs : checkFcs cfg.bypassFcs header info=some (encodeLE 2 (iFrameWord sar txSeq fBit reqSeq)++payload))
    (hs : IsSarBits sar) (ht : txSeq < 64) (hr : reqSeq < 64)
    (hsar : doSarReassembly cfg.maxRxMtu (flushOnGap txSeq ccb.fcrb.nextSeqExpected ccb.rx) payload
      (iFrameWord sar txSeq fBit reqSeq)=.ok (rx',true,out)) :
    processStreamFrame cfg ccb header info=.ok (⟨{ccb.fcrb with nextSeqExpected := (txSeq+1)%64},rx'⟩,out.toList) := by
  have hw := decodeLE_take_encodeLE (@iFrameWord_lt sar txSeq reqSeq fBit hs ht hr) payload
  unfold processStreamFrame
  rw [hfcs]
  dsimp only
  rw [hw,hasBit_sFrameBit_iFrameWord hs,txSeqOf_iFrameWord hs ht,List.drop_left' (length_encodeLE 2 _),hsar]
  simp only [Bool.false_eq_true,if_false,if_true,seqModulo_succ]

/-- An I-frame that passed the FCS check and arrives in sequence on an ERTM
channel that waits for no final bit and has nothing to acknowledge goes to `do_sar_reassembly` with its data and the F bit ignored. -/
theorem procErtmPdu_iFrame
    (hfcs : checkFcs cfg.bypassFcs header info=some (encodeLE 2 (iFrameWord sar txSeq fBit reqSeq)++payload))
    (hs : IsSarBits sar) (ht : txSeq < 64) (hr : reqSeq < 64) (hseq : ccb.fcrb.nextSeqExpected=txSeq)
    (hwait : ccb.fcrb.waitAck=false) (hack : ccb.fcrb.lastRxAck=reqSeq)
    (hsar : doSarReassembly cfg.maxRxMtu {ccb.rx with rejSent := false,srejSent := false} payload
      (iFrameWord sar txSeq false reqSeq)=.ok (rx',true,out)) (hheld' : rx'.srejRcvHoldQ=[]) :
    procErtmPdu cfg ccb header info=.ok (⟨{ccb.fcrb with nextSeqExpected := (txSeq+1)%64},rx'⟩,out.toList) := by
  have hw := decodeLE_take_encodeLE (@iFrameWord_lt sar txSeq reqSeq fBit hs ht hr) payload
  -- outside a poll the F bit is cleared, which leaves the rest of the word
  have hpoll : pollFinal ccb.fcrb (iFrameWord sar txSeq fBit reqSeq)=
      some (ccb.fcrb,iFrameWord sar txSeq false reqSeq) := by
    simp only [pollFinal,hwait,Bool.false_eq_true,if_false,iFrameWord_clear_fBit hs ht hr]
  -- its `req_seq` acknowledges nothing
  have hreq : processReqseq ccb.fcrb (iFrameWord sar txSeq false reqSeq)=some ccb.fcrb := by
    have hsrej : isSrejWithoutPoll (iFrameWord sar txSeq false reqSeq)=false := by
      simp [isSrejWithoutPoll,hasBit_sFrameBit_iFrameWord hs]
    rw [processReqseq_of_not_srej hsrej,reqSeqOf_iFrameWord hs ht hr,← hack]
    simp [numBufsAcked]
  have hframe : processIFrame cfg ⟨ccb.fcrb,ccb.rx⟩ (iFrameWord sar txSeq false reqSeq) payload=
      .ok (⟨{ccb.fcrb with nextSeqExpected := (txSeq+1)%64},rx'⟩,out.toList) := by
    simp only [processIFrame,checkpointRetransmit,hasBit_fBit_iFrameWord hs ht,Bool.false_eq_true,if_false,
      txSeqOf_iFrameWord hs ht,hseq,ne_eq,not_true,hsar,if_true,seqModulo_succ]
  have hreplay : replayHeld cfg ⟨{ccb.fcrb with nextSeqExpected := (txSeq+1)%64},rx'⟩=
      .ok (⟨{ccb.fcrb with nextSeqExpected := (txSeq+1)%64},rx'⟩,[]) := by
    simp [replayHeld,hheld']
  unfold procErtmPdu
  rw [hfcs]
  dsimp only
  rw [hw,hpoll]
  dsimp only
  rw [hreq]
  dsimp only
  rw [hasBit_sFrameBit_iFrameWord hs,List.drop_left' (length_encodeLE 2 _)]
  simp only [Bool.false_eq_true,if_false]
  rw [hframe]
  dsimp only
  rw [hreplay]
  simp [Except.map]

end inSequence

/-- The receiver is ready for the sender's next frame: in sequence with it (or,
in streaming mode, with no SDU in progress), and in retransmission mode waiting
for no final bit, with nothing to acknowledge and no frame held. -/
structure Ready (cfg : ChannelCfg) (tx : Fcrb) (ccb : Ccb) : Prop where
  txSeq_lt : tx.nextTxSeq < 64
  reqSeq_lt : tx.nextSeqExpected < 64
  inSeq : ccb.fcrb.nextSeqExpected=tx.nextTxSeq ∨ (cfg.mode=.stream ∧ ccb.rx.pRxSdu=none)
  ertm : cfg.mode=.ertm → ccb.fcrb.waitAck=false ∧ ccb.fcrb.lastRxAck=tx.nextSeqExpected ∧ ccb.rx.srejRcvHoldQ=[]

theorem isSarBits_of_sar {sar : ℕ}
    (hsar : sar=l2capFcrUnsegSdu ∨ sar=l2capFcrStartSdu ∨ sar=l2capFcrContSdu ∨ sar=l2capFcrEndSdu) :
    IsSarBits sar := by
  rcases hsar with rfl | rfl | rfl | rfl <;> unfold IsSarBits <;> decide

theorem length_drop_buildIFrame (remoteCid : ℕ) (bypassFcs : Bool) (ctrlWord : ℕ) (sduLenField data : List UInt8) :
    ((buildIFrame remoteCid bypassFcs ctrlWord sduLenField data).drop l2capPktOverhead).length=
      2+sduLenField.length+data.length+(if bypassFcs then 0 else l2capFcsLen) := by
  cases bypassFcs <;> simp [buildIFrame,l2capPktOverhead,l2capFcsLen] <;> omega

theorem xmitSdu_succ_of_none {mode : FcrMode} {remoteCid : ℕ} {bypassFcs : Bool} {maxPdu fuel : ℕ}
    {tx : Fcrb} {sdu : HoldSdu} (h : (xmitNewFrame mode remoteCid bypassFcs maxPdu tx sdu).2.2=none) :
    (xmitSdu mode remoteCid bypassFcs maxPdu (fuel+1) tx sdu).2=[(xmitNewFrame mode remoteCid bypassFcs maxPdu tx sdu).2.1] := by
  simp only [xmitSdu]
  rw [h]

theorem xmitSdu_succ_of_some {mode : FcrMode} {remoteCid : ℕ} {bypassFcs : Bool} {maxPdu fuel : ℕ}
    {tx : Fcrb} {sdu rest : HoldSdu} (h : (xmitNewFrame mode remoteCid bypassFcs maxPdu tx sdu).2.2=some rest) :
    (xmitSdu mode remoteCid bypassFcs maxPdu (fuel+1) tx sdu).2=
      (xmitNewFrame mode remoteCid bypassFcs maxPdu tx sdu).2.1::
        (xmitSdu mode remoteCid bypassFcs maxPdu fuel (xmitNewFrame mode remoteCid bypassFcs maxPdu tx sdu).1 rest).2 := by
  simp only [xmitSdu]
  rw [h]

/-- An I-frame laid out by `buildIFrame` is long enough for the length check of
`l2c_fcr_proc_pdu`. -/
theorem buildIFrame_long_enough (remoteCid : ℕ) (bypassFcs : Bool) (ctrlWord : ℕ) (sduLenField data : List UInt8) :
    ¬((buildIFrame remoteCid bypassFcs ctrlWord sduLenField data).drop l2capPktOverhead).length <
      (if bypassFcs then l2capFcrOverhead else l2capFcsLen+l2capFcrOverhead) := by
  rw [length_drop_buildIFrame]
  split <;> simp [l2capFcrOverhead,l2capFcsLen] <;> omega

/-- Every frame sent for an SDU is an I-frame laid out by `buildIFrame`. -/
theorem mem_xmitSdu {mode : FcrMode} {remoteCid : ℕ} {bypassFcs : Bool} {maxPdu : ℕ} :
    ∀ (fuel : ℕ) (tx : Fcrb) (sdu : HoldSdu),∀ pdu ∈ (xmitSdu mode remoteCid bypassFcs maxPdu fuel tx sdu).2,
      ∃ ctrlWord sduLenField data,pdu=buildIFrame remoteCid bypassFcs ctrlWord sduLenField data
  | 0,_,_,pdu,hmem => by simp [xmitSdu] at hmem
  | fuel+1,tx,sdu,pdu,hmem => by
    have hframe : ∃ ctrlWord sduLenField data,(xmitNewFrame mode remoteCid bypassFcs maxPdu tx sdu).2.1=
        buildIFrame remoteCid bypassFcs ctrlWord sduLenField data := ⟨_,_,_,rfl⟩
    cases hrest : (xmitNewFrame mode remoteCid bypassFcs maxPdu tx sdu).2.2 with
    | none =>
      rw [xmitSdu_succ_of_none hrest,List.mem_singleton] at hmem
      exact hmem ▸ hframe
    | some rest =>
      rw [xmitSdu_succ_of_some hrest,List.mem_cons] at hmem
      rcases hmem with rfl | hmem
      · exact hframe
      · exact mem_xmitSdu fuel _ rest pdu hmem

/-- A frame `xmitNewFrame` built, received by a ready channel, reaches
`do_sar_reassembly` with its SAR type and its bytes, and leaves the channel
ready for the next one. -/
theorem rxStep_xmitNewFrame {cfg : ChannelCfg} {tx : Fcrb} {ccb : Ccb} {sdu : HoldSdu} {remoteCid maxPdu : ℕ}
    (h : Ready cfg tx ccb) {pRxSdu : Option RxSdu} {rxSduLen : ℕ} {out : Option (List UInt8)}
    (hsar : ∀ (rx : RxFcrb) ctrlWord,rx.pRxSdu=ccb.rx.pRxSdu → rx.rxSduLen=ccb.rx.rxSduLen →
      ctrlWord &&& l2capFcrSegBits=(cutSegment maxPdu sdu).1 →
      doSarReassembly cfg.maxRxMtu rx ((cutSegment maxPdu sdu).2.1++(cutSegment maxPdu sdu).2.2.1) ctrlWord=
        .ok ({rx with pRxSdu := pRxSdu,rxSduLen := rxSduLen},true,out)) :
    ∃ ccb',rxStep cfg ccb (.receive (xmitNewFrame cfg.mode remoteCid cfg.bypassFcs maxPdu tx sdu).2.1)=
        .ok (ccb',out.toList) ∧ ccb'.rx.pRxSdu=pRxSdu ∧ ccb'.rx.rxSduLen=rxSduLen ∧
        Ready cfg (xmitNewFrame cfg.mode remoteCid cfg.bypassFcs maxPdu tx sdu).1 ccb' := by
  have hs := isSarBits_of_sar (cutSegment_sar maxPdu sdu)
  have ht := h.txSeq_lt
  rw [xmitNewFrame_eq _ _ _ _ _ _ ht h.reqSeq_lt]
  generalize (cutSegment maxPdu sdu).1=sar at hs hsar
  generalize (cutSegment maxPdu sdu).2.1=sduLenField at hsar
  generalize (cutSegment maxPdu sdu).2.2.1=data at hsar
  generalize hreq : (if cfg.mode=.ertm then tx.nextSeqExpected else 0)=reqSeq
  have hr : reqSeq < 64 := by
    have := h.reqSeq_lt
    rw [← hreq]
    split <;> omega
  generalize (decide (cfg.mode=.ertm) && tx.sendFRsp)=fBit
  have hfcs := checkFcs_buildIFrame remoteCid cfg.bypassFcs (iFrameWord sar tx.nextTxSeq fBit reqSeq) sduLenField data
  rw [List.append_assoc] at hfcs
  simp only [rxStep,l2cFcrProcPdu]
  rw [if_neg (buildIFrame_long_enough _ _ _ _ _)]
  cases hmode : cfg.mode
  · -- retransmission mode: the F bit is ignored and the piggybacked `req_seq` acknowledges nothing
    obtain ⟨hwait,hack,hheld⟩ := h.ertm hmode
    have hseq : ccb.fcrb.nextSeqExpected=tx.nextTxSeq := h.inSeq.resolve_right fun hs => by
      rw [hmode] at hs
      cases hs.1
    simp only [hmode,if_true] at hreq
    have hdo := hsar {ccb.rx with rejSent := false,srejSent := false} (iFrameWord sar tx.nextTxSeq false reqSeq)
      rfl rfl (segBits_iFrameWord hs ht hr)
    rw [if_neg (by decide),procErtmPdu_iFrame hfcs hs ht hr hseq hwait (hack.trans hreq) hdo hheld]
    exact ⟨_,rfl,rfl,rfl,⟨Nat.mod_lt _ (by norm_num),h.reqSeq_lt,.inl rfl,fun _ => ⟨hwait,hack,hheld⟩⟩⟩
  · -- streaming mode: a frame after a gap finds no SDU in progress to drop
    have hview : (flushOnGap tx.nextTxSeq ccb.fcrb.nextSeqExpected ccb.rx).pRxSdu=ccb.rx.pRxSdu ∧
        (flushOnGap tx.nextTxSeq ccb.fcrb.nextSeqExpected ccb.rx).rxSduLen=ccb.rx.rxSduLen := by
      unfold flushOnGap
      split
      · next hgap =>
        have hnone := (h.inSeq.resolve_left fun he => hgap he.symm).2
        exact ⟨hnone.symm,rfl⟩
      · exact ⟨rfl,rfl⟩
    have hdo := hsar _ (iFrameWord sar tx.nextTxSeq fBit reqSeq)
      hview.1 hview.2 (segBits_iFrameWord hs ht hr)
    rw [if_pos rfl,processStreamFrame_iFrame hfcs hs ht hr hdo]
    exact ⟨_,rfl,rfl,rfl,⟨Nat.mod_lt _ (by norm_num),h.reqSeq_lt,.inl rfl,fun hm => by rw [hmode] at hm; cases hm⟩⟩

/-- After the START frame, CONTINUATION frames while more than an MPS remains and
then the END frame rebuild the rest of the SDU, by induction on the calls left. -/
theorem runSteps_xmitSdu_rest {cfg : ChannelCfg} {remoteCid maxPdu : ℕ} :
    ∀ (fuel : ℕ) (tx : Fcrb) (ccb : Ccb) (sdu : HoldSdu) (done : List UInt8),
      Ready cfg tx ccb → sdu.started=true → sdu.data≠[] → sdu.data.length ≤ fuel*maxPdu →
      ccb.rx.pRxSdu=some (partialSdu done ccb.rx.rxSduLen) → done.length+sdu.data.length=ccb.rx.rxSduLen →
      ∃ ccb',runSteps (rxStep cfg) ccb
          ((xmitSdu cfg.mode remoteCid cfg.bypassFcs maxPdu fuel tx sdu).2.map .receive)=
          .ok (ccb',[done++sdu.data]) ∧ ccb'.rx.pRxSdu=none
  | 0,_,_,sdu,_,_,_,hne,hfuel,_,_ => absurd (List.length_eq_zero_iff.mp (by rw [Nat.zero_mul] at hfuel; omega)) hne
  | fuel+1,tx,ccb,sdu,done,h,hstarted,hne,hfuel,hp,hlen => by
    by_cases hcont : maxPdu < sdu.data.length
    · -- a CONTINUATION frame of `max_pdu` bytes
      have hcut : cutSegment maxPdu sdu=(l2capFcrContSdu,[],sdu.data.take maxPdu,
          some {sdu with data := sdu.data.drop maxPdu,started := true}) := by
        simp [cutSegment,hcont,hstarted]
      have htake : (sdu.data.take maxPdu).length=maxPdu := by simp; omega
      have hlt : done.length+(sdu.data.take maxPdu).length < ccb.rx.rxSduLen := by omega
      obtain ⟨ccb1,hstep,hp1,hl1,hready⟩ := @rxStep_xmitNewFrame cfg tx ccb sdu remoteCid maxPdu h
        (some (partialSdu (done++sdu.data.take maxPdu) ccb.rx.rxSduLen)) ccb.rx.rxSduLen none
        (fun rx ctrlWord hpv hlv hsar => by
          rw [hcut] at hsar ⊢
          dsimp only
          rw [List.nil_append,doSarReassembly_cont hsar (by rw [hpv,hp,hlv]) (by rw [hlv]; exact hlt),hlv])
      have hrest : (xmitNewFrame cfg.mode remoteCid cfg.bypassFcs maxPdu tx sdu).2.2=
          some {sdu with data := sdu.data.drop maxPdu,started := true} := by
        rw [xmitNewFrame_eq _ _ _ _ _ _ h.txSeq_lt h.reqSeq_lt,hcut]
      obtain ⟨ccb',hrun,hnone⟩ := runSteps_xmitSdu_rest fuel _ ccb1
        {sdu with data := sdu.data.drop maxPdu,started := true} (done++sdu.data.take maxPdu) hready rfl
        (by simp; omega) (by simp [Nat.succ_mul] at hfuel ⊢; omega) (by rw [hp1,hl1])
        (by simp [hl1]; omega)
      refine ⟨ccb',?_,hnone⟩
      rw [xmitSdu_succ_of_some hrest,List.map_cons,runSteps_cons_of_ok hstep,hrun]
      simp only [Except.map,Option.toList,List.nil_append,List.append_assoc,List.take_append_drop]
    · -- the END frame carries what remains
      have hcut : cutSegment maxPdu sdu=(l2capFcrEndSdu,[],sdu.data,none) := by
        simp [cutSegment,hcont,hstarted]
      obtain ⟨ccb1,hstep,hp1,-,-⟩ := @rxStep_xmitNewFrame cfg tx ccb sdu remoteCid maxPdu h
        none ccb.rx.rxSduLen (some (done++sdu.data))
        (fun rx ctrlWord hpv hlv hsar => by
          rw [hcut] at hsar ⊢
          dsimp only
          rw [List.nil_append,doSarReassembly_end hsar (by rw [hpv,hp,hlv]) (by omega),hlv])
      have hrest : (xmitNewFrame cfg.mode remoteCid cfg.bypassFcs maxPdu tx sdu).2.2=none := by
        rw [xmitNewFrame_eq _ _ _ _ _ _ h.txSeq_lt h.reqSeq_lt,hcut]
      refine ⟨ccb1,?_,hp1⟩
      rw [xmitSdu_succ_of_none hrest,List.map_cons,List.map_nil,runSteps_cons_of_ok hstep]
      rfl

/-! ### The frames the sender cuts -/

/-- A frame sent for a segment: the I-frame of its SDU length field and data, with the segment's
SAR type in the SAR bits of its control word. -/
def FrameOf (remoteCid : ℕ) (bypassFcs : Bool) (pdu : List UInt8) (seg : ℕ×List UInt8×List UInt8) : Prop :=
  ∃ ctrlWord,ctrlWord &&& l2capFcrSegBits=seg.1 ∧ pdu=buildIFrame remoteCid bypassFcs ctrlWord seg.2.1 seg.2.2

section Shape

variable {mode : FcrMode} {remoteCid : ℕ} {bypassFcs : Bool} {maxPdu : ℕ}

/-- A new frame is the I-frame of the piece `cutSegment` takes, and leaves both sequence numbers
below 64. -/
theorem xmitNewFrame_frameOf (tx : Fcrb) (sdu : HoldSdu) (hn : tx.nextTxSeq < 64) (hr : tx.nextSeqExpected < 64) :
    FrameOf remoteCid bypassFcs (xmitNewFrame mode remoteCid bypassFcs maxPdu tx sdu).2.1
        ((cutSegment maxPdu sdu).1,(cutSegment maxPdu sdu).2.1,(cutSegment maxPdu sdu).2.2.1) ∧
      (xmitNewFrame mode remoteCid bypassFcs maxPdu tx sdu).1.nextTxSeq < 64 ∧
      (xmitNewFrame mode remoteCid bypassFcs maxPdu tx sdu).1.nextSeqExpected < 64 := by
  have hreq : (if mode=.ertm then tx.nextSeqExpected else 0) < 64 := by
    split <;> omega
  rw [xmitNewFrame_eq _ _ _ _ _ _ hn hr]
  exact ⟨⟨_,segBits_iFrameWord (isSarBits_of_sar (cutSegment_sar maxPdu sdu)) hn hreq,rfl⟩,
    Nat.mod_lt _ (by norm_num),hr⟩

/-- After the START frame, the sender cuts CONTINUATION frames of `max_pdu` bytes while more than
that remains, and then one END frame of the rest, by induction on the calls left. -/
theorem xmitSdu_cont_shape :
    ∀ (fuel : ℕ) (tx : Fcrb) (sdu : HoldSdu),tx.nextTxSeq < 64 → tx.nextSeqExpected < 64 →
      sdu.started=true → sdu.data≠[] → sdu.data.length ≤ fuel*maxPdu →
      ∃ (mids : List (List UInt8)) (last : List UInt8),
        List.Forall₂ (FrameOf remoteCid bypassFcs) (xmitSdu mode remoteCid bypassFcs maxPdu fuel tx sdu).2
          ((mids.map fun d => (l2capFcrContSdu,[],d))++[(l2capFcrEndSdu,[],last)]) ∧
        (∀ d ∈ mids,d.length=maxPdu) ∧ 0 < last.length ∧ last.length ≤ maxPdu ∧ mids.flatten++last=sdu.data
  | 0,_,sdu,_,_,_,hne,hfuel => absurd (List.length_eq_zero_iff.mp (by rw [Nat.zero_mul] at hfuel; omega)) hne
  | fuel+1,tx,sdu,hn,hr,hstarted,hne,hfuel => by
    obtain ⟨hframe,hn',hr'⟩ := @xmitNewFrame_frameOf mode remoteCid bypassFcs maxPdu tx sdu hn hr
    by_cases hcont : maxPdu < sdu.data.length
    · -- a CONTINUATION frame of `max_pdu` bytes, then the rest
      have hcut : cutSegment maxPdu sdu=(l2capFcrContSdu,[],sdu.data.take maxPdu,
          some {sdu with data := sdu.data.drop maxPdu,started := true}) := by
        simp [cutSegment,hcont,hstarted]
      have hrest : (xmitNewFrame mode remoteCid bypassFcs maxPdu tx sdu).2.2=
          some {sdu with data := sdu.data.drop maxPdu,started := true} := by
        rw [xmitNewFrame_eq _ _ _ _ _ _ hn hr,hcut]
      obtain ⟨mids,last,hframes,hmids,hpos,hle,hcat⟩ := xmitSdu_cont_shape fuel _
        {sdu with data := sdu.data.drop maxPdu,started := true} hn' hr' rfl (by simp; omega)
        (by simp [Nat.succ_mul] at hfuel ⊢; omega)
      refine ⟨sdu.data.take maxPdu::mids,last,?_,?_,hpos,hle,?_⟩
      · rw [xmitSdu_succ_of_some hrest]
        rw [hcut] at hframe
        exact .cons hframe hframes
      · intro d hd
        rcases List.mem_cons.mp hd with rfl | hd
        · simp only [List.length_take]
          omega
        · exact hmids d hd
      · rw [List.flatten_cons,List.append_assoc,hcat,List.take_append_drop]
    · -- the END frame carries what remains
      have hcut : cutSegment maxPdu sdu=(l2capFcrEndSdu,[],sdu.data,none) := by
        simp [cutSegment,hcont,hstarted]
      have hrest : (xmitNewFrame mode remoteCid bypassFcs maxPdu tx sdu).2.2=none := by
        rw [xmitNewFrame_eq _ _ _ _ _ _ hn hr,hcut]
      refine ⟨[],sdu.data,?_,by simp,List.length_pos_of_ne_nil hne,by omega,by simp⟩
      rw [xmitSdu_succ_of_none hrest]
      rw [hcut] at hframe
      exact .cons hframe .nil

/-- The frames sent for a fresh SDU of `L` bytes over an MPS `m`: one unsegmented frame when
`L ≤ m`; otherwise a START frame with the two-byte SDU length and `m` bytes, CONTINUATION frames of
`m` bytes and an END frame of 1 to `m` bytes, whose data make up the SDU. -/
theorem xmitSdu_shape (fuel : ℕ) (tx : Fcrb) (sdu : HoldSdu) (hn : tx.nextTxSeq < 64) (hr : tx.nextSeqExpected < 64)
    (hfresh : sdu.started=false) (hfuel : 0 < fuel ∧ sdu.data.length ≤ fuel*maxPdu) :
    ∃ segs,List.Forall₂ (FrameOf remoteCid bypassFcs) (xmitSdu mode remoteCid bypassFcs maxPdu fuel tx sdu).2 segs ∧
      (sdu.data.length ≤ maxPdu → segs=[(l2capFcrUnsegSdu,[],sdu.data)]) ∧
      (maxPdu < sdu.data.length → ∃ (mids : List (List UInt8)) (last : List UInt8),
        segs=(l2capFcrStartSdu,encodeLE 2 sdu.data.length,sdu.data.take maxPdu)::
          ((mids.map fun d => (l2capFcrContSdu,[],d))++[(l2capFcrEndSdu,[],last)]) ∧
        (∀ d ∈ mids,d.length=maxPdu) ∧ 0 < last.length ∧ last.length ≤ maxPdu ∧
        sdu.data.take maxPdu++mids.flatten++last=sdu.data) := by
  obtain ⟨fuel,rfl⟩ : ∃ n,fuel=n+1 := ⟨fuel-1,by omega⟩
  obtain ⟨hframe,hn',hr'⟩ := @xmitNewFrame_frameOf mode remoteCid bypassFcs maxPdu tx sdu hn hr
  by_cases hseg : maxPdu < sdu.data.length
  · -- a START frame with the SDU length and `max_pdu` bytes, then the rest
    have hcut : cutSegment maxPdu sdu=(l2capFcrStartSdu,encodeLE 2 sdu.data.length,sdu.data.take maxPdu,
        some {sdu with data := sdu.data.drop maxPdu,started := true}) := by
      simp [cutSegment,hseg,hfresh]
    have hrest : (xmitNewFrame mode remoteCid bypassFcs maxPdu tx sdu).2.2=
        some {sdu with data := sdu.data.drop maxPdu,started := true} := by
      rw [xmitNewFrame_eq _ _ _ _ _ _ hn hr,hcut]
    obtain ⟨mids,last,hframes,hmids,hpos,hle,hcat⟩ := xmitSdu_cont_shape fuel _
      {sdu with data := sdu.data.drop maxPdu,started := true} hn' hr' rfl (by simp; omega)
      (by simp [Nat.succ_mul] at hfuel ⊢; omega)
    rw [hcut] at hframe
    refine ⟨_,by rw [xmitSdu_succ_of_some hrest]; exact .cons hframe hframes,fun hle' => absurd hle' (by omega),
      fun _ => ⟨mids,last,rfl,hmids,hpos,hle,?_⟩⟩
    rw [List.append_assoc,hcat,List.take_append_drop]
  · -- one unsegmented frame
    have hcut : cutSegment maxPdu sdu=(l2capFcrUnsegSdu,[],sdu.data,none) := by
      simp [cutSegment,hseg,hfresh]
    have hrest : (xmitNewFrame mode remoteCid bypassFcs maxPdu tx sdu).2.2=none := by
      rw [xmitNewFrame_eq _ _ _ _ _ _ hn hr,hcut]
    rw [hcut] at hframe
    exact ⟨_,by rw [xmitSdu_succ_of_none hrest]; exact .cons hframe .nil,fun _ => rfl,fun hlt => absurd hlt hseg⟩

end Shape

/-- The SAR round trip: an SDU of `L` bytes, at most `max_rx_mtu`, cut by as many calls
of `l2c_fcr_get_next_xmit_sdu_seg` as its MPS `m` needs, goes out as one unsegmented
frame when `L ≤ m`, and otherwise as a START frame with the two-byte SDU length and
`m` bytes, CONTINUATION frames of `m` bytes and an END frame of 1 to `m` bytes; the
frames pass the length and FCS checks of `l2c_fcr_proc_pdu`, and a ready receiver
with no SDU in progress hands up exactly that SDU and frees `p_rx_sdu`. -/
theorem sar_round_trip (cfg : ChannelCfg) (remoteCid txMps fuel : ℕ) (tx : Fcrb) (ccb : Ccb) (sdu : HoldSdu)
    (hmtu : sdu.data.length ≤ cfg.maxRxMtu) (hfresh : sdu.started=false)
    (hfuel : 0 < fuel ∧ sdu.data.length ≤ fuel*txMps) (h : Ready cfg tx ccb) (hnone : ccb.rx.pRxSdu=none) :
    (∃ segs,List.Forall₂ (FrameOf remoteCid cfg.bypassFcs)
        (xmitSdu cfg.mode remoteCid cfg.bypassFcs (maxPduOf txMps 0) fuel tx sdu).2 segs ∧
      (sdu.data.length ≤ txMps → segs=[(l2capFcrUnsegSdu,[],sdu.data)]) ∧
      (txMps < sdu.data.length → ∃ (mids : List (List UInt8)) (last : List UInt8),
        segs=(l2capFcrStartSdu,encodeLE 2 sdu.data.length,sdu.data.take txMps)::
          ((mids.map fun d => (l2capFcrContSdu,[],d))++[(l2capFcrEndSdu,[],last)]) ∧
        (∀ d ∈ mids,d.length=txMps) ∧ 0 < last.length ∧ last.length ≤ txMps ∧
        sdu.data.take txMps++mids.flatten++last=sdu.data)) ∧
    (∀ pdu ∈ (xmitSdu cfg.mode remoteCid cfg.bypassFcs (maxPduOf txMps 0) fuel tx sdu).2,
      ¬(pdu.drop l2capPktOverhead).length <
          (if cfg.bypassFcs then l2capFcrOverhead else l2capFcsLen+l2capFcrOverhead) ∧
        (checkFcs cfg.bypassFcs (pdu.take l2capPktOverhead) (pdu.drop l2capPktOverhead)).isSome) ∧
      ∃ ccb',runSteps (rxStep cfg) ccb
          ((xmitSdu cfg.mode remoteCid cfg.bypassFcs (maxPduOf txMps 0) fuel tx sdu).2.map .receive)=
          .ok (ccb',[sdu.data]) ∧ ccb'.rx.pRxSdu=none := by
  have hpdu : maxPduOf txMps 0=txMps := by simp [maxPduOf]
  refine ⟨by rw [hpdu]; exact xmitSdu_shape fuel tx sdu h.txSeq_lt h.reqSeq_lt hfresh hfuel,fun pdu hmem => ?_,?_⟩
  · obtain ⟨ctrlWord,sduLenField,data,rfl⟩ := mem_xmitSdu _ _ _ pdu hmem
    exact ⟨buildIFrame_long_enough _ _ _ _ _,by rw [checkFcs_buildIFrame]; rfl⟩
  rw [hpdu]
  obtain ⟨fuel,rfl⟩ : ∃ n,fuel=n+1 := ⟨fuel-1,by omega⟩
  by_cases hseg : txMps < sdu.data.length
  · -- a START frame with the SDU length and `mps` bytes, then the rest
    have hcut : cutSegment txMps sdu=(l2capFcrStartSdu,encodeLE 2 sdu.data.length,sdu.data.take txMps,
        some {sdu with data := sdu.data.drop txMps,started := true}) := by
      simp [cutSegment,hseg,hfresh]
    have htake : (sdu.data.take txMps).length=txMps := by simp; omega
    have hlen : sdu.data.length < 65536 := lt_of_le_of_lt hmtu cfg.maxRxMtu_lt
    obtain ⟨ccb1,hstep,hp1,hl1,hready⟩ := @rxStep_xmitNewFrame cfg tx ccb sdu remoteCid txMps h
      (some (partialSdu (sdu.data.take txMps) sdu.data.length)) sdu.data.length none
      (fun rx ctrlWord hpv _ hsar => by
        rw [hcut] at hsar ⊢
        dsimp only
        exact doSarReassembly_start hsar (hpv.trans hnone) (by omega) hmtu hlen)
    have hrest : (xmitNewFrame cfg.mode remoteCid cfg.bypassFcs txMps tx sdu).2.2=
        some {sdu with data := sdu.data.drop txMps,started := true} := by
      rw [xmitNewFrame_eq _ _ _ _ _ _ h.txSeq_lt h.reqSeq_lt,hcut]
    obtain ⟨ccb',hrun,hnone'⟩ := runSteps_xmitSdu_rest fuel _ ccb1
      {sdu with data := sdu.data.drop txMps,started := true} (sdu.data.take txMps) hready rfl
      (by simp; omega) (by simp [Nat.succ_mul] at hfuel ⊢; omega) (by rw [hp1,hl1])
      (by simp [hl1]; omega)
    refine ⟨ccb',?_,hnone'⟩
    rw [xmitSdu_succ_of_some hrest,List.map_cons,runSteps_cons_of_ok hstep,hrun]
    simp only [Except.map,Option.toList,List.nil_append,List.take_append_drop]
  · -- one unsegmented frame
    have hcut : cutSegment txMps sdu=(l2capFcrUnsegSdu,[],sdu.data,none) := by
      simp [cutSegment,hseg,hfresh]
    obtain ⟨ccb1,hstep,hp1,-,-⟩ := @rxStep_xmitNewFrame cfg tx ccb sdu remoteCid txMps h
      ccb.rx.pRxSdu ccb.rx.rxSduLen (some sdu.data)
      (fun rx ctrlWord hpv hlv hsar => by
        rw [hcut] at hsar ⊢
        rw [List.nil_append,doSarReassembly_unseg hsar (hpv.trans hnone),← hpv,← hlv])
    have hrest : (xmitNewFrame cfg.mode remoteCid cfg.bypassFcs txMps tx sdu).2.2=none := by
      rw [xmitNewFrame_eq _ _ _ _ _ _ h.txSeq_lt h.reqSeq_lt,hcut]
    refine ⟨ccb1,?_,hp1.trans hnone⟩
    rw [xmitSdu_succ_of_none hrest,List.map_cons,List.map_nil,runSteps_cons_of_ok hstep]
    rfl

/-- A channel just configured is ready for the first frame of its peer's sender. -/
theorem ready_initial (cfg : ChannelCfg) : Ready cfg initialFcrb ⟨initialFcrb,freshRx⟩ :=
  ⟨by decide,by decide,.inl rfl,fun _ => ⟨rfl,rfl,rfl⟩⟩

/-- Five bytes with nothing sent yet. -/
def fiveByteSdu : HoldSdu := ⟨[1,2,3,4,5],false,0,by decide⟩

/-- Over an MPS of two bytes the five bytes go as START, CONTINUATION and END frames
and come out whole. -/
theorem sar_round_trip_five_bytes :
    Ready ertmChannel initialFcrb ⟨initialFcrb,freshRx⟩ ∧
      ∃ ccb',runSteps (rxStep ertmChannel) ⟨initialFcrb,freshRx⟩
          ((xmitSdu .ertm 0x40 false (maxPduOf 2 0) 3 initialFcrb fiveByteSdu).2.map .receive)=
          .ok (ccb',[[1,2,3,4,5]]) ∧ ccb'.rx.pRxSdu=none :=
  ⟨ready_initial ertmChannel,(sar_round_trip ertmChannel 0x40 2 3 initialFcrb ⟨initialFcrb,freshRx⟩ fiveByteSdu
    (by decide) rfl (by decide) (ready_initial ertmChannel) rfl).2.2⟩

end BluetoothStack.L2capSar
