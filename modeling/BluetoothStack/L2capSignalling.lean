import BluetoothStack.StepRun

/-!
# The L2CAP signalling command parser (stack/l2cap/l2c_main.cc)

`process_l2cap_cmd` takes the payload of a frame on the BR/EDR signalling
channel, which may hold several commands. Its loop reads each command's code,
identifier and length, checks the command against the end of the packet and
dispatches on the code; every case checks its fields against the start of the
next command before it reads them, and the two configuration cases walk the
options with loops of their own.

The packet is the list of its `pkt_len` bytes and every read is bounds checked,
so a read outside the packet is a fault of the model, as is a shift by the width
of `int` or more. The loops always end, and every case reads only inside its
command but one: the information response, whose fixed-channel mask is copied
without a length check and whose `1 << info_type` shifts by a peer's 16-bit
value.
-/

namespace BluetoothStack.L2capSignalling

open ByteBuffer StepRun

/-! ### Codes -/

/-- `L2CAP_CMD_REJECT`. -/
def l2capCmdReject : ℕ := 0x01
/-- `L2CAP_CMD_CONN_REQ`. -/
def l2capCmdConnReq : ℕ := 0x02
/-- `L2CAP_CMD_CONN_RSP`. -/
def l2capCmdConnRsp : ℕ := 0x03
/-- `L2CAP_CMD_CONFIG_REQ`. -/
def l2capCmdConfigReq : ℕ := 0x04
/-- `L2CAP_CMD_CONFIG_RSP`. -/
def l2capCmdConfigRsp : ℕ := 0x05
/-- `L2CAP_CMD_DISC_REQ`. -/
def l2capCmdDiscReq : ℕ := 0x06
/-- `L2CAP_CMD_DISC_RSP`. -/
def l2capCmdDiscRsp : ℕ := 0x07
/-- `L2CAP_CMD_ECHO_REQ`. -/
def l2capCmdEchoReq : ℕ := 0x08
/-- `L2CAP_CMD_ECHO_RSP`. -/
def l2capCmdEchoRsp : ℕ := 0x09
/-- `L2CAP_CMD_INFO_REQ`. -/
def l2capCmdInfoReq : ℕ := 0x0A
/-- `L2CAP_CMD_INFO_RSP`. -/
def l2capCmdInfoRsp : ℕ := 0x0B
/-- `L2CAP_CMD_AMP_CONN_REQ`. -/
def l2capCmdAmpConnReq : ℕ := 0x0C
/-- `L2CAP_CMD_AMP_MOVE_REQ`. -/
def l2capCmdAmpMoveReq : ℕ := 0x0E
/-- `L2CAP_CMD_BLE_UPDATE_REQ`. -/
def l2capCmdBleUpdateReq : ℕ := 0x12

/-- `L2CAP_CMD_REJ_NOT_UNDERSTOOD`. -/
def l2capCmdRejNotUnderstood : ℕ := 0
/-- `L2CAP_CMD_REJ_MTU_EXCEEDED`. -/
def l2capCmdRejMtuExceeded : ℕ := 1
/-- `L2CAP_CMD_REJ_INVALID_CID`. -/
def l2capCmdRejInvalidCid : ℕ := 2

/-- `L2CAP_DEFAULT_MTU`: the signalling MTU. -/
def l2capDefaultMtu : ℕ := 672
/-- `BT_SMALL_BUFFER_SIZE`: the longest command accepted. -/
def btSmallBufferSize : ℕ := 660
/-- `L2CAP_CFG_OPTION_OVERHEAD`: an option's type and length. -/
def l2capCfgOptionOverhead : ℕ := 2
/-- `L2CAP_CONFIG_REQ_LEN`: the channel id and flags before the options. -/
def l2capConfigReqLen : ℕ := 4

/-- `L2CAP_EXTENDED_FEATURES_INFO_TYPE`. -/
def l2capExtendedFeaturesInfoType : ℕ := 0x0002
/-- `L2CAP_FIXED_CHANNELS_INFO_TYPE`. -/
def l2capFixedChannelsInfoType : ℕ := 0x0003
/-- `L2CAP_INFO_RESP_RESULT_SUCCESS`. -/
def l2capInfoRespResultSuccess : ℕ := 0
/-- `L2CAP_FIXED_CHNL_ARRAY_SIZE`: the bytes of a fixed-channel mask. -/
def l2capFixedChnlArraySize : ℕ := 8
/-- `L2CAP_EXTFEA_FIXED_CHNLS`. -/
def l2capExtfeaFixedChnls : ℕ := 0x00000080

/-! ### Reading the packet -/

/-- A little-endian field of the packet; a read outside the packet is a fault. -/
def rd (pkt : List UInt8) (pos w : ℕ) : Except Fault ℕ := inRange (readLE pkt pos w)

/-- Consecutive little-endian fields of the given widths, as the `STREAM_TO_UINT*`
macros read them one after the other. -/
def readFields (pkt : List UInt8) : ℕ → List ℕ → Except Fault (List ℕ)
  | _,[] => .ok []
  | pos,w::ws => rd pkt pos w >>= fun v => (readFields pkt (pos+w) ws).map (v::·)

/-! ### Configuration options -/

/-- The option types `process_l2cap_cmd` knows, by `cfg_code & 0x7F`. -/
inductive CfgType where
  /-- `L2CAP_CFG_TYPE_MTU`. -/
  | mtu
  /-- `L2CAP_CFG_TYPE_FLUSH_TOUT`. -/
  | flushTout
  /-- `L2CAP_CFG_TYPE_QOS`. -/
  | qos
  /-- `L2CAP_CFG_TYPE_FCR`. -/
  | fcr
  /-- `L2CAP_CFG_TYPE_FCS`. -/
  | fcs
  /-- `L2CAP_CFG_TYPE_EXT_FLOW`. -/
  | extFlow
  deriving DecidableEq,Repr

/-- The option type of `cfg_code & 0x7F`, if it is one of those known. -/
def CfgType.ofCode : ℕ → Option CfgType
  | 0x01 => some .mtu
  | 0x02 => some .flushTout
  | 0x03 => some .qos
  | 0x04 => some .fcr
  | 0x05 => some .fcs
  | 0x06 => some .extFlow
  | _ => none

/-- The widths of the fields an option carries, in the order they are read. -/
def CfgType.fieldWidths : CfgType → List ℕ
  | .mtu => [2]
  | .flushTout => [2]
  | .qos => [1,1,4,4,4,4,4]
  | .fcr => [1,1,1,2,2,2]
  | .fcs => [1]
  | .extFlow => [1,1,2,4,4,4]

/-- The length each option is checked against. -/
def CfgType.optionLen : CfgType → ℕ
  | .mtu => 2
  | .flushTout => 2
  | .qos => 2+5*4
  | .fcr => 3+3*2
  | .fcs => 1
  | .extFlow => 2+2+3*4

/-- The fields of `tL2CAP_CFG_INFO` that the options and headers set. -/
structure CfgInfo where
  flags : ℕ
  result : ℕ
  mtuPresent : Bool
  mtu : ℕ
  flushToPresent : Bool
  flushTo : ℕ
  qosPresent : Bool
  /-- `qos_flags`, `service_type`, `token_rate`, `token_bucket_size`,
  `peak_bandwidth`, `latency`, `delay_variation`. -/
  qos : List ℕ
  fcrPresent : Bool
  /-- `mode`, `tx_win_sz`, `max_transmit`, `rtrans_tout`, `mon_tout`, `mps`. -/
  fcr : List ℕ
  fcsPresent : Bool
  fcs : ℕ
  extFlowSpecPresent : Bool
  /-- `id`, `stype`, `max_sdu_size`, `sdu_inter_time`, `access_latency`, `flush_timeout`. -/
  extFlowSpec : List ℕ
  deriving DecidableEq,Repr

/-- `cfg_info` after its `memset`. -/
def cfgInfoZero : CfgInfo :=
  ⟨0,0,false,0,false,0,false,List.replicate 7 0,false,List.replicate 6 0,false,0,false,List.replicate 6 0⟩

/-- The presence flags cleared before the options of a command; that of the
extended flow specification is not among them. -/
def CfgInfo.resetPresent (info : CfgInfo) : CfgInfo :=
  {info with mtuPresent := false,flushToPresent := false,qosPresent := false,fcrPresent := false,fcsPresent := false}

/-- The presence flag of an option, set before its length is checked. -/
def CfgInfo.setPresent (info : CfgInfo) : CfgType → CfgInfo
  | .mtu => {info with mtuPresent := true}
  | .flushTout => {info with flushToPresent := true}
  | .qos => {info with qosPresent := true}
  | .fcr => {info with fcrPresent := true}
  | .fcs => {info with fcsPresent := true}
  | .extFlow => {info with extFlowSpecPresent := true}

/-- The values an option's fields were read as. -/
def CfgInfo.setValues (info : CfgInfo) (vs : List ℕ) : CfgType → CfgInfo
  | .mtu => {info with mtu := vs.headD 0}
  | .flushTout => {info with flushTo := vs.headD 0}
  | .qos => {info with qos := vs}
  | .fcr => {info with fcr := vs}
  | .fcs => {info with fcs := vs.headD 0}
  | .extFlow => {info with extFlowSpec := vs}

/-! ### The link and what the parser passes on -/

/-- The fields of `tL2C_LCB` the signalling channel reads and writes. -/
structure Lcb where
  /-- `transport == BT_TRANSPORT_LE`. -/
  transportLe : Bool
  w4InfoRsp : Bool
  /-- A `uint8_t`. -/
  infoRxBits : ℕ
  peerExtFea : ℕ
  peerChnlMask : List UInt8
  /-- `p_echo_rsp_cb != NULL`. -/
  echoRspCb : Bool
  deriving DecidableEq,Repr

/-- What the commands hand to the channels and to the peer. -/
inductive SigOut where
  /-- `l2cu_send_peer_cmd_reject(p_lcb, reason, id, p1, p2)`. -/
  | cmdReject (reason id p1 p2 : ℕ)
  /-- The peer rejected a channel id: a fake disconnect of that channel. -/
  | rejectInvalidCid (lcid rcid : ℕ)
  /-- `L2CEVT_L2CAP_INFO_RSP` to every channel of the link. -/
  | infoRspToChannels
  /-- A connection request for the channel state machines. -/
  | connReq (id psm rcid : ℕ)
  /-- A connection response for the channel with `lcid`. -/
  | connRsp (id remoteCid lcid result status : ℕ)
  /-- A configuration request for the channel with `lcid`. -/
  | configReq (id lcid : ℕ) (cfgInfo : CfgInfo)
  /-- A configuration request with options to reject: the options handed to
  `l2cu_send_peer_config_rej` and the length of those rejected. -/
  | configRej (id lcid : ℕ) (options : List UInt8) (rejLen : ℕ)
  /-- A configuration response for the channel with `lcid`. -/
  | configRsp (id lcid : ℕ) (cfgInfo : CfgInfo)
  /-- A disconnection request. -/
  | discReq (id lcid rcid : ℕ)
  /-- A disconnection response. -/
  | discRsp (id rcid lcid : ℕ)
  /-- `l2cu_send_peer_echo_rsp` with the request's data. -/
  | echoReq (id : ℕ) (data : List UInt8)
  /-- The echo response callback. -/
  | echoRspCb
  /-- `l2cu_send_peer_info_rsp`. -/
  | infoReq (id infoType : ℕ)
  /-- `l2cu_send_peer_info_req`. -/
  | sendInfoReq (infoType : ℕ)
  /-- `l2cu_process_fixed_chnl_resp`. -/
  | fixedChnlResp
  deriving DecidableEq,Repr

/-- The parser's state: the link, `cfg_info`, and what was passed on so far. -/
structure SigState where
  lcb : Lcb
  cfgInfo : CfgInfo
  out : List SigOut
  deriving DecidableEq,Repr

/-- Pass something on. -/
def SigState.emit (s : SigState) (o : SigOut) : SigState := {s with out := s.out++[o]}

/-- Update the link. -/
def SigState.setLcb (s : SigState) (lcb : Lcb) : SigState := {s with lcb := lcb}

/-- What a command case leaves: the state, and whether the loop goes on to the
next command (`break`) or `process_l2cap_cmd` returns. -/
structure CmdResult where
  state : SigState
  goOn : Bool

/-! ### The command cases -/

/-- The cases that check `n` 16-bit fields against the next command, read them
and pass them on. -/
def fieldsCase (pkt : List UInt8) (n p pNextCmd : ℕ) (s : SigState) (out : List ℕ → SigOut) :
    Except Fault CmdResult :=
  if pNextCmd < p+2*n then .ok ⟨s,false⟩
  else (readFields pkt p (List.replicate n 2)).map fun vs => ⟨s.emit (out vs),true⟩

/-- `L2CAP_CMD_CONN_REQ`: the PSM and the peer's channel id. -/
def onConnReq (pkt : List UInt8) (id p pNextCmd : ℕ) (s : SigState) : Except Fault CmdResult :=
  fieldsCase pkt 2 p pNextCmd s fun vs => .connReq id (vs.getD 0 0) (vs.getD 1 0)

/-- `L2CAP_CMD_CONN_RSP`: the peer's channel id, ours, the result and the status. -/
def onConnRsp (pkt : List UInt8) (id p pNextCmd : ℕ) (s : SigState) : Except Fault CmdResult :=
  fieldsCase pkt 4 p pNextCmd s fun vs => .connRsp id (vs.getD 0 0) (vs.getD 1 0) (vs.getD 2 0) (vs.getD 3 0)

/-- `L2CAP_CMD_DISC_REQ`: our channel id, then the peer's. -/
def onDiscReq (pkt : List UInt8) (id p pNextCmd : ℕ) (s : SigState) : Except Fault CmdResult :=
  fieldsCase pkt 2 p pNextCmd s fun vs => .discReq id (vs.getD 0 0) (vs.getD 1 0)

/-- `L2CAP_CMD_DISC_RSP`: the peer's channel id, then ours. -/
def onDiscRsp (pkt : List UInt8) (id p pNextCmd : ℕ) (s : SigState) : Except Fault CmdResult :=
  fieldsCase pkt 2 p pNextCmd s fun vs => .discRsp id (vs.getD 0 0) (vs.getD 1 0)

/-- `L2CAP_CMD_INFO_REQ`: the information type asked for. -/
def onInfoReq (pkt : List UInt8) (id p pNextCmd : ℕ) (s : SigState) : Except Fault CmdResult :=
  fieldsCase pkt 1 p pNextCmd s fun vs => .infoReq id (vs.getD 0 0)

/-- A command reject after its reason: an MTU reject's MTU is read and only
logged, an invalid channel id is a fake disconnect, and a request not
understood while an information response is awaited lets the channels go on. -/
def rejectReason (pkt : List UInt8) (rejReason p pNextCmd : ℕ) (s : SigState) : Except Fault CmdResult :=
  if rejReason=l2capCmdRejMtuExceeded then
    if pNextCmd < p+2 then .ok ⟨s,false⟩ else (rd pkt p 2).map fun _ => ⟨s,true⟩
  else if rejReason=l2capCmdRejInvalidCid then
    if pNextCmd < p+4 then .ok ⟨s,false⟩
    else (readFields pkt p [2,2]).map fun cids => ⟨s.emit (.rejectInvalidCid (cids.getD 1 0) (cids.getD 0 0)),true⟩
  else if rejReason=l2capCmdRejNotUnderstood ∧ s.lcb.w4InfoRsp=true then
    .ok ⟨(s.setLcb {s.lcb with w4InfoRsp := false}).emit .infoRspToChannels,true⟩
  else .ok ⟨s,true⟩

/-- `L2CAP_CMD_REJECT`. -/
def onCmdReject (pkt : List UInt8) (p pNextCmd : ℕ) (s : SigState) : Except Fault CmdResult :=
  if pNextCmd < p+2 then .ok ⟨s,false⟩
  else rd pkt p 2 >>= fun rejReason => rejectReason pkt rejReason (p+2) pNextCmd s

/-- What the option loop of a CONFIG_REQ gathers. -/
structure ReqOptions where
  cfgInfo : CfgInfo
  cfgRej : Bool
  cfgRejLen : ℕ
  deriving DecidableEq,Repr

/-- A known option of a CONFIG_REQ after its type and length: its length must be
the one of its type and fit in the command. -/
def knownReqOption (pkt : List UInt8) (pNextCmd p cfgLen : ℕ) (t : CfgType) (acc : ReqOptions) :
    Except Fault (Option (ℕ×ReqOptions)) :=
  let acc := {acc with cfgInfo := acc.cfgInfo.setPresent t}
  if cfgLen≠t.optionLen then .ok none
  else if pNextCmd < p+cfgLen then .ok none
  else (readFields pkt p t.fieldWidths).map fun vs =>
    some (p+t.fieldWidths.sum,{acc with cfgInfo := acc.cfgInfo.setValues vs t})

/-- An option of a CONFIG_REQ of unknown type: skipped, and to be rejected unless
it is a hint; one longer than the command forces the loop to its end. -/
def unknownReqOption (cmdLen pNextCmd pCfgEnd p cfgCode cfgLen : ℕ) (acc : ReqOptions) :
    Option (ℕ×ReqOptions) :=
  if cfgLen+l2capCfgOptionOverhead ≤ cmdLen then
    if pNextCmd < p+cfgLen then none
    else if cfgCode &&& 0x80=0 then
      some (p+cfgLen,{acc with cfgRejLen := (acc.cfgRejLen+cfgLen+l2capCfgOptionOverhead)%65536,cfgRej := true})
    else some (p+cfgLen,acc)
  else some (pCfgEnd,{acc with cfgRej := true})

/-- One option of a CONFIG_REQ at `p`: where the next one starts, or `none` when
`process_l2cap_cmd` returns. -/
def configReqOption (pkt : List UInt8) (cmdLen pNextCmd pCfgEnd p : ℕ) (acc : ReqOptions) :
    Except Fault (Option (ℕ×ReqOptions)) :=
  if pNextCmd < p+2 then .ok none
  else
    rd pkt p 1 >>= fun cfgCode => rd pkt (p+1) 1 >>= fun cfgLen =>
      match CfgType.ofCode (cfgCode &&& 0x7F) with
      | some t => knownReqOption pkt pNextCmd (p+2) cfgLen t acc
      | none => .ok (unknownReqOption cmdLen pNextCmd pCfgEnd (p+2) cfgCode cfgLen acc)

/-- The option loop of a CONFIG_REQ, while `p < p_cfg_end`, at most `fuel` times. -/
def configReqOptions (pkt : List UInt8) (cmdLen pNextCmd pCfgEnd : ℕ) :
    ℕ → ℕ → ReqOptions → Except Fault (Option ReqOptions)
  | fuel,p,acc =>
    if p < pCfgEnd then
      match fuel with
      | 0 => .error .noProgress
      | fuel+1 =>
        configReqOption pkt cmdLen pNextCmd pCfgEnd p acc >>= fun
          | none => .ok none
          | some (p,acc) => configReqOptions pkt cmdLen pNextCmd pCfgEnd fuel p acc
    else .ok (some acc)

/-- `L2CAP_CMD_CONFIG_REQ`: our channel id and the flags, then the options; the
request goes to the channel, or the options to `l2cu_send_peer_config_rej`. -/
def onConfigReq (pkt : List UInt8) (id cmdLen p pNextCmd : ℕ) (s : SigState) : Except Fault CmdResult :=
  let pCfgEnd := p+cmdLen
  if pNextCmd < p+4 then .ok ⟨s,false⟩
  else
    readFields pkt p [2,2] >>= fun hdr =>
      let pCfgStart := p+4
      let cfgInfo := {s.cfgInfo with flags := hdr.getD 1 0}.resetPresent
      configReqOptions pkt cmdLen pNextCmd pCfgEnd (cmdLen+1) pCfgStart ⟨cfgInfo,false,0⟩ >>= fun
        | none => .ok ⟨s,false⟩
        | some acc =>
          let s := {s with cfgInfo := acc.cfgInfo}
          if acc.cfgRej then
            (inRange (readBytes pkt pCfgStart (toUint16 ((cmdLen : ℤ)-l2capConfigReqLen)))).map fun options =>
              ⟨s.emit (.configRej id (hdr.getD 0 0) options acc.cfgRejLen),true⟩
          else .ok ⟨s.emit (.configReq id (hdr.getD 0 0) acc.cfgInfo),true⟩

/-- One option of a CONFIG_RSP at `p`. There is no default case: the length of an
option of unknown type is read but not used, and its payload is read as the
next option. -/
def configRspOption (pkt : List UInt8) (pNextCmd p : ℕ) (cfgInfo : CfgInfo) :
    Except Fault (Option (ℕ×CfgInfo)) :=
  if pNextCmd < p+2 then .ok none
  else
    rd pkt p 1 >>= fun cfgCode => rd pkt (p+1) 1 >>= fun _ =>
      match CfgType.ofCode (cfgCode &&& 0x7F) with
      | some t =>
        if pNextCmd < p+2+t.optionLen then .ok none
        else (readFields pkt (p+2) t.fieldWidths).map fun vs =>
          some (p+2+t.fieldWidths.sum,(cfgInfo.setPresent t).setValues vs t)
      | none => .ok (some (p+2,cfgInfo))

/-- The option loop of a CONFIG_RSP, while `p < p_cfg_end`, at most `fuel` times. -/
def configRspOptions (pkt : List UInt8) (pNextCmd pCfgEnd : ℕ) :
    ℕ → ℕ → CfgInfo → Except Fault (Option CfgInfo)
  | fuel,p,cfgInfo =>
    if p < pCfgEnd then
      match fuel with
      | 0 => .error .noProgress
      | fuel+1 =>
        configRspOption pkt pNextCmd p cfgInfo >>= fun
          | none => .ok none
          | some (p,cfgInfo) => configRspOptions pkt pNextCmd pCfgEnd fuel p cfgInfo
    else .ok (some cfgInfo)

/-- `L2CAP_CMD_CONFIG_RSP`: our channel id, the flags and the result, then the options. -/
def onConfigRsp (pkt : List UInt8) (id cmdLen p pNextCmd : ℕ) (s : SigState) : Except Fault CmdResult :=
  let pCfgEnd := p+cmdLen
  if pNextCmd < p+6 then .ok ⟨s,false⟩
  else
    readFields pkt p [2,2,2] >>= fun hdr =>
      let cfgInfo := {s.cfgInfo with flags := hdr.getD 1 0,result := hdr.getD 2 0}.resetPresent
      configRspOptions pkt pNextCmd pCfgEnd (cmdLen+1) (p+6) cfgInfo >>= fun
        | none => .ok ⟨s,false⟩
        | some cfgInfo => .ok ⟨{s with cfgInfo := cfgInfo}.emit (.configRsp id (hdr.getD 0 0) cfgInfo),true⟩

/-- `L2CAP_CMD_ECHO_REQ`: the request's data is echoed. -/
def onEchoReq (pkt : List UInt8) (id cmdLen p : ℕ) (s : SigState) : Except Fault CmdResult :=
  (inRange (readBytes pkt p cmdLen)).map fun data => ⟨s.emit (.echoReq id data),true⟩

/-- `L2CAP_CMD_ECHO_RSP`: the callback, cleared before it is called. -/
def onEchoRsp (s : SigState) : CmdResult :=
  if s.lcb.echoRspCb then ⟨(s.setLcb {s.lcb with echoRspCb := false}).emit .echoRspCb,true⟩ else ⟨s,true⟩

/-- `1 << info_type` in `int`: a shift by the width of `int` or more is undefined. -/
def shiftOne (n : ℕ) : Except Fault ℕ := if n < 32 then .ok (1 <<< n) else .error .outOfRange

/-- An information response after its type and result: the extended features,
which may ask for the fixed channels, or the fixed-channel mask, copied with no
check against the command's length. -/
def infoRspFields (pkt : List UInt8) (infoType result p pNextCmd : ℕ) (s : SigState) : Except Fault CmdResult :=
  if infoType=l2capExtendedFeaturesInfoType ∧ result=l2capInfoRespResultSuccess then
    if pNextCmd < p+4 then .ok ⟨s,false⟩
    else rd pkt p 4 >>= fun peerExtFea =>
      let s := s.setLcb {s.lcb with peerExtFea := peerExtFea}
      if peerExtFea &&& l2capExtfeaFixedChnls≠0 then .ok ⟨s.emit (.sendInfoReq l2capFixedChannelsInfoType),true⟩
      else .ok ⟨(s.emit .fixedChnlResp).emit .infoRspToChannels,true⟩
  else if infoType=l2capFixedChannelsInfoType then
    let mask : Except Fault SigState :=
      if result=l2capInfoRespResultSuccess then
        (inRange (readBytes pkt p l2capFixedChnlArraySize)).map fun m => s.setLcb {s.lcb with peerChnlMask := m}
      else .ok s
    mask.map fun s => ⟨(s.emit .fixedChnlResp).emit .infoRspToChannels,true⟩
  else .ok ⟨s.emit .infoRspToChannels,true⟩

/-- `L2CAP_CMD_INFO_RSP`: the connect timer is stopped before the length check,
and the type is recorded in the `uint8_t` `info_rx_bits`. -/
def onInfoRsp (pkt : List UInt8) (p pNextCmd : ℕ) (s : SigState) : Except Fault CmdResult :=
  let s := if s.lcb.w4InfoRsp then s.setLcb {s.lcb with w4InfoRsp := false} else s
  if pNextCmd < p+4 then .ok ⟨s,false⟩
  else
    readFields pkt p [2,2] >>= fun fields => shiftOne (fields.getD 0 0) >>= fun bit =>
      infoRspFields pkt (fields.getD 0 0) (fields.getD 1 0) (p+4) pNextCmd
        (s.setLcb {s.lcb with infoRxBits := (s.lcb.infoRxBits ||| bit)%256})

/-- The `switch` on the command code, for a command whose data starts at `p`. -/
def processCmd (pkt : List UInt8) (cmdCode id cmdLen p pNextCmd : ℕ) (s : SigState) : Except Fault CmdResult :=
  if cmdCode=l2capCmdReject then onCmdReject pkt p pNextCmd s
  else if cmdCode=l2capCmdConnReq then onConnReq pkt id p pNextCmd s
  else if cmdCode=l2capCmdConnRsp then onConnRsp pkt id p pNextCmd s
  else if cmdCode=l2capCmdConfigReq then onConfigReq pkt id cmdLen p pNextCmd s
  else if cmdCode=l2capCmdConfigRsp then onConfigRsp pkt id cmdLen p pNextCmd s
  else if cmdCode=l2capCmdDiscReq then onDiscReq pkt id p pNextCmd s
  else if cmdCode=l2capCmdDiscRsp then onDiscRsp pkt id p pNextCmd s
  else if cmdCode=l2capCmdEchoReq then onEchoReq pkt id cmdLen p s
  else if cmdCode=l2capCmdEchoRsp then .ok (onEchoRsp s)
  else if cmdCode=l2capCmdInfoReq then onInfoReq pkt id p pNextCmd s
  else if cmdCode=l2capCmdInfoRsp then onInfoRsp pkt p pNextCmd s
  else .ok ⟨s.emit (.cmdReject l2capCmdRejNotUnderstood id 0 0),false⟩

/-- `l2c_is_cmd_rejected`: in an over-long packet a request is rejected and a
response passed over. -/
def isCmdRejected (cmdCode : ℕ) : Bool :=
  [l2capCmdConnReq,l2capCmdConfigReq,l2capCmdDiscReq,l2capCmdEchoReq,l2capCmdInfoReq,l2capCmdAmpConnReq,
    l2capCmdAmpMoveReq,l2capCmdBleUpdateReq].contains cmdCode

/-- One command after its header: the length checks, the over-long packet, then
the case of its code; `none` when `process_l2cap_cmd` returns, otherwise where
the next command starts. -/
def cmdStep (pkt : List UInt8) (pktSizeRej : Bool) (cmdCode id cmdLen p : ℕ) (s : SigState) :
    Except Fault (SigState×Option ℕ) :=
  if btSmallBufferSize < cmdLen then .ok (s.emit (.cmdReject l2capCmdRejMtuExceeded id 0 0),none)
  else
    let pNextCmd := p+cmdLen
    if pkt.length < pNextCmd then .ok (s,none)
    else if pktSizeRej then
      if isCmdRejected cmdCode then .ok (s.emit (.cmdReject l2capCmdRejMtuExceeded id l2capDefaultMtu 0),none)
      else .ok (s,some pNextCmd)
    else (processCmd pkt cmdCode id cmdLen p pNextCmd s).map fun r =>
      (r.state,if r.goOn then some pNextCmd else none)

/-- The command loop of `process_l2cap_cmd` from `p_next_cmd`, at most `fuel` times. -/
def cmdLoop (pkt : List UInt8) (pktSizeRej : Bool) : ℕ → ℕ → SigState → Except Fault SigState
  | fuel,pNextCmd,s =>
    -- the smallest command is 4 bytes
    if pkt.length < pNextCmd+4 then .ok s
    else
      match fuel with
      | 0 => .error .noProgress
      | fuel+1 =>
        readFields pkt pNextCmd [1,1,2] >>= fun hdr =>
          cmdStep pkt pktSizeRej (hdr.getD 0 0) (hdr.getD 1 0) (hdr.getD 2 0) (pNextCmd+4) s >>= fun
            | (s,none) => .ok s
            | (s,some pNextCmd) => cmdLoop pkt pktSizeRej fuel pNextCmd s

/-- `process_l2cap_cmd` on a packet of `pkt_len` bytes; a packet over the
signalling MTU is only searched for a request to reject. -/
def processL2capCmd (lcb : Lcb) (pkt : List UInt8) : Except Fault SigState :=
  let s : SigState := ⟨lcb,cfgInfoZero,[]⟩
  if lcb.transportLe then .ok s
  else cmdLoop pkt (l2capDefaultMtu < pkt.length) pkt.length 0 s

/-! ### Reads inside the packet -/

theorem rd_of_le {pkt : List UInt8} {pos w : ℕ} (h : pos+w ≤ pkt.length) :
    rd pkt pos w=.ok (decodeLE ((pkt.drop pos).take w)) := by
  simp only [rd,readLE,readBytes_eq_some h,Option.map_some,inRange_some]

theorem readFields_ok {pkt : List UInt8} :
    ∀ {pos : ℕ} {ws : List ℕ},pos+ws.sum ≤ pkt.length → ∃ vs,readFields pkt pos ws=.ok vs
  | _,[],_ => ⟨[],rfl⟩
  | pos,w::ws,h => by
    rw [List.sum_cons] at h
    obtain ⟨vs,hvs⟩ := @readFields_ok pkt (pos+w) ws (by omega)
    exact ⟨_,by rw [readFields,rd_of_le (by omega),ok_bind,hvs]; rfl⟩

theorem readBytes_ok {pkt : List UInt8} {pos n : ℕ} (h : pos+n ≤ pkt.length) :
    ∃ bs,inRange (readBytes pkt pos n)=.ok bs :=
  ⟨_,by rw [readBytes_eq_some h,inRange_some]⟩

@[simp] theorem sum_fieldWidths (t : CfgType) : t.fieldWidths.sum=t.optionLen := by
  cases t <;> rfl

theorem fieldsCase_ok {pkt : List UInt8} {n p pNextCmd : ℕ} {s : SigState} {out : List ℕ → SigOut}
    (hnext : pNextCmd ≤ pkt.length) : ∃ r,fieldsCase pkt n p pNextCmd s out=.ok r := by
  unfold fieldsCase
  split_ifs with hfit
  · exact ⟨_,rfl⟩
  · obtain ⟨vs,hvs⟩ := @readFields_ok pkt p (List.replicate n 2) (by simp; omega)
    exact ⟨_,by rw [hvs]; rfl⟩

theorem onCmdReject_ok {pkt : List UInt8} {p pNextCmd : ℕ} {s : SigState} (hnext : pNextCmd ≤ pkt.length) :
    ∃ r,onCmdReject pkt p pNextCmd s=.ok r := by
  unfold onCmdReject
  split_ifs with hfit
  · exact ⟨_,rfl⟩
  rw [rd_of_le (by omega),ok_bind]
  unfold rejectReason
  split_ifs with hmtu hfit' hcid hfit'' hund
  · exact ⟨_,rfl⟩
  · exact ⟨_,by rw [rd_of_le (by omega)]; rfl⟩
  · exact ⟨_,rfl⟩
  · obtain ⟨cids,hcids⟩ := @readFields_ok pkt (p+2) [2,2] (by simp; omega)
    exact ⟨_,by rw [hcids]; rfl⟩
  · exact ⟨_,rfl⟩
  · exact ⟨_,rfl⟩

/-! ### The option loops -/

section Options

variable {pkt : List UInt8} {cmdLen pNextCmd pCfgEnd : ℕ}

/-- A known option that passes its checks is read inside the command, and the
next option starts after it. -/
theorem knownReqOption_ok {p cfgLen : ℕ} {t : CfgType} {acc : ReqOptions} (hnext : pNextCmd ≤ pkt.length) :
    ∃ r,knownReqOption pkt pNextCmd p cfgLen t acc=.ok r ∧ ∀ q acc',r=some (q,acc') → p ≤ q := by
  unfold knownReqOption
  dsimp only
  split_ifs with hlen hfit
  · exact ⟨_,rfl,by simp⟩
  · exact ⟨_,rfl,by simp⟩
  · obtain ⟨vs,hvs⟩ := @readFields_ok pkt p t.fieldWidths (by rw [sum_fieldWidths]; omega)
    refine ⟨_,by rw [hvs]; rfl,?_⟩
    simp only [Option.some.injEq,Prod.mk.injEq]
    omega

theorem unknownReqOption_progress {p cfgCode cfgLen q : ℕ} {acc acc' : ReqOptions}
    (h : unknownReqOption cmdLen pNextCmd pCfgEnd p cfgCode cfgLen acc=some (q,acc')) : p ≤ q ∨ q=pCfgEnd := by
  unfold unknownReqOption at h
  split_ifs at h <;> simp only [Option.some.injEq,Prod.mk.injEq] at h <;> omega

/-- One option of a CONFIG_REQ reads only inside the command and moves the loop on. -/
theorem configReqOption_ok {p : ℕ} {acc : ReqOptions} (hnext : pNextCmd ≤ pkt.length) (hp : p < pCfgEnd) :
    ∃ r,configReqOption pkt cmdLen pNextCmd pCfgEnd p acc=.ok r ∧ ∀ q acc',r=some (q,acc') → p < q := by
  unfold configReqOption
  split_ifs with hfit
  · exact ⟨_,rfl,by simp⟩
  rw [rd_of_le (by omega),ok_bind,rd_of_le (by omega),ok_bind]
  split
  · obtain ⟨r,hr,hq⟩ := @knownReqOption_ok pkt pNextCmd (p+2) _ _ acc hnext
    exact ⟨r,hr,fun q acc' h => by have := hq q acc' h; omega⟩
  · refine ⟨_,rfl,fun q acc' h => ?_⟩
    rcases unknownReqOption_progress h with h | h <;> omega

/-- The option loop of a CONFIG_REQ ends without a fault once it has a pass for
every byte left; each option moves it on by at least one. -/
theorem configReqOptions_ok (hnext : pNextCmd ≤ pkt.length) :
    ∀ fuel p acc,pCfgEnd ≤ p+fuel → ∃ r,configReqOptions pkt cmdLen pNextCmd pCfgEnd fuel p acc=.ok r
  | fuel,p,acc,hfuel => by
    unfold configReqOptions
    split_ifs with hp
    · match fuel with
      | 0 => omega
      | fuel+1 =>
        dsimp only
        obtain ⟨r,hr,hq⟩ := @configReqOption_ok pkt cmdLen pNextCmd pCfgEnd p acc hnext hp
        rw [hr,ok_bind]
        rcases r with _ | ⟨q,acc'⟩
        · exact ⟨_,rfl⟩
        · exact configReqOptions_ok hnext fuel q acc' (by have := hq q acc' rfl; omega)
    · exact ⟨_,rfl⟩

/-- One option of a CONFIG_RSP reads only inside the command and moves the loop on,
by its two header bytes at least. -/
theorem configRspOption_ok {p : ℕ} {cfgInfo : CfgInfo} (hnext : pNextCmd ≤ pkt.length) :
    ∃ r,configRspOption pkt pNextCmd p cfgInfo=.ok r ∧ ∀ q info',r=some (q,info') → p < q := by
  unfold configRspOption
  split_ifs with hfit
  · exact ⟨_,rfl,by simp⟩
  rw [rd_of_le (by omega),ok_bind,rd_of_le (by omega),ok_bind]
  split
  · next t _ =>
    split_ifs with hfit'
    · exact ⟨_,rfl,by simp⟩
    · obtain ⟨vs,hvs⟩ := @readFields_ok pkt (p+2) t.fieldWidths (by rw [sum_fieldWidths]; omega)
      refine ⟨_,by rw [hvs]; rfl,?_⟩
      simp only [Option.some.injEq,Prod.mk.injEq]
      omega
  · exact ⟨_,rfl,by simp⟩

theorem configRspOptions_ok (hnext : pNextCmd ≤ pkt.length) :
    ∀ fuel p cfgInfo,pCfgEnd ≤ p+fuel → ∃ r,configRspOptions pkt pNextCmd pCfgEnd fuel p cfgInfo=.ok r
  | fuel,p,cfgInfo,hfuel => by
    unfold configRspOptions
    split_ifs with hp
    · match fuel with
      | 0 => omega
      | fuel+1 =>
        dsimp only
        obtain ⟨r,hr,hq⟩ := @configRspOption_ok pkt pNextCmd p cfgInfo hnext
        rw [hr,ok_bind]
        rcases r with _ | ⟨q,info'⟩
        · exact ⟨_,rfl⟩
        · exact configRspOptions_ok hnext fuel q info' (by have := hq q info' rfl; omega)
    · exact ⟨_,rfl⟩

end Options

/-! ### Every command case but one reads inside its command -/

section Cases

variable {pkt : List UInt8} {id cmdLen p pNextCmd : ℕ} {s : SigState}

theorem onConfigReq_ok (hnext : pNextCmd ≤ pkt.length) (hcmd : p+cmdLen=pNextCmd) :
    ∃ r,onConfigReq pkt id cmdLen p pNextCmd s=.ok r := by
  unfold onConfigReq
  dsimp only
  split_ifs with hfit
  · exact ⟨_,rfl⟩
  obtain ⟨hdr,hhdr⟩ := @readFields_ok pkt p [2,2] (by simp; omega)
  rw [hhdr,ok_bind]
  -- the options run from after the channel id and flags to the end of the command
  obtain ⟨r,hr⟩ := @configReqOptions_ok pkt cmdLen pNextCmd (p+cmdLen) hnext (cmdLen+1) (p+4) _ (by omega)
  rw [hr,ok_bind]
  rcases r with _ | acc
  · exact ⟨_,rfl⟩
  dsimp only
  split_ifs with hrej
  · -- the options handed to the reject are those of the command
    have hlen : toUint16 ((cmdLen : ℤ)-l2capConfigReqLen) ≤ cmdLen-4 := by
      unfold toUint16 l2capConfigReqLen
      omega
    obtain ⟨opts,hopts⟩ := @readBytes_ok pkt (p+4) (toUint16 ((cmdLen : ℤ)-l2capConfigReqLen)) (by omega)
    exact ⟨_,by rw [hopts]; rfl⟩
  · exact ⟨_,rfl⟩

theorem onConfigRsp_ok (hnext : pNextCmd ≤ pkt.length) (hcmd : p+cmdLen=pNextCmd) :
    ∃ r,onConfigRsp pkt id cmdLen p pNextCmd s=.ok r := by
  unfold onConfigRsp
  dsimp only
  split_ifs with hfit
  · exact ⟨_,rfl⟩
  obtain ⟨hdr,hhdr⟩ := @readFields_ok pkt p [2,2,2] (by simp; omega)
  rw [hhdr,ok_bind]
  obtain ⟨r,hr⟩ := @configRspOptions_ok pkt pNextCmd (p+cmdLen) hnext (cmdLen+1) (p+6) _ (by omega)
  rw [hr,ok_bind]
  rcases r with _ | cfgInfo
  · exact ⟨_,rfl⟩
  · exact ⟨_,rfl⟩

theorem onEchoReq_ok (hnext : pNextCmd ≤ pkt.length) (hcmd : p+cmdLen=pNextCmd) :
    ∃ r,onEchoReq pkt id cmdLen p s=.ok r := by
  obtain ⟨data,hdata⟩ := @readBytes_ok pkt p cmdLen (by omega)
  exact ⟨_,by rw [onEchoReq,hdata]; rfl⟩

/-- Every command other than an information response, whatever its bytes, is
handled without a read outside it. -/
theorem processCmd_ok {cmdCode : ℕ} (hcode : cmdCode≠l2capCmdInfoRsp) (hnext : pNextCmd ≤ pkt.length)
    (hcmd : p+cmdLen=pNextCmd) : ∃ r,processCmd pkt cmdCode id cmdLen p pNextCmd s=.ok r := by
  unfold processCmd
  split_ifs
  · exact onCmdReject_ok hnext
  · exact fieldsCase_ok hnext
  · exact fieldsCase_ok hnext
  · exact onConfigReq_ok hnext hcmd
  · exact onConfigRsp_ok hnext hcmd
  · exact fieldsCase_ok hnext
  · exact fieldsCase_ok hnext
  · exact onEchoReq_ok hnext hcmd
  · exact ⟨_,rfl⟩
  · exact fieldsCase_ok hnext
  · exact ⟨_,rfl⟩

theorem processCmd_infoRsp : processCmd pkt l2capCmdInfoRsp id cmdLen p pNextCmd s=onInfoRsp pkt p pNextCmd s :=
  rfl

/-- The fields after an information response's type and result fault only where
the fixed-channel mask is copied from past the end of the packet. -/
theorem infoRspFields_error {infoType result : ℕ} {e : Fault} (hnext : pNextCmd ≤ pkt.length)
    (h : infoRspFields pkt infoType result p pNextCmd s=.error e) :
    e=.outOfRange ∧ infoType=l2capFixedChannelsInfoType ∧ result=l2capInfoRespResultSuccess ∧
      pkt.length < p+l2capFixedChnlArraySize := by
  unfold infoRspFields at h
  by_cases hext : infoType=l2capExtendedFeaturesInfoType ∧ result=l2capInfoRespResultSuccess
  · -- the extended features are read after their length check
    rw [if_pos hext] at h
    by_cases hfit : pNextCmd < p+4
    · rw [if_pos hfit] at h
      cases h
    · rw [if_neg hfit,rd_of_le (by omega),ok_bind] at h
      dsimp only at h
      split_ifs at h
  rw [if_neg hext] at h
  by_cases hfixed : infoType=l2capFixedChannelsInfoType
  · rw [if_pos hfixed] at h
    dsimp only at h
    by_cases hsucc : result=l2capInfoRespResultSuccess
    · -- the mask: eight bytes with no check against the command
      rw [if_pos hsucc] at h
      by_cases hmask : p+l2capFixedChnlArraySize ≤ pkt.length
      · rw [readBytes_eq_some hmask] at h
        cases h
      · rw [readBytes_eq_none (by omega)] at h
        cases h
        exact ⟨rfl,hfixed,hsucc,by omega⟩
    · rw [if_neg hsucc] at h
      cases h
  · rw [if_neg hfixed] at h
    cases h

/-- An information response faults only for a type of 32 or more, whose shift is
undefined, or for the fixed channels with a mask past the end of the packet. -/
theorem onInfoRsp_error {e : Fault} (hnext : pNextCmd ≤ pkt.length) (h : onInfoRsp pkt p pNextCmd s=.error e) :
    e=.outOfRange ∧ ∃ fields,readFields pkt p [2,2]=.ok fields ∧
      (32 ≤ fields.getD 0 0 ∨ fields.getD 0 0=l2capFixedChannelsInfoType ∧
        fields.getD 1 0=l2capInfoRespResultSuccess ∧ pkt.length < p+4+l2capFixedChnlArraySize) := by
  unfold onInfoRsp at h
  dsimp only at h
  by_cases hfit : pNextCmd < p+4
  · rw [if_pos hfit] at h
    cases h
  rw [if_neg hfit] at h
  obtain ⟨fields,hfields⟩ := @readFields_ok pkt p [2,2] (by simp; omega)
  rw [hfields,ok_bind] at h
  unfold shiftOne at h
  by_cases hshift : fields.getD 0 0 < 32
  · rw [if_pos hshift,ok_bind] at h
    obtain ⟨he,hfixed,hsucc,hend⟩ := infoRspFields_error hnext h
    exact ⟨he,fields,hfields,.inr ⟨hfixed,hsucc,by omega⟩⟩
  · rw [if_neg hshift,error_bind] at h
    cases h
    exact ⟨rfl,fields,hfields,.inl (by omega)⟩

end Cases

/-! ### The command loop -/

section Loop

variable {pkt : List UInt8} {pktSizeRej : Bool}

/-- A command faults only as an information response lying inside the packet. -/
theorem cmdStep_error {cmdCode id cmdLen p : ℕ} {s : SigState} {e : Fault}
    (h : cmdStep pkt pktSizeRej cmdCode id cmdLen p s=.error e) :
    cmdCode=l2capCmdInfoRsp ∧ p+cmdLen ≤ pkt.length ∧ onInfoRsp pkt p (p+cmdLen) s=.error e := by
  unfold cmdStep at h
  dsimp only at h
  by_cases hlong : btSmallBufferSize < cmdLen
  · rw [if_pos hlong] at h
    cases h
  rw [if_neg hlong] at h
  by_cases hend : pkt.length < p+cmdLen
  · rw [if_pos hend] at h
    cases h
  rw [if_neg hend] at h
  cases pktSizeRej
  · -- the switch on the code
    simp only [Bool.false_eq_true,if_false] at h
    cases hr : processCmd pkt cmdCode id cmdLen p (p+cmdLen) s with
    | ok r =>
      rw [hr] at h
      cases h
    | error e' =>
      rw [hr] at h
      cases h
      by_cases hcode : cmdCode=l2capCmdInfoRsp
      · subst hcode
        exact ⟨rfl,by omega,hr⟩
      · obtain ⟨r,hr'⟩ := @processCmd_ok pkt id cmdLen p (p+cmdLen) s cmdCode hcode (by omega) rfl
        rw [hr] at hr'
        cases hr'
  · -- an over-long packet is only searched for a request to reject
    rw [if_pos rfl] at h
    split at h <;> cases h

/-- A command after which the loop goes on ends inside the packet, where the
next one starts. -/
theorem cmdStep_next {cmdCode id cmdLen p q : ℕ} {s s' : SigState}
    (h : cmdStep pkt pktSizeRej cmdCode id cmdLen p s=.ok (s',some q)) : q=p+cmdLen ∧ q ≤ pkt.length := by
  unfold cmdStep at h
  dsimp only at h
  by_cases hlong : btSmallBufferSize < cmdLen
  · rw [if_pos hlong] at h
    cases h
  rw [if_neg hlong] at h
  by_cases hend : pkt.length < p+cmdLen
  · rw [if_pos hend] at h
    cases h
  rw [if_neg hend] at h
  cases pktSizeRej
  · simp only [Bool.false_eq_true,if_false] at h
    cases hr : processCmd pkt cmdCode id cmdLen p (p+cmdLen) s with
    | error e =>
      rw [hr] at h
      cases h
    | ok r =>
      rw [hr] at h
      simp only [Except.map,Except.ok.injEq,Prod.mk.injEq] at h
      split at h
      · have hq := (Option.some.inj h.2).symm
        exact ⟨hq,by omega⟩
      · cases h.2
  · rw [if_pos rfl] at h
    split at h
    · cases h
    · simp only [Except.ok.injEq,Prod.mk.injEq,Option.some.injEq] at h
      exact ⟨h.2.symm,by omega⟩

/-- The command loop with a pass for every byte left faults only in an information
response inside the packet, by induction on the passes left: each command moves
the loop on by its 4-byte header at least. -/
theorem cmdLoop_error {e : Fault} :
    ∀ fuel pos s,pkt.length < pos+fuel+4 → cmdLoop pkt pktSizeRej fuel pos s=.error e →
      ∃ q hdr s',readFields pkt q [1,1,2]=.ok hdr ∧ hdr.getD 0 0=l2capCmdInfoRsp ∧
        q+4+hdr.getD 2 0 ≤ pkt.length ∧ onInfoRsp pkt (q+4) (q+4+hdr.getD 2 0) s'=.error e
  | fuel,pos,s,hfuel,h => by
    unfold cmdLoop at h
    by_cases hend : pkt.length < pos+4
    · rw [if_pos hend] at h
      cases h
    rw [if_neg hend] at h
    match fuel,hfuel,h with
    | 0,hfuel,_ => omega
    | fuel+1,hfuel,h =>
      dsimp only at h
      obtain ⟨hdr,hhdr⟩ := @readFields_ok pkt pos [1,1,2] (by simp; omega)
      rw [hhdr,ok_bind] at h
      cases hstep : cmdStep pkt pktSizeRej (hdr.getD 0 0) (hdr.getD 1 0) (hdr.getD 2 0) (pos+4) s with
      | error e' =>
        rw [hstep] at h
        cases h
        obtain ⟨hcode,hin,hinfo⟩ := cmdStep_error hstep
        exact ⟨pos,hdr,s,hhdr,hcode,hin,hinfo⟩
      | ok r =>
        rw [hstep,ok_bind] at h
        rcases r with ⟨s',_ | q⟩
        · cases h
        · obtain ⟨hq,-⟩ := cmdStep_next hstep
          exact cmdLoop_error fuel q s' (by omega) h

end Loop

/-- On every packet the parser of a BR/EDR link ends, and it faults only at an
information response inside the packet whose type is 32 or more, or that is for
the fixed channels with a mask running past the end of the packet. -/
theorem processL2capCmd_error {lcb : Lcb} {pkt : List UInt8} {e : Fault} (h : processL2capCmd lcb pkt=.error e) :
    e=.outOfRange ∧ ∃ q hdr fields,readFields pkt q [1,1,2]=.ok hdr ∧ hdr.getD 0 0=l2capCmdInfoRsp ∧
      q+4+hdr.getD 2 0 ≤ pkt.length ∧ readFields pkt (q+4) [2,2]=.ok fields ∧
      (32 ≤ fields.getD 0 0 ∨ fields.getD 0 0=l2capFixedChannelsInfoType ∧
        fields.getD 1 0=l2capInfoRespResultSuccess ∧ pkt.length < q+4+4+l2capFixedChnlArraySize) := by
  unfold processL2capCmd at h
  dsimp only at h
  cases hle : lcb.transportLe
  · -- BR/EDR: the command loop with a pass for every byte
    simp only [hle,Bool.false_eq_true,if_false] at h
    obtain ⟨q,hdr,s',hhdr,hcode,hin,hinfo⟩ := cmdLoop_error pkt.length 0 _ (by omega) h
    obtain ⟨he,fields,hfields,hcases⟩ := onInfoRsp_error hin hinfo
    exact ⟨he,q,hdr,fields,hhdr,hcode,hin,hfields,hcases⟩
  · simp only [hle,if_true] at h
    cases h

/-- The parser never runs out of passes: its loops end on every packet. -/
theorem processL2capCmd_ne_noProgress (lcb : Lcb) (pkt : List UInt8) :
    processL2capCmd lcb pkt≠.error .noProgress := fun h => by
  cases (processL2capCmd_error h).1

/-! ### Reads past the packet -/

/-- An information response on the fixed channels that ends with its result, at
the end of the packet. -/
def infoRspFixedChannels : List UInt8 := [0x0B,0x01,0x04,0x00,0x03,0x00,0x00,0x00]

/-- An information response of type 32. -/
def infoRspType32 : List UInt8 := [0x0B,0x01,0x04,0x00,0x20,0x00,0x00,0x00]

/-- On every BR/EDR link the parser leaves the packet: the fixed-channel mask of a
response that ends with its result is copied from the eight bytes after the
packet, and a response of type 32 computes `1 << 32` in `int`. -/
theorem signalling_parser_reads_past_packet (lcb : Lcb) :
    processL2capCmd {lcb with transportLe := false} infoRspFixedChannels=.error .outOfRange ∧
      processL2capCmd {lcb with transportLe := false} infoRspType32=.error .outOfRange := by
  rcases lcb with ⟨_,w4InfoRsp,_,_,_,_⟩
  -- whether the connect timer is stopped first makes no difference
  cases w4InfoRsp <;> exact ⟨rfl,rfl⟩

end BluetoothStack.L2capSignalling
