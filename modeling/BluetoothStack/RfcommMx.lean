import BluetoothStack.RfcommFrames

/-!
# RFCOMM multiplexer control messages

`rfc_process_mx_message` parses the information field of a UIH frame on DLCI 0: a type octet with
EA and C/R, a length of one octet, or of two when the first has EA clear, and the message's
values, whose number must be the declared length and the fixed length of the type.
`rfc_send_pn`, `rfc_send_msc`, `rfc_send_rpn` and `rfc_send_rls` build such fields on the other
side.

`mx_len` is a `uint8_t`: a two-octet length is kept modulo 256 before it is compared with the
number of bytes left. What the parser does with a message is an event carrying the values it
read: the `rfc_process_*` handler it calls, an NSC response to a command it rejects, or nothing.
Reads of the information field are bounds-checked.
-/

namespace BluetoothStack.RfcommMx

open ByteBuffer StepRun RfcommFrames

/-- `RFCOMM_EA_MASK`. -/
def rfcommEaMask : ℕ := 0x01
/-- `RFCOMM_MX_PN`. -/
def rfcommMxPn : ℕ := 0x80
/-- `RFCOMM_MX_PN_LEN`. -/
def rfcommMxPnLen : ℕ := 8
/-- `RFCOMM_MX_TEST`. -/
def rfcommMxTest : ℕ := 0x20
/-- `RFCOMM_MX_FCON`. -/
def rfcommMxFcon : ℕ := 0xA0
/-- `RFCOMM_MX_FCON_LEN`. -/
def rfcommMxFconLen : ℕ := 0
/-- `RFCOMM_MX_FCOFF`. -/
def rfcommMxFcoff : ℕ := 0x60
/-- `RFCOMM_MX_FCOFF_LEN`. -/
def rfcommMxFcoffLen : ℕ := 0
/-- `RFCOMM_MX_MSC`. -/
def rfcommMxMsc : ℕ := 0xE0
/-- `RFCOMM_MX_MSC_LEN_NO_BREAK`. -/
def rfcommMxMscLenNoBreak : ℕ := 2
/-- `RFCOMM_MX_MSC_LEN_WITH_BREAK`. -/
def rfcommMxMscLenWithBreak : ℕ := 3
/-- `RFCOMM_MX_NSC`. -/
def rfcommMxNsc : ℕ := 0x10
/-- `RFCOMM_MX_NSC_LEN`. -/
def rfcommMxNscLen : ℕ := 1
/-- `RFCOMM_MX_RPN`. -/
def rfcommMxRpn : ℕ := 0x90
/-- `RFCOMM_MX_RPN_REQ_LEN`. -/
def rfcommMxRpnReqLen : ℕ := 1
/-- `RFCOMM_MX_RPN_LEN`. -/
def rfcommMxRpnLen : ℕ := 8
/-- `RFCOMM_MX_RLS`. -/
def rfcommMxRls : ℕ := 0x50
/-- `RFCOMM_MX_RLS_LEN`. -/
def rfcommMxRlsLen : ℕ := 2

/-- `RFCOMM_PN_DLCI_MASK`. -/
def rfcommPnDlciMask : ℕ := 0x3F
/-- `RFCOMM_PN_FRAM_TYPE_UIH`. -/
def rfcommPnFramTypeUih : ℕ := 0x00
/-- `RFCOMM_PN_FRAME_TYPE_MASK`. -/
def rfcommPnFrameTypeMask : ℕ := 0x0F
/-- `RFCOMM_PN_CONV_LAYER_MASK`. -/
def rfcommPnConvLayerMask : ℕ := 0xF0
/-- `RFCOMM_PN_PRIORITY_MASK`. -/
def rfcommPnPriorityMask : ℕ := 0x3F
/-- `RFCOMM_PN_PRIORITY_0`. -/
def rfcommPnPriority0 : ℕ := 0
/-- `RFCOMM_PN_K_MASK`. -/
def rfcommPnKMask : ℕ := 0x07
/-- `RFCOMM_T1_DSEC`. -/
def rfcommT1Dsec : ℕ := 0
/-- `RFCOMM_N2`. -/
def rfcommN2 : ℕ := 0
/-- `RFCOMM_MIN_MTU`. -/
def rfcommMinMtu : ℕ := 23
/-- `RFCOMM_MAX_MTU`. -/
def rfcommMaxMtu : ℕ := 32767

/-- `RFCOMM_MSC_FC`. -/
def rfcommMscFc : ℕ := 0x02
/-- `RFCOMM_MSC_RTC`. -/
def rfcommMscRtc : ℕ := 0x04
/-- `RFCOMM_MSC_RTR`. -/
def rfcommMscRtr : ℕ := 0x08
/-- `RFCOMM_MSC_IC`. -/
def rfcommMscIc : ℕ := 0x40
/-- `RFCOMM_MSC_DV`. -/
def rfcommMscDv : ℕ := 0x80
/-- `RFCOMM_MSC_SHIFT_BREAK`. -/
def rfcommMscShiftBreak : ℕ := 4
/-- `RFCOMM_MSC_BREAK_MASK`. -/
def rfcommMscBreakMask : ℕ := 0xF0
/-- `RFCOMM_MSC_BREAK_PRESENT_MASK`. -/
def rfcommMscBreakPresentMask : ℕ := 0x02
/-- `MODEM_SIGNAL_DTRDSR`. -/
def modemSignalDtrdsr : ℕ := 0x01
/-- `MODEM_SIGNAL_RTSCTS`. -/
def modemSignalRtscts : ℕ := 0x02
/-- `MODEM_SIGNAL_RI`. -/
def modemSignalRi : ℕ := 0x04
/-- `MODEM_SIGNAL_DCD`. -/
def modemSignalDcd : ℕ := 0x08

/-- `RFCOMM_RPN_BITS_MASK`. -/
def rfcommRpnBitsMask : ℕ := 0x03
/-- `RFCOMM_RPN_BITS_SHIFT`. -/
def rfcommRpnBitsShift : ℕ := 0
/-- `RFCOMM_RPN_STOP_BITS_MASK`. -/
def rfcommRpnStopBitsMask : ℕ := 0x01
/-- `RFCOMM_RPN_STOP_BITS_SHIFT`. -/
def rfcommRpnStopBitsShift : ℕ := 2
/-- `RFCOMM_RPN_PARITY_MASK`. -/
def rfcommRpnParityMask : ℕ := 0x01
/-- `RFCOMM_RPN_PARITY_SHIFT`. -/
def rfcommRpnParityShift : ℕ := 3
/-- `RFCOMM_RPN_PARITY_TYPE_MASK`. -/
def rfcommRpnParityTypeMask : ℕ := 0x03
/-- `RFCOMM_RPN_PARITY_TYPE_SHIFT`. -/
def rfcommRpnParityTypeShift : ℕ := 4
/-- `RFCOMM_FC_MASK`. -/
def rfcommFcMask : ℕ := 0x3F
/-- `RFCOMM_RPN_PM_MASK`. -/
def rfcommRpnPmMask : ℕ := 0x3F7F
/-- `RFCOMM_RLS_ERROR`. -/
def rfcommRlsError : ℕ := 0x01

/-- The values of a PN message, as the frame's `dlci` and `MX_FRAME.u.pn` take them. -/
structure PnPars where
  dlci : ℕ
  frameType : ℕ
  convLayer : ℕ
  priority : ℕ
  t1 : ℕ
  mtu : ℕ
  n2 : ℕ
  k : ℕ
  deriving DecidableEq,Repr

/-- The values of an MSC message. -/
structure MscPars where
  dlci : ℕ
  signals : ℕ
  breakPresent : ℕ
  breakDuration : ℕ
  deriving DecidableEq,Repr

/-- The port values of a full RPN message. -/
structure RpnPars where
  baudRate : ℕ
  byteSize : ℕ
  stopBits : ℕ
  parity : ℕ
  parityType : ℕ
  fcType : ℕ
  xonChar : ℕ
  xoffChar : ℕ
  paramMask : ℕ
  deriving DecidableEq,Repr

/-- What `rfc_process_mx_message` does with a message: the handler it calls with the values it
read, an NSC response to a command it rejects, or nothing. A TEST message goes on as the buffer
moved two bytes on. -/
inductive MxEvent
  | pn (isCommand : Bool) (pars : PnPars)
  | test (isCommand : Bool) (buf : List UInt8)
  | fcon (isCommand : Bool)
  | fcoff (isCommand : Bool)
  | msc (isCommand : Bool) (pars : MscPars)
  | nsc (ea cr type : ℕ)
  | rpn (isCommand isRequest : Bool) (dlci : ℕ) (pars : Option RpnPars)
  | rls (isCommand : Bool) (dlci lineStatus : ℕ)
  | sendNsc
  | dropped
  deriving DecidableEq,Repr

section Parse

/-- A `break` out of the switch: the frame is freed and a command is answered with NSC. -/
def mxRejected (isCommand : Bool) : MxEvent := if isCommand then .sendNsc else .dropped

/-- The EA bit, the C/R bit and the DLCI of the octet MSC, RPN and RLS start with. -/
def dlciOctet (b : UInt8) : ℕ×ℕ×ℕ :=
  (b.toNat &&& rfcommEa,(b.toNat &&& rfcommCrMask) >>> rfcommShiftCr,b.toNat >>> rfcommShiftDlci)

/-- The check MSC, RPN and RLS make of that octet, `!ea || !cr || !dlci || !RFCOMM_VALID_DLCI(dlci)`. -/
def badDlciOctet (b : UInt8) : Bool :=
  (dlciOctet b).1=0 || (dlciOctet b).2.1=0 || (dlciOctet b).2.2=0 || !rfcommValidDlci (dlciOctet b).2.2

/-- The PN case: eight values, a DLCI, frame type and convergence layer, priority, T1, the MTU
low byte first, N2 and k, each masked, and the DLCI and MTU checked. -/
def mxPn (payload : List UInt8) (isCommand : Bool) (length p : ℕ) : Except Fault MxEvent :=
  if length≠rfcommMxPnLen then .ok (mxRejected isCommand)
  else
    rdByte payload p >>= fun b0 =>
    rdByte payload (p+1) >>= fun b1 =>
    rdByte payload (p+2) >>= fun b2 =>
    rdByte payload (p+3) >>= fun b3 =>
    rdByte payload (p+4) >>= fun b4 =>
    rdByte payload (p+5) >>= fun b5 =>
    rdByte payload (p+6) >>= fun b6 =>
    rdByte payload (p+7) >>= fun b7 =>
    let pars : PnPars := ⟨b0.toNat &&& rfcommPnDlciMask,b1.toNat &&& rfcommPnFrameTypeMask,
      b1.toNat &&& rfcommPnConvLayerMask,b2.toNat &&& rfcommPnPriorityMask,b3.toNat,
      b4.toNat+(b5.toNat <<< 8),b6.toNat,b7.toNat &&& rfcommPnKMask⟩
    if pars.dlci=0 ∨ rfcommValidDlci pars.dlci=false ∨ pars.mtu < rfcommMinMtu ∨ rfcommMaxMtu < pars.mtu then
      .ok (mxRejected isCommand)
    else .ok (.pn isCommand pars)

/-- The MSC case: a length other than 2 or 3 drops the frame without an NSC; the break octet is
read when `mx_len` says it is there. -/
def mxMsc (payload : List UInt8) (isCommand : Bool) (mxLen length p : ℕ) : Except Fault MxEvent :=
  if length≠rfcommMxMscLenWithBreak ∧ length≠rfcommMxMscLenNoBreak then .ok .dropped
  else
    rdByte payload p >>= fun b =>
    if badDlciOctet b then .ok (mxRejected isCommand)
    else
      rdByte payload (p+1) >>= fun signals =>
      (if mxLen=rfcommMxMscLenWithBreak then
        rdByte payload (p+2) >>= fun bk =>
          .ok (bk.toNat &&& rfcommMscBreakPresentMask,(bk.toNat &&& rfcommMscBreakMask) >>> rfcommMscShiftBreak)
      else .ok (0,0)) >>= fun (breakPresent,breakDuration) =>
      .ok (.msc isCommand ⟨(dlciOctet b).2.2,signals.toNat,breakPresent,breakDuration⟩)

/-- The NSC case: one octet, taken only in a command. -/
def mxNsc (payload : List UInt8) (isCommand : Bool) (length p : ℕ) : Except Fault MxEvent :=
  if length≠rfcommMxNscLen ∨ !isCommand then .ok (mxRejected isCommand)
  else
    rdByte payload p >>= fun b =>
    .ok (.nsc (b.toNat &&& rfcommEa) ((b.toNat &&& rfcommCrMask) >>> rfcommShiftCr) (b.toNat >>> rfcommShiftDlci))

/-- The RPN case: the DLCI octet alone is a request; a full message adds the baud rate, the data
format octet, the flow control, XON, XOFF and the parameter mask, low byte first. -/
def mxRpn (payload : List UInt8) (isCommand : Bool) (length p : ℕ) : Except Fault MxEvent :=
  if length≠rfcommMxRpnReqLen ∧ length≠rfcommMxRpnLen then .ok (mxRejected isCommand)
  else
    rdByte payload p >>= fun b =>
    if badDlciOctet b then .ok (mxRejected isCommand)
    else if length=rfcommMxRpnReqLen then .ok (.rpn isCommand true (dlciOctet b).2.2 none)
    else
      rdByte payload (p+1) >>= fun baud =>
      rdByte payload (p+2) >>= fun fmt =>
      rdByte payload (p+3) >>= fun fc =>
      rdByte payload (p+4) >>= fun xon =>
      rdByte payload (p+5) >>= fun xoff =>
      rdByte payload (p+6) >>= fun m0 =>
      rdByte payload (p+7) >>= fun m1 =>
      .ok (.rpn isCommand false (dlciOctet b).2.2 (some ⟨baud.toNat,
        (fmt.toNat >>> rfcommRpnBitsShift) &&& rfcommRpnBitsMask,
        (fmt.toNat >>> rfcommRpnStopBitsShift) &&& rfcommRpnStopBitsMask,
        (fmt.toNat >>> rfcommRpnParityShift) &&& rfcommRpnParityMask,
        (fmt.toNat >>> rfcommRpnParityTypeShift) &&& rfcommRpnParityTypeMask,
        fc.toNat &&& rfcommFcMask,xon.toNat,xoff.toNat,(m0.toNat+(m1.toNat <<< 8)) &&& rfcommRpnPmMask⟩))

/-- The RLS case: the DLCI octet and the line status with its low bit cleared, both read before
the DLCI is checked. -/
def mxRls (payload : List UInt8) (isCommand : Bool) (length p : ℕ) : Except Fault MxEvent :=
  if length≠rfcommMxRlsLen then .ok (mxRejected isCommand)
  else
    rdByte payload p >>= fun b =>
    rdByte payload (p+1) >>= fun s =>
    if badDlciOctet b then .ok (mxRejected isCommand)
    else .ok (.rls isCommand (dlciOctet b).2.2 (s.toNat &&& 0xFE))

/-- The switch on the message type, after the length check; the values start at `p`. -/
def mxSwitch (payload : List UInt8) (isCommand : Bool) (type mxLen length p : ℕ) : Except Fault MxEvent :=
  if type=rfcommMxPn then mxPn payload isCommand length p
  else if type=rfcommMxTest then
    -- the buffer goes on two bytes further, whatever the length field took
    .ok (if length=0 then mxRejected isCommand else .test isCommand (payload.drop 2))
  else if type=rfcommMxFcon then .ok (if length≠rfcommMxFconLen then mxRejected isCommand else .fcon isCommand)
  else if type=rfcommMxFcoff then .ok (if length≠rfcommMxFcoffLen then mxRejected isCommand else .fcoff isCommand)
  else if type=rfcommMxMsc then mxMsc payload isCommand mxLen length p
  else if type=rfcommMxNsc then mxNsc payload isCommand length p
  else if type=rfcommMxRpn then mxRpn payload isCommand length p
  else if type=rfcommMxRls then mxRls payload isCommand length p
  else .ok (mxRejected isCommand)

/-- `rfc_process_mx_message` on the information field `payload` of a UIH frame on DLCI 0. -/
def rfcProcessMxMessage (payload : List UInt8) : Except Fault MxEvent :=
  if payload.length<2 then .ok .dropped
  else
    rdByte payload 0 >>= fun b0 =>
    let ea := b0.toNat &&& rfcommEa
    let cr := (b0.toNat &&& rfcommCrMask) >>> rfcommShiftCr
    let type := b0.toNat &&& (0xFF ^^^ (rfcommCrMask ||| rfcommEaMask))
    if ea=0 ∨ payload.length=0 then .ok .dropped
    else
      let length := payload.length-1
      rdByte payload 1 >>= fun b1 =>
      let ea := b1.toNat &&& rfcommEa
      let mxLen := b1.toNat >>> rfcommShiftLength1
      let length := length-1
      (if ea=0 then
        if length<1 then .ok none
        else rdByte payload 2 >>= fun b2 =>
          -- `mx_len` is a `uint8_t`: the second length octet is added modulo 256
          .ok (some ((mxLen+(b2.toNat <<< rfcommShiftLength2))%256,length-1,3))
      else .ok (some (mxLen,length,2))) >>= fun
      | none => .ok .dropped
      | some (mxLen,length,p) =>
        if mxLen≠length then .ok .dropped else mxSwitch payload (cr != 0) type mxLen length p

end Parse

section Send

/-- The type octet of a message, `RFCOMM_EA | RFCOMM_I_CR(is_command) | type`. -/
def mxTypeOctet (isCommand : Bool) (type : ℕ) : UInt8 :=
  UInt8.ofNat (rfcommEa ||| (if isCommand then rfcommCrMask else 0) ||| type)

/-- The one-octet length the stack sends, `RFCOMM_EA | (len << 1)`. -/
def mxLenOctet (len : ℕ) : UInt8 := UInt8.ofNat (rfcommEa ||| len <<< 1)

/-- `rfc_send_pn`: the information field. A response repeats the priority of the PN received last. -/
def rfcSendPn (dlci : UInt8) (isCommand : Bool) (mtu : UInt16) (cl k rxPriority : UInt8) : List UInt8 :=
  [mxTypeOctet isCommand rfcommMxPn,mxLenOctet rfcommMxPnLen,dlci,UInt8.ofNat (rfcommPnFramTypeUih ||| cl.toNat),
    if isCommand then UInt8.ofNat rfcommPnPriority0 else rxPriority,UInt8.ofNat rfcommT1Dsec,
    UInt8.ofNat (mtu.toNat &&& 0xFF),UInt8.ofNat (mtu.toNat >>> 8),UInt8.ofNat rfcommN2,k]

/-- The fields of `tPORT_CTRL` that `rfc_send_msc` reads. -/
structure PortCtrl where
  modemSignal : UInt8
  breakSignal : UInt8
  fc : Bool

/-- The signals octet of `rfc_send_msc`. -/
def mscSignals (pars : PortCtrl) : ℕ :=
  rfcommEa ||| (if pars.fc then rfcommMscFc else 0) |||
    (if pars.modemSignal.toNat &&& modemSignalDtrdsr≠0 then rfcommMscRtc else 0) |||
    (if pars.modemSignal.toNat &&& modemSignalRtscts≠0 then rfcommMscRtr else 0) |||
    (if pars.modemSignal.toNat &&& modemSignalRi≠0 then rfcommMscIc else 0) |||
    (if pars.modemSignal.toNat &&& modemSignalDcd≠0 then rfcommMscDv else 0)

/-- `rfc_send_msc`: the break octet is sent when the break signal is not zero. -/
def rfcSendMsc (dlci : UInt8) (isCommand : Bool) (pars : PortCtrl) : List UInt8 :=
  let len := if pars.breakSignal≠0 then rfcommMxMscLenWithBreak else rfcommMxMscLenNoBreak
  [mxTypeOctet isCommand rfcommMxMsc,mxLenOctet len,addressByte rfcommCrMask dlci.toNat,
    UInt8.ofNat (mscSignals pars)]++
  if pars.breakSignal≠0 then
    [UInt8.ofNat (rfcommEa ||| rfcommMscBreakPresentMask ||| pars.breakSignal.toNat <<< rfcommMscShiftBreak)]
  else []

/-- `rfc_send_rls`. -/
def rfcSendRls (dlci : UInt8) (isCommand : Bool) (status : UInt8) : List UInt8 :=
  [mxTypeOctet isCommand rfcommMxRls,mxLenOctet rfcommMxRlsLen,addressByte rfcommCrMask dlci.toNat,
    UInt8.ofNat (rfcommRlsError ||| status.toNat)]

/-- The fields of `tPORT_STATE` that `rfc_send_rpn` reads. -/
structure PortState where
  baudRate : UInt8
  byteSize : UInt8
  stopBits : UInt8
  parity : UInt8
  parityType : UInt8
  fcType : UInt8
  xonChar : UInt8
  xoffChar : UInt8

/-- `rfc_send_rpn`: without port values a request, else the full message with the mask. -/
def rfcSendRpn (dlci : UInt8) (isCommand : Bool) (pars : Option PortState) (mask : UInt16) : List UInt8 :=
  match pars with
  | none => [mxTypeOctet isCommand rfcommMxRpn,mxLenOctet rfcommMxRpnReqLen,addressByte rfcommCrMask dlci.toNat]
  | some pars =>
    [mxTypeOctet isCommand rfcommMxRpn,mxLenOctet rfcommMxRpnLen,addressByte rfcommCrMask dlci.toNat,pars.baudRate,
      UInt8.ofNat (pars.byteSize.toNat <<< rfcommRpnBitsShift ||| pars.stopBits.toNat <<< rfcommRpnStopBitsShift |||
        pars.parity.toNat <<< rfcommRpnParityShift ||| pars.parityType.toNat <<< rfcommRpnParityTypeShift),
      pars.fcType,pars.xonChar,pars.xoffChar,UInt8.ofNat (mask.toNat &&& 0xFF),UInt8.ofNat (mask.toNat >>> 8)]

end Send

section Spec

/-- The message type of a field: its first octet with C/R and EA cleared. -/
def mxType (payload : List UInt8) : ℕ := (payload.getD 0 0).toNat &&& (0xFF ^^^ (rfcommCrMask ||| rfcommEaMask))

/-- Whether the message is a command: the C/R bit of its first octet. -/
def mxIsCommand (payload : List UInt8) : Bool := ((payload.getD 0 0).toNat &&& rfcommCrMask) >>> rfcommShiftCr != 0

/-- The number of length octets: two when the first has EA clear. -/
def mxLengthSize (payload : List UInt8) : ℕ := if (payload.getD 1 0).toNat &&& rfcommEa=0 then 2 else 1

/-- The length the length octets declare, in full. -/
def mxDeclaredLength (payload : List UInt8) : ℕ :=
  if (payload.getD 1 0).toNat &&& rfcommEa=0 then
    ((payload.getD 1 0).toNat >>> rfcommShiftLength1)+((payload.getD 2 0).toNat <<< rfcommShiftLength2)
  else (payload.getD 1 0).toNat >>> rfcommShiftLength1

/-- The number of bytes after the type and length octets. -/
def mxRemaining (payload : List UInt8) : ℕ := payload.length-1-mxLengthSize payload

/-- Whether the parser took the message: it called a handler. -/
def MxEvent.accepted : MxEvent → Bool
  | .sendNsc => false
  | .dropped => false
  | _ => true

/-- A message taken as an event was of the event's type, with a length of values that type
allows. -/
def MxEvent.fitsHeader : MxEvent → ℕ → ℕ → Prop
  | .pn _ _,type,n => type=rfcommMxPn ∧ n=rfcommMxPnLen
  | .test _ _,type,n => type=rfcommMxTest ∧ 0<n
  | .fcon _,type,n => type=rfcommMxFcon ∧ n=rfcommMxFconLen
  | .fcoff _,type,n => type=rfcommMxFcoff ∧ n=rfcommMxFcoffLen
  | .msc _ _,type,n => type=rfcommMxMsc ∧ (n=rfcommMxMscLenNoBreak ∨ n=rfcommMxMscLenWithBreak)
  | .nsc _ _ _,type,n => type=rfcommMxNsc ∧ n=rfcommMxNscLen
  | .rpn _ isRequest _ _,type,n => type=rfcommMxRpn ∧ n=if isRequest then rfcommMxRpnReqLen else rfcommMxRpnLen
  | .rls _ _ _,type,n => type=rfcommMxRls ∧ n=rfcommMxRlsLen
  | .sendNsc,_,_ => True
  | .dropped,_,_ => True

/-- A read inside the field returns the byte there. -/
theorem rdByte_eq_getD {payload : List UInt8} {i : ℕ} (h : i < payload.length) :
    rdByte payload i=.ok (payload.getD i 0) := by
  simp [rdByte,List.getElem?_eq_getElem h]

theorem mxRejected_fits (isCommand : Bool) (type n : ℕ) : (mxRejected isCommand).fitsHeader type n := by
  cases isCommand <;> trivial

theorem mxRejected_accepted (isCommand : Bool) : (mxRejected isCommand).accepted=false := by
  cases isCommand <;> rfl

/-- The header of a message whose type octet has EA set: dropped when a second length octet is
missing or the declared length modulo 256 is not the number of bytes left, else the switch on the
type with the values after the length octets. -/
theorem rfcProcessMxMessage_eq {payload : List UInt8} (h2 : 2 ≤ payload.length)
    (hea : (payload.getD 0 0).toNat &&& rfcommEa≠0) :
    rfcProcessMxMessage payload=
      if payload.length < 1+mxLengthSize payload ∨ mxDeclaredLength payload%256≠mxRemaining payload then .ok .dropped
      else mxSwitch payload (mxIsCommand payload) (mxType payload) (mxRemaining payload) (mxRemaining payload)
        (1+mxLengthSize payload) := by
  unfold rfcProcessMxMessage
  rw [if_neg (by omega),rdByte_eq_getD (by omega),ok_bind,if_neg (by omega),rdByte_eq_getD (by omega),ok_bind]
  unfold mxRemaining mxLengthSize mxDeclaredLength
  dsimp only
  by_cases hea1 : (payload.getD 1 0).toNat &&& rfcommEa=0
  · -- two length octets, the second of which may be missing
    rw [if_pos hea1,if_pos hea1,if_pos hea1]
    by_cases h3 : payload.length-1-1 < 1
    · rw [if_pos h3,ok_bind,if_pos (.inl (by omega))]
    · rw [if_neg h3,rdByte_eq_getD (by omega),ok_bind,ok_bind]
      have hrem : payload.length-1-1-1=payload.length-1-2 := by omega
      simp only [hrem,show ¬payload.length < 1+2 from by omega,false_or]
      -- past the length check `mx_len` is the number of bytes left
      split_ifs with hm
      · rfl
      · rw [not_ne_iff.mp hm]
        rfl
  · rw [if_neg hea1,if_neg hea1,if_neg hea1,ok_bind]
    -- one length octet: seven bits, so below 256
    have hsmall : (payload.getD 1 0).toNat >>> rfcommShiftLength1%256=(payload.getD 1 0).toNat >>> rfcommShiftLength1 := by
      have := (payload.getD 1 0).toNat_lt
      simp only [rfcommShiftLength1,Nat.shiftRight_eq_div_pow]
      omega
    simp only [hsmall,show ¬payload.length < 1+1 from by omega,false_or]
    split_ifs with hm
    · rfl
    · rw [not_ne_iff.mp hm]
      rfl

end Spec

section Safety

/-- The PN case reads its eight values inside the field and takes only a message of eight. -/
theorem mxPn_spec {payload : List UInt8} {length p : ℕ} (isCommand : Bool) (hp : p+length=payload.length) :
    ∃ ev,mxPn payload isCommand length p=.ok ev ∧ ev.fitsHeader rfcommMxPn length := by
  by_cases hl : length=rfcommMxPnLen
  · have hl8 : length=8 := hl
    simp (disch := omega) only [mxPn,hl,ne_eq,not_true_eq_false,if_false,rdByte_eq_getD,ok_bind]
    split_ifs
    · exact ⟨_,rfl,mxRejected_fits _ _ _⟩
    · exact ⟨_,rfl,rfl,rfl⟩
  · exact ⟨_,by rw [mxPn,if_pos hl],mxRejected_fits _ _ _⟩

/-- The MSC case reads its two or three values inside the field when `mx_len` is the number of
bytes left. -/
theorem mxMsc_spec {payload : List UInt8} {length p : ℕ} (isCommand : Bool) (hp : p+length=payload.length) :
    ∃ ev,mxMsc payload isCommand length length p=.ok ev ∧ ev.fitsHeader rfcommMxMsc length := by
  unfold mxMsc
  by_cases hl : length≠rfcommMxMscLenWithBreak ∧ length≠rfcommMxMscLenNoBreak
  · exact ⟨.dropped,by rw [if_pos hl],trivial⟩
  rw [if_neg hl]
  have hl' : length=2 ∨ length=3 := by
    simp only [rfcommMxMscLenWithBreak,rfcommMxMscLenNoBreak] at hl
    omega
  have hfits : MxEvent.fitsHeader (.msc isCommand ⟨0,0,0,0⟩) rfcommMxMsc length := ⟨rfl,by
    simp only [rfcommMxMscLenWithBreak,rfcommMxMscLenNoBreak]
    omega⟩
  rw [rdByte_eq_getD (by omega),ok_bind]
  by_cases hbad : badDlciOctet (payload.getD p 0)=true
  · exact ⟨_,by rw [if_pos hbad],mxRejected_fits _ _ _⟩
  rw [if_neg hbad,rdByte_eq_getD (by omega),ok_bind]
  -- the break octet is there exactly when the length is 3
  by_cases h3 : length=rfcommMxMscLenWithBreak
  · rw [if_pos h3,rdByte_eq_getD (by simp only [rfcommMxMscLenWithBreak] at h3; omega),ok_bind,ok_bind]
    exact ⟨_,rfl,hfits⟩
  · rw [if_neg h3,ok_bind]
    exact ⟨_,rfl,hfits⟩

/-- The NSC case reads its one value inside the field. -/
theorem mxNsc_spec {payload : List UInt8} {length p : ℕ} (isCommand : Bool) (hp : p+length=payload.length) :
    ∃ ev,mxNsc payload isCommand length p=.ok ev ∧ ev.fitsHeader rfcommMxNsc length := by
  unfold mxNsc
  split_ifs with hl
  · exact ⟨_,rfl,mxRejected_fits _ _ _⟩
  · have hl1 : length=rfcommMxNscLen := by tauto
    rw [rdByte_eq_getD (by simp only [rfcommMxNscLen] at hl1; omega),ok_bind]
    exact ⟨_,rfl,rfl,hl1⟩

/-- The RPN case reads the DLCI octet and, in a full message, seven more values inside the field. -/
theorem mxRpn_spec {payload : List UInt8} {length p : ℕ} (isCommand : Bool) (hp : p+length=payload.length) :
    ∃ ev,mxRpn payload isCommand length p=.ok ev ∧ ev.fitsHeader rfcommMxRpn length := by
  unfold mxRpn
  by_cases hl : length≠rfcommMxRpnReqLen ∧ length≠rfcommMxRpnLen
  · exact ⟨_,by rw [if_pos hl],mxRejected_fits _ _ _⟩
  rw [if_neg hl]
  have hl' : length=1 ∨ length=8 := by
    simp only [rfcommMxRpnReqLen,rfcommMxRpnLen] at hl
    omega
  rw [rdByte_eq_getD (by omega),ok_bind]
  split_ifs with hbad hreq
  · exact ⟨_,rfl,mxRejected_fits _ _ _⟩
  · exact ⟨_,rfl,rfl,by rw [if_pos rfl]; exact hreq⟩
  · have hl8 : length=8 := by simp only [rfcommMxRpnReqLen] at hreq; omega
    simp (disch := omega) only [rdByte_eq_getD,ok_bind]
    exact ⟨_,rfl,rfl,by rw [if_neg (by decide)]; exact hl8⟩

/-- The RLS case reads its two values inside the field. -/
theorem mxRls_spec {payload : List UInt8} {length p : ℕ} (isCommand : Bool) (hp : p+length=payload.length) :
    ∃ ev,mxRls payload isCommand length p=.ok ev ∧ ev.fitsHeader rfcommMxRls length := by
  unfold mxRls
  by_cases hl : length≠rfcommMxRlsLen
  · exact ⟨_,by rw [if_pos hl],mxRejected_fits _ _ _⟩
  rw [if_neg hl]
  have hl2 : length=2 := not_ne_iff.mp hl
  rw [rdByte_eq_getD (by omega),ok_bind,rdByte_eq_getD (by omega),ok_bind]
  split_ifs
  · exact ⟨_,rfl,mxRejected_fits _ _ _⟩
  · exact ⟨_,rfl,rfl,hl2⟩

/-- The switch, once `mx_len` is the number of bytes left: every case reads inside the field,
and a message taken is of the type the switch chose, with a length that type allows. -/
theorem mxSwitch_spec {payload : List UInt8} {type length p : ℕ} (isCommand : Bool) (hp : p+length=payload.length) :
    ∃ ev,mxSwitch payload isCommand type length length p=.ok ev ∧ ev.fitsHeader type length := by
  unfold mxSwitch
  by_cases hpn : type=rfcommMxPn
  · rw [if_pos hpn,hpn]
    exact mxPn_spec isCommand hp
  rw [if_neg hpn]
  by_cases htest : type=rfcommMxTest
  · rw [if_pos htest,htest]
    by_cases h0 : length=0
    · exact ⟨_,by rw [if_pos h0],mxRejected_fits _ _ _⟩
    · exact ⟨.test isCommand (payload.drop 2),by rw [if_neg h0],rfl,Nat.pos_of_ne_zero h0⟩
  rw [if_neg htest]
  by_cases hfcon : type=rfcommMxFcon
  · rw [if_pos hfcon,hfcon]
    by_cases hl : length≠rfcommMxFconLen
    · exact ⟨_,by rw [if_pos hl],mxRejected_fits _ _ _⟩
    · exact ⟨.fcon isCommand,by rw [if_neg hl],rfl,not_ne_iff.mp hl⟩
  rw [if_neg hfcon]
  by_cases hfcoff : type=rfcommMxFcoff
  · rw [if_pos hfcoff,hfcoff]
    by_cases hl : length≠rfcommMxFcoffLen
    · exact ⟨_,by rw [if_pos hl],mxRejected_fits _ _ _⟩
    · exact ⟨.fcoff isCommand,by rw [if_neg hl],rfl,not_ne_iff.mp hl⟩
  rw [if_neg hfcoff]
  by_cases hmsc : type=rfcommMxMsc
  · rw [if_pos hmsc,hmsc]
    exact mxMsc_spec isCommand hp
  rw [if_neg hmsc]
  by_cases hnsc : type=rfcommMxNsc
  · rw [if_pos hnsc,hnsc]
    exact mxNsc_spec isCommand hp
  rw [if_neg hnsc]
  by_cases hrpn : type=rfcommMxRpn
  · rw [if_pos hrpn,hrpn]
    exact mxRpn_spec isCommand hp
  rw [if_neg hrpn]
  by_cases hrls : type=rfcommMxRls
  · rw [if_pos hrls,hrls]
    exact mxRls_spec isCommand hp
  rw [if_neg hrls]
  exact ⟨_,rfl,mxRejected_fits _ _ _⟩

/-- For every information field, `rfc_process_mx_message` reads only inside it, and a message it
takes was declared, modulo 256, as long as what is left of the field, which is a length its type
allows. -/
theorem rfcProcessMxMessage_spec (payload : List UInt8) :
    ∃ ev,rfcProcessMxMessage payload=.ok ev ∧
      (ev.accepted=true → mxDeclaredLength payload%256=mxRemaining payload ∧
        ev.fitsHeader (mxType payload) (mxRemaining payload)) := by
  by_cases h2 : payload.length < 2
  · exact ⟨_,by rw [rfcProcessMxMessage,if_pos h2],fun h => absurd h (by decide)⟩
  by_cases hea : (payload.getD 0 0).toNat &&& rfcommEa=0
  · refine ⟨_,?_,fun h => absurd h (by decide : MxEvent.dropped.accepted≠true)⟩
    rw [rfcProcessMxMessage,if_neg h2,rdByte_eq_getD (by omega),ok_bind]
    exact if_pos (.inl hea)
  rw [rfcProcessMxMessage_eq (by omega) hea]
  split_ifs with hdrop
  · exact ⟨_,rfl,fun h => absurd h (by decide)⟩
  · -- the header is complete and `mx_len` matches what is left
    have hsize : 1+mxLengthSize payload+mxRemaining payload=payload.length := by
      unfold mxRemaining
      omega
    obtain ⟨ev,hev,hfits⟩ := @mxSwitch_spec _ (mxType payload) _ _ (mxIsCommand payload) hsize
    exact ⟨ev,hev,fun _ => ⟨by tauto,hfits⟩⟩

end Safety

section RoundTrip

/-- The type octets of the messages the stack sends read back their EA bit, C/R bit and type. -/
theorem mxTypeOctet_fields (isCommand : Bool) :
    ∀ t ∈ [rfcommMxPn,rfcommMxMsc,rfcommMxRpn,rfcommMxRls],
      (mxTypeOctet isCommand t).toNat &&& rfcommEa≠0 ∧
      (((mxTypeOctet isCommand t).toNat &&& rfcommCrMask) >>> rfcommShiftCr != 0)=isCommand ∧
      (mxTypeOctet isCommand t).toNat &&& (0xFF ^^^ (rfcommCrMask ||| rfcommEaMask))=t := by
  cases isCommand <;> decide

/-- A one-octet length below 128 reads back, with EA set. -/
theorem mxLenOctet_fields : ∀ n < 128,
    (mxLenOctet n).toNat &&& rfcommEa≠0 ∧ (mxLenOctet n).toNat >>> rfcommShiftLength1=n := by
  decide

/-- The header of a field the stack's senders build: a type octet, a one-octet length and that
many values go to the switch on the type. -/
theorem rfcProcessMxMessage_sent {isCommand : Bool} {t n : ℕ} {body : List UInt8}
    (ht : t ∈ [rfcommMxPn,rfcommMxMsc,rfcommMxRpn,rfcommMxRls]) (hn : body.length=n) (hlen : n < 128) :
    rfcProcessMxMessage (mxTypeOctet isCommand t::mxLenOctet n::body)=
      mxSwitch (mxTypeOctet isCommand t::mxLenOctet n::body) isCommand t n n 2 := by
  subst hn
  obtain ⟨hea,hcr,htype⟩ := mxTypeOctet_fields isCommand t ht
  obtain ⟨hea1,hn⟩ := mxLenOctet_fields body.length hlen
  have hsize : mxLengthSize (mxTypeOctet isCommand t::mxLenOctet body.length::body)=1 := by
    rw [mxLengthSize,List.getD_cons_succ,List.getD_cons_zero,if_neg hea1]
  have hrem : mxRemaining (mxTypeOctet isCommand t::mxLenOctet body.length::body)=body.length := by
    rw [mxRemaining,hsize,List.length_cons,List.length_cons]
    omega
  have hdecl : mxDeclaredLength (mxTypeOctet isCommand t::mxLenOctet body.length::body)=body.length := by
    rw [mxDeclaredLength,List.getD_cons_succ,List.getD_cons_zero,if_neg hea1,hn]
  rw [rfcProcessMxMessage_eq (by simp) (by rwa [List.getD_cons_zero]),hsize,hrem,hdecl,
    if_neg (by simp only [List.length_cons]; omega)]
  simp only [mxIsCommand,mxType,List.getD_cons_zero,hcr,htype]

/-- A 16-bit value sent low byte first reads back. -/
theorem bytes_of_uint16 (mtu : UInt16) :
    (UInt8.ofNat (mtu.toNat &&& 0xFF)).toNat+((UInt8.ofNat (mtu.toNat >>> 8)).toNat <<< 8)=mtu.toNat := by
  have hm := mtu.toNat_lt
  have hlo : mtu.toNat &&& 0xFF=mtu.toNat%256 := Nat.and_two_pow_sub_one_eq_mod _ 8
  have hhi : mtu.toNat >>> 8 < 256 := by
    rw [Nat.shiftRight_eq_div_pow]
    omega
  rw [hlo,UInt8.toNat_ofNat_of_lt' (Nat.mod_lt _ (by norm_num)),UInt8.toNat_ofNat_of_lt' hhi,
    Nat.shiftRight_eq_div_pow,Nat.shiftLeft_eq]
  simp only [UInt8.size]
  omega

/-- A DLCI the receiver accepts is not zero and valid, so below 64. -/
theorem validDlci_of_bounds {dlci : ℕ} (h : 2 ≤ dlci ∧ dlci ≤ rfcommMaxDlci) :
    dlci≠0 ∧ rfcommValidDlci dlci=true ∧ dlci < 64 := by
  have hmax : rfcommMaxDlci=61 := rfl
  rw [hmax] at h
  refine ⟨by omega,?_,by omega⟩
  simp only [rfcommValidDlci,hmax,Bool.or_eq_true,decide_eq_true_eq,Bool.and_eq_true]
  omega

/-- A PN message of `rfc_send_pn` reads back its DLCI, frame type and convergence layer, priority,
T1, MTU, N2 and k, for a DLCI the receiver accepts, an MTU inside its bounds and a k of three bits. -/
theorem rfcProcessMxMessage_rfcSendPn {dlci : UInt8} {mtu : UInt16} {cl k rxPriority : UInt8} (isCommand : Bool)
    (hdlci : 2 ≤ dlci.toNat ∧ dlci.toNat ≤ rfcommMaxDlci)
    (hmtu : rfcommMinMtu ≤ mtu.toNat ∧ mtu.toNat ≤ rfcommMaxMtu) (hk : k.toNat < 8) :
    rfcProcessMxMessage (rfcSendPn dlci isCommand mtu cl k rxPriority)=
      .ok (.pn isCommand ⟨dlci.toNat,cl.toNat &&& rfcommPnFrameTypeMask,cl.toNat &&& rfcommPnConvLayerMask,
        (if isCommand then rfcommPnPriority0 else rxPriority.toNat) &&& rfcommPnPriorityMask,rfcommT1Dsec,
        mtu.toNat,rfcommN2,k.toNat⟩) := by
  obtain ⟨hd0,hvalid,hd64⟩ := validDlci_of_bounds hdlci
  have hd : dlci.toNat &&& rfcommPnDlciMask=dlci.toNat := Nat.and_two_pow_sub_one_of_lt_two_pow (n := 6) hd64
  have hk' : k.toNat &&& rfcommPnKMask=k.toNat := Nat.and_two_pow_sub_one_of_lt_two_pow (n := 3) hk
  have hcl : (UInt8.ofNat (rfcommPnFramTypeUih ||| cl.toNat)).toNat=cl.toNat := by
    rw [rfcommPnFramTypeUih,Nat.zero_or,UInt8.ofNat_toNat]
  have hprio : (if isCommand then UInt8.ofNat rfcommPnPriority0 else rxPriority).toNat=
      if isCommand then rfcommPnPriority0 else rxPriority.toNat := by
    cases isCommand <;> rfl
  rw [rfcSendPn,rfcProcessMxMessage_sent (by decide) (by rfl) (by decide)]
  simp only [mxSwitch,if_true,mxPn]
  rw [if_neg (by decide)]
  simp only [rdByte,List.getElem?_cons_succ,List.getElem?_cons_zero,inRange_some,ok_bind,hd,hk',hcl,hprio,
    bytes_of_uint16]
  -- the receiver's checks pass
  rw [if_neg (by simp only [rfcommMinMtu,rfcommMaxMtu] at hmtu ⊢; simp [hd0,hvalid]; omega)]
  rfl

/-- The DLCI octet of MSC, RPN and RLS passes the receiver's check and reads back, for a DLCI the
receiver accepts. -/
theorem dlciOctet_addressByte {dlci : ℕ} (h : 2 ≤ dlci ∧ dlci ≤ rfcommMaxDlci) :
    badDlciOctet (addressByte rfcommCrMask dlci)=false ∧ (dlciOctet (addressByte rfcommCrMask dlci)).2.2=dlci := by
  obtain ⟨hd0,hvalid,hd64⟩ := validDlci_of_bounds h
  obtain ⟨hea,hcr,hd⟩ := addressByte_fields dlci hd64 true
  have hcrMask : true.toNat <<< 1=rfcommCrMask := rfl
  rw [hcrMask] at hea hcr hd
  refine ⟨?_,hd⟩
  simp only [badDlciOctet,dlciOctet,hea,hcr,hd,hvalid,Bool.toNat_true]
  simp [hd0]

/-- The signals octet of `rfc_send_msc` is a byte. -/
theorem mscSignals_lt (pars : PortCtrl) : mscSignals pars < 256 := by
  unfold mscSignals
  split_ifs <;> decide

/-- The break octet of `rfc_send_msc` reads back a break below 16. -/
theorem breakOctet_fields : ∀ b < 16,
    (UInt8.ofNat (rfcommEa ||| rfcommMscBreakPresentMask ||| b <<< rfcommMscShiftBreak)).toNat &&&
        rfcommMscBreakPresentMask=rfcommMscBreakPresentMask ∧
      ((UInt8.ofNat (rfcommEa ||| rfcommMscBreakPresentMask ||| b <<< rfcommMscShiftBreak)).toNat &&&
        rfcommMscBreakMask) >>> rfcommMscShiftBreak=b := by
  decide

/-- An MSC message of `rfc_send_msc` reads back its DLCI, its signals octet and a break below 16,
with the break octet there exactly when the break is not zero. -/
theorem rfcProcessMxMessage_rfcSendMsc {dlci : UInt8} (isCommand : Bool) (pars : PortCtrl)
    (hdlci : 2 ≤ dlci.toNat ∧ dlci.toNat ≤ rfcommMaxDlci) (hbreak : pars.breakSignal.toNat < 16) :
    rfcProcessMxMessage (rfcSendMsc dlci isCommand pars)=
      .ok (.msc isCommand ⟨dlci.toNat,mscSignals pars,
        if pars.breakSignal≠0 then rfcommMscBreakPresentMask else 0,pars.breakSignal.toNat⟩) := by
  obtain ⟨hbad,hd⟩ := dlciOctet_addressByte hdlci
  have hsig : (UInt8.ofNat (mscSignals pars)).toNat=mscSignals pars := UInt8.toNat_ofNat_of_lt' (mscSignals_lt pars)
  by_cases hb : pars.breakSignal≠0
  · -- with the break octet: three values
    obtain ⟨hpresent,hduration⟩ := breakOctet_fields _ hbreak
    simp only [rfcSendMsc,if_pos hb,List.cons_append,List.nil_append]
    rw [rfcProcessMxMessage_sent (by decide) (by rfl) (by decide),mxSwitch,if_neg (by decide),if_neg (by decide),
      if_neg (by decide),if_neg (by decide),if_pos rfl,mxMsc,if_neg (by decide)]
    simp only [rdByte,List.getElem?_cons_succ,List.getElem?_cons_zero,inRange_some,ok_bind,hbad,hd,hsig,
      Bool.false_eq_true,if_false,if_true,hpresent,hduration]
  · -- without it: two values, and a break of zero
    have hb0 : pars.breakSignal.toNat=0 := by
      rw [not_ne_iff] at hb
      rw [hb]
      rfl
    simp only [rfcSendMsc,if_neg hb,List.append_nil]
    rw [rfcProcessMxMessage_sent (by decide) (by rfl) (by decide),mxSwitch,if_neg (by decide),if_neg (by decide),
      if_neg (by decide),if_neg (by decide),if_pos rfl,mxMsc,if_neg (by decide)]
    simp only [rdByte,List.getElem?_cons_succ,List.getElem?_cons_zero,inRange_some,ok_bind,hbad,hd,hsig,
      Bool.false_eq_true,if_false,hb0]
    rfl

set_option maxRecDepth 8192 in
/-- The line status octet of `rfc_send_rls` reads back the status with its low bit cleared. -/
theorem rlsStatus_fields : ∀ s < 256,(UInt8.ofNat (rfcommRlsError ||| s)).toNat &&& 0xFE=s &&& 0xFE := by
  decide

/-- An RLS message of `rfc_send_rls` reads back its DLCI and its status with the error bit,
bit 0, cleared. -/
theorem rfcProcessMxMessage_rfcSendRls {dlci : UInt8} (isCommand : Bool) (status : UInt8)
    (hdlci : 2 ≤ dlci.toNat ∧ dlci.toNat ≤ rfcommMaxDlci) :
    rfcProcessMxMessage (rfcSendRls dlci isCommand status)=.ok (.rls isCommand dlci.toNat (status.toNat &&& 0xFE)) := by
  obtain ⟨hbad,hd⟩ := dlciOctet_addressByte hdlci
  rw [rfcSendRls,rfcProcessMxMessage_sent (by decide) (by rfl) (by decide),mxSwitch,if_neg (by decide),
    if_neg (by decide),if_neg (by decide),if_neg (by decide),if_neg (by decide),if_neg (by decide),
    if_neg (by decide),if_pos rfl,mxRls,if_neg (by decide)]
  simp only [rdByte,List.getElem?_cons_succ,List.getElem?_cons_zero,inRange_some,ok_bind,hbad,hd,
    Bool.false_eq_true,if_false,rlsStatus_fields _ status.toNat_lt]

/-- An RPN request of `rfc_send_rpn` reads back as a request for its DLCI. -/
theorem rfcProcessMxMessage_rfcSendRpn_request {dlci : UInt8} (isCommand : Bool) (mask : UInt16)
    (hdlci : 2 ≤ dlci.toNat ∧ dlci.toNat ≤ rfcommMaxDlci) :
    rfcProcessMxMessage (rfcSendRpn dlci isCommand none mask)=.ok (.rpn isCommand true dlci.toNat none) := by
  obtain ⟨hbad,hd⟩ := dlciOctet_addressByte hdlci
  rw [rfcSendRpn,rfcProcessMxMessage_sent (by decide) (by rfl) (by decide),mxSwitch,if_neg (by decide),
    if_neg (by decide),if_neg (by decide),if_neg (by decide),if_neg (by decide),if_neg (by decide),if_pos rfl,
    mxRpn,if_neg (by decide)]
  simp only [rdByte,List.getElem?_cons_succ,List.getElem?_cons_zero,inRange_some,ok_bind,hbad,hd,
    Bool.false_eq_true,if_false,if_true]

/-- The data format octet of `rfc_send_rpn` reads back byte size, stop bits, parity and parity
type within their widths. -/
theorem rpnFormat_fields : ∀ a < 4,∀ b < 2,∀ c < 2,∀ d < 4,
    let f := (UInt8.ofNat (a <<< rfcommRpnBitsShift ||| b <<< rfcommRpnStopBitsShift |||
      c <<< rfcommRpnParityShift ||| d <<< rfcommRpnParityTypeShift)).toNat
    (f >>> rfcommRpnBitsShift) &&& rfcommRpnBitsMask=a ∧ (f >>> rfcommRpnStopBitsShift) &&& rfcommRpnStopBitsMask=b ∧
      (f >>> rfcommRpnParityShift) &&& rfcommRpnParityMask=c ∧ (f >>> rfcommRpnParityTypeShift) &&& rfcommRpnParityTypeMask=d := by
  decide

/-- A full RPN message of `rfc_send_rpn` reads back its DLCI, the port values within their widths
and the parameter mask under `RFCOMM_RPN_PM_MASK`. -/
theorem rfcProcessMxMessage_rfcSendRpn {dlci : UInt8} (isCommand : Bool) (pars : PortState) (mask : UInt16)
    (hdlci : 2 ≤ dlci.toNat ∧ dlci.toNat ≤ rfcommMaxDlci)
    (hfmt : pars.byteSize.toNat < 4 ∧ pars.stopBits.toNat < 2 ∧ pars.parity.toNat < 2 ∧ pars.parityType.toNat < 4)
    (hfc : pars.fcType.toNat < 64) :
    rfcProcessMxMessage (rfcSendRpn dlci isCommand (some pars) mask)=
      .ok (.rpn isCommand false dlci.toNat (some ⟨pars.baudRate.toNat,pars.byteSize.toNat,pars.stopBits.toNat,
        pars.parity.toNat,pars.parityType.toNat,pars.fcType.toNat,pars.xonChar.toNat,pars.xoffChar.toNat,
        mask.toNat &&& rfcommRpnPmMask⟩)) := by
  obtain ⟨hbad,hd⟩ := dlciOctet_addressByte hdlci
  obtain ⟨h1,h2,h3,h4⟩ := hfmt
  obtain ⟨hbits,hstop,hparity,htype⟩ := rpnFormat_fields _ h1 _ h2 _ h3 _ h4
  have hfc' : pars.fcType.toNat &&& rfcommFcMask=pars.fcType.toNat := Nat.and_two_pow_sub_one_of_lt_two_pow (n := 6) hfc
  rw [rfcSendRpn,rfcProcessMxMessage_sent (by decide) (by rfl) (by decide),mxSwitch,if_neg (by decide),
    if_neg (by decide),if_neg (by decide),if_neg (by decide),if_neg (by decide),if_neg (by decide),if_pos rfl,
    mxRpn,if_neg (by decide)]
  simp only [rdByte,List.getElem?_cons_succ,List.getElem?_cons_zero,inRange_some,ok_bind,hbad,hd,
    Bool.false_eq_true,if_false,hbits,hstop,hparity,htype,hfc',bytes_of_uint16]
  rw [if_neg (by decide)]

/-- The multiplexer control parser reads only inside the information field; a message it takes
was declared, modulo 256, as long as what follows the length octets, which is a length its type
allows; and the PN, MSC, RPN and RLS messages of the stack's senders read back their values within
the widths the receiver masks them to. -/
theorem rfc_mx_message_parse_bounds_and_round_trip :
    (∀ payload : List UInt8,∃ ev,rfcProcessMxMessage payload=.ok ev ∧
      (ev.accepted=true → mxDeclaredLength payload%256=mxRemaining payload ∧
        ev.fitsHeader (mxType payload) (mxRemaining payload))) ∧
    (∀ (dlci : UInt8) (isCommand : Bool) (mtu : UInt16) (cl k rxPriority : UInt8),
      2 ≤ dlci.toNat ∧ dlci.toNat ≤ rfcommMaxDlci → rfcommMinMtu ≤ mtu.toNat ∧ mtu.toNat ≤ rfcommMaxMtu →
      k.toNat < 8 →
      rfcProcessMxMessage (rfcSendPn dlci isCommand mtu cl k rxPriority)=
        .ok (.pn isCommand ⟨dlci.toNat,cl.toNat &&& rfcommPnFrameTypeMask,cl.toNat &&& rfcommPnConvLayerMask,
          (if isCommand then rfcommPnPriority0 else rxPriority.toNat) &&& rfcommPnPriorityMask,rfcommT1Dsec,
          mtu.toNat,rfcommN2,k.toNat⟩)) ∧
    (∀ (dlci : UInt8) (isCommand : Bool) (pars : PortCtrl),
      2 ≤ dlci.toNat ∧ dlci.toNat ≤ rfcommMaxDlci → pars.breakSignal.toNat < 16 →
      rfcProcessMxMessage (rfcSendMsc dlci isCommand pars)=
        .ok (.msc isCommand ⟨dlci.toNat,mscSignals pars,
          if pars.breakSignal≠0 then rfcommMscBreakPresentMask else 0,pars.breakSignal.toNat⟩)) ∧
    (∀ (dlci : UInt8) (isCommand : Bool) (mask : UInt16),
      2 ≤ dlci.toNat ∧ dlci.toNat ≤ rfcommMaxDlci →
      rfcProcessMxMessage (rfcSendRpn dlci isCommand none mask)=.ok (.rpn isCommand true dlci.toNat none)) ∧
    (∀ (dlci : UInt8) (isCommand : Bool) (pars : PortState) (mask : UInt16),
      2 ≤ dlci.toNat ∧ dlci.toNat ≤ rfcommMaxDlci →
      pars.byteSize.toNat < 4 ∧ pars.stopBits.toNat < 2 ∧ pars.parity.toNat < 2 ∧ pars.parityType.toNat < 4 →
      pars.fcType.toNat < 64 →
      rfcProcessMxMessage (rfcSendRpn dlci isCommand (some pars) mask)=
        .ok (.rpn isCommand false dlci.toNat (some ⟨pars.baudRate.toNat,pars.byteSize.toNat,pars.stopBits.toNat,
          pars.parity.toNat,pars.parityType.toNat,pars.fcType.toNat,pars.xonChar.toNat,pars.xoffChar.toNat,
          mask.toNat &&& rfcommRpnPmMask⟩))) ∧
    (∀ (dlci : UInt8) (isCommand : Bool) (status : UInt8),
      2 ≤ dlci.toNat ∧ dlci.toNat ≤ rfcommMaxDlci →
      rfcProcessMxMessage (rfcSendRls dlci isCommand status)=.ok (.rls isCommand dlci.toNat (status.toNat &&& 0xFE))) :=
  ⟨rfcProcessMxMessage_spec,
    fun _ isCommand _ _ _ _ hdlci hmtu hk => rfcProcessMxMessage_rfcSendPn isCommand hdlci hmtu hk,
    fun _ isCommand pars hdlci hbreak => rfcProcessMxMessage_rfcSendMsc isCommand pars hdlci hbreak,
    fun _ isCommand mask hdlci => rfcProcessMxMessage_rfcSendRpn_request isCommand mask hdlci,
    fun _ isCommand pars mask hdlci hfmt hfc => rfcProcessMxMessage_rfcSendRpn isCommand pars mask hdlci hfmt hfc,
    fun _ isCommand status hdlci => rfcProcessMxMessage_rfcSendRls isCommand status hdlci⟩

theorem rdByte_cons_add_one (a : UInt8) (payload : List UInt8) (i : ℕ) :
    rdByte (a::payload) (i+1)=rdByte payload i := by
  simp [rdByte]

/-- The PN case reads its values from `p` on, whatever comes before. -/
theorem mxPn_cons (a : UInt8) (payload : List UInt8) (isCommand : Bool) (length p : ℕ) :
    mxPn (a::payload) isCommand length (p+1)=mxPn payload isCommand length p := by
  unfold mxPn
  simp only [rdByte_cons_add_one]

/-- `mx_len` is a `uint8_t`, so a two-octet length is compared modulo 256: a PN message whose length
octets declare `8 + 256 * n` bytes, for any `n` the second octet can carry, and which carries eight
values, is parsed exactly as the one whose single length octet declares 8. -/
theorem rfc_process_mx_message_takes_length_mod_256 (isCommand : Bool) (values : List UInt8) (n : ℕ)
    (hvalues : values.length=rfcommMxPnLen) (hn : n < 128) :
    mxDeclaredLength (mxTypeOctet isCommand rfcommMxPn::0x10::UInt8.ofNat (2*n)::values)=rfcommMxPnLen+256*n ∧
      rfcProcessMxMessage (mxTypeOctet isCommand rfcommMxPn::0x10::UInt8.ofNat (2*n)::values)=
        rfcProcessMxMessage (mxTypeOctet isCommand rfcommMxPn::mxLenOctet rfcommMxPnLen::values) := by
  obtain ⟨hea,hcr,htype⟩ := mxTypeOctet_fields isCommand rfcommMxPn (by simp)
  have hsecond : (UInt8.ofNat (2*n)).toNat=2*n := by
    rw [UInt8.toNat_ofNat']
    omega
  -- the first length octet has EA clear and declares 8; the second adds `2 * n` shifted by 7
  have hdecl : mxDeclaredLength (mxTypeOctet isCommand rfcommMxPn::0x10::UInt8.ofNat (2*n)::values)=
      rfcommMxPnLen+256*n := by
    simp only [mxDeclaredLength,List.getD_cons_succ,List.getD_cons_zero,hsecond,rfcommShiftLength2,
      Nat.shiftLeft_eq]
    simp [rfcommEa,rfcommShiftLength1,rfcommMxPnLen]
    omega
  have hsize : mxLengthSize (mxTypeOctet isCommand rfcommMxPn::0x10::UInt8.ofNat (2*n)::values)=2 := by
    simp [mxLengthSize,rfcommEa]
  have hrem : mxRemaining (mxTypeOctet isCommand rfcommMxPn::0x10::UInt8.ofNat (2*n)::values)=rfcommMxPnLen := by
    simp only [mxRemaining,hsize,List.length_cons,hvalues]
    omega
  refine ⟨hdecl,?_⟩
  rw [rfcProcessMxMessage_eq (by simp) (by rwa [List.getD_cons_zero]),hsize,hrem,hdecl,
    if_neg (by simp only [List.length_cons,hvalues,rfcommMxPnLen]; omega),
    rfcProcessMxMessage_sent (by simp) hvalues (by decide)]
  simp only [mxIsCommand,mxType,List.getD_cons_zero,hcr,htype,mxSwitch,if_true]
  -- both read the same eight values, three and two octets in
  rw [show 1+2=0+1+1+1 from rfl,mxPn_cons,mxPn_cons,mxPn_cons,show 2=0+1+1 from rfl,mxPn_cons,mxPn_cons]

/-- A PN command whose two length octets declare 264 bytes, followed by eight values, is taken as
the PN message those values make. -/
theorem rfc_process_mx_message_takes_wrapped_length :
    [(2 : UInt8),0,0,0,23,0,0,0].length=rfcommMxPnLen ∧ 1 < 128 ∧
      mxDeclaredLength (mxTypeOctet true rfcommMxPn::0x10::UInt8.ofNat (2*1)::[2,0,0,0,23,0,0,0])=
        rfcommMxPnLen+256*1 ∧
      rfcProcessMxMessage (mxTypeOctet true rfcommMxPn::0x10::UInt8.ofNat (2*1)::[2,0,0,0,23,0,0,0])=
        .ok (.pn true ⟨2,0,0,0,0,23,0,0⟩) := by
  obtain ⟨hdecl,hparse⟩ := rfc_process_mx_message_takes_length_mod_256 true [2,0,0,0,23,0,0,0] 1 rfl (by decide)
  exact ⟨rfl,by decide,hdecl,hparse.trans (by decide)⟩

end RoundTrip

end BluetoothStack.RfcommMx
