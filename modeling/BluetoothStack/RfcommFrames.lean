import BluetoothStack.StepRun

/-!
# RFCOMM frames: building, parsing and the frame check sequence

The frames a multiplexer sends (`rfc_send_sabme`, `rfc_send_ua`, `rfc_send_dm`,
`rfc_send_disc`, `rfc_send_buf_uih`) and the parser of the other end
(`rfc_parse_data`). The frame check sequence is the table CRC of
`rfc_calc_fcs` and `rfc_check_fcs`; its law, that a check succeeds exactly on
the byte the sender computes, rests on two facts: the table holds 0xCF at index
255 only, and the one's complement of a byte is its exclusive or with 0xFF.

Reads of a frame are bounds-checked. The address field of a frame that this
side accepts is one byte; the length field is one byte up to 127 and two bytes
above; a UIH frame on a data channel with P set carries a credit byte when the
multiplexer uses credit-based flow control.
-/

namespace BluetoothStack.RfcommFrames

open ByteBuffer StepRun

/-- `RFCOMM_SABME`. -/
def rfcommSabme : ℕ := 0x2F
/-- `RFCOMM_UA`. -/
def rfcommUa : ℕ := 0x63
/-- `RFCOMM_DM`. -/
def rfcommDm : ℕ := 0x0F
/-- `RFCOMM_DISC`. -/
def rfcommDisc : ℕ := 0x43
/-- `RFCOMM_UIH`. -/
def rfcommUih : ℕ := 0xEF
/-- `RFCOMM_CTRL_FRAME_LEN`: address, control and a one-byte length. -/
def rfcommCtrlFrameLen : ℕ := 3
/-- `RFCOMM_EA`. -/
def rfcommEa : ℕ := 1
/-- `RFCOMM_CR_MASK`. -/
def rfcommCrMask : ℕ := 0x02
/-- `RFCOMM_SHIFT_CR`. -/
def rfcommShiftCr : ℕ := 1
/-- `RFCOMM_SHIFT_DLCI`. -/
def rfcommShiftDlci : ℕ := 2
/-- `RFCOMM_SHIFT_DLCI2`. -/
def rfcommShiftDlci2 : ℕ := 6
/-- `RFCOMM_PF`. -/
def rfcommPf : ℕ := 0x10
/-- `RFCOMM_PF_MASK`. -/
def rfcommPfMask : ℕ := 0x10
/-- `RFCOMM_PF_OFFSET`. -/
def rfcommPfOffset : ℕ := 4
/-- `RFCOMM_SHIFT_LENGTH1`. -/
def rfcommShiftLength1 : ℕ := 1
/-- `RFCOMM_SHIFT_LENGTH2`. -/
def rfcommShiftLength2 : ℕ := 7
/-- `RFCOMM_MX_DLCI`: the multiplexer control channel. -/
def rfcommMxDlci : ℕ := 0
/-- `RFCOMM_MAX_DLCI`. -/
def rfcommMaxDlci : ℕ := 61

/-- `rfc_crctable`: the reversed 8-bit CRC table of GSM 07.10, polynomial 0x07. -/
def rfcCrctable : List UInt8 := [
  0x00,0x91,0xE3,0x72,0x07,0x96,0xE4,0x75,0x0E,0x9F,0xED,0x7C,0x09,0x98,0xEA,0x7B,
  0x1C,0x8D,0xFF,0x6E,0x1B,0x8A,0xF8,0x69,0x12,0x83,0xF1,0x60,0x15,0x84,0xF6,0x67,
  0x38,0xA9,0xDB,0x4A,0x3F,0xAE,0xDC,0x4D,0x36,0xA7,0xD5,0x44,0x31,0xA0,0xD2,0x43,
  0x24,0xB5,0xC7,0x56,0x23,0xB2,0xC0,0x51,0x2A,0xBB,0xC9,0x58,0x2D,0xBC,0xCE,0x5F,
  0x70,0xE1,0x93,0x02,0x77,0xE6,0x94,0x05,0x7E,0xEF,0x9D,0x0C,0x79,0xE8,0x9A,0x0B,
  0x6C,0xFD,0x8F,0x1E,0x6B,0xFA,0x88,0x19,0x62,0xF3,0x81,0x10,0x65,0xF4,0x86,0x17,
  0x48,0xD9,0xAB,0x3A,0x4F,0xDE,0xAC,0x3D,0x46,0xD7,0xA5,0x34,0x41,0xD0,0xA2,0x33,
  0x54,0xC5,0xB7,0x26,0x53,0xC2,0xB0,0x21,0x5A,0xCB,0xB9,0x28,0x5D,0xCC,0xBE,0x2F,
  0xE0,0x71,0x03,0x92,0xE7,0x76,0x04,0x95,0xEE,0x7F,0x0D,0x9C,0xE9,0x78,0x0A,0x9B,
  0xFC,0x6D,0x1F,0x8E,0xFB,0x6A,0x18,0x89,0xF2,0x63,0x11,0x80,0xF5,0x64,0x16,0x87,
  0xD8,0x49,0x3B,0xAA,0xDF,0x4E,0x3C,0xAD,0xD6,0x47,0x35,0xA4,0xD1,0x40,0x32,0xA3,
  0xC4,0x55,0x27,0xB6,0xC3,0x52,0x20,0xB1,0xCA,0x5B,0x29,0xB8,0xCD,0x5C,0x2E,0xBF,
  0x90,0x01,0x73,0xE2,0x97,0x06,0x74,0xE5,0x9E,0x0F,0x7D,0xEC,0x99,0x08,0x7A,0xEB,
  0x8C,0x1D,0x6F,0xFE,0x8B,0x1A,0x68,0xF9,0x82,0x13,0x61,0xF0,0x85,0x14,0x66,0xF7,
  0xA8,0x39,0x4B,0xDA,0xAF,0x3E,0x4C,0xDD,0xA6,0x37,0x45,0xD4,0xA1,0x30,0x42,0xD3,
  0xB4,0x25,0x57,0xC6,0xB3,0x22,0x50,0xC1,0xBA,0x2B,0x59,0xC8,0xBD,0x2C,0x5E,0xCF]

/-- One turn of the table loop, `fcs = rfc_crctable[fcs ^ *p++]`; the index is a
byte, so it is always inside the table. -/
def crcStep (fcs b : UInt8) : UInt8 := rfcCrctable.getD (fcs ^^^ b).toNat 0

/-- The running remainder after the table loop over `bytes`, from 0xFF. -/
def crcOf (bytes : List UInt8) : UInt8 := bytes.foldl crcStep 0xFF

/-- `rfc_calc_fcs`: the one's complement of the remainder over the first `len` bytes at `p`. -/
def rfcCalcFcs (len : ℕ) (p : List UInt8) : Except Fault UInt8 :=
  (inRange (readBytes p 0 len)).map fun bytes => 0xFF-crcOf bytes

/-- `rfc_check_fcs`: one more turn of the loop over the received FCS must land on 0xCF. -/
def rfcCheckFcs (len : ℕ) (p : List UInt8) (receivedFcs : UInt8) : Except Fault Bool :=
  (inRange (readBytes p 0 len)).map fun bytes => crcStep (crcOf bytes) receivedFcs=0xCF

section Fcs

set_option maxRecDepth 8192 in
/-- 0xCF stands at index 255 of the table and nowhere else. -/
theorem getD_rfcCrctable_eq_cf : ∀ n<256,rfcCrctable.getD n 0=0xCF ↔ n=255 := by
  decide

set_option maxRecDepth 8192 in
theorem xor_ff_eq_sub : ∀ n<256,n ^^^ 255=255-n := by
  decide

/-- The one's complement of a byte is its exclusive or with 0xFF. -/
theorem ff_sub_eq_xor (c : UInt8) : 0xFF-c=c ^^^ 0xFF := by
  apply UInt8.toNat_inj.mp
  have hc : c.toNat<256 := c.toNat_lt
  have h255 : (0xFF : UInt8).toNat=255 := rfl
  rw [UInt8.toNat_xor,UInt8.toNat_sub_of_le _ _ (UInt8.le_iff_toNat_le.mpr (by rw [h255]; omega)),h255,
    xor_ff_eq_sub _ hc]

/-- The last turn of the check lands on 0xCF exactly when the received byte is the
complement of the remainder. -/
theorem crcStep_eq_cf_iff (fcs r : UInt8) : crcStep fcs r=0xCF ↔ r=0xFF-fcs := by
  have hidx : crcStep fcs r=0xCF ↔ (fcs ^^^ r).toNat=255 :=
    getD_rfcCrctable_eq_cf _ (fcs ^^^ r).toNat_lt
  have hxor : (fcs ^^^ r).toNat=255 ↔ fcs ^^^ r=0xFF := by
    rw [← UInt8.toNat_inj]
    rfl
  rw [hidx,hxor,ff_sub_eq_xor]
  constructor
  · intro h
    rw [← h,← UInt8.xor_assoc,UInt8.xor_self,UInt8.zero_xor]
  · rintro rfl
    rw [← UInt8.xor_assoc,UInt8.xor_self,UInt8.zero_xor]

/-- The frame check law: a check over `len` bytes succeeds exactly when the received byte is
the one `rfc_calc_fcs` computes over the same bytes. When the bytes are not there both faults. -/
theorem rfcCheckFcs_eq_ok_true_iff (len : ℕ) (p : List UInt8) (r : UInt8) :
    rfcCheckFcs len p r=.ok true ↔ rfcCalcFcs len p=.ok r := by
  unfold rfcCheckFcs rfcCalcFcs
  cases readBytes p 0 len with
  | none => simp only [inRange_none,Except.map,reduceCtorEq]
  | some bytes =>
    simp only [inRange_some,Except.map,Except.ok.injEq,decide_eq_true_eq,crcStep_eq_cf_iff]
    exact eq_comm

end Fcs

/-- `RFCOMM_CR(initiator, is_command)`: the C/R bit a side puts in the address byte. -/
def rfcommCr (initiator isCommand : Bool) : ℕ := ((initiator && isCommand) || (!initiator && !isCommand)).toNat <<< 1

/-- `RFCOMM_FRAME_IS_CMD(initiator, cr)` on the parsed C/R bit. -/
def rfcommFrameIsCmd (initiator : Bool) (cr : ℕ) : Bool := (initiator && cr=0) || (!initiator && cr≠0)

/-- `RFCOMM_FRAME_IS_RSP(initiator, cr)` on the parsed C/R bit. -/
def rfcommFrameIsRsp (initiator : Bool) (cr : ℕ) : Bool := (initiator && cr≠0) || (!initiator && cr=0)

/-- `RFCOMM_VALID_DLCI`: the control channel or a server channel DLCI. -/
def rfcommValidDlci (dlci : ℕ) : Bool := dlci=0 || (2 ≤ dlci && dlci ≤ rfcommMaxDlci)

/-- The address byte `RFCOMM_EA | cr | (dlci << RFCOMM_SHIFT_DLCI)`. -/
def addressByte (cr dlci : ℕ) : UInt8 := UInt8.ofNat (rfcommEa ||| cr ||| dlci <<< rfcommShiftDlci)

/-- The frames of `rfc_send_sabme`, `rfc_send_ua`, `rfc_send_dm` and `rfc_send_disc`: address,
control, an empty length field and the FCS over those three bytes. -/
def ctrlFrame (isInitiator isCommand : Bool) (control dlci : ℕ) : Except Fault (List UInt8) :=
  let hdr := [addressByte (rfcommCr isInitiator isCommand) dlci,UInt8.ofNat control,UInt8.ofNat (rfcommEa ||| 0)]
  (rfcCalcFcs rfcommCtrlFrameLen hdr).map fun fcs => hdr++[fcs]

/-- `rfc_send_sabme`: a command with P set. -/
def rfcSendSabme (isInitiator : Bool) (dlci : ℕ) : Except Fault (List UInt8) :=
  ctrlFrame isInitiator true (rfcommSabme ||| rfcommPf) dlci

/-- `rfc_send_ua`: a response with F set. -/
def rfcSendUa (isInitiator : Bool) (dlci : ℕ) : Except Fault (List UInt8) :=
  ctrlFrame isInitiator false (rfcommUa ||| rfcommPf) dlci

/-- `rfc_send_dm`: a response whose F bit is the caller's. -/
def rfcSendDm (isInitiator : Bool) (dlci : ℕ) (pf : Bool) : Except Fault (List UInt8) :=
  ctrlFrame isInitiator false (rfcommDm ||| if pf then rfcommPf else 0) dlci

/-- `rfc_send_disc`: a command with P set. -/
def rfcSendDisc (isInitiator : Bool) (dlci : ℕ) : Except Fault (List UInt8) :=
  ctrlFrame isInitiator true (rfcommDisc ||| rfcommPf) dlci

/-- The credits a UIH frame carries: `(uint8_t)p_buf->layer_specific` on a data channel and
none on the control channel. -/
def uihCredits (dlci layerSpecific : ℕ) : ℕ := if dlci≠0 then layerSpecific%256 else 0

/-- The length field of `rfc_send_buf_uih`: one byte with EA set up to 127 bytes, else the low
seven bits and then the bits from the eighth up. -/
def uihLengthField (len : ℕ) : List UInt8 :=
  if len ≤ 127 then [UInt8.ofNat (rfcommEa ||| len <<< 1)]
  else [UInt8.ofNat ((len &&& 0x7f) <<< 1),UInt8.ofNat (len >>> rfcommShiftLength2)]

/-- `rfc_send_buf_uih`: address, control with P set when there are credits, the length field,
the credit byte, the information field and the FCS over the address and control bytes. -/
def rfcSendBufUih (isInitiator : Bool) (dlci layerSpecific : ℕ) (payload : List UInt8) :
    Except Fault (List UInt8) :=
  let credits := uihCredits dlci layerSpecific
  let frame := [addressByte (rfcommCr isInitiator true) dlci,UInt8.ofNat (rfcommUih ||| if credits≠0 then rfcommPf else 0)]++
    uihLengthField payload.length++(if credits≠0 then [UInt8.ofNat credits] else [])++payload
  (rfcCalcFcs 2 frame).map fun fcs => frame++[fcs]

/-- The events `rfc_parse_data` returns. -/
inductive RfcEvent
  | sabme
  | ua
  | dm
  | disc
  | uih
  | badFrame
  deriving DecidableEq,Repr

/-- The fields of `MX_FRAME` that `rfc_parse_data` fills in. -/
structure MxFrame where
  dlci : ℕ
  type : ℕ
  cr : ℕ
  pf : ℕ
  credit : ℕ
  deriving DecidableEq,Repr

/-- A bounds-checked read of the byte at `i`. -/
def rdByte (frame : List UInt8) (i : ℕ) : Except Fault UInt8 := inRange frame[i]?

/-- One control-frame case of the switch in `rfc_parse_data`: the C/R bit, the P bit where the
case tests it, an empty information field, the DLCI and, last, the FCS over the three header bytes. -/
def ctrlEvent (badRole checkPf : Bool) (ev : RfcEvent) (frame : List UInt8) (mx : MxFrame) (len : ℕ)
    (fcs : UInt8) : Except Fault RfcEvent :=
  if badRole || (checkPf && mx.pf=0) || len≠0 || !rfcommValidDlci mx.dlci then .ok .badFrame
  else (rfcCheckFcs rfcommCtrlFrameLen frame fcs).map fun ok => if ok then ev else .badFrame

/-- The switch on the frame type. A UIH frame is checked over its first two bytes and accepted
even with the response C/R bit. -/
def frameEvent (isInitiator : Bool) (frame : List UInt8) (mx : MxFrame) (len : ℕ) (fcs : UInt8) :
    Except Fault RfcEvent :=
  if mx.type=rfcommSabme then ctrlEvent (rfcommFrameIsRsp isInitiator mx.cr) true .sabme frame mx len fcs
  else if mx.type=rfcommUa then ctrlEvent (rfcommFrameIsCmd isInitiator mx.cr) true .ua frame mx len fcs
  else if mx.type=rfcommDm then ctrlEvent (rfcommFrameIsCmd isInitiator mx.cr) false .dm frame mx len fcs
  else if mx.type=rfcommDisc then ctrlEvent (rfcommFrameIsRsp isInitiator mx.cr) true .disc frame mx len fcs
  else if mx.type=rfcommUih then
    if !rfcommValidDlci mx.dlci then .ok .badFrame
    else (rfcCheckFcs 2 frame fcs).map fun ok => if ok then .uih else .badFrame
  else .ok .badFrame

/-- The length field after a one-byte address: its value and its size, or `none` when EA is
clear and the frame has no fourth byte. -/
def parseLength (frame : List UInt8) : Except Fault (Option (ℕ×ℕ)) :=
  rdByte frame 2 >>= fun b =>
    let eal := b.toNat &&& rfcommEa
    let len := b.toNat >>> rfcommShiftLength1
    if eal=0 ∧ rfcommCtrlFrameLen<frame.length then
      (rdByte frame 3).map fun b2 => some ((len+b2.toNat <<< rfcommShiftLength2)%65536,2)
    else if eal=0 then .ok none
    else .ok (some (len,1))

/-- The credit byte, read under credit-based flow control from a UIH frame on a data channel
with P set; it moves the offset on and shortens the `uint16_t` length by one. -/
def parseCredit (creditFlow : Bool) (frame : List UInt8) (mx : MxFrame) (offset bufLen : ℕ) :
    Except Fault (MxFrame×ℕ×ℕ) :=
  if creditFlow ∧ mx.type=rfcommUih ∧ mx.dlci≠rfcommMxDlci ∧ mx.pf=1 then
    (rdByte frame offset).map fun c => ({mx with credit := c.toNat},offset+1,toUint16 ((bufLen : ℤ)-1))
  else .ok ({mx with credit := 0},offset,bufLen)

/-- `rfc_parse_data` after the header: the `uint16_t` length left for the information field,
the credit byte, the length check, the FCS byte after the information field and the switch.
The result carries the frame's fields and the bytes `p_buf` is left describing. -/
def parseBody (isInitiator creditFlow : Bool) (frame : List UInt8) (mx : MxFrame) (len lenSize : ℕ) :
    Except Fault (RfcEvent×MxFrame×List UInt8) :=
  parseCredit creditFlow frame mx (2+lenSize) (toUint16 ((frame.length : ℤ)-(3+lenSize))) >>= fun
    | (mx,offset,bufLen) =>
      if bufLen≠len then .ok (.badFrame,mx,(frame.drop offset).take bufLen)
      else rdByte frame (offset+len) >>= fun fcs =>
        (frameEvent isInitiator frame mx len fcs).map fun ev => (ev,mx,(frame.drop offset).take bufLen)

/-- `rfc_parse_data`: the event for a received frame, the fields it wrote into `MX_FRAME`
(starting from `pFrame`) and the bytes `p_buf` describes afterwards. -/
def rfcParseData (isInitiator creditFlow : Bool) (pFrame : MxFrame) (frame : List UInt8) :
    Except Fault (RfcEvent×MxFrame×List UInt8) :=
  if frame.length<rfcommCtrlFrameLen then .ok (.badFrame,pFrame,frame)
  else rdByte frame 0 >>= fun addr =>
    let mx := {pFrame with cr := (addr.toNat &&& rfcommCrMask) >>> rfcommShiftCr,dlci := addr.toNat >>> rfcommShiftDlci}
    if addr.toNat &&& rfcommEa=0 then
      -- the second address byte is added in before the frame is refused
      (rdByte frame 1).map fun a2 => (.badFrame,{mx with dlci := (mx.dlci+a2.toNat <<< rfcommShiftDlci2)%256},frame)
    else rdByte frame 1 >>= fun ctrl =>
      -- the type is the control byte with P cleared, as `& ~RFCOMM_PF_MASK` stored in a byte
      let mx := {mx with type := ctrl.toNat &&& (255 ^^^ rfcommPfMask),pf := (ctrl.toNat &&& rfcommPfMask) >>> rfcommPfOffset}
      parseLength frame >>= fun
        | none => .ok (.badFrame,mx,frame)
        | some (len,lenSize) => parseBody isInitiator creditFlow frame mx len lenSize

section Parse

/-- A valid DLCI fits the six bits the address byte has for it. -/
theorem lt_64_of_rfcommValidDlci {dlci : ℕ} (h : rfcommValidDlci dlci=true) : dlci<64 := by
  have hmax : rfcommMaxDlci=61 := rfl
  simp only [rfcommValidDlci,Bool.or_eq_true,decide_eq_true_eq,Bool.and_eq_true] at h
  omega

set_option maxRecDepth 8192 in
/-- The address byte reads back its EA bit, its C/R bit and a DLCI below 64. -/
theorem addressByte_fields : ∀ dlci<64,∀ b : Bool,
    (addressByte (b.toNat <<< 1) dlci).toNat &&& rfcommEa=1 ∧
      ((addressByte (b.toNat <<< 1) dlci).toNat &&& rfcommCrMask) >>> rfcommShiftCr=b.toNat ∧
      (addressByte (b.toNat <<< 1) dlci).toNat >>> rfcommShiftDlci=dlci := by
  decide

set_option maxRecDepth 8192 in
/-- A control byte reads back its type with P cleared and its P bit. -/
theorem controlByte_fields : ∀ t<256,t &&& rfcommPfMask=0 → ∀ pf : Bool,
    (UInt8.ofNat (t ||| if pf then rfcommPf else 0)).toNat &&& (255 ^^^ rfcommPfMask)=t ∧
      ((UInt8.ofNat (t ||| if pf then rfcommPf else 0)).toNat &&& rfcommPfMask) >>> rfcommPfOffset=pf.toNat := by
  decide

/-- With EA set in the address byte, `rfc_parse_data` fills in the header fields and goes on
with the body. -/
theorem rfcParseData_of_ea {isInitiator creditFlow : Bool} {pFrame : MxFrame} {a c : UInt8}
    {rest : List UInt8} {len lenSize : ℕ} (hrest : rest≠[]) (hea : a.toNat &&& rfcommEa≠0)
    (hlen : parseLength (a::c::rest)=.ok (some (len,lenSize))) :
    rfcParseData isInitiator creditFlow pFrame (a::c::rest)=
      parseBody isInitiator creditFlow (a::c::rest)
        ⟨a.toNat >>> rfcommShiftDlci,c.toNat &&& (255 ^^^ rfcommPfMask),(a.toNat &&& rfcommCrMask) >>> rfcommShiftCr,
          (c.toNat &&& rfcommPfMask) >>> rfcommPfOffset,pFrame.credit⟩ len lenSize := by
  have hshort : ¬(a::c::rest).length<rfcommCtrlFrameLen := by
    have := List.length_pos_iff.mpr hrest
    simp only [List.length_cons,rfcommCtrlFrameLen]
    omega
  simp only [rfcParseData,if_neg hshort,rdByte,List.getElem?_cons_zero,List.getElem?_cons_succ,inRange_some,
    ok_bind,if_neg hea,hlen]

/-- The length field of a control frame: one byte with EA set and nothing in it. -/
theorem parseLength_ctrl (a c : UInt8) (rest : List UInt8) :
    parseLength (a::c::UInt8.ofNat (rfcommEa ||| 0)::rest)=.ok (some (0,1)) := by
  rfl

/-- The length field of a UIH frame reads back the length of its information field. -/
theorem parseLength_uihLengthField {n : ℕ} (hn : n ≤ 32767) (a c : UInt8) (rest : List UInt8) :
    parseLength (a::c::uihLengthField n++rest)=.ok (some (n,(uihLengthField n).length)) := by
  by_cases hs : n ≤ 127
  · have hb : (UInt8.ofNat (rfcommEa ||| n <<< 1)).toNat=2*n+1 := by
      rw [UInt8.toNat_ofNat',Nat.lor_comm,← Nat.shiftLeft_add_eq_or_of_lt (by decide : rfcommEa<2^1),
        Nat.shiftLeft_eq]
      have hea : rfcommEa=1 := rfl
      omega
    have heal : (2*n+1) &&& rfcommEa=1 := by
      rw [show rfcommEa=1 from rfl,Nat.and_one_is_mod]
      omega
    have hlen : (2*n+1) >>> rfcommShiftLength1=n := by
      rw [show rfcommShiftLength1=1 from rfl,Nat.shiftRight_eq_div_pow]
      omega
    simp only [parseLength,uihLengthField,if_pos hs,rdByte,List.cons_append,
      List.getElem?_cons_succ,List.getElem?_cons_zero,inRange_some,ok_bind,hb,heal,hlen,one_ne_zero,
      false_and,if_false,List.length_singleton]
  · have h1 : (UInt8.ofNat ((n &&& 0x7f) <<< 1)).toNat=n%128*2 := by
      rw [UInt8.toNat_ofNat',Nat.shiftLeft_eq,show (0x7f : ℕ)=2^7-1 from rfl,Nat.and_two_pow_sub_one_eq_mod]
      omega
    have h2 : (UInt8.ofNat (n >>> rfcommShiftLength2)).toNat=n/128 := by
      rw [UInt8.toNat_ofNat',show rfcommShiftLength2=7 from rfl,Nat.shiftRight_eq_div_pow]
      omega
    have heal : n%128*2 &&& rfcommEa=0 := by
      rw [show rfcommEa=1 from rfl,Nat.and_one_is_mod]
      omega
    have hlen : ((n%128*2) >>> rfcommShiftLength1+(n/128) <<< rfcommShiftLength2)%65536=n := by
      rw [show rfcommShiftLength1=1 from rfl,show rfcommShiftLength2=7 from rfl,Nat.shiftRight_eq_div_pow,
        Nat.shiftLeft_eq]
      omega
    have hlong : rfcommCtrlFrameLen<rest.length+1+1+1+1 := by
      rw [show rfcommCtrlFrameLen=3 from rfl]
      omega
    simp only [parseLength,uihLengthField,if_neg hs,rdByte,List.cons_append,List.nil_append,
      List.getElem?_cons_succ,List.getElem?_cons_zero,inRange_some,ok_bind,h1,heal,true_and,List.length_cons,
      if_pos hlong,Except.map,h2,hlen,List.length_nil]

/-- Without credit-based flow, or on a frame that is not a UIH frame with P set on a data
channel, no credit byte is read and the credit is 0. -/
theorem parseCredit_of_not {creditFlow : Bool} {frame : List UInt8} {mx : MxFrame} {offset bufLen : ℕ}
    (h : ¬(creditFlow ∧ mx.type=rfcommUih ∧ mx.dlci≠rfcommMxDlci ∧ mx.pf=1)) :
    parseCredit creditFlow frame mx offset bufLen=.ok ({mx with credit := 0},offset,bufLen) := by
  rw [parseCredit,if_neg h]

/-- Under credit-based flow a UIH frame with P set on a data channel has its credit byte at
the offset, which moves past it. -/
theorem parseCredit_of_credit {creditFlow : Bool} {frame : List UInt8} {mx : MxFrame} {offset bufLen : ℕ}
    {b : UInt8} (h : creditFlow ∧ mx.type=rfcommUih ∧ mx.dlci≠rfcommMxDlci ∧ mx.pf=1) (hb : frame[offset]?=some b)
    (hlen : 1 ≤ bufLen) (hlen' : bufLen ≤ 65536) :
    parseCredit creditFlow frame mx offset bufLen=.ok ({mx with credit := b.toNat},offset+1,bufLen-1) := by
  have hwrap : toUint16 ((bufLen : ℤ)-1)=bufLen-1 := by
    unfold toUint16
    omega
  simp only [parseCredit,if_pos h,rdByte,hb,inRange_some,Except.map,hwrap]

/-- Once the credit step leaves the offset at the information field with its length, the
switch sees the byte after it as the FCS, and `p_buf` describes the information field. -/
theorem parseBody_info {isInitiator creditFlow : Bool} {pre info : List UInt8} {fcs : UInt8}
    {mx mx' : MxFrame} {lenSize : ℕ}
    (hcredit : parseCredit creditFlow (pre++info++[fcs]) mx (2+lenSize)
      (toUint16 (((pre++info++[fcs]).length : ℤ)-(3+lenSize)))=.ok (mx',pre.length,info.length)) :
    parseBody isInitiator creditFlow (pre++info++[fcs]) mx info.length lenSize=
      (frameEvent isInitiator (pre++info++[fcs]) mx' info.length fcs).map fun ev => (ev,mx',info) := by
  have hfcs : rdByte (pre++info++[fcs]) (pre.length+info.length)=.ok fcs := by
    rw [rdByte,List.append_assoc,List.getElem?_append_right (by omega),Nat.add_sub_cancel_left,
      List.getElem?_append_right (le_refl _),Nat.sub_self]
    rfl
  have hinfo : ((pre++info++[fcs]).drop pre.length).take info.length=info := by
    rw [List.append_assoc,List.drop_left,List.take_left]
  simp only [parseBody,hcredit,ok_bind,ne_eq,not_true_eq_false,if_false,hfcs,hinfo]

/-- A read that ends inside a prefix reads the same bytes from the prefix alone. -/
theorem readBytes_append_of_le {p q : List UInt8} {pos n : ℕ} (h : pos+n ≤ p.length) :
    readBytes (p++q) pos n=readBytes p pos n := by
  rw [← readBytes_take h,List.take_left]

/-- The check over the first `len` bytes does not see what follows them. -/
theorem rfcCheckFcs_append {len : ℕ} {p : List UInt8} (q : List UInt8) (r : UInt8) (h : len ≤ p.length) :
    rfcCheckFcs len (p++q) r=rfcCheckFcs len p r := by
  unfold rfcCheckFcs
  rw [readBytes_append_of_le (by omega)]

/-- Any four-byte frame with EA set, an empty length field and a type other than UIH: the
header fields are read out, no credit is taken and the switch gets the last byte as the FCS. -/
theorem rfcParseData_ctrl {isInitiator creditFlow : Bool} {pFrame : MxFrame} {a c : UInt8} (f : UInt8)
    (hea : a.toNat &&& rfcommEa≠0) (htype : c.toNat &&& (255 ^^^ rfcommPfMask)≠rfcommUih) :
    rfcParseData isInitiator creditFlow pFrame [a,c,UInt8.ofNat (rfcommEa ||| 0),f]=
      (frameEvent isInitiator [a,c,UInt8.ofNat (rfcommEa ||| 0),f]
        ⟨a.toNat >>> rfcommShiftDlci,c.toNat &&& (255 ^^^ rfcommPfMask),(a.toNat &&& rfcommCrMask) >>> rfcommShiftCr,
          (c.toNat &&& rfcommPfMask) >>> rfcommPfOffset,0⟩ 0 f).map
        fun ev => (ev,⟨a.toNat >>> rfcommShiftDlci,c.toNat &&& (255 ^^^ rfcommPfMask),
          (a.toNat &&& rfcommCrMask) >>> rfcommShiftCr,(c.toNat &&& rfcommPfMask) >>> rfcommPfOffset,0⟩,[]) := by
  set e := UInt8.ofNat (rfcommEa ||| 0)
  have hcredit : parseCredit creditFlow ([a,c,e]++[]++[f])
      ⟨a.toNat >>> rfcommShiftDlci,c.toNat &&& (255 ^^^ rfcommPfMask),(a.toNat &&& rfcommCrMask) >>> rfcommShiftCr,
        (c.toNat &&& rfcommPfMask) >>> rfcommPfOffset,pFrame.credit⟩ (2+1)
      (toUint16 ((([a,c,e]++[]++[f]).length : ℤ)-(3+1)))=
      .ok (⟨a.toNat >>> rfcommShiftDlci,c.toNat &&& (255 ^^^ rfcommPfMask),(a.toNat &&& rfcommCrMask) >>> rfcommShiftCr,
        (c.toNat &&& rfcommPfMask) >>> rfcommPfOffset,0⟩,[a,c,e].length,([] : List UInt8).length) := by
    rw [parseCredit_of_not (fun h => htype h.2.1)]
    rfl
  rw [rfcParseData_of_ea (List.cons_ne_nil _ _) hea (parseLength_ctrl _ _ _)]
  exact @parseBody_info isInitiator creditFlow [a,c,e] [] f _ _ 1 hcredit

/-- A control frame read on the other side of the multiplexer: the header fields come back
with no credit and no information field, and the switch decides on the FCS the sender
computed, which passes the check. -/
theorem rfcParseData_ctrlFrame {isInitiator isCommand creditFlow pf : Bool} {pFrame : MxFrame} {t dlci : ℕ}
    (ht : t<256) (htpf : t &&& rfcommPfMask=0) (htuih : t≠rfcommUih) (hdlci : dlci<64) :
    ∃ frame fcs,ctrlFrame isInitiator isCommand (t ||| if pf then rfcommPf else 0) dlci=.ok frame ∧
      rfcCheckFcs rfcommCtrlFrameLen frame fcs=.ok true ∧
      rfcParseData (!isInitiator) creditFlow pFrame frame=
        (frameEvent (!isInitiator) frame
          ⟨dlci,t,((isInitiator && isCommand) || (!isInitiator && !isCommand)).toNat,pf.toNat,0⟩ 0 fcs).map
          fun ev => (ev,⟨dlci,t,((isInitiator && isCommand) || (!isInitiator && !isCommand)).toNat,pf.toNat,0⟩,[]) := by
  set a := addressByte (rfcommCr isInitiator isCommand) dlci
  set c := UInt8.ofNat (t ||| if pf then rfcommPf else 0)
  set e := UInt8.ofNat (rfcommEa ||| 0)
  have hfields : a.toNat &&& rfcommEa=1 ∧ (a.toNat &&& rfcommCrMask) >>> rfcommShiftCr=
      ((isInitiator && isCommand) || (!isInitiator && !isCommand)).toNat ∧ a.toNat >>> rfcommShiftDlci=dlci :=
    addressByte_fields dlci hdlci _
  obtain ⟨hea,hcr,hd⟩ := hfields
  obtain ⟨htype,hpf⟩ := controlByte_fields t ht htpf pf
  have hcalc : rfcCalcFcs rfcommCtrlFrameLen [a,c,e]=.ok (0xFF-crcOf [a,c,e]) := rfl
  refine ⟨[a,c,e,0xFF-crcOf [a,c,e]],0xFF-crcOf [a,c,e],rfl,?_,?_⟩
  · rw [show [a,c,e,0xFF-crcOf [a,c,e]]=[a,c,e]++[0xFF-crcOf [a,c,e]] from rfl,
      rfcCheckFcs_append _ _ (le_refl 3)]
    exact (rfcCheckFcs_eq_ok_true_iff _ _ _).mpr hcalc
  · rw [rfcParseData_ctrl _ (by rw [hea]; decide) (by rw [htype]; exact htuih),hcr,hd,htype,hpf]

/-- The FCS of a UIH frame covers its address and control bytes. -/
theorem rfcCalcFcs_two (a c : UInt8) (rest : List UInt8) :
    rfcCalcFcs 2 (a::c::rest)=.ok (0xFF-crcOf [a,c]) := by
  rw [rfcCalcFcs,readBytes_eq_some (by simp only [List.length_cons]; omega)]
  rfl

/-- The UIH case of the switch: a valid DLCI and a passing check over the first two bytes
give `RFC_EVENT_UIH`, whichever C/R bit the frame has. -/
theorem frameEvent_uih {isInitiator : Bool} {frame : List UInt8} {mx : MxFrame} {len : ℕ} {fcs : UInt8}
    (htype : mx.type=rfcommUih) (hdlci : rfcommValidDlci mx.dlci=true) (hfcs : rfcCheckFcs 2 frame fcs=.ok true) :
    frameEvent isInitiator frame mx len fcs=.ok .uih := by
  have hne : ∀ k ∈ [rfcommSabme,rfcommUa,rfcommDm,rfcommDisc],mx.type≠k := by
    rw [htype]
    decide
  simp only [List.mem_cons,List.not_mem_nil,or_false,forall_eq_or_imp,forall_eq] at hne
  rw [frameEvent,if_neg hne.1,if_neg hne.2.1,if_neg hne.2.2.1,if_neg hne.2.2.2,if_pos htype,hdlci,hfcs]
  rfl

/-- Every credit value a UIH frame carries fits its byte. -/
theorem uihCredits_lt (dlci layerSpecific : ℕ) : uihCredits dlci layerSpecific<256 := by
  unfold uihCredits
  split <;> omega

/-- Credits go out only on a data channel. -/
theorem dlci_ne_zero_of_uihCredits {dlci layerSpecific : ℕ} (h : uihCredits dlci layerSpecific≠0) : dlci≠0 := by
  intro hd
  exact h (by rw [uihCredits,if_neg (not_not.mpr hd)])

/-- A UIH frame read on the other side of the multiplexer, under credit-based flow whenever it
carries credits: the event is UIH, the DLCI comes back with P set exactly when there are
credits, the credit is what the sender put in, and `p_buf` describes the payload. -/
theorem rfcParseData_sendBufUih {isInitiator creditFlow : Bool} {pFrame : MxFrame} {dlci layerSpecific : ℕ}
    {payload : List UInt8} (hdlci : rfcommValidDlci dlci=true) (hlen : payload.length ≤ 32767)
    (hflow : uihCredits dlci layerSpecific≠0 → creditFlow=true) :
    ∃ frame,rfcSendBufUih isInitiator dlci layerSpecific payload=.ok frame ∧
      rfcParseData (!isInitiator) creditFlow pFrame frame=
        .ok (.uih,⟨dlci,rfcommUih,isInitiator.toNat,if uihCredits dlci layerSpecific≠0 then 1 else 0,
          uihCredits dlci layerSpecific⟩,payload) := by
  set credits := uihCredits dlci layerSpecific with hcredits
  set a := addressByte (rfcommCr isInitiator true) dlci
  set c := UInt8.ofNat (rfcommUih ||| if credits≠0 then rfcommPf else 0)
  set lf := uihLengthField payload.length
  set cf : List UInt8 := if credits≠0 then [UInt8.ofNat credits] else []
  set fcs := 0xFF-crcOf [a,c]
  have hfields : a.toNat &&& rfcommEa=1 ∧ (a.toNat &&& rfcommCrMask) >>> rfcommShiftCr=
      ((isInitiator && true) || (!isInitiator && !true)).toNat ∧ a.toNat >>> rfcommShiftDlci=dlci :=
    addressByte_fields dlci (lt_64_of_rfcommValidDlci hdlci) _
  obtain ⟨hea,hcr,hd⟩ := hfields
  simp only [Bool.and_true,Bool.not_true,Bool.and_false,Bool.or_false] at hcr
  have hpfb : (if credits≠0 then rfcommPf else 0)=if (decide (credits≠0)) then rfcommPf else 0 := by
    simp only [decide_eq_true_eq]
  obtain ⟨htype,hpf⟩ := controlByte_fields rfcommUih (by decide) (by decide) (decide (credits≠0))
  rw [← hpfb] at htype hpf
  have hlenField : parseLength (a::c::(lf++(cf++payload++[fcs])))=.ok (some (payload.length,lf.length)) := by
    have h := parseLength_uihLengthField hlen a c (cf++payload++[fcs])
    rwa [List.cons_append,List.cons_append] at h
  refine ⟨a::c::(lf++(cf++payload++[fcs])),?_,?_⟩
  · show (rfcCalcFcs 2 (a::c::(lf++cf++payload))).map (fun fcs => [a,c]++lf++cf++payload++[fcs])=_
    rw [rfcCalcFcs_two]
    simp only [Except.map,List.cons_append,List.nil_append,List.append_assoc]
    rfl
  · rw [rfcParseData_of_ea (by simp) (by rw [hea]; decide) hlenField,hcr,hd,htype,hpf]
    have hshape : a::c::(lf++(cf++payload++[fcs]))=([a,c]++lf++cf)++payload++[fcs] := by
      simp only [List.cons_append,List.nil_append,List.append_assoc]
    have hfcs : rfcCheckFcs 2 (([a,c]++lf++cf)++payload++[fcs]) fcs=.ok true := by
      rw [List.append_assoc,List.append_assoc,List.append_assoc,rfcCheckFcs_append _ _ (le_refl 2)]
      exact (rfcCheckFcs_eq_ok_true_iff _ _ _).mpr rfl
    have hlenFrame : ((([a,c]++lf++cf)++payload++[fcs]).length : ℤ)-(3+lf.length)=cf.length+payload.length := by
      simp only [List.length_append,List.length_cons,List.length_nil]
      omega
    rw [hshape]
    by_cases hc : credits≠0
    · -- the credit byte follows the length field and is read back
      have hcf : cf=[UInt8.ofNat credits] := if_pos hc
      have hbuf : toUint16 (((([a,c]++lf++cf)++payload++[fcs]).length : ℤ)-(3+lf.length))=1+payload.length := by
        rw [hlenFrame,hcf,List.length_singleton]
        exact toUint16_of_lt (by omega)
      have hat : (([a,c]++lf++cf)++payload++[fcs])[2+lf.length]?=some (UInt8.ofNat credits) := by
        have hl1 : 2+lf.length<([a,c]++lf++cf).length := by
          simp only [hcf,List.length_append,List.length_cons,List.length_nil]
          omega
        have hl2 : ([a,c]++lf).length=2+lf.length := by
          simp only [List.length_append,List.length_cons,List.length_nil]
        rw [List.append_assoc,List.getElem?_append_left hl1,List.getElem?_append_right (le_of_eq hl2),hl2,
          Nat.sub_self,hcf]
        rfl
      have hpf1 : (decide (credits≠0)).toNat=1 := by
        rw [decide_eq_true hc]
        rfl
      have hcredit : parseCredit creditFlow (([a,c]++lf++cf)++payload++[fcs])
          ⟨dlci,rfcommUih,isInitiator.toNat,(decide (credits≠0)).toNat,pFrame.credit⟩ (2+lf.length)
          (toUint16 (((([a,c]++lf++cf)++payload++[fcs]).length : ℤ)-(3+lf.length)))=
          .ok (⟨dlci,rfcommUih,isInitiator.toNat,1,credits⟩,([a,c]++lf++cf).length,payload.length) := by
        have hb1 : 1 ≤ 1+payload.length := by omega
        have hb2 : 1+payload.length ≤ 65536 := by omega
        have hcredit8 : (UInt8.ofNat credits).toNat=credits := by
          rw [UInt8.toNat_ofNat']
          exact Nat.mod_eq_of_lt (uihCredits_lt dlci layerSpecific)
        have hoff : 2+lf.length+1=([a,c]++lf++cf).length := by
          simp only [hcf,List.length_append,List.length_cons,List.length_nil]
        rw [hbuf,parseCredit_of_credit ⟨hflow hc,rfl,dlci_ne_zero_of_uihCredits hc,hpf1⟩ hat hb1 hb2,hcredit8,hpf1,
          hoff,Nat.add_sub_cancel_left]
      rw [parseBody_info hcredit,frameEvent_uih rfl hdlci hfcs,if_pos hc]
      rfl
    · -- no credit byte and P clear, so the parser reads none
      have hcf : cf=[] := if_neg hc
      have hzero : credits=0 := not_not.mp hc
      have hbuf : toUint16 (((([a,c]++lf++cf)++payload++[fcs]).length : ℤ)-(3+lf.length))=payload.length := by
        rw [hlenFrame,hcf,List.length_nil,Nat.cast_zero,zero_add]
        exact toUint16_of_lt (by omega)
      have hpf0 : (decide (credits≠0)).toNat=0 := by
        rw [decide_eq_false hc]
        rfl
      have hcredit : parseCredit creditFlow (([a,c]++lf++cf)++payload++[fcs])
          ⟨dlci,rfcommUih,isInitiator.toNat,(decide (credits≠0)).toNat,pFrame.credit⟩ (2+lf.length)
          (toUint16 (((([a,c]++lf++cf)++payload++[fcs]).length : ℤ)-(3+lf.length)))=
          .ok (⟨dlci,rfcommUih,isInitiator.toNat,0,0⟩,([a,c]++lf++cf).length,payload.length) := by
        have hnot : ¬(creditFlow ∧ (⟨dlci,rfcommUih,isInitiator.toNat,(decide (credits≠0)).toNat,pFrame.credit⟩ : MxFrame).type=
            rfcommUih ∧ dlci≠rfcommMxDlci ∧ (decide (credits≠0)).toNat=1) := by
          rw [hpf0]
          omega
        have hoff : 2+lf.length=([a,c]++lf++cf).length := by
          simp only [hcf,List.length_append,List.length_cons,List.length_nil]
          omega
        rw [hbuf,parseCredit_of_not hnot,hoff,hpf0]
      rw [parseBody_info hcredit,frameEvent_uih rfl hdlci hfcs,if_neg hc,hzero]
      rfl

/-- A control-frame case accepts a frame whose C/R bit is right for it, with P set where the
case tests it, no information field, a valid DLCI and a passing check. -/
theorem ctrlEvent_ok {badRole checkPf : Bool} {ev : RfcEvent} {frame : List UInt8} {mx : MxFrame} {fcs : UInt8}
    (hrole : badRole=false) (hpf : checkPf=true → mx.pf≠0) (hdlci : rfcommValidDlci mx.dlci=true)
    (hfcs : rfcCheckFcs rfcommCtrlFrameLen frame fcs=.ok true) :
    ctrlEvent badRole checkPf ev frame mx 0 fcs=.ok ev := by
  have hskip : (badRole || (checkPf && mx.pf=0) || (0:ℕ)≠0 || !rfcommValidDlci mx.dlci)=false := by
    cases checkPf with
    | false => simp only [hrole,hdlci,Bool.false_and,Bool.or_false,ne_eq,not_true_eq_false,decide_false,Bool.not_true]
    | true => simp only [hrole,hdlci,hpf rfl,Bool.true_and,decide_false,Bool.or_false,ne_eq,not_true_eq_false,
        Bool.not_true]
  rw [ctrlEvent,hskip,hfcs]
  rfl

/-- SABME from the other side: a command in its C/R bit, so `RFCOMM_FRAME_IS_RSP` is false here. -/
theorem frameEvent_sabme {isInitiator : Bool} {frame : List UInt8} {dlci : ℕ} {fcs : UInt8}
    (hdlci : rfcommValidDlci dlci=true) (hfcs : rfcCheckFcs rfcommCtrlFrameLen frame fcs=.ok true) :
    frameEvent (!isInitiator) frame ⟨dlci,rfcommSabme,isInitiator.toNat,1,0⟩ 0 fcs=.ok .sabme := by
  rw [frameEvent,if_pos rfl]
  exact ctrlEvent_ok (by cases isInitiator <;> rfl) (fun _ => one_ne_zero) hdlci hfcs

/-- UA from the other side: a response in its C/R bit. -/
theorem frameEvent_ua {isInitiator : Bool} {frame : List UInt8} {dlci : ℕ} {fcs : UInt8}
    (hdlci : rfcommValidDlci dlci=true) (hfcs : rfcCheckFcs rfcommCtrlFrameLen frame fcs=.ok true) :
    frameEvent (!isInitiator) frame ⟨dlci,rfcommUa,(!isInitiator).toNat,1,0⟩ 0 fcs=.ok .ua := by
  rw [frameEvent,if_neg (show rfcommUa≠rfcommSabme by decide),if_pos rfl]
  exact ctrlEvent_ok (by cases isInitiator <;> rfl) (fun _ => one_ne_zero) hdlci hfcs

/-- DM from the other side: a response, accepted whatever its F bit. -/
theorem frameEvent_dm {isInitiator : Bool} {frame : List UInt8} {dlci pf : ℕ} {fcs : UInt8}
    (hdlci : rfcommValidDlci dlci=true) (hfcs : rfcCheckFcs rfcommCtrlFrameLen frame fcs=.ok true) :
    frameEvent (!isInitiator) frame ⟨dlci,rfcommDm,(!isInitiator).toNat,pf,0⟩ 0 fcs=.ok .dm := by
  rw [frameEvent,if_neg (show rfcommDm≠rfcommSabme by decide),if_neg (show rfcommDm≠rfcommUa by decide),if_pos rfl]
  exact ctrlEvent_ok (by cases isInitiator <;> rfl) (fun h => absurd h Bool.false_ne_true) hdlci hfcs

/-- DISC from the other side: a command in its C/R bit. -/
theorem frameEvent_disc {isInitiator : Bool} {frame : List UInt8} {dlci : ℕ} {fcs : UInt8}
    (hdlci : rfcommValidDlci dlci=true) (hfcs : rfcCheckFcs rfcommCtrlFrameLen frame fcs=.ok true) :
    frameEvent (!isInitiator) frame ⟨dlci,rfcommDisc,isInitiator.toNat,1,0⟩ 0 fcs=.ok .disc := by
  rw [frameEvent,if_neg (show rfcommDisc≠rfcommSabme by decide),if_neg (show rfcommDisc≠rfcommUa by decide),
    if_neg (show rfcommDisc≠rfcommDm by decide),if_pos rfl]
  exact ctrlEvent_ok (by cases isInitiator <;> rfl) (fun _ => one_ne_zero) hdlci hfcs

/-- Below 256, the credits of a UIH frame are the caller's on a data channel and none on the
control channel. -/
theorem uihCredits_of_lt {dlci c : ℕ} (hc : c<256) : uihCredits dlci c=if dlci=0 then 0 else c := by
  unfold uihCredits
  by_cases hd : dlci=0
  · rw [if_neg (not_not.mpr hd),if_pos hd]
  · rw [if_pos hd,if_neg hd,Nat.mod_eq_of_lt hc]

end Parse

/-- The frames of one end read on the other. A UIH frame with a valid DLCI, at most 32767
payload bytes and credit `c`, under credit-based flow when it carries credits, comes back as
UIH with its DLCI, P set exactly when there are credits, the credits and the payload; on the
control channel the credits are dropped by the sender. SABME and DISC come back as commands
with P set, UA as a response with F set, DM as a response with the sender's F bit. And a check
of the frame check sequence succeeds exactly on the byte `rfc_calc_fcs` computes. -/
theorem rfcomm_frames_agree_across_ends :
    (∀ (isInitiator creditFlow : Bool) (pFrame : MxFrame) (dlci c : ℕ) (payload : List UInt8),
      rfcommValidDlci dlci=true → payload.length ≤ 32767 → c<256 → (dlci≠0 → c≠0 → creditFlow=true) →
      ∃ frame,rfcSendBufUih isInitiator dlci c payload=.ok frame ∧
        rfcParseData (!isInitiator) creditFlow pFrame frame=
          .ok (.uih,⟨dlci,rfcommUih,isInitiator.toNat,if dlci=0 ∨ c=0 then 0 else 1,if dlci=0 then 0 else c⟩,
            payload)) ∧
    (∀ (isInitiator creditFlow : Bool) (pFrame : MxFrame) (dlci : ℕ),rfcommValidDlci dlci=true →
      (∃ frame,rfcSendSabme isInitiator dlci=.ok frame ∧
        rfcParseData (!isInitiator) creditFlow pFrame frame=.ok (.sabme,⟨dlci,rfcommSabme,isInitiator.toNat,1,0⟩,[])) ∧
      (∃ frame,rfcSendDisc isInitiator dlci=.ok frame ∧
        rfcParseData (!isInitiator) creditFlow pFrame frame=.ok (.disc,⟨dlci,rfcommDisc,isInitiator.toNat,1,0⟩,[])) ∧
      (∃ frame,rfcSendUa isInitiator dlci=.ok frame ∧
        rfcParseData (!isInitiator) creditFlow pFrame frame=.ok (.ua,⟨dlci,rfcommUa,(!isInitiator).toNat,1,0⟩,[])) ∧
      ∀ pf : Bool,∃ frame,rfcSendDm isInitiator dlci pf=.ok frame ∧
        rfcParseData (!isInitiator) creditFlow pFrame frame=
          .ok (.dm,⟨dlci,rfcommDm,(!isInitiator).toNat,pf.toNat,0⟩,[])) ∧
    ∀ (len : ℕ) (s : List UInt8) (r : UInt8),rfcCheckFcs len s r=.ok true ↔ rfcCalcFcs len s=.ok r := by
  refine ⟨?_,?_,rfcCheckFcs_eq_ok_true_iff⟩
  · intro isInitiator creditFlow pFrame dlci c payload hdlci hlen hc hflow
    have hcredits := @uihCredits_of_lt dlci c hc
    have hpf : (if uihCredits dlci c≠0 then 1 else 0)=if dlci=0 ∨ c=0 then 0 else 1 := by
      rw [hcredits]
      by_cases hd : dlci=0 <;> by_cases hc0 : c=0 <;> simp [hd,hc0]
    rw [← hpf,← hcredits]
    refine rfcParseData_sendBufUih hdlci hlen (fun h => hflow ?_ ?_)
    · exact dlci_ne_zero_of_uihCredits h
    · intro hc0
      exact h (by rw [hcredits,hc0]; split <;> rfl)
  · intro isInitiator creditFlow pFrame dlci hdlci
    have h64 := lt_64_of_rfcommValidDlci hdlci
    refine ⟨?_,?_,?_,fun pf => ?_⟩
    · obtain ⟨frame,fcs,hsend,hfcs,hparse⟩ :=
        @rfcParseData_ctrlFrame isInitiator true creditFlow true pFrame rfcommSabme dlci (by decide) (by decide)
          (by decide) h64
      simp only [Bool.and_true,Bool.not_true,Bool.and_false,Bool.or_false,Bool.toNat_true] at hparse
      rw [frameEvent_sabme hdlci hfcs] at hparse
      exact ⟨frame,hsend,hparse⟩
    · obtain ⟨frame,fcs,hsend,hfcs,hparse⟩ :=
        @rfcParseData_ctrlFrame isInitiator true creditFlow true pFrame rfcommDisc dlci (by decide) (by decide)
          (by decide) h64
      simp only [Bool.and_true,Bool.not_true,Bool.and_false,Bool.or_false,Bool.toNat_true] at hparse
      rw [frameEvent_disc hdlci hfcs] at hparse
      exact ⟨frame,hsend,hparse⟩
    · obtain ⟨frame,fcs,hsend,hfcs,hparse⟩ :=
        @rfcParseData_ctrlFrame isInitiator false creditFlow true pFrame rfcommUa dlci (by decide) (by decide)
          (by decide) h64
      simp only [Bool.and_false,Bool.not_false,Bool.and_true,Bool.false_or,Bool.toNat_true] at hparse
      rw [frameEvent_ua hdlci hfcs] at hparse
      exact ⟨frame,hsend,hparse⟩
    · obtain ⟨frame,fcs,hsend,hfcs,hparse⟩ :=
        @rfcParseData_ctrlFrame isInitiator false creditFlow pf pFrame rfcommDm dlci (by decide) (by decide)
          (by decide) h64
      simp only [Bool.and_false,Bool.not_false,Bool.and_true,Bool.false_or] at hparse
      rw [frameEvent_dm hdlci hfcs] at hparse
      exact ⟨frame,hsend,hparse⟩

/-- On the control channel `rfc_send_buf_uih` leaves the credits of `layer_specific` out: a UIH
frame sent with one credit on DLCI 0 has P clear and is read back with credit 0, under
credit-based flow. -/
theorem rfcSendBufUih_control_channel_drops_credit :
    rfcSendBufUih true 0 1 []=.ok [0x03,0xEF,0x01,0x70] ∧
      rfcParseData false true ⟨0,0,0,0,0⟩ [0x03,0xEF,0x01,0x70]=.ok (.uih,⟨0,rfcommUih,1,0,0⟩,[]) := by
  constructor <;> decide

end BluetoothStack.RfcommFrames
