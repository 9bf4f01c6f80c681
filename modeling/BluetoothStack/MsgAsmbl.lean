import BluetoothStack.BtTypes
import BluetoothStack.SdpDiscovery

/-!
# Reassembly of fragmented signalling messages (AVDTP and AVCTP)

`avdt_msg_asmbl` and `avct_lcb_msg_asmbl` are the same code over two header formats. A packet's
type sits in bits 2 and 3 of its first byte: a single packet is handed up as it is, a start packet
is copied into a fresh `BT_DEFAULT_BUFFER_SIZE` buffer with its first header byte moved over the
NOSP byte, and continue and end packets are appended after their one-byte header; an end packet
hands up the whole message. A packet shorter than its type's header is dropped, and so is a
continue or end packet with no reassembly in progress or one that would overflow the buffer.

A packet is the `len` bytes at `offset` of its buffer; a read of the packet outside them is a
fault, and so is a copy outside the data area of either buffer.
-/

namespace BluetoothStack.MsgAsmbl

open ByteBuffer StepRun BtTypes
open SdpDiscovery (rdByte)

/-- Packet type single. -/
def pktTypeSingle : ℕ := 0
/-- Packet type start. -/
def pktTypeStart : ℕ := 1
/-- Packet type continue. -/
def pktTypeCont : ℕ := 2
/-- Packet type end. -/
def pktTypeEnd : ℕ := 3

/-- The data area of the reassembly buffer: `BT_DEFAULT_BUFFER_SIZE - sizeof(BT_HDR)` bytes. -/
def rxBufLen : ℕ := btDefaultBufferSize-btHdrSize

/-- A bounds-checked read of byte `i` of a packet. -/
def pktByte (p : BtHdr) (i : ℕ) : Except Fault ℕ :=
  if i<p.len then rdByte p.data (p.offset+i) else .error .outOfRange

/-- The packet type in bits 2 and 3 of a header byte. -/
def pktTypeOf (b : ℕ) : ℕ := (b/4)%4

/-- The reassembler of one protocol: the header length of each packet type and the length of the
continue and end headers. -/
structure AsmblCfg where
  pktTypeLen : ℕ → ℕ
  lenTypeCont : ℕ

/-- What a reassembly step leaves: the message in progress (`p_rx_msg`) and the message handed up,
if any. -/
abbrev AsmblResult := Option BtHdr×Option BtHdr

/-- A start packet copied into a fresh reassembly buffer: the buffer's data area takes the packet's
buffer up to the end of the packet, the first header byte goes over the NOSP byte, `offset` moves
to the end of the packet and `len` drops the one header byte that is gone. -/
def startRxMsg (p : BtHdr) : Except Fault BtHdr :=
  inRange (copyBytes (List.replicate rxBufLen 0) 0 p.data 0 (p.offset+p.len)) >>= fun data =>
  rdByte data p.offset >>= fun b =>
  inRange (writeBytes data (p.offset+1) [UInt8.ofNat b]) >>= fun data =>
  .ok {p with data,offset := p.offset+p.len,len := p.len-1}

/-- A continue or end packet appended to the message in progress, after its header. -/
def appendRxMsg (cfg : AsmblCfg) (pktType : ℕ) (rx p : BtHdr) : Except Fault AsmblResult :=
  let p := {p with offset := p.offset+cfg.lenTypeCont,len := p.len-cfg.lenTypeCont}
  if rxBufLen<rx.offset+p.len then .ok (none,none)
  else
    inRange (copyBytes rx.data rx.offset p.data p.offset p.len) >>= fun data =>
    if pktType=pktTypeEnd then .ok (none,some {rx with data,offset := rx.offset-rx.len,len := rx.len+p.len})
    else .ok (some {rx with data,offset := rx.offset+p.len,len := rx.len+p.len},none)

/-- `avdt_msg_asmbl` and `avct_lcb_msg_asmbl`: one packet into the reassembly in progress `rx`. -/
def msgAsmbl (cfg : AsmblCfg) (rx : Option BtHdr) (p : BtHdr) : Except Fault AsmblResult :=
  -- the type is read before the length is checked
  pktByte p 0 >>= fun b =>
  let pktType := pktTypeOf b
  if p.len<cfg.pktTypeLen pktType then .ok (rx,none)
  else if pktType=pktTypeSingle then .ok (none,some p)
  else if pktType=pktTypeStart then startRxMsg p >>= fun rx => .ok (some rx,none)
  else match rx with
    | none => .ok (none,none)
    | some rx => appendRxMsg cfg pktType rx p

/-- An empty packet: its type byte is read before its length is checked. -/
theorem msgAsmbl_of_empty (cfg : AsmblCfg) (rx : Option BtHdr) {p : BtHdr} (h : p.len=0) :
    msgAsmbl cfg rx p=.error .outOfRange := by
  rw [msgAsmbl,pktByte,if_neg (by omega),error_bind]

end BluetoothStack.MsgAsmbl
