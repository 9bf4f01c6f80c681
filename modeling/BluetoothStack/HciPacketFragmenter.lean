import BluetoothStack.BtTypes

/-!
# HCI packet fragmenter (hci/src/packet_fragmenter.cc)

Outbound ACL packets longer than the controller's buffer are cut into
fragments by `fragment_and_dispatch`, which rewrites the four-byte ACL header
in place between callbacks. Inbound fragments are rebuilt by
`reassemble_and_dispatch`, which keeps one partial packet per connection
handle. Reads and copies are bounds checked against the allocation they touch;
`uint16_t` and `size_t` conversions are explicit where the source wraps. A
callback is an output of the step: the packet it receives, as it is at the
moment of the call.
-/

namespace BluetoothStack.HciPacketFragmenter

open ByteBuffer StepRun BtTypes

/-- `HCI_ACL_PREAMBLE_SIZE`: the handle and the ACL length. -/
def hciAclPreambleSize : ℕ := 4

/-- `L2CAP_HEADER_PDU_LEN_SIZE`. -/
def l2capHeaderPduLenSize : ℕ := 2

/-- `L2CAP_HEADER_SIZE`: the L2CAP length and channel id. -/
def l2capHeaderSize : ℕ := 4

/-- `START_PACKET_BOUNDARY`. -/
def startPacketBoundary : ℕ := 2

/-- `CONTINUATION_PACKET_BOUNDARY`. -/
def continuationPacketBoundary : ℕ := 1

/-- `HANDLE_MASK`. -/
def handleMask : ℕ := 0x0FFF

/-- `MSG_EVT_MASK`. -/
def msgEvtMask : ℕ := 0xFF00

/-- `MSG_SUB_EVT_MASK`. -/
def msgSubEvtMask : ℕ := 0x00FF

/-- `MSG_HC_TO_STACK_HCI_ACL`. -/
def msgHcToStackHciAcl : ℕ := 0x1100

/-- `MSG_STACK_TO_HC_HCI_ACL`. -/
def msgStackToHcHciAcl : ℕ := 0x2100

/-- `MSG_HC_TO_STACK_L2C_SEG_XMIT`. -/
def msgHcToStackL2cSegXmit : ℕ := 0x1900

/-- `LOCAL_BR_EDR_CONTROLLER_ID`. -/
def localBrEdrControllerId : ℕ := 0

/-- `UINT16_MAX`. -/
def uint16Max : ℕ := 65535

/-- `APPLY_CONTINUATION_FLAG`. -/
def applyContinuationFlag (handle : ℕ) : ℕ := handle &&& 0xCFFF ||| 0x1000

/-- `GET_BOUNDARY_FLAG`. -/
def getBoundaryFlag (handle : ℕ) : ℕ := (handle>>>12) &&& 0x0003

/-- `check_uint16_overflow`: whether `a+b` leaves `uint16_t`. -/
def checkUint16Overflow (a b : ℕ) : Bool := decide (uint16Max-a<b)

/-- The controller's ACL buffer sizes (device/include/controller.h). -/
structure Controller where
  /-- `get_acl_data_size_classic`. -/
  aclDataSizeClassic : UInt16
  /-- `get_acl_data_size_ble`. -/
  aclDataSizeBle : UInt16

/-- A callback into the HCI layer. -/
inductive FragmentEvent
  /-- `callbacks->fragmented(packet, send_complete)`. -/
  | fragmented (packet : BtHdr) (sendComplete : Bool)
  /-- `callbacks->transmit_finished(packet, all_fragments_sent)`. -/
  | transmitFinished (packet : BtHdr) (allFragmentsSent : Bool)
  deriving DecidableEq,Repr

/-- The `while` loop of `fragment_and_dispatch`. The fuel bounds its iterations;
running out of it stands for a loop whose `remaining_length` never shrinks. -/
def fragmentLoop (maxDataSize continuationHandle : ℕ) :
    ℕ → BtHdr → ℕ → Except Fault (List FragmentEvent)
  | 0,_,_ => .error .noProgress
  | fuel+1,packet,remainingLength => do
    let maxPacketSize := (maxDataSize+hciAclPreambleSize)%65536
    if maxPacketSize<remainingLength then
      let data ← inRange (writeBytes packet.data (packet.offset+2) (encodeLE 2 maxDataSize))
      let sent := {packet with data,len := maxPacketSize}
      let offset := (sent.offset+maxDataSize)%65536
      let remainingLength := toUint16 ((remainingLength : ℤ)-maxDataSize)
      let header := encodeLE 2 continuationHandle++
        encodeLE 2 (toUint16 ((remainingLength : ℤ)-hciAclPreambleSize))
      let data ← inRange (writeBytes sent.data offset header)
      let next := {sent with offset,len := remainingLength,data}
      if next.layerSpecific≠0 then
        let next := {next with layerSpecific := next.layerSpecific-1}
        if next.layerSpecific=0 then
          return [.fragmented sent false,
            .transmitFinished {next with event := msgHcToStackL2cSegXmit} false]
        let rest ← fragmentLoop maxDataSize continuationHandle fuel next remainingLength
        return .fragmented sent false::rest
      let rest ← fragmentLoop maxDataSize continuationHandle fuel next remainingLength
      return .fragmented sent false::rest
    else
      return [.fragmented packet true]

/-- `max_data_size`: the controller's ACL data size for the transport that
`SUB_EVENT(packet->event)` names. -/
def maxDataSizeFor (controller : Controller) (event : ℕ) : ℕ :=
  if event &&& msgSubEvtMask=localBrEdrControllerId then controller.aclDataSizeClassic.toNat
  else controller.aclDataSizeBle.toNat

/-- `fragment_and_dispatch`: non-ACL packets pass through; an ACL packet is cut
at the controller's data size for its transport. -/
def fragmentAndDispatch (controller : Controller) (packet : BtHdr) :
    Except Fault (List FragmentEvent) := do
  if packet.event &&& msgEvtMask≠msgStackToHcHciAcl then
    return [.fragmented packet true]
  let maxDataSize := maxDataSizeFor controller packet.event
  let handle ← inRange (readLE packet.data packet.offset 2)
  fragmentLoop maxDataSize (applyContinuationFlag handle) (packet.len+1) packet packet.len

/-- A remaining length that fits one controller buffer is sent whole and completes the send. -/
theorem fragmentLoop_of_le {d ch fuel r : ℕ} {packet : BtHdr}
    (h : r ≤ (d+hciAclPreambleSize)%65536) :
    fragmentLoop d ch (fuel+1) packet r=.ok [.fragmented packet true] := by
  simp only [fragmentLoop,if_neg (Nat.not_lt.mpr h)]
  rfl

/-- One round of the loop on a packet without a segment budget: the fragment
goes out with `max_data_size` in its length field, then the next fragment's
header is written where its payload starts. -/
theorem fragmentLoop_of_lt {d ch fuel r : ℕ} {packet : BtHdr} {data data' : List UInt8}
    (hlt : (d+hciAclPreambleSize)%65536<r) (hls : packet.layerSpecific=0)
    (hw : writeBytes packet.data (packet.offset+2) (encodeLE 2 d)=some data)
    (hw' : writeBytes data ((packet.offset+d)%65536)
      (encodeLE 2 ch++encodeLE 2 (toUint16 ((toUint16 ((r : ℤ)-d) : ℤ)-hciAclPreambleSize)))=some data') :
    fragmentLoop d ch (fuel+1) packet r=
      (fragmentLoop d ch fuel
        {packet with data := data',offset := (packet.offset+d)%65536,len := toUint16 ((r : ℤ)-d)}
        (toUint16 ((r : ℤ)-d))).map
        (.fragmented {packet with data,len := (d+hciAclPreambleSize)%65536} false::·) := by
  simp only [fragmentLoop,if_pos hlt,hw,hw',inRange_some,ok_bind,hls,ne_eq,not_true_eq_false,if_false]
  cases fragmentLoop d ch fuel _ _ <;> rfl

/-- An outbound ACL packet enters the loop with its handle turned into the
continuation handle and one round of fuel per byte. -/
theorem fragmentAndDispatch_of_acl {controller : Controller} {packet : BtHdr} {handle : ℕ}
    (hev : packet.event &&& msgEvtMask=msgStackToHcHciAcl)
    (hh : readLE packet.data packet.offset 2=some handle) :
    fragmentAndDispatch controller packet=fragmentLoop (maxDataSizeFor controller packet.event)
      (applyContinuationFlag handle) (packet.len+1) packet packet.len := by
  simp only [fragmentAndDispatch,hev,hh,ne_eq,not_true_eq_false,if_false,inRange_some,ok_bind]

/-- The `partial_packets` map of the reassembler. -/
structure FragmenterState where
  /-- The half-built packet of each connection handle. -/
  partialPackets : ℕ → Option BtHdr

/-- `partial_packets[handle] = partial_packet`. -/
def FragmenterState.set (st : FragmenterState) (handle : ℕ) (p : BtHdr) : FragmenterState :=
  ⟨Function.update st.partialPackets handle (some p)⟩

/-- `partial_packets.erase(handle)`. -/
def FragmenterState.erase (st : FragmenterState) (handle : ℕ) : FragmenterState :=
  ⟨Function.update st.partialPackets handle none⟩

/-- The reassembler with no partial packet (`cleanup`). -/
def FragmenterState.empty : FragmenterState := ⟨fun _ => none⟩

/-- `full_length` of a start fragment, stored into `uint16_t`. -/
def fullLength (l2capLength : ℕ) : ℕ := (l2capLength+l2capHeaderSize+hciAclPreambleSize)%65536

/-- The start-fragment length test ("Dropping L2CAP packet with invalid length"). -/
def invalidStartLength (l2capLength : ℕ) : Bool :=
  checkUint16Overflow l2capLength (l2capHeaderSize+hciAclPreambleSize) ||
    decide (btDefaultBufferSize<fullLength l2capLength+btHdrSize)

/-- The partial packet a start fragment opens: a buffer of `full_length` bytes
holding the fragment, with the ACL length set to the full expected length. -/
def startPartial (packet : BtHdr) (full : ℕ) : Except Fault BtHdr := do
  let data ← inRange (copyBytes (List.replicate full 0) 0 packet.data 0 packet.len)
  let data ← inRange (writeBytes data 2 (encodeLE 2 (toUint16 ((full : ℤ)-hciAclPreambleSize))))
  return {event := packet.event,len := full,offset := packet.len,layerSpecific := 0,data}

/-- `projected_offset` of a continuation fragment, a `uint16_t` sum. -/
def projectedOffset (partialPacket packet : BtHdr) : ℕ :=
  toUint16 ((partialPacket.offset : ℤ)+((packet.len : ℤ)-hciAclPreambleSize))

/-- `packet->len` and `projected_offset` after the overshoot test ("Truncating."). -/
def truncateContinuation (partialPacket packet : BtHdr) : ℕ×ℕ :=
  if partialPacket.len<projectedOffset partialPacket packet then
    (toUint16 ((partialPacket.len : ℤ)-partialPacket.offset),partialPacket.len)
  else (packet.len,projectedOffset partialPacket packet)

/-- The `memcpy` size `packet->len - packet->offset` of a continuation, as `size_t`. -/
def continuationCopySize (partialPacket packet : BtHdr) : ℕ :=
  toSizeT ((truncateContinuation partialPacket packet).1-(hciAclPreambleSize : ℤ))

/-- The start-fragment branch of `reassemble_and_dispatch`: drop an unfinished
packet of the handle, drop fragments with a bad length, pass a complete packet
through, and otherwise open a partial packet. -/
def reassembleStart (st : FragmenterState) (packet : BtHdr) (handle aclLength l2capLength : ℕ) :
    Except Fault (FragmenterState×List BtHdr) := do
  let st := st.erase handle
  if aclLength<l2capHeaderPduLenSize then
    return (st,[])
  if invalidStartLength l2capLength then
    return (st,[])
  let full := fullLength l2capLength
  if full ≤ packet.len then
    return (st,[packet])
  let partialPacket ← startPartial packet full
  return (st.set handle partialPacket,[])

/-- The continuation branch of `reassemble_and_dispatch`: append the fragment's
payload to the handle's partial packet and dispatch it once it is complete. -/
def reassembleContinuation (st : FragmenterState) (packet : BtHdr) (handle : ℕ) :
    Except Fault (FragmenterState×List BtHdr) := do
  match st.partialPackets handle with
  | none => return (st,[])
  | some partialPacket =>
    let projected := (truncateContinuation partialPacket packet).2
    let data ← inRange (copyBytes partialPacket.data partialPacket.offset packet.data
      hciAclPreambleSize (continuationCopySize partialPacket packet))
    let partialPacket := {partialPacket with data,offset := projected}
    if partialPacket.offset=partialPacket.len then
      return (st.erase handle,[{partialPacket with offset := 0}])
    return (st.set handle partialPacket,[])

/-- `reassemble_and_dispatch`: the outputs are the packets handed to `reassembled`. -/
def reassembleAndDispatch (st : FragmenterState) (packet : BtHdr) :
    Except Fault (FragmenterState×List BtHdr) := do
  if packet.event &&& msgEvtMask≠msgHcToStackHciAcl then
    return (st,[packet])
  let rawHandle ← inRange (readLE packet.data 0 2)
  let aclLength ← inRange (readLE packet.data 2 2)
  let l2capLength ← inRange (readLE packet.data 4 2)
  if (aclLength : ℤ)≠(packet.len : ℤ)-hciAclPreambleSize then
    throw .checkFailed
  let boundaryFlag := getBoundaryFlag rawHandle
  let handle := rawHandle &&& handleMask
  if boundaryFlag=startPacketBoundary then
    reassembleStart st packet handle aclLength l2capLength
  else
    reassembleContinuation st packet handle

/-- Inbound packets fed to the reassembler one after another. -/
def reassembleRun : FragmenterState → List BtHdr → Except Fault (FragmenterState×List BtHdr) :=
  runSteps reassembleAndDispatch

@[simp] theorem FragmenterState.set_self (st : FragmenterState) (handle : ℕ) (p : BtHdr) :
    (st.set handle p).partialPackets handle=some p := by
  simp only [FragmenterState.set,Function.update_self]

@[simp] theorem FragmenterState.set_ne {st : FragmenterState} {handle other : ℕ} (p : BtHdr)
    (h : other≠handle) : (st.set handle p).partialPackets other=st.partialPackets other := by
  simp only [FragmenterState.set,Function.update_of_ne h]

@[simp] theorem FragmenterState.erase_self (st : FragmenterState) (handle : ℕ) :
    (st.erase handle).partialPackets handle=none := by
  simp only [FragmenterState.erase,Function.update_self]

@[simp] theorem FragmenterState.erase_ne {st : FragmenterState} {handle other : ℕ}
    (h : other≠handle) : (st.erase handle).partialPackets other=st.partialPackets other := by
  simp only [FragmenterState.erase,Function.update_of_ne h]

/-- A bit of a sixteen-bit constant above bit fifteen is clear. -/
theorem testBit_of_lt_two_pow_sixteen {c i : ℕ} (hc : c<2^16) (hi : 16 ≤ i) : c.testBit i=false :=
  Nat.testBit_lt_two_pow (lt_of_lt_of_le hc (Nat.pow_le_pow_right (by norm_num) hi))

/-- A continuation header keeps the twelve handle bits. -/
theorem applyContinuationFlag_handle (handle : ℕ) :
    applyContinuationFlag handle &&& handleMask=handle &&& handleMask := by
  apply Nat.eq_of_testBit_eq
  intro i
  simp only [applyContinuationFlag,handleMask,Nat.testBit_or,Nat.testBit_and]
  by_cases hi : i<16
  · obtain hb | hb := Bool.eq_false_or_eq_true (handle.testBit i) <;> rw [hb] <;>
      interval_cases i <;> decide
  · have hm : Nat.testBit 0xFFF i=false := testBit_of_lt_two_pow_sixteen (by norm_num) (by omega)
    simp only [hm,Bool.and_false]

/-- A continuation header carries the continuation boundary flag. -/
theorem getBoundaryFlag_applyContinuationFlag (handle : ℕ) :
    getBoundaryFlag (applyContinuationFlag handle)=continuationPacketBoundary := by
  apply Nat.eq_of_testBit_eq
  intro i
  simp only [getBoundaryFlag,applyContinuationFlag,continuationPacketBoundary,Nat.testBit_or,
    Nat.testBit_and,Nat.testBit_shiftRight]
  by_cases hi : i<2
  · obtain hb | hb := Bool.eq_false_or_eq_true (handle.testBit (12+i)) <;> rw [hb] <;>
      interval_cases i <;> decide
  · have h4 : 4 ≤ 2^i := by
      calc 4=2^2 := by norm_num
        _ ≤ 2^i := Nat.pow_le_pow_right (by norm_num) (by omega)
    have h3 : Nat.testBit 3 i=false := Nat.testBit_lt_two_pow (by omega)
    have h1 : Nat.testBit 1 i=false := Nat.testBit_lt_two_pow (by omega)
    simp only [h3,h1,Bool.and_false]

/-- A continuation header is a sixteen-bit value. -/
theorem applyContinuationFlag_lt (handle : ℕ) : applyContinuationFlag handle<65536 := by
  have ha : handle &&& 0xCFFF<2^16 := lt_of_le_of_lt Nat.and_le_right (by norm_num)
  exact Nat.or_lt_two_pow ha (by norm_num)

end BluetoothStack.HciPacketFragmenter
