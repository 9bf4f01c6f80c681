import BluetoothStack.StepRun

/-!
# Message buffers of the stack (stack/include/bt_types.h)

`BT_HDR` heads every message buffer: an event code, the length and offset of
the message inside the data area, and a word each layer uses for its own
bookkeeping. The data area is modelled by its allocated bytes, so an access
past the allocation is a fault and never a read of neighbouring memory.
-/

namespace BluetoothStack.BtTypes

open ByteBuffer

/-- `BT_HDR` with its data area. -/
structure BtHdr where
  /-- Event code of the message. -/
  event : ℕ
  /-- Length of the message in the data area. -/
  len : ℕ
  /-- Offset of the message in the data area. -/
  offset : ℕ
  /-- Layer-specific word. -/
  layerSpecific : ℕ
  /-- The allocated data area. -/
  data : List UInt8
  deriving DecidableEq,Repr

/-- `sizeof(BT_HDR)`: four `uint16_t` fields ahead of the flexible data array. -/
def btHdrSize : ℕ := 8

/-- `BT_DEFAULT_BUFFER_SIZE` (internal_include/bt_target.h). -/
def btDefaultBufferSize : ℕ := 4096+16

/-- The message bytes `data[offset, offset+len)`, as a transport sends them. -/
def BtHdr.message (p : BtHdr) : Option (List UInt8) := readBytes p.data p.offset p.len

/-- A received buffer as the HAL wraps it (`WrapPacketAndCopy`): offset zero,
the byte count stored into the `uint16_t` length, and the bytes. -/
def BtHdr.ofBytes (event : ℕ) (bytes : List UInt8) : BtHdr :=
  {event,len := bytes.length%65536,offset := 0,layerSpecific := 0,data := bytes}

@[simp] theorem BtHdr.ofBytes_len (event : ℕ) (bytes : List UInt8) :
    (BtHdr.ofBytes event bytes).len=bytes.length%65536 := rfl

@[simp] theorem BtHdr.ofBytes_data (event : ℕ) (bytes : List UInt8) :
    (BtHdr.ofBytes event bytes).data=bytes := rfl

@[simp] theorem BtHdr.ofBytes_event (event : ℕ) (bytes : List UInt8) :
    (BtHdr.ofBytes event bytes).event=event := rfl

end BluetoothStack.BtTypes
