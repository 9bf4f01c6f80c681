import BluetoothStack.AvrcpDevice

/-!
# AVRCP builders against their sizes and parsers (packet/avrcp)

Every AVRCP builder computes `size()` apart from `Serialize`, and writes a length into its header:
the parameter length of a vendor-dependent packet or the length of a browsing packet, both
`uint16_t`. This file has the builders the other AVRCP files do not: the packets around an arbitrary
payload (`PacketBuilder`, `VendorPacketBuilder`, `BrowsePacketBuilder`), the pass-through command,
the two rejects and the responses of fixed fields. A payload builder is given by the bytes it
serializes to, so its `size()` is their number.

Each of them serializes to `size()` bytes, with a length field that counts the bytes after the
header modulo `2^16`. `VendorPacketBuilder` is the one that can fault: `MakeBuilder` CHECKs that the
payload has at most `0xFFFF` bytes, and `Serialize` CHECKs that it has fewer. The last section puts
every builder of the directory against its own `size()` and, where it has one, its parser.
-/

namespace BluetoothStack.AvrcpBuilders

open ByteBuffer StepRun AvrcpPacket AvrcpFolderItems AvrcpRequests AvrcpDevice

/-- `CType::CONTROL`. -/
def cTypeControl : ℕ := 0x0

/-- `CommandPdu::SET_ABSOLUTE_VOLUME`. -/
def commandPduSetAbsoluteVolume : ℕ := 0x50

/-! ### Packets around a payload -/

/-- `avrcp::PacketBuilder` as `MakeBuilder` makes it. -/
structure PacketBuilder where
  /-- `c_type_`. -/
  cType : UInt8
  /-- `subunit_type_`. -/
  subunitType : UInt8
  /-- `subunit_id_`. -/
  subunitId : UInt8
  /-- `opcode_`. -/
  opcode : UInt8
  /-- The bytes `payload_->Serialize` appends; `payload_->size()` is their number. -/
  payload : List UInt8

namespace PacketBuilder

/-- `PacketBuilder::size`. -/
def size (builder : PacketBuilder) : ℕ := builder.payload.length+packetKMinSize

/-- `PacketBuilder::Serialize`. -/
def serialize (builder : PacketBuilder) : List UInt8 :=
  pushPacketHeader builder.cType.toNat builder.subunitType.toNat builder.subunitId.toNat builder.opcode.toNat++
    builder.payload

theorem length_serialize (builder : PacketBuilder) : builder.serialize.length=builder.size := by
  simp [serialize,size,packetKMinSize]
  omega

end PacketBuilder

/-- `VendorPacketBuilder` as `MakeBuilder` makes it: its CHECK keeps the payload within a
`uint16_t`. -/
structure VendorPacketBuilder where
  /-- `c_type_`. -/
  cType : UInt8
  /-- `pdu_`. -/
  pdu : UInt8
  /-- `packet_type_`. -/
  packetType : UInt8
  /-- The bytes `payload_->Serialize` appends. -/
  payload : List UInt8
  payload_le : payload.length ≤ 0xFFFF

namespace VendorPacketBuilder

/-- `VendorPacketBuilder::MakeBuilder`: `CHECK_LE(payload->size(), 0xFFFF)`. -/
def makeBuilder (cType pdu packetType : UInt8) (payload : List UInt8) : Except Fault VendorPacketBuilder :=
  if h : payload.length ≤ 0xFFFF then .ok ⟨cType,pdu,packetType,payload,h⟩ else .error .checkFailed

/-- `VendorPacketBuilder::size`. -/
def size (builder : VendorPacketBuilder) : ℕ := vendorKMinSize+builder.payload.length

/-- `VendorPacketBuilder::Serialize`: `CHECK_LT(payload_->size(), 0xFFFF)` before the vendor
header, one below the bound `MakeBuilder` checked. -/
def serialize (builder : VendorPacketBuilder) : Except Fault (List UInt8) :=
  if builder.payload.length<0xFFFF then
    .ok (pushPacketHeader builder.cType.toNat vendorSubunitType 0x00 opcodeVendor++
      pushVendorHeader builder.pdu.toNat builder.packetType.toNat builder.payload.length++builder.payload)
  else .error .checkFailed

/-- A payload below `0xFFFF` bytes gives `size()` bytes whose parameter length counts it; at
`0xFFFF`, the one size `MakeBuilder` admits and `Serialize` does not, the CHECK fails. -/
theorem serialize_spec (builder : VendorPacketBuilder) :
    (builder.payload.length<0xFFFF ∧ ∃ bytes,builder.serialize=.ok bytes ∧ bytes.length=builder.size ∧
      getParameterLength bytes=.ok (builder.size-vendorKMinSize) ∧ vendorIsValid bytes=.ok true) ∨
    (builder.payload.length=0xFFFF ∧ builder.serialize=.error .checkFailed) := by
  by_cases hlt : builder.payload.length<0xFFFF
  · refine .inl ⟨hlt,_,if_pos hlt,?_,?_,?_⟩
    · simp [size,vendorKMinSize,packetKMinSize]
      omega
    · rw [getParameterLength_vendor,size,Nat.add_sub_cancel_left,Nat.mod_eq_of_lt (by omega)]
    · rw [vendorIsValid_vendor,Nat.mod_eq_of_lt (by omega),decide_eq_true rfl]
  · exact .inr ⟨by have := builder.payload_le; omega,if_neg hlt⟩

end VendorPacketBuilder

/-- `BrowsePacketBuilder` as `MakeBuilder` makes it. -/
structure BrowsePacketBuilder where
  /-- `pdu_`. -/
  pdu : UInt8
  /-- The bytes `payload_->Serialize` appends. -/
  payload : List UInt8

namespace BrowsePacketBuilder

/-- `BrowsePacketBuilder::size`. -/
def size (builder : BrowsePacketBuilder) : ℕ := browseKMinSize+builder.payload.length

/-- `BrowsePacketBuilder::Serialize`: the header's `uint16_t` length is the payload's size. -/
def serialize (builder : BrowsePacketBuilder) : List UInt8 :=
  pushBrowseHeader builder.pdu.toNat builder.payload.length++builder.payload

theorem length_serialize (builder : BrowsePacketBuilder) : builder.serialize.length=builder.size := by
  simp [serialize,size]

theorem getLength_serialize (builder : BrowsePacketBuilder) :
    getLength builder.serialize=.ok ((builder.size-browseKMinSize)%65536) := by
  rw [serialize,getLength_browse,size,Nat.add_sub_cancel_left]

end BrowsePacketBuilder

/-! ### The pass-through command -/

/-- `PassThroughPacketBuilder`. -/
structure PassThroughPacketBuilder where
  /-- Whether it answers a command: `ACCEPTED` rather than `CONTROL`. -/
  response : Bool
  /-- `pushed_`. -/
  pushed : Bool
  /-- `opperation_id_`. -/
  opperationId : UInt8

namespace PassThroughPacketBuilder

/-- `PassThroughPacketBuilder::size`. -/
def size (_builder : PassThroughPacketBuilder) : ℕ := passThroughPacketKMinSize

/-- The operation byte: the id in the low seven bits, the top bit set for a released key. -/
def operationByte (builder : PassThroughPacketBuilder) : UInt8 :=
  if builder.pushed then builder.opperationId &&& 0b01111111 else (builder.opperationId &&& 0b01111111) ||| 0b10000000

/-- `PassThroughPacketBuilder::Serialize`: the operation byte, then a data length of zero. -/
def serialize (builder : PassThroughPacketBuilder) : List UInt8 :=
  pushPacketHeader (if builder.response then cTypeAccepted else cTypeControl) 0x09 0x00 opcodePassThrough++
    addPayloadOctets 1 builder.operationByte.toNat++addPayloadOctets 1 0x00

variable (builder : PassThroughPacketBuilder)

theorem length_serialize : builder.serialize.length=builder.size := by
  simp [serialize,size,passThroughPacketKMinSize,packetKMinSize]

theorem byteAt_serialize_operation : byteAt builder.serialize packetKMinSize=.ok builder.operationByte := by
  have h := byteAt_field (pushPacketHeader (if builder.response then cTypeAccepted else cTypeControl) 0x09 0x00
    opcodePassThrough) (addPayloadOctets 1 0x00) builder.operationByte.toNat
  rw [length_pushPacketHeader] at h
  rw [serialize,List.append_assoc,h,UInt8.toNat_mod_size,UInt8.ofNat_toNat]

/-- The top bit of the operation byte is the key state, the rest the operation id. -/
theorem operationByte_fields :
    (builder.operationByte &&& 0x80) >>> 7=(if builder.pushed then 0 else 1) ∧
      builder.operationByte &&& 0x7F=builder.opperationId &&& 0x7F := by
  unfold operationByte
  cases builder.pushed <;> simp [← UInt8.toBitVec_inj,BitVec.and_or_distrib_right,BitVec.and_assoc]

/-- The parser reads back the key state and the operation id. -/
theorem passThroughPacket_serialize :
    PassThroughPacket.isValid builder.serialize=true ∧
      PassThroughPacket.getKeyState builder.serialize=.ok (if builder.pushed then 0 else 1) ∧
      PassThroughPacket.getOperationId builder.serialize=.ok (builder.opperationId &&& 0x7F) := by
  refine ⟨by simp [PassThroughPacket.isValid,length_serialize,size],?_,?_⟩
  · rw [PassThroughPacket.getKeyState,byteAt_serialize_operation,ok_bind,(operationByte_fields builder).1]
    rfl
  · rw [PassThroughPacket.getOperationId,byteAt_serialize_operation,ok_bind,(operationByte_fields builder).2]
    rfl

end PassThroughPacketBuilder

/-! ### Packets of fixed fields -/

/-- A vendor-dependent response or command with its fields pushed after the headers, as the
builders without a payload object write it; `parameterLength` is what each one passes to
`VendorPacketBuilder::PushHeader`. -/
def vendorFields (cType pdu parameterLength : ℕ) (fields : List UInt8) : List UInt8 :=
  pushPacketHeader cType vendorSubunitType 0x00 opcodeVendor++pushVendorHeader pdu packetTypeSingle parameterLength++
    fields

section VendorFields

variable (cType pdu parameterLength : ℕ) (fields : List UInt8)

@[simp] theorem length_vendorFields : (vendorFields cType pdu parameterLength fields).length=vendorKMinSize+fields.length := by
  rw [vendorFields,List.length_append,length_vendorHeaders]

theorem getParameterLength_vendorFields :
    getParameterLength (vendorFields cType pdu parameterLength fields)=.ok (parameterLength%65536) :=
  getParameterLength_vendor _ _ _ _ _ _ _ _

/-- A packet whose parameter length is its field count is `kMinSize()` plus the fields, and says so. -/
theorem vendorFields_counts (h : parameterLength=fields.length) (hfit : fields.length<65536) :
    (vendorFields cType pdu parameterLength fields).length=vendorKMinSize+fields.length ∧
      getParameterLength (vendorFields cType pdu parameterLength fields)=.ok fields.length := by
  rw [length_vendorFields,getParameterLength_vendorFields,h,Nat.mod_eq_of_lt hfit]
  exact ⟨rfl,rfl⟩

end VendorFields

/-- `RejectBuilder`. -/
structure RejectBuilder where
  /-- `pdu_`. -/
  pdu : UInt8
  /-- `reason_`. -/
  reason : UInt8

/-- `RejectBuilder::size`. -/
def RejectBuilder.size (_builder : RejectBuilder) : ℕ := vendorKMinSize+1

/-- `RejectBuilder::Serialize`: unlike the others, it passes the parameter length as the constant 1. -/
def RejectBuilder.serialize (builder : RejectBuilder) : List UInt8 :=
  vendorFields cTypeRejected builder.pdu.toNat 1 (addPayloadOctets 1 builder.reason.toNat)

/-- `GetPlayStatusResponseBuilder`. -/
structure GetPlayStatusResponseBuilder where
  /-- `song_length_`. -/
  songLength : UInt32
  /-- `song_position_`. -/
  songPosition : UInt32
  /-- `play_status_`. -/
  playStatus : UInt8

/-- `GetPlayStatusResponseBuilder::size`. -/
def GetPlayStatusResponseBuilder.size (_builder : GetPlayStatusResponseBuilder) : ℕ := vendorKMinSize+4+4+1

/-- `GetPlayStatusResponseBuilder::Serialize`: the parameter length goes through a `uint16_t`
local first. -/
def GetPlayStatusResponseBuilder.serialize (builder : GetPlayStatusResponseBuilder) : List UInt8 :=
  vendorFields cTypeStable commandPduGetPlayStatus ((builder.size-vendorKMinSize)%65536)
    (addPayloadOctets 4 (byteSwap 4 builder.songLength.toNat)++addPayloadOctets 4 (byteSwap 4 builder.songPosition.toNat)++
      addPayloadOctets 1 builder.playStatus.toNat)

/-- `PlayItemResponseBuilder`. -/
structure PlayItemResponseBuilder where
  /-- `status_`. -/
  status : UInt8

/-- `PlayItemResponseBuilder::size`. -/
def PlayItemResponseBuilder.size (_builder : PlayItemResponseBuilder) : ℕ := vendorKMinSize+1

/-- `PlayItemResponseBuilder::Serialize`. -/
def PlayItemResponseBuilder.serialize (builder : PlayItemResponseBuilder) : List UInt8 :=
  vendorFields cTypeAccepted commandPduPlayItem (builder.size-vendorKMinSize) (addPayloadOctets 1 builder.status.toNat)

/-- `SetAddressedPlayerResponseBuilder`. -/
structure SetAddressedPlayerResponseBuilder where
  /-- `status_`. -/
  status : UInt8

/-- `SetAddressedPlayerResponseBuilder::size`. -/
def SetAddressedPlayerResponseBuilder.size (_builder : SetAddressedPlayerResponseBuilder) : ℕ := vendorKMinSize+1

/-- `SetAddressedPlayerResponseBuilder::Serialize`. -/
def SetAddressedPlayerResponseBuilder.serialize (builder : SetAddressedPlayerResponseBuilder) : List UInt8 :=
  vendorFields cTypeAccepted commandPduSetAddressedPlayer (builder.size-vendorKMinSize)
    (addPayloadOctets 1 builder.status.toNat)

/-- `SetAbsoluteVolumeRequestBuilder`. -/
structure SetAbsoluteVolumeRequestBuilder where
  /-- `volume_`. -/
  volume : UInt8

/-- `SetAbsoluteVolumeRequestBuilder::MakeBuilder`: the volume keeps its low seven bits. -/
def SetAbsoluteVolumeRequestBuilder.makeBuilder (volume : UInt8) : SetAbsoluteVolumeRequestBuilder := ⟨volume &&& 0x7F⟩

/-- `SetAbsoluteVolumeRequestBuilder::size`. -/
def SetAbsoluteVolumeRequestBuilder.size (_builder : SetAbsoluteVolumeRequestBuilder) : ℕ := vendorKMinSize+1

/-- `SetAbsoluteVolumeRequestBuilder::Serialize`. -/
def SetAbsoluteVolumeRequestBuilder.serialize (builder : SetAbsoluteVolumeRequestBuilder) : List UInt8 :=
  vendorFields cTypeControl commandPduSetAbsoluteVolume (builder.size-vendorKMinSize)
    (addPayloadOctets 1 builder.volume.toNat)

/-- `GeneralRejectBuilder`. -/
structure GeneralRejectBuilder where
  /-- `pdu_`. -/
  pdu : UInt8
  /-- `reason_`. -/
  reason : UInt8

/-- `GeneralRejectBuilder::size`. -/
def GeneralRejectBuilder.size (_builder : GeneralRejectBuilder) : ℕ := browseKMinSize+1

/-- `GeneralRejectBuilder::Serialize`. -/
def GeneralRejectBuilder.serialize (builder : GeneralRejectBuilder) : List UInt8 :=
  pushBrowseHeader builder.pdu.toNat (builder.size-browseKMinSize)++addPayloadOctets 1 builder.reason.toNat

/-- `GetTotalNumberOfItemsResponseBuilder`. -/
structure GetTotalNumberOfItemsResponseBuilder where
  /-- `status_`. -/
  status : UInt8
  /-- `uid_counter_`. -/
  uidCounter : UInt16
  /-- `num_items_in_folder_`. -/
  numItemsInFolder : UInt32

/-- `GetTotalNumberOfItemsResponseBuilder::size`: a response that is not `NO_ERROR` is the status
alone. -/
def GetTotalNumberOfItemsResponseBuilder.size (builder : GetTotalNumberOfItemsResponseBuilder) : ℕ :=
  if builder.status≠statusNoError then browseKMinSize+1 else browseKMinSize+1+2+4

/-- `GetTotalNumberOfItemsResponseBuilder::Serialize`. -/
def GetTotalNumberOfItemsResponseBuilder.serialize (builder : GetTotalNumberOfItemsResponseBuilder) : List UInt8 :=
  pushBrowseHeader browsePduGetTotalNumberOfItems (builder.size-browseKMinSize)++
    (addPayloadOctets 1 builder.status.toNat++
      if builder.status≠statusNoError then []
      else addPayloadOctets 2 (byteSwap 2 builder.uidCounter.toNat)++
        addPayloadOctets 4 (byteSwap 4 builder.numItemsInFolder.toNat))

/-- `ChangePathResponseBuilder`. -/
structure ChangePathResponseBuilder where
  /-- `status_`. -/
  status : UInt8
  /-- `num_items_in_folder_`. -/
  numItemsInFolder : UInt32

/-- `ChangePathResponseBuilder::size`: a response that is not `NO_ERROR` is the status alone. -/
def ChangePathResponseBuilder.size (builder : ChangePathResponseBuilder) : ℕ :=
  if builder.status≠statusNoError then browseKMinSize+1 else browseKMinSize+1+4

/-- `ChangePathResponseBuilder::Serialize`. -/
def ChangePathResponseBuilder.serialize (builder : ChangePathResponseBuilder) : List UInt8 :=
  pushBrowseHeader browsePduChangePath (builder.size-browseKMinSize)++
    (addPayloadOctets 1 builder.status.toNat++
      if builder.status≠statusNoError then [] else addPayloadOctets 4 (byteSwap 4 builder.numItemsInFolder.toNat))

/-- The reject's constant parameter length is the one its size gives. -/
theorem RejectBuilder.serialize_counts (builder : RejectBuilder) :
    builder.serialize.length=builder.size ∧ getParameterLength builder.serialize=.ok (builder.size-vendorKMinSize) := by
  have h := vendorFields_counts cTypeRejected builder.pdu.toNat 1 (addPayloadOctets 1 builder.reason.toNat)
    (by simp) (by simp)
  simpa [RejectBuilder.serialize,RejectBuilder.size] using h

theorem GetPlayStatusResponseBuilder.serialize_counts (builder : GetPlayStatusResponseBuilder) :
    builder.serialize.length=builder.size ∧ getParameterLength builder.serialize=.ok (builder.size-vendorKMinSize) := by
  have h := vendorFields_counts cTypeStable commandPduGetPlayStatus ((builder.size-vendorKMinSize)%65536)
    (addPayloadOctets 4 (byteSwap 4 builder.songLength.toNat)++addPayloadOctets 4 (byteSwap 4 builder.songPosition.toNat)++
      addPayloadOctets 1 builder.playStatus.toNat) (by simp [GetPlayStatusResponseBuilder.size,vendorKMinSize,packetKMinSize]) (by simp)
  simpa [GetPlayStatusResponseBuilder.serialize,GetPlayStatusResponseBuilder.size,vendorKMinSize,packetKMinSize] using h

theorem PlayItemResponseBuilder.serialize_counts (builder : PlayItemResponseBuilder) :
    builder.serialize.length=builder.size ∧ getParameterLength builder.serialize=.ok (builder.size-vendorKMinSize) := by
  have h := vendorFields_counts cTypeAccepted commandPduPlayItem (builder.size-vendorKMinSize)
    (addPayloadOctets 1 builder.status.toNat) (by simp [PlayItemResponseBuilder.size]) (by simp)
  simpa [PlayItemResponseBuilder.serialize,PlayItemResponseBuilder.size] using h

theorem SetAddressedPlayerResponseBuilder.serialize_counts (builder : SetAddressedPlayerResponseBuilder) :
    builder.serialize.length=builder.size ∧ getParameterLength builder.serialize=.ok (builder.size-vendorKMinSize) := by
  have h := vendorFields_counts cTypeAccepted commandPduSetAddressedPlayer (builder.size-vendorKMinSize)
    (addPayloadOctets 1 builder.status.toNat) (by simp [SetAddressedPlayerResponseBuilder.size]) (by simp)
  simpa [SetAddressedPlayerResponseBuilder.serialize,SetAddressedPlayerResponseBuilder.size] using h

theorem SetAbsoluteVolumeRequestBuilder.serialize_counts (builder : SetAbsoluteVolumeRequestBuilder) :
    builder.serialize.length=builder.size ∧ getParameterLength builder.serialize=.ok (builder.size-vendorKMinSize) := by
  have h := vendorFields_counts cTypeControl commandPduSetAbsoluteVolume (builder.size-vendorKMinSize)
    (addPayloadOctets 1 builder.volume.toNat) (by simp [SetAbsoluteVolumeRequestBuilder.size]) (by simp)
  simpa [SetAbsoluteVolumeRequestBuilder.serialize,SetAbsoluteVolumeRequestBuilder.size] using h

theorem GeneralRejectBuilder.serialize_counts (builder : GeneralRejectBuilder) :
    builder.serialize.length=builder.size ∧ getLength builder.serialize=.ok (builder.size-browseKMinSize) := by
  refine ⟨by simp [GeneralRejectBuilder.serialize,GeneralRejectBuilder.size],?_⟩
  rw [GeneralRejectBuilder.serialize,getLength_browse]
  rfl

theorem GetTotalNumberOfItemsResponseBuilder.serialize_counts (builder : GetTotalNumberOfItemsResponseBuilder) :
    builder.serialize.length=builder.size ∧ getLength builder.serialize=.ok (builder.size-browseKMinSize) := by
  have hsmall : builder.size-browseKMinSize<65536 := by
    unfold GetTotalNumberOfItemsResponseBuilder.size
    split_ifs <;> simp [browseKMinSize]
  refine ⟨?_,by rw [GetTotalNumberOfItemsResponseBuilder.serialize,getLength_browse,Nat.mod_eq_of_lt hsmall]⟩
  unfold GetTotalNumberOfItemsResponseBuilder.serialize GetTotalNumberOfItemsResponseBuilder.size
  split_ifs <;> simp [browseKMinSize]

theorem ChangePathResponseBuilder.serialize_counts (builder : ChangePathResponseBuilder) :
    builder.serialize.length=builder.size ∧ getLength builder.serialize=.ok (builder.size-browseKMinSize) := by
  have hsmall : builder.size-browseKMinSize<65536 := by
    unfold ChangePathResponseBuilder.size
    split_ifs <;> simp [browseKMinSize]
  refine ⟨?_,by rw [ChangePathResponseBuilder.serialize,getLength_browse,Nat.mod_eq_of_lt hsmall]⟩
  unfold ChangePathResponseBuilder.serialize ChangePathResponseBuilder.size
  split_ifs <;> simp [browseKMinSize]

/-! ### Every builder against its size and its parser -/

/-- The AVRCP builders against their parsers and their own `size()`. Each request builder with a
parser serializes to `size()` bytes that the parser accepts and reads back field by field (for
`GetFolderItemsRequestBuilder`, with at most 254 requested attributes), and so does the pass-through
command. Every builder serializes to `size()` bytes, `GetElementAttributesResponseBuilder` exactly
when its values fit their `uint16_t` lengths and `VendorPacketBuilder` when its payload is below
`0xFFFF` bytes, and the length field in its header is the count of the bytes after the header
modulo `2^16`. -/
theorem avrcp_builders_agree_with_parsers :
    (∀ builder : GetFolderItemsRequestBuilder,builder.requestedAttrs.length ≤ 254 →
      builder.serialize.length=builder.size ∧ GetFolderItemsRequest.isValid builder.serialize=.ok true ∧
      GetFolderItemsRequest.getScope builder.serialize=.ok builder.scope ∧
      GetFolderItemsRequest.getStartItem builder.serialize=.ok builder.startItem ∧
      GetFolderItemsRequest.getEndItem builder.serialize=.ok builder.endItem ∧
      GetFolderItemsRequest.getAttributesRequested builder.serialize=.ok builder.requestedAttrs) ∧
    (∀ builder : ChangePathRequestBuilder,
      builder.serialize.length=builder.size ∧ ChangePathRequest.isValid builder.serialize=.ok true ∧
      ChangePathRequest.getUidCounter builder.serialize=.ok builder.uidCounter ∧
      ChangePathRequest.getDirection builder.serialize=.ok builder.direction ∧
      ChangePathRequest.getUid builder.serialize=.ok builder.folderUid) ∧
    (∀ builder : RegisterNotificationRequestBuilder,
      builder.serialize.length=builder.size ∧ RegisterNotificationRequest.isValid builder.serialize=true ∧
      vendorIsValid builder.serialize=.ok true ∧ getCompanyId builder.serialize=.ok bluetoothCompanyId ∧
      RegisterNotificationRequest.getEventRegistered builder.serialize=.ok builder.event ∧
      RegisterNotificationRequest.getInterval builder.serialize=.ok builder.interval) ∧
    (∀ builder : GetCapabilitiesRequestBuilder,
      builder.serialize.length=builder.size ∧ GetCapabilitiesRequest.isValid builder.serialize=.ok true ∧
      getCompanyId builder.serialize=.ok bluetoothCompanyId ∧
      GetCapabilitiesRequest.getCapabilityRequested builder.serialize=.ok builder.capability) ∧
    (∀ builder : PassThroughPacketBuilder,
      builder.serialize.length=builder.size ∧ PassThroughPacket.isValid builder.serialize=true ∧
      PassThroughPacket.getKeyState builder.serialize=.ok (if builder.pushed then 0 else 1) ∧
      PassThroughPacket.getOperationId builder.serialize=.ok (builder.opperationId &&& 0x7F)) ∧
    (∀ builder : GetElementAttributesResponseBuilder,
      (builder.serialize.length=builder.size ↔ ∀ entry ∈ builder.entries,entry.value.length<65536) ∧
      getParameterLength builder.serialize=.ok ((builder.size-vendorKMinSize)%65536)) ∧
    (∀ builder : GetItemAttributesResponseBuilder,
      builder.serialize.length=builder.size ∧ getLength builder.serialize=.ok ((builder.size-browseKMinSize)%65536)) ∧
    (∀ builder : GetFolderItemsResponseBuilder,
      builder.serialize.length=builder.size ∧ getLength builder.serialize=.ok ((builder.size-browseKMinSize)%65536)) ∧
    (∀ builder : SetBrowsedPlayerResponseBuilder,
      builder.serialize.length=builder.size ∧ getLength builder.serialize=.ok ((builder.size-browseKMinSize)%65536)) ∧
    (∀ builder : GetCapabilitiesResponseBuilder,
      builder.serialize.length=builder.size ∧
      getParameterLength builder.serialize=.ok ((builder.size-vendorKMinSize)%65536)) ∧
    (∀ builder : RegisterNotificationResponseBuilder,builder.IsMade →
      ∃ n bytes,builder.size=.ok n ∧ builder.serialize=.ok bytes ∧ bytes.length=n ∧
        getParameterLength bytes=.ok (n-vendorKMinSize)) ∧
    (∀ builder : PacketBuilder,builder.serialize.length=builder.size) ∧
    (∀ builder : VendorPacketBuilder,builder.payload.length<0xFFFF →
      ∃ bytes,builder.serialize=.ok bytes ∧ bytes.length=builder.size ∧
        getParameterLength bytes=.ok (builder.size-vendorKMinSize)) ∧
    (∀ builder : BrowsePacketBuilder,
      builder.serialize.length=builder.size ∧ getLength builder.serialize=.ok ((builder.size-browseKMinSize)%65536)) ∧
    (∀ builder : RejectBuilder,
      builder.serialize.length=builder.size ∧ getParameterLength builder.serialize=.ok (builder.size-vendorKMinSize)) ∧
    (∀ builder : GetPlayStatusResponseBuilder,
      builder.serialize.length=builder.size ∧ getParameterLength builder.serialize=.ok (builder.size-vendorKMinSize)) ∧
    (∀ builder : PlayItemResponseBuilder,
      builder.serialize.length=builder.size ∧ getParameterLength builder.serialize=.ok (builder.size-vendorKMinSize)) ∧
    (∀ builder : SetAddressedPlayerResponseBuilder,
      builder.serialize.length=builder.size ∧ getParameterLength builder.serialize=.ok (builder.size-vendorKMinSize)) ∧
    (∀ builder : SetAbsoluteVolumeRequestBuilder,
      builder.serialize.length=builder.size ∧ getParameterLength builder.serialize=.ok (builder.size-vendorKMinSize)) ∧
    (∀ builder : GeneralRejectBuilder,
      builder.serialize.length=builder.size ∧ getLength builder.serialize=.ok (builder.size-browseKMinSize)) ∧
    (∀ builder : GetTotalNumberOfItemsResponseBuilder,
      builder.serialize.length=builder.size ∧ getLength builder.serialize=.ok (builder.size-browseKMinSize)) ∧
    (∀ builder : ChangePathResponseBuilder,
      builder.serialize.length=builder.size ∧ getLength builder.serialize=.ok (builder.size-browseKMinSize)) := by
  refine ⟨fun b hn => ?folderItems,fun b => ?changePath,fun b => ?notification,fun b => ?capabilities,
    fun b => ⟨b.length_serialize,b.passThroughPacket_serialize⟩,
    fun b => ⟨b.length_serialize_iff,b.getParameterLength_serialize⟩,
    fun b => ⟨b.length_serialize,b.getLength_serialize⟩,fun b => ⟨b.length_serialize,b.getLength_serialize⟩,
    fun b => ⟨b.length_serialize,b.getLength_serialize⟩,fun b => ⟨b.length_serialize,b.getParameterLength_serialize⟩,
    fun b hmade => ?madeResponse,PacketBuilder.length_serialize,fun b hlt => ?vendorPayload,
    fun b => ⟨b.length_serialize,b.getLength_serialize⟩,RejectBuilder.serialize_counts,
    GetPlayStatusResponseBuilder.serialize_counts,PlayItemResponseBuilder.serialize_counts,
    SetAddressedPlayerResponseBuilder.serialize_counts,SetAbsoluteVolumeRequestBuilder.serialize_counts,
    GeneralRejectBuilder.serialize_counts,GetTotalNumberOfItemsResponseBuilder.serialize_counts,
    ChangePathResponseBuilder.serialize_counts⟩
  case folderItems =>
    exact ⟨b.length_serialize,b.isValid_serialize (by omega),b.getScope_serialize,b.getStartItem_serialize,
      b.getEndItem_serialize,b.getAttributesRequested_serialize hn⟩
  case changePath =>
    exact ⟨b.length_serialize,b.isValid_serialize,b.getUidCounter_serialize,b.getDirection_serialize,
      b.getUid_serialize⟩
  case notification =>
    exact ⟨b.length_serialize,b.isValid_serialize,b.vendor_serialize.2,b.vendor_serialize.1,
      b.getEventRegistered_serialize,b.getInterval_serialize⟩
  case capabilities =>
    exact ⟨b.length_serialize,b.isValid_serialize,b.vendor_serialize.1,b.getCapabilityRequested_serialize⟩
  case madeResponse =>
    -- every builder a `Make*Builder` returns has a size, and then serializes to it
    obtain ⟨n,hn⟩ := RegisterNotificationResponseBuilder.size_ok_of_isMade hmade
    obtain ⟨bytes,hbytes,hlen,hfield⟩ := RegisterNotificationResponseBuilder.serialize_of_size hn
    exact ⟨n,bytes,hn,hbytes,hlen,hfield⟩
  case vendorPayload =>
    rcases b.serialize_spec with ⟨-,bytes,hbytes,hlen,hfield,-⟩ | ⟨heq,-⟩
    · exact ⟨bytes,hbytes,hlen,hfield⟩
    · omega

/-- A request for two attributes. -/
def twoAttributeRequest : GetFolderItemsRequestBuilder :=
  ⟨scopeVfs,0,9,[1,2],by decide⟩

theorem avrcp_builders_agree_with_parsers_two_attributes :
    twoAttributeRequest.requestedAttrs.length ≤ 254 ∧
      GetFolderItemsRequest.getAttributesRequested twoAttributeRequest.serialize=.ok [1,2] :=
  ⟨by decide,((avrcp_builders_agree_with_parsers).1 twoAttributeRequest (by decide)).2.2.2.2.2⟩

/-- A request for 255 attributes, the most the count byte can hold. -/
def maxAttributeRequest : GetFolderItemsRequestBuilder :=
  ⟨scopeVfs,0,9,(List.range 255).map UInt32.ofNat,by
    refine List.pairwise_map.mpr ((List.pairwise_lt_range).imp_of_mem fun ha hb hab => ?_)
    rw [List.mem_range] at ha hb
    rw [UInt32.lt_iff_toNat_lt,UInt32.toNat_ofNat',UInt32.toNat_ofNat']
    omega⟩

/-- A `SetBrowsedPlayer` response in a folder whose name has 65524 bytes: 65536 bytes after the
browsing header. -/
def longFolderResponse : SetBrowsedPlayerResponseBuilder :=
  ⟨statusNoError,0,0,1,List.replicate 65524 0⟩

/-- A `GetElementAttributes` response holding one value of 65536 bytes. -/
def longValueResponse : GetElementAttributesResponseBuilder :=
  ⟨2^17,[⟨1,List.replicate 65536 0⟩],List.pairwise_singleton _ _⟩

/-- Each builder at the limit of one of its fields. Two hundred and fifty-five requested attributes
make a valid request whose parser reads back none, the count byte being the `0xFF` sentinel. A
browsing response of 65536 bytes after its header says it has none. A value of 65536 bytes goes out
short of `size()`. A vendor payload of `0xFFFF` bytes passes `MakeBuilder` and fails the CHECK of
`Serialize`. -/
theorem avrcp_builders_disagree_at_field_limits :
    (maxAttributeRequest.requestedAttrs.length=255 ∧
      GetFolderItemsRequest.isValid maxAttributeRequest.serialize=.ok true ∧
      GetFolderItemsRequest.getAttributesRequested maxAttributeRequest.serialize=.ok []) ∧
    (longFolderResponse.serialize.length-browseKMinSize=65536 ∧ getLength longFolderResponse.serialize=.ok 0) ∧
    longValueResponse.serialize.length≠longValueResponse.size ∧
    (∃ builder,VendorPacketBuilder.makeBuilder 0 0 0 (List.replicate 0xFFFF 0)=.ok builder ∧
      builder.serialize=.error .checkFailed) := by
  have hn : maxAttributeRequest.requestedAttrs.length=255 := by simp [maxAttributeRequest]
  have hsize : longFolderResponse.size=65539 := by
    rw [longFolderResponse.size_of_folder rfl (by decide)]
    simp only [longFolderResponse,List.length_replicate]
    rfl
  refine ⟨⟨hn,maxAttributeRequest.isValid_serialize (by omega),
    maxAttributeRequest.getAttributesRequested_serialize_of_255 hn⟩,⟨?_,?_⟩,?_,?_⟩
  · rw [longFolderResponse.length_serialize,hsize]
    rfl
  · rw [longFolderResponse.getLength_serialize,hsize]
    rfl
  · rw [Ne,longValueResponse.length_serialize_iff]
    simp [longValueResponse,-List.reduceReplicate]
  · refine ⟨_,dif_pos (List.length_replicate ..).le,?_⟩
    exact (VendorPacketBuilder.serialize_spec _).resolve_left (by simp [-List.reduceReplicate]) |>.2

end BluetoothStack.AvrcpBuilders
