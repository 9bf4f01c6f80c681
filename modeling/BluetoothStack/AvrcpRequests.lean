import BluetoothStack.AvrcpFolderItems

/-!
# AVRCP builders against their parsers (packet/avrcp/get_folder_items.cc,
change_path.cc, register_notification_packet.cc, capabilities_packet.cc,
get_element_attributes_packet.cc, get_item_attributes.cc, set_browsed_player.cc)

The request builders of the stack have parsers for the same packets. Built bytes
parse back to the builder's arguments, with one exception: the attribute count
of a Get Folder Items request is a single byte in which `0xFF` means "no
attributes", so a request for 255 attributes reads back as a request for none
(and one for 256 or more writes the count modulo 256). Every response builder writes exactly
`size()` bytes, and its length field counts the bytes after its header as long
as they fit the `uint16_t` field.
-/

namespace BluetoothStack.AvrcpRequests

open ByteBuffer StepRun AvrcpPacket AvrcpFolderItems

/-! ### Fields -/

/-- A byte pushed with `AddPayloadOctets1` reads back as itself. -/
theorem ofNat_mod_toNat_uint8 (x : UInt8) : UInt8.ofNat (x.toNat%256)=x := by
  rw [Nat.mod_eq_of_lt x.toNat_lt,UInt8.ofNat_toNat]

theorem decodeBE_encodeBE_uint16 (x : UInt16) : decodeBE (encodeBE 2 x.toNat)=x.toNat :=
  decodeBE_encodeBE_of_lt x.toNat_lt

theorem decodeBE_encodeBE_uint32 (x : UInt32) : decodeBE (encodeBE 4 x.toNat)=x.toNat :=
  decodeBE_encodeBE_of_lt x.toNat_lt

theorem decodeBE_encodeBE_uint64 (x : UInt64) : decodeBE (encodeBE 8 x.toNat)=x.toNat :=
  decodeBE_encodeBE_of_lt x.toNat_lt

/-- `sizeof(Attribute)`. -/
def attributeSize : ℕ := 4

/-- An attribute id as the request builders push it. -/
def pushAttribute (attr : UInt32) : List UInt8 := addPayloadOctets 4 (byteSwap 4 attr.toNat)

@[simp] theorem length_pushAttribute (attr : UInt32) : (pushAttribute attr).length=attributeSize := by
  simp [pushAttribute,attributeSize]

theorem length_flatMap_pushAttribute (attrs : List UInt32) :
    (attrs.flatMap pushAttribute).length=attrs.length*attributeSize := by
  rw [List.length_flatMap]
  simp

/-- The loop of `GetAttributesRequested`: `count` attribute ids read from the
iterator, each byte swapped. -/
def readAttributesLoop (bytes : List UInt8) : ℕ → ℕ → Except Fault (List UInt32)
  | 0,_ => .ok []
  | count+1,index => do
    let (value,index) ← extract bytes 4 index
    let rest ← readAttributesLoop bytes count index
    return UInt32.ofNat (byteSwap 4 value)::rest

/-- The attribute loop reads back the ids the builder pushed. -/
theorem readAttributesLoop_append (pre rest : List UInt8) (attrs : List UInt32) :
    readAttributesLoop (pre++attrs.flatMap pushAttribute++rest) attrs.length pre.length=.ok attrs := by
  induction attrs generalizing pre with
  | nil => rfl
  | cons attr attrs ih =>
    have hfield := extract_append pre (pushAttribute attr) (attrs.flatMap pushAttribute++rest)
    have hnext := ih (pre++pushAttribute attr)
    simp only [List.append_assoc,List.length_append,length_pushAttribute,attributeSize] at hfield hnext
    rw [List.flatMap_cons,List.length_cons,List.append_assoc,List.append_assoc,readAttributesLoop,
      hfield,ok_bind]
    dsimp only
    rw [hnext,ok_bind]
    have hval : UInt32.ofNat (byteSwap 4 (decodeLE (pushAttribute attr)))=attr := by
      have hl : (pushAttribute attr).length=4 := length_pushAttribute attr
      rw [byteSwap_decodeLE hl,pushAttribute,addPayloadOctets_byteSwap,
        decodeBE_encodeBE_uint32,UInt32.ofNat_toNat]
    rw [hval]
    rfl

/-! ### Get Folder Items request -/

/-- `GetFolderItemsRequest::kMinSize`: the browsing header, scope, start and end
item, and the attribute count. -/
def getFolderItemsRequestKMinSize : ℕ := browseKMinSize+10

/-- `GetFolderItemsRequestBuilder`; the requested attributes are a `std::set`,
listed in set order. -/
structure GetFolderItemsRequestBuilder where
  /-- `scope_`. -/
  scope : UInt8
  /-- `start_item_`. -/
  startItem : UInt32
  /-- `end_item_`. -/
  endItem : UInt32
  /-- `requested_attrs_`. -/
  requestedAttrs : List UInt32
  attrs_sorted : requestedAttrs.Pairwise (·<·)

namespace GetFolderItemsRequestBuilder

/-- `GetFolderItemsRequestBuilder::size`. -/
def size (builder : GetFolderItemsRequestBuilder) : ℕ :=
  getFolderItemsRequestKMinSize+builder.requestedAttrs.length*attributeSize

/-- The attribute count and the attributes: `0xFF` stands for an empty set. -/
def pushAttributes (attrs : List UInt32) : List UInt8 :=
  if attrs.length=0 then addPayloadOctets 1 0xFF
  else addPayloadOctets 1 attrs.length++attrs.flatMap pushAttribute

/-- `GetFolderItemsRequestBuilder::Serialize`. -/
def serialize (builder : GetFolderItemsRequestBuilder) : List UInt8 :=
  pushBrowseHeader browsePduGetFolderItems (builder.size-browseKMinSize)++
    (addPayloadOctets 1 builder.scope.toNat++addPayloadOctets 4 (byteSwap 4 builder.startItem.toNat)++
      addPayloadOctets 4 (byteSwap 4 builder.endItem.toNat)++pushAttributes builder.requestedAttrs)

end GetFolderItemsRequestBuilder

namespace GetFolderItemsRequest

/-- `GetFolderItemsRequest::GetScope`. -/
def getScope (bytes : List UInt8) : Except Fault UInt8 := byteAt bytes browseKMinSize

/-- `GetFolderItemsRequest::GetStartItem`. -/
def getStartItem (bytes : List UInt8) : Except Fault UInt32 := do
  let value ← readSwapped bytes (browseKMinSize+1) 4
  return UInt32.ofNat value

/-- `GetFolderItemsRequest::GetEndItem`. -/
def getEndItem (bytes : List UInt8) : Except Fault UInt32 := do
  let value ← readSwapped bytes (browseKMinSize+5) 4
  return UInt32.ofNat value

/-- `GetFolderItemsRequest::GetNumAttributes`. -/
def getNumAttributes (bytes : List UInt8) : Except Fault UInt8 := byteAt bytes (browseKMinSize+9)

/-- `GetFolderItemsRequest::GetAttributesRequested`: a count of `0xFF` means none. -/
def getAttributesRequested (bytes : List UInt8) : Except Fault (List UInt32) := do
  let (count,index) ← extract bytes 1 (iterAdd bytes 0 (browseKMinSize+9))
  if count=0xFF then return []
  else readAttributesLoop bytes count index

/-- `GetFolderItemsRequest::IsValid`. -/
def isValid (bytes : List UInt8) : Except Fault Bool := do
  let valid ← browseIsValid bytes
  if !valid then return false
  else if bytes.length<getFolderItemsRequestKMinSize then return false
  else
    let attrCount ← getNumAttributes bytes
    return attrCount=0xFF || attrCount.toNat*attributeSize=bytes.length-getFolderItemsRequestKMinSize

end GetFolderItemsRequest

namespace GetFolderItemsRequestBuilder

variable (builder : GetFolderItemsRequestBuilder)

theorem length_pushAttributes (attrs : List UInt32) :
    (pushAttributes attrs).length=1+attrs.length*attributeSize := by
  unfold pushAttributes
  split_ifs with h
  · simp [h]
  · simp

/-- `Serialize` writes exactly `size()` bytes. -/
theorem length_serialize : builder.serialize.length=builder.size := by
  simp [serialize,size,length_pushAttributes,getFolderItemsRequestKMinSize,browseKMinSize]
  omega

/-- The bytes after the browsing header, field by field. -/
theorem serialize_eq : builder.serialize=
    pushBrowseHeader browsePduGetFolderItems (builder.size-browseKMinSize)++
      (addPayloadOctets 1 builder.scope.toNat++(encodeBE 4 builder.startItem.toNat++
        (encodeBE 4 builder.endItem.toNat++pushAttributes builder.requestedAttrs))) := by
  simp [serialize]

/-- The scope reads back. -/
theorem getScope_serialize : GetFolderItemsRequest.getScope builder.serialize=.ok builder.scope := by
  have h := byteAt_field [] (addPayloadOctets 4 (byteSwap 4 builder.startItem.toNat)++
    addPayloadOctets 4 (byteSwap 4 builder.endItem.toNat)++pushAttributes builder.requestedAttrs) builder.scope.toNat
  simp only [List.nil_append,List.length_nil,ofNat_mod_toNat_uint8] at h
  rw [GetFolderItemsRequest.getScope,serialize,← Nat.add_zero browseKMinSize,byteAt_browse]
  simpa only [List.append_assoc] using h

/-- The start item reads back. -/
theorem getStartItem_serialize : GetFolderItemsRequest.getStartItem builder.serialize=.ok builder.startItem := by
  have h := readSwapped_field (addPayloadOctets 1 builder.scope.toNat)
    (addPayloadOctets 4 (byteSwap 4 builder.endItem.toNat)++pushAttributes builder.requestedAttrs) 4
    builder.startItem.toNat
  rw [length_addPayloadOctets,
    Nat.mod_eq_of_lt (show builder.startItem.toNat<256^4 from builder.startItem.toNat_lt)] at h
  rw [GetFolderItemsRequest.getStartItem,serialize,readSwapped_browse,List.append_assoc,List.append_assoc,h,
    ok_bind,UInt32.ofNat_toNat]
  rfl

/-- The end item reads back. -/
theorem getEndItem_serialize : GetFolderItemsRequest.getEndItem builder.serialize=.ok builder.endItem := by
  have h := readSwapped_field (addPayloadOctets 1 builder.scope.toNat++
    addPayloadOctets 4 (byteSwap 4 builder.startItem.toNat)) (pushAttributes builder.requestedAttrs) 4
    builder.endItem.toNat
  rw [List.length_append,length_addPayloadOctets,length_addPayloadOctets,show (1+4 : ℕ)=5 from rfl,
    Nat.mod_eq_of_lt (show builder.endItem.toNat<256^4 from builder.endItem.toNat_lt)] at h
  rw [GetFolderItemsRequest.getEndItem,serialize,readSwapped_browse,List.append_assoc,h,ok_bind,
    UInt32.ofNat_toNat]
  rfl

/-- The bytes before the attribute count. -/
def fixedFields (builder : GetFolderItemsRequestBuilder) : List UInt8 :=
  pushBrowseHeader browsePduGetFolderItems (builder.size-browseKMinSize)++
    (addPayloadOctets 1 builder.scope.toNat++addPayloadOctets 4 (byteSwap 4 builder.startItem.toNat)++
      addPayloadOctets 4 (byteSwap 4 builder.endItem.toNat))

theorem length_fixedFields : builder.fixedFields.length=browseKMinSize+9 := by
  simp [fixedFields]

theorem serialize_eq_fixedFields : builder.serialize=builder.fixedFields++pushAttributes builder.requestedAttrs := by
  simp [serialize,fixedFields]

/-- The attribute count reads back as the set's size, or `0xFF` for an empty set. -/
theorem getNumAttributes_serialize :
    GetFolderItemsRequest.getNumAttributes builder.serialize=
      .ok (if builder.requestedAttrs.length=0 then 0xFF else UInt8.ofNat (builder.requestedAttrs.length%256)) := by
  rw [GetFolderItemsRequest.getNumAttributes,serialize_eq_fixedFields,← length_fixedFields,pushAttributes]
  split_ifs
  · simpa using byteAt_field builder.fixedFields [] 0xFF
  · exact byteAt_field _ _ _

/-- The count byte as `GetAttributesRequested` extracts it, and the position after it. -/
theorem extract_count :
    extract builder.serialize 1 (iterAdd builder.serialize 0 (browseKMinSize+9))=
      .ok ((if builder.requestedAttrs.length=0 then 0xFF else builder.requestedAttrs.length%256),
        builder.fixedFields.length+1) := by
  have hlen : browseKMinSize+9+1 ≤ builder.serialize.length := by
    rw [serialize_eq_fixedFields,List.length_append,length_fixedFields,length_pushAttributes]
    omega
  rw [iterAdd_of_le (by omega),Nat.zero_add,serialize_eq_fixedFields,← length_fixedFields,pushAttributes]
  split_ifs
  · have h := extract_append builder.fixedFields (addPayloadOctets 1 0xFF) []
    simpa [addPayloadOctets] using h
  · have h := extract_append builder.fixedFields (addPayloadOctets 1 builder.requestedAttrs.length)
      (builder.requestedAttrs.flatMap pushAttribute)
    simp only [addPayloadOctets,encodeLE_succ,encodeLE_zero,decodeLE_cons,decodeLE_nil,UInt8.toNat_ofNat',
      List.append_assoc] at h
    simpa [addPayloadOctets] using h

/-- With at most 254 attributes, the requested attributes read back in set order. -/
theorem getAttributesRequested_serialize (hn : builder.requestedAttrs.length ≤ 254) :
    GetFolderItemsRequest.getAttributesRequested builder.serialize=.ok builder.requestedAttrs := by
  rw [GetFolderItemsRequest.getAttributesRequested,extract_count,ok_bind]
  dsimp only
  by_cases h0 : builder.requestedAttrs.length=0
  · rw [if_pos h0,if_pos rfl,List.eq_nil_of_length_eq_zero h0]
    rfl
  · have hcount : builder.requestedAttrs.length%256=builder.requestedAttrs.length := Nat.mod_eq_of_lt (by omega)
    rw [if_neg h0,hcount,if_neg (by omega),serialize_eq_fixedFields,pushAttributes,if_neg h0,
      ← List.append_assoc]
    have h := readAttributesLoop_append (builder.fixedFields++addPayloadOctets 1 builder.requestedAttrs.length) []
      builder.requestedAttrs
    simpa using h

/-- Two hundred and fifty-five attributes write the count byte `0xFF`, which
`GetAttributesRequested` reads as "no attributes". -/
theorem getAttributesRequested_serialize_of_255 (hn : builder.requestedAttrs.length=255) :
    GetFolderItemsRequest.getAttributesRequested builder.serialize=.ok [] := by
  have hcount : (if builder.requestedAttrs.length=0 then 0xFF else builder.requestedAttrs.length%256)=0xFF := by
    rw [hn]
    rfl
  rw [GetFolderItemsRequest.getAttributesRequested,extract_count,ok_bind]
  dsimp only
  rw [hcount,if_pos rfl]
  rfl

/-- The request is valid whenever its count byte is the sentinel or matches the
attributes, and its length fits the browsing header. -/
theorem isValid_serialize (hn : builder.requestedAttrs.length ≤ 255) :
    GetFolderItemsRequest.isValid builder.serialize=.ok true := by
  have hlen := length_serialize builder
  have hsize : builder.size=getFolderItemsRequestKMinSize+builder.requestedAttrs.length*attributeSize := rfl
  have hbrowse : browseIsValid builder.serialize=.ok true := by
    obtain ⟨payload,hbytes⟩ : ∃ payload,
        builder.serialize=pushBrowseHeader browsePduGetFolderItems (builder.size-browseKMinSize)++payload :=
      ⟨_,rfl⟩
    have hpay : payload.length=builder.size-browseKMinSize := by
      rw [hbytes,List.length_append,length_pushBrowseHeader] at hlen
      omega
    have hfit : builder.size-browseKMinSize<65536 := by
      rw [hsize]
      unfold getFolderItemsRequestKMinSize attributeSize browseKMinSize
      omega
    rw [hbytes,browseIsValid_browse,hpay,Nat.mod_eq_of_lt hfit]
    simp
  simp only [GetFolderItemsRequest.isValid,hbrowse,ok_bind,Bool.not_true,Bool.false_eq_true,if_false]
  rw [if_neg (by rw [hlen,hsize]; omega),getNumAttributes_serialize,ok_bind]
  by_cases h0 : builder.requestedAttrs.length=0
  · simp [h0]
    rfl
  · by_cases h255 : builder.requestedAttrs.length=255
    · simp [h255]
      rfl
    · have hcount : (UInt8.ofNat (builder.requestedAttrs.length%256)).toNat=builder.requestedAttrs.length := by
        rw [UInt8.toNat_ofNat']
        omega
      have hne : UInt8.ofNat (builder.requestedAttrs.length%256)≠0xFF := by
        intro h
        have := congrArg UInt8.toNat h
        rw [hcount] at this
        exact h255 this
      simp [h0,hne,hcount,hlen,hsize,getFolderItemsRequestKMinSize]
      rfl

end GetFolderItemsRequestBuilder

/-! ### Change Path request -/

/-- `BrowsePdu::CHANGE_PATH`. -/
def browsePduChangePath : ℕ := 0x72

/-- `ChangePathRequest::kMinSize`: the browsing header, UID counter, direction and folder UID. -/
def changePathRequestKMinSize : ℕ := browseKMinSize+11

/-- `ChangePathRequestBuilder`. -/
structure ChangePathRequestBuilder where
  /-- `uid_counter_`. -/
  uidCounter : UInt16
  /-- `direction_`. -/
  direction : UInt8
  /-- `folder_uid_`. -/
  folderUid : UInt64

namespace ChangePathRequestBuilder

/-- `ChangePathRequestBuilder::size`. -/
def size (_builder : ChangePathRequestBuilder) : ℕ := changePathRequestKMinSize

/-- `ChangePathRequestBuilder::Serialize`. -/
def serialize (builder : ChangePathRequestBuilder) : List UInt8 :=
  pushBrowseHeader browsePduChangePath (builder.size-browseKMinSize)++
    (addPayloadOctets 2 (byteSwap 2 builder.uidCounter.toNat)++addPayloadOctets 1 builder.direction.toNat++
      addPayloadOctets 8 (byteSwap 8 builder.folderUid.toNat))

end ChangePathRequestBuilder

namespace ChangePathRequest

/-- `ChangePathRequest::GetUidCounter`. -/
def getUidCounter (bytes : List UInt8) : Except Fault UInt16 := do
  let value ← readSwapped bytes browseKMinSize 2
  return UInt16.ofNat value

/-- `ChangePathRequest::GetDirection`. -/
def getDirection (bytes : List UInt8) : Except Fault UInt8 := byteAt bytes (browseKMinSize+2)

/-- `ChangePathRequest::GetUid`. -/
def getUid (bytes : List UInt8) : Except Fault UInt64 := do
  let value ← readSwapped bytes (browseKMinSize+3) 8
  return UInt64.ofNat value

/-- `ChangePathRequest::IsValid`: the packet has exactly the fixed size. -/
def isValid (bytes : List UInt8) : Except Fault Bool := do
  let valid ← browseIsValid bytes
  if !valid then return false
  else return bytes.length=changePathRequestKMinSize

end ChangePathRequest

namespace ChangePathRequestBuilder

variable (builder : ChangePathRequestBuilder)

theorem length_serialize : builder.serialize.length=builder.size := by
  simp [serialize,size,changePathRequestKMinSize,browseKMinSize]

theorem getUidCounter_serialize : ChangePathRequest.getUidCounter builder.serialize=.ok builder.uidCounter := by
  have h := readSwapped_field [] (addPayloadOctets 1 builder.direction.toNat++
    addPayloadOctets 8 (byteSwap 8 builder.folderUid.toNat)) 2 builder.uidCounter.toNat
  simp only [List.nil_append,List.length_nil,
    Nat.mod_eq_of_lt (show builder.uidCounter.toNat<256^2 from builder.uidCounter.toNat_lt)] at h
  rw [ChangePathRequest.getUidCounter,serialize,← Nat.add_zero browseKMinSize,readSwapped_browse,
    List.append_assoc,h,ok_bind,UInt16.ofNat_toNat]
  rfl

theorem getDirection_serialize : ChangePathRequest.getDirection builder.serialize=.ok builder.direction := by
  have h := byteAt_field (addPayloadOctets 2 (byteSwap 2 builder.uidCounter.toNat))
    (addPayloadOctets 8 (byteSwap 8 builder.folderUid.toNat)) builder.direction.toNat
  rw [length_addPayloadOctets,ofNat_mod_toNat_uint8] at h
  rw [ChangePathRequest.getDirection,serialize,byteAt_browse,List.append_assoc,h]

theorem getUid_serialize : ChangePathRequest.getUid builder.serialize=.ok builder.folderUid := by
  have h := readSwapped_field (addPayloadOctets 2 (byteSwap 2 builder.uidCounter.toNat)++
    addPayloadOctets 1 builder.direction.toNat) [] 8 builder.folderUid.toNat
  rw [List.append_nil,List.length_append,length_addPayloadOctets,length_addPayloadOctets,
    show (2+1 : ℕ)=3 from rfl,
    Nat.mod_eq_of_lt (show builder.folderUid.toNat<256^8 from builder.folderUid.toNat_lt)] at h
  rw [ChangePathRequest.getUid,serialize,readSwapped_browse,h,ok_bind,UInt64.ofNat_toNat]
  rfl

theorem isValid_serialize : ChangePathRequest.isValid builder.serialize=.ok true := by
  have hbrowse : browseIsValid builder.serialize=.ok true := by
    rw [serialize,browseIsValid_browse]
    simp [size,changePathRequestKMinSize,browseKMinSize]
  simp only [ChangePathRequest.isValid,hbrowse,ok_bind,Bool.not_true,Bool.false_eq_true,if_false]
  rw [length_serialize]
  simp [size]
  rfl

end ChangePathRequestBuilder

/-! ### Vendor requests -/

/-- `CType::STATUS`. -/
def cTypeStatus : ℕ := 0x1

/-- `CType::NOTIFY`. -/
def cTypeNotify : ℕ := 0x3

/-- `CType::STABLE`. -/
def cTypeStable : ℕ := 0xc

/-- `CType::CHANGED`. -/
def cTypeChanged : ℕ := 0xd

/-- `CType::INTERIM`. -/
def cTypeInterim : ℕ := 0xf

/-- `PacketType::SINGLE`. -/
def packetTypeSingle : ℕ := 0x00

/-- `CommandPdu::GET_CAPABILITIES`. -/
def commandPduGetCapabilities : ℕ := 0x10

/-- `CommandPdu::GET_ELEMENT_ATTRIBUTES`. -/
def commandPduGetElementAttributes : ℕ := 0x20

/-- `CommandPdu::REGISTER_NOTIFICATION`. -/
def commandPduRegisterNotification : ℕ := 0x31

/-- `RegisterNotificationRequest::kMinSize`: the headers, the event and the interval. -/
def registerNotificationRequestKMinSize : ℕ := vendorKMinSize+5

/-- `RegisterNotificationRequestBuilder`. -/
structure RegisterNotificationRequestBuilder where
  /-- `event_`. -/
  event : UInt8
  /-- `interval_`. -/
  interval : UInt32

namespace RegisterNotificationRequestBuilder

/-- `RegisterNotificationRequestBuilder::size`. -/
def size (_builder : RegisterNotificationRequestBuilder) : ℕ := registerNotificationRequestKMinSize

/-- `RegisterNotificationRequestBuilder::Serialize`. -/
def serialize (builder : RegisterNotificationRequestBuilder) : List UInt8 :=
  pushPacketHeader cTypeNotify vendorSubunitType 0x00 opcodeVendor++
    pushVendorHeader commandPduRegisterNotification packetTypeSingle (builder.size-vendorKMinSize)++
    (addPayloadOctets 1 builder.event.toNat++addPayloadOctets 4 (byteSwap 4 builder.interval.toNat))

end RegisterNotificationRequestBuilder

namespace RegisterNotificationRequest

/-- `RegisterNotificationRequest::GetEventRegistered`. -/
def getEventRegistered (bytes : List UInt8) : Except Fault UInt8 := byteAt bytes vendorKMinSize

/-- `RegisterNotificationRequest::GetInterval`. -/
def getInterval (bytes : List UInt8) : Except Fault UInt32 := do
  let value ← readSwapped bytes (vendorKMinSize+1) 4
  return UInt32.ofNat value

/-- `RegisterNotificationRequest::IsValid`. -/
def isValid (bytes : List UInt8) : Bool := bytes.length=registerNotificationRequestKMinSize

end RegisterNotificationRequest

namespace RegisterNotificationRequestBuilder

variable (builder : RegisterNotificationRequestBuilder)

theorem length_serialize : builder.serialize.length=builder.size := by
  simp [serialize,size,registerNotificationRequestKMinSize,vendorKMinSize,packetKMinSize]

theorem isValid_serialize : RegisterNotificationRequest.isValid builder.serialize=true := by
  simp [RegisterNotificationRequest.isValid,length_serialize,size]

theorem getEventRegistered_serialize :
    RegisterNotificationRequest.getEventRegistered builder.serialize=.ok builder.event := by
  have h := byteAt_field [] (addPayloadOctets 4 (byteSwap 4 builder.interval.toNat)) builder.event.toNat
  simp only [List.nil_append,List.length_nil,ofNat_mod_toNat_uint8] at h
  rw [RegisterNotificationRequest.getEventRegistered,serialize,← Nat.add_zero vendorKMinSize,byteAt_vendor,h]

theorem getInterval_serialize : RegisterNotificationRequest.getInterval builder.serialize=.ok builder.interval := by
  have h := readSwapped_field (addPayloadOctets 1 builder.event.toNat) [] 4 builder.interval.toNat
  rw [List.append_nil,length_addPayloadOctets,
    Nat.mod_eq_of_lt (show builder.interval.toNat<256^4 from builder.interval.toNat_lt)] at h
  rw [RegisterNotificationRequest.getInterval,serialize,readSwapped_vendor,h,ok_bind,UInt32.ofNat_toNat]
  rfl

/-- The vendor headers of the request: the SIG company id, and a parameter
length that counts the event and the interval. -/
theorem vendor_serialize :
    getCompanyId builder.serialize=.ok bluetoothCompanyId ∧ vendorIsValid builder.serialize=.ok true := by
  refine ⟨getCompanyId_vendor _ _ _ _ _ _ _ _,?_⟩
  rw [serialize,vendorIsValid_vendor]
  simp [size,registerNotificationRequestKMinSize]

end RegisterNotificationRequestBuilder

/-- `GetCapabilitiesRequest::kMinSize`: the headers and the capability. -/
def getCapabilitiesRequestKMinSize : ℕ := vendorKMinSize+1

/-- `GetCapabilitiesRequestBuilder`. -/
structure GetCapabilitiesRequestBuilder where
  /-- `capability_`. -/
  capability : UInt8

namespace GetCapabilitiesRequestBuilder

/-- `GetCapabilitiesRequestBuilder::size`. -/
def size (_builder : GetCapabilitiesRequestBuilder) : ℕ := getCapabilitiesRequestKMinSize

/-- `GetCapabilitiesRequestBuilder::Serialize`: the parameter length is the literal 1. -/
def serialize (builder : GetCapabilitiesRequestBuilder) : List UInt8 :=
  pushPacketHeader cTypeStatus vendorSubunitType 0x00 opcodeVendor++
    pushVendorHeader commandPduGetCapabilities packetTypeSingle 1++addPayloadOctets 1 builder.capability.toNat

end GetCapabilitiesRequestBuilder

namespace GetCapabilitiesRequest

/-- `GetCapabilitiesRequest::GetCapabilityRequested`. -/
def getCapabilityRequested (bytes : List UInt8) : Except Fault UInt8 := byteAt bytes vendorKMinSize

/-- `GetCapabilitiesRequest::IsValid`. -/
def isValid (bytes : List UInt8) : Except Fault Bool := do
  let valid ← vendorIsValid bytes
  if !valid then return false
  else return bytes.length=vendorKMinSize+1

end GetCapabilitiesRequest

namespace GetCapabilitiesRequestBuilder

variable (builder : GetCapabilitiesRequestBuilder)

theorem length_serialize : builder.serialize.length=builder.size := by
  simp [serialize,size,getCapabilitiesRequestKMinSize,vendorKMinSize,packetKMinSize]

theorem getCapabilityRequested_serialize :
    GetCapabilitiesRequest.getCapabilityRequested builder.serialize=.ok builder.capability := by
  have h := byteAt_field [] [] builder.capability.toNat
  simp only [List.nil_append,List.append_nil,List.length_nil,ofNat_mod_toNat_uint8] at h
  rw [GetCapabilitiesRequest.getCapabilityRequested,serialize,← Nat.add_zero vendorKMinSize,byteAt_vendor,h]

theorem vendor_serialize :
    getCompanyId builder.serialize=.ok bluetoothCompanyId ∧ vendorIsValid builder.serialize=.ok true :=
  ⟨getCompanyId_vendor _ _ _ _ _ _ _ _,by rw [serialize,vendorIsValid_vendor]; rfl⟩

theorem isValid_serialize : GetCapabilitiesRequest.isValid builder.serialize=.ok true := by
  simp only [GetCapabilitiesRequest.isValid,builder.vendor_serialize.2,ok_bind,Bool.not_true,
    Bool.false_eq_true,if_false]
  rw [length_serialize]
  rfl

end GetCapabilitiesRequestBuilder

/-! ### Sets -/

section Sets

variable {α : Type} (key : α → ℕ)

/-- `std::set::insert` on a set listed in increasing key order: an element whose
key is already present is not inserted. -/
def setInsert (x : α) : List α → List α
  | [] => [x]
  | e::es => if key x<key e then x::e::es else if key x=key e then e::es else e::setInsert x es

variable {key}

theorem mem_setInsert {x e : α} {l : List α} (h : e ∈ setInsert key x l) : e=x ∨ e ∈ l := by
  induction l with
  | nil => simpa [setInsert] using h
  | cons b bs ih =>
    simp only [setInsert] at h
    split_ifs at h
    · simpa using h
    · exact .inr h
    · rcases List.mem_cons.mp h with rfl | h
      · exact .inr List.mem_cons_self
      · rcases ih h with rfl | h
        · exact .inl rfl
        · exact .inr (List.mem_cons_of_mem _ h)

/-- Inserting keeps the set in increasing key order. -/
theorem setInsert_sorted (x : α) {l : List α} (hl : l.Pairwise fun a b => key a<key b) :
    (setInsert key x l).Pairwise fun a b => key a<key b := by
  induction l with
  | nil => simp [setInsert]
  | cons e es ih =>
    rw [List.pairwise_cons] at hl
    simp only [setInsert]
    split_ifs with hlt heq
    · refine List.Pairwise.cons (fun b hb => ?_) (List.Pairwise.cons hl.1 hl.2)
      rcases List.mem_cons.mp hb with rfl | hb
      · exact hlt
      · exact lt_trans hlt (hl.1 b hb)
    · exact List.Pairwise.cons hl.1 hl.2
    · refine List.Pairwise.cons (fun b hb => ?_) (ih hl.2)
      rcases mem_setInsert hb with rfl | hb
      · omega
      · exact hl.1 b hb

/-- Inserting adds at most the new element's weight to a sum over the set. -/
theorem sum_setInsert_le (weight : α → ℕ) (x : α) (l : List α) :
    ((setInsert key x l).map weight).sum ≤ (l.map weight).sum+weight x := by
  induction l with
  | nil => simp [setInsert]
  | cons e es ih =>
    simp only [setInsert]
    split_ifs <;> simp <;> omega

end Sets

/-! ### Attribute responses -/

/-- The admission shared by the two `AddAttributeEntry`s: the CHECK on the entry
count, then the entry cut to the space left (`mtu_ - size()`, a `size_t`);
`none` when nothing of its value is left, and the call returns false. -/
def admitAttributeEntry (size mtu count : ℕ) (entry : AttributeEntry) : Except Fault (Option AttributeEntry) :=
  if 0xFF ≤ count then .error .checkFailed
  else
    let remainingSpace := toSizeT ((mtu : ℤ)-size)
    let entry := if remainingSpace<entry.size then entry.resize remainingSpace else entry
    if entry.value.isEmpty then .ok none else .ok (some entry)

/-- `AttributeEntry::resize` leaves at most the bytes asked for, or none of the value. -/
theorem AttributeEntry.size_resize_le (entry : AttributeEntry) (newSize : ℕ) :
    (entry.resize newSize).size ≤ newSize ∨ (entry.resize newSize).value=[] := by
  simp only [AttributeEntry.resize]
  split_ifs with h₁ h₂ h₂
  · exact .inr (by simp)
  · exact .inr (by simpa using h₂)
  · left
    simp only [AttributeEntry.size,AttributeEntry.kHeaderSize,List.length_take] at *
    omega
  · left
    simp only [AttributeEntry.size,AttributeEntry.kHeaderSize] at *
    omega

/-- The space left, `mtu_ - size()` in `size_t`, is at most the difference in ℕ. -/
theorem toSizeT_sub_le (mtu size : ℕ) (hle : size ≤ mtu) : toSizeT ((mtu : ℤ)-size) ≤ mtu-size := by
  unfold toSizeT
  omega

section Admit

variable {size mtu count : ℕ} {entry entry' : AttributeEntry}

/-- Below 255 entries the CHECK passes. -/
theorem admitAttributeEntry_ok (hcount : count<0xFF) : ∃ r,admitAttributeEntry size mtu count entry=.ok r := by
  unfold admitAttributeEntry
  rw [if_neg (by omega)]
  dsimp only
  split_ifs <;> exact ⟨_,rfl⟩

/-- An admitted entry keeps its attribute and fits the space that was left, so
a response within its MTU stays within it. -/
theorem admitAttributeEntry_fits (hle : size ≤ mtu)
    (h : admitAttributeEntry size mtu count entry=.ok (some entry')) :
    size+entry'.size ≤ mtu ∧ entry'.attr=entry.attr := by
  have hspace := toSizeT_sub_le mtu size hle
  unfold admitAttributeEntry at h
  split at h
  · cases h
  dsimp only at h
  -- the entry cut to the space left fits it unless nothing of its value is left
  generalize he : (if toSizeT ((mtu : ℤ)-size)<entry.size then entry.resize (toSizeT ((mtu : ℤ)-size))
    else entry)=cut at h
  have hattr : cut.attr=entry.attr := by
    subst he
    split_ifs <;> simp
  have hfit : cut.value ≠ [] → cut.size ≤ toSizeT ((mtu : ℤ)-size) := by
    intro hne
    subst he
    split_ifs at hne ⊢
    · rcases AttributeEntry.size_resize_le entry (toSizeT ((mtu : ℤ)-size)) with hs | hv
      · exact hs
      · exact absurd hv hne
    · omega
  split at h
  · cases h
  · rename_i hne
    cases h
    have := hfit (by simpa using hne)
    exact ⟨by omega,hattr⟩

end Admit

/-- `VendorPacketBuilder::PushAttributeValue`: `value_length` is a `uint16_t`,
and the loop pushes that many bytes of the value. -/
def pushAttributeValue (entry : AttributeEntry) : List UInt8 :=
  addPayloadOctets 4 (byteSwap 4 entry.attr.toNat)++addPayloadOctets 2 (byteSwap 2 0x006a)++
    addPayloadOctets 2 (byteSwap 2 (entry.value.length%65536))++entry.value.take (entry.value.length%65536)

@[simp] theorem length_pushAttributeValue (entry : AttributeEntry) :
    (pushAttributeValue entry).length=AttributeEntry.kHeaderSize+entry.value.length%65536 := by
  simp only [pushAttributeValue,List.length_append,length_addPayloadOctets,List.length_take,
    AttributeEntry.kHeaderSize]
  omega

/-- A value shorter than 65536 bytes is pushed whole. -/
theorem pushAttributeValue_of_lt {entry : AttributeEntry} (h : entry.value.length<65536) :
    pushAttributeValue entry=pushElementAttribute entry := by
  simp [pushAttributeValue,pushElementAttribute,Nat.mod_eq_of_lt h]

/-- `GetElementAttributesResponseBuilder`: its entries are a `std::set`, ordered
by attribute. -/
structure GetElementAttributesResponseBuilder where
  /-- `mtu_`. -/
  mtu : ℕ
  /-- `entries_`. -/
  entries : List AttributeEntry
  entries_sorted : entries.Pairwise fun a b => a.attr.toNat<b.attr.toNat

namespace GetElementAttributesResponseBuilder

/-- `GetElementAttributesResponseBuilder::MakeBuilder`. -/
def makeBuilder (mtu : ℕ) : GetElementAttributesResponseBuilder := ⟨mtu,[],.nil⟩

/-- `GetElementAttributesResponseBuilder::size`. -/
def size (builder : GetElementAttributesResponseBuilder) : ℕ :=
  vendorKMinSize+1+(builder.entries.map AttributeEntry.size).sum

/-- `GetElementAttributesResponseBuilder::AddAttributeEntry`. -/
def addAttributeEntry (builder : GetElementAttributesResponseBuilder) (entry : AttributeEntry) :
    Except Fault (GetElementAttributesResponseBuilder×Bool) :=
  match admitAttributeEntry builder.size builder.mtu builder.entries.length entry with
  | .error e => .error e
  | .ok none => .ok (builder,false)
  | .ok (some entry) =>
    .ok (⟨builder.mtu,setInsert (·.attr.toNat) entry builder.entries,
      setInsert_sorted entry builder.entries_sorted⟩,true)

/-- `GetElementAttributesResponseBuilder::Serialize`; the entry count is pushed
as one byte. -/
def serialize (builder : GetElementAttributesResponseBuilder) : List UInt8 :=
  pushPacketHeader cTypeStable vendorSubunitType 0x00 opcodeVendor++
    pushVendorHeader commandPduGetElementAttributes packetTypeSingle (builder.size-vendorKMinSize)++
    (addPayloadOctets 1 builder.entries.length++builder.entries.flatMap pushAttributeValue)

/-- One `AddAttributeEntry` call of `Device::GetElementAttributesResponse`'s
loop, as a step of a run; its output is the returned flag, which the loop ignores. -/
def addStep (builder : GetElementAttributesResponseBuilder) (entry : AttributeEntry) :
    Except Fault (GetElementAttributesResponseBuilder×List Bool) := do
  let (builder,added) ← builder.addAttributeEntry entry
  return (builder,[added])

variable {builder builder' : GetElementAttributesResponseBuilder} {entry : AttributeEntry} {added : Bool}

theorem length_serialize (hvalues : ∀ entry ∈ builder.entries,entry.value.length<65536) :
    builder.serialize.length=builder.size := by
  have hsum : (builder.entries.flatMap pushAttributeValue).length=(builder.entries.map AttributeEntry.size).sum := by
    rw [List.flatMap_congr (fun e he => pushAttributeValue_of_lt (hvalues e he))]
    simp [List.length_flatMap]
  simp only [serialize,List.length_append,length_pushPacketHeader,length_pushVendorHeader,
    length_addPayloadOctets,hsum,size,vendorKMinSize]
  omega

theorem getParameterLength_serialize :
    getParameterLength builder.serialize=.ok ((builder.size-vendorKMinSize)%65536) :=
  getParameterLength_vendor _ _ _ _ _ _ _ _

/-- `Serialize` writes `size()` bytes exactly when every value held is shorter than 65536 bytes: a
longer one is pushed with its `uint16_t` length, so only its length modulo 65536 bytes go out. -/
theorem length_serialize_iff :
    builder.serialize.length=builder.size ↔ ∀ entry ∈ builder.entries,entry.value.length<65536 := by
  refine ⟨fun hlen entry hentry => ?_,length_serialize⟩
  by_contra hlong
  have hge : 65536 ≤ entry.value.length := not_lt.mp hlong
  -- every entry is pushed at most whole, and the long one short
  have hlt : (builder.entries.map fun e => AttributeEntry.kHeaderSize+e.value.length%65536).sum <
      (builder.entries.map AttributeEntry.size).sum := by
    refine List.sum_lt_sum _ _ (fun e _ => ?_) ⟨entry,hentry,?_⟩
    · have := Nat.mod_le e.value.length 65536
      simp only [AttributeEntry.size]
      omega
    · have := Nat.mod_lt entry.value.length (show 0 < 65536 by norm_num)
      simp only [AttributeEntry.size]
      omega
  have hpush : (builder.entries.flatMap pushAttributeValue).length=
      (builder.entries.map fun e => AttributeEntry.kHeaderSize+e.value.length%65536).sum := by
    simp [List.length_flatMap]
  simp only [serialize,List.length_append,length_pushPacketHeader,length_pushVendorHeader,
    length_addPayloadOctets,hpush,size,vendorKMinSize] at hlen
  omega

/-- A call that succeeds keeps the MTU, adds at most one entry, and keeps a
response within the MTU within it. -/
theorem addAttributeEntry_spec (h : builder.addAttributeEntry entry=.ok (builder',added)) :
    builder'.mtu=builder.mtu ∧ builder'.entries.length ≤ builder.entries.length+1 ∧
      (builder.size ≤ builder.mtu → builder'.size ≤ builder'.mtu) := by
  unfold addAttributeEntry at h
  split at h
  · cases h
  · cases h
    exact ⟨rfl,by omega,id⟩
  · rename_i cut hadmit
    cases h
    refine ⟨rfl,?_,fun hle => ?_⟩
    · simpa using @sum_setInsert_le AttributeEntry (fun e => e.attr.toNat) (fun _ => 1) cut builder.entries
    · have hfit := (admitAttributeEntry_fits hle hadmit).1
      have hins := @sum_setInsert_le AttributeEntry (fun e => e.attr.toNat) AttributeEntry.size
        cut builder.entries
      simp only [size] at hfit hins ⊢
      omega

theorem addAttributeEntry_ok (hcount : builder.entries.length<0xFF) :
    ∃ r,builder.addAttributeEntry entry=.ok r := by
  obtain ⟨r,hr⟩ := @admitAttributeEntry_ok builder.size builder.mtu builder.entries.length entry hcount
  unfold addAttributeEntry
  rw [hr]
  rcases r with _ | cut
  · exact ⟨_,rfl⟩
  · exact ⟨_,rfl⟩

theorem addStep_spec {out : List Bool} (h : builder.addStep entry=.ok (builder',out)) :
    builder'.mtu=builder.mtu ∧ builder'.entries.length ≤ builder.entries.length+1 ∧
      (builder.size ≤ builder.mtu → builder'.size ≤ builder'.mtu) := by
  obtain ⟨⟨b,a⟩,hadd,hret⟩ := bind_eq_ok.mp h
  cases hret
  exact addAttributeEntry_spec hadd

/-- `Device::GetElementAttributesResponse` adds one entry per attribute found;
with at most 255 of them the CHECK never fires. -/
theorem runSteps_addStep_ok {entries : List AttributeEntry}
    (hcount : builder.entries.length+entries.length ≤ 0xFF) :
    ∃ r,runSteps addStep builder entries=.ok r := by
  induction entries generalizing builder with
  | nil => exact ⟨_,rfl⟩
  | cons entry entries ih =>
    obtain ⟨⟨b,a⟩,hadd⟩ := @addAttributeEntry_ok builder entry (show builder.entries.length<0xFF by
      simp only [List.length_cons] at hcount
      omega)
    have hstep : builder.addStep entry=.ok (b,[a]) := by simp [addStep,hadd]
    have hlen := (addAttributeEntry_spec hadd).2.1
    obtain ⟨r,hr⟩ := @ih b (by simp only [List.length_cons] at hcount; omega)
    exact ⟨(r.1,[a]++r.2),by rw [runSteps_cons_of_ok hstep,hr]; rfl⟩

/-- Over any run of `AddAttributeEntry` calls from a fresh builder whose MTU
holds the headers, the response stays within the MTU. -/
theorem runSteps_addStep_size_le {mtu : ℕ} {entries : List AttributeEntry} {out : List Bool}
    (hmtu : vendorKMinSize+1 ≤ mtu) (h : runSteps addStep (makeBuilder mtu) entries=.ok (builder',out)) :
    builder'.mtu=mtu ∧ builder'.size ≤ mtu := by
  -- the invariant: the MTU is the one made with, and the response fits it
  have hstep : ∀ b e b' o,(b.mtu=mtu ∧ b.size ≤ b.mtu) → addStep b e=.ok (b',o) → b'.mtu=mtu ∧ b'.size ≤ b'.mtu := by
    intro b e b' o hb hs
    obtain ⟨hmtu',-,hsize⟩ := addStep_spec hs
    exact ⟨hmtu'.trans hb.1,hsize hb.2⟩
  have hinv := runSteps_invariant hstep ⟨rfl,by simpa [size,makeBuilder] using hmtu⟩ h
  exact ⟨hinv.1,hinv.1 ▸ hinv.2⟩

/-- An entry of a response of fewer than 65536 bytes has a value of fewer than
65536 bytes, so its `uint16_t` value length does not wrap. -/
theorem value_length_lt (hsize : builder.size-vendorKMinSize<65536) :
    ∀ entry ∈ builder.entries,entry.value.length<65536 := by
  intro entry hentry
  have hle := List.le_sum_of_mem (List.mem_map_of_mem (f := AttributeEntry.size) hentry)
  simp only [size,AttributeEntry.size,AttributeEntry.kHeaderSize] at hsize hle
  omega

/-- `Device::GetElementAttributesResponse` on a control channel whose MTU holds
the headers: for at most 255 entries found, the loop never faults, and the
response it sends fits the MTU, is `size()` bytes long, and its parameter
length counts the bytes after the vendor header. -/
theorem getElementAttributesResponse_fits {mtu : ℕ} {entries : List AttributeEntry}
    (hmtu : vendorKMinSize+1 ≤ mtu) (hmtu16 : mtu<65536) (hcount : entries.length ≤ 0xFF) :
    ∃ builder out,runSteps addStep (makeBuilder mtu) entries=.ok (builder,out) ∧ builder.size ≤ mtu ∧
      builder.serialize.length=builder.size ∧
      getParameterLength builder.serialize=.ok (builder.size-vendorKMinSize) := by
  obtain ⟨⟨builder,out⟩,hrun⟩ := @runSteps_addStep_ok (makeBuilder mtu) entries
    (by simpa [makeBuilder] using hcount)
  obtain ⟨-,hsize⟩ := runSteps_addStep_size_le hmtu hrun
  refine ⟨builder,out,hrun,hsize,length_serialize (value_length_lt (by omega)),?_⟩
  rw [getParameterLength_serialize,Nat.mod_eq_of_lt (by omega)]

end GetElementAttributesResponseBuilder

/-- `BrowsePdu::GET_ITEM_ATTRIBUTES`. -/
def browsePduGetItemAttributes : ℕ := 0x73

/-- `GetItemAttributesResponseBuilder`: its entries are a `std::set`, ordered
by attribute. -/
structure GetItemAttributesResponseBuilder where
  /-- `status_`. -/
  status : UInt8
  /-- `mtu_`. -/
  mtu : ℕ
  /-- `entries_`. -/
  entries : List AttributeEntry
  entries_sorted : entries.Pairwise fun a b => a.attr.toNat<b.attr.toNat

namespace GetItemAttributesResponseBuilder

/-- `GetItemAttributesResponseBuilder::MakeBuilder`. -/
def makeBuilder (status : UInt8) (mtu : ℕ) : GetItemAttributesResponseBuilder := ⟨status,mtu,[],.nil⟩

/-- `GetItemAttributesResponseBuilder::size`: a response that is not `NO_ERROR`
is the status alone. -/
def size (builder : GetItemAttributesResponseBuilder) : ℕ :=
  if builder.status≠statusNoError then browseKMinSize+1
  else browseKMinSize+1+1+(builder.entries.map AttributeEntry.size).sum

/-- `GetItemAttributesResponseBuilder::AddAttributeEntry`. -/
def addAttributeEntry (builder : GetItemAttributesResponseBuilder) (entry : AttributeEntry) :
    Except Fault (GetItemAttributesResponseBuilder×Bool) :=
  match admitAttributeEntry builder.size builder.mtu builder.entries.length entry with
  | .error e => .error e
  | .ok none => .ok (builder,false)
  | .ok (some entry) =>
    .ok (⟨builder.status,builder.mtu,setInsert (·.attr.toNat) entry builder.entries,
      setInsert_sorted entry builder.entries_sorted⟩,true)

/-- `GetItemAttributesResponseBuilder::Serialize`: unlike `PushAttributeValue`,
every byte of each value is pushed. -/
def serialize (builder : GetItemAttributesResponseBuilder) : List UInt8 :=
  pushBrowseHeader browsePduGetItemAttributes (builder.size-browseKMinSize)++
    (addPayloadOctets 1 builder.status.toNat++
      if builder.status≠statusNoError then []
      else addPayloadOctets 1 builder.entries.length++builder.entries.flatMap pushElementAttribute)

/-- One `AddAttributeEntry` call of the device's Get Item Attributes loops, as a step of a run;
its output is the returned flag, which the loops ignore. -/
def addStep (builder : GetItemAttributesResponseBuilder) (entry : AttributeEntry) :
    Except Fault (GetItemAttributesResponseBuilder×List Bool) := do
  let (builder,added) ← builder.addAttributeEntry entry
  return (builder,[added])

variable (builder : GetItemAttributesResponseBuilder)

theorem length_serialize : builder.serialize.length=builder.size := by
  have hsum : (builder.entries.flatMap pushElementAttribute).length=(builder.entries.map AttributeEntry.size).sum := by
    simp [List.length_flatMap]
  unfold serialize size
  split_ifs
  · simp [browseKMinSize]
  · simp [hsum,browseKMinSize]
    omega

theorem getLength_serialize : getLength builder.serialize=.ok ((builder.size-browseKMinSize)%65536) :=
  getLength_browse _ _ _

end GetItemAttributesResponseBuilder

/-- `BrowsePdu::SET_BROWSED_PLAYER`. -/
def browsePduSetBrowsedPlayer : ℕ := 0x70

/-- `SetBrowsedPlayerResponseBuilder`. -/
structure SetBrowsedPlayerResponseBuilder where
  /-- `status_`. -/
  status : UInt8
  /-- `uid_counter_`. -/
  uidCounter : UInt16
  /-- `num_items_in_folder_`. -/
  numItemsInFolder : UInt32
  /-- `folder_depth_`. -/
  folderDepth : UInt8
  /-- `folder_name_`. -/
  folderName : List UInt8

namespace SetBrowsedPlayerResponseBuilder

/-- `SetBrowsedPlayerResponseBuilder::size`: the folder name is left out at the
root (depth 0), and everything after the status when it is not `NO_ERROR`. -/
def size (builder : SetBrowsedPlayerResponseBuilder) : ℕ :=
  if builder.status≠statusNoError then browseKMinSize+1
  else browseKMinSize+1+2+4+2+1+(if builder.folderDepth≠0 then 2+builder.folderName.length else 0)

/-- `SetBrowsedPlayerResponseBuilder::Serialize`. -/
def serialize (builder : SetBrowsedPlayerResponseBuilder) : List UInt8 :=
  pushBrowseHeader browsePduSetBrowsedPlayer (builder.size-browseKMinSize)++
    (addPayloadOctets 1 builder.status.toNat++
      if builder.status≠statusNoError then []
      else addPayloadOctets 2 (byteSwap 2 builder.uidCounter.toNat)++
        addPayloadOctets 4 (byteSwap 4 builder.numItemsInFolder.toNat)++addPayloadOctets 2 (byteSwap 2 0x006a)++
        addPayloadOctets 1 builder.folderDepth.toNat++
        if builder.folderDepth=0 then []
        else addPayloadOctets 2 (byteSwap 2 (builder.folderName.length%65536))++builder.folderName)

variable (builder : SetBrowsedPlayerResponseBuilder)

theorem length_serialize : builder.serialize.length=builder.size := by
  unfold serialize size
  by_cases hs : builder.status=statusNoError
  · by_cases hd : builder.folderDepth=0
    · simp [hs,hd,browseKMinSize]
    · simp [hs,hd,browseKMinSize]
      omega
  · simp [hs,browseKMinSize]

theorem getLength_serialize : getLength builder.serialize=.ok ((builder.size-browseKMinSize)%65536) :=
  getLength_browse _ _ _

/-- A successful `SetBrowsedPlayer` response below the root carries twelve bytes and the name. -/
theorem size_of_folder (hstatus : builder.status=statusNoError) (hdepth : builder.folderDepth≠0) :
    builder.size=browseKMinSize+12+builder.folderName.length := by
  simp only [SetBrowsedPlayerResponseBuilder.size,hstatus,hdepth,ne_eq,not_true_eq_false,not_false_eq_true,
    if_true,if_false]
  omega

end SetBrowsedPlayerResponseBuilder

/-- `Capability`. -/
inductive Capability where
  | companyId
  | eventsSupported
  deriving DecidableEq, Repr

/-- The byte of each `Capability`. -/
def Capability.toUInt8 : Capability → UInt8
  | .companyId => 0x02
  | .eventsSupported => 0x03

/-- `Event`. -/
inductive Event where
  | playbackStatusChanged
  | trackChanged
  | playbackPosChanged
  | playerApplicationSettingChanged
  | nowPlayingContentChanged
  | availablePlayersChanged
  | addressedPlayerChanged
  | uidsChanged
  | volumeChanged
  deriving DecidableEq, Repr

/-- The byte of each `Event`. -/
def Event.toUInt8 : Event → UInt8
  | .playbackStatusChanged => 0x01
  | .trackChanged => 0x02
  | .playbackPosChanged => 0x05
  | .playerApplicationSettingChanged => 0x08
  | .nowPlayingContentChanged => 0x09
  | .availablePlayersChanged => 0x0a
  | .addressedPlayerChanged => 0x0b
  | .uidsChanged => 0x0c
  | .volumeChanged => 0x0d

/-- `GetCapabilitiesResponse::kMinSize`: the headers, the capability and the count. -/
def getCapabilitiesResponseKMinSize : ℕ := vendorKMinSize+2

/-- `GetCapabilitiesResponseBuilder`: its elements are a `std::set<uint32_t>`. -/
structure GetCapabilitiesResponseBuilder where
  /-- `capability_`. -/
  capability : Capability
  /-- `elements_`. -/
  elements : List UInt32
  elements_sorted : elements.Pairwise fun a b => a.toNat<b.toNat

namespace GetCapabilitiesResponseBuilder

/-- `GetCapabilitiesResponseBuilder::MakeCompanyIdBuilder`: the id is cut to 24 bits. -/
def makeCompanyIdBuilder (companyIdElement : UInt32) : GetCapabilitiesResponseBuilder :=
  ⟨.companyId,[companyIdElement &&& 0x00FFFFFF],List.pairwise_singleton _ _⟩

/-- `GetCapabilitiesResponseBuilder::MakeEventsSupportedBuilder`. -/
def makeEventsSupportedBuilder (event : Event) : GetCapabilitiesResponseBuilder :=
  ⟨.eventsSupported,[event.toUInt8.toUInt32],List.pairwise_singleton _ _⟩

/-- The body shared by `AddCompanyId` and `AddEvent`: the CHECKs on the
capability and on the element count, then the set insertion. -/
def addElement (expected : Capability) (builder : GetCapabilitiesResponseBuilder) (element : UInt32) :
    Except Fault GetCapabilitiesResponseBuilder :=
  if builder.capability≠expected then .error .checkFailed
  else if 0xFF ≤ builder.elements.length then .error .checkFailed
  else .ok ⟨builder.capability,setInsert UInt32.toNat element builder.elements,
    setInsert_sorted element builder.elements_sorted⟩

/-- `GetCapabilitiesResponseBuilder::AddCompanyId`. -/
def addCompanyId (builder : GetCapabilitiesResponseBuilder) (companyId : UInt32) :
    Except Fault GetCapabilitiesResponseBuilder :=
  addElement .companyId builder (companyId &&& 0x00FFFFFF)

/-- `GetCapabilitiesResponseBuilder::AddEvent`. -/
def addEvent (builder : GetCapabilitiesResponseBuilder) (event : Event) :
    Except Fault GetCapabilitiesResponseBuilder :=
  addElement .eventsSupported builder event.toUInt8.toUInt32

/-- `GetCapabilitiesResponseBuilder::size`: company ids take three bytes, events one. -/
def size (builder : GetCapabilitiesResponseBuilder) : ℕ :=
  getCapabilitiesResponseKMinSize+builder.elements.length*(if builder.capability=.companyId then 3 else 1)

/-- `GetCapabilitiesResponseBuilder::Serialize`: `parameter_count` is a `uint16_t`,
and the element count is pushed as one byte. -/
def serialize (builder : GetCapabilitiesResponseBuilder) : List UInt8 :=
  pushPacketHeader cTypeStable vendorSubunitType 0x00 opcodeVendor++
    pushVendorHeader commandPduGetCapabilities packetTypeSingle ((builder.size-vendorKMinSize)%65536)++
    (addPayloadOctets 1 builder.capability.toUInt8.toNat++addPayloadOctets 1 builder.elements.length++
      builder.elements.flatMap fun element =>
        if builder.capability=.companyId then pushCompanyId element.toNat else addPayloadOctets 1 element.toNat)

/-- Each element is pushed in the width that `size` counts for it. -/
theorem length_pushElement (capability : Capability) (element : UInt32) :
    (if capability=.companyId then pushCompanyId element.toNat else addPayloadOctets 1 element.toNat).length=
      if capability=.companyId then 3 else 1 := by
  split_ifs <;> simp [pushCompanyId]

variable (builder : GetCapabilitiesResponseBuilder)

theorem length_serialize : builder.serialize.length=builder.size := by
  simp only [serialize,size,List.length_append,length_pushPacketHeader,length_pushVendorHeader,
    length_addPayloadOctets,List.length_flatMap,length_pushElement,List.map_const',List.sum_replicate,
    smul_eq_mul,getCapabilitiesResponseKMinSize,vendorKMinSize]
  omega

theorem getParameterLength_serialize :
    getParameterLength builder.serialize=.ok ((builder.size-vendorKMinSize)%65536) := by
  rw [serialize,getParameterLength_vendor,Nat.mod_mod]

/-- The element count stays below 256, so the count byte is the count: the
CHECK in `AddCompanyId` and `AddEvent` stops the set at 255 elements. -/
theorem addElement_length_le {expected : Capability} {element : UInt32} {builder' : GetCapabilitiesResponseBuilder}
    (h : addElement expected builder element=.ok builder') : builder'.elements.length ≤ 0xFF := by
  unfold addElement at h
  split_ifs at h with hcap hcount
  cases h
  have := @sum_setInsert_le UInt32 UInt32.toNat (fun _ => 1) element builder.elements
  simp only [List.map_const',List.sum_replicate,smul_eq_mul,mul_one] at this
  dsimp only
  omega

end GetCapabilitiesResponseBuilder

/-- `RegisterNotificationResponseBuilder`. -/
structure RegisterNotificationResponseBuilder where
  /-- Whether the response is `INTERIM` or `CHANGED`. -/
  interim : Bool
  /-- `event_`. -/
  event : Event
  /-- `data_`. -/
  data : UInt64

namespace RegisterNotificationResponseBuilder

/-- `RegisterNotificationResponseBuilder::MakePlaybackStatusBuilder`. -/
def makePlaybackStatusBuilder (interim : Bool) (playStatus : UInt8) : RegisterNotificationResponseBuilder :=
  ⟨interim,.playbackStatusChanged,playStatus.toUInt64⟩

/-- `RegisterNotificationResponseBuilder::MakeTrackChangedBuilder`. -/
def makeTrackChangedBuilder (interim : Bool) (trackUid : UInt64) : RegisterNotificationResponseBuilder :=
  ⟨interim,.trackChanged,trackUid⟩

/-- `RegisterNotificationResponseBuilder::MakePlaybackPositionBuilder`. -/
def makePlaybackPositionBuilder (interim : Bool) (playbackPos : UInt32) : RegisterNotificationResponseBuilder :=
  ⟨interim,.playbackPosChanged,playbackPos.toUInt64⟩

/-- `RegisterNotificationResponseBuilder::MakeNowPlayingBuilder`: `data_` is
left unset, and no byte of it is pushed. -/
def makeNowPlayingBuilder (interim : Bool) : RegisterNotificationResponseBuilder :=
  ⟨interim,.nowPlayingContentChanged,0⟩

/-- `RegisterNotificationResponseBuilder::MakeAvailablePlayersBuilder`. -/
def makeAvailablePlayersBuilder (interim : Bool) : RegisterNotificationResponseBuilder :=
  ⟨interim,.availablePlayersChanged,0⟩

/-- `RegisterNotificationResponseBuilder::MakeAddressedPlayerBuilder`: the player
id in bits 16 to 31, the UID counter below it. -/
def makeAddressedPlayerBuilder (interim : Bool) (playerId uidCounter : UInt16) :
    RegisterNotificationResponseBuilder :=
  ⟨interim,.addressedPlayerChanged,(playerId.toUInt32 <<< 16).toUInt64 ||| uidCounter.toUInt64⟩

/-- `RegisterNotificationResponseBuilder::MakeUidsChangedBuilder`. -/
def makeUidsChangedBuilder (interim : Bool) (uidCounter : UInt16) : RegisterNotificationResponseBuilder :=
  ⟨interim,.uidsChanged,uidCounter.toUInt64⟩

/-- The data size of each event in `RegisterNotificationResponseBuilder::size`;
the two events with no builder end in `LOG(FATAL)`. -/
def dataSize : Event → Except Fault ℕ
  | .playbackStatusChanged => .ok 1
  | .trackChanged => .ok 8
  | .playbackPosChanged => .ok 4
  | .playerApplicationSettingChanged => .error .checkFailed
  | .nowPlayingContentChanged => .ok 0
  | .availablePlayersChanged => .ok 0
  | .addressedPlayerChanged => .ok 4
  | .uidsChanged => .ok 2
  | .volumeChanged => .error .checkFailed

/-- `RegisterNotificationResponseBuilder::size`. -/
def size (builder : RegisterNotificationResponseBuilder) : Except Fault ℕ := do
  let dataSize ← dataSize builder.event
  return vendorKMinSize+1+dataSize

/-- The event data that `RegisterNotificationResponseBuilder::Serialize` pushes. -/
def pushEventData (event : Event) (data : UInt64) : Except Fault (List UInt8) :=
  match event with
  | .playbackStatusChanged => .ok (addPayloadOctets 1 (data &&& 0xFF).toNat)
  | .trackChanged => .ok (addPayloadOctets 8 (byteSwap 8 data.toNat))
  | .playbackPosChanged => .ok (addPayloadOctets 4 (byteSwap 4 (data &&& 0xFFFFFFFF).toNat))
  | .playerApplicationSettingChanged => .ok []
  | .nowPlayingContentChanged => .ok []
  | .availablePlayersChanged => .ok []
  | .addressedPlayerChanged =>
    .ok (addPayloadOctets 2 (byteSwap 2 ((data >>> 16) &&& 0xFFFF).toNat)++
      addPayloadOctets 2 (byteSwap 2 (data &&& 0xFFFF).toNat))
  | .uidsChanged => .ok (addPayloadOctets 2 (byteSwap 2 (data &&& 0xFFFF).toNat))
  | .volumeChanged => .error .checkFailed

/-- `RegisterNotificationResponseBuilder::Serialize`: `size()` is computed
first, to reserve the space. -/
def serialize (builder : RegisterNotificationResponseBuilder) : Except Fault (List UInt8) := do
  let size ← builder.size
  let eventData ← pushEventData builder.event builder.data
  return pushPacketHeader (if builder.interim then cTypeInterim else cTypeChanged) vendorSubunitType 0x00
      opcodeVendor++pushVendorHeader commandPduRegisterNotification packetTypeSingle (size-vendorKMinSize)++
    (addPayloadOctets 1 builder.event.toUInt8.toNat++eventData)

theorem dataSize_le {event : Event} {n : ℕ} (h : dataSize event=.ok n) : n ≤ 8 := by
  cases event <;> cases h <;> decide

/-- Wherever the size is defined, the event data is pushed in exactly that many bytes. -/
theorem pushEventData_of_dataSize {event : Event} {n : ℕ} (data : UInt64) (h : dataSize event=.ok n) :
    ∃ eventData,pushEventData event data=.ok eventData ∧ eventData.length=n := by
  cases event <;> cases h <;> simp [pushEventData]

/-- A response whose size is defined serializes to `size()` bytes, with a
parameter length that counts the bytes after the vendor header. -/
theorem serialize_of_size {builder : RegisterNotificationResponseBuilder} {n : ℕ} (h : builder.size=.ok n) :
    ∃ bytes,builder.serialize=.ok bytes ∧ bytes.length=n ∧ getParameterLength bytes=.ok (n-vendorKMinSize) := by
  obtain ⟨d,hd,rfl⟩ : ∃ d,dataSize builder.event=.ok d ∧ vendorKMinSize+1+d=n := by
    obtain ⟨d,hd,hn⟩ := bind_eq_ok.mp h
    exact ⟨d,hd,by cases hn; rfl⟩
  obtain ⟨eventData,heventData,hlen⟩ := pushEventData_of_dataSize builder.data hd
  refine ⟨_,by rw [serialize,h,ok_bind,heventData,ok_bind]; rfl,?_,?_⟩
  · simp [hlen,vendorKMinSize]
    omega
  · have := dataSize_le hd
    rw [getParameterLength_vendor,Nat.mod_eq_of_lt (by omega)]

/-- Only the two events that no `Make*Builder` makes have no size. -/
theorem size_eq_error_iff (builder : RegisterNotificationResponseBuilder) :
    (∃ e,builder.size=.error e) ↔
      builder.event=.playerApplicationSettingChanged ∨ builder.event=.volumeChanged := by
  rcases builder with ⟨interim,event,data⟩
  cases event <;> simp [size,dataSize]

/-- The builders the seven `Make*Builder` functions return: the constructor is protected, and
nothing else in the stack makes one. -/
def IsMade (builder : RegisterNotificationResponseBuilder) : Prop :=
  ∃ interim,(∃ playStatus,builder=makePlaybackStatusBuilder interim playStatus) ∨
    (∃ trackUid,builder=makeTrackChangedBuilder interim trackUid) ∨
    (∃ playbackPos,builder=makePlaybackPositionBuilder interim playbackPos) ∨
    builder=makeNowPlayingBuilder interim ∨ builder=makeAvailablePlayersBuilder interim ∨
    (∃ playerId uidCounter,builder=makeAddressedPlayerBuilder interim playerId uidCounter) ∨
    (∃ uidCounter,builder=makeUidsChangedBuilder interim uidCounter)

/-- Every builder made has a size: no `Make*Builder` names an event that ends in `LOG(FATAL)`. -/
theorem size_ok_of_isMade {builder : RegisterNotificationResponseBuilder} (h : builder.IsMade) :
    ∃ n,builder.size=.ok n := by
  rcases hsize : builder.size with e | n
  · have hevent := (size_eq_error_iff builder).mp ⟨e,hsize⟩
    obtain ⟨interim,hmade⟩ := h
    rcases hmade with ⟨_,rfl⟩ | ⟨_,rfl⟩ | ⟨_,rfl⟩ | rfl | rfl | ⟨_,_,rfl⟩ | ⟨_,rfl⟩ <;>
      rcases hevent with h | h <;> cases h
  · exact ⟨n,rfl⟩

end RegisterNotificationResponseBuilder

end BluetoothStack.AvrcpRequests
