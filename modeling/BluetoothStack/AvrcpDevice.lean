import BluetoothStack.AvrcpRequests

/-!
# Inbound AVRCP messages (profile/avrcp/device.cc)

`ConnectionHandler::MessageCb` hands every control-channel message to
`Device::MessageReceived` and every browsing-channel message to
`Device::BrowseMessageReceived`, with no length check. The handlers then read
fields through the packet getters, each of which dereferences an `Iterator`
and CHECKs that it is not at the packet end. Only `HandleNotification` checks
`IsValid()` first. Which bytes a handler reads depends on the PDU, on fields of
the packet (a direction, a scope, an attribute count) and on a few bits of the
device's state, all of which the model takes as inputs.

Log arguments of `DEVICE_VLOG` are not evaluated (verbose logging is off);
those of `DEVICE_LOG` are.
-/

namespace BluetoothStack.AvrcpDevice

open ByteBuffer StepRun AvrcpPacket AvrcpFolderItems AvrcpRequests

/-! ### Getters -/

/-- `CType::NOT_IMPLEMENTED`. -/
def cTypeNotImplemented : ℕ := 0x8

/-- `CType::ACCEPTED`: this and every larger ctype is a response. -/
def cTypeAccepted : ℕ := 0x9

/-- `CType::REJECTED`. -/
def cTypeRejected : ℕ := 0xa

/-- `Opcode::PASS_THROUGH`. -/
def opcodePassThrough : ℕ := 0x7c

/-- `CommandPdu::GET_PLAY_STATUS`. -/
def commandPduGetPlayStatus : ℕ := 0x30

/-- `CommandPdu::SET_ADDRESSED_PLAYER`. -/
def commandPduSetAddressedPlayer : ℕ := 0x60

/-- `CommandPdu::PLAY_ITEM`. -/
def commandPduPlayItem : ℕ := 0x74

/-- `BrowsePdu::GET_TOTAL_NUMBER_OF_ITEMS`. -/
def browsePduGetTotalNumberOfItems : ℕ := 0x75

/-- `Direction::DOWN`. -/
def directionDown : UInt8 := 0x01

/-- `VendorPacket::ToString`, which `DEVICE_LOG(ERROR)` evaluates: it reads
every header field, then the payload up to the end. -/
def vendorToString (bytes : List UInt8) : Except Fault Unit := do
  let _ ← getCType bytes
  let _ ← byteAt bytes 1
  let _ ← getOpcode bytes
  let _ ← getCompanyId bytes
  let _ ← getCommandPdu bytes
  let _ ← getPacketType bytes
  let _ ← getParameterLength bytes
  return ()

/-- `PassThroughPacket::kMinSize`: the AVRCP header, the operation byte and the data length. -/
def passThroughPacketKMinSize : ℕ := packetKMinSize+2

namespace PassThroughPacket

/-- `PassThroughPacket::GetKeyState`. -/
def getKeyState (bytes : List UInt8) : Except Fault UInt8 := do
  let b ← byteAt bytes packetKMinSize
  return (b &&& 0x80) >>> 7

/-- `PassThroughPacket::GetOperationId`. -/
def getOperationId (bytes : List UInt8) : Except Fault UInt8 := do
  let b ← byteAt bytes packetKMinSize
  return b &&& 0x7F

/-- `PassThroughPacket::IsValid`. -/
def isValid (bytes : List UInt8) : Bool := bytes.length=passThroughPacketKMinSize

end PassThroughPacket

/-- `RegisterNotificationResponse::kMinSize`: the headers and the event. -/
def registerNotificationResponseKMinSize : ℕ := vendorKMinSize+1

namespace RegisterNotificationResponse

/-- `RegisterNotificationResponse::IsInterim`. -/
def isInterim (bytes : List UInt8) : Except Fault Bool := do
  let cType ← getCType bytes
  return cType=cTypeInterim

/-- `RegisterNotificationResponse::GetEvent`. -/
def getEvent (bytes : List UInt8) : Except Fault UInt8 := byteAt bytes vendorKMinSize

/-- `RegisterNotificationResponse::GetVolume`, after its CHECK on the event. -/
def getVolume (bytes : List UInt8) : Except Fault UInt8 := do
  let event ← getEvent bytes
  if event≠Event.volumeChanged.toUInt8 then throw .checkFailed
  byteAt bytes (vendorKMinSize+1)

/-- `RegisterNotificationResponse::IsValid`: an interim or changed response, and of the events
only a volume change, which carries one byte. -/
def isValid (bytes : List UInt8) : Except Fault Bool := do
  let valid ← vendorIsValid bytes
  if !valid then return false
  else if bytes.length<registerNotificationResponseKMinSize then return false
  else
    let cType ← getCType bytes
    if cType≠cTypeInterim ∧ cType≠cTypeChanged then return false
    else
      let event ← getEvent bytes
      if event=Event.volumeChanged.toUInt8 then return bytes.length=registerNotificationResponseKMinSize+1
      else return false

end RegisterNotificationResponse

/-- `GetElementAttributesRequest::kMinSize`: the headers, the identifier and the attribute count. -/
def getElementAttributesRequestKMinSize : ℕ := vendorKMinSize+9

namespace GetElementAttributesRequest

/-- `GetElementAttributesRequest::GetIdentifier`: eight bytes as they are stored, with no byte
swap. -/
def getIdentifier (bytes : List UInt8) : Except Fault UInt64 := do
  let (value,_) ← extract bytes 8 (iterAdd bytes 0 vendorKMinSize)
  return UInt64.ofNat value

/-- `GetElementAttributesRequest::GetNumAttributes`. -/
def getNumAttributes (bytes : List UInt8) : Except Fault UInt8 := do
  let (value,_) ← extract bytes 1 (iterAdd bytes 0 (vendorKMinSize+8))
  return UInt8.ofNat value

/-- `GetElementAttributesRequest::GetAttributesRequested`: as many attributes
as the count byte says, with no check against the packet size. -/
def getAttributesRequested (bytes : List UInt8) : Except Fault (List UInt32) := do
  let (count,index) ← extract bytes 1 (iterAdd bytes 0 (vendorKMinSize+8))
  readAttributesLoop bytes count index

/-- `GetElementAttributesRequest::IsValid`: the attributes fill what follows the count. -/
def isValid (bytes : List UInt8) : Except Fault Bool := do
  let valid ← vendorIsValid bytes
  if !valid then return false
  else if bytes.length<getElementAttributesRequestKMinSize then return false
  else
    let numAttributes ← getNumAttributes bytes
    return numAttributes.toNat*attributeSize=bytes.length-(vendorKMinSize+9)

end GetElementAttributesRequest

/-- `PlayItemRequest::kMinSize`: the headers, the scope, the uid and the uid counter. -/
def playItemRequestKMinSize : ℕ := vendorKMinSize+11

namespace PlayItemRequest

/-- `PlayItemRequest::GetScope`. -/
def getScope (bytes : List UInt8) : Except Fault UInt8 := byteAt bytes vendorKMinSize

/-- `PlayItemRequest::GetUid`. -/
def getUid (bytes : List UInt8) : Except Fault UInt64 := do
  let value ← readSwapped bytes (vendorKMinSize+1) 8
  return UInt64.ofNat value

/-- `PlayItemRequest::GetUidCounter`. -/
def getUidCounter (bytes : List UInt8) : Except Fault UInt16 := do
  let value ← readSwapped bytes (vendorKMinSize+9) 2
  return UInt16.ofNat value

/-- `PlayItemRequest::IsValid`: a play item request has exactly the fixed size. -/
def isValid (bytes : List UInt8) : Except Fault Bool := do
  let valid ← vendorIsValid bytes
  if !valid then return false
  else return bytes.length=playItemRequestKMinSize

end PlayItemRequest

namespace SetAddressedPlayerRequest

/-- `SetAddressedPlayerRequest::GetPlayerId`. -/
def getPlayerId (bytes : List UInt8) : Except Fault UInt16 := do
  let value ← readSwapped bytes vendorKMinSize 2
  return UInt16.ofNat value

end SetAddressedPlayerRequest

/-- `SetBrowsedPlayerRequest::kMinSize`: the browsing header and the player id. -/
def setBrowsedPlayerRequestKMinSize : ℕ := browseKMinSize+2

namespace SetBrowsedPlayerRequest

/-- `SetBrowsedPlayerRequest::GetPlayerId`. -/
def getPlayerId (bytes : List UInt8) : Except Fault UInt16 := do
  let value ← readSwapped bytes browseKMinSize 2
  return UInt16.ofNat value

/-- `SetBrowsedPlayerRequest::IsValid`. -/
def isValid (bytes : List UInt8) : Except Fault Bool := do
  let valid ← browseIsValid bytes
  if !valid then return false
  else return bytes.length=setBrowsedPlayerRequestKMinSize

end SetBrowsedPlayerRequest

/-- `GetItemAttributesRequest::kMinSize`: the browsing header, the scope, the uid, the uid
counter and the attribute count. -/
def getItemAttributesRequestKMinSize : ℕ := browseKMinSize+12

namespace GetItemAttributesRequest

/-- `GetItemAttributesRequest::GetScope`. -/
def getScope (bytes : List UInt8) : Except Fault UInt8 := byteAt bytes browseKMinSize

/-- `GetItemAttributesRequest::GetUid`. -/
def getUid (bytes : List UInt8) : Except Fault UInt64 := do
  let value ← readSwapped bytes (browseKMinSize+1) 8
  return UInt64.ofNat value

/-- `GetItemAttributesRequest::GetUidCounter`. -/
def getUidCounter (bytes : List UInt8) : Except Fault UInt16 := do
  let value ← readSwapped bytes (browseKMinSize+9) 2
  return UInt16.ofNat value

/-- `GetItemAttributesRequest::GetNumAttributes`. -/
def getNumAttributes (bytes : List UInt8) : Except Fault UInt8 := byteAt bytes (browseKMinSize+11)

/-- `GetItemAttributesRequest::GetAttributesRequested`: as many attributes as the count byte
says. -/
def getAttributesRequested (bytes : List UInt8) : Except Fault (List UInt32) := do
  let (count,index) ← extract bytes 1 (iterAdd bytes 0 (browseKMinSize+11))
  readAttributesLoop bytes count index

/-- `GetItemAttributesRequest::IsValid`: the attributes fill what follows the fixed fields. -/
def isValid (bytes : List UInt8) : Except Fault Bool := do
  let valid ← browseIsValid bytes
  if !valid then return false
  else if bytes.length<getItemAttributesRequestKMinSize then return false
  else
    let numAttributes ← getNumAttributes bytes
    return numAttributes.toNat*attributeSize=bytes.length-getItemAttributesRequestKMinSize

end GetItemAttributesRequest

namespace GetTotalNumberOfItemsRequest

/-- `GetTotalNumberOfItemsRequest::GetScope`. -/
def getScope (bytes : List UInt8) : Except Fault UInt8 := byteAt bytes browseKMinSize

end GetTotalNumberOfItemsRequest

/-! ### Handlers -/

/-- The device state that decides which getters a handler calls. -/
structure DeviceView where
  /-- `volume_interface_ != nullptr`. -/
  hasVolumeInterface : Bool
  /-- `volume_ == VOL_NOT_SUPPORTED`: no volume has been received yet. -/
  volumeNotSupported : Bool
  /-- `IsActive()`. -/
  isActive : Bool
  deriving DecidableEq, Repr

/-- What handling a message leads to, with the fields it was decided on. -/
inductive Reaction where
  /-- Nothing is sent and nothing asked of the media interface. -/
  | ignored
  /-- A `RejectBuilder` response for a vendor PDU. -/
  | reject (pdu : UInt8)
  /-- A `GeneralRejectBuilder` response on the browsing channel. -/
  | generalReject
  /-- The pass-through response, and the key event. -/
  | passThrough (keyState operationId : UInt8)
  /-- The capabilities response, or its reject, for the capability asked. -/
  | capabilities (capability : UInt8)
  /-- A notification registered for the event. -/
  | notification (event : UInt8)
  /-- The element attributes response for the attributes asked. -/
  | elementAttributes (attributes : List UInt32)
  /-- The play status response. -/
  | playStatus
  /-- A play item request, with the UID read when the scope is known. -/
  | playItem (scope : UInt8) (uid : Option UInt64)
  /-- The set addressed player response for the player asked. -/
  | setAddressedPlayer (playerId : UInt16)
  /-- The volume registration was rejected: absolute volume is disabled. -/
  | volumeRejected
  /-- A changed volume: the device registers again. -/
  | volumeReregistered
  /-- A new volume. -/
  | volume (volume : UInt8)
  /-- The set browsed player request for the player asked. -/
  | setBrowsedPlayer (playerId : UInt16)
  /-- A folder listing, with the range its callback reads. -/
  | folderItems (scope : UInt8) (startItem endItem : UInt32)
  /-- A listing for an unknown scope, which is only logged. -/
  | unknownScope (scope : UInt8)
  /-- The total number of items for a scope. -/
  | totalNumberOfItems (scope : UInt8)
  /-- A change of folder, with the UID read when going down. -/
  | changePath (direction : UInt8) (uid : Option UInt64)
  /-- Item attributes asked with a UID counter other than 0. -/
  | uidsChanged
  /-- Item attributes in a scope. -/
  | itemAttributes (scope : UInt8)
  deriving DecidableEq, Repr

/-- `Device::HandleVolumeChanged`. -/
def handleVolumeChanged (device : DeviceView) (bytes : List UInt8) : Except Fault Reaction :=
  if !device.hasVolumeInterface then .ok .ignored
  else do
    let cType ← getCType bytes
    if cType=cTypeRejected then return .volumeRejected
    let interim ← RegisterNotificationResponse.isInterim bytes
    if !interim then return .volumeReregistered
    -- the first volume is taken whether or not the device is active
    if device.volumeNotSupported || device.isActive then
      let volume ← RegisterNotificationResponse.getVolume bytes
      return .volume volume
    else return .ignored

/-- `Device::HandleGetCapabilities`. -/
def handleGetCapabilities (bytes : List UInt8) : Except Fault Reaction := do
  let capability ← GetCapabilitiesRequest.getCapabilityRequested bytes
  return .capabilities capability

/-- The events `HandleNotification` registers; any other is rejected. -/
def registrableEvents : List Event :=
  [.trackChanged,.playbackStatusChanged,.playbackPosChanged,.nowPlayingContentChanged,
    .availablePlayersChanged,.addressedPlayerChanged,.uidsChanged]

/-- `Device::HandleNotification`: the one handler that checks `IsValid()`. -/
def handleNotification (bytes : List UInt8) : Except Fault Reaction :=
  if !RegisterNotificationRequest.isValid bytes then do
    let pdu ← getCommandPdu bytes
    return .reject pdu
  else do
    let event ← RegisterNotificationRequest.getEventRegistered bytes
    if event=Event.playbackPosChanged.toUInt8 then
      let _ ← RegisterNotificationRequest.getInterval bytes
    if event ∈ registrableEvents.map Event.toUInt8 then return .notification event
    else
      let pdu ← getCommandPdu bytes
      return .reject pdu

/-- `Device::GetElementAttributesResponse`, the callback of `GetSongInfo`. -/
def getElementAttributesResponse (bytes : List UInt8) : Except Fault Reaction := do
  let attributes ← GetElementAttributesRequest.getAttributesRequested bytes
  return .elementAttributes attributes

/-- `Device::HandlePlayItem`: the UID is looked up in the scope's id map. -/
def handlePlayItem (bytes : List UInt8) : Except Fault Reaction := do
  let scope ← PlayItemRequest.getScope bytes
  if scope=scopeNowPlaying || scope=scopeVfs then
    let uid ← PlayItemRequest.getUid bytes
    return .playItem scope (some uid)
  else return .playItem scope none

/-- `Device::HandleSetAddressedPlayer`, the callback of `GetMediaPlayerList`. -/
def handleSetAddressedPlayer (bytes : List UInt8) : Except Fault Reaction := do
  let playerId ← SetAddressedPlayerRequest.getPlayerId bytes
  return .setAddressedPlayer playerId

/-- `Device::VendorPacketHandler`. -/
def vendorPacketHandler (device : DeviceView) (bytes : List UInt8) : Except Fault Reaction := do
  let cType ← getCType bytes
  if cType=cTypeNotImplemented then return .ignored
  let pdu ← getCommandPdu bytes
  if cTypeAccepted ≤ cType then
    -- a response: only the volume notification is handled
    if pdu.toNat=commandPduRegisterNotification then
      let event ← RegisterNotificationResponse.getEvent bytes
      if event≠Event.volumeChanged.toUInt8 then return .ignored
      handleVolumeChanged device bytes
    else return .ignored
  else if pdu.toNat=commandPduGetCapabilities then handleGetCapabilities bytes
  else if pdu.toNat=commandPduRegisterNotification then handleNotification bytes
  else if pdu.toNat=commandPduGetElementAttributes then getElementAttributesResponse bytes
  else if pdu.toNat=commandPduGetPlayStatus then return .playStatus
  else if pdu.toNat=commandPduPlayItem then handlePlayItem bytes
  else if pdu.toNat=commandPduSetAddressedPlayer then handleSetAddressedPlayer bytes
  else do
    vendorToString bytes
    return .reject pdu

/-- `Device::MessageReceived`. -/
def messageReceived (device : DeviceView) (bytes : List UInt8) : Except Fault Reaction := do
  let opcode ← getOpcode bytes
  if opcode.toNat=opcodePassThrough then
    let keyState ← PassThroughPacket.getKeyState bytes
    let operationId ← PassThroughPacket.getOperationId bytes
    return .passThrough keyState operationId
  else if opcode.toNat=opcodeVendor then vendorPacketHandler device bytes
  else return .ignored

/-- `Device::HandleGetFolderItems` and the callbacks it schedules: each of
`GetMediaPlayerListResponse`, `GetVFSListResponse` and
`GetNowPlayingListResponse` reads the start item and the end item to start its
loop. -/
def handleGetFolderItems (bytes : List UInt8) : Except Fault Reaction := do
  let scope ← GetFolderItemsRequest.getScope bytes
  if scope=scopeMediaPlayerList || scope=scopeVfs || scope=scopeNowPlaying then
    let startItem ← GetFolderItemsRequest.getStartItem bytes
    let endItem ← GetFolderItemsRequest.getEndItem bytes
    return .folderItems scope startItem endItem
  else return .unknownScope scope

/-- `Device::HandleGetTotalNumberOfItems`. -/
def handleGetTotalNumberOfItems (bytes : List UInt8) : Except Fault Reaction := do
  let scope ← GetTotalNumberOfItemsRequest.getScope bytes
  return .totalNumberOfItems scope

/-- `Device::HandleChangePath`: the UID is read only to go down. -/
def handleChangePath (bytes : List UInt8) : Except Fault Reaction := do
  let direction ← ChangePathRequest.getDirection bytes
  if direction=directionDown then
    let uid ← ChangePathRequest.getUid bytes
    return .changePath direction (some uid)
  else return .changePath direction none

/-- `Device::HandleGetItemAttributes`. -/
def handleGetItemAttributes (bytes : List UInt8) : Except Fault Reaction := do
  let uidCounter ← GetItemAttributesRequest.getUidCounter bytes
  if uidCounter≠0 then return .uidsChanged
  let scope ← GetItemAttributesRequest.getScope bytes
  return .itemAttributes scope

/-- `Device::HandleSetBrowsedPlayer`. -/
def handleSetBrowsedPlayer (bytes : List UInt8) : Except Fault Reaction := do
  let playerId ← SetBrowsedPlayerRequest.getPlayerId bytes
  return .setBrowsedPlayer playerId

/-- `Device::BrowseMessageReceived`. -/
def browseMessageReceived (bytes : List UInt8) : Except Fault Reaction := do
  let pdu ← getPdu bytes
  if pdu.toNat=browsePduSetBrowsedPlayer then handleSetBrowsedPlayer bytes
  else if pdu.toNat=browsePduGetFolderItems then handleGetFolderItems bytes
  else if pdu.toNat=browsePduChangePath then handleChangePath bytes
  else if pdu.toNat=browsePduGetItemAttributes then handleGetItemAttributes bytes
  else if pdu.toNat=browsePduGetTotalNumberOfItems then handleGetTotalNumberOfItems bytes
  else return .generalReject

/-! ### Reads within the packet -/

section Reads

variable {bytes : List UInt8}

theorem byteAt_ok {pos : ℕ} (h : pos<bytes.length) : ∃ b,byteAt bytes pos=.ok b :=
  ⟨_,byteAt_of_lt h⟩

theorem readSwapped_ok {pos width : ℕ} (h : pos+width ≤ bytes.length) : ∃ v,readSwapped bytes pos width=.ok v :=
  ⟨_,readSwapped_of_le h⟩

/-- The attribute loop reads exactly the attributes that fit before the end. -/
theorem readAttributesLoop_ok_iff {count index : ℕ} (hi : index ≤ bytes.length) :
    (∃ attrs,readAttributesLoop bytes count index=.ok attrs) ↔ index+4*count ≤ bytes.length := by
  induction count generalizing index with
  | zero => simpa [readAttributesLoop] using hi
  | succ count ih =>
    by_cases h : index+4 ≤ bytes.length
    · have hnext := @ih (index+4) h
      simp only [readAttributesLoop,extract_of_le h,ok_bind]
      constructor
      · rintro ⟨attrs,hattrs⟩
        obtain ⟨rest,hrest,-⟩ := bind_eq_ok.mp hattrs
        have := hnext.mp ⟨rest,hrest⟩
        omega
      · intro hlen
        obtain ⟨rest,hrest⟩ := hnext.mpr (by omega)
        exact ⟨_,by rw [hrest]; rfl⟩
    · simp only [readAttributesLoop,@extract_of_lt bytes 4 index hi (by omega),error_bind]
      constructor
      · rintro ⟨_,hattrs⟩
        cases hattrs
      · intro hlen
        omega

/-- `GetAttributesRequested` of a Get Element Attributes request succeeds
exactly when the packet holds as many attributes as its count byte says. -/
theorem getAttributesRequested_ok_iff (h : vendorKMinSize+8<bytes.length) :
    (∃ attrs,GetElementAttributesRequest.getAttributesRequested bytes=.ok attrs) ↔
      vendorKMinSize+9+4*(bytes[vendorKMinSize+8]).toNat ≤ bytes.length := by
  have hcount : extract bytes 1 (iterAdd bytes 0 (vendorKMinSize+8))=
      .ok ((bytes[vendorKMinSize+8]).toNat,vendorKMinSize+9) := by
    rw [iterAdd_of_le (by omega),Nat.zero_add,extract_of_le (by omega)]
    simp [List.take_one,List.getElem?_eq_getElem h,decodeLE]
  rw [GetElementAttributesRequest.getAttributesRequested,hcount,ok_bind]
  exact readAttributesLoop_ok_iff (by omega)

end Reads

/-! ### The browsing channel -/

section Browse

variable {bytes : List UInt8}

theorem handleSetBrowsedPlayer_ok (h : browseKMinSize+2 ≤ bytes.length) :
    ∃ r,handleSetBrowsedPlayer bytes=.ok r := by
  obtain ⟨playerId,hplayer⟩ := readSwapped_ok h
  exact ⟨_,by simp [handleSetBrowsedPlayer,SetBrowsedPlayerRequest.getPlayerId,hplayer]; rfl⟩

theorem handleGetFolderItems_ok (h : browseKMinSize+9 ≤ bytes.length) :
    ∃ r,handleGetFolderItems bytes=.ok r := by
  obtain ⟨scope,hscope⟩ := byteAt_ok (show browseKMinSize<bytes.length by omega)
  obtain ⟨startItem,hstart⟩ := readSwapped_ok (show browseKMinSize+1+4 ≤ bytes.length by omega)
  obtain ⟨endItem,hend⟩ := readSwapped_ok (show browseKMinSize+5+4 ≤ bytes.length by omega)
  simp only [handleGetFolderItems,GetFolderItemsRequest.getScope,GetFolderItemsRequest.getStartItem,
    GetFolderItemsRequest.getEndItem,hscope,hstart,hend,ok_bind]
  split
  · exact ⟨_,rfl⟩
  · exact ⟨_,rfl⟩

theorem handleChangePath_ok (h : browseKMinSize+11 ≤ bytes.length) : ∃ r,handleChangePath bytes=.ok r := by
  obtain ⟨direction,hdirection⟩ := byteAt_ok (show browseKMinSize+2<bytes.length by omega)
  obtain ⟨uid,huid⟩ := readSwapped_ok (show browseKMinSize+3+8 ≤ bytes.length by omega)
  simp only [handleChangePath,ChangePathRequest.getDirection,ChangePathRequest.getUid,hdirection,huid,ok_bind]
  split
  · exact ⟨_,rfl⟩
  · exact ⟨_,rfl⟩

theorem handleGetItemAttributes_ok (h : browseKMinSize+11 ≤ bytes.length) :
    ∃ r,handleGetItemAttributes bytes=.ok r := by
  obtain ⟨uidCounter,hcounter⟩ := readSwapped_ok (show browseKMinSize+9+2 ≤ bytes.length by omega)
  obtain ⟨scope,hscope⟩ := byteAt_ok (show browseKMinSize<bytes.length by omega)
  simp only [handleGetItemAttributes,GetItemAttributesRequest.getUidCounter,GetItemAttributesRequest.getScope,
    hcounter,hscope,ok_bind,pure_bind]
  split
  · exact ⟨_,rfl⟩
  · exact ⟨_,rfl⟩

theorem handleGetTotalNumberOfItems_ok (h : browseKMinSize<bytes.length) :
    ∃ r,handleGetTotalNumberOfItems bytes=.ok r := by
  obtain ⟨scope,hscope⟩ := byteAt_ok h
  exact ⟨_,by simp [handleGetTotalNumberOfItems,GetTotalNumberOfItemsRequest.getScope,hscope]; rfl⟩

/-- `BrowseMessageReceived` goes to the handler of the PDU in the first byte. -/
theorem browseMessageReceived_of_pdu {pdu : UInt8} (hpdu : getPdu bytes=.ok pdu) :
    browseMessageReceived bytes=
      if pdu.toNat=browsePduSetBrowsedPlayer then handleSetBrowsedPlayer bytes
      else if pdu.toNat=browsePduGetFolderItems then handleGetFolderItems bytes
      else if pdu.toNat=browsePduChangePath then handleChangePath bytes
      else if pdu.toNat=browsePduGetItemAttributes then handleGetItemAttributes bytes
      else if pdu.toNat=browsePduGetTotalNumberOfItems then handleGetTotalNumberOfItems bytes
      else .ok .generalReject := by
  rw [browseMessageReceived,hpdu,ok_bind]
  rfl

/-- Every browsing message of 14 bytes or more is handled without reaching the
CHECK: each handler reads within its first 14 bytes. -/
theorem browseMessageReceived_ok_of_length (h : browseKMinSize+11 ≤ bytes.length) :
    ∃ r,browseMessageReceived bytes=.ok r := by
  obtain ⟨pdu,hpdu⟩ := byteAt_ok (show 0<bytes.length by omega)
  rw [browseMessageReceived_of_pdu hpdu]
  split_ifs
  · exact handleSetBrowsedPlayer_ok (by omega)
  · exact handleGetFolderItems_ok (by omega)
  · exact handleChangePath_ok h
  · exact handleGetItemAttributes_ok h
  · exact handleGetTotalNumberOfItems_ok (by omega)
  · exact ⟨_,rfl⟩

/-- A browsing message that stops at its header, whatever PDU it names that
the device handles, reaches the CHECK: every handler reads past the header. -/
theorem browseMessageReceived_of_header {pdu : UInt8} (hpdu : getPdu bytes=.ok pdu)
    (hhandled : pdu.toNat ∈ [browsePduSetBrowsedPlayer,browsePduGetFolderItems,browsePduChangePath,
      browsePduGetItemAttributes,browsePduGetTotalNumberOfItems])
    (h : bytes.length ≤ browseKMinSize) :
    browseMessageReceived bytes=.error .checkFailed := by
  rw [browseMessageReceived_of_pdu hpdu]
  simp only [List.mem_cons,List.not_mem_nil,or_false] at hhandled
  split_ifs
  · simp [handleSetBrowsedPlayer,SetBrowsedPlayerRequest.getPlayerId,readSwapped_of_lt (show 0<2 by omega)
      (show bytes.length<browseKMinSize+2 by omega)]
  · simp [handleGetFolderItems,GetFolderItemsRequest.getScope,byteAt_of_le h]
  · simp [handleChangePath,ChangePathRequest.getDirection,byteAt_of_le (show bytes.length ≤ browseKMinSize+2 by omega)]
  · simp [handleGetItemAttributes,GetItemAttributesRequest.getUidCounter,readSwapped_of_lt (show 0<2 by omega)
      (show bytes.length<browseKMinSize+9+2 by omega)]
  · simp [handleGetTotalNumberOfItems,GetTotalNumberOfItemsRequest.getScope,byteAt_of_le h]
  · omega

end Browse

/-! ### The control channel -/

section Control

variable {device : DeviceView} {bytes : List UInt8}

theorem getCType_packet (cType subunitType subunitId opcode : ℕ) (rest : List UInt8) :
    getCType (pushPacketHeader cType subunitType subunitId opcode++rest)=.ok ((cType%256) &&& 0x0F) := by
  rw [pushPacketHeader_eq,getCType,byteAt_of_lt (by simp)]
  simp

theorem getOpcode_packet (cType subunitType subunitId opcode : ℕ) (rest : List UInt8) :
    getOpcode (pushPacketHeader cType subunitType subunitId opcode++rest)=.ok (UInt8.ofNat (opcode%256)) := by
  rw [pushPacketHeader_eq,getOpcode,byteAt_of_lt (by simp)]
  rfl

/-- `MessageReceived` hands a vendor-dependent message to `VendorPacketHandler`. -/
theorem messageReceived_of_vendor {opcode : UInt8} (hopcode : getOpcode bytes=.ok opcode)
    (hvendor : opcode.toNat=opcodeVendor) : messageReceived device bytes=vendorPacketHandler device bytes := by
  rw [messageReceived,hopcode,ok_bind,if_neg (by rw [hvendor]; decide),if_pos hvendor]

/-- A command (a ctype below `NOT_IMPLEMENTED`) goes to the handler of its PDU. -/
theorem vendorPacketHandler_of_command {cType : ℕ} {pdu : UInt8} (hcType : getCType bytes=.ok cType)
    (hcommand : cType<cTypeNotImplemented) (hpdu : getCommandPdu bytes=.ok pdu) :
    vendorPacketHandler device bytes=
      if pdu.toNat=commandPduGetCapabilities then handleGetCapabilities bytes
      else if pdu.toNat=commandPduRegisterNotification then handleNotification bytes
      else if pdu.toNat=commandPduGetElementAttributes then getElementAttributesResponse bytes
      else if pdu.toNat=commandPduGetPlayStatus then .ok .playStatus
      else if pdu.toNat=commandPduPlayItem then handlePlayItem bytes
      else if pdu.toNat=commandPduSetAddressedPlayer then handleSetAddressedPlayer bytes
      else do
        vendorToString bytes
        return .reject pdu := by
  have hne : cType≠cTypeNotImplemented := Nat.ne_of_lt hcommand
  have hlt : ¬cTypeAccepted ≤ cType := by
    unfold cTypeAccepted
    unfold cTypeNotImplemented at hcommand
    omega
  rw [vendorPacketHandler,hcType,ok_bind]
  simp only [hne,if_false,hpdu,ok_bind,hlt]
  rfl

/-- A Get Element Attributes command, whatever its declared lengths, is handled
without reaching the CHECK exactly when it carries as many attributes as its
count byte says; the callback that reads them checks nothing. -/
theorem messageReceived_getElementAttributes_ok_iff {cType subunitType subunitId packetType parameterLength : ℕ}
    {payload : List UInt8} (hcommand : (cType%256) &&& 0x0F<cTypeNotImplemented) (hcount : 8<payload.length) :
    (∃ r,messageReceived device (pushPacketHeader cType subunitType subunitId opcodeVendor++
        pushVendorHeader commandPduGetElementAttributes packetType parameterLength++payload)=.ok r) ↔
      9+4*(payload[8]).toNat ≤ payload.length := by
  have hheader := length_vendorHeaders cType subunitType subunitId opcodeVendor commandPduGetElementAttributes
    packetType parameterLength
  rw [messageReceived_of_vendor (by rw [List.append_assoc]; exact getOpcode_packet _ _ _ _ _) rfl,
    vendorPacketHandler_of_command (by rw [List.append_assoc]; exact getCType_packet _ _ _ _ _) hcommand
      (getCommandPdu_vendor _ _ _ _ _ _ _ _)]
  simp only [show (UInt8.ofNat (commandPduGetElementAttributes%256)).toNat=commandPduGetElementAttributes from rfl,
    if_pos,show commandPduGetElementAttributes≠commandPduGetCapabilities by decide,
    show commandPduGetElementAttributes≠commandPduRegisterNotification by decide,if_false]
  rw [getElementAttributesResponse]
  have hlen : vendorKMinSize+8<(pushPacketHeader cType subunitType subunitId opcodeVendor++
      pushVendorHeader commandPduGetElementAttributes packetType parameterLength++payload).length := by
    rw [List.length_append,hheader]
    omega
  have hbyte : (pushPacketHeader cType subunitType subunitId opcodeVendor++
      pushVendorHeader commandPduGetElementAttributes packetType parameterLength++payload)[vendorKMinSize+8]=
      payload[8] := by
    rw [List.getElem_append_right (by omega)]
    simp only [hheader,Nat.add_sub_cancel_left]
  constructor
  · rintro ⟨r,hr⟩
    obtain ⟨attrs,hattrs,-⟩ := bind_eq_ok.mp hr
    have := (getAttributesRequested_ok_iff hlen).mp ⟨attrs,hattrs⟩
    rw [hbyte,List.length_append,hheader] at this
    omega
  · intro hfit
    obtain ⟨attrs,hattrs⟩ := (getAttributesRequested_ok_iff hlen).mpr (by
      rw [hbyte,List.length_append,hheader]
      omega)
    exact ⟨_,by rw [hattrs]; rfl⟩

/-! ### Built requests -/

/-- A built Get Capabilities request reaches `HandleGetCapabilities`, which
reads the capability that was built. -/
theorem messageReceived_getCapabilitiesRequest (builder : GetCapabilitiesRequestBuilder) :
    messageReceived device builder.serialize=.ok (.capabilities builder.capability) := by
  have hopcode : getOpcode builder.serialize=.ok 0 := by
    rw [GetCapabilitiesRequestBuilder.serialize,List.append_assoc,getOpcode_packet]
    rfl
  have hcType : getCType builder.serialize=.ok 1 := by
    rw [GetCapabilitiesRequestBuilder.serialize,List.append_assoc,getCType_packet]
    rfl
  have hpdu : getCommandPdu builder.serialize=.ok 0x10 := by
    rw [GetCapabilitiesRequestBuilder.serialize]
    exact getCommandPdu_vendor _ _ _ _ _ _ _ _
  rw [messageReceived_of_vendor hopcode rfl,vendorPacketHandler_of_command hcType (by decide) hpdu,if_pos (by decide),
    handleGetCapabilities,GetCapabilitiesRequestBuilder.getCapabilityRequested_serialize]
  rfl

/-- A built Register Notification request passes `IsValid()` and is registered,
or rejected for an event the device does not notify. -/
theorem messageReceived_registerNotificationRequest (builder : RegisterNotificationRequestBuilder) :
    messageReceived device builder.serialize=
      .ok (if builder.event ∈ registrableEvents.map Event.toUInt8 then .notification builder.event
        else .reject 0x31) := by
  have hopcode : getOpcode builder.serialize=.ok 0 := by
    rw [RegisterNotificationRequestBuilder.serialize,List.append_assoc,getOpcode_packet]
    rfl
  have hcType : getCType builder.serialize=.ok 3 := by
    rw [RegisterNotificationRequestBuilder.serialize,List.append_assoc,getCType_packet]
    rfl
  have hpdu : getCommandPdu builder.serialize=.ok 0x31 := by
    rw [RegisterNotificationRequestBuilder.serialize]
    exact getCommandPdu_vendor _ _ _ _ _ _ _ _
  rw [messageReceived_of_vendor hopcode rfl,vendorPacketHandler_of_command hcType (by decide) hpdu,
    if_neg (by decide),if_pos (by decide),handleNotification,RegisterNotificationRequestBuilder.isValid_serialize]
  simp only [Bool.not_true,Bool.false_eq_true,if_false,RegisterNotificationRequestBuilder.getEventRegistered_serialize,
    ok_bind]
  -- the interval is read, for a playback position notification, before the event is looked up
  split
  · rw [RegisterNotificationRequestBuilder.getInterval_serialize,ok_bind]
    split_ifs
    · rfl
    · rw [hpdu]
      rfl
  · split_ifs
    · rfl
    · rw [hpdu]
      rfl

/-- A built Get Folder Items request reaches its listing callback, which reads
the range that was built. -/
theorem browseMessageReceived_getFolderItemsRequest (builder : GetFolderItemsRequestBuilder) :
    browseMessageReceived builder.serialize=
      .ok (if builder.scope=scopeMediaPlayerList || builder.scope=scopeVfs || builder.scope=scopeNowPlaying then
        .folderItems builder.scope builder.startItem builder.endItem else .unknownScope builder.scope) := by
  have hpdu : getPdu builder.serialize=.ok 0x71 := by
    rw [GetFolderItemsRequestBuilder.serialize,getPdu_browse]
    rfl
  rw [browseMessageReceived_of_pdu hpdu,if_neg (by decide),if_pos (by decide),handleGetFolderItems,
    GetFolderItemsRequestBuilder.getScope_serialize,ok_bind]
  split
  · rw [GetFolderItemsRequestBuilder.getStartItem_serialize,ok_bind,GetFolderItemsRequestBuilder.getEndItem_serialize,
      ok_bind]
    rfl
  · rfl

/-- A built Change Path request reaches `HandleChangePath`, which reads the
direction and, to go down, the folder UID that were built. -/
theorem browseMessageReceived_changePathRequest (builder : ChangePathRequestBuilder) :
    browseMessageReceived builder.serialize=
      .ok (.changePath builder.direction (if builder.direction=directionDown then some builder.folderUid else none)) := by
  have hpdu : getPdu builder.serialize=.ok 0x72 := by
    rw [ChangePathRequestBuilder.serialize,getPdu_browse]
    rfl
  rw [browseMessageReceived_of_pdu hpdu,if_neg (by decide),if_neg (by decide),if_pos (by decide),handleChangePath,
    ChangePathRequestBuilder.getDirection_serialize,ok_bind]
  split
  · rw [ChangePathRequestBuilder.getUid_serialize,ok_bind]
    rfl
  · rfl

end Control

/-! ### Truncated requests -/

/-- A Get Folder Items request cut after its PDU byte. -/
def truncatedFolderItemsRequest : List UInt8 := [0x71]

/-- A Get Capabilities command with the SIG company id and a parameter length
of 0: it ends before the capability byte. -/
def truncatedCapabilitiesCommand : List UInt8 :=
  pushPacketHeader cTypeStatus vendorSubunitType 0x00 opcodeVendor++
    pushVendorHeader commandPduGetCapabilities packetTypeSingle 0

/-- A Get Element Attributes command whose count byte asks for one attribute
that is not there; its vendor header is valid. -/
def elementAttributesWithoutAttributes : List UInt8 :=
  pushPacketHeader cTypeStatus vendorSubunitType 0x00 opcodeVendor++
    pushVendorHeader commandPduGetElementAttributes packetTypeSingle 9++(List.replicate 8 0++[1])

/-- Three messages the lower layers deliver reach the CHECK in
`Iterator::operator*`: on the browsing channel a Get Folder Items request of
one byte, in `GetScope`; on the control channel a Get Capabilities command
without its capability byte, in `GetCapabilityRequested`; and a Get Element
Attributes command whose count byte promises an attribute it lacks, in the
`GetSongInfo` callback's `GetAttributesRequested`. -/
theorem inbound_truncated_requests_reach_check :
    browseMessageReceived truncatedFolderItemsRequest=.error .checkFailed ∧
      (∀ device,messageReceived device truncatedCapabilitiesCommand=.error .checkFailed) ∧
      (∀ device,¬∃ r,messageReceived device elementAttributesWithoutAttributes=.ok r) := by
  refine ⟨@browseMessageReceived_of_header truncatedFolderItemsRequest 0x71 rfl (by decide) (by decide),
    fun device => ?_,fun device => ?_⟩
  · have hpdu := getCommandPdu_vendor cTypeStatus vendorSubunitType 0x00 opcodeVendor commandPduGetCapabilities
      packetTypeSingle 0 []
    rw [List.append_nil] at hpdu
    rw [truncatedCapabilitiesCommand,messageReceived_of_vendor (getOpcode_packet _ _ _ _ _) rfl,
      vendorPacketHandler_of_command (getCType_packet _ _ _ _ _) (by decide) hpdu,
      if_pos (by decide),handleGetCapabilities,GetCapabilitiesRequest.getCapabilityRequested,
      byteAt_of_le (by simp [vendorKMinSize,packetKMinSize])]
    rfl
  · rw [elementAttributesWithoutAttributes,messageReceived_getElementAttributes_ok_iff (by decide) (by decide)]
    decide

end BluetoothStack.AvrcpDevice
