import BluetoothStack.AvrcpDevice

/-!
# What `IsValid` guarantees to the AVRCP getters

Each AVRCP packet class has an `IsValid` that a handler may call before it reads the packet through
the class's getters, each of which dereferences an `Iterator` and CHECKs that it is not at the
packet end. On every byte string that `IsValid` accepts, every getter of the class returns, those it
inherits from `Packet`, `VendorPacket` or `BrowsePacket` included: each fixed field lies below the
minimum size that `IsValid` checks, and the count-driven loop of `GetAttributesRequested` stays inside
because `IsValid` compares the count times four with the bytes after the fixed fields. A count of
`0xFF` in a Get Folder Items request skips that comparison, and the loop then reads nothing.

What each class's getters return is stated as a structure of one field per getter.
-/

namespace BluetoothStack.AvrcpValidity

open ByteBuffer StepRun AvrcpPacket AvrcpRequests AvrcpDevice

/-! ### Reads inside the packet -/

section Reads

variable {bytes : List UInt8}

/-- A getter that reads one byte and computes from it returns when the byte is inside. -/
theorem byteAt_bind_ok {β : Type} (f : UInt8 → β) {pos : ℕ} (h : pos<bytes.length) :
    ∃ v,(byteAt bytes pos>>=fun b => pure (f b) : Except Fault β)=.ok v :=
  ⟨f bytes[pos],by rw [byteAt_of_lt h,ok_bind]; rfl⟩

/-- A getter that reads one swapped field and computes from it returns when the field is inside. -/
theorem readSwapped_bind_ok {β : Type} (f : ℕ → β) {pos width : ℕ} (h : pos+width ≤ bytes.length) :
    ∃ v,(readSwapped bytes pos width>>=fun value => pure (f value) : Except Fault β)=.ok v :=
  ⟨_,by rw [readSwapped_of_le h,ok_bind]; rfl⟩

/-- A one-byte `extract` reads the byte under the iterator and moves it one on. -/
theorem extract_one {index : ℕ} (h : index<bytes.length) :
    extract bytes 1 index=.ok (bytes[index].toNat,index+1) := by
  rw [extract_of_le h,List.drop_eq_getElem_cons h,List.take_succ_cons,List.take_zero,decodeLE_cons,
    decodeLE_nil,Nat.mul_zero,Nat.add_zero]

/-- The loop of `PullCompanyId` returns when its bytes are inside. -/
theorem pullCompanyIdLoop_of_le {count index : ℕ} (value : ℕ) (h : index+count ≤ bytes.length) :
    ∃ v,pullCompanyIdLoop bytes count index value=.ok v := by
  induction count generalizing index value with
  | zero => exact ⟨value,rfl⟩
  | succ count ih =>
    have hlt : index<bytes.length := by omega
    rw [pullCompanyIdLoop,deref_of_lt hlt,ok_bind,iterAdd_of_le (by omega)]
    exact ih _ (by omega)

/-- The attribute loop of `GetAttributesRequested` returns when its `count` four-byte ids lie
inside. -/
theorem readAttributesLoop_of_le {count index : ℕ} (h : index+count*attributeSize ≤ bytes.length) :
    ∃ attrs,readAttributesLoop bytes count index=.ok attrs := by
  induction count generalizing index with
  | zero => exact ⟨[],rfl⟩
  | succ count ih =>
    have hfield : index+4 ≤ bytes.length := by
      simp only [attributeSize] at h
      omega
    have hrest : index+4+count*attributeSize ≤ bytes.length := by
      simp only [attributeSize] at h ⊢
      omega
    obtain ⟨attrs,hattrs⟩ := ih hrest
    rw [readAttributesLoop,extract_of_le hfield,ok_bind]
    dsimp only
    rw [hattrs,ok_bind]
    exact ⟨_,rfl⟩

end Reads

/-! ### The shape of `IsValid` -/

section Shape

/-- An `IsValid` that returns `false` has not accepted. -/
theorem pure_false_ne : (pure false : Except Fault Bool)≠.ok true :=
  fun h => Bool.false_ne_true (Except.ok.inj h)

/-- A derived class's `IsValid` starts with its base class's: it holds only when that does and the
rest of its test holds. -/
theorem base_valid {base rest : Except Fault Bool}
    (h : (base>>=fun valid => if !valid then pure false else rest)=.ok true) :
    base=.ok true ∧ rest=.ok true := by
  have ⟨valid,hbase,hrest⟩ := bind_eq_ok.mp h
  cases valid with
  | false =>
    rw [Bool.not_false,if_pos rfl] at hrest
    exact absurd hrest pure_false_ne
  | true => exact ⟨hbase,hrest⟩

/-- A minimum size test inside `IsValid`. -/
theorem size_valid {size minSize : ℕ} {rest : Except Fault Bool}
    (h : (if size < minSize then pure false else rest)=.ok true) : minSize ≤ size ∧ rest=.ok true := by
  by_cases hlt : size < minSize
  · rw [if_pos hlt] at h
    exact absurd h pure_false_ne
  · rw [if_neg hlt] at h
    exact ⟨by omega,h⟩

/-- The last test of `IsValid`, returned as a `bool`. -/
theorem decide_valid {p : Prop} [Decidable p] (h : (pure (decide p) : Except Fault Bool)=.ok true) : p :=
  of_decide_eq_true (Except.ok.inj h)

theorem vendorIsValid_length {bytes : List UInt8} (h : vendorIsValid bytes=.ok true) :
    vendorKMinSize ≤ bytes.length := by
  unfold vendorIsValid at h
  by_cases hlt : bytes.length<vendorKMinSize
  · rw [if_pos hlt] at h
    exact absurd h pure_false_ne
  · omega

theorem browseIsValid_length {bytes : List UInt8} (h : browseIsValid bytes=.ok true) :
    browseKMinSize ≤ bytes.length := by
  unfold browseIsValid at h
  by_cases hlt : bytes.length<browseKMinSize
  · rw [if_pos hlt] at h
    exact absurd h pure_false_ne
  · omega

end Shape

/-! ### Base classes -/

/-- Every getter of `Packet` returns. -/
structure PacketGetters (bytes : List UInt8) : Prop where
  cType : ∃ cType,getCType bytes=.ok cType
  subunitType : ∃ subunitType,getSubunitType bytes=.ok subunitType
  subunitId : ∃ subunitId,getSubunitId bytes=.ok subunitId
  opcode : ∃ opcode,getOpcode bytes=.ok opcode

/-- Every getter of `VendorPacket` returns, those of `Packet` included. -/
structure VendorGetters (bytes : List UInt8) : Prop extends PacketGetters bytes where
  companyId : ∃ companyId,getCompanyId bytes=.ok companyId
  commandPdu : ∃ pdu,getCommandPdu bytes=.ok pdu
  packetType : ∃ packetType,getPacketType bytes=.ok packetType
  parameterLength : ∃ parameterLength,getParameterLength bytes=.ok parameterLength

/-- Every getter of `BrowsePacket` returns. -/
structure BrowseGetters (bytes : List UInt8) : Prop where
  pdu : ∃ pdu,getPdu bytes=.ok pdu
  length : ∃ length,getLength bytes=.ok length

section Base

variable {bytes : List UInt8}

theorem packetGetters_of_le (h : packetKMinSize ≤ bytes.length) : PacketGetters bytes where
  cType := byteAt_bind_ok _ (by simp only [packetKMinSize] at h; omega)
  subunitType := byteAt_bind_ok _ (by simp only [packetKMinSize] at h; omega)
  subunitId := byteAt_bind_ok _ (by simp only [packetKMinSize] at h; omega)
  opcode := ⟨_,byteAt_of_lt (by simp only [packetKMinSize] at h; omega)⟩

theorem vendorGetters_of_le (h : vendorKMinSize ≤ bytes.length) : VendorGetters bytes where
  toPacketGetters := packetGetters_of_le (by simp only [vendorKMinSize] at h; omega)
  companyId := pullCompanyIdLoop_of_le _ (by simp only [iterAdd,vendorKMinSize,packetKMinSize] at h ⊢; omega)
  commandPdu := ⟨_,byteAt_of_lt (by simp only [vendorKMinSize,packetKMinSize] at h ⊢; omega)⟩
  packetType := ⟨_,byteAt_of_lt (by simp only [vendorKMinSize,packetKMinSize] at h ⊢; omega)⟩
  parameterLength := ⟨_,readSwapped_of_le (by simp only [vendorKMinSize,packetKMinSize] at h ⊢; omega)⟩

theorem browseGetters_of_le (h : browseKMinSize ≤ bytes.length) : BrowseGetters bytes where
  pdu := ⟨_,byteAt_of_lt (by simp only [browseKMinSize] at h; omega)⟩
  length := ⟨_,readSwapped_of_le (by simp only [browseKMinSize] at h; omega)⟩

/-- `VendorPacket::IsValid` guards every getter of `VendorPacket`. -/
theorem vendorGetters_of_isValid (h : vendorIsValid bytes=.ok true) : VendorGetters bytes :=
  vendorGetters_of_le (vendorIsValid_length h)

/-- `BrowsePacket::IsValid` guards every getter of `BrowsePacket`. -/
theorem browseGetters_of_isValid (h : browseIsValid bytes=.ok true) : BrowseGetters bytes :=
  browseGetters_of_le (browseIsValid_length h)

end Base

/-! ### Fixed-size packets

These classes' `IsValid` fixes the packet size, which covers every field. -/

/-- Every getter of `PassThroughPacket` returns, those of `Packet` included. -/
structure PassThroughGetters (bytes : List UInt8) : Prop extends PacketGetters bytes where
  keyState : ∃ keyState,PassThroughPacket.getKeyState bytes=.ok keyState
  operationId : ∃ operationId,PassThroughPacket.getOperationId bytes=.ok operationId

/-- Every getter of `ChangePathRequest` returns, those of `BrowsePacket` included. -/
structure ChangePathGetters (bytes : List UInt8) : Prop extends BrowseGetters bytes where
  uidCounter : ∃ uidCounter,ChangePathRequest.getUidCounter bytes=.ok uidCounter
  direction : ∃ direction,ChangePathRequest.getDirection bytes=.ok direction
  uid : ∃ uid,ChangePathRequest.getUid bytes=.ok uid

/-- Every getter of `PlayItemRequest` returns, those of `VendorPacket` included. -/
structure PlayItemGetters (bytes : List UInt8) : Prop extends VendorGetters bytes where
  scope : ∃ scope,PlayItemRequest.getScope bytes=.ok scope
  uid : ∃ uid,PlayItemRequest.getUid bytes=.ok uid
  uidCounter : ∃ uidCounter,PlayItemRequest.getUidCounter bytes=.ok uidCounter

/-- Every getter of `SetBrowsedPlayerRequest` returns, those of `BrowsePacket` included. -/
structure SetBrowsedPlayerGetters (bytes : List UInt8) : Prop extends BrowseGetters bytes where
  playerId : ∃ playerId,SetBrowsedPlayerRequest.getPlayerId bytes=.ok playerId

/-- Every getter of `GetCapabilitiesRequest` returns, those of `VendorPacket` included. -/
structure GetCapabilitiesGetters (bytes : List UInt8) : Prop extends VendorGetters bytes where
  capabilityRequested : ∃ capability,GetCapabilitiesRequest.getCapabilityRequested bytes=.ok capability

/-- Every getter of `RegisterNotificationRequest` returns, those of `VendorPacket` included. -/
structure RegisterNotificationRequestGetters (bytes : List UInt8) : Prop extends VendorGetters bytes where
  eventRegistered : ∃ event,RegisterNotificationRequest.getEventRegistered bytes=.ok event
  interval : ∃ interval,RegisterNotificationRequest.getInterval bytes=.ok interval

section Fixed

variable {bytes : List UInt8}

theorem passThroughGetters_of_isValid (h : PassThroughPacket.isValid bytes=true) :
    PassThroughGetters bytes := by
  have hlen : bytes.length=5 := of_decide_eq_true h
  exact {
    toPacketGetters := packetGetters_of_le (by simp only [packetKMinSize]; omega)
    keyState := byteAt_bind_ok _ (by simp only [packetKMinSize]; omega)
    operationId := byteAt_bind_ok _ (by simp only [packetKMinSize]; omega) }

theorem changePathGetters_of_isValid (h : ChangePathRequest.isValid bytes=.ok true) :
    ChangePathGetters bytes := by
  have ⟨hbrowse,hsize⟩ := base_valid h
  have hlen : bytes.length=changePathRequestKMinSize := decide_valid hsize
  simp only [changePathRequestKMinSize,browseKMinSize] at hlen
  exact {
    toBrowseGetters := browseGetters_of_isValid hbrowse
    uidCounter := readSwapped_bind_ok _ (by simp only [browseKMinSize]; omega)
    direction := ⟨_,byteAt_of_lt (by simp only [browseKMinSize]; omega)⟩
    uid := readSwapped_bind_ok _ (by simp only [browseKMinSize]; omega) }

theorem playItemGetters_of_isValid (h : PlayItemRequest.isValid bytes=.ok true) :
    PlayItemGetters bytes := by
  have ⟨hvendor,hsize⟩ := base_valid h
  have hlen : bytes.length=playItemRequestKMinSize := decide_valid hsize
  simp only [playItemRequestKMinSize,vendorKMinSize,packetKMinSize] at hlen
  exact {
    toVendorGetters := vendorGetters_of_isValid hvendor
    scope := ⟨_,byteAt_of_lt (by simp only [vendorKMinSize,packetKMinSize]; omega)⟩
    uid := readSwapped_bind_ok _ (by simp only [vendorKMinSize,packetKMinSize]; omega)
    uidCounter := readSwapped_bind_ok _ (by simp only [vendorKMinSize,packetKMinSize]; omega) }

theorem setBrowsedPlayerGetters_of_isValid (h : SetBrowsedPlayerRequest.isValid bytes=.ok true) :
    SetBrowsedPlayerGetters bytes := by
  have ⟨hbrowse,hsize⟩ := base_valid h
  have hlen : bytes.length=setBrowsedPlayerRequestKMinSize := decide_valid hsize
  simp only [setBrowsedPlayerRequestKMinSize,browseKMinSize] at hlen
  exact {
    toBrowseGetters := browseGetters_of_isValid hbrowse
    playerId := readSwapped_bind_ok _ (by simp only [browseKMinSize]; omega) }

theorem getCapabilitiesGetters_of_isValid (h : GetCapabilitiesRequest.isValid bytes=.ok true) :
    GetCapabilitiesGetters bytes := by
  have ⟨hvendor,hsize⟩ := base_valid h
  have hlen : bytes.length=vendorKMinSize+1 := decide_valid hsize
  exact {
    toVendorGetters := vendorGetters_of_isValid hvendor
    capabilityRequested := ⟨_,byteAt_of_lt (by omega)⟩ }

/-- `RegisterNotificationRequest::IsValid` tests the size alone, not `VendorPacket::IsValid`; the
fixed size still covers the vendor header. -/
theorem registerNotificationRequestGetters_of_isValid (h : RegisterNotificationRequest.isValid bytes=true) :
    RegisterNotificationRequestGetters bytes := by
  have hlen : bytes.length=registerNotificationRequestKMinSize := of_decide_eq_true h
  simp only [registerNotificationRequestKMinSize,vendorKMinSize,packetKMinSize] at hlen
  exact {
    toVendorGetters := vendorGetters_of_le (by simp only [vendorKMinSize,packetKMinSize]; omega)
    eventRegistered := ⟨_,byteAt_of_lt (by simp only [vendorKMinSize,packetKMinSize]; omega)⟩
    interval := readSwapped_bind_ok _ (by simp only [vendorKMinSize,packetKMinSize]; omega) }

end Fixed

/-! ### Packets with a count

The attribute list of a Get Element Attributes, Get Folder Items or Get Item Attributes request is as
long as its count byte says, and `IsValid` compares the count times four with the bytes after it. -/

/-- Every getter of `GetElementAttributesRequest` returns, those of `VendorPacket` included. -/
structure GetElementAttributesGetters (bytes : List UInt8) : Prop extends VendorGetters bytes where
  identifier : ∃ identifier,GetElementAttributesRequest.getIdentifier bytes=.ok identifier
  numAttributes : ∃ count,GetElementAttributesRequest.getNumAttributes bytes=.ok count
  attributesRequested : ∃ attrs,GetElementAttributesRequest.getAttributesRequested bytes=.ok attrs

/-- Every getter of `GetFolderItemsRequest` returns, those of `BrowsePacket` included. -/
structure GetFolderItemsGetters (bytes : List UInt8) : Prop extends BrowseGetters bytes where
  scope : ∃ scope,GetFolderItemsRequest.getScope bytes=.ok scope
  startItem : ∃ startItem,GetFolderItemsRequest.getStartItem bytes=.ok startItem
  endItem : ∃ endItem,GetFolderItemsRequest.getEndItem bytes=.ok endItem
  numAttributes : ∃ count,GetFolderItemsRequest.getNumAttributes bytes=.ok count
  attributesRequested : ∃ attrs,GetFolderItemsRequest.getAttributesRequested bytes=.ok attrs

/-- Every getter of `GetItemAttributesRequest` returns, those of `BrowsePacket` included. -/
structure GetItemAttributesGetters (bytes : List UInt8) : Prop extends BrowseGetters bytes where
  scope : ∃ scope,GetItemAttributesRequest.getScope bytes=.ok scope
  uid : ∃ uid,GetItemAttributesRequest.getUid bytes=.ok uid
  uidCounter : ∃ uidCounter,GetItemAttributesRequest.getUidCounter bytes=.ok uidCounter
  numAttributes : ∃ count,GetItemAttributesRequest.getNumAttributes bytes=.ok count
  attributesRequested : ∃ attrs,GetItemAttributesRequest.getAttributesRequested bytes=.ok attrs

section Counted

variable {bytes : List UInt8}

theorem getElementAttributesGetters_of_isValid (h : GetElementAttributesRequest.isValid bytes=.ok true) :
    GetElementAttributesGetters bytes := by
  have ⟨hvendor,hrest⟩ := base_valid h
  have ⟨hmin,hcount⟩ := size_valid hrest
  simp only [getElementAttributesRequestKMinSize,vendorKMinSize,packetKMinSize] at hmin
  -- the count byte, which `GetNumAttributes` and `GetAttributesRequested` both extract
  have hcountAt : extract bytes 1 (iterAdd bytes 0 (vendorKMinSize+8))=.ok (bytes[18].toNat,19) := by
    simp only [vendorKMinSize,packetKMinSize]
    rw [iterAdd_of_le (by omega)]
    exact extract_one (by omega)
  have hnum : GetElementAttributesRequest.getNumAttributes bytes=.ok bytes[18] := by
    rw [GetElementAttributesRequest.getNumAttributes,hcountAt,ok_bind]
    dsimp only
    rw [UInt8.ofNat_toNat]
    rfl
  rw [hnum,ok_bind] at hcount
  have hfill : bytes[18].toNat*attributeSize=bytes.length-(vendorKMinSize+9) := decide_valid hcount
  simp only [vendorKMinSize,packetKMinSize] at hfill
  have hidentifier : extract bytes 8 (iterAdd bytes 0 vendorKMinSize)=
      .ok (decodeLE ((bytes.drop 10).take 8),18) := by
    rw [iterAdd_of_le (by simp only [vendorKMinSize,packetKMinSize]; omega)]
    exact extract_of_le (by simp only [vendorKMinSize,packetKMinSize]; omega)
  refine {
    toVendorGetters := vendorGetters_of_isValid hvendor
    identifier := ?_
    numAttributes := ⟨_,hnum⟩
    attributesRequested := ?_ }
  · rw [GetElementAttributesRequest.getIdentifier,hidentifier,ok_bind]
    exact ⟨_,rfl⟩
  · rw [GetElementAttributesRequest.getAttributesRequested,hcountAt,ok_bind]
    exact readAttributesLoop_of_le (by omega)

/-- The count `0xFF` of a Get Folder Items request skips the size comparison of `IsValid`, and
`GetAttributesRequested` then returns no attribute. -/
theorem getFolderItemsGetters_of_isValid (h : GetFolderItemsRequest.isValid bytes=.ok true) :
    GetFolderItemsGetters bytes := by
  have ⟨hbrowse,hrest⟩ := base_valid h
  have ⟨hmin,hcount⟩ := size_valid hrest
  simp only [getFolderItemsRequestKMinSize,browseKMinSize] at hmin
  have hnum : GetFolderItemsRequest.getNumAttributes bytes=.ok bytes[12] :=
    byteAt_of_lt (by simp only [browseKMinSize]; omega)
  rw [hnum,ok_bind] at hcount
  have hfill : bytes[12]=0xFF ∨ bytes[12].toNat*attributeSize=bytes.length-getFolderItemsRequestKMinSize := by
    have hor := Except.ok.inj hcount
    simpa only [Bool.or_eq_true,decide_eq_true_eq] using hor
  simp only [getFolderItemsRequestKMinSize,browseKMinSize] at hfill
  have hcountAt : extract bytes 1 (iterAdd bytes 0 (browseKMinSize+9))=.ok (bytes[12].toNat,13) := by
    simp only [browseKMinSize]
    rw [iterAdd_of_le (by omega)]
    exact extract_one (by omega)
  refine {
    toBrowseGetters := browseGetters_of_isValid hbrowse
    scope := ⟨_,byteAt_of_lt (by simp only [browseKMinSize]; omega)⟩
    startItem := readSwapped_bind_ok _ (by simp only [browseKMinSize]; omega)
    endItem := readSwapped_bind_ok _ (by simp only [browseKMinSize]; omega)
    numAttributes := ⟨_,hnum⟩
    attributesRequested := ?_ }
  rw [GetFolderItemsRequest.getAttributesRequested,hcountAt,ok_bind]
  dsimp only
  by_cases hff : bytes[12].toNat=0xFF
  · rw [if_pos hff]
    exact ⟨[],rfl⟩
  · -- a count other than `0xFF` was compared with the packet size
    have hne : bytes[12]≠0xFF := fun heq => hff (by rw [heq]; rfl)
    rw [if_neg hff]
    exact readAttributesLoop_of_le (by have := hfill.resolve_left hne; omega)

theorem getItemAttributesGetters_of_isValid (h : GetItemAttributesRequest.isValid bytes=.ok true) :
    GetItemAttributesGetters bytes := by
  have ⟨hbrowse,hrest⟩ := base_valid h
  have ⟨hmin,hcount⟩ := size_valid hrest
  simp only [getItemAttributesRequestKMinSize,browseKMinSize] at hmin
  have hnum : GetItemAttributesRequest.getNumAttributes bytes=.ok bytes[14] :=
    byteAt_of_lt (by simp only [browseKMinSize]; omega)
  rw [hnum,ok_bind] at hcount
  have hfill : bytes[14].toNat*attributeSize=bytes.length-getItemAttributesRequestKMinSize :=
    decide_valid hcount
  simp only [getItemAttributesRequestKMinSize,browseKMinSize] at hfill
  have hcountAt : extract bytes 1 (iterAdd bytes 0 (browseKMinSize+11))=.ok (bytes[14].toNat,15) := by
    simp only [browseKMinSize]
    rw [iterAdd_of_le (by omega)]
    exact extract_one (by omega)
  refine {
    toBrowseGetters := browseGetters_of_isValid hbrowse
    scope := ⟨_,byteAt_of_lt (by simp only [browseKMinSize]; omega)⟩
    uid := readSwapped_bind_ok _ (by simp only [browseKMinSize]; omega)
    uidCounter := readSwapped_bind_ok _ (by simp only [browseKMinSize]; omega)
    numAttributes := ⟨_,hnum⟩
    attributesRequested := ?_ }
  rw [GetItemAttributesRequest.getAttributesRequested,hcountAt,ok_bind]
  exact readAttributesLoop_of_le (by omega)

end Counted

/-! ### Register Notification response -/

/-- Every getter of `RegisterNotificationResponse` returns, those of `VendorPacket` included. -/
structure RegisterNotificationResponseGetters (bytes : List UInt8) : Prop extends VendorGetters bytes where
  interim : ∃ interim,RegisterNotificationResponse.isInterim bytes=.ok interim
  event : ∃ event,RegisterNotificationResponse.getEvent bytes=.ok event
  volume : ∃ volume,RegisterNotificationResponse.getVolume bytes=.ok volume

/-- `IsValid` accepts only a volume change, so the CHECK of `GetVolume` on the event passes. -/
theorem registerNotificationResponseGetters_of_isValid {bytes : List UInt8}
    (h : RegisterNotificationResponse.isValid bytes=.ok true) : RegisterNotificationResponseGetters bytes := by
  obtain ⟨hvendor,hrest⟩ := base_valid h
  obtain ⟨hmin,hcType⟩ := size_valid hrest
  simp only [registerNotificationResponseKMinSize,vendorKMinSize,packetKMinSize] at hmin
  have hpacket := (vendorGetters_of_isValid hvendor).toPacketGetters
  obtain ⟨cType,hc⟩ := hpacket.cType
  have hevent : RegisterNotificationResponse.getEvent bytes=.ok bytes[10] :=
    byteAt_of_lt (by simp only [vendorKMinSize,packetKMinSize]; omega)
  -- past the ctype test, the event must be a volume change with its one byte
  have hvolume : bytes[10]=Event.volumeChanged.toUInt8 ∧ bytes.length=12 := by
    rw [hc,ok_bind] at hcType
    by_cases hresp : cType≠cTypeInterim ∧ cType≠cTypeChanged
    · rw [if_pos hresp] at hcType
      exact absurd hcType pure_false_ne
    · rw [if_neg hresp,hevent,ok_bind] at hcType
      by_cases hvol : bytes[10]=Event.volumeChanged.toUInt8
      · rw [if_pos hvol] at hcType
        exact ⟨hvol,decide_valid hcType⟩
      · rw [if_neg hvol] at hcType
        exact absurd hcType pure_false_ne
  refine {
    toVendorGetters := vendorGetters_of_isValid hvendor
    interim := ?_
    event := ⟨_,hevent⟩
    volume := ?_ }
  · rw [RegisterNotificationResponse.isInterim,hc,ok_bind]
    exact ⟨_,rfl⟩
  · rw [RegisterNotificationResponse.getVolume,hevent,ok_bind,if_neg (not_ne_iff.mpr hvolume.1)]
    exact ⟨_,byteAt_of_lt (by simp only [vendorKMinSize,packetKMinSize]; omega)⟩

/-! ### Every class -/

/-- For each AVRCP packet class, on every byte string its `IsValid` accepts, every getter of the
class returns: none of their reads reaches the packet end. -/
theorem avrcp_is_valid_guards_every_getter :
    (∀ bytes,vendorIsValid bytes=.ok true → VendorGetters bytes) ∧
    (∀ bytes,GetElementAttributesRequest.isValid bytes=.ok true → GetElementAttributesGetters bytes) ∧
    (∀ bytes,GetFolderItemsRequest.isValid bytes=.ok true → GetFolderItemsGetters bytes) ∧
    (∀ bytes,GetItemAttributesRequest.isValid bytes=.ok true → GetItemAttributesGetters bytes) ∧
    (∀ bytes,ChangePathRequest.isValid bytes=.ok true → ChangePathGetters bytes) ∧
    (∀ bytes,PlayItemRequest.isValid bytes=.ok true → PlayItemGetters bytes) ∧
    (∀ bytes,SetBrowsedPlayerRequest.isValid bytes=.ok true → SetBrowsedPlayerGetters bytes) ∧
    (∀ bytes,GetCapabilitiesRequest.isValid bytes=.ok true → GetCapabilitiesGetters bytes) ∧
    (∀ bytes,RegisterNotificationRequest.isValid bytes=true → RegisterNotificationRequestGetters bytes) ∧
    (∀ bytes,RegisterNotificationResponse.isValid bytes=.ok true →
      RegisterNotificationResponseGetters bytes) ∧
    (∀ bytes,PassThroughPacket.isValid bytes=true → PassThroughGetters bytes) ∧
    (∀ bytes,browseIsValid bytes=.ok true → BrowseGetters bytes) :=
  ⟨fun _ => vendorGetters_of_isValid,fun _ => getElementAttributesGetters_of_isValid,
    fun _ => getFolderItemsGetters_of_isValid,fun _ => getItemAttributesGetters_of_isValid,
    fun _ => changePathGetters_of_isValid,fun _ => playItemGetters_of_isValid,
    fun _ => setBrowsedPlayerGetters_of_isValid,fun _ => getCapabilitiesGetters_of_isValid,
    fun _ => registerNotificationRequestGetters_of_isValid,
    fun _ => registerNotificationResponseGetters_of_isValid,fun _ => passThroughGetters_of_isValid,
    fun _ => browseGetters_of_isValid⟩

/-- A Get Folder Items request with the count `0xFF` and four bytes after it: `IsValid` accepts it,
and `GetAttributesRequested` reads none of them. -/
example : GetFolderItemsRequest.isValid [0x71,0,14,0,0,0,0,0,0,0,0,9,0xFF,1,2,3,4]=.ok true ∧
    GetFolderItemsRequest.getAttributesRequested [0x71,0,14,0,0,0,0,0,0,0,0,9,0xFF,1,2,3,4]=.ok [] := by
  decide

end BluetoothStack.AvrcpValidity
