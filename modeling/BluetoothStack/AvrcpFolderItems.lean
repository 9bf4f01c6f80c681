import BluetoothStack.AvrcpPacket

/-!
# The Get Folder Items response (packet/avrcp/get_folder_items.cc,
include/hardware/avrcp/avrcp_common.h)

The builder collects media players, folders or songs while they fit the
browsing MTU. `size()` counts the browsing header and the status byte, and the
UID counter and item count only once an item is in the list; the admission test
`size() + item.size() > mtu_` therefore misses those four bytes for the first
item. Every later call sees them, so the response exceeds the MTU by at most
four bytes. `Serialize` writes exactly `size()` bytes, with the length and item
count fields as `uint16_t`s.
-/

namespace BluetoothStack.AvrcpFolderItems

open ByteBuffer StepRun AvrcpPacket

/-- `MAX_FIELD_LEN`: names and attribute entries are cut to this many bytes. -/
def maxFieldLen : ℕ := 100

/-- `Status::NO_ERROR`. -/
def statusNoError : UInt8 := 0x04

/-- `Status::RANGE_OUT_OF_BOUNDS`. -/
def statusRangeOutOfBounds : UInt8 := 0x0b

/-- `Scope::MEDIA_PLAYER_LIST`. -/
def scopeMediaPlayerList : UInt8 := 0x00

/-- `Scope::VFS`. -/
def scopeVfs : UInt8 := 0x01

/-- `Scope::NOW_PLAYING`. -/
def scopeNowPlaying : UInt8 := 0x03

/-- `BrowsePdu::GET_FOLDER_ITEMS`. -/
def browsePduGetFolderItems : ℕ := 0x71

/-- `AttributeEntry`: an attribute id and its value. -/
structure AttributeEntry where
  /-- `attribute_`. -/
  attr : UInt32
  /-- `value_`. -/
  value : List UInt8
  deriving DecidableEq,Repr

/-- `AttributeEntry::kHeaderSize`: id, character set and length. -/
def AttributeEntry.kHeaderSize : ℕ := 8

/-- `AttributeEntry::size`. -/
def AttributeEntry.size (entry : AttributeEntry) : ℕ := AttributeEntry.kHeaderSize+entry.value.length

/-- `AttributeEntry::resize`: cut the value so that the entry takes at most `newSize` bytes. -/
def AttributeEntry.resize (entry : AttributeEntry) (newSize : ℕ) : AttributeEntry :=
  let newSize := if newSize<AttributeEntry.kHeaderSize then 0 else newSize-AttributeEntry.kHeaderSize
  if newSize<entry.value.length then {entry with value := entry.value.take newSize} else entry

/-- A resized entry keeps its attribute. -/
@[simp] theorem AttributeEntry.resize_attr (entry : AttributeEntry) (newSize : ℕ) :
    (entry.resize newSize).attr=entry.attr := by
  simp only [AttributeEntry.resize]
  split_ifs <;> rfl

/-- `MediaPlayerItem`, its name cut to `MAX_FIELD_LEN` by the constructor. -/
structure MediaPlayerItem where
  /-- `id_`. -/
  id : UInt16
  /-- `name_`. -/
  name : List UInt8
  /-- `browsable_`. -/
  browsable : Bool
  name_le : name.length ≤ maxFieldLen

/-- The `MediaPlayerItem` constructor. -/
def MediaPlayerItem.make (id : UInt16) (name : List UInt8) (browsable : Bool) : MediaPlayerItem :=
  ⟨id,name.take maxFieldLen,browsable,List.length_take_le _ _⟩

/-- `MediaPlayerItem::kHeaderSize`. -/
def MediaPlayerItem.kHeaderSize : ℕ := 1+2+2+1+4+1+16+2+2

/-- `MediaPlayerItem::size`. -/
def MediaPlayerItem.size (item : MediaPlayerItem) : ℕ := MediaPlayerItem.kHeaderSize+item.name.length

/-- `FolderItem`, its name cut to `MAX_FIELD_LEN` by the constructor. -/
structure FolderItem where
  /-- `uid_`. -/
  uid : UInt64
  /-- `folder_type_`. -/
  folderType : UInt8
  /-- `is_playable_`. -/
  isPlayable : Bool
  /-- `name_`. -/
  name : List UInt8
  name_le : name.length ≤ maxFieldLen

/-- The `FolderItem` constructor. -/
def FolderItem.make (uid : UInt64) (folderType : UInt8) (isPlayable : Bool) (name : List UInt8) :
    FolderItem :=
  ⟨uid,folderType,isPlayable,name.take maxFieldLen,List.length_take_le _ _⟩

/-- `FolderItem::kHeaderSize`. -/
def FolderItem.kHeaderSize : ℕ := 1+2+8+1+1+2+2

/-- `FolderItem::size`. -/
def FolderItem.size (item : FolderItem) : ℕ := FolderItem.kHeaderSize+item.name.length

/-- `MediaElementItem`: its name cut to `MAX_FIELD_LEN`, and its attributes, a
`std::set` ordered by attribute id, each resized to `MAX_FIELD_LEN`. -/
structure MediaElementItem where
  /-- `uid_`. -/
  uid : UInt64
  /-- `name_`. -/
  name : List UInt8
  /-- `attributes_` in set order. -/
  attributes : List AttributeEntry
  name_le : name.length ≤ maxFieldLen
  attributes_sorted : attributes.Pairwise fun a b => a.attr<b.attr

/-- The `MediaElementItem` constructor, from a set of attributes. -/
def MediaElementItem.make (uid : UInt64) (name : List UInt8) (attributes : List AttributeEntry)
    (sorted : attributes.Pairwise fun a b => a.attr<b.attr) : MediaElementItem :=
  ⟨uid,name.take maxFieldLen,attributes.map (·.resize maxFieldLen),List.length_take_le _ _,
    List.pairwise_map.mpr (by simpa using sorted)⟩

/-- `MediaElementItem::size`. -/
def MediaElementItem.size (item : MediaElementItem) : ℕ :=
  1+2+8+1+2+2+item.name.length+1+(item.attributes.map AttributeEntry.size).sum

/-- `MediaListItem`, the tagged union the builder stores. -/
inductive MediaListItem
  | player (item : MediaPlayerItem)
  | folder (item : FolderItem)
  | song (item : MediaElementItem)

/-- `MediaListItem::size`. -/
def MediaListItem.size : MediaListItem → ℕ
  | .player item => item.size
  | .folder item => item.size
  | .song item => item.size

/-- The fields of `GetFolderItemsResponseBuilder`. -/
structure GetFolderItemsResponseBuilder where
  /-- `scope_`. -/
  scope : UInt8
  /-- `status_`. -/
  status : UInt8
  /-- `uid_counter_`. -/
  uidCounter : UInt16
  /-- `mtu_`. -/
  mtu : ℕ
  /-- `items_`, in the order they were added. -/
  items : List MediaListItem

/-- `MakePlayerListBuilder`. -/
def makePlayerListBuilder (status : UInt8) (uidCounter : UInt16) (mtu : ℕ) : GetFolderItemsResponseBuilder :=
  ⟨scopeMediaPlayerList,status,uidCounter,mtu,[]⟩

/-- `MakeVFSBuilder`. -/
def makeVfsBuilder (status : UInt8) (uidCounter : UInt16) (mtu : ℕ) : GetFolderItemsResponseBuilder :=
  ⟨scopeVfs,status,uidCounter,mtu,[]⟩

/-- `MakeNowPlayingBuilder`. -/
def makeNowPlayingBuilder (status : UInt8) (uidCounter : UInt16) (mtu : ℕ) : GetFolderItemsResponseBuilder :=
  ⟨scopeNowPlaying,status,uidCounter,mtu,[]⟩

namespace GetFolderItemsResponseBuilder

/-- `GetFolderItemsResponseBuilder::size`. -/
def size (builder : GetFolderItemsResponseBuilder) : ℕ :=
  let len := browseKMinSize+1
  if builder.status≠statusNoError || builder.items.isEmpty then len
  else len+2+2+(builder.items.map MediaListItem.size).sum

/-- The body shared by `AddMediaPlayer`, `AddSong` and `AddFolder`: the CHECK
on the scope, then the MTU test. -/
def addItem (scopeAllowed : Bool) (builder : GetFolderItemsResponseBuilder) (item : MediaListItem) :
    Except Fault (GetFolderItemsResponseBuilder×Bool) :=
  if !scopeAllowed then .error .checkFailed
  else if builder.mtu<builder.size+item.size then .ok (builder,false)
  else .ok ({builder with items := builder.items++[item]},true)

/-- `GetFolderItemsResponseBuilder::AddMediaPlayer`. -/
def addMediaPlayer (builder : GetFolderItemsResponseBuilder) (item : MediaPlayerItem) :
    Except Fault (GetFolderItemsResponseBuilder×Bool) :=
  addItem (builder.scope=scopeMediaPlayerList) builder (.player item)

/-- `GetFolderItemsResponseBuilder::AddSong`. -/
def addSong (builder : GetFolderItemsResponseBuilder) (item : MediaElementItem) :
    Except Fault (GetFolderItemsResponseBuilder×Bool) :=
  addItem (builder.scope=scopeVfs || builder.scope=scopeNowPlaying) builder (.song item)

/-- `GetFolderItemsResponseBuilder::AddFolder`. -/
def addFolder (builder : GetFolderItemsResponseBuilder) (item : FolderItem) :
    Except Fault (GetFolderItemsResponseBuilder×Bool) :=
  addItem (builder.scope=scopeVfs) builder (.folder item)

end GetFolderItemsResponseBuilder

/-- `PushMediaPlayerItem`. -/
def pushMediaPlayerItem (item : MediaPlayerItem) : List UInt8 :=
  addPayloadOctets 1 0x01++addPayloadOctets 2 (byteSwap 2 (item.size-3))++
    addPayloadOctets 2 (byteSwap 2 item.id.toNat)++addPayloadOctets 1 0x01++addPayloadOctets 4 0x00000000++
    addPayloadOctets 1 0x02++
    -- the sixteen feature bytes
    [0x00,0x00,0x00,0x00,0x00,0xb7,0x01]++(if item.browsable then [0x0C,0x0a] else [0x04,0x00])++
    [0x00,0x00,0x00,0x00,0x00,0x00,0x00]++
    addPayloadOctets 2 (byteSwap 2 0x006a)++addPayloadOctets 2 (byteSwap 2 item.name.length)++item.name

/-- `PushFolderItem`. -/
def pushFolderItem (item : FolderItem) : List UInt8 :=
  addPayloadOctets 1 0x02++addPayloadOctets 2 (byteSwap 2 (item.size-3))++
    addPayloadOctets 8 (byteSwap 8 item.uid.toNat)++addPayloadOctets 1 item.folderType.toNat++
    addPayloadOctets 1 (if item.isPlayable then 0x01 else 0x00)++addPayloadOctets 2 (byteSwap 2 0x006a)++
    addPayloadOctets 2 (byteSwap 2 item.name.length)++item.name

/-- One attribute of `PushMediaElementItem`. -/
def pushElementAttribute (entry : AttributeEntry) : List UInt8 :=
  addPayloadOctets 4 (byteSwap 4 entry.attr.toNat)++addPayloadOctets 2 (byteSwap 2 0x006a)++
    addPayloadOctets 2 (byteSwap 2 entry.value.length)++entry.value

/-- `PushMediaElementItem`; the attribute count is a `uint8_t`. -/
def pushMediaElementItem (item : MediaElementItem) : List UInt8 :=
  addPayloadOctets 1 0x03++addPayloadOctets 2 (byteSwap 2 (item.size-3))++
    addPayloadOctets 8 (byteSwap 8 item.uid.toNat)++addPayloadOctets 1 0x00++
    addPayloadOctets 2 (byteSwap 2 0x006a)++addPayloadOctets 2 (byteSwap 2 item.name.length)++item.name++
    addPayloadOctets 1 item.attributes.length++item.attributes.flatMap pushElementAttribute

/-- `PushMediaListItem`. -/
def pushMediaListItem : MediaListItem → List UInt8
  | .player item => pushMediaPlayerItem item
  | .folder item => pushFolderItem item
  | .song item => pushMediaElementItem item

namespace GetFolderItemsResponseBuilder

/-- `GetFolderItemsResponseBuilder::Serialize`: the bytes it appends. A
`NO_ERROR` response with no items goes out as `RANGE_OUT_OF_BOUNDS`. -/
def serialize (builder : GetFolderItemsResponseBuilder) : List UInt8 :=
  let status := if builder.status=statusNoError && builder.items.isEmpty then statusRangeOutOfBounds
    else builder.status
  pushBrowseHeader browsePduGetFolderItems (builder.size-browseKMinSize)++addPayloadOctets 1 status.toNat++
    if status≠statusNoError then []
    else addPayloadOctets 2 (byteSwap 2 builder.uidCounter.toNat)++
      addPayloadOctets 2 (byteSwap 2 builder.items.length)++builder.items.flatMap pushMediaListItem

end GetFolderItemsResponseBuilder

/-! ### Sizes and bytes -/

@[simp] theorem length_pushElementAttribute (entry : AttributeEntry) :
    (pushElementAttribute entry).length=entry.size := by
  simp [pushElementAttribute,AttributeEntry.size,AttributeEntry.kHeaderSize]
  omega

/-- Each item pushes exactly the bytes its `size()` counts. -/
@[simp] theorem length_pushMediaListItem (item : MediaListItem) :
    (pushMediaListItem item).length=item.size := by
  cases item with
  | player item =>
    simp only [pushMediaListItem,pushMediaPlayerItem,MediaListItem.size,MediaPlayerItem.size,
      MediaPlayerItem.kHeaderSize]
    split <;> simp <;> omega
  | folder item =>
    simp [pushMediaListItem,pushFolderItem,MediaListItem.size,FolderItem.size,FolderItem.kHeaderSize]
    omega
  | song item =>
    have hattrs : (item.attributes.flatMap pushElementAttribute).length=
        (item.attributes.map AttributeEntry.size).sum := by
      rw [List.length_flatMap]
      simp only [length_pushElementAttribute]
    simp [pushMediaListItem,pushMediaElementItem,MediaListItem.size,MediaElementItem.size,hattrs]
    omega

/-- The items' bytes are as long as their sizes add up to. -/
theorem length_flatMap_pushMediaListItem (items : List MediaListItem) :
    (items.flatMap pushMediaListItem).length=(items.map MediaListItem.size).sum := by
  rw [List.length_flatMap]
  simp only [length_pushMediaListItem]

namespace GetFolderItemsResponseBuilder

variable {builder : GetFolderItemsResponseBuilder}

/-- Without items, or with an error status, the response is the header and the status. -/
theorem size_of_short (h : builder.status≠statusNoError ∨ builder.items=[]) :
    builder.size=browseKMinSize+1 := by
  unfold size
  rcases h with h | h <;> simp [h]

/-- A `NO_ERROR` response with items also holds the UID counter, the item count and the items. -/
theorem size_of_items (hs : builder.status=statusNoError) (hne : builder.items≠[]) :
    builder.size=browseKMinSize+1+2+2+(builder.items.map MediaListItem.size).sum := by
  unfold size
  simp [hs,hne]

/-- Appending an item to a `NO_ERROR` response adds its size, and for the first
item the four bytes of the UID counter and the item count too. -/
theorem size_append_item (hs : builder.status=statusNoError) (item : MediaListItem) :
    ({builder with items := builder.items++[item]} : GetFolderItemsResponseBuilder).size=
      builder.size+item.size+(if builder.items=[] then 4 else 0) := by
  have happ := @size_of_items {builder with items := builder.items++[item]} hs (by simp)
  rw [happ]
  by_cases hne : builder.items=[]
  · rw [size_of_short (.inr hne),if_pos hne]
    simp [hne]
    omega
  · rw [size_of_items hs hne,if_neg hne]
    simp
    omega

/-- `Serialize` writes exactly `size()` bytes. -/
theorem length_serialize (builder : GetFolderItemsResponseBuilder) : builder.serialize.length=builder.size := by
  have hrange : statusRangeOutOfBounds≠statusNoError := by decide
  by_cases hs : builder.status=statusNoError
  · by_cases hne : builder.items=[]
    · rw [size_of_short (.inr hne)]
      simp [serialize,hs,hne,hrange]
    · rw [size_of_items hs hne]
      simp [serialize,hs,hne,-List.length_flatMap,length_flatMap_pushMediaListItem]
      omega
  · rw [size_of_short (.inl hs)]
    simp [serialize,hs]

/-- The browsing length field is `size() - 3` as a `uint16_t`. -/
theorem getLength_serialize (builder : GetFolderItemsResponseBuilder) :
    getLength builder.serialize=.ok ((builder.size-browseKMinSize)%65536) := by
  rw [serialize,List.append_assoc]
  exact getLength_browse _ _ _

/-- The response is a valid browsing packet exactly when its length fits a `uint16_t`. -/
theorem browseIsValid_serialize (builder : GetFolderItemsResponseBuilder) :
    browseIsValid builder.serialize=.ok (decide (builder.size-browseKMinSize<65536)) := by
  obtain ⟨rest,hbytes⟩ : ∃ rest,
      builder.serialize=pushBrowseHeader browsePduGetFolderItems (builder.size-browseKMinSize)++rest :=
    ⟨_,by rw [serialize,List.append_assoc]⟩
  have hrest : rest.length=builder.size-browseKMinSize := by
    have hlen := length_serialize builder
    rw [hbytes,List.length_append,length_pushBrowseHeader] at hlen
    omega
  rw [hbytes,browseIsValid_browse,hrest]
  congr 2
  exact propext ⟨fun h => h ▸ Nat.mod_lt _ (by norm_num),fun h => (Nat.mod_eq_of_lt h).symm⟩

/-- The item count field of a `NO_ERROR` response with items is the number of
items as a `uint16_t`. -/
theorem itemCount_serialize (hs : builder.status=statusNoError) (hne : builder.items≠[]) :
    readSwapped builder.serialize (browseKMinSize+1+2) 2=.ok (builder.items.length%65536) := by
  have hbytes : builder.serialize=(pushBrowseHeader browsePduGetFolderItems (builder.size-browseKMinSize)++
      addPayloadOctets 1 statusNoError.toNat++encodeBE 2 builder.uidCounter.toNat)++
      encodeBE 2 builder.items.length++builder.items.flatMap pushMediaListItem := by
    simp [serialize,hs,hne]
  have h := readSwapped_append (pushBrowseHeader browsePduGetFolderItems (builder.size-browseKMinSize)++
    addPayloadOctets 1 statusNoError.toNat++encodeBE 2 builder.uidCounter.toNat)
    (encodeBE 2 builder.items.length) (builder.items.flatMap pushMediaListItem)
  simp only [List.length_append,length_pushBrowseHeader,length_addPayloadOctets,length_encodeBE] at h
  rw [hbytes,h,decodeBE_encodeBE]
  rfl

/-! ### Adding items -/

/-- With the scope the CHECK asks for, a call accepts the item exactly when
`size() + item.size()` fits the MTU. -/
theorem addItem_of_scope (item : MediaListItem) :
    addItem true builder item=.ok (if builder.mtu<builder.size+item.size then (builder,false)
      else ({builder with items := builder.items++[item]},true)) := by
  simp only [addItem,Bool.not_true,Bool.false_eq_true,if_false]
  split_ifs <;> rfl

/-- The first item of an empty `NO_ERROR` response is admitted when it fits
with four bytes to spare, and the response then takes four bytes more. -/
theorem addItem_first_item (hs : builder.status=statusNoError) (hnil : builder.items=[])
    (item : MediaListItem) (hfit : browseKMinSize+1+item.size ≤ builder.mtu) :
    addItem true builder item=.ok ({builder with items := [item]},true) ∧
      ({builder with items := [item]} : GetFolderItemsResponseBuilder).size=browseKMinSize+1+4+item.size := by
  have hsize : builder.size=browseKMinSize+1 := size_of_short (.inr hnil)
  have happ := size_append_item hs item
  rw [if_pos hnil,hsize,hnil,List.nil_append] at happ
  refine ⟨?_,by rw [happ]; omega⟩
  rw [addItem_of_scope,if_neg (by omega),hnil,List.nil_append]

end GetFolderItemsResponseBuilder

/-- A call the application makes while it fills the response. -/
inductive AddCall
  | mediaPlayer (item : MediaPlayerItem)
  | song (item : MediaElementItem)
  | folder (item : FolderItem)

/-- One call and the value it returned. -/
def addCall (builder : GetFolderItemsResponseBuilder) : AddCall → Except Fault (GetFolderItemsResponseBuilder×List Bool)
  | .mediaPlayer item => do
    let (builder,added) ← builder.addMediaPlayer item
    return (builder,[added])
  | .song item => do
    let (builder,added) ← builder.addSong item
    return (builder,[added])
  | .folder item => do
    let (builder,added) ← builder.addFolder item
    return (builder,[added])

namespace GetFolderItemsResponseBuilder

variable {builder builder' : GetFolderItemsResponseBuilder} {out : List Bool}

/-- What a call can do: fault on the scope CHECK, keep the builder and return
false when the item does not fit, or append the item and return true when it does. -/
theorem addCall_cases {call : AddCall} (h : addCall builder call=.ok (builder',out)) :
    ∃ item : MediaListItem,
      (builder.mtu<builder.size+item.size ∧ builder'=builder ∧ out=[false]) ∨
      (builder.size+item.size ≤ builder.mtu ∧ builder'={builder with items := builder.items++[item]} ∧
        out=[true]) := by
  have hstep : ∀ (scopeAllowed : Bool) (item : MediaListItem),
      (do let (b,added) ← addItem scopeAllowed builder item; return (b,[added]) :
        Except Fault (GetFolderItemsResponseBuilder×List Bool))=.ok (builder',out) →
      (builder.mtu<builder.size+item.size ∧ builder'=builder ∧ out=[false]) ∨
      (builder.size+item.size ≤ builder.mtu ∧ builder'={builder with items := builder.items++[item]} ∧
        out=[true]) := by
    intro scopeAllowed item hrun
    cases scopeAllowed
    · cases hrun
    · rw [addItem_of_scope,ok_bind] at hrun
      split_ifs at hrun with hfit
      · cases hrun
        exact .inl ⟨hfit,rfl,rfl⟩
      · cases hrun
        exact .inr ⟨by omega,rfl,rfl⟩
  cases call with
  | mediaPlayer item => exact ⟨_,hstep _ _ h⟩
  | song item => exact ⟨_,hstep _ _ h⟩
  | folder item => exact ⟨_,hstep _ _ h⟩

/-- A call keeps the MTU and the status. -/
theorem addCall_mtu_status {call : AddCall} (h : addCall builder call=.ok (builder',out)) :
    builder'.mtu=builder.mtu ∧ builder'.status=builder.status := by
  obtain ⟨item,⟨-,rfl,-⟩ | ⟨-,rfl,-⟩⟩ := addCall_cases h <;> exact ⟨rfl,rfl⟩

/-- A call returns true exactly when `size() + item.size()` fits the MTU. -/
theorem addCall_true_iff {call : AddCall} (h : addCall builder call=.ok (builder',out)) :
    ∃ item : MediaListItem,out=[decide (builder.size+item.size ≤ builder.mtu)] := by
  obtain ⟨item,⟨hfit,-,rfl⟩ | ⟨hfit,-,rfl⟩⟩ := addCall_cases h
  · exact ⟨item,by simp; omega⟩
  · exact ⟨item,by simp [hfit]⟩

/-- Every call keeps the response within four bytes past the MTU. -/
theorem addCall_size_le {call : AddCall} (hinv : builder.size ≤ builder.mtu+4)
    (h : addCall builder call=.ok (builder',out)) : builder'.size ≤ builder'.mtu+4 := by
  obtain ⟨item,⟨-,rfl,-⟩ | ⟨hfit,rfl,-⟩⟩ := addCall_cases h
  · exact hinv
  · by_cases hs : builder.status=statusNoError
    · rw [size_append_item hs]
      split_ifs <;> dsimp only <;> omega
    · have hshort := @size_of_short {builder with items := builder.items++[item]} (.inl hs)
      rw [hshort]
      dsimp only
      unfold browseKMinSize
      omega

/-- Over every run of calls on a fresh builder, the response stays within four
bytes past the MTU and `Serialize` writes exactly `size()` bytes. -/
theorem addCalls_size_le {scope status : UInt8} {uidCounter : UInt16} {mtu : ℕ} {calls : List AddCall}
    (h : runSteps addCall ⟨scope,status,uidCounter,mtu,[]⟩ calls=.ok (builder',out)) :
    builder'.mtu=mtu ∧ builder'.size ≤ mtu+4 ∧ builder'.serialize.length=builder'.size := by
  have hinv : ∀ b : GetFolderItemsResponseBuilder,∀ c : AddCall,∀ b' o,
      (b.mtu=mtu ∧ b.size ≤ b.mtu+4) → addCall b c=.ok (b',o) → (b'.mtu=mtu ∧ b'.size ≤ b'.mtu+4) :=
    fun b c b' o hb hc => ⟨(addCall_mtu_status hc).1.trans hb.1,addCall_size_le hb.2 hc⟩
  have hstart : size ⟨scope,status,uidCounter,mtu,[]⟩ ≤ mtu+4 := by
    rw [size_of_short (.inr rfl)]
    unfold browseKMinSize
    omega
  obtain ⟨hmtu,hsize⟩ := runSteps_invariant hinv ⟨rfl,hstart⟩ h
  exact ⟨hmtu,hmtu ▸ hsize,length_serialize builder'⟩

end GetFolderItemsResponseBuilder

/-- A media player named by 65 bytes, which takes 96 bytes as a list item. -/
def longNamePlayer : MediaPlayerItem := MediaPlayerItem.make 1 (List.replicate 65 0x41) true

theorem addMediaPlayer_first_item_exceeds_mtu :
    ∃ builder,(makePlayerListBuilder statusNoError 0 100).addMediaPlayer longNamePlayer=.ok (builder,true) ∧
      (makePlayerListBuilder statusNoError 0 100).size ≤ 100 ∧ 100<builder.size ∧
      builder.serialize.length=104 := by
  obtain ⟨hadd,hsize⟩ := @GetFolderItemsResponseBuilder.addItem_first_item
    (makePlayerListBuilder statusNoError 0 100) rfl rfl (.player longNamePlayer) (by decide)
  have hplayer : (makePlayerListBuilder statusNoError 0 100).addMediaPlayer longNamePlayer=
      GetFolderItemsResponseBuilder.addItem true (makePlayerListBuilder statusNoError 0 100)
        (.player longNamePlayer) := rfl
  refine ⟨_,hplayer.trans hadd,by decide,?_,?_⟩
  · rw [hsize]
    decide
  · rw [GetFolderItemsResponseBuilder.length_serialize,hsize]
    decide

end BluetoothStack.AvrcpFolderItems
