import BluetoothStack.StepRun

/-!
# AVRCP packet bytes (packet/base, packet/avrcp/avrcp_packet.cc, vendor_packet.cc,
avrcp_browse_packet.cc)

A builder appends its fields with `AddPayloadOctets`, low byte first; a
multi-byte field goes through `base::ByteSwap` first and so lands most
significant byte first. A parser reads through an `Iterator` whose `+` stops at
the packet end and whose `*` CHECKs that it is not at the end: a read that runs
past the packet is the fault `checkFailed` here. The packet is the list of its
bytes, so `begin()` is position zero.

The headers are the AVRCP header (c-type, subunit, opcode), the vendor-dependent
header after it (company id, PDU, packet type, parameter length), and the
browsing header (PDU, length) of the browsing channel.
-/

namespace BluetoothStack.AvrcpPacket

open ByteBuffer StepRun

/-! ### Builders -/

/-- `PacketBuilder::AddPayloadOctets`: the `octets` low bytes of `value`, low byte first. -/
def addPayloadOctets (octets value : ℕ) : List UInt8 := encodeLE octets value

/-- `base::ByteSwap` of a `width`-byte integer. -/
def byteSwap (width value : ℕ) : ℕ := decodeLE (encodeLE width value).reverse

/-- A byte-swapped field is pushed most significant byte first. -/
@[simp] theorem addPayloadOctets_byteSwap (width value : ℕ) :
    addPayloadOctets width (byteSwap width value)=encodeBE width value := by
  have h := encodeLE_decodeLE (encodeLE width value).reverse
  rw [List.length_reverse,length_encodeLE] at h
  exact h

/-- Swapping the bytes of a little-endian read gives the big-endian value. -/
theorem byteSwap_decodeLE {bs : List UInt8} {width : ℕ} (h : bs.length=width) :
    byteSwap width (decodeLE bs)=decodeBE bs := by
  subst h
  rw [byteSwap,encodeLE_decodeLE,decodeBE]

/-- `BLUETOOTH_COMPANY_ID`. -/
def bluetoothCompanyId : ℕ := 0x001958

/-- `Opcode::VENDOR`. -/
def opcodeVendor : ℕ := 0x00

/-- The subunit type of every vendor-dependent packet (panel). -/
def vendorSubunitType : ℕ := 0x09

/-- `PacketBuilder::PushHeader`: the c-type, the subunit byte and the opcode. -/
def pushPacketHeader (cType subunitType subunitId opcode : ℕ) : List UInt8 :=
  addPayloadOctets 1 cType++addPayloadOctets 1 ((subunitType<<<3) ||| subunitId)++
    addPayloadOctets 1 opcode

/-- The loop of `PacketBuilder::PushCompanyId`: shift the swapped id right by a
byte, then push its low byte, `count` times. -/
def pushCompanyIdLoop : ℕ → ℕ → List UInt8
  | 0,_ => []
  | count+1,companyId =>
    addPayloadOctets 1 ((companyId>>>8) &&& 0xFF)++pushCompanyIdLoop count (companyId>>>8)

/-- `PacketBuilder::PushCompanyId` of a `uint32_t` id. -/
def pushCompanyId (companyId : ℕ) : List UInt8 := pushCompanyIdLoop 3 (byteSwap 4 companyId)

/-- `VendorPacketBuilder::PushHeader`; `parameterLength` is a `uint16_t`, so only
its low two bytes are pushed. -/
def pushVendorHeader (pdu packetType parameterLength : ℕ) : List UInt8 :=
  pushCompanyId bluetoothCompanyId++addPayloadOctets 1 pdu++addPayloadOctets 1 packetType++
    addPayloadOctets 2 (byteSwap 2 parameterLength)

/-- `BrowsePacketBuilder::PushHeader`; `length` is a `uint16_t`. -/
def pushBrowseHeader (pdu length : ℕ) : List UInt8 :=
  addPayloadOctets 1 pdu++addPayloadOctets 2 (byteSwap 2 length)

/-! ### Parsers -/

/-- `Iterator::operator+`: `offset` positions on, stopping at the packet end. -/
def iterAdd (bytes : List UInt8) (index offset : ℕ) : ℕ := min (index+offset) bytes.length

/-- `Iterator::operator*`: the byte at `index`, after the CHECK that `index` is
not the end. -/
def deref (bytes : List UInt8) (index : ℕ) : Except Fault UInt8 :=
  match bytes[index]? with
  | some b => .ok b
  | none => .error .checkFailed

/-- The loop of `Iterator::extract`: byte `i` of the field is or-ed in at bit
`8*i`, and the iterator moves on by one. -/
def extractLoop (bytes : List UInt8) : ℕ → ℕ → ℕ → ℕ → Except Fault (ℕ×ℕ)
  | 0,_,index,value => .ok (value,index)
  | count+1,i,index,value => do
    let b ← deref bytes index
    extractLoop bytes count (i+1) (iterAdd bytes index 1) (value ||| (b.toNat<<<(i*8)))

/-- `Iterator::extract` of a `width`-byte integer at `index`: its value and the
position after it. -/
def extract (bytes : List UInt8) (width index : ℕ) : Except Fault (ℕ×ℕ) :=
  extractLoop bytes width 0 index 0

/-- The byte at `pos`: `*(begin() + pos)`. -/
def byteAt (bytes : List UInt8) (pos : ℕ) : Except Fault UInt8 := deref bytes (iterAdd bytes 0 pos)

/-- A `width`-byte field at `pos` read as `base::ByteSwap(it.extract<T>())`. -/
def readSwapped (bytes : List UInt8) (pos width : ℕ) : Except Fault ℕ := do
  let (value,_) ← extract bytes width (iterAdd bytes 0 pos)
  return byteSwap width value

/-- `Packet::kMinSize`: the AVRCP header. -/
def packetKMinSize : ℕ := 3

/-- `Packet::GetCType`. -/
def getCType (bytes : List UInt8) : Except Fault ℕ := do
  let b ← byteAt bytes 0
  return b.toNat &&& 0x0F

/-- `Packet::GetSubunitType`. -/
def getSubunitType (bytes : List UInt8) : Except Fault UInt8 := do
  let b ← byteAt bytes 1
  return b >>> 3

/-- `Packet::GetSubunitId`. -/
def getSubunitId (bytes : List UInt8) : Except Fault UInt8 := do
  let b ← byteAt bytes 1
  return b &&& 0x07

/-- `Packet::GetOpcode`. -/
def getOpcode (bytes : List UInt8) : Except Fault UInt8 := byteAt bytes 2

/-- `Packet::IsValid`. -/
def packetIsValid (bytes : List UInt8) : Bool := packetKMinSize ≤ bytes.length

/-- `VendorPacket::kMinSize`: the AVRCP header and the vendor-dependent header. -/
def vendorKMinSize : ℕ := packetKMinSize+7

/-- The loop of `PullCompanyId`: shift the value left by a byte and or in the
next byte, `count` times. -/
def pullCompanyIdLoop (bytes : List UInt8) : ℕ → ℕ → ℕ → Except Fault ℕ
  | 0,_,value => .ok value
  | count+1,index,value => do
    let b ← deref bytes index
    pullCompanyIdLoop bytes count (iterAdd bytes index 1) ((value<<<8) ||| b.toNat)

/-- `VendorPacket::GetCompanyId`. -/
def getCompanyId (bytes : List UInt8) : Except Fault ℕ :=
  pullCompanyIdLoop bytes 3 (iterAdd bytes 0 packetKMinSize) 0

/-- `VendorPacket::GetCommandPdu`. -/
def getCommandPdu (bytes : List UInt8) : Except Fault UInt8 := byteAt bytes (packetKMinSize+3)

/-- `VendorPacket::GetPacketType`. -/
def getPacketType (bytes : List UInt8) : Except Fault UInt8 := byteAt bytes (packetKMinSize+4)

/-- `VendorPacket::GetParameterLength`. -/
def getParameterLength (bytes : List UInt8) : Except Fault ℕ := readSwapped bytes (packetKMinSize+5) 2

/-- `VendorPacket::IsValid`: the parameter length counts the bytes after the headers. -/
def vendorIsValid (bytes : List UInt8) : Except Fault Bool :=
  if bytes.length<vendorKMinSize then pure false
  else do
    let parameterLength ← getParameterLength bytes
    return parameterLength=bytes.length-vendorKMinSize

/-- `BrowsePacket::kMinSize`: the browsing header. -/
def browseKMinSize : ℕ := 3

/-- `BrowsePacket::GetPdu`. -/
def getPdu (bytes : List UInt8) : Except Fault UInt8 := byteAt bytes 0

/-- `BrowsePacket::GetLength`. -/
def getLength (bytes : List UInt8) : Except Fault ℕ := readSwapped bytes 1 2

/-- `BrowsePacket::IsValid`: the length counts the bytes after the header. -/
def browseIsValid (bytes : List UInt8) : Except Fault Bool :=
  if bytes.length<browseKMinSize then pure false
  else do
    let length ← getLength bytes
    return bytes.length=length+browseKMinSize

/-! ### Reads -/

theorem deref_of_lt {bytes : List UInt8} {index : ℕ} (h : index<bytes.length) :
    deref bytes index=.ok bytes[index] := by
  simp [deref,List.getElem?_eq_getElem h]

theorem deref_of_le {bytes : List UInt8} {index : ℕ} (h : bytes.length ≤ index) :
    deref bytes index=.error .checkFailed := by
  simp [deref,List.getElem?_eq_none h]

theorem iterAdd_of_le {bytes : List UInt8} {index offset : ℕ} (h : index+offset ≤ bytes.length) :
    iterAdd bytes index offset=index+offset := Nat.min_eq_left h

/-- Or-ing a byte in above the bits already read adds it. -/
theorem or_shiftLeft_eq_add {value b i : ℕ} (hv : value<2^(8*i)) :
    value ||| (b<<<(i*8))=value+b*2^(8*i) := by
  rw [Nat.lor_comm,← Nat.shiftLeft_add_eq_or_of_lt (by rw [Nat.mul_comm]; exact hv),Nat.shiftLeft_eq,
    Nat.mul_comm i 8,Nat.add_comm]

theorem extractLoop_of_le {bytes : List UInt8} {count i index value : ℕ}
    (h : index+count ≤ bytes.length) (hv : value<2^(8*i)) :
    extractLoop bytes count i index value=
      .ok (value+decodeLE ((bytes.drop index).take count)*2^(8*i),index+count) := by
  induction count generalizing i index value with
  | zero => simp [extractLoop]
  | succ count ih =>
    have hlt : index<bytes.length := by omega
    have hb : bytes[index].toNat<256 := bytes[index].toNat_lt
    have hstep : value ||| (bytes[index].toNat<<<(i*8))<2^(8*(i+1)) := by
      rw [or_shiftLeft_eq_add hv,Nat.mul_succ,pow_add]
      have : bytes[index].toNat*2^(8*i) ≤ 255*2^(8*i) := Nat.mul_le_mul_right _ (by omega)
      omega
    rw [extractLoop,deref_of_lt hlt,ok_bind,iterAdd_of_le (by omega),ih (by omega) hstep,
      or_shiftLeft_eq_add hv,List.drop_eq_getElem_cons hlt,List.take_succ_cons,decodeLE_cons]
    have hpow : 2^(8*(i+1))=256*2^(8*i) := by
      rw [Nat.mul_succ,pow_add,Nat.mul_comm]
      norm_num
    rw [hpow,Nat.add_assoc index 1 count,Nat.add_comm 1 count]
    congr 2
    ring

theorem extractLoop_of_lt {bytes : List UInt8} {count i index value : ℕ}
    (hi : index ≤ bytes.length) (h : bytes.length < index+count) :
    extractLoop bytes count i index value=.error .checkFailed := by
  induction count generalizing i index value with
  | zero => omega
  | succ count ih =>
    rcases Nat.lt_or_ge index bytes.length with hlt | hge
    · rw [extractLoop,deref_of_lt hlt,ok_bind,iterAdd_of_le (by omega),ih (by omega) (by omega)]
    · rw [extractLoop,deref_of_le hge,error_bind]

/-- A field inside the packet is read whole, little-endian. -/
theorem extract_of_le {bytes : List UInt8} {width index : ℕ} (h : index+width ≤ bytes.length) :
    extract bytes width index=.ok (decodeLE ((bytes.drop index).take width),index+width) := by
  rw [extract,extractLoop_of_le h (by norm_num)]
  simp only [Nat.mul_zero,pow_zero,Nat.mul_one,Nat.zero_add]

/-- A field that runs past the packet end reaches the CHECK. -/
theorem extract_of_lt {bytes : List UInt8} {width index : ℕ} (hi : index ≤ bytes.length)
    (h : bytes.length < index+width) : extract bytes width index=.error .checkFailed :=
  extractLoop_of_lt hi h

theorem byteAt_of_lt {bytes : List UInt8} {pos : ℕ} (h : pos<bytes.length) :
    byteAt bytes pos=.ok bytes[pos] := by
  rw [byteAt,iterAdd_of_le (by omega)]
  simp only [Nat.zero_add]
  exact deref_of_lt h

theorem byteAt_of_le {bytes : List UInt8} {pos : ℕ} (h : bytes.length ≤ pos) :
    byteAt bytes pos=.error .checkFailed := by
  rw [byteAt,iterAdd,Nat.zero_add,Nat.min_eq_right h]
  exact deref_of_le le_rfl

theorem readSwapped_of_le {bytes : List UInt8} {pos width : ℕ} (h : pos+width ≤ bytes.length) :
    readSwapped bytes pos width=.ok (decodeBE ((bytes.drop pos).take width)) := by
  have hlen : ((bytes.drop pos).take width).length=width := by
    simp only [List.length_take,List.length_drop]
    omega
  rw [readSwapped,iterAdd_of_le (by omega),Nat.zero_add,extract_of_le h,ok_bind]
  dsimp only
  rw [byteSwap_decodeLE hlen]
  rfl

theorem readSwapped_of_lt {bytes : List UInt8} {pos width : ℕ} (hw : 0<width)
    (h : bytes.length < pos+width) : readSwapped bytes pos width=.error .checkFailed := by
  have hi : iterAdd bytes 0 pos ≤ bytes.length := Nat.min_le_right _ _
  have hlt : bytes.length < iterAdd bytes 0 pos+width := by
    rw [iterAdd,Nat.zero_add]
    omega
  rw [readSwapped,extract_of_lt hi hlt]
  rfl

/-- `extract` of a field after a prefix is its little-endian value. -/
theorem extract_append (pre field rest : List UInt8) :
    extract (pre++field++rest) field.length pre.length=.ok (decodeLE field,pre.length+field.length) := by
  rw [extract_of_le (by simp),List.append_assoc,List.drop_left,List.take_left]

/-- The byte after a prefix. -/
theorem deref_append (pre rest : List UInt8) (b : UInt8) : deref (pre++b::rest) pre.length=.ok b := by
  rw [deref_of_lt (by simp)]
  simp

theorem byteAt_append (pre rest : List UInt8) (b : UInt8) :
    byteAt (pre++b::rest) pre.length=.ok b := by
  rw [byteAt,iterAdd_of_le (by simp),Nat.zero_add]
  exact deref_append pre rest b

/-- A swapped field after a prefix is its big-endian value. -/
theorem readSwapped_append (pre field rest : List UInt8) :
    readSwapped (pre++field++rest) pre.length field.length=.ok (decodeBE field) := by
  rw [readSwapped_of_le (by simp),List.append_assoc,List.drop_left,List.take_left]

/-! ### Headers -/

@[simp] theorem length_addPayloadOctets (octets value : ℕ) : (addPayloadOctets octets value).length=octets :=
  length_encodeLE octets value

@[simp] theorem length_pushCompanyIdLoop (count companyId : ℕ) :
    (pushCompanyIdLoop count companyId).length=count := by
  induction count generalizing companyId with
  | zero => rfl
  | succ count ih => simp only [pushCompanyIdLoop,List.length_append,length_addPayloadOctets,ih]; omega

@[simp] theorem length_pushPacketHeader (cType subunitType subunitId opcode : ℕ) :
    (pushPacketHeader cType subunitType subunitId opcode).length=packetKMinSize := by
  simp [pushPacketHeader,packetKMinSize]

@[simp] theorem length_pushVendorHeader (pdu packetType parameterLength : ℕ) :
    (pushVendorHeader pdu packetType parameterLength).length=vendorKMinSize-packetKMinSize := by
  simp [pushVendorHeader,pushCompanyId,vendorKMinSize]

@[simp] theorem length_pushBrowseHeader (pdu length : ℕ) :
    (pushBrowseHeader pdu length).length=browseKMinSize := by
  simp [pushBrowseHeader,browseKMinSize]

/-- The company id every vendor header carries, pushed big-endian. -/
theorem pushCompanyId_bluetoothCompanyId : pushCompanyId bluetoothCompanyId=[0x00,0x19,0x58] := by
  decide

/-- `PullCompanyId` reads its bytes big-endian after the value it has so far. -/
theorem pullCompanyIdLoop_append (pre field rest : List UInt8) (value : ℕ) :
    pullCompanyIdLoop (pre++field++rest) field.length pre.length value=
      .ok (value*256^field.length+decodeBE field) := by
  induction field generalizing pre value with
  | nil => simp [pullCompanyIdLoop,decodeBE]
  | cons b field ih =>
    have hb : b.toNat<2^8 := b.toNat_lt
    have hshift : (value<<<8) ||| b.toNat=value*256+b.toNat := by
      rw [← Nat.shiftLeft_add_eq_or_of_lt hb,Nat.shiftLeft_eq]
    have hnext := ih (pre++[b]) (value*256+b.toNat)
    rw [List.append_assoc pre [b],List.singleton_append,List.length_append,List.length_singleton] at hnext
    have hd : deref (pre++b::field++rest) pre.length=.ok b := by
      rw [List.append_assoc,List.cons_append]
      exact deref_append pre _ b
    rw [List.length_cons,pullCompanyIdLoop,hd,ok_bind,iterAdd_of_le (by simp),hshift,
      hnext,decodeBE_cons,pow_succ]
    congr 1
    ring

/-- Reading past a prefix reads the rest. -/
theorem byteAt_append_add (pre rest : List UInt8) (pos : ℕ) :
    byteAt (pre++rest) (pre.length+pos)=byteAt rest pos := by
  rcases Nat.lt_or_ge pos rest.length with h | h
  · have hlt : pre.length+pos<(pre++rest).length := by
      rw [List.length_append]
      omega
    rw [byteAt_of_lt hlt,byteAt_of_lt h]
    simp
  · have hge : (pre++rest).length ≤ pre.length+pos := by
      rw [List.length_append]
      omega
    rw [byteAt_of_le hge,byteAt_of_le h]

theorem readSwapped_append_add (pre rest : List UInt8) (pos width : ℕ) :
    readSwapped (pre++rest) (pre.length+pos) width=readSwapped rest pos width := by
  rcases Nat.eq_zero_or_pos width with hw | hw
  · -- a field of no bytes reads nothing wherever it stands
    subst hw
    rfl
  rcases Nat.lt_or_ge rest.length (pos+width) with h | h
  · rw [readSwapped_of_lt hw (by simp; omega),readSwapped_of_lt hw h]
  · rw [readSwapped_of_le (by simp; omega),readSwapped_of_le h]
    simp

/-- The bytes of the AVRCP header. -/
theorem pushPacketHeader_eq (cType subunitType subunitId opcode : ℕ) :
    pushPacketHeader cType subunitType subunitId opcode=
      [UInt8.ofNat (cType%256),UInt8.ofNat (((subunitType<<<3) ||| subunitId)%256),UInt8.ofNat (opcode%256)] := by
  simp [pushPacketHeader,addPayloadOctets]

/-- The bytes of the vendor-dependent header. -/
theorem pushVendorHeader_eq (pdu packetType parameterLength : ℕ) :
    pushVendorHeader pdu packetType parameterLength=
      [0x00,0x19,0x58,UInt8.ofNat (pdu%256),UInt8.ofNat (packetType%256)]++encodeBE 2 parameterLength := by
  rw [pushVendorHeader,pushCompanyId_bluetoothCompanyId,addPayloadOctets_byteSwap]
  simp [addPayloadOctets]

/-- The bytes of the browsing header. -/
theorem pushBrowseHeader_eq (pdu length : ℕ) :
    pushBrowseHeader pdu length=UInt8.ofNat (pdu%256)::encodeBE 2 length := by
  rw [pushBrowseHeader,addPayloadOctets_byteSwap]
  simp [addPayloadOctets]

section Vendor

variable (cType subunitType subunitId opcode pdu packetType parameterLength : ℕ) (payload : List UInt8)

/-- A built vendor packet carries the Bluetooth SIG company id. -/
theorem getCompanyId_vendor :
    getCompanyId (pushPacketHeader cType subunitType subunitId opcode++
      pushVendorHeader pdu packetType parameterLength++payload)=.ok bluetoothCompanyId := by
  have h := pullCompanyIdLoop_append (pushPacketHeader cType subunitType subunitId opcode)
    [0x00,0x19,0x58] ([UInt8.ofNat (pdu%256),UInt8.ofNat (packetType%256)]++encodeBE 2 parameterLength++payload) 0
  rw [getCompanyId,iterAdd_of_le (by simp [packetKMinSize,vendorKMinSize]),Nat.zero_add,
    pushVendorHeader_eq]
  simp only [length_pushPacketHeader,List.append_assoc,List.cons_append,List.nil_append,
    List.length_cons,List.length_nil] at h ⊢
  rw [h]
  rfl

/-- A built vendor packet carries its PDU. -/
theorem getCommandPdu_vendor :
    getCommandPdu (pushPacketHeader cType subunitType subunitId opcode++
      pushVendorHeader pdu packetType parameterLength++payload)=.ok (UInt8.ofNat (pdu%256)) := by
  rw [getCommandPdu,pushVendorHeader_eq,List.append_assoc,
    show packetKMinSize+3=(pushPacketHeader cType subunitType subunitId opcode).length+3 by simp,
    byteAt_append_add]
  rfl

/-- A built vendor packet carries its parameter length modulo `2^16`. -/
theorem getParameterLength_vendor :
    getParameterLength (pushPacketHeader cType subunitType subunitId opcode++
      pushVendorHeader pdu packetType parameterLength++payload)=.ok (parameterLength%65536) := by
  have h := readSwapped_append_add (pushPacketHeader cType subunitType subunitId opcode)
    (pushVendorHeader pdu packetType parameterLength++payload) 5 2
  have h5 := readSwapped_append
    [0x00,0x19,0x58,UInt8.ofNat (pdu%256),UInt8.ofNat (packetType%256)] (encodeBE 2 parameterLength) payload
  rw [getParameterLength,List.append_assoc,show packetKMinSize+5=
    (pushPacketHeader cType subunitType subunitId opcode).length+5 by simp,h,pushVendorHeader_eq]
  simp only [List.length_cons,List.length_nil,length_encodeBE] at h5
  rw [h5,decodeBE_encodeBE]
  rfl

/-- A built vendor packet is valid exactly when its parameter length field
counts the payload. -/
theorem vendorIsValid_vendor :
    vendorIsValid (pushPacketHeader cType subunitType subunitId opcode++
      pushVendorHeader pdu packetType parameterLength++payload)=
      .ok (decide (parameterLength%65536=payload.length)) := by
  have hlen : (pushPacketHeader cType subunitType subunitId opcode++
      pushVendorHeader pdu packetType parameterLength++payload).length=vendorKMinSize+payload.length := by
    simp [vendorKMinSize,packetKMinSize]
    omega
  rw [vendorIsValid,if_neg (by omega),getParameterLength_vendor,ok_bind,hlen,Nat.add_sub_cancel_left]
  rfl

end Vendor

section Browse

variable (pdu length : ℕ) (payload : List UInt8)

/-- A built browsing packet carries its PDU. -/
theorem getPdu_browse : getPdu (pushBrowseHeader pdu length++payload)=.ok (UInt8.ofNat (pdu%256)) := by
  rw [getPdu,pushBrowseHeader_eq,List.cons_append,byteAt_of_lt (by simp)]
  rfl

/-- A built browsing packet carries its length modulo `2^16`. -/
theorem getLength_browse : getLength (pushBrowseHeader pdu length++payload)=.ok (length%65536) := by
  have h := readSwapped_append [UInt8.ofNat (pdu%256)] (encodeBE 2 length) payload
  simp only [List.cons_append,List.nil_append,List.length_singleton,length_encodeBE] at h
  rw [getLength,pushBrowseHeader_eq,List.cons_append,h,decodeBE_encodeBE]
  rfl

/-- A built browsing packet is valid exactly when its length field counts the payload. -/
theorem browseIsValid_browse :
    browseIsValid (pushBrowseHeader pdu length++payload)=.ok (decide (payload.length=length%65536)) := by
  have hlen : (pushBrowseHeader pdu length++payload).length=browseKMinSize+payload.length := by simp
  have hiff : browseKMinSize+payload.length=length%65536+browseKMinSize ↔ payload.length=length%65536 := by
    omega
  rw [browseIsValid,if_neg (by omega),getLength_browse,ok_bind,hlen]
  simp only [hiff]
  rfl

end Browse

/-! ### Fields -/

/-- A one-byte field reads back through `*`. -/
theorem byteAt_field (pre rest : List UInt8) (x : ℕ) :
    byteAt (pre++(addPayloadOctets 1 x++rest)) pre.length=.ok (UInt8.ofNat (x%256)) := by
  have h := byteAt_append pre rest (UInt8.ofNat (x%256))
  simpa [addPayloadOctets] using h

/-- A byte-swapped field reads back as its value modulo its width. -/
theorem readSwapped_field (pre rest : List UInt8) (width x : ℕ) :
    readSwapped (pre++(addPayloadOctets width (byteSwap width x)++rest)) pre.length width=
      .ok (x%256^width) := by
  have h := readSwapped_append pre (encodeBE width x) rest
  rw [length_encodeBE,decodeBE_encodeBE,List.append_assoc] at h
  rw [addPayloadOctets_byteSwap,h]

/-- Reading a browsing packet past its header reads its payload. -/
theorem byteAt_browse (pdu length : ℕ) (payload : List UInt8) (pos : ℕ) :
    byteAt (pushBrowseHeader pdu length++payload) (browseKMinSize+pos)=byteAt payload pos := by
  have h := byteAt_append_add (pushBrowseHeader pdu length) payload pos
  rwa [length_pushBrowseHeader] at h

theorem readSwapped_browse (pdu length : ℕ) (payload : List UInt8) (pos width : ℕ) :
    readSwapped (pushBrowseHeader pdu length++payload) (browseKMinSize+pos) width=
      readSwapped payload pos width := by
  have h := readSwapped_append_add (pushBrowseHeader pdu length) payload pos width
  rwa [length_pushBrowseHeader] at h

theorem length_vendorHeaders (cType subunitType subunitId opcode pdu packetType parameterLength : ℕ) :
    (pushPacketHeader cType subunitType subunitId opcode++pushVendorHeader pdu packetType parameterLength).length=
      vendorKMinSize := by
  simp [vendorKMinSize,packetKMinSize]

/-- Reading a vendor packet past its headers reads its payload. -/
theorem byteAt_vendor (cType subunitType subunitId opcode pdu packetType parameterLength : ℕ)
    (payload : List UInt8) (pos : ℕ) :
    byteAt (pushPacketHeader cType subunitType subunitId opcode++pushVendorHeader pdu packetType parameterLength++
      payload) (vendorKMinSize+pos)=byteAt payload pos := by
  have h := byteAt_append_add (pushPacketHeader cType subunitType subunitId opcode++
    pushVendorHeader pdu packetType parameterLength) payload pos
  rwa [length_vendorHeaders] at h

theorem readSwapped_vendor (cType subunitType subunitId opcode pdu packetType parameterLength : ℕ)
    (payload : List UInt8) (pos width : ℕ) :
    readSwapped (pushPacketHeader cType subunitType subunitId opcode++
      pushVendorHeader pdu packetType parameterLength++payload) (vendorKMinSize+pos) width=
      readSwapped payload pos width := by
  have h := readSwapped_append_add (pushPacketHeader cType subunitType subunitId opcode++
    pushVendorHeader pdu packetType parameterLength) payload pos width
  rwa [length_vendorHeaders] at h

end BluetoothStack.AvrcpPacket
