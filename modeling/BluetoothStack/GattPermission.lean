import BluetoothStack.StepRun

/-!
# GATT server attribute permissions (stack/gatt/gatt_db.cc, stack/gatt/gatt_sr.cc)

Before a read's value is returned or a write reaches the application, the
server checks the attribute's permission word against the link's security
flags and key size. The read check is a chain of early returns and keeps what
each permission bit asks for. The write check first remaps mixed signed and
encrypted permissions for unsigned writes and then runs an `if`/`else` chain;
the `GATT_WRITE_NOT_PERMIT` it assigns to a Signed Write Command without a
signed permission stands before that chain and is overwritten by it, and the
chain's "LE security mode 2" branch tests `(perm & GATT_WRITE_ALLOWED) == 0`
where an earlier branch has already returned on exactly that. Link-key presence
stands in for an encrypted link in the authentication tests, so an unsigned
write to a signed-only attribute needs no encryption.
-/

namespace BluetoothStack.GattPermission

open ByteBuffer StepRun

/-- `GATT_PERM_READ`. -/
def gattPermRead : ℕ := 0x001
/-- `GATT_PERM_READ_ENCRYPTED`. -/
def gattPermReadEncrypted : ℕ := 0x002
/-- `GATT_PERM_READ_ENC_MITM`. -/
def gattPermReadEncMitm : ℕ := 0x004
/-- `GATT_PERM_WRITE`. -/
def gattPermWrite : ℕ := 0x010
/-- `GATT_PERM_WRITE_ENCRYPTED`. -/
def gattPermWriteEncrypted : ℕ := 0x020
/-- `GATT_PERM_WRITE_ENC_MITM`. -/
def gattPermWriteEncMitm : ℕ := 0x040
/-- `GATT_PERM_WRITE_SIGNED`. -/
def gattPermWriteSigned : ℕ := 0x080
/-- `GATT_PERM_WRITE_SIGNED_MITM`. -/
def gattPermWriteSignedMitm : ℕ := 0x100
/-- `GATT_ENCRYPT_KEY_SIZE_MASK`: the minimum key size, less six, in the top nibble. -/
def gattEncryptKeySizeMask : ℕ := 0xF000

/-- `GATT_READ_ALLOWED`. -/
def gattReadAllowed : ℕ := gattPermRead ||| gattPermReadEncrypted ||| gattPermReadEncMitm
/-- `GATT_READ_AUTH_REQUIRED`. -/
def gattReadAuthRequired : ℕ := gattPermReadEncrypted
/-- `GATT_READ_MITM_REQUIRED`. -/
def gattReadMitmRequired : ℕ := gattPermReadEncMitm
/-- `GATT_READ_ENCRYPTED_REQUIRED`. -/
def gattReadEncryptedRequired : ℕ := gattPermReadEncrypted ||| gattPermReadEncMitm
/-- `GATT_WRITE_ALLOWED`. -/
def gattWriteAllowed : ℕ :=
  gattPermWrite ||| gattPermWriteEncrypted ||| gattPermWriteEncMitm ||| gattPermWriteSigned |||
    gattPermWriteSignedMitm
/-- `GATT_WRITE_AUTH_REQUIRED`. -/
def gattWriteAuthRequired : ℕ := gattPermWriteEncrypted ||| gattPermWriteSigned
/-- `GATT_WRITE_MITM_REQUIRED`. -/
def gattWriteMitmRequired : ℕ := gattPermWriteEncMitm ||| gattPermWriteSignedMitm
/-- `GATT_WRITE_ENCRYPTED_PERM`. -/
def gattWriteEncryptedPerm : ℕ := gattPermWriteEncrypted ||| gattPermWriteEncMitm
/-- `GATT_WRITE_SIGNED_PERM`. -/
def gattWriteSignedPerm : ℕ := gattPermWriteSigned ||| gattPermWriteSignedMitm

/-- `GATT_SEC_FLAG_ENCRYPTED` (`BTM_SEC_FLAG_ENCRYPTED`). -/
def gattSecFlagEncrypted : ℕ := 0x04
/-- `GATT_SEC_FLAG_LKEY_UNAUTHED` (`BTM_SEC_FLAG_LKEY_KNOWN`). -/
def gattSecFlagLkeyUnauthed : ℕ := 0x10
/-- `GATT_SEC_FLAG_LKEY_AUTHED` (`BTM_SEC_FLAG_LKEY_AUTHED`). -/
def gattSecFlagLkeyAuthed : ℕ := 0x20

/-- `GATT_REQ_WRITE`. -/
def gattReqWrite : ℕ := 0x12
/-- `GATT_REQ_PREPARE_WRITE`. -/
def gattReqPrepareWrite : ℕ := 0x16
/-- `GATT_CMD_WRITE`. -/
def gattCmdWrite : ℕ := 0x52
/-- `GATT_SIGN_CMD_WRITE`. -/
def gattSignCmdWrite : ℕ := 0xD2
/-- `GATT_AUTH_SIGN_LEN`: the signature that ends a Signed Write Command. -/
def gattAuthSignLen : ℕ := 12

/-- `GATT_UUID_PRI_SERVICE`. -/
def gattUuidPriService : ℕ := 0x2800
/-- `GATT_UUID_SEC_SERVICE`. -/
def gattUuidSecService : ℕ := 0x2801
/-- `GATT_UUID_INCLUDE_SERVICE`. -/
def gattUuidIncludeService : ℕ := 0x2802
/-- `GATT_UUID_CHAR_DECLARE`. -/
def gattUuidCharDeclare : ℕ := 0x2803
/-- `GATT_UUID_CHAR_EXT_PROP`. -/
def gattUuidCharExtProp : ℕ := 0x2900
/-- `GATT_UUID_CHAR_DESCRIPTION`. -/
def gattUuidCharDescription : ℕ := 0x2901
/-- `GATT_UUID_CHAR_CLIENT_CONFIG`. -/
def gattUuidCharClientConfig : ℕ := 0x2902
/-- `GATT_UUID_CHAR_SRVR_CONFIG`. -/
def gattUuidCharSrvrConfig : ℕ := 0x2903
/-- `GATT_UUID_CHAR_PRESENT_FORMAT`. -/
def gattUuidCharPresentFormat : ℕ := 0x2904
/-- `GATT_UUID_CHAR_AGG_FORMAT`. -/
def gattUuidCharAggFormat : ℕ := 0x2905
/-- `GATT_UUID_CHAR_VALID_RANGE`. -/
def gattUuidCharValidRange : ℕ := 0x2906

/-- The `tGATT_STATUS` values these checks return. -/
inductive GattStatus
  | success
  | readNotPermit
  | writeNotPermit
  | invalidPdu
  | insufAuthentication
  | notFound
  | notLong
  | insufKeySize
  | invalidAttrLen
  | insufEncryption
  | busy
  | error
  | pending
  | invalidHandle
  deriving DecidableEq,Repr

/-- An attribute UUID as the checks see it: empty, a 16-bit UUID, or a wider one. -/
inductive AttrUuid
  | empty
  | bits16 (value : ℕ)
  | wide
  deriving DecidableEq,Repr

/-- `Uuid::Is16Bit`. -/
def AttrUuid.is16Bit : AttrUuid → Bool
  | .bits16 _ => true
  | _ => false

/-- `Uuid::As16Bit` of a 16-bit UUID. -/
def AttrUuid.as16Bit : AttrUuid → ℕ
  | .bits16 value => value
  | _ => 0

/-- The fields of `tGATT_ATTR` that the checks read. -/
structure Attr where
  /-- `uuid`. -/
  uuid : AttrUuid
  /-- `permission`, a `tGATT_PERM`. -/
  permission : ℕ
  deriving DecidableEq,Repr

/-- `x & mask` in a condition: whether any bit of `mask` is set in `x`. -/
def anyBit (x mask : ℕ) : Bool := x &&& mask≠0

/-- `min_key_size`: the top nibble of the permission plus six, or zero. -/
def minKeySize (perm : ℕ) : ℕ :=
  let size := (perm &&& gattEncryptKeySizeMask)>>>12
  if size≠0 then size+6 else size

/-- The declarations and descriptors that `read_long` may not read. -/
def notLongUuid (uuid : ℕ) : Bool :=
  uuid=gattUuidPriService || uuid=gattUuidSecService || uuid=gattUuidCharDeclare ||
    uuid=gattUuidIncludeService || uuid=gattUuidCharExtProp || uuid=gattUuidCharClientConfig ||
    uuid=gattUuidCharSrvrConfig || uuid=gattUuidCharPresentFormat

/-- `gatts_check_attr_readability`. -/
def gattsCheckAttrReadability (attr : Attr) (readLong : Bool) (secFlag keySize : ℕ) : GattStatus :=
  let perm := attr.permission
  if !anyBit perm gattReadAllowed then .readNotPermit
  else if anyBit perm gattReadAuthRequired && !anyBit secFlag gattSecFlagLkeyUnauthed &&
      !anyBit secFlag gattSecFlagEncrypted then .insufAuthentication
  else if anyBit perm gattReadMitmRequired && !anyBit secFlag gattSecFlagLkeyAuthed then
    .insufAuthentication
  else if anyBit perm gattReadEncryptedRequired && !anyBit secFlag gattSecFlagEncrypted then
    .insufEncryption
  else if anyBit perm gattReadEncryptedRequired && anyBit secFlag gattSecFlagEncrypted &&
      decide (keySize < minKeySize perm) then .insufKeySize
  else if readLong && attr.uuid.is16Bit && notLongUuid attr.uuid.as16Bit then .notLong
  else .success

/-- The mixed-security remap of `gatts_write_attr_perm_check` for unsigned
writes to an attribute with a signed permission (Core spec Vol 3 Part C 10.2.3). -/
def mixedSecurityPerm (opCode perm : ℕ) : ℕ :=
  if (opCode=gattCmdWrite || opCode=gattReqWrite) && anyBit perm gattWriteSignedPerm then
    if anyBit perm gattPermWriteSigned && anyBit perm gattPermWriteEncrypted then
      gattPermWriteEncrypted
    else if anyBit perm gattPermWriteSignedMitm && anyBit perm gattPermWriteEncrypted ||
        anyBit perm gattWriteSignedPerm && anyBit perm gattPermWriteEncMitm then
      gattPermWriteEncMitm
    else perm
  else perm

/-- The tail of `gatts_write_attr_perm_check` once the security chain lets a
write through: what the attribute's type and the value's length allow. -/
def writableStatus (attr : Attr) (opCode offset : ℕ) (dataPresent : Bool) (len : ℕ) : GattStatus :=
  let uuid := attr.uuid.as16Bit
  let configUuid := attr.uuid.is16Bit && (uuid=gattUuidCharClientConfig || uuid=gattUuidCharSrvrConfig)
  let maxSize := if configUuid then 2 else 0
  let status : GattStatus :=
    if attr.uuid=.empty then .invalidPdu
    else if attr.uuid.is16Bit && (uuid=gattUuidCharPresentFormat || uuid=gattUuidCharExtProp ||
        uuid=gattUuidCharAggFormat || uuid=gattUuidCharValidRange) then .writeNotPermit
    else .success
  if !dataPresent && 0<len then .invalidPdu
  else if configUuid then
    if opCode=gattReqPrepareWrite && offset≠0 then .notLong
    else if len≠maxSize then .invalidAttrLen
    else .success
  else status

/-- `gatts_write_attr_perm_check`, with `find_attr_by_handle` already done. -/
def gattsWriteAttrPermCheck (attr : Option Attr) (opCode offset : ℕ) (dataPresent : Bool)
    (len secFlag keySize : ℕ) : GattStatus :=
  match attr with
  | none => .notFound
  | some attr =>
    let perm := mixedSecurityPerm opCode attr.permission
    -- `status = GATT_WRITE_NOT_PERMIT` for a Signed Write Command without a signed
    -- permission comes first in the source; every branch below assigns `status` again
    if opCode=gattSignCmdWrite && anyBit secFlag gattSecFlagEncrypted then .invalidPdu
    else if !anyBit perm gattWriteAllowed then .writeNotPermit
    else if anyBit perm gattWriteAuthRequired && !anyBit secFlag gattSecFlagLkeyUnauthed then
      .insufAuthentication
    else if anyBit perm gattWriteMitmRequired && !anyBit secFlag gattSecFlagLkeyAuthed then
      .insufAuthentication
    else if anyBit perm gattWriteEncryptedPerm && !anyBit secFlag gattSecFlagEncrypted then
      .insufEncryption
    else if anyBit perm gattWriteEncryptedPerm && anyBit secFlag gattSecFlagEncrypted &&
        decide (keySize < minKeySize attr.permission) then .insufKeySize
    else if anyBit perm gattWriteSignedPerm && opCode≠gattSignCmdWrite &&
        !anyBit secFlag gattSecFlagEncrypted && !anyBit perm gattWriteAllowed then
      .insufAuthentication
    else writableStatus attr opCode offset dataPresent len

/-- `GATT_MAX_ATTR_LEN`: the size of the value buffer of a write request. -/
def gattMaxAttrLen : ℕ := 600

/-- `GATTS_REQ_TYPE_WRITE_CHARACTERISTIC`. -/
def gattsReqTypeWriteCharacteristic : ℕ := 3

/-- `GATTS_REQ_TYPE_WRITE_DESCRIPTOR`. -/
def gattsReqTypeWriteDescriptor : ℕ := 4

/-- `bt_gatt_db_attribute_type_t` as the write path tells it apart. -/
inductive DbAttributeType
  | characteristic
  | descriptor
  | other
  deriving DecidableEq,Repr

/-- `tGATT_WRITE_REQ` as the application receives it. -/
structure WriteReq where
  /-- `handle`. -/
  handle : ℕ
  /-- `offset`, read from a Prepare Write. -/
  offset : ℕ
  /-- `len`. -/
  len : ℕ
  /-- The `len` bytes of `value`. -/
  value : List UInt8
  /-- `need_rsp`. -/
  needRsp : Bool
  /-- `is_prep`. -/
  isPrep : Bool
  deriving DecidableEq,Repr

/-- What a write PDU leads to: the request handed to the application by
`gatt_sr_send_req_callback`, and the error response sent to the client. -/
structure WriteEffects where
  /-- The request type and data of the application callback. -/
  callback : Option (ℕ×WriteReq)
  /-- The status of `gatt_send_error_rsp`. -/
  errorRsp : Option GattStatus
  deriving DecidableEq,Repr

/-- The `gatts_req_type` of the application callback for an attribute of
`gatt_type`, or `0` where the write is not tied to a characteristic or a descriptor. -/
def writeReqType : DbAttributeType → ℕ
  | .descriptor => gattsReqTypeWriteDescriptor
  | .characteristic => gattsReqTypeWriteCharacteristic
  | .other => 0

/-- The `switch (op_code)` of `gatts_process_write_req`: the `write_req` it
fills from the PDU bytes after the handle, or `none` for a Prepare Write too
short to hold its offset. -/
def writeReqOf (handle opCode len : ℕ) (data : List UInt8) : Except Fault (Option WriteReq) := do
  if opCode=gattReqPrepareWrite && decide (len<2) then return none
  let isPrep := opCode=gattReqPrepareWrite
  let offset ← (if isPrep then inRange (readLE data 0 2) else pure 0 : Except Fault ℕ)
  let p := if isPrep then data.drop 2 else data
  let len := if isPrep then len-2 else len
  let len := if opCode=gattSignCmdWrite then toUint16 ((len : ℤ)-gattAuthSignLen) else len
  -- `memcpy(sr_data.write_req.value, p, len)` into a `GATT_MAX_ATTR_LEN` array
  let value ← (if len≠0 then
      if gattMaxAttrLen<len then throw .outOfRange else inRange (readBytes p 0 len)
    else pure [] : Except Fault (List UInt8))
  return some ⟨handle,offset,len,value,opCode=gattReqWrite || opCode=gattReqPrepareWrite,isPrep⟩

/-- The end of `gatts_process_write_req` once the permission check has given
`status`: the application callback, or the error response. -/
def writeEffectsOf (status : GattStatus) (enqueued : Bool) (gattType : DbAttributeType) (opCode : ℕ)
    (req : WriteReq) : WriteEffects :=
  let (callback,status) : Option (ℕ×WriteReq)×GattStatus :=
    if status=.success then
      if enqueued then
        if writeReqType gattType≠0 then (some (writeReqType gattType,req),.pending)
        else (none,.error)
      else (none,.busy)
    else (none,status)
  let errorRsp :=
    if status≠.pending && status≠.busy && (opCode=gattReqPrepareWrite || opCode=gattReqWrite) then
      some status
    else none
  ⟨callback,errorRsp⟩

/-- `gatts_process_write_req` for an attribute the handle lookup found. The link
state is `secFlag` and `keySize`, and `enqueued` says whether
`gatt_sr_enqueue_cmd` returned a transaction id. -/
def gattsProcessWriteReq (attr : Attr) (gattType : DbAttributeType) (handle opCode len : ℕ)
    (data : List UInt8) (secFlag keySize : ℕ) (enqueued : Bool) : Except Fault WriteEffects := do
  match ← writeReqOf handle opCode len data with
  | none => return ⟨none,some .invalidPdu⟩
  | some req =>
    let status := gattsWriteAttrPermCheck (some attr) opCode req.offset true req.len secFlag keySize
    return writeEffectsOf status enqueued gattType opCode req

/-- The write opcodes that `gatts_process_attribute_req` hands to
`gatts_process_write_req`. -/
inductive WriteOp
  | reqWrite
  | cmdWrite
  | signCmdWrite
  | reqPrepareWrite
  deriving DecidableEq,Repr

/-- The ATT opcode of a write. -/
def WriteOp.opCode : WriteOp → ℕ
  | .reqWrite => gattReqWrite
  | .cmdWrite => gattCmdWrite
  | .signCmdWrite => gattSignCmdWrite
  | .reqPrepareWrite => gattReqPrepareWrite

/-- An entry of a service's `attr_list`, with the fields the dispatch reads. -/
structure DbAttr where
  /-- `handle`. -/
  handle : ℕ
  /-- The UUID and permission the checks read. -/
  attr : Attr
  /-- `gatt_type`. -/
  gattType : DbAttributeType
  deriving DecidableEq,Repr

/-- A `tGATT_SRV_LIST_ELEM`: a service's handle range and its attributes. -/
structure SrvListElem where
  /-- `s_hdl`. -/
  sHdl : ℕ
  /-- `e_hdl`. -/
  eHdl : ℕ
  /-- `p_db->attr_list`. -/
  attrList : List DbAttr
  deriving DecidableEq,Repr

/-- The attribute of `handle` in `gatt_cb.srv_list_info`: only the first
service whose range holds `handle` is searched. -/
def findAttr (srvList : List SrvListElem) (handle : ℕ) : Option DbAttr :=
  (srvList.find? fun el => el.sHdl ≤ handle && handle ≤ el.eHdl).bind
    fun el => el.attrList.find? fun a => a.handle=handle

/-- `gatts_process_attribute_req` for the write opcodes; the read opcodes go to
`gatts_process_read_req`, which is not modelled here. -/
def gattsProcessAttributeReq (srvList : List SrvListElem) (op : WriteOp) (len : ℕ)
    (data : List UInt8) (secFlag keySize : ℕ) (enqueued : Bool) : Except Fault WriteEffects := do
  let (status,handle,len,p) ← (if len<2 then pure (GattStatus.invalidPdu,0,len,data)
    else do
      let handle ← inRange (readLE data 0 2)
      pure (GattStatus.invalidHandle,handle,len-2,data.drop 2) : Except Fault (GattStatus×ℕ×ℕ×List UInt8))
  match if handle≠0 then findAttr srvList handle else none with
  | some a => gattsProcessWriteReq a.attr a.gattType handle op.opCode len p secFlag keySize enqueued
  | none => return ⟨none,if op=.cmdWrite || op=.signCmdWrite then none else some status⟩

/-- `gatt_server_handle_client_req` for the write opcodes: a pending command
drops the PDU, and one of `payload_size` bytes or more is refused. A Signed
Write Command gets here once `gatt_verify_signature` has accepted it. -/
def gattServerHandleClientReq (srvList : List SrvListElem) (cmdEmpty : Bool) (payloadSize : ℕ)
    (op : WriteOp) (len : ℕ) (data : List UInt8) (secFlag keySize : ℕ) (enqueued : Bool) :
    Except Fault WriteEffects :=
  if !cmdEmpty then pure ⟨none,none⟩
  else if payloadSize ≤ len then
    pure ⟨none,if op=.cmdWrite || op=.signCmdWrite then none else some .invalidPdu⟩
  else gattsProcessAttributeReq srvList op len data secFlag keySize enqueued

section Checks

variable {attr : Attr} {readLong dataPresent : Bool} {opCode offset len secFlag keySize : ℕ}

/-- What a read that `gatts_check_attr_readability` lets through has: a read
bit, an encrypted link with a long enough key for the encrypted read
permissions, and an authenticated key for `GATT_PERM_READ_ENC_MITM`. -/
structure ReadGranted (perm secFlag keySize : ℕ) : Prop where
  read_bit : anyBit perm gattReadAllowed
  encrypted : anyBit perm gattReadEncryptedRequired → anyBit secFlag gattSecFlagEncrypted
  key_size : anyBit perm gattReadEncryptedRequired → minKeySize perm ≤ keySize
  mitm : anyBit perm gattReadMitmRequired → anyBit secFlag gattSecFlagLkeyAuthed

/-- A read is answered only where the link meets every requirement of the permission. -/
theorem readGranted_of_success (h : gattsCheckAttrReadability attr readLong secFlag keySize=.success) :
    ReadGranted attr.permission secFlag keySize := by
  simp only [gattsCheckAttrReadability] at h
  split_ifs at h with hread hauth hmitm henc hkey hlong
  simp only [Bool.not_eq_true',Bool.and_eq_true,not_and,Bool.not_eq_false,decide_eq_true_eq,
    not_lt] at hread hauth hmitm henc hkey
  exact ⟨hread,henc,fun hp => hkey ⟨hp,henc hp⟩,hmitm⟩

/-- What a write that `gatts_write_attr_perm_check` lets through has, for the
permission `perm` after the mixed-security remap and the key size `minKey` of
the attribute's own permission. -/
structure WriteGranted (opCode perm secFlag keySize minKey : ℕ) : Prop where
  write_bit : anyBit perm gattWriteAllowed
  auth : anyBit perm gattWriteAuthRequired → anyBit secFlag gattSecFlagLkeyUnauthed
  mitm : anyBit perm gattWriteMitmRequired → anyBit secFlag gattSecFlagLkeyAuthed
  encrypted : anyBit perm gattWriteEncryptedPerm → anyBit secFlag gattSecFlagEncrypted
  key_size : anyBit perm gattWriteEncryptedPerm → minKey ≤ keySize
  sign_unencrypted : opCode=gattSignCmdWrite → anyBit secFlag gattSecFlagEncrypted=false

/-- A write is accepted only where the link meets the remapped permission and the
attribute's type and the value's length allow it. -/
theorem writeGranted_of_success
    (h : gattsWriteAttrPermCheck (some attr) opCode offset dataPresent len secFlag keySize=.success) :
    WriteGranted opCode (mixedSecurityPerm opCode attr.permission) secFlag keySize
        (minKeySize attr.permission) ∧
      writableStatus attr opCode offset dataPresent len=.success := by
  simp only [gattsWriteAttrPermCheck] at h
  split_ifs at h with hsign hbit hauth hmitm henc hkey hmode
  simp only [Bool.not_eq_true',Bool.and_eq_true,not_and,Bool.not_eq_false,decide_eq_true_eq,
    not_lt,Bool.not_eq_true] at hsign hbit hauth hmitm henc hkey
  refine ⟨⟨hbit,hauth,hmitm,henc,fun hp => hkey ⟨hp,henc hp⟩,?_⟩,h⟩
  intro hop
  simpa [hop] using hsign

/-- Once the link meets the remapped permission the chain's verdict is the
attribute's writability: the "LE security mode 2" branch never decides, since
the write-bit branch before it has returned on the same test. -/
theorem gattsWriteAttrPermCheck_of_granted
    (hg : WriteGranted opCode (mixedSecurityPerm opCode attr.permission) secFlag keySize
      (minKeySize attr.permission)) :
    gattsWriteAttrPermCheck (some attr) opCode offset dataPresent len secFlag keySize=
      writableStatus attr opCode offset dataPresent len := by
  obtain ⟨hbit,hauth,hmitm,henc,hkey,hsign⟩ := hg
  simp only [gattsWriteAttrPermCheck]
  split_ifs with h₁ h₂ h₃ h₄ h₅ h₆ h₇
  · simp only [Bool.and_eq_true,decide_eq_true_eq] at h₁
    simp [hsign h₁.1] at h₁
  · simp [hbit] at h₂
  · simp only [Bool.and_eq_true,Bool.not_eq_true'] at h₃
    simp [hauth h₃.1] at h₃
  · simp only [Bool.and_eq_true,Bool.not_eq_true'] at h₄
    simp [hmitm h₄.1] at h₄
  · simp only [Bool.and_eq_true,Bool.not_eq_true'] at h₅
    simp [henc h₅.1] at h₅
  · simp only [Bool.and_eq_true,decide_eq_true_eq] at h₆
    exact absurd (hkey h₆.1.1) (by omega)
  · simp only [Bool.and_eq_true,Bool.not_eq_true'] at h₇
    simp [hbit] at h₇
  · rfl

end Checks

section Defects

variable {attr : Attr} {dataPresent : Bool} {opCode offset len secFlag keySize : ℕ}

/-- Bits of a mask inside `m` are the same in `x` as in `x &&& m`. -/
theorem anyBit_eq_of_and_eq {x m y n : ℕ} (hx : x &&& m=y) (hn : n &&& m=n) :
    anyBit x n=anyBit y n := by
  have hxn : x &&& n=y &&& n :=
    calc x &&& n = x &&& (n &&& m) := by rw [hn]
      _ = (x &&& m) &&& n := by rw [Nat.land_comm n m,Nat.land_assoc]
      _ = y &&& n := by rw [hx]
  unfold anyBit
  rw [hxn]

/-- Without an encrypted write bit the mixed-security remap changes nothing. -/
theorem mixedSecurityPerm_of_unencrypted {perm : ℕ} (he : anyBit perm gattPermWriteEncrypted=false)
    (hm : anyBit perm gattPermWriteEncMitm=false) : mixedSecurityPerm opCode perm=perm := by
  simp [mixedSecurityPerm,he,hm]

/-- A Signed Write Command to an attribute whose only write bit is
`GATT_PERM_WRITE` passes the security chain on any unencrypted link: the
`GATT_WRITE_NOT_PERMIT` set for the missing signed permission is overwritten. -/
theorem gattsWriteAttrPermCheck_signCmdWrite_of_plain_write
    (hp : attr.permission &&& gattWriteAllowed=gattPermWrite)
    (henc : anyBit secFlag gattSecFlagEncrypted=false) :
    gattsWriteAttrPermCheck (some attr) gattSignCmdWrite offset dataPresent len secFlag keySize=
      writableStatus attr gattSignCmdWrite offset dataPresent len := by
  have hoff : ∀ n,n &&& gattWriteAllowed=n → anyBit gattPermWrite n=false →
      anyBit attr.permission n=false :=
    fun n hn hz => (anyBit_eq_of_and_eq hp hn).trans hz
  have hperm : mixedSecurityPerm gattSignCmdWrite attr.permission=attr.permission :=
    mixedSecurityPerm_of_unencrypted (hoff _ (by decide) (by decide)) (hoff _ (by decide) (by decide))
  apply gattsWriteAttrPermCheck_of_granted
  rw [hperm]
  refine ⟨?_,?_,?_,?_,?_,fun _ => henc⟩
  · rw [anyBit_eq_of_and_eq hp (by decide)]
    decide
  all_goals
    intro h
    rw [hoff _ (by decide) (by decide)] at h
    cases h

/-- An unsigned write to an attribute whose only write bit is
`GATT_PERM_WRITE_SIGNED` passes the security chain on any link with a link key,
encrypted or not: the authentication test asks only for the key, and the
"LE security mode 2" branch that would ask for encryption never fires. -/
theorem gattsWriteAttrPermCheck_unsigned_of_signed_only
    (hp : attr.permission &&& gattWriteAllowed=gattPermWriteSigned) (hop : opCode≠gattSignCmdWrite)
    (hkey : anyBit secFlag gattSecFlagLkeyUnauthed) :
    gattsWriteAttrPermCheck (some attr) opCode offset dataPresent len secFlag keySize=
      writableStatus attr opCode offset dataPresent len := by
  have hoff : ∀ n,n &&& gattWriteAllowed=n → anyBit gattPermWriteSigned n=false →
      anyBit attr.permission n=false :=
    fun n hn hz => (anyBit_eq_of_and_eq hp hn).trans hz
  have hperm : mixedSecurityPerm opCode attr.permission=attr.permission :=
    mixedSecurityPerm_of_unencrypted (hoff _ (by decide) (by decide)) (hoff _ (by decide) (by decide))
  apply gattsWriteAttrPermCheck_of_granted
  rw [hperm]
  refine ⟨?_,fun _ => hkey,?_,?_,?_,fun h => absurd h hop⟩
  · rw [anyBit_eq_of_and_eq hp (by decide)]
    decide
  all_goals
    intro h
    rw [hoff _ (by decide) (by decide)] at h
    cases h

end Defects

section Dispatch

variable {attr : Attr} {gattType : DbAttributeType} {handle opCode len n secFlag keySize : ℕ}
  {data : List UInt8} {enqueued : Bool}

/-- A write other than a Prepare Write whose value fits fills the request with
its `n` value bytes at offset zero. -/
theorem writeReqOf_of_command (hop : opCode≠gattReqPrepareWrite)
    (hn : (if opCode=gattSignCmdWrite then toUint16 ((len : ℤ)-gattAuthSignLen) else len)=n)
    (hfit : n ≤ gattMaxAttrLen) (hdata : n ≤ data.length) :
    writeReqOf handle opCode len data=.ok (some ⟨handle,0,n,data.take n,opCode=gattReqWrite,false⟩) := by
  -- the `memcpy` runs only for a nonempty value
  by_cases h0 : n=0
  · subst h0
    simp [writeReqOf,hop,hn]
    rfl
  · simp [writeReqOf,hop,hn,h0,Nat.not_lt.mpr hfit,readBytes,hdata]

/-- A request the switch fills carries the PDU's handle. -/
theorem writeReqOf_handle {req : WriteReq} (h : writeReqOf handle opCode len data=.ok (some req)) :
    req.handle=handle := by
  unfold writeReqOf at h
  split at h
  · cases h
  · dsimp only at h
    obtain ⟨offset,-,h⟩ := bind_eq_ok.mp h
    obtain ⟨value,-,h⟩ := bind_eq_ok.mp h
    cases h
    rfl

/-- The callback fires exactly for a passed check, with the request as filled. -/
theorem writeEffectsOf_callback {status : GattStatus} {t : ℕ} {req req' : WriteReq}
    (hc : (writeEffectsOf status enqueued gattType opCode req).callback=some (t,req')) :
    status=.success ∧ req'=req := by
  simp only [writeEffectsOf] at hc
  split_ifs at hc with hs
  cases hc
  exact ⟨hs,rfl⟩

/-- A passed check on a queued write to a characteristic or a descriptor
reaches the application, and no error response goes out. -/
theorem writeEffectsOf_of_success (hq : enqueued=true) (ht : writeReqType gattType≠0) (req : WriteReq) :
    writeEffectsOf .success enqueued gattType opCode req=⟨some (writeReqType gattType,req),none⟩ := by
  simp [writeEffectsOf,hq,ht]

/-- A write other than a Prepare Write whose value fits and whose check
passes reaches the application as a request for the `n` value bytes. -/
theorem gattsProcessWriteReq_of_command (hop : opCode≠gattReqPrepareWrite)
    (hn : (if opCode=gattSignCmdWrite then toUint16 ((len : ℤ)-gattAuthSignLen) else len)=n)
    (hfit : n ≤ gattMaxAttrLen) (hdata : n ≤ data.length)
    (hs : gattsWriteAttrPermCheck (some attr) opCode 0 true n secFlag keySize=.success)
    (hq : enqueued=true) (ht : writeReqType gattType≠0) :
    gattsProcessWriteReq attr gattType handle opCode len data secFlag keySize enqueued=
      .ok ⟨some (writeReqType gattType,⟨handle,0,n,data.take n,opCode=gattReqWrite,false⟩),none⟩ := by
  rw [gattsProcessWriteReq,writeReqOf_of_command hop hn hfit hdata,ok_bind]
  dsimp only
  rw [hs,writeEffectsOf_of_success hq ht]
  rfl

/-- The application hears of a write only once the permission check has passed
for the handle, offset and length it is handed. -/
theorem gattsProcessWriteReq_callback_sound {eff : WriteEffects} {t : ℕ} {req : WriteReq}
    (h : gattsProcessWriteReq attr gattType handle opCode len data secFlag keySize enqueued=.ok eff)
    (hc : eff.callback=some (t,req)) :
    req.handle=handle ∧
      gattsWriteAttrPermCheck (some attr) opCode req.offset true req.len secFlag keySize=.success := by
  obtain ⟨filled,hfill,h⟩ := bind_eq_ok.mp h
  cases filled with
  | none =>
    cases h
    cases hc
  | some req' =>
    cases h
    obtain ⟨hs,rfl⟩ := writeEffectsOf_callback hc
    exact ⟨writeReqOf_handle hfill,hs⟩

/-- A write PDU whose handle names an attribute is that attribute's write request. -/
theorem gattsProcessAttributeReq_of_found {srvList : List SrvListElem} {op : WriteOp} {a : DbAttr}
    (hlen : 2 ≤ len) (hh : readLE data 0 2=some handle) (hne : handle≠0)
    (hf : findAttr srvList handle=some a) :
    gattsProcessAttributeReq srvList op len data secFlag keySize enqueued=
      gattsProcessWriteReq a.attr a.gattType handle op.opCode (len-2) (data.drop 2) secFlag keySize
        enqueued := by
  simp [gattsProcessAttributeReq,Nat.not_lt.mpr hlen,hh,hne,hf]

/-- The application hears of a write only for an attribute of the database whose
check has passed for the handle, offset and length it is handed. -/
theorem gattsProcessAttributeReq_callback_sound {srvList : List SrvListElem} {op : WriteOp}
    {eff : WriteEffects} {t : ℕ} {req : WriteReq}
    (h : gattsProcessAttributeReq srvList op len data secFlag keySize enqueued=.ok eff)
    (hc : eff.callback=some (t,req)) :
    ∃ a,findAttr srvList req.handle=some a ∧
      gattsWriteAttrPermCheck (some a.attr) op.opCode req.offset true req.len secFlag keySize=.success := by
  unfold gattsProcessAttributeReq at h
  obtain ⟨⟨status,handle,len',p⟩,-,h⟩ := bind_eq_ok.mp h
  dsimp only at h
  split at h
  · next a hfound =>
    obtain ⟨rfl,hs⟩ := gattsProcessWriteReq_callback_sound h hc
    have hf : findAttr srvList req.handle=some a := by
      split_ifs at hfound
      exact hfound
    exact ⟨a,hf,hs⟩
  · cases h
    cases hc

/-- With no command pending and a PDU shorter than the MTU, the server hands a
write to `gatts_process_attribute_req`. -/
theorem gattServerHandleClientReq_of_accepted {srvList : List SrvListElem} {cmdEmpty : Bool}
    {payloadSize : ℕ} {op : WriteOp} (hc : cmdEmpty=true) (hl : len<payloadSize) :
    gattServerHandleClientReq srvList cmdEmpty payloadSize op len data secFlag keySize enqueued=
      gattsProcessAttributeReq srvList op len data secFlag keySize enqueued := by
  simp [gattServerHandleClientReq,hc,Nat.not_le.mpr hl]

/-- What the server guarantees for every write PDU: the application is called
only for an attribute of the database, over a link that meets the attribute's
permission after the mixed-security remap, and for a value the attribute's type
and length allow. -/
theorem gattServerHandleClientReq_callback_sound {srvList : List SrvListElem} {cmdEmpty : Bool}
    {payloadSize : ℕ} {op : WriteOp} {eff : WriteEffects} {t : ℕ} {req : WriteReq}
    (h : gattServerHandleClientReq srvList cmdEmpty payloadSize op len data secFlag keySize enqueued=
      .ok eff)
    (hc : eff.callback=some (t,req)) :
    ∃ a,findAttr srvList req.handle=some a ∧
      WriteGranted op.opCode (mixedSecurityPerm op.opCode a.attr.permission) secFlag keySize
        (minKeySize a.attr.permission) ∧
      writableStatus a.attr op.opCode req.offset true req.len=.success := by
  unfold gattServerHandleClientReq at h
  -- a dropped or refused PDU calls nothing
  split at h
  · cases h
    cases hc
  split at h
  · cases h
    cases hc
  · obtain ⟨a,hf,hs⟩ := gattsProcessAttributeReq_callback_sound h hc
    exact ⟨a,hf,writeGranted_of_success hs⟩

end Dispatch

/-- A service whose characteristic value at handle 3, of the Device Name type,
has `GATT_PERM_WRITE` as its only permission. -/
def plainWriteService : SrvListElem :=
  ⟨1,5,[⟨3,⟨.bits16 0x2A00,gattPermWrite⟩,.characteristic⟩]⟩

/-- A Signed Write Command after its opcode: handle 3, the value byte `0x41`,
and the twelve signature bytes that `gatt_verify_signature` has accepted. -/
def signedWritePdu : List UInt8 := [0x03,0x00,0x41]++List.replicate 12 0

theorem gattServerHandleClientReq_signed_write_without_signed_perm :
    anyBit gattPermWrite gattWriteSignedPerm=false ∧
      gattServerHandleClientReq [plainWriteService] true 23 .signCmdWrite 15 signedWritePdu 0 0 true=
        .ok ⟨some (gattsReqTypeWriteCharacteristic,⟨3,0,1,[0x41],false,false⟩),none⟩ := by
  refine ⟨by decide,?_⟩
  rw [gattServerHandleClientReq_of_accepted rfl (by decide),
    gattsProcessAttributeReq_of_found (by decide) rfl (by decide) rfl,
    gattsProcessWriteReq_of_command (by decide) rfl (by decide) (by decide) ?_ rfl (by decide)]
  · rfl
  · show gattsWriteAttrPermCheck (some ⟨.bits16 0x2A00,gattPermWrite⟩) gattSignCmdWrite 0 true 1 0 0=.success
    rw [gattsWriteAttrPermCheck_signCmdWrite_of_plain_write (by decide) (by decide)]
    rfl


end BluetoothStack.GattPermission
