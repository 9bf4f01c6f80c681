import BluetoothStack.StepRun

/-!
# The SDP server database

The server keeps its records in `sdp_cb.server_db`: each record has a handle, up to
`SDP_MAX_REC_ATTR` attributes kept in ascending id order, and a pad of `SDP_MAX_PAD_LEN` bytes that
holds the attribute values back to back up to `free_pad_ptr`. `SDP_AddAttribute` inserts an
attribute in order (replacing one with the same id through `SDP_DeleteAttribute`), copies its
value into the pad, and on a value that does not fit fails after it has already moved the later
attributes up one slot.

The attribute array and the pad are bounds-checked arrays; a value pointer is an offset into the
pad of its own record, so the rebasing of pointers when `SDP_DeleteRecord` moves a record down is
the identity here.
-/

namespace BluetoothStack.SdpDb

open ByteBuffer StepRun

/-- `SDP_MAX_RECORDS`. -/
def sdpMaxRecords : ℕ := 30
/-- `SDP_MAX_REC_ATTR`. -/
def sdpMaxRecAttr : ℕ := 25
/-- `SDP_MAX_PAD_LEN`. -/
def sdpMaxPadLen : ℕ := 600
/-- `ATTR_ID_SERVICE_RECORD_HDL`. -/
def attrIdServiceRecordHdl : ℕ := 0x0000
/-- `UINT_DESC_TYPE`. -/
def uintDescType : ℕ := 1
/-- `TEXT_STR_DESC_TYPE`. -/
def textStrDescType : ℕ := 4

/-- `tSDP_ATTRIBUTE`: the id, the type, the length and the offset of the value in the pad. -/
structure SdpAttribute where
  id : ℕ
  type : ℕ
  len : ℕ
  valuePtr : ℕ
  deriving DecidableEq,Repr

/-- An attribute slot as `memset` leaves it. -/
def SdpAttribute.zero : SdpAttribute := ⟨0,0,0,0⟩

/-- `tSDP_RECORD`. -/
structure SdpRecord where
  recordHandle : ℕ
  freePadPtr : ℕ
  numAttributes : ℕ
  attributes : List SdpAttribute
  attrPad : List UInt8
  deriving DecidableEq,Repr

/-- A record slot cleared by `memset` and given a handle. -/
def SdpRecord.cleared (handle : ℕ) : SdpRecord :=
  ⟨handle,0,0,List.replicate sdpMaxRecAttr SdpAttribute.zero,List.replicate sdpMaxPadLen 0⟩

/-- The attributes `[0, num_attributes)` of a record. -/
def SdpRecord.liveAttrs (r : SdpRecord) : List SdpAttribute := r.attributes.take r.numAttributes

/-- `sdp_cb.server_db`: the records `record[0 .. num_records)`. -/
structure ServerDb where
  records : List SdpRecord
  deriving DecidableEq,Repr

/-- The database before any record is created. -/
def ServerDb.empty : ServerDb := ⟨[]⟩

section Arrays

/-- A bounds-checked read of `attribute[i]`. -/
def SdpRecord.attrAt (r : SdpRecord) (i : ℕ) : Except Fault SdpAttribute := inRange r.attributes[i]?

/-- A bounds-checked write of `attribute[i]`. -/
def SdpRecord.setAttr (r : SdpRecord) (i : ℕ) (a : SdpAttribute) : Except Fault SdpRecord :=
  if i<r.attributes.length then .ok {r with attributes := r.attributes.set i a} else .error .outOfRange

/-- A bounds-checked read of `attr_pad[i]`. -/
def SdpRecord.padAt (r : SdpRecord) (i : ℕ) : Except Fault UInt8 := inRange r.attrPad[i]?

/-- A bounds-checked write of `attr_pad[i]`. -/
def SdpRecord.setPad (r : SdpRecord) (i : ℕ) (b : UInt8) : Except Fault SdpRecord :=
  if i<r.attrPad.length then .ok {r with attrPad := r.attrPad.set i b} else .error .outOfRange

end Arrays

section DeleteAttribute

/-- The search of the attributes from slot `xx` on, `k` of them, for the id `attrId`. -/
def findAttr (r : SdpRecord) (attrId : ℕ) : ℕ → ℕ → Except Fault (Option ℕ)
  | 0,_ => .ok none
  | k+1,xx => r.attrAt xx >>= fun a => if a.id=attrId then .ok (some xx) else findAttr r attrId k (xx+1)

/-- The loop over `attribute[yy]` from `yy` on, `k` of them, that moves every value stored after
`padPtr` down by `len`. -/
def rebaseValues (padPtr len : ℕ) : ℕ → ℕ → SdpRecord → Except Fault SdpRecord
  | 0,_,r => .ok r
  | k+1,yy,r => r.attrAt yy >>= fun a =>
    (if padPtr<a.valuePtr then r.setAttr yy {a with valuePtr := a.valuePtr-len} else .ok r) >>=
      rebaseValues padPtr len k (yy+1)

/-- `*p_attr = *(p_attr + 1)` for `k` slots from `yy` on. -/
def shiftAttrsDown : ℕ → ℕ → SdpRecord → Except Fault SdpRecord
  | 0,_,r => .ok r
  | k+1,yy,r => r.attrAt (yy+1) >>= fun a => r.setAttr yy a >>= shiftAttrsDown k (yy+1)

/-- `*pad_ptr = *(pad_ptr + len)` for `k` bytes from `padPtr` on. -/
def shiftPadDown (len : ℕ) : ℕ → ℕ → SdpRecord → Except Fault SdpRecord
  | 0,_,r => .ok r
  | k+1,padPtr,r => r.padAt (padPtr+len) >>= fun b => r.setPad padPtr b >>= shiftPadDown len k (padPtr+1)

/-- `SDP_DeleteAttribute` in a record: values after the deleted one move down in the pad, their
pointers first, then the later attributes move down one slot; `none` when the id is not there. -/
def deleteAttrInRec (r : SdpRecord) (attrId : ℕ) : Except Fault (Option SdpRecord) :=
  findAttr r attrId r.numAttributes 0 >>= fun
  | none => .ok none
  | some xx =>
    r.attrAt xx >>= fun a =>
    (if a.len≠0 then rebaseValues a.valuePtr a.len r.numAttributes 0 r else .ok r) >>= fun r =>
    let r := {r with numAttributes := r.numAttributes-1}
    shiftAttrsDown (r.numAttributes-xx) xx r >>= fun r =>
    if a.len≠0 then
      (shiftPadDown a.len (r.freePadPtr-(a.valuePtr+a.len)) a.valuePtr r).map fun r =>
        some {r with freePadPtr := r.freePadPtr-a.len}
    else .ok (some r)

end DeleteAttribute

section AddAttribute

/-- The search of `SDP_AddAttribute` for the slot of `attrId` among `k` slots from `xx` on: the
slot of an attribute with that id, which is deleted first, or of the first one with a larger id,
or the end. -/
def findInsertSlot (attrId : ℕ) : ℕ → ℕ → SdpRecord → Except Fault (ℕ×SdpRecord)
  | 0,xx,r => .ok (xx,r)
  | k+1,xx,r => r.attrAt xx >>= fun a =>
    if a.id=attrId then
      -- the old attribute is deleted and the loop stops at the slot it had
      deleteAttrInRec r attrId >>= fun r' => .ok (xx,r'.getD r)
    else if attrId<a.id then .ok (xx,r)
    else findInsertSlot attrId k (xx+1) r

/-- `attribute[yy] = attribute[yy - 1]` for `yy` from `yy` down, `k` times. -/
def shiftAttrsUp : ℕ → ℕ → SdpRecord → Except Fault SdpRecord
  | 0,_,r => .ok r
  | k+1,yy,r => r.attrAt (yy-1) >>= fun a => r.setAttr yy a >>= shiftAttrsUp k (yy-1)

/-- A bounds-checked write of `p_val[i] = '\0'` into the caller's value. -/
def zeroAt (val : List UInt8) (i : ℕ) : Except Fault (List UInt8) :=
  if i<val.length then .ok (val.set i 0) else .error .outOfRange

/-- `memcpy(&attr_pad[free_pad_ptr], p_val, attr_len)`, a byte at a time. -/
def copyValue (val : List UInt8) : ℕ → ℕ → SdpRecord → Except Fault SdpRecord
  | 0,_,r => .ok r
  | k+1,i,r => inRange val[i]? >>= fun b => r.setPad (r.freePadPtr+i) b >>= copyValue val k (i+1)

/-- `SDP_AddAttribute` in a record, with `p_val` as `none` for NULL; the result is the record and
what the call returns. -/
def addAttrInRec (r : SdpRecord) (attrId attrType attrLen : ℕ) (val : Option (List UInt8)) :
    Except Fault (SdpRecord×Bool) :=
  findInsertSlot attrId r.numAttributes 0 r >>= fun (xx,r) =>
  if r.numAttributes=sdpMaxRecAttr then .ok (r,false)
  else
    -- the later attributes move up before the value is known to fit
    (if xx=r.numAttributes then .ok r else shiftAttrsUp (r.numAttributes-xx) r.numAttributes r) >>= fun r =>
    r.attrAt xx >>= fun old =>
    let a : SdpAttribute := {old with id := attrId,type := attrType,len := attrLen}
    r.setAttr xx a >>= fun r =>
    (if sdpMaxPadLen ≤ r.freePadPtr+attrLen then
      if attrType=textStrDescType then
        match val with
        | some v =>
          zeroAt v (sdpMaxPadLen-r.freePadPtr) >>= fun v =>
          zeroAt v (sdpMaxPadLen-r.freePadPtr+1) >>= fun v =>
          .ok (sdpMaxPadLen-r.freePadPtr,some v)
        | none => .error .outOfRange
      else .ok (0,val)
    else .ok (attrLen,val)) >>= fun (attrLen,val) =>
    match val with
    | some v =>
      if 0<attrLen then
        copyValue v attrLen 0 r >>= fun r =>
        r.setAttr xx {a with len := attrLen,valuePtr := r.freePadPtr} >>= fun r =>
        .ok ({r with freePadPtr := r.freePadPtr+attrLen,numAttributes := r.numAttributes+1},true)
      else if a.len≠0 then
        r.setAttr xx {a with id := 0,type := 0,len := 0} >>= fun r => .ok (r,false)
      else .ok ({r with numAttributes := r.numAttributes+1},true)
    | none => r.setAttr xx {a with id := 0,type := 0,len := 0} >>= fun r => .ok (r,false)

/-- The slot of the first record with a handle. -/
def findRecord (db : ServerDb) (handle : ℕ) : Option ℕ := db.records.findIdx? fun r => r.recordHandle=handle

/-- Apply a change to the record with a handle; `false` when there is none. -/
def withRecord (db : ServerDb) (handle : ℕ) (f : SdpRecord → Except Fault (SdpRecord×Bool)) :
    Except Fault (ServerDb×Bool) :=
  match findRecord db handle with
  | none => .ok (db,false)
  | some i =>
    match db.records[i]? with
    | none => .error .outOfRange
    | some r => (f r).map fun (r,ok) => (⟨db.records.set i r⟩,ok)

/-- `SDP_AddAttribute`. -/
def sdpAddAttribute (db : ServerDb) (handle attrId attrType attrLen : ℕ) (val : Option (List UInt8)) :
    Except Fault (ServerDb×Bool) :=
  withRecord db handle fun r => addAttrInRec r attrId attrType attrLen val

/-- `SDP_DeleteAttribute`. -/
def sdpDeleteAttribute (db : ServerDb) (handle attrId : ℕ) : Except Fault (ServerDb×Bool) :=
  withRecord db handle fun r => (deleteAttrInRec r attrId).map fun
    | none => (r,false)
    | some r => (r,true)

end AddAttribute

section Records

/-- `SDP_CreateRecord`: a cleared record with the handle after the last one (0x10000 for the
first), whose handle is added as attribute 0; 0 when the database is full. -/
def sdpCreateRecord (db : ServerDb) : Except Fault (ServerDb×ℕ) :=
  if db.records.length<sdpMaxRecords then
    let handle := match db.records.getLast? with
      | some r => (r.recordHandle+1)%2^32
      | none => 0x10000
    let db : ServerDb := ⟨db.records++[SdpRecord.cleared handle]⟩
    (sdpAddAttribute db handle attrIdServiceRecordHdl uintDescType 4 (some (encodeBE 4 handle))).map
      fun (db,_) => (db,handle)
  else .ok (db,0)

/-- `SDP_DeleteRecord`: all records for handle 0, else the record with the handle, the later
ones moving down. -/
def sdpDeleteRecord (db : ServerDb) (handle : ℕ) : ServerDb×Bool :=
  if handle=0 ∨ db.records=[] then (ServerDb.empty,true)
  else match findRecord db handle with
    | none => (db,false)
    | some i => (⟨db.records.eraseIdx i⟩,true)

end Records

section Faults

/-- The ids of the attributes `[0, num_attributes)` of each record. -/
def ServerDb.liveIds (db : ServerDb) : List (List ℕ) := db.records.map fun r => r.liveAttrs.map (·.id)

/-- A record with attributes 0 (its handle) and 9: adding attribute 5 with a value too long for
the pad fails after attribute 9 has moved up a slot, and the failed slot, zeroed, takes its place
among the record's attributes. The call returns false and attribute 9 is gone. -/
theorem sdp_add_attribute_failure_loses_attribute :
    (sdpCreateRecord ServerDb.empty >>= fun (db1,h) =>
      sdpAddAttribute db1 h 9 uintDescType 1 (some [7]) >>= fun (db2,ok2) =>
      sdpAddAttribute db2 h 5 uintDescType 600 (some (List.replicate 600 0)) >>= fun (db3,ok3) =>
      .ok (ok2,db2.liveIds,ok3,db3.liveIds))=.ok (true,[[0,9]],false,[[0,0]]) := by
  -- the 600-byte value nests past the default depth
  set_option maxRecDepth 20000 in
  rfl

end Faults

end BluetoothStack.SdpDb
