import BluetoothStack.StepRun

/-!
# The SDP client: responses from a server and the discovery database

`sdp_disc_server_rsp` hands each response PDU to the handler of the
discovery state: `process_service_search_rsp` collects record handles,
`process_service_attr_rsp` and `process_service_search_attr_rsp` collect
attribute lists into the `rsp_list` scratchpad and, once a list is complete,
`save_attr_seq` and `add_attr` store its records and attributes in the
caller's discovery database.

The PDU and the scratchpad are bounds-checked: a read of the PDU past its
length, or of `rsp_list` past its first `list_len` bytes, is a fault, and so
is a write past the end of the database memory, the 4096-byte scratchpad or
the 21-entry handle array. `add_attr` recurses into sequences; the model gives
it fuel, and every call consumes at least the type byte, so the bytes left
bound the fuel it needs.
-/

namespace BluetoothStack.SdpDiscovery

open ByteBuffer StepRun

/-- `SDP_PDU_SERVICE_SEARCH_RSP`. -/
def sdpPduServiceSearchRsp : ℕ := 0x03
/-- `SDP_PDU_SERVICE_ATTR_RSP`. -/
def sdpPduServiceAttrRsp : ℕ := 0x05
/-- `SDP_PDU_SERVICE_SEARCH_ATTR_RSP`. -/
def sdpPduServiceSearchAttrRsp : ℕ := 0x07
/-- `SDP_MAX_LIST_BYTE_COUNT`: the size of the `rsp_list` scratchpad. -/
def sdpMaxListByteCount : ℕ := 4096
/-- `SDP_MAX_CONTINUATION_LEN`. -/
def sdpMaxContinuationLen : ℕ := 16
/-- `SDP_MAX_DISC_SERVER_RECS`: the size of the handle array and `max_recs_per_search`. -/
def sdpMaxDiscServerRecs : ℕ := 21
/-- `MAX_NEST_LEVELS`. -/
def maxNestLevels : ℕ := 5
/-- `SDP_DISC_ATTR_LEN_MASK`. -/
def sdpDiscAttrLenMask : ℕ := 0x0FFF
/-- `SDP_ADDITIONAL_LIST_MASK`: the flag `add_attr` keeps in the top bit of the nesting level. -/
def sdpAdditionalListMask : ℕ := 0x80
/-- `ATTR_ID_PROTOCOL_DESC_LIST`. -/
def attrIdProtocolDescList : ℕ := 0x0004
/-- `ATTR_ID_ADDITION_PROTO_DESC_LISTS`. -/
def attrIdAdditionProtoDescLists : ℕ := 0x000D

/-- `UINT_DESC_TYPE`. -/
def uintDescType : ℕ := 1
/-- `TWO_COMP_INT_DESC_TYPE`. -/
def twoCompIntDescType : ℕ := 2
/-- `UUID_DESC_TYPE`. -/
def uuidDescType : ℕ := 3
/-- `TEXT_STR_DESC_TYPE`. -/
def textStrDescType : ℕ := 4
/-- `BOOLEAN_DESC_TYPE`. -/
def booleanDescType : ℕ := 5
/-- `DATA_ELE_SEQ_DESC_TYPE`. -/
def dataEleSeqDescType : ℕ := 6
/-- `DATA_ELE_ALT_DESC_TYPE`. -/
def dataEleAltDescType : ℕ := 7
/-- `URL_DESC_TYPE`. -/
def urlDescType : ℕ := 8

/-- `sizeof(tSDP_DISC_ATTR)` on an LP64 build: the link, id and length-type fields, then the
eight-byte value union at offset 16. -/
def sizeofDiscAttr : ℕ := 24
/-- The offset of `attr_value` in `tSDP_DISC_ATTR`, where array values are copied. -/
def discAttrValueOffset : ℕ := 16
/-- `sizeof(tSDP_DISC_REC)` on an LP64 build. -/
def sizeofDiscRec : ℕ := 32

/-- The disconnect reasons the handlers give: `SDP_SUCCESS`, `SDP_INVALID_PDU_SIZE`,
`SDP_INVALID_CONT_STATE`, `SDP_ILLEGAL_PARAMETER`, `SDP_NO_RECS_MATCH`, `SDP_GENERIC_ERROR`
and `SDP_DB_FULL`. -/
def sdpSuccess : ℕ := 0x0000
/-- `SDP_INVALID_PDU_SIZE`. -/
def sdpInvalidPduSize : ℕ := 0x0004
/-- `SDP_INVALID_CONT_STATE`. -/
def sdpInvalidContState : ℕ := 0x0005
/-- `SDP_ILLEGAL_PARAMETER`. -/
def sdpIllegalParameter : ℕ := 0x000B
/-- `SDP_NO_RECS_MATCH`. -/
def sdpNoRecsMatch : ℕ := 0xFFF0
/-- `SDP_GENERIC_ERROR`. -/
def sdpGenericError : ℕ := 0xFFF3
/-- `SDP_DB_FULL`. -/
def sdpDbFull : ℕ := 0xFFF4

/-- The last twelve bytes of the Bluetooth base UUID, which `sdpu_is_base_uuid` compares. -/
def sdpBaseUuidTail : List UInt8 := [0x00,0x00,0x10,0x00,0x80,0x00,0x00,0x80,0x5F,0x9B,0x34,0xFB]

/-- An unsigned value stored into a `uint32_t`. -/
def toUint32 (n : ℤ) : ℕ := (n%2^32).toNat

/-- A bounds-checked read of the byte at `i`. -/
def rdByte (buf : List UInt8) (i : ℕ) : Except Fault ℕ := inRange ((buf[i]?).map UInt8.toNat)

/-- A bounds-checked read of a `w`-byte big-endian field at `p`. -/
def rdBE (buf : List UInt8) (p w : ℕ) : Except Fault ℕ := inRange (readBE buf p w)

/-- A bounds-checked read of `n` bytes at `p`. -/
def rdBytes (buf : List UInt8) (p n : ℕ) : Except Fault (List UInt8) := inRange (readBytes buf p n)

/-- `sdpu_get_len_from_type`: the length of a data element from the size index in the low
three bits of its type byte, reading the length field that follows for the last three
indices; `none` is the NULL return when that field would pass `pEnd`. The result is the
position after the header and the length. -/
def sdpuGetLenFromType (buf : List UInt8) (p pEnd type : ℕ) : Except Fault (Option (ℕ×ℕ)) :=
  match type &&& 7 with
  | 0 => .ok (some (p,1))
  | 1 => .ok (some (p,2))
  | 2 => .ok (some (p,4))
  | 3 => .ok (some (p,8))
  | 4 => .ok (some (p,16))
  | 5 => if pEnd<p+1 then .ok none else (rdBE buf p 1).map fun u8 => some (p+1,u8)
  | 6 => if pEnd<p+2 then .ok none else (rdBE buf p 2).map fun u16 => some (p+2,u16)
  -- a four-byte length is kept as a `uint16_t`
  | _ => if pEnd<p+4 then .ok none else (rdBE buf p 4).map fun u32 => some (p+4,u32%65536)

/-- An attribute as `add_attr` links it: its id, its `attr_len_type`, the value bytes it
stored (none for a list, whose entries follow it) and the nesting level it was found at. -/
structure DiscAttr where
  attrId : ℕ
  attrLenType : ℕ
  value : List UInt8
  level : ℕ
  deriving DecidableEq,Repr

/-- The `raw_data` buffer of a discovery database: its `raw_size` and the bytes copied so far,
whose count is `raw_used`. -/
structure RawData where
  rawSize : ℕ
  bytes : List UInt8
  deriving DecidableEq,Repr

/-- `tSDP_DISCOVERY_DB` as the client fills it: the size of the memory after the header, what
is still free, how far `p_free_mem` has moved, the records and attributes linked so far (an
attribute is linked after the entries of its list), and the optional raw buffer. -/
structure DiscDb where
  memSize : ℕ
  memFree : ℕ
  used : ℕ
  numRecs : ℕ
  attrs : List DiscAttr
  raw : Option RawData
  deriving DecidableEq,Repr

/-- Move `p_free_mem` on by `n` bytes and take them off `mem_free`, a `uint32_t`. -/
def DiscDb.reserve (db : DiscDb) (n : ℕ) : DiscDb :=
  {db with used := db.used+n,memFree := toUint32 ((db.memFree : ℤ)-n)}

/-- A bounds-checked write of `n` bytes at `p_free_mem`. -/
def DiscDb.write (db : DiscDb) (n : ℕ) : Except Fault Unit :=
  if db.used+n ≤ db.memSize then .ok () else .error .outOfRange

/-- Link an attribute at the end of its record or list. -/
def DiscDb.link (db : DiscDb) (a : DiscAttr) : DiscDb := {db with attrs := db.attrs++[a]}

/-- `add_record`: a record is carved out of the free memory when it fits. -/
def addRecord (db : DiscDb) : Except Fault (Option DiscDb) :=
  if db.memFree<sizeofDiscRec then .ok none
  else (db.write sizeofDiscRec).map fun _ => some {db.reserve sizeofDiscRec with numRecs := db.numRecs+1}

/-- The memory `add_attr` asks for: the attribute, with the value bytes past the four of the
union when the value is longer, rounded up to a multiple of four. -/
def attrTotalLen (attrLen : ℕ) : ℕ :=
  let totalLen := if 4<attrLen then attrLen-4+sizeofDiscAttr else sizeofDiscAttr
  (totalLen+3)/4*4

/-- The header of a data element at `p`: its type byte, the position of its value and its
length masked to twelve bits, or `none` when the length field or the value passes `pEnd`. -/
def attrHeader (buf : List UInt8) (p pEnd : ℕ) : Except Fault (Option (ℕ×ℕ×ℕ)) :=
  rdByte buf p >>= fun type =>
  sdpuGetLenFromType buf (p+1) pEnd type >>= fun
    | none => .ok none
    | some (q,attrLen) =>
      if pEnd<q+attrLen then .ok none
      -- the mask comes after the length check
      else .ok (some (type,q,attrLen &&& sdpDiscAttrLenMask))

/-- What the value cases of `add_attr` that store bytes do: continue at a position with the
value stored and a length-type, or return `p_attr_end` at once without linking. -/
inductive StoreResult
  | stored (q attrLenType : ℕ) (value : List UInt8)
  | skip
  deriving DecidableEq,Repr

/-- The integer cases (`UINT_DESC_TYPE` falling through, `TWO_COMP_INT_DESC_TYPE`): one, two or
four bytes into the union, any other length copied as an array. -/
def storeInt (buf : List UInt8) (q attrLen lenType : ℕ) : Except Fault StoreResult :=
  (rdBytes buf q attrLen).map fun v => .stored (q+attrLen) lenType v

/-- The UUID case: two or four bytes, a four-byte UUID below 0x10000 kept in two; sixteen bytes
on the base UUID kept in two or four, others copied whole; any other length is skipped. -/
def storeUuid (buf : List UInt8) (q attrLen attrType : ℕ) : Except Fault StoreResult :=
  let lenType := attrLen ||| attrType <<< 12
  if attrLen=2 then (rdBytes buf q 2).map fun v => .stored (q+2) lenType v
  else if attrLen=4 then
    rdBE buf q 4 >>= fun u32 =>
    if u32<0x10000 then (rdBytes buf (q+2) 2).map fun v => .stored (q+4) (2 ||| attrType <<< 12) v
    else (rdBytes buf q 4).map fun v => .stored (q+4) lenType v
  else if attrLen=16 then
    -- `sdpu_is_base_uuid` reads bytes 4 to 15
    rdBytes buf (q+4) 12 >>= fun tail =>
    if tail=sdpBaseUuidTail then
      rdBytes buf q 2 >>= fun hi =>
      if hi=[0,0] then (rdBytes buf (q+2) 2).map fun v => .stored (q+16) (attrType <<< 12 ||| 2) v
      else (rdBytes buf q 4).map fun v => .stored (q+16) (attrType <<< 12 ||| 4) v
    else (rdBytes buf q 16).map fun v => .stored (q+16) lenType v
  else .ok .skip

/-- The cases of `add_attr` that do not recurse, by the type in the top five bits. -/
def storeValue (buf : List UInt8) (q attrType attrLen : ℕ) : Except Fault StoreResult :=
  let lenType := attrLen ||| attrType <<< 12
  if attrType=uintDescType ∨ attrType=twoCompIntDescType then storeInt buf q attrLen lenType
  else if attrType=uuidDescType then storeUuid buf q attrLen attrType
  else if attrType=textStrDescType ∨ attrType=urlDescType then
    (rdBytes buf q attrLen).map fun v => .stored (q+attrLen) lenType v
  else if attrType=booleanDescType then
    if attrLen=1 then (rdBytes buf q 1).map fun v => .stored (q+1) lenType v else .ok .skip
  -- a nil element and the reserved types are linked with nothing read
  else .ok (.stored q lenType [])

/-- The bytes `add_attr` writes at `p_free_mem` for a stored value: the attribute itself, and
an array value copied from offset 16 when it is longer than the union. -/
def storedBytes (value : List UInt8) : ℕ := max sizeofDiscAttr (discAttrValueOffset+value.length)

mutual

/-- `add_attr`: read one data element at `p` and store it as attribute `attrId` at nesting
level `nestLevel`; the result is the position after it, or `none` for the NULL return. -/
def addAttr : ℕ → List UInt8 → ℕ → ℕ → DiscDb → ℕ → ℕ → Except Fault (Option ℕ×DiscDb)
  | 0,_,_,_,_,_,_ => .error .noProgress
  | fuel+1,buf,p,pEnd,db,attrId,nestLevel =>
    let isAdditionalList := nestLevel &&& sdpAdditionalListMask
    let level := nestLevel &&& 0x7F
    attrHeader buf p pEnd >>= fun
    | none => .ok (none,db)
    | some (type,q,attrLen) =>
      let attrType := (type >>> 3) &&& 0x0F
      let lenType := attrLen ||| attrType <<< 12
      if db.memFree<attrTotalLen attrLen then .ok (none,db)
      else db.write sizeofDiscAttr >>= fun _ =>
      if attrType=dataEleSeqDescType ∨ attrType=dataEleAltDescType then
        -- a list reserves its attribute before its entries are added
        let db := db.reserve sizeofDiscAttr
        if maxNestLevels ≤ level then .ok (some (q+attrLen),db)
        else
          let listLevel := if isAdditionalList≠0 ∨ attrId=attrIdAdditionProtoDescLists then
            level ||| sdpAdditionalListMask else level
          addAttrList fuel buf q (q+attrLen) pEnd db ((listLevel+1)%256) >>= fun
          | (none,db) => .ok (none,db)
          | (some r,db) => .ok (some r,db.link ⟨attrId,lenType,[],level⟩)
      else
        -- inside an additional protocol list a protocol descriptor list id opens a nested list
        (if attrType=uintDescType ∧ isAdditionalList≠0 ∧ attrLen=2 then rdBE buf q 2 else .ok 0) >>= fun id =>
        if attrType=uintDescType ∧ isAdditionalList≠0 ∧ attrLen=2 ∧ id=attrIdProtocolDescList then
          let db := db.reserve sizeofDiscAttr
          if maxNestLevels ≤ level then .ok (some (q+attrLen),db)
          else addAttr fuel buf (q+2) pEnd db attrIdProtocolDescList (level+1) >>= fun
            | (r,db) => .ok (r,db.link ⟨attrId,lenType,[],level⟩)
        else storeValue buf q attrType attrLen >>= fun
          | .skip => .ok (some (q+attrLen),db)
          | .stored r lenType' value =>
            (db.write (storedBytes value)).map fun _ =>
              (some r,(db.reserve (attrTotalLen attrLen)).link ⟨attrId,lenType',value,level⟩)
termination_by structural fuel => fuel

/-- The loop of `add_attr` over the entries of a list, `while (p < p_attr_end)`; each entry is
read against the end of the enclosing element, not of the list. -/
def addAttrList : ℕ → List UInt8 → ℕ → ℕ → ℕ → DiscDb → ℕ → Except Fault (Option ℕ×DiscDb)
  | 0,_,p,pAttrEnd,_,db,_ => if pAttrEnd ≤ p then .ok (some p,db) else .error .noProgress
  | fuel+1,buf,p,pAttrEnd,pEnd,db,nestLevel =>
    if pAttrEnd ≤ p then .ok (some p,db)
    else addAttr fuel buf p pEnd db 0 nestLevel >>= fun
      | (none,db) => .ok (none,db)
      | (some q,db) => addAttrList fuel buf q pAttrEnd pEnd db nestLevel
termination_by structural fuel => fuel

end

/-- The number of calls `add_attr` is given for an element at `p`: every call reads a type
byte, and a list makes a call per entry. -/
def addAttrFuel (pEnd p : ℕ) : ℕ := 2*(pEnd-p)+2

/-- The loop of `save_attr_seq` over the attributes of a record: an attribute id, which must
be a two-byte unsigned integer, then its value through `add_attr`. The id's length field is
read against the end of the whole list, its value against the end of the record. -/
def saveAttrLoop : ℕ → List UInt8 → ℕ → ℕ → ℕ → DiscDb → Except Fault (Option ℕ×DiscDb)
  | fuel,buf,p,pSeqEnd,pMsgEnd,db =>
    if pSeqEnd ≤ p then .ok (some p,db)
    else match fuel with
      | 0 => .error .noProgress
      | fuel+1 =>
        rdByte buf p >>= fun type =>
        sdpuGetLenFromType buf (p+1) pMsgEnd type >>= fun
        | none => .ok (none,db)
        | some (q,attrLen) =>
          if pSeqEnd<q+attrLen then .ok (none,db)
          else if type >>> 3≠uintDescType ∨ attrLen≠2 then .ok (none,db)
          else rdBE buf q 2 >>= fun attrId =>
            addAttr (addAttrFuel pSeqEnd (q+2)) buf (q+2) pSeqEnd db attrId 0 >>= fun
            | (none,db) => .ok (none,db)
            | (some r,db) => saveAttrLoop fuel buf r pSeqEnd pMsgEnd db

/-- `save_attr_seq`: one record, a sequence of attribute id and value pairs; the record is
added to the database before its attributes. -/
def saveAttrSeq (buf : List UInt8) (p pMsgEnd : ℕ) (db : DiscDb) : Except Fault (Option ℕ×DiscDb) :=
  rdByte buf p >>= fun type =>
  if type >>> 3≠dataEleSeqDescType then .ok (none,db)
  else sdpuGetLenFromType buf (p+1) pMsgEnd type >>= fun
    | none => .ok (none,db)
    | some (q,seqLen) =>
      if pMsgEnd<q+seqLen then .ok (none,db)
      else addRecord db >>= fun
        | none => .ok (none,db)
        | some db => saveAttrLoop seqLen buf q (q+seqLen) pMsgEnd db

/-- An `unsigned int` read as an `int`. -/
def toInt32 (n : ℕ) : ℤ := if n<2^31 then n else (n : ℤ)-2^32

/-- `sdp_copy_raw_data`: the list, or with `offset` the inside of its outer sequence, copied
into the raw buffer as far as it has room. `false` is the failed return. -/
def sdpCopyRawData (rsp : List UInt8) (raw : Option RawData) (offset : Bool) :
    Except Fault (Bool×Option RawData) :=
  match raw with
  | none => .ok (true,none)
  | some r =>
    let cpyLen := toUint32 ((r.rawSize : ℤ)-r.bytes.length)
    (if offset then
      rdByte rsp 0 >>= fun type =>
      sdpuGetLenFromType rsp 1 rsp.length type >>= fun
      | none => .ok none
      | some (p,listLen) =>
        let cpyLen := toUint32 ((cpyLen : ℤ)-1)
        if rsp.length<p+listLen then .ok none
        else if toInt32 cpyLen<((p-1 : ℕ) : ℤ) then .ok none
        else .ok (some (p,listLen,toUint32 ((cpyLen : ℤ)-(p-1 : ℕ))))
    else .ok (some (0,rsp.length,cpyLen))) >>= fun
    | none => .ok (false,raw)
    | some (p,listLen,cpyLen) =>
      let cpyLen := min (min cpyLen listLen) (sdpMaxListByteCount-p)
      rdBytes rsp p cpyLen >>= fun bytes =>
      if r.bytes.length+cpyLen ≤ r.rawSize then .ok (true,some {r with bytes := r.bytes++bytes})
      else .error .outOfRange

/-- `disc_state`. -/
inductive DiscState
  | waitConn
  | waitHandles
  | waitAttr
  | waitSearchAttr
  | waitCancel
  deriving DecidableEq,Repr

/-- The discovery fields of `tCONN_CB`: the state, the record handles found so far (an array
of 21), the handle being read, the scratchpad `rsp_list[0 .. list_len)`, the next
transaction id and the caller's database. -/
structure DiscCcb where
  discState : DiscState
  numHandles : ℕ
  handles : List ℕ
  curHandle : ℕ
  rspList : List UInt8
  transactionId : ℕ
  db : DiscDb
  deriving DecidableEq,Repr

/-- What a response makes the client do: disconnect with a reason, or send the next request
with its transaction id and the continuation bytes it copies. -/
inductive SdpOut
  | disconnect (reason : ℕ)
  | serviceSearchReq (transactionId : ℕ) (cont : List UInt8)
  | serviceAttrReq (transactionId handle : ℕ) (cont : List UInt8)
  | serviceSearchAttrReq (transactionId : ℕ) (cont : List UInt8)
  deriving DecidableEq,Repr

/-- `sdp_snd_service_search_req`: a request with the next transaction id, then wait for handles. -/
def sdpSndServiceSearchReq (ccb : DiscCcb) (cont : List UInt8) : DiscCcb×List SdpOut :=
  ({ccb with transactionId := (ccb.transactionId+1)%65536,discState := .waitHandles},
    [.serviceSearchReq ccb.transactionId cont])

/-- The handle loop of `process_service_search_rsp`: `count` four-byte handles stored from
index `xx` on, each a bounds-checked write into the handle array. -/
def readHandles (pdu : List UInt8) : ℕ → ℕ → ℕ → List ℕ → Except Fault (List ℕ×ℕ)
  | 0,_,q,handles => .ok (handles,q)
  | count+1,xx,q,handles =>
    rdBE pdu q 4 >>= fun h =>
    if xx<handles.length then readHandles pdu count (xx+1) (q+4) (handles.set xx h)
    else .error .outOfRange

/-- The end of `process_service_attr_rsp`: ask for the attributes of the next handle, or
disconnect once every handle is done. -/
def requestNextAttr (ccb : DiscCcb) (cont : List UInt8) : Except Fault (DiscCcb×List SdpOut) :=
  if ccb.curHandle<ccb.numHandles then
    (inRange ccb.handles[ccb.curHandle]?).map fun handle =>
      ({ccb with transactionId := (ccb.transactionId+1)%65536},[.serviceAttrReq ccb.transactionId handle cont])
  else .ok (ccb,[.disconnect sdpSuccess])

/-- The continuation state a request copies from the response at `q`, its length byte
included; it is left out when it does not fit in the response. -/
def contBytes (pdu : List UInt8) (q cont : ℕ) : Except Fault (List UInt8) :=
  if q+cont+1 ≤ pdu.length then rdBytes pdu q (cont+1) else .ok []

/-- `process_service_attr_rsp`: with a response at `p` (after the PDU id), append its attribute
list to the scratchpad, and once the list is complete store it as one record; then ask for the
next handle. No length of the response is checked against its end. -/
def processServiceAttrRsp (ccb : DiscCcb) : Option (List UInt8×ℕ) → Except Fault (DiscCcb×List SdpOut)
  | none => requestNextAttr ccb [0]
  | some (pdu,p) =>
    rdBE pdu (p+4) 2 >>= fun count =>
    if sdpMaxListByteCount<ccb.rspList.length+count then .ok (ccb,[.disconnect sdpInvalidPduSize])
    else rdBytes pdu (p+6) count >>= fun bytes =>
      let ccb := {ccb with rspList := ccb.rspList++bytes}
      rdByte pdu (p+6+count) >>= fun cont =>
      if cont≠0 then
        if sdpMaxContinuationLen<cont then .ok (ccb,[.disconnect sdpInvalidContState])
        else contBytes pdu (p+6+count) cont >>= requestNextAttr ccb
      else
        sdpCopyRawData ccb.rspList ccb.db.raw false >>= fun (copied,raw) =>
        -- a failed copy disconnects, and the list is still stored
        let out := if copied then [] else [SdpOut.disconnect sdpIllegalParameter]
        saveAttrSeq ccb.rspList 0 ccb.rspList.length {ccb.db with raw := raw} >>= fun
        | (none,db) => .ok ({ccb with db := db},out++[.disconnect sdpDbFull])
        | (some _,db) =>
          (requestNextAttr {ccb with db := db,rspList := [],curHandle := (ccb.curHandle+1)%65536} [0]).map
            fun r => (r.1,out++r.2)

/-- `process_service_search_rsp`: the handles of a response at `p`, up to 21 in all, then the
continuation state or the first attribute request. -/
def processServiceSearchRsp (ccb : DiscCcb) (pdu : List UInt8) (p : ℕ) : Except Fault (DiscCcb×List SdpOut) :=
  if pdu.length<p+8 then .ok (ccb,[.disconnect sdpGenericError])
  else rdBE pdu (p+4) 2 >>= fun _ =>
    rdBE pdu (p+6) 2 >>= fun curHandles =>
    let orig := ccb.numHandles
    if (orig+curHandles)%65536=0 then .ok ({ccb with numHandles := 0},[.disconnect sdpNoRecsMatch])
    else
      let num := min ((orig+curHandles)%65536) sdpMaxDiscServerRecs
      -- the handle count is checked in `int`, so a count that wrapped below `orig` passes
      if (pdu.length : ℤ)<p+8+((num : ℤ)-orig)*4+1 then .ok ({ccb with numHandles := num},[.disconnect sdpGenericError])
      else readHandles pdu (num-orig) orig (p+8) ccb.handles >>= fun (handles,q) =>
        let ccb := {ccb with numHandles := num,handles := handles}
        rdByte pdu q >>= fun contLen =>
        if contLen≠0 then
          if sdpMaxContinuationLen<contLen then .ok (ccb,[.disconnect sdpInvalidContState])
          else if pdu.length<q+1+contLen then .ok (ccb,[.disconnect sdpInvalidContState])
          else (rdBytes pdu (q+1) contLen).map (sdpSndServiceSearchReq ccb)
        else processServiceAttrRsp {ccb with discState := .waitAttr} none

/-- The request of `process_service_search_attr_rsp`, with the next transaction id. -/
def sndServiceSearchAttrReq (ccb : DiscCcb) (cont : List UInt8) : DiscCcb×List SdpOut :=
  ({ccb with transactionId := (ccb.transactionId+1)%65536},[.serviceSearchAttrReq ccb.transactionId cont])

/-- The loop of `process_service_search_attr_rsp` over the records of a complete list;
`false` when `save_attr_seq` fails. -/
def saveRecords : ℕ → List UInt8 → ℕ → ℕ → DiscDb → Except Fault (Bool×DiscDb)
  | fuel,buf,p,pEnd,db =>
    if pEnd ≤ p then .ok (true,db)
    else match fuel with
      | 0 => .error .noProgress
      | fuel+1 => saveAttrSeq buf p pEnd db >>= fun
        | (none,db) => .ok (false,db)
        | (some q,db) => saveRecords fuel buf q pEnd db

/-- A complete ServiceSearchAttributeResponse list: one sequence holding an attribute list per
record, stored record by record. -/
def saveSearchAttrList (ccb : DiscCcb) : Except Fault (DiscCcb×List SdpOut) :=
  let rsp := ccb.rspList
  sdpCopyRawData rsp ccb.db.raw true >>= fun (copied,raw) =>
  let out := if copied then [] else [SdpOut.disconnect sdpIllegalParameter]
  let ccb := {ccb with db := {ccb.db with raw := raw}}
  rdByte rsp 0 >>= fun type =>
  if type >>> 3≠dataEleSeqDescType then .ok (ccb,out)
  -- the end given to the length reader is one byte past the list
  else sdpuGetLenFromType rsp 1 (1+rsp.length) type >>= fun
    | none => .ok (ccb,out++[.disconnect sdpIllegalParameter])
    | some (p,seqLen) =>
      if rsp.length<seqLen then .ok (ccb,out++[.disconnect sdpIllegalParameter])
      else if p+seqLen≠rsp.length then .ok (ccb,out++[.disconnect sdpInvalidContState])
      else (saveRecords rsp.length rsp p rsp.length ccb.db).map fun (done,db) =>
        ({ccb with db := db},out++[.disconnect (if done then sdpSuccess else sdpDbFull)])

/-- `process_service_search_attr_rsp`: with a response at `p`, check its lengths, append its
attribute lists to the scratchpad, and once they are complete store them; without one, send
the first request. -/
def processServiceSearchAttrRsp (ccb : DiscCcb) : Option (List UInt8×ℕ) → Except Fault (DiscCcb×List SdpOut)
  | none => .ok (sndServiceSearchAttrReq ccb [0])
  | some (pdu,p) =>
    if pdu.length<p+4+2 then .ok (ccb,[.disconnect sdpInvalidPduSize])
    else rdBE pdu (p+4) 2 >>= fun count =>
    if sdpMaxListByteCount<ccb.rspList.length+count then .ok (ccb,[.disconnect sdpInvalidPduSize])
    else if pdu.length<p+6+count+1 then .ok (ccb,[.disconnect sdpInvalidPduSize])
    else rdBytes pdu (p+6) count >>= fun bytes =>
      let ccb := {ccb with rspList := ccb.rspList++bytes}
      rdByte pdu (p+6+count) >>= fun cont =>
      if cont≠0 then
        if sdpMaxContinuationLen<cont then .ok (ccb,[.disconnect sdpInvalidContState])
        else (contBytes pdu (p+6+count) cont).map (sndServiceSearchAttrReq ccb)
      else saveSearchAttrList ccb

/-- `sdp_disc_server_rsp`: the PDU id selects the handler of the discovery state; any other
PDU, or one in the wrong state, disconnects. -/
def sdpDiscServerRsp (ccb : DiscCcb) (pdu : List UInt8) : Except Fault (DiscCcb×List SdpOut) :=
  rdByte pdu 0 >>= fun rspPdu =>
  if rspPdu=sdpPduServiceSearchRsp ∧ ccb.discState=.waitHandles then processServiceSearchRsp ccb pdu 1
  else if rspPdu=sdpPduServiceAttrRsp ∧ ccb.discState=.waitAttr then processServiceAttrRsp ccb (some (pdu,1))
  else if rspPdu=sdpPduServiceSearchAttrRsp ∧ ccb.discState=.waitSearchAttr then
    processServiceSearchAttrRsp ccb (some (pdu,1))
  else .ok (ccb,[.disconnect sdpGenericError])

section Reads

theorem rdByte_of_lt {buf : List UInt8} {i : ℕ} (h : i<buf.length) : rdByte buf i=.ok buf[i].toNat := by
  rw [rdByte,List.getElem?_eq_getElem h]
  rfl

theorem rdByte_of_le {buf : List UInt8} {i : ℕ} (h : buf.length ≤ i) : rdByte buf i=.error .outOfRange := by
  rw [rdByte,List.getElem?_eq_none h]
  rfl

theorem rdBytes_of_le {buf : List UInt8} {p n : ℕ} (h : p+n ≤ buf.length) :
    rdBytes buf p n=.ok ((buf.drop p).take n) := by
  rw [rdBytes,readBytes_eq_some h]
  rfl

theorem rdBE_of_le {buf : List UInt8} {p w : ℕ} (h : p+w ≤ buf.length) :
    rdBE buf p w=.ok (decodeBE ((buf.drop p).take w)) := by
  rw [rdBE,readBE,readBytes_eq_some h]
  rfl

theorem length_rdBytes {buf bytes : List UInt8} {p n : ℕ} (h : rdBytes buf p n=.ok bytes) : bytes.length=n := by
  unfold rdBytes at h
  exact (readBytes_length (inRange_eq_ok.mp h)).1

/-- With its end inside the buffer the length reader reads inside the buffer; a header it
accepts ends at most at its end when it has a length field, and at once otherwise. -/
theorem sdpuGetLenFromType_ok {buf : List UInt8} {p pEnd : ℕ} (type : ℕ) (h : pEnd ≤ buf.length) :
    ∃ r,sdpuGetLenFromType buf p pEnd type=.ok r ∧ ∀ q len,r=some (q,len) → q=p ∨ p<q ∧ q ≤ pEnd := by
  unfold sdpuGetLenFromType
  split
  all_goals first
    | exact ⟨_,rfl,fun q len hr => by cases hr; exact .inl rfl⟩
    | skip
  all_goals
    split_ifs with hend
    · exact ⟨none,rfl,fun _ _ hr => by cases hr⟩
    · rw [rdBE_of_le (by omega)]
      exact ⟨_,rfl,fun q len hr => by cases hr; omega⟩

end Reads

section Db

/-- The database invariant: `p_free_mem` has moved on by exactly what `mem_free` lost, the
size is a `uint32_t`, and no linked attribute sits deeper than `MAX_NEST_LEVELS`. -/
def DiscDb.Inv (db : DiscDb) : Prop :=
  db.used+db.memFree=db.memSize ∧ db.memSize<2^32 ∧ ∀ a ∈ db.attrs,a.level ≤ maxNestLevels

theorem DiscDb.write_ok {db : DiscDb} {n : ℕ} (hi : db.Inv) (h : n ≤ db.memFree) : db.write n=.ok () := by
  rw [DiscDb.write,if_pos (by have := hi.1; omega)]

theorem DiscDb.reserve_memFree {db : DiscDb} {n : ℕ} (hi : db.Inv) (h : n ≤ db.memFree) :
    (db.reserve n).memFree=db.memFree-n := by
  have := hi.1
  have := hi.2.1
  simp only [DiscDb.reserve,toUint32]
  omega

theorem DiscDb.reserve_inv {db : DiscDb} {n : ℕ} (hi : db.Inv) (h : n ≤ db.memFree) : (db.reserve n).Inv := by
  have hfree := DiscDb.reserve_memFree hi h
  refine ⟨?_,hi.2.1,hi.2.2⟩
  rw [hfree]
  have := hi.1
  simp only [DiscDb.reserve]
  omega

theorem DiscDb.link_inv {db : DiscDb} {a : DiscAttr} (hi : db.Inv) (ha : a.level ≤ maxNestLevels) :
    (db.link a).Inv := by
  refine ⟨hi.1,hi.2.1,fun b hb => ?_⟩
  rcases List.mem_append.mp hb with hb | hb
  · exact hi.2.2 b hb
  · rw [List.mem_singleton.mp hb]
    exact ha

/-- `add_record` never writes outside the database and keeps its invariant. -/
theorem addRecord_ok {db : DiscDb} (hi : db.Inv) :
    ∃ r,addRecord db=.ok r ∧ ∀ db',r=some db' → db'.Inv := by
  unfold addRecord
  by_cases hfit : db.memFree<sizeofDiscRec
  · exact ⟨none,by rw [if_pos hfit],fun _ h => by cases h⟩
  · rw [if_neg hfit,DiscDb.write_ok hi (by omega)]
    exact ⟨_,rfl,fun db' h => by cases h; exact DiscDb.reserve_inv hi (by omega)⟩

end Db

section Faults

/-- The client reads past a response it was sent: a ServiceAttributeResponse of its PDU id
alone, in the state that waits for one, has its list byte count read at bytes 5 and 6; and a
complete but empty ServiceSearchAttributeResponse list has its first byte read from the empty
scratchpad. -/
theorem sdp_client_reads_past_response :
    (∀ ccb : DiscCcb,ccb.discState=.waitAttr → sdpDiscServerRsp ccb [0x05]=.error .outOfRange) ∧
    (∀ ccb : DiscCcb,ccb.discState=.waitSearchAttr → ccb.rspList=[] →
      sdpDiscServerRsp ccb [0x07,0,0,0,3,0,0,0]=.error .outOfRange) := by
  constructor
  · intro ccb hs
    have hpdu : rdByte [0x05] 0=.ok sdpPduServiceAttrRsp := rfl
    rw [sdpDiscServerRsp,hpdu,ok_bind,if_neg (by rintro ⟨h,-⟩; cases h),if_pos ⟨rfl,hs⟩]
    rfl
  · rintro ⟨st,numHandles,handles,curHandle,rspList,tid,db⟩ hs hl
    -- the list is complete with nothing in it, so the stored list is read at byte 0
    cases hs
    cases hl
    cases hraw : db.raw with
    | none => simp only [sdpDiscServerRsp,processServiceSearchAttrRsp,saveSearchAttrList,hraw]; rfl
    | some r => simp only [sdpDiscServerRsp,processServiceSearchAttrRsp,saveSearchAttrList,hraw]; rfl
/-- The two faults at a fresh connection's control block with a database of 1000 bytes. -/
theorem sdp_client_reads_past_response_fresh :
    sdpDiscServerRsp ⟨.waitAttr,1,List.replicate 21 0,0,[],1,⟨1000,1000,0,0,[],none⟩⟩ [0x05]=.error .outOfRange ∧
    sdpDiscServerRsp ⟨.waitSearchAttr,0,List.replicate 21 0,0,[],1,⟨1000,1000,0,0,[],none⟩⟩
      [0x07,0,0,0,3,0,0,0]=.error .outOfRange :=
  ⟨sdp_client_reads_past_response.1 _ rfl,sdp_client_reads_past_response.2 _ rfl rfl⟩

end Faults

end BluetoothStack.SdpDiscovery
