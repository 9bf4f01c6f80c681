import BluetoothStack.SdpDb
import BluetoothStack.SdpDiscovery

/-!
# The SDP server: requests, sequences and attribute lengths

`sdp_server_handle_client_req` reads the five-byte header of a request PDU and hands its
parameters to one of three handlers. The handlers read the UUID and attribute-id sequences of the
request with `sdpu_extract_uid_seq` and `sdpu_extract_attr_seq`, the inverses of the client's
`sdpu_build_uuid_seq` and `sdpu_build_attrib_seq`. The length of a record's attribute list in a
response is precomputed by `sdpu_get_attrib_seq_len` from `sdpu_get_attrib_entry_len`, which must
agree with the bytes `sdpu_build_attrib_entry` writes.

The PDU is a bounds-checked array. The range loop of `sdpu_get_attrib_seq_len` is given fuel, one
unit per pass; running out of it is how the model shows a loop that does not end.
-/

namespace BluetoothStack.SdpServer

open ByteBuffer StepRun SdpDb
open SdpDiscovery (rdByte rdBE rdBytes)

/-- `SDP_PDU_ERROR_RESPONSE`. -/
def sdpPduErrorResponse : ℕ := 0x01
/-- `SDP_PDU_SERVICE_SEARCH_REQ`. -/
def sdpPduServiceSearchReq : ℕ := 0x02
/-- `SDP_PDU_SERVICE_ATTR_REQ`. -/
def sdpPduServiceAttrReq : ℕ := 0x04
/-- `SDP_PDU_SERVICE_SEARCH_ATTR_REQ`. -/
def sdpPduServiceSearchAttrReq : ℕ := 0x06
/-- `SDP_INVALID_REQ_SYNTAX`. -/
def sdpInvalidReqSyntax : ℕ := 0x0003
/-- `SDP_INVALID_PDU_SIZE`. -/
def sdpInvalidPduSize : ℕ := 0x0004
/-- `MAX_UUIDS_PER_SEQ`. -/
def maxUuidsPerSeq : ℕ := 16
/-- `MAX_ATTR_PER_SEQ`. -/
def maxAttrPerSeq : ℕ := 16
/-- `UUID_DESC_TYPE`. -/
def uuidDescType : ℕ := 3
/-- `DATA_ELE_SEQ_DESC_TYPE`. -/
def dataEleSeqDescType : ℕ := 6
/-- `DATA_ELE_ALT_DESC_TYPE`. -/
def dataEleAltDescType : ℕ := 7
/-- `URL_DESC_TYPE`. -/
def urlDescType : ℕ := 8
/-- `SIZE_TWO_BYTES`. -/
def sizeTwoBytes : ℕ := 1
/-- `SIZE_FOUR_BYTES`. -/
def sizeFourBytes : ℕ := 2
/-- `SIZE_SIXTEEN_BYTES`. -/
def sizeSixteenBytes : ℕ := 4
/-- `SIZE_IN_NEXT_BYTE`. -/
def sizeInNextByte : ℕ := 5
/-- `SIZE_IN_NEXT_WORD`. -/
def sizeInNextWord : ℕ := 6

/-- A data element header byte: the type in the high five bits, the size index in the low three. -/
def descrByte (type size : ℕ) : UInt8 := UInt8.ofNat (type*8+size)

section Uuid

/-- `bluetooth::Uuid`: sixteen bytes, most significant first. -/
@[ext]
structure Uuid where
  uu : List UInt8
  length_uu : uu.length=16
  deriving DecidableEq

/-- `kBase`, the Bluetooth base UUID. -/
def kBase : Uuid := ⟨[0x00,0x00,0x00,0x00,0x00,0x00,0x10,0x00,0x80,0x00,0x00,0x80,0x5f,0x9b,0x34,0xfb],rfl⟩

/-- `Uuid::GetShortestRepresentationSize`: 16 unless the last twelve bytes are the base's, then 2
when the first two bytes are zero, else 4. -/
def Uuid.getShortestRepresentationSize (u : Uuid) : ℕ :=
  if u.uu.drop 4≠kBase.uu.drop 4 then 16
  else if u.uu.getD 0 0=0 ∧ u.uu.getD 1 0=0 then 2
  else 4

/-- `Uuid::As16Bit`: bytes 2 and 3. -/
def Uuid.as16Bit (u : Uuid) : ℕ := (u.uu.getD 2 0).toNat*256+(u.uu.getD 3 0).toNat

/-- `Uuid::As32Bit`: bytes 0 to 3. -/
def Uuid.as32Bit (u : Uuid) : ℕ := decodeBE (u.uu.take 4)

/-- `Uuid::To128BitBE`. -/
def Uuid.to128BitBE (u : Uuid) : List UInt8 := u.uu

/-- `Uuid::From16Bit`: the base with bytes 2 and 3 replaced. -/
def Uuid.from16Bit (uuid16 : ℕ) : Uuid :=
  ⟨kBase.uu.take 2++encodeBE 2 uuid16++kBase.uu.drop 4,by simp [kBase]⟩

/-- `Uuid::From32Bit`: the base with bytes 0 to 3 replaced. -/
def Uuid.from32Bit (uuid32 : ℕ) : Uuid := ⟨encodeBE 4 uuid32++kBase.uu.drop 4,by simp [kBase]⟩

/-- The shortest big-endian form of a UUID: bytes 2 and 3 for a 16-bit UUID, the first four bytes
for a 32-bit one, else all sixteen. -/
def Uuid.shortestForm (u : Uuid) : List UInt8 :=
  if u.getShortestRepresentationSize=2 then (u.uu.drop 2).take 2 else u.uu.take u.getShortestRepresentationSize

/-- The UUID a shortest form stands for, completed with the base UUID as `Uuid::From16Bit` and
`Uuid::From32Bit` complete it. -/
def Uuid.ofShortestForm (v : List UInt8) : Option Uuid :=
  if h : v.length=16 then some ⟨v,h⟩
  else if v.length=4 then some (Uuid.from32Bit (decodeBE v))
  else if v.length=2 then some (Uuid.from16Bit (decodeBE v))
  else none

/-- The first four bytes of a UUID, named. -/
theorem Uuid.exists_uu_eq (u : Uuid) :
    ∃ b0 b1 b2 b3 rest,u.uu=b0::b1::b2::b3::rest ∧ rest.length=12 := by
  obtain ⟨_ | ⟨b0,_ | ⟨b1,_ | ⟨b2,_ | ⟨b3,rest⟩⟩⟩⟩,h⟩ := u
  all_goals simp only [List.length_cons,List.length_nil] at h
  all_goals first | omega | exact ⟨b0,b1,b2,b3,rest,rfl,by omega⟩

/-- The three cases of `Uuid::GetShortestRepresentationSize`. -/
theorem Uuid.getShortestRepresentationSize_spec (u : Uuid) :
    (u.uu.drop 4≠kBase.uu.drop 4 ∧ u.getShortestRepresentationSize=16) ∨
    (u.uu.drop 4=kBase.uu.drop 4 ∧ u.uu.getD 0 0=0 ∧ u.uu.getD 1 0=0 ∧ u.getShortestRepresentationSize=2) ∨
    (u.uu.drop 4=kBase.uu.drop 4 ∧ u.getShortestRepresentationSize=4) := by
  unfold Uuid.getShortestRepresentationSize
  split_ifs with h1 h2
  · exact .inl ⟨h1,rfl⟩
  · exact .inr (.inl ⟨not_not.mp h1,h2.1,h2.2,rfl⟩)
  · exact .inr (.inr ⟨not_not.mp h1,rfl⟩)

theorem Uuid.length_shortestForm (u : Uuid) : u.shortestForm.length=u.getShortestRepresentationSize := by
  obtain ⟨b0,b1,b2,b3,rest,hu,hrest⟩ := u.exists_uu_eq
  unfold Uuid.shortestForm
  rcases u.getShortestRepresentationSize_spec with ⟨-,h⟩ | ⟨-,-,-,h⟩ | ⟨-,h⟩ <;>
    simp [h,hu,hrest]

/-- A UUID is the one its shortest form stands for. -/
theorem Uuid.ofShortestForm_shortestForm (u : Uuid) : Uuid.ofShortestForm u.shortestForm=some u := by
  obtain ⟨b0,b1,b2,b3,rest,hu,hrest⟩ := u.exists_uu_eq
  have htail : u.uu.drop 4=rest := by rw [hu]; rfl
  rcases u.getShortestRepresentationSize_spec with ⟨-,h⟩ | ⟨hbase,h0,h1,h⟩ | ⟨hbase,h⟩
  · -- the last twelve bytes differ from the base's: all sixteen bytes are kept
    rw [Uuid.shortestForm,h,if_neg (by decide),List.take_of_length_le (by rw [u.length_uu]),
      Uuid.ofShortestForm,dif_pos u.length_uu]
  · -- a 16-bit UUID: the base with bytes 2 and 3
    simp only [hu,List.getD_cons_zero,List.getD_cons_succ] at h0 h1
    subst h0 h1
    have hform : (u.uu.drop 2).take 2=[b2,b3] := by rw [hu]; rfl
    rw [Uuid.shortestForm,h,if_pos rfl,hform,Uuid.ofShortestForm,dif_neg (by simp),if_neg (by simp),
      if_pos (by simp)]
    congr 1
    ext1
    have henc : encodeBE 2 (decodeBE [b2,b3])=[b2,b3] := encodeBE_decodeBE [b2,b3]
    dsimp only [Uuid.from16Bit]
    rw [henc,hu,← htail,hbase]
    rfl
  · -- a 32-bit UUID: the base with bytes 0 to 3
    have hform : u.uu.take 4=[b0,b1,b2,b3] := by rw [hu]; rfl
    rw [Uuid.shortestForm,h,if_neg (by decide),hform,Uuid.ofShortestForm,dif_neg (by simp),if_pos (by simp)]
    congr 1
    ext1
    have henc : encodeBE 4 (decodeBE [b0,b1,b2,b3])=[b0,b1,b2,b3] := encodeBE_decodeBE [b0,b1,b2,b3]
    dsimp only [Uuid.from32Bit]
    rw [henc,hu,← htail,hbase]
    rfl

end Uuid

section Builders

/-- The entry `sdpu_build_uuid_seq` writes for one UUID, in its shortest form; nothing for a
length the `DCHECK` rejects, which release builds do not stop on. -/
def uuidEntry (u : Uuid) : List UInt8 :=
  match u.getShortestRepresentationSize with
  | 2 => descrByte uuidDescType sizeTwoBytes::encodeBE 2 u.as16Bit
  | 4 => descrByte uuidDescType sizeFourBytes::encodeBE 4 u.as32Bit
  | 16 => descrByte uuidDescType sizeSixteenBytes::u.to128BitBE
  | _ => []

/-- The entries of `sdpu_build_uuid_seq`'s loop, one after another. -/
def uuidSeqBody (uuids : List Uuid) : List UInt8 := (uuids.map uuidEntry).flatten

/-- `sdpu_build_uuid_seq`: a sequence header with a one-byte length, then the entries. -/
def sdpuBuildUuidSeq (uuids : List Uuid) : List UInt8 :=
  [descrByte dataEleSeqDescType sizeInNextByte,UInt8.ofNat (uuidSeqBody uuids).length]++uuidSeqBody uuids

/-- The element `sdpu_build_attrib_seq` writes for one attribute id. -/
def attrIdEntry (a : UInt16) : List UInt8 := descrByte uintDescType sizeTwoBytes::encodeBE 2 a.toNat

/-- `sdpu_build_attrib_seq`: `none` for a NULL list, which asks for the wildcard range
0x0000-0xFFFF; the length field is one byte up to 255, else two. -/
def sdpuBuildAttribSeq (attrs : Option (List UInt16)) : List UInt8 :=
  let xx := match attrs with
    | none => 5
    | some l => (l.length*3)%65536
  let header :=
    if 255<xx then descrByte dataEleSeqDescType sizeInNextWord::encodeBE 2 xx
    else [descrByte dataEleSeqDescType sizeInNextByte,UInt8.ofNat xx]
  let body := match attrs with
    | none => descrByte uintDescType sizeFourBytes::encodeBE 2 0++encodeBE 2 0xFFFF
    | some l => l.flatMap attrIdEntry
  header++body

end Builders

section Extractors

/-- The length a size index gives in an element header of a request sequence: the fixed length
of `fixed` where it has one, else the 1, 2 or 4-byte field after the header for `SIZE_IN_NEXT_BYTE`,
`_WORD` and `_LONG`, which must end by `pEnd`. `none` is a NULL return; the result is the position
after the header and the length. -/
def elemLen (fixed : ℕ → Option ℕ) (buf : List UInt8) (p pEnd size : ℕ) : Except Fault (Option (ℕ×ℕ)) :=
  match fixed size with
  | some len => .ok (some (p,len))
  | none =>
    match size with
    | 5 => if pEnd<p+1 then .ok none else rdBE buf p 1 >>= fun len => .ok (some (p+1,len))
    | 6 => if pEnd<p+2 then .ok none else rdBE buf p 2 >>= fun len => .ok (some (p+2,len))
    | 7 => if pEnd<p+4 then .ok none else rdBE buf p 4 >>= fun len => .ok (some (p+4,len))
    | _ => .ok none

/-- The fixed sizes `sdpu_extract_uid_seq` accepts, for the sequence and for each UUID. -/
def uidFixedLen : ℕ → Option ℕ
  | 1 => some 2
  | 2 => some 4
  | 4 => some 16
  | _ => none

/-- The fixed sizes `sdpu_extract_attr_seq` accepts for an attribute id or range. -/
def attrFixedLen : ℕ → Option ℕ
  | 1 => some 2
  | 2 => some 4
  | _ => none

/-- The loop of `sdpu_extract_uid_seq` over the UUIDs of a sequence that ends at `pSeqEnd`, from
`p` with the values `uids` read so far. -/
def extractUidLoop (buf : List UInt8) (pSeqEnd : ℕ) :
    ℕ → ℕ → List (List UInt8) → Except Fault (Option (ℕ×List (List UInt8)))
  | fuel,p,uids =>
    if p<pSeqEnd then
      match fuel with
      | 0 => .error .noProgress
      | fuel+1 =>
        rdByte buf p >>= fun descr =>
        if descr/8≠uuidDescType then .ok none
        else elemLen uidFixedLen buf (p+1) pSeqEnd (descr%8) >>= fun
          | none => .ok none
          | some (q,uuidLen) =>
            if (uuidLen=2 ∨ uuidLen=4 ∨ uuidLen=16) ∧ q+uuidLen ≤ pSeqEnd then
              rdBytes buf q uuidLen >>= fun v =>
              -- "We can only do so many"
              if maxUuidsPerSeq ≤ uids.length+1 then .ok none
              else extractUidLoop buf pSeqEnd fuel (q+uuidLen) (uids++[v])
            else .ok none
    else .ok (if p=pSeqEnd then some (p,uids) else none)

/-- `sdpu_extract_uid_seq` at `p` with `paramLen` bytes left: the position after the sequence and
the value of each UUID, or `none` for NULL. The loop's fuel is the sequence length, since each pass
consumes bytes. -/
def sdpuExtractUidSeq (buf : List UInt8) (p paramLen : ℕ) : Except Fault (Option (ℕ×List (List UInt8))) :=
  if paramLen<1 then .ok none
  else
    rdByte buf p >>= fun descr =>
    if descr/8≠dataEleSeqDescType then .ok none
    else elemLen uidFixedLen buf (p+1) (p+paramLen) (descr%8) >>= fun
      | none => .ok none
      | some (q,seqLen) =>
        if p+paramLen<q+seqLen then .ok none else extractUidLoop buf (q+seqLen) seqLen q []

/-- The loop of `sdpu_extract_attr_seq` over the entries of a list that ends at `pEndList`, from `p`
with the ranges `attrs` read so far. -/
def extractAttrLoop (buf : List UInt8) (pEndList : ℕ) :
    ℕ → ℕ → List (ℕ×ℕ) → Except Fault (Option (ℕ×List (ℕ×ℕ)))
  | fuel,p,attrs =>
    if p<pEndList then
      match fuel with
      | 0 => .error .noProgress
      | fuel+1 =>
        rdByte buf p >>= fun descr =>
        if descr/8≠uintDescType then .ok none
        else elemLen attrFixedLen buf (p+1) pEndList (descr%8) >>= fun
          | none => .ok none
          | some (q,attrLen) =>
            if pEndList<q+attrLen then .ok none
            else
              (if attrLen=2 then rdBE buf q 2 >>= fun start => .ok (some (start,start))
              else if attrLen=4 then
                rdBE buf q 2 >>= fun start => rdBE buf (q+2) 2 >>= fun stop => .ok (some (start,stop))
              else .ok none) >>= fun
              | none => .ok none
              | some range =>
                if maxAttrPerSeq ≤ attrs.length+1 then .ok none
                else extractAttrLoop buf pEndList fuel (q+attrLen) (attrs++[range])
    else .ok (some (p,attrs))

/-- `sdpu_extract_attr_seq` at `p` with `paramLen` bytes left: the position after the list and
its ranges, an id `a` as `(a, a)`, or `none` for NULL. -/
def sdpuExtractAttrSeq (buf : List UInt8) (p paramLen : ℕ) : Except Fault (Option (ℕ×List (ℕ×ℕ))) :=
  if paramLen<1 then .ok none
  else
    rdByte buf p >>= fun descr =>
    if descr/8≠dataEleSeqDescType then .ok none
    else elemLen (fun _ => none) buf (p+1) (p+paramLen) (descr%8) >>= fun
      | none => .ok none
      | some (q,listLen) =>
        if p+paramLen<q+listLen then .ok none else extractAttrLoop buf (q+listLen) listLen q []

end Extractors

section Bounds

/-- With its end inside the buffer, an element header is read without a fault; a length it gives
starts after the header, at once for a fixed size and by `pEnd` for a length field. -/
theorem elemLen_ok {fixed : ℕ → Option ℕ} {buf : List UInt8} {p pEnd : ℕ} (size : ℕ) (h : pEnd ≤ buf.length) :
    ∃ r,elemLen fixed buf p pEnd size=.ok r ∧ ∀ q len,r=some (q,len) → p ≤ q ∧ (q=p ∨ q ≤ pEnd) := by
  unfold elemLen
  split
  · exact ⟨_,rfl,fun q len hr => by cases hr; omega⟩
  · split
    all_goals first
      | exact ⟨none,rfl,by simp⟩
      | split_ifs with hlt
        · exact ⟨none,rfl,by simp⟩
        · rw [SdpDiscovery.rdBE_of_le (by omega),ok_bind]
          exact ⟨_,rfl,fun q len hr => by cases hr; omega⟩

/-- The UUID loop reads only inside a sequence that lies in the buffer, and each pass consumes at
least three bytes, so the sequence length is fuel enough. -/
theorem extractUidLoop_ok {buf : List UInt8} {pSeqEnd : ℕ} (hend : pSeqEnd ≤ buf.length) :
    ∀ fuel p uids,pSeqEnd ≤ p+fuel → ∃ r,extractUidLoop buf pSeqEnd fuel p uids=.ok r := by
  intro fuel
  induction fuel with
  | zero =>
    intro p uids hfuel
    unfold extractUidLoop
    rw [if_neg (by omega)]
    exact ⟨_,rfl⟩
  | succ fuel ih =>
    intro p uids hfuel
    unfold extractUidLoop
    by_cases hp : p<pSeqEnd
    · rw [if_pos hp]
      simp only [SdpDiscovery.rdByte_of_lt (show p<buf.length by omega),ok_bind]
      by_cases htype : buf[p].toNat/8≠uuidDescType
      · rw [if_pos htype]
        exact ⟨none,rfl⟩
      rw [if_neg htype]
      obtain ⟨r,hr,hq⟩ := @elemLen_ok uidFixedLen buf (p+1) pSeqEnd (buf[p].toNat%8) hend
      rw [hr,ok_bind]
      rcases r with _ | ⟨q,len⟩
      · exact ⟨none,rfl⟩
      obtain ⟨hpq,-⟩ := hq q len rfl
      simp only
      by_cases hok : (len=2 ∨ len=4 ∨ len=16) ∧ q+len ≤ pSeqEnd
      · rw [if_pos hok,SdpDiscovery.rdBytes_of_le (by omega),ok_bind]
        by_cases hmax : maxUuidsPerSeq ≤ uids.length+1
        · rw [if_pos hmax]
          exact ⟨none,rfl⟩
        · rw [if_neg hmax]
          exact ih _ _ (by omega)
      · rw [if_neg hok]
        exact ⟨none,rfl⟩
    · rw [if_neg hp]
      exact ⟨_,rfl⟩

/-- The header of a request sequence at `p` with `paramLen` bytes left, read without a fault when
they lie in the buffer: the loop that follows gets a sequence that ends by them. -/
theorem seqHeader_ok {fixed : ℕ → Option ℕ} {buf : List UInt8} {p paramLen : ℕ}
    (h : p+paramLen ≤ buf.length) (size : ℕ)
    {α : Type} (next : ℕ → ℕ → Except Fault (Option α))
    (hnext : ∀ q len,q+len ≤ p+paramLen → ∃ r,next q len=.ok r) :
    ∃ r,(elemLen fixed buf (p+1) (p+paramLen) size >>= fun
      | none => .ok none
      | some (q,len) => if p+paramLen<q+len then .ok none else next q len)=.ok r := by
  obtain ⟨r,hr,-⟩ := @elemLen_ok fixed buf (p+1) (p+paramLen) size h
  rw [hr,ok_bind]
  rcases r with _ | ⟨q,len⟩
  · exact ⟨none,rfl⟩
  simp only
  by_cases hfit : p+paramLen<q+len
  · rw [if_pos hfit]
    exact ⟨none,rfl⟩
  · rw [if_neg hfit]
    exact hnext q len (by omega)

/-- `sdpu_extract_uid_seq` reads only inside the `paramLen` bytes it is given. -/
theorem sdpuExtractUidSeq_ok {buf : List UInt8} {p paramLen : ℕ} (h : p+paramLen ≤ buf.length) :
    ∃ r,sdpuExtractUidSeq buf p paramLen=.ok r := by
  unfold sdpuExtractUidSeq
  by_cases h1 : paramLen<1
  · rw [if_pos h1]
    exact ⟨none,rfl⟩
  rw [if_neg h1]
  simp only [SdpDiscovery.rdByte_of_lt (show p<buf.length by omega),ok_bind]
  by_cases htype : buf[p].toNat/8≠dataEleSeqDescType
  · rw [if_pos htype]
    exact ⟨none,rfl⟩
  rw [if_neg htype]
  exact seqHeader_ok h _ _ fun q len hq => extractUidLoop_ok (by omega) _ _ _ (by omega)

/-- The attribute loop reads only inside a list that lies in the buffer; each pass consumes at
least three bytes. -/
theorem extractAttrLoop_ok {buf : List UInt8} {pEndList : ℕ} (hend : pEndList ≤ buf.length) :
    ∀ fuel p attrs,pEndList ≤ p+fuel → ∃ r,extractAttrLoop buf pEndList fuel p attrs=.ok r := by
  intro fuel
  induction fuel with
  | zero =>
    intro p attrs hfuel
    unfold extractAttrLoop
    rw [if_neg (by omega)]
    exact ⟨_,rfl⟩
  | succ fuel ih =>
    intro p attrs hfuel
    unfold extractAttrLoop
    by_cases hp : p<pEndList
    · rw [if_pos hp]
      simp only [SdpDiscovery.rdByte_of_lt (show p<buf.length by omega),ok_bind]
      by_cases htype : buf[p].toNat/8≠uintDescType
      · rw [if_pos htype]
        exact ⟨none,rfl⟩
      rw [if_neg htype]
      obtain ⟨r,hr,hq⟩ := @elemLen_ok attrFixedLen buf (p+1) pEndList (buf[p].toNat%8) hend
      rw [hr,ok_bind]
      rcases r with _ | ⟨q,len⟩
      · exact ⟨none,rfl⟩
      obtain ⟨hpq,-⟩ := hq q len rfl
      simp only
      by_cases hfit : pEndList<q+len
      · rw [if_pos hfit]
        exact ⟨none,rfl⟩
      rw [if_neg hfit]
      -- the id or range read, then the count check and the next pass
      have hrange : ∃ o : Option (ℕ×ℕ),(if len=2 then rdBE buf q 2 >>= fun start => .ok (some (start,start))
          else if len=4 then rdBE buf q 2 >>= fun start => rdBE buf (q+2) 2 >>= fun stop => .ok (some (start,stop))
          else .ok none)=.ok o ∧ (o≠none → len=2 ∨ len=4) := by
        by_cases h2 : len=2
        · rw [if_pos h2,SdpDiscovery.rdBE_of_le (by omega),ok_bind]
          exact ⟨_,rfl,fun _ => .inl h2⟩
        rw [if_neg h2]
        by_cases h4 : len=4
        · rw [if_pos h4,SdpDiscovery.rdBE_of_le (by omega),ok_bind,SdpDiscovery.rdBE_of_le (by omega),ok_bind]
          exact ⟨_,rfl,fun _ => .inr h4⟩
        · rw [if_neg h4]
          exact ⟨none,rfl,fun hne => absurd rfl hne⟩
      obtain ⟨o,ho,hlen⟩ := hrange
      rw [ho,ok_bind]
      rcases o with _ | range
      · exact ⟨none,rfl⟩
      have hlen := hlen (by simp)
      simp only
      by_cases hmax : maxAttrPerSeq ≤ attrs.length+1
      · rw [if_pos hmax]
        exact ⟨none,rfl⟩
      · rw [if_neg hmax]
        exact ih _ _ (by omega)
    · rw [if_neg hp]
      exact ⟨_,rfl⟩

/-- `sdpu_extract_attr_seq` reads only inside the `paramLen` bytes it is given. -/
theorem sdpuExtractAttrSeq_ok {buf : List UInt8} {p paramLen : ℕ} (h : p+paramLen ≤ buf.length) :
    ∃ r,sdpuExtractAttrSeq buf p paramLen=.ok r := by
  unfold sdpuExtractAttrSeq
  by_cases h1 : paramLen<1
  · rw [if_pos h1]
    exact ⟨none,rfl⟩
  rw [if_neg h1]
  simp only [SdpDiscovery.rdByte_of_lt (show p<buf.length by omega),ok_bind]
  by_cases htype : buf[p].toNat/8≠dataEleSeqDescType
  · rw [if_pos htype]
    exact ⟨none,rfl⟩
  rw [if_neg htype]
  exact seqHeader_ok h _ _ fun q len hq => extractAttrLoop_ok (by omega) _ _ _ (by omega)

end Bounds

section RoundTrip

theorem descrByte_toNat {type size : ℕ} (h : type*8+size<256) : (descrByte type size).toNat=type*8+size := by
  rw [descrByte,UInt8.toNat_ofNat_of_lt' h]

/-- Each UUID is written as a header byte with a size index the extractor knows, then its
shortest form. -/
theorem uuidEntry_eq (u : Uuid) :
    ∃ size,size<8 ∧ uidFixedLen size=some u.shortestForm.length ∧
      uuidEntry u=descrByte uuidDescType size::u.shortestForm := by
  obtain ⟨b0,b1,b2,b3,rest,hu,hrest⟩ := u.exists_uu_eq
  rcases u.getShortestRepresentationSize_spec with ⟨-,h⟩ | ⟨-,-,-,h⟩ | ⟨-,h⟩
  · refine ⟨sizeSixteenBytes,by decide,?_,?_⟩
    · rw [u.length_shortestForm,h]; rfl
    · rw [uuidEntry,Uuid.shortestForm,h,if_neg (by decide),
        List.take_of_length_le (by rw [u.length_uu])]
      rfl
  · -- `As16Bit` is bytes 2 and 3 read big-endian
    have has : u.as16Bit=decodeBE [b2,b3] := by
      rw [decodeBE_cons,decodeBE_cons,Uuid.as16Bit,hu]
      simp [decodeBE]
    have hform : u.shortestForm=[b2,b3] := by rw [Uuid.shortestForm,h,if_pos rfl,hu]; rfl
    refine ⟨sizeTwoBytes,by decide,by rw [hform]; rfl,?_⟩
    have henc : encodeBE 2 (decodeBE [b2,b3])=[b2,b3] := encodeBE_decodeBE [b2,b3]
    rw [uuidEntry,h,hform,has,henc]
    rfl
  · have hform : u.shortestForm=u.uu.take 4 := by rw [Uuid.shortestForm,h,if_neg (by decide)]
    have hlen : (u.uu.take 4).length=4 := by rw [hu]; rfl
    refine ⟨sizeFourBytes,by decide,by rw [hform,hlen]; rfl,?_⟩
    have henc : encodeBE 4 (decodeBE (u.uu.take 4))=u.uu.take 4 := by
      nth_rewrite 1 [← hlen]
      exact encodeBE_decodeBE _
    rw [uuidEntry,h,hform,Uuid.as32Bit,henc]
    rfl

theorem rdByte_of_readBytes {buf : List UInt8} {p : ℕ} {b : UInt8} (h : readBytes buf p 1=some [b]) :
    rdByte buf p=.ok b.toNat := by
  obtain ⟨-,hle⟩ := readBytes_length h
  rw [readBytes_eq_some hle] at h
  have hb : buf[p]=b := by
    have hhead := congrArg List.head? (Option.some.inj h)
    rw [List.head?_take,List.head?_drop] at hhead
    simpa [List.getElem?_eq_getElem (show p<buf.length by omega)] using hhead
  rw [SdpDiscovery.rdByte_of_lt (by omega),hb]

theorem rdBE_of_readBytes {buf bs : List UInt8} {p w : ℕ} (h : readBytes buf p w=some bs) :
    rdBE buf p w=.ok (decodeBE bs) := by
  rw [rdBE,readBE,h]
  rfl

theorem rdBytes_of_readBytes {buf bs : List UInt8} {p n : ℕ} (h : readBytes buf p n=some bs) :
    rdBytes buf p n=.ok bs := by
  rw [rdBytes,h]
  rfl

/-- The three reads of an element that sits in the buffer: its header byte, the `n` bytes after it,
and what follows them. -/
theorem readBytes_elem {buf rest value : List UInt8} {p : ℕ} {descr : UInt8}
    (h : readBytes buf p (descr::(value++rest)).length=some (descr::(value++rest))) :
    readBytes buf p 1=some [descr] ∧ readBytes buf (p+1) value.length=some value ∧
      readBytes buf (p+1+value.length) rest.length=some rest := by
  have hl : (descr::(value++rest)).length=1+value.length+rest.length := by simp; omega
  refine ⟨?_,?_,?_⟩
  · simpa using readBytes_sub h (i := 0) (k := 1) (by omega)
  · simpa [List.take_left'] using readBytes_sub h (i := 1) (k := value.length) (by omega)
  · have h2 := readBytes_sub h (i := 1+value.length) (k := rest.length) (by omega)
    rw [← Nat.add_assoc,Nat.add_comm 1,List.drop_succ_cons,List.drop_left,List.take_length] at h2
    exact h2

theorem elemLen_of_fixed {fixed : ℕ → Option ℕ} {buf : List UInt8} {p pEnd size len : ℕ}
    (h : fixed size=some len) : elemLen fixed buf p pEnd size=.ok (some (p,len)) := by
  simp only [elemLen,h]

theorem uidFixedLen_eq_some {size len : ℕ} (h : uidFixedLen size=some len) : len=2 ∨ len=4 ∨ len=16 := by
  unfold uidFixedLen at h
  split at h <;> cases h <;> simp

/-- The loop reads back the entries of the UUIDs `us` from where they sit in the buffer, one
shortest form each. -/
theorem extractUidLoop_uuidSeqBody {buf : List UInt8} (us : List Uuid) :
    ∀ fuel p uids,readBytes buf p (uuidSeqBody us).length=some (uuidSeqBody us) → us.length ≤ fuel →
      uids.length+us.length < maxUuidsPerSeq →
      extractUidLoop buf (p+(uuidSeqBody us).length) fuel p uids=
        .ok (some (p+(uuidSeqBody us).length,uids++us.map Uuid.shortestForm)) := by
  induction us with
  | nil =>
    intro fuel p uids _ _ _
    unfold extractUidLoop
    simp [uuidSeqBody]
  | cons u us ih =>
    intro fuel p uids hread hfuel hcount
    obtain ⟨size,hsize,hfixed,hentry⟩ := uuidEntry_eq u
    obtain ⟨fuel,rfl⟩ : ∃ f : ℕ,fuel=f+1 := ⟨fuel-1,by simp only [List.length_cons] at hfuel; omega⟩
    have hbody : uuidSeqBody (u::us)=descrByte uuidDescType size::(u.shortestForm++uuidSeqBody us) := by
      rw [uuidSeqBody,List.map_cons,List.flatten_cons,hentry,List.cons_append]
      rfl
    rw [hbody] at hread ⊢
    obtain ⟨h0,h1,h2⟩ := readBytes_elem hread
    have hlen := uidFixedLen_eq_some hfixed
    have hdescr : (descrByte uuidDescType size).toNat=uuidDescType*8+size :=
      descrByte_toNat (by simp only [uuidDescType]; omega)
    have hend : p+(descrByte uuidDescType size::(u.shortestForm++uuidSeqBody us)).length=
        p+1+u.shortestForm.length+(uuidSeqBody us).length := by simp; omega
    rw [hend]
    unfold extractUidLoop
    rw [if_pos (by omega)]
    simp only [rdByte_of_readBytes h0,ok_bind,hdescr]
    -- the header names a UUID of a fixed size
    rw [if_neg (by simp only [uuidDescType]; omega),
      show (uuidDescType*8+size)%8=size by simp only [uuidDescType]; omega,elemLen_of_fixed hfixed,ok_bind]
    simp only
    rw [if_pos ⟨hlen,by omega⟩,rdBytes_of_readBytes h1,ok_bind,
      if_neg (by simp only [List.length_cons] at hcount; omega)]
    have hrest := ih fuel (p+1+u.shortestForm.length) (uids++[u.shortestForm]) h2 (by simpa using hfuel)
      (by simp only [List.length_append,List.length_cons,List.length_nil] at hcount ⊢; omega)
    rw [hrest,List.map_cons,List.append_assoc,List.singleton_append]

theorem elemLen_nextByte {fixed : ℕ → Option ℕ} {buf : List UInt8} {p pEnd : ℕ} {b : UInt8}
    (hfixed : fixed 5=none) (hend : p+1 ≤ pEnd) (h : readBytes buf p 1=some [b]) :
    elemLen fixed buf p pEnd 5=.ok (some (p+1,b.toNat)) := by
  have hdecode : decodeBE [b]=b.toNat := by simp [decodeBE]
  simp only [elemLen,hfixed]
  rw [if_neg (by omega),rdBE_of_readBytes h,ok_bind,hdecode]

/-- The header of a sequence with a one-byte length, at `p` with `paramLen` bytes left: a sequence
type, `SIZE_IN_NEXT_BYTE` and the length of the body that follows. -/
theorem seqHeader_reads {fixed : ℕ → Option ℕ} {buf body : List UInt8} {p paramLen : ℕ}
    (hread : readBytes buf p (descrByte dataEleSeqDescType sizeInNextByte::([UInt8.ofNat body.length]++body)).length=
      some (descrByte dataEleSeqDescType sizeInNextByte::([UInt8.ofNat body.length]++body)))
    (hbody : body.length<256) (hparam : body.length+2 ≤ paramLen) (hfixed : fixed 5=none) :
    rdByte buf p=.ok (dataEleSeqDescType*8+sizeInNextByte) ∧
      elemLen fixed buf (p+1) (p+paramLen) 5=.ok (some (p+2,body.length)) ∧
      readBytes buf (p+2) body.length=some body := by
  obtain ⟨h0,h1,h2⟩ := readBytes_elem hread
  refine ⟨?_,?_,h2⟩
  · rw [rdByte_of_readBytes h0,descrByte_toNat (by decide)]
  · rw [elemLen_nextByte hfixed (by omega) h1,UInt8.toNat_ofNat_of_lt' hbody]

/-- Each UUID takes three to seventeen bytes of the sequence. -/
theorem length_uuidSeqBody (us : List Uuid) :
    us.length*3 ≤ (uuidSeqBody us).length ∧ (uuidSeqBody us).length ≤ us.length*17 := by
  induction us with
  | nil => simp [uuidSeqBody]
  | cons u us ih =>
    obtain ⟨size,-,-,hentry⟩ := uuidEntry_eq u
    have hform : 2 ≤ u.shortestForm.length ∧ u.shortestForm.length ≤ 16 := by
      rw [u.length_shortestForm]
      rcases u.getShortestRepresentationSize_spec with ⟨-,h⟩ | ⟨-,-,-,h⟩ | ⟨-,h⟩ <;> omega
    have hcons : (uuidSeqBody (u::us)).length=1+u.shortestForm.length+(uuidSeqBody us).length := by
      rw [uuidSeqBody,List.map_cons,List.flatten_cons,List.length_append,hentry,List.length_cons,← uuidSeqBody]
      omega
    rw [hcons,List.length_cons]
    omega

/-- The UUID sequence a client writes, read by the server wherever it sits in a request with at least
its length left: the extractor stops right after it and returns each UUID's shortest form. -/
theorem sdpuExtractUidSeq_sdpuBuildUuidSeq (uuids : List Uuid) (hcount : uuids.length < maxUuidsPerSeq)
    {buf : List UInt8} {p paramLen : ℕ}
    (hread : readBytes buf p (sdpuBuildUuidSeq uuids).length=some (sdpuBuildUuidSeq uuids))
    (hparam : (sdpuBuildUuidSeq uuids).length ≤ paramLen) :
    sdpuExtractUidSeq buf p paramLen=
      .ok (some (p+(sdpuBuildUuidSeq uuids).length,uuids.map Uuid.shortestForm)) := by
  obtain ⟨hlow,hhigh⟩ := length_uuidSeqBody uuids
  have hlen : (sdpuBuildUuidSeq uuids).length=(uuidSeqBody uuids).length+2 := by
    simp only [sdpuBuildUuidSeq,List.length_append,List.length_cons,List.length_nil]
    omega
  -- at most fifteen UUIDs of at most seventeen bytes: the one-byte length holds the body
  have hbody : (uuidSeqBody uuids).length<256 := by simp only [maxUuidsPerSeq] at hcount; omega
  obtain ⟨h0,h1,h2⟩ := @seqHeader_reads uidFixedLen buf (uuidSeqBody uuids) p paramLen hread hbody
    (by omega) rfl
  have hloop := extractUidLoop_uuidSeqBody uuids (uuidSeqBody uuids).length (p+2) [] h2 (by omega)
    (by simpa using hcount)
  unfold sdpuExtractUidSeq
  rw [if_neg (by omega),h0,ok_bind,if_neg (by decide),show (dataEleSeqDescType*8+sizeInNextByte)%8=5 from rfl,
    h1,ok_bind]
  simp only
  rw [if_neg (by omega),hloop,List.nil_append,hlen,
    show p+2+(uuidSeqBody uuids).length=p+((uuidSeqBody uuids).length+2) by omega]

theorem attrFixedLen_eq_some {size len : ℕ} (h : attrFixedLen size=some len) : len=2 ∨ len=4 := by
  unfold attrFixedLen at h
  split at h <;> cases h <;> simp

/-- The loop reads back the ids `l` from where their elements sit in the buffer, each as a range of
one id. -/
theorem extractAttrLoop_attrIds {buf : List UInt8} (l : List UInt16) :
    ∀ fuel p ranges,readBytes buf p (l.flatMap attrIdEntry).length=some (l.flatMap attrIdEntry) →
      l.length ≤ fuel → ranges.length+l.length < maxAttrPerSeq →
      extractAttrLoop buf (p+(l.flatMap attrIdEntry).length) fuel p ranges=
        .ok (some (p+(l.flatMap attrIdEntry).length,ranges++l.map fun a => (a.toNat,a.toNat))) := by
  induction l with
  | nil =>
    intro fuel p ranges _ _ _
    unfold extractAttrLoop
    simp
  | cons a l ih =>
    intro fuel p ranges hread hfuel hcount
    obtain ⟨fuel,rfl⟩ : ∃ f : ℕ,fuel=f+1 := ⟨fuel-1,by simp only [List.length_cons] at hfuel; omega⟩
    have hbody : (a::l).flatMap attrIdEntry=descrByte uintDescType sizeTwoBytes::
        (encodeBE 2 a.toNat++l.flatMap attrIdEntry) := by
      rw [List.flatMap_cons,attrIdEntry,List.cons_append]
    rw [hbody] at hread ⊢
    obtain ⟨h0,h1,h2⟩ := readBytes_elem hread
    rw [length_encodeBE] at h1 h2
    have hend : p+(descrByte uintDescType sizeTwoBytes::(encodeBE 2 a.toNat++l.flatMap attrIdEntry)).length=
        p+1+2+(l.flatMap attrIdEntry).length := by simp; omega
    have hid : decodeBE (encodeBE 2 a.toNat)=a.toNat := decodeBE_encodeBE_of_lt a.toNat_lt
    rw [hend]
    unfold extractAttrLoop
    rw [if_pos (by omega)]
    simp only [rdByte_of_readBytes h0,ok_bind]
    rw [descrByte_toNat (by decide)]
    -- the header names a two-byte id
    rw [if_neg (by decide),show (uintDescType*8+sizeTwoBytes)%8=1 from rfl,
      elemLen_of_fixed (show attrFixedLen 1=some 2 from rfl),ok_bind]
    simp only
    rw [if_neg (by omega),if_pos trivial,rdBE_of_readBytes h1,ok_bind,hid,ok_bind]
    simp only
    rw [if_neg (by simp only [List.length_cons] at hcount; omega)]
    have hrest := ih fuel (p+1+2) (ranges++[(a.toNat,a.toNat)]) h2 (by simpa using hfuel)
      (by simp only [List.length_append,List.length_cons,List.length_nil] at hcount ⊢; omega)
    rw [hrest,List.map_cons,List.append_assoc,List.singleton_append]

theorem length_flatMap_attrIdEntry (l : List UInt16) : (l.flatMap attrIdEntry).length=l.length*3 := by
  induction l with
  | nil => rfl
  | cons a l ih =>
    rw [List.flatMap_cons,List.length_append,ih,attrIdEntry,List.length_cons,length_encodeBE,List.length_cons]
    ring

/-- The attribute-id list a client writes for the ids `l`, read by the server wherever it sits in a
request with at least its length left: the extractor stops right after it and returns each id as a
range of one. -/
theorem sdpuExtractAttrSeq_sdpuBuildAttribSeq (l : List UInt16) (hcount : l.length < maxAttrPerSeq)
    {buf : List UInt8} {p paramLen : ℕ}
    (hread : readBytes buf p (sdpuBuildAttribSeq (some l)).length=some (sdpuBuildAttribSeq (some l)))
    (hparam : (sdpuBuildAttribSeq (some l)).length ≤ paramLen) :
    sdpuExtractAttrSeq buf p paramLen=
      .ok (some (p+(sdpuBuildAttribSeq (some l)).length,l.map fun a => (a.toNat,a.toNat))) := by
  have hbody := length_flatMap_attrIdEntry l
  -- fewer than sixteen ids need a one-byte length
  have hxx : (l.length*3)%65536=(l.flatMap attrIdEntry).length := by
    rw [hbody]
    simp only [maxAttrPerSeq] at hcount
    omega
  have hbuild : sdpuBuildAttribSeq (some l)=descrByte dataEleSeqDescType sizeInNextByte::
      ([UInt8.ofNat (l.flatMap attrIdEntry).length]++l.flatMap attrIdEntry) := by
    simp only [sdpuBuildAttribSeq,hxx]
    rw [if_neg (by simp only [maxAttrPerSeq] at hcount; omega)]
    rfl
  have hlen : (sdpuBuildAttribSeq (some l)).length=(l.flatMap attrIdEntry).length+2 := by
    rw [hbuild]
    simp only [List.length_cons,List.length_append,List.length_nil]
    omega
  rw [hbuild] at hread
  obtain ⟨h0,h1,h2⟩ := @seqHeader_reads (fun _ => none) buf (l.flatMap attrIdEntry) p paramLen hread
    (by simp only [maxAttrPerSeq] at hcount; omega) (by omega) rfl
  have hloop := extractAttrLoop_attrIds l (l.flatMap attrIdEntry).length (p+2) [] h2 (by omega)
    (by simpa using hcount)
  unfold sdpuExtractAttrSeq
  rw [if_neg (by omega),h0,ok_bind,if_neg (by decide),show (dataEleSeqDescType*8+sizeInNextByte)%8=5 from rfl,
    h1,ok_bind]
  simp only
  rw [if_neg (by omega),hloop,List.nil_append,hlen,
    show p+2+(l.flatMap attrIdEntry).length=p+((l.flatMap attrIdEntry).length+2) by omega]

/-- The wildcard list a client writes for a NULL attribute list is read back as the one range
0x0000-0xFFFF. -/
theorem sdpuExtractAttrSeq_wildcard {buf : List UInt8} {p paramLen : ℕ}
    (hread : readBytes buf p (sdpuBuildAttribSeq none).length=some (sdpuBuildAttribSeq none))
    (hparam : (sdpuBuildAttribSeq none).length ≤ paramLen) :
    sdpuExtractAttrSeq buf p paramLen=.ok (some (p+(sdpuBuildAttribSeq none).length,[(0,0xFFFF)])) := by
  have hbuild : sdpuBuildAttribSeq none=descrByte dataEleSeqDescType sizeInNextByte::
      ([UInt8.ofNat 5]++(descrByte uintDescType sizeFourBytes::(encodeBE 2 0++encodeBE 2 0xFFFF))) := rfl
  have hbl : (descrByte uintDescType sizeFourBytes::(encodeBE 2 0++encodeBE 2 0xFFFF)).length=5 := rfl
  have hlen : (sdpuBuildAttribSeq none).length=7 := rfl
  rw [hlen] at hparam
  rw [hbuild] at hread
  obtain ⟨h0,h1,h2⟩ := @seqHeader_reads (fun _ => none) buf _ p paramLen hread (by decide)
    (by rw [hbl]; omega) rfl
  rw [hbl] at h1
  -- the one element: a header, then the range's start and end
  obtain ⟨h3,h4,-⟩ := @readBytes_elem buf [] (encodeBE 2 0++encodeBE 2 0xFFFF) (p+2)
    (descrByte uintDescType sizeFourBytes) (by rw [List.append_nil]; exact h2)
  have hstart : rdBE buf (p+2+1) 2=.ok 0 := by
    rw [rdBE_of_readBytes (readBytes_sub h4 (i := 0) (k := 2) (by decide))]
    rfl
  have hstop : rdBE buf (p+2+1+2) 2=.ok 0xFFFF := by
    rw [rdBE_of_readBytes (readBytes_sub h4 (i := 2) (k := 2) (by decide))]
    rfl
  unfold sdpuExtractAttrSeq
  rw [if_neg (by omega),h0,ok_bind,if_neg (by decide),show (dataEleSeqDescType*8+sizeInNextByte)%8=5 from rfl,
    h1,ok_bind]
  simp only
  rw [if_neg (by omega)]
  unfold extractAttrLoop
  rw [if_pos (by omega)]
  simp only [rdByte_of_readBytes h3,ok_bind]
  rw [descrByte_toNat (by decide),if_neg (by decide),show (uintDescType*8+sizeFourBytes)%8=2 from rfl,
    elemLen_of_fixed (show attrFixedLen 2=some 4 from rfl),ok_bind]
  simp only
  rw [if_neg (by omega),if_neg (by decide),if_pos trivial,hstart,ok_bind,hstop,ok_bind]
  simp only [ok_bind]
  rw [if_neg (by decide)]
  unfold extractAttrLoop
  rw [if_neg (by omega),hlen]
  rfl

/-- The request sequences a client builds are read back by the server: UUID lists of up to
`MAX_UUIDS_PER_SEQ - 1` entries as each UUID's shortest form, which names the UUID again, and
attribute-id lists of up to `MAX_ATTR_PER_SEQ - 1` ids, or the wildcard, as their ranges. Each
extractor stops right after the sequence, wherever in the request it starts. -/
theorem sdp_request_sequences_round_trip :
    (∀ uuids : List Uuid,uuids.length < maxUuidsPerSeq → ∀ (buf : List UInt8) (p paramLen : ℕ),
      readBytes buf p (sdpuBuildUuidSeq uuids).length=some (sdpuBuildUuidSeq uuids) →
      (sdpuBuildUuidSeq uuids).length ≤ paramLen →
      sdpuExtractUidSeq buf p paramLen=
        .ok (some (p+(sdpuBuildUuidSeq uuids).length,uuids.map Uuid.shortestForm))) ∧
    (∀ u : Uuid,u.shortestForm.length=u.getShortestRepresentationSize ∧
      Uuid.ofShortestForm u.shortestForm=some u) ∧
    (∀ l : List UInt16,l.length < maxAttrPerSeq → ∀ (buf : List UInt8) (p paramLen : ℕ),
      readBytes buf p (sdpuBuildAttribSeq (some l)).length=some (sdpuBuildAttribSeq (some l)) →
      (sdpuBuildAttribSeq (some l)).length ≤ paramLen →
      sdpuExtractAttrSeq buf p paramLen=
        .ok (some (p+(sdpuBuildAttribSeq (some l)).length,l.map fun a => (a.toNat,a.toNat)))) ∧
    (∀ (buf : List UInt8) (p paramLen : ℕ),
      readBytes buf p (sdpuBuildAttribSeq none).length=some (sdpuBuildAttribSeq none) →
      (sdpuBuildAttribSeq none).length ≤ paramLen →
      sdpuExtractAttrSeq buf p paramLen=.ok (some (p+(sdpuBuildAttribSeq none).length,[(0,0xFFFF)]))) := by
  refine ⟨?_,?_,?_,?_⟩
  · intro uuids hcount buf p paramLen hread hparam
    exact sdpuExtractUidSeq_sdpuBuildUuidSeq uuids hcount hread hparam
  · intro u
    exact ⟨u.length_shortestForm,u.ofShortestForm_shortestForm⟩
  · intro l hcount buf p paramLen hread hparam
    exact sdpuExtractAttrSeq_sdpuBuildAttribSeq l hcount hread hparam
  · intro buf p paramLen hread hparam
    exact sdpuExtractAttrSeq_wildcard hread hparam

end RoundTrip

section Dispatcher

/-- `sdpu_build_n_send_error` with no error text: the error response PDU. -/
def sdpuBuildNSendError (transNum errorCode : ℕ) : List UInt8 :=
  UInt8.ofNat sdpPduErrorResponse::encodeBE 2 transNum++encodeBE 2 2++encodeBE 2 errorCode

/-- Where `sdp_server_handle_client_req` hands a request: the handler, the transaction number,
`param_len` and the position of the parameters; `rejected` when it does not dispatch. -/
inductive Dispatch
  | serviceSearch (transNum paramLen pReq : ℕ)
  | serviceAttr (transNum paramLen pReq : ℕ)
  | serviceSearchAttr (transNum paramLen pReq : ℕ)
  | rejected
  deriving DecidableEq,Repr

/-- `sdp_server_handle_client_req`: the error responses sent and where the request goes. The two
header checks send an error response and go on reading the header. -/
def sdpServerHandleClientReq (req : List UInt8) : Except Fault (List (List UInt8)×Dispatch) :=
  let pReqEnd := req.length
  let sent := if pReqEnd<3 then [sdpuBuildNSendError 0 sdpInvalidReqSyntax] else []
  rdByte req 0 >>= fun pduId =>
  rdBE req 1 2 >>= fun transNum =>
  let sent := sent++if pReqEnd<5 then [sdpuBuildNSendError transNum sdpInvalidReqSyntax] else []
  rdBE req 3 2 >>= fun paramLen =>
  if 5+paramLen≠pReqEnd then .ok (sent++[sdpuBuildNSendError transNum sdpInvalidPduSize],.rejected)
  else if pduId=sdpPduServiceSearchReq then .ok (sent,.serviceSearch transNum paramLen 5)
  else if pduId=sdpPduServiceAttrReq then .ok (sent,.serviceAttr transNum paramLen 5)
  else if pduId=sdpPduServiceSearchAttrReq then .ok (sent,.serviceSearchAttr transNum paramLen 5)
  else .ok (sent++[sdpuBuildNSendError transNum sdpInvalidReqSyntax],.rejected)

/-- The parameters a dispatch hands on: `param_len` and where they start. -/
def Dispatch.params : Dispatch → Option (ℕ×ℕ)
  | .serviceSearch _ paramLen pReq => some (paramLen,pReq)
  | .serviceAttr _ paramLen pReq => some (paramLen,pReq)
  | .serviceSearchAttr _ paramLen pReq => some (paramLen,pReq)
  | .rejected => none

theorem rdBE_past_end {buf : List UInt8} {p w : ℕ} (h : buf.length<p+w) : rdBE buf p w=.error .outOfRange := by
  rw [rdBE,readBE,readBytes_eq_none h]
  rfl

/-- A PDU shorter than its five-byte header: the header checks send an error response, and the
reads of the header that follow them go past the PDU. -/
theorem sdp_server_header_check_falls_through (req : List UInt8) (h : req.length<5) :
    sdpServerHandleClientReq req=.error .outOfRange := by
  rcases Nat.lt_or_ge req.length 1 with h1 | h1
  · -- the PDU id of an empty PDU
    rw [sdpServerHandleClientReq,SdpDiscovery.rdByte_of_le (by omega),error_bind]
  · have hid := SdpDiscovery.rdByte_of_lt (show 0<req.length by omega)
    rcases Nat.lt_or_ge req.length 3 with h3 | h3
    · -- the transaction number
      rw [sdpServerHandleClientReq,hid,ok_bind,rdBE_past_end (by omega),error_bind]
    · -- the parameter length
      rw [sdpServerHandleClientReq,hid,ok_bind,SdpDiscovery.rdBE_of_le (by omega),ok_bind,
        rdBE_past_end (by omega),error_bind]

theorem sdp_server_header_check_falls_through_empty :
    ([] : List UInt8).length<5 ∧ sdpServerHandleClientReq []=.error .outOfRange :=
  ⟨by decide,sdp_server_header_check_falls_through [] (by decide)⟩

/-- A PDU with its whole header is dispatched without a fault, and a handler gets parameters that
end where the PDU ends, with no error response sent before it. -/
theorem sdpServerHandleClientReq_of_header {req : List UInt8} (h : 5 ≤ req.length) :
    ∃ sent d,sdpServerHandleClientReq req=.ok (sent,d) ∧
      ∀ paramLen pReq,d.params=some (paramLen,pReq) → pReq+paramLen=req.length ∧ sent=[] := by
  have hid := SdpDiscovery.rdByte_of_lt (show 0<req.length by omega)
  have hsent : (if req.length<3 then [sdpuBuildNSendError 0 sdpInvalidReqSyntax] else [])++
      (if req.length<5 then [sdpuBuildNSendError (decodeBE ((req.drop 1).take 2)) sdpInvalidReqSyntax]
        else [])=[] := by
    rw [if_neg (by omega),if_neg (by omega),List.append_nil]
  rw [sdpServerHandleClientReq,hid,ok_bind,SdpDiscovery.rdBE_of_le (by omega),ok_bind,
    SdpDiscovery.rdBE_of_le (by omega),ok_bind]
  simp only [hsent]
  -- the parameter length check, then the PDU id
  split_ifs with hlen
  · exact ⟨_,_,rfl,fun _ _ hp => by simp [Dispatch.params] at hp⟩
  rotate_right
  · exact ⟨_,_,rfl,fun _ _ hp => by simp [Dispatch.params] at hp⟩
  all_goals
    refine ⟨_,_,rfl,fun _ _ hp => ?_⟩
    simp only [Dispatch.params,Option.some.injEq,Prod.mk.injEq] at hp
    obtain ⟨rfl,rfl⟩ := hp
    exact ⟨by omega,rfl⟩

end Dispatcher

section AttribSeqLen

/-- `sdp_db_find_attr_in_rec`: the first of the record's attributes with an id in the range. -/
def sdpDbFindAttrInRec (r : SdpRecord) (startAttr endAttr : ℕ) : Option SdpAttribute :=
  r.liveAttrs.find? fun a => startAttr ≤ a.id ∧ a.id ≤ endAttr

/-- `sdpu_get_attrib_entry_len`: the id element, the value header and the value, in 16 bits. -/
def sdpuGetAttribEntryLen (a : SdpAttribute) : ℕ :=
  if a.type=textStrDescType ∨ a.type=dataEleSeqDescType ∨ a.type=dataEleAltDescType ∨ a.type=urlDescType then
    -- `SDP_MAX_ATTR_LEN` is 400, so the one- and two-byte length forms are compiled in
    ((if 0xFF<a.len then 3+3 else 3+2)+a.len)%65536
  else
    (3+(if a.len=1 ∨ a.len=2 ∨ a.len=4 ∨ a.len=8 ∨ a.len=16 then 1 else 2)+a.len)%65536

/-- The loop of `sdpu_get_attrib_seq_len` at entry `xx`: in a range it goes on from `startId`,
the id after the last one found, in 16 bits. -/
def getAttribSeqLenLoop (r : SdpRecord) (attrSeq : List (ℕ×ℕ)) :
    ℕ → ℕ → Bool → ℕ → ℕ → ℕ → Except Fault ℕ
  | fuel,xx,isRange,startId,endId,len1 =>
    if xx<attrSeq.length then
      match fuel with
      | 0 => .error .noProgress
      | fuel+1 =>
        (if isRange then .ok (startId,endId) else inRange attrSeq[xx]?) >>= fun (startId,endId) =>
        match sdpDbFindAttrInRec r startId endId with
        | some a =>
          let len1 := (len1+sdpuGetAttribEntryLen a)%65536
          if startId≠endId then getAttribSeqLenLoop r attrSeq fuel xx true ((a.id+1)%65536) endId len1
          else getAttribSeqLenLoop r attrSeq fuel (xx+1) false startId endId len1
        | none => getAttribSeqLenLoop r attrSeq fuel (xx+1) false startId endId len1
    else .ok len1

/-- `sdpu_get_attrib_seq_len` with `fuel` passes of its loop. -/
def sdpuGetAttribSeqLen (r : SdpRecord) (attrSeq : List (ℕ×ℕ)) (fuel : ℕ) : Except Fault ℕ :=
  getAttribSeqLenLoop r attrSeq fuel 0 false 0 0 0

theorem sdpDbFindAttrInRec_spec {r : SdpRecord} {startAttr endAttr : ℕ} {a : SdpAttribute}
    (h : sdpDbFindAttrInRec r startAttr endAttr=some a) :
    a ∈ r.liveAttrs ∧ startAttr ≤ a.id ∧ a.id ≤ endAttr := by
  have hp := List.find?_some h
  simp only [decide_eq_true_eq] at hp
  exact ⟨List.mem_of_find?_eq_some h,hp⟩

theorem sdpDbFindAttrInRec_isSome {r : SdpRecord} {startAttr endAttr : ℕ} {b : SdpAttribute}
    (hb : b ∈ r.liveAttrs) (hs : startAttr ≤ b.id) (he : b.id ≤ endAttr) :
    ∃ a,sdpDbFindAttrInRec r startAttr endAttr=some a := by
  rw [← Option.isSome_iff_exists,sdpDbFindAttrInRec,List.find?_isSome]
  exact ⟨b,hb,by simp [hs,he]⟩

section Wrap

variable {r : SdpRecord} {attrSeq : List (ℕ×ℕ)}

/-- In a range that ends at 0xFFFF, over a record with an attribute 0xFFFF and none 0xFFFE, the loop
keeps finding an attribute: the id after 0xFFFF is 0 in 16 bits, and the range never shrinks to the
single id 0xFFFF that would end it. -/
theorem getAttribSeqLenLoop_wraps (hxx : 0<attrSeq.length) (hmax : ∃ b ∈ r.liveAttrs,b.id=0xFFFF)
    (hno : ∀ a ∈ r.liveAttrs,a.id≠0xFFFE) :
    ∀ fuel startId len1,startId<0xFFFF →
      getAttribSeqLenLoop r attrSeq fuel 0 true startId 0xFFFF len1=.error .noProgress := by
  obtain ⟨b,hb,hbid⟩ := hmax
  intro fuel
  induction fuel with
  | zero =>
    intro startId len1 _
    unfold getAttribSeqLenLoop
    rw [if_pos hxx]
  | succ fuel ih =>
    intro startId len1 hs
    obtain ⟨a,ha⟩ := sdpDbFindAttrInRec_isSome hb (show startId ≤ b.id by omega) hbid.le
    obtain ⟨hmem,-,hle⟩ := sdpDbFindAttrInRec_spec ha
    have hne := hno a hmem
    unfold getAttribSeqLenLoop
    rw [if_pos hxx]
    simp only [if_true,ok_bind,ha]
    -- the id after the one found, in 16 bits, is again below 0xFFFF
    rw [if_pos (by omega)]
    exact ih _ _ (by omega)

/-- `sdpu_get_attrib_seq_len` does not return for a request whose first range ends at 0xFFFF,
such as the wildcard 0x0000-0xFFFF, on a record with an attribute 0xFFFF and none 0xFFFE: no
amount of fuel is enough. -/
theorem sdp_attrib_seq_len_never_returns (start : ℕ) (rest : List (ℕ×ℕ))
    (hmax : ∃ b ∈ r.liveAttrs,b.id=0xFFFF) (hno : ∀ a ∈ r.liveAttrs,a.id≠0xFFFE) (hstart : start<0xFFFF)
    (fuel : ℕ) : sdpuGetAttribSeqLen r ((start,0xFFFF)::rest) fuel=.error .noProgress := by
  obtain ⟨b,hb,hbid⟩ := hmax
  obtain ⟨a,ha⟩ := sdpDbFindAttrInRec_isSome hb (show start ≤ b.id by omega) hbid.le
  obtain ⟨hmem,-,hle⟩ := sdpDbFindAttrInRec_spec ha
  have hne := hno a hmem
  unfold sdpuGetAttribSeqLen getAttribSeqLenLoop
  rw [if_pos (by simp)]
  cases fuel with
  | zero => rfl
  | succ fuel =>
    -- the first pass takes the range from the request and enters it
    simp only [Bool.false_eq_true,if_false,List.getElem?_cons_zero,inRange_some,ok_bind,ha]
    rw [if_pos (by omega)]
    exact getAttribSeqLenLoop_wraps (by simp) ⟨b,hb,hbid⟩ hno _ _ _ (by omega)

end Wrap

/-- A record whose handle is attribute 0 and which holds one more attribute, 0xFFFF. -/
def recordWithAttrFfff : SdpRecord := ⟨0x10000,5,2,[⟨0,1,4,0⟩,⟨0xFFFF,1,1,4⟩],[0,1,0,0,1]⟩

theorem sdp_attrib_seq_len_never_returns_wildcard :
    (∃ b ∈ recordWithAttrFfff.liveAttrs,b.id=0xFFFF) ∧ (∀ a ∈ recordWithAttrFfff.liveAttrs,a.id≠0xFFFE) ∧
      sdpuGetAttribSeqLen recordWithAttrFfff [(0,0xFFFF)] 1000=.error .noProgress :=
  ⟨by decide,by decide,sdp_attrib_seq_len_never_returns 0 [] (by decide) (by decide) (by decide) 1000⟩

end AttribSeqLen

end BluetoothStack.SdpServer
