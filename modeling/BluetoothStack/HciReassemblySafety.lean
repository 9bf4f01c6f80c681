import BluetoothStack.HciPacketFragmenter

/-!
# Reassembly safety (hci/src/packet_fragmenter.cc, `reassemble_and_dispatch`)

The reassembler keeps at most one half-built packet per connection handle. Each
step is first taken apart once: which branch of `reassemble_and_dispatch` ran,
under which guards, with which result. From that, every partial packet of the
map keeps its shape along every run, whatever the handles, boundary flags,
length fields and interleaving of the inbound fragments: its offset lies
strictly inside its expected length, which is the L2CAP length of its start
fragment plus both headers and fits a default buffer.

The copy of a continuation is not always inside the partial packet. When a
fragment overshoots the expected length, `packet->len` becomes the missing byte
count, but the copy length `packet->len - packet->offset` subtracts the
four-byte preamble from it once more: four bytes too few are copied, and fewer
than four missing bytes give a negative length that `memcpy` reads as a huge
`size_t`. A `projected_offset` that wraps around `uint16_t` back inside the
expected length escapes the overshoot test altogether. In the model both are
copies outside the allocation.
-/

namespace BluetoothStack.HciReassemblySafety

open ByteBuffer StepRun BtTypes HciPacketFragmenter

/-- The shape of a partial packet: its offset lies between the start fragment's
headers and the expected length, its data area is that long, its ACL length
field holds the full length and its L2CAP length field matches it, and the
buffer fits a default allocation. -/
structure PartialInv (p : BtHdr) : Prop where
  /-- The start fragment held the ACL preamble and the L2CAP length. -/
  header_le_offset : hciAclPreambleSize+l2capHeaderPduLenSize ≤ p.offset
  /-- The packet is not complete yet. -/
  offset_lt_len : p.offset<p.len
  /-- The data area is allocated for the full length. -/
  data_length : p.data.length=p.len
  /-- The ACL length field states the full length. -/
  aclLength : readLE p.data 2 2=some (p.len-hciAclPreambleSize)
  /-- The L2CAP length field and both headers make up the full length. -/
  l2capLength : readLE p.data 4 2=some (p.len-(l2capHeaderSize+hciAclPreambleSize))
  /-- The expected length covers both headers. -/
  headers_le_len : l2capHeaderSize+hciAclPreambleSize ≤ p.len
  /-- The buffer fits a default allocation. -/
  len_fits : p.len+btHdrSize ≤ btDefaultBufferSize

/-- Every partial packet of the map has the shape of `PartialInv`. -/
def ReassemblyInv (st : FragmenterState) : Prop :=
  ∀ handle p,st.partialPackets handle=some p → PartialInv p

theorem reassemblyInv_empty : ReassemblyInv FragmenterState.empty := by
  intro handle p h
  cases h

theorem ReassemblyInv.erase {st : FragmenterState} (hst : ReassemblyInv st) (handle : ℕ) :
    ReassemblyInv (st.erase handle) := by
  intro other p hp
  by_cases ho : other=handle
  · subst ho
    rw [FragmenterState.erase_self] at hp
    cases hp
  · rw [FragmenterState.erase_ne ho] at hp
    exact hst other p hp

theorem ReassemblyInv.set {st : FragmenterState} {p : BtHdr} (hst : ReassemblyInv st) (handle : ℕ)
    (hp : PartialInv p) : ReassemblyInv (st.set handle p) := by
  intro other q hq
  by_cases ho : other=handle
  · subst ho
    rw [FragmenterState.set_self,Option.some.injEq] at hq
    exact hq ▸ hp
  · rw [FragmenterState.set_ne p ho] at hq
    exact hst other q hq

/-- A partial packet's length is a `uint16_t` value. -/
theorem PartialInv.len_lt {p : BtHdr} (hp : PartialInv p) : p.len<65536 := by
  have h := hp.len_fits
  unfold btHdrSize btDefaultBufferSize at h
  omega

/-- The fields `reassemble_and_dispatch` reads from an inbound ACL packet, with
its length `CHECK` passed. -/
structure AclFields (packet : BtHdr) (rawHandle aclLength l2capLength : ℕ) : Prop where
  /-- The packet is inbound ACL data. -/
  event_acl : packet.event &&& msgEvtMask=msgHcToStackHciAcl
  /-- The handle with its flags. -/
  read_handle : readLE packet.data 0 2=some rawHandle
  /-- The ACL length field. -/
  read_aclLength : readLE packet.data 2 2=some aclLength
  /-- The L2CAP length field. -/
  read_l2capLength : readLE packet.data 4 2=some l2capLength
  /-- `CHECK(acl_length == packet->len - HCI_ACL_PREAMBLE_SIZE)`. -/
  check : (aclLength : ℤ)=packet.len-hciAclPreambleSize

section Dispatch

variable {st st' : FragmenterState} {packet : BtHdr} {out : List BtHdr}
  {rawHandle aclLength l2capLength : ℕ}

/-- An ACL fragment's length covers its preamble. -/
theorem AclFields.preamble_le_len (hf : AclFields packet rawHandle aclLength l2capLength) :
    hciAclPreambleSize+aclLength=packet.len := by
  have h := hf.check
  unfold hciAclPreambleSize at h ⊢
  omega

/-- A start fragment goes to the start branch. -/
theorem reassembleAndDispatch_of_start (hf : AclFields packet rawHandle aclLength l2capLength)
    (hb : getBoundaryFlag rawHandle=startPacketBoundary) :
    reassembleAndDispatch st packet=
      reassembleStart st packet (rawHandle &&& handleMask) aclLength l2capLength := by
  unfold reassembleAndDispatch
  simp only [hf.event_acl,hf.read_handle,hf.read_aclLength,hf.read_l2capLength,hf.check,hb,ne_eq,
    not_true_eq_false,if_false,if_true,inRange_some,ok_bind]

/-- Any other boundary flag goes to the continuation branch. -/
theorem reassembleAndDispatch_of_continuation (hf : AclFields packet rawHandle aclLength l2capLength)
    (hb : getBoundaryFlag rawHandle≠startPacketBoundary) :
    reassembleAndDispatch st packet=reassembleContinuation st packet (rawHandle &&& handleMask) := by
  unfold reassembleAndDispatch
  simp only [hf.event_acl,hf.read_handle,hf.read_aclLength,hf.read_l2capLength,hf.check,hb,ne_eq,
    not_true_eq_false,if_false,inRange_some,ok_bind]

/-- What one successful step of `reassemble_and_dispatch` can be: a packet
that is not ACL data passes through, and an ACL fragment whose fields were read
and whose length check passed goes to the branch of its boundary flag. -/
theorem reassembleAndDispatch_cases (h : reassembleAndDispatch st packet=.ok (st',out)) :
    (packet.event &&& msgEvtMask≠msgHcToStackHciAcl ∧ st'=st ∧ out=[packet]) ∨
    ∃ rawHandle aclLength l2capLength,AclFields packet rawHandle aclLength l2capLength ∧
      (getBoundaryFlag rawHandle=startPacketBoundary ∧
          reassembleStart st packet (rawHandle &&& handleMask) aclLength l2capLength=.ok (st',out) ∨
        getBoundaryFlag rawHandle≠startPacketBoundary ∧
          reassembleContinuation st packet (rawHandle &&& handleMask)=.ok (st',out)) := by
  unfold reassembleAndDispatch at h
  split at h
  · case isTrue hev =>
    cases h
    exact .inl ⟨hev,rfl,rfl⟩
  · case isFalse hev =>
    right
    obtain ⟨rawHandle,hh,h⟩ := bind_eq_ok.mp h
    obtain ⟨aclLength,hacl,h⟩ := bind_eq_ok.mp h
    obtain ⟨l2capLength,hl2,h⟩ := bind_eq_ok.mp h
    split at h
    · cases h
    · case isFalse hne =>
      have hf : AclFields packet rawHandle aclLength l2capLength :=
        ⟨not_not.mp hev,inRange_eq_ok.mp hh,inRange_eq_ok.mp hacl,inRange_eq_ok.mp hl2,not_not.mp hne⟩
      refine ⟨rawHandle,aclLength,l2capLength,hf,?_⟩
      by_cases hb : getBoundaryFlag rawHandle=startPacketBoundary
      · exact .inl ⟨hb,by simpa only [hb,if_true] using h⟩
      · exact .inr ⟨hb,by simpa only [hb,if_false] using h⟩

/-- What the start branch can do: drop the fragment, pass a complete packet
through, or open a partial packet; each after dropping an unfinished packet of
the handle. -/
theorem reassembleStart_cases {handle : ℕ}
    (h : reassembleStart st packet handle aclLength l2capLength=.ok (st',out)) :
    st'=st.erase handle ∧ out=[] ∧
        (aclLength<l2capHeaderPduLenSize ∨ invalidStartLength l2capLength=true) ∨
      st'=st.erase handle ∧ out=[packet] ∧ l2capHeaderPduLenSize ≤ aclLength ∧
        invalidStartLength l2capLength=false ∧ fullLength l2capLength ≤ packet.len ∨
      ∃ p,st'=(st.erase handle).set handle p ∧ out=[] ∧ l2capHeaderPduLenSize ≤ aclLength ∧
        invalidStartLength l2capLength=false ∧ packet.len<fullLength l2capLength ∧
        startPartial packet (fullLength l2capLength)=.ok p := by
  unfold reassembleStart at h
  split at h
  · case isTrue hacl =>
    cases h
    exact .inl ⟨rfl,rfl,.inl hacl⟩
  · case isFalse hacl =>
    split at h
    · case isTrue hbad =>
      cases h
      exact .inl ⟨rfl,rfl,.inr hbad⟩
    · case isFalse hbad =>
      have hvalid : invalidStartLength l2capLength=false := by simpa using hbad
      dsimp only at h
      split at h
      · case isTrue hfull =>
        cases h
        exact .inr (.inl ⟨rfl,rfl,Nat.not_lt.mp hacl,hvalid,hfull⟩)
      · case isFalse hfull =>
        obtain ⟨p,hp,h⟩ := bind_eq_ok.mp h
        cases h
        exact .inr (.inr ⟨p,rfl,rfl,Nat.not_lt.mp hacl,hvalid,Nat.not_le.mp hfull,hp⟩)

/-- A start fragment that holds its whole packet is dispatched as it is. -/
theorem reassembleStart_of_complete {handle : ℕ} (hacl : l2capHeaderPduLenSize ≤ aclLength)
    (hvalid : invalidStartLength l2capLength=false) (hfull : fullLength l2capLength ≤ packet.len) :
    reassembleStart st packet handle aclLength l2capLength=.ok (st.erase handle,[packet]) := by
  unfold reassembleStart
  simp only [if_neg (Nat.not_lt.mpr hacl),hvalid,Bool.false_eq_true,if_false,if_pos hfull]
  rfl

/-- A start fragment shorter than its packet opens the handle's partial packet. -/
theorem reassembleStart_of_short {handle : ℕ} {p : BtHdr} (hacl : l2capHeaderPduLenSize ≤ aclLength)
    (hvalid : invalidStartLength l2capLength=false) (hfull : packet.len<fullLength l2capLength)
    (hp : startPartial packet (fullLength l2capLength)=.ok p) :
    reassembleStart st packet handle aclLength l2capLength=.ok ((st.erase handle).set handle p,[]) := by
  unfold reassembleStart
  simp only [if_neg (Nat.not_lt.mpr hacl),hvalid,Bool.false_eq_true,if_false,
    if_neg (Nat.not_le.mpr hfull),hp,ok_bind]
  rfl

/-- How a start fragment's partial packet is built: the fragment copied into a
zeroed buffer of the full length, then the full length written into its ACL
length field. -/
theorem startPartial_ok {full : ℕ} {p : BtHdr} (h : startPartial packet full=.ok p) :
    ∃ d,copyBytes (List.replicate full 0) 0 packet.data 0 packet.len=some d ∧
      writeBytes d 2 (encodeLE 2 (toUint16 ((full : ℤ)-hciAclPreambleSize)))=some p.data ∧
      p={event := packet.event,len := full,offset := packet.len,layerSpecific := 0,data := p.data} := by
  unfold startPartial at h
  obtain ⟨d,hd,h⟩ := bind_eq_ok.mp h
  obtain ⟨d',hd',h⟩ := bind_eq_ok.mp h
  cases h
  exact ⟨d,inRange_eq_ok.mp hd,inRange_eq_ok.mp hd',rfl⟩

/-- A start fragment's partial packet: the full length, the fragment's length as
offset, and a data area of the full length that the fragment fits. -/
theorem startPartial_fields {full : ℕ} {p : BtHdr} (h : startPartial packet full=.ok p) :
    p.len=full ∧ p.offset=packet.len ∧ p.data.length=full ∧ packet.len ≤ full ∧
      packet.len ≤ packet.data.length := by
  obtain ⟨d,hd,hw,hp⟩ := startPartial_ok h
  obtain ⟨hdl,hsrc,hdst⟩ := copyBytes_length hd
  obtain ⟨hwl,-⟩ := writeBytes_length hw
  rw [hp]
  simp only [List.length_replicate] at hdl hdst
  exact ⟨rfl,rfl,hwl.trans hdl,by omega,by omega⟩

/-- The ACL length field of a start fragment's partial packet holds the full length. -/
theorem startPartial_aclLength {full : ℕ} {p : BtHdr} (h : startPartial packet full=.ok p) :
    readBytes p.data 2 2=some (encodeLE 2 (toUint16 ((full : ℤ)-hciAclPreambleSize))) := by
  obtain ⟨d,-,hw,-⟩ := startPartial_ok h
  exact readBytes_writeBytes_self hw

/-- Past its ACL preamble, a start fragment's partial packet holds the fragment's bytes. -/
theorem startPartial_bytes {full a k : ℕ} {p : BtHdr} (h : startPartial packet full=.ok p)
    (ha : hciAclPreambleSize ≤ a) (hk : a+k ≤ packet.len) :
    readBytes p.data a k=readBytes packet.data a k := by
  obtain ⟨d,hd,hw,-⟩ := startPartial_ok h
  unfold hciAclPreambleSize at ha
  rw [readBytes_writeBytes_of_ge hw (by simp only [length_encodeLE]; omega),
    readBytes_copyBytes_inside hd (Nat.zero_le a) (by omega),Nat.zero_add,Nat.sub_zero]

/-- A start fragment that passes the length tests opens a partial packet of the
shape `PartialInv` asks for. -/
theorem startPartial_partialInv {p : BtHdr} (hf : AclFields packet rawHandle aclLength l2capLength)
    (hacl : l2capHeaderPduLenSize ≤ aclLength) (hvalid : invalidStartLength l2capLength=false)
    (hlt : packet.len<fullLength l2capLength) (h : startPartial packet (fullLength l2capLength)=.ok p) :
    PartialInv p := by
  obtain ⟨hlen,hoff,hdata,-,-⟩ := startPartial_fields h
  have hpre := hf.preamble_le_len
  unfold l2capHeaderPduLenSize at hacl
  unfold hciAclPreambleSize at hpre
  have hfull : fullLength l2capLength=l2capLength+8 ∧ fullLength l2capLength ≤ 4104 := by
    unfold invalidStartLength checkUint16Overflow at hvalid
    simp only [Bool.or_eq_false_iff,decide_eq_false_iff_not,Nat.not_lt] at hvalid
    unfold fullLength uint16Max l2capHeaderSize hciAclPreambleSize btHdrSize btDefaultBufferSize at *
    omega
  have hw : toUint16 ((fullLength l2capLength : ℤ)-hciAclPreambleSize)=fullLength l2capLength-4 := by
    unfold toUint16 hciAclPreambleSize
    omega
  have hw2 : fullLength l2capLength-4<256^2 := by
    norm_num
    omega
  have hacl' : readLE p.data 2 2=some (p.len-hciAclPreambleSize) := by
    rw [readLE_eq_of_readBytes (startPartial_aclLength h),hw,decodeLE_encodeLE_of_lt hw2,hlen]
    rfl
  have hl2 : readLE p.data 4 2=some (p.len-(l2capHeaderSize+hciAclPreambleSize)) := by
    have hb : readBytes p.data 4 2=readBytes packet.data 4 2 :=
      startPartial_bytes h (le_refl 4) (by omega)
    have hl := hf.read_l2capLength
    unfold readLE at hl ⊢
    rw [hb,hl,hlen,hfull.1,Option.some.injEq]
    unfold l2capHeaderSize hciAclPreambleSize
    omega
  refine ⟨?_,?_,?_,hacl',hl2,?_,?_⟩
  · rw [hoff]
    unfold hciAclPreambleSize l2capHeaderPduLenSize
    omega
  · rw [hoff,hlen]
    exact hlt
  · rw [hdata,hlen]
  · rw [hlen,hfull.1]
    unfold l2capHeaderSize hciAclPreambleSize
    omega
  · rw [hlen]
    unfold btHdrSize btDefaultBufferSize
    omega

/-- A continuation for a handle without a partial packet is dropped. -/
theorem reassembleContinuation_of_unknown {handle : ℕ} (hp : st.partialPackets handle=none) :
    reassembleContinuation st packet handle=.ok (st,[]) := by
  unfold reassembleContinuation
  simp only [hp]
  rfl

/-- A continuation whose copy leaves the partial packet or the fragment faults. -/
theorem reassembleContinuation_of_copy_fault {handle : ℕ} {p : BtHdr}
    (hp : st.partialPackets handle=some p)
    (hcopy : copyBytes p.data p.offset packet.data hciAclPreambleSize
      (continuationCopySize p packet)=none) :
    reassembleContinuation st packet handle=.error .outOfRange := by
  unfold reassembleContinuation
  simp only [hp,hcopy,inRange_none,error_bind]

/-- A continuation whose copy succeeds moves the offset to `projected_offset`,
and dispatches the packet with offset zero once it reaches the expected length. -/
theorem reassembleContinuation_of_copy {handle : ℕ} {p : BtHdr} {data : List UInt8}
    (hp : st.partialPackets handle=some p)
    (hcopy : copyBytes p.data p.offset packet.data hciAclPreambleSize
      (continuationCopySize p packet)=some data) :
    reassembleContinuation st packet handle=
      if (truncateContinuation p packet).2=p.len then .ok (st.erase handle,[{p with data,offset := 0}])
      else .ok (st.set handle {p with data,offset := (truncateContinuation p packet).2},[]) := by
  unfold reassembleContinuation
  simp only [hp,hcopy,inRange_some,ok_bind]
  rfl

/-- What the continuation branch can do: drop a fragment of an unknown handle,
or copy the fragment into the handle's partial packet and either dispatch the
completed packet or keep it with its new offset. -/
theorem reassembleContinuation_cases {handle : ℕ}
    (h : reassembleContinuation st packet handle=.ok (st',out)) :
    st.partialPackets handle=none ∧ st'=st ∧ out=[] ∨
    ∃ p data,st.partialPackets handle=some p ∧
      copyBytes p.data p.offset packet.data hciAclPreambleSize (continuationCopySize p packet)=some data ∧
      ((truncateContinuation p packet).2=p.len ∧ st'=st.erase handle ∧ out=[{p with data,offset := 0}] ∨
        (truncateContinuation p packet).2≠p.len ∧
          st'=st.set handle {p with data,offset := (truncateContinuation p packet).2} ∧ out=[]) := by
  cases hp : st.partialPackets handle with
  | none =>
    rw [reassembleContinuation_of_unknown hp] at h
    cases h
    exact .inl ⟨rfl,rfl,rfl⟩
  | some p =>
    cases hcopy : copyBytes p.data p.offset packet.data hciAclPreambleSize
        (continuationCopySize p packet) with
    | none =>
      rw [reassembleContinuation_of_copy_fault hp hcopy] at h
      cases h
    | some data =>
      rw [reassembleContinuation_of_copy hp hcopy] at h
      right
      refine ⟨p,data,rfl,hcopy,?_⟩
      split at h
      · case isTrue hdone =>
        cases h
        exact .inl ⟨hdone,rfl,rfl⟩
      · case isFalse hdone =>
        cases h
        exact .inr ⟨hdone,rfl,rfl⟩

/-- When a continuation's copy fits the partial packet, the new offset lies
between the old one and the expected length: a `projected_offset` that wrapped
around `uint16_t` cannot have passed the copy. -/
theorem truncateContinuation_snd_bounds {p : BtHdr} (hle : p.offset ≤ p.len) (hlen : p.len<65536)
    (hfit : p.offset+continuationCopySize p packet ≤ p.len) :
    p.offset ≤ (truncateContinuation p packet).2 ∧ (truncateContinuation p packet).2 ≤ p.len := by
  unfold truncateContinuation
  split
  · case isTrue => exact ⟨hle,le_refl _⟩
  · case isFalse hin =>
    unfold continuationCopySize truncateContinuation at hfit
    rw [if_neg hin] at hfit
    unfold toSizeT at hfit
    unfold projectedOffset toUint16 at hin ⊢
    unfold hciAclPreambleSize at hin hfit ⊢
    omega

/-- A continuation whose payload fits what the partial packet still misses is
not truncated: `projected_offset` is the plain sum and the whole payload is copied. -/
theorem truncateContinuation_of_fit {p : BtHdr} (hpre : hciAclPreambleSize ≤ packet.len)
    (hfit : p.offset+(packet.len-hciAclPreambleSize) ≤ p.len) (hlen : p.len<65536) :
    truncateContinuation p packet=(packet.len,p.offset+(packet.len-hciAclPreambleSize)) ∧
      continuationCopySize p packet=packet.len-hciAclPreambleSize := by
  have hproj : projectedOffset p packet=p.offset+(packet.len-hciAclPreambleSize) := by
    unfold projectedOffset toUint16
    unfold hciAclPreambleSize at hpre hfit ⊢
    omega
  have htr : truncateContinuation p packet=(packet.len,p.offset+(packet.len-hciAclPreambleSize)) := by
    unfold truncateContinuation
    rw [hproj,if_neg (Nat.not_lt.mpr hfit)]
  refine ⟨htr,?_⟩
  unfold continuationCopySize toSizeT
  rw [htr]
  unfold hciAclPreambleSize at hpre hfit ⊢
  omega

/-- A continuation that fits and does not complete the packet leaves a partial
packet of the same shape: the copy lands past both length fields. -/
theorem PartialInv.continue {p : BtHdr} {data : List UInt8} (hp : PartialInv p)
    (hcopy : copyBytes p.data p.offset packet.data hciAclPreambleSize
      (continuationCopySize p packet)=some data)
    (hne : (truncateContinuation p packet).2≠p.len) :
    PartialInv {p with data,offset := (truncateContinuation p packet).2} := by
  obtain ⟨hdl,-,hfit⟩ := copyBytes_length hcopy
  have hoff := hp.header_le_offset
  unfold hciAclPreambleSize l2capHeaderPduLenSize at hoff
  obtain ⟨hlo,hhi⟩ :=
    truncateContinuation_snd_bounds hp.offset_lt_len.le hp.len_lt (hp.data_length ▸ hfit)
  have hkeep : ∀ a,a+2 ≤ p.offset → readLE data a 2=readLE p.data a 2 := by
    intro a ha
    unfold readLE
    rw [readBytes_copyBytes_outside hcopy (.inl ha)]
  refine ⟨le_trans hp.header_le_offset hlo,lt_of_le_of_ne hhi hne,hdl.trans hp.data_length,?_,?_,
    hp.headers_le_len,hp.len_fits⟩
  · rw [hkeep 2 (by omega)]
    exact hp.aclLength
  · rw [hkeep 4 (by omega)]
    exact hp.l2capLength

/-- The start branch keeps the invariant: it erases the handle's entry and at
most installs a freshly opened partial packet. -/
theorem reassembleStart_inv {handle : ℕ} (hst : ReassemblyInv st)
    (hf : AclFields packet rawHandle aclLength l2capLength)
    (h : reassembleStart st packet handle aclLength l2capLength=.ok (st',out)) : ReassemblyInv st' := by
  rcases reassembleStart_cases h with ⟨rfl,-,-⟩ | ⟨rfl,-,-⟩ | ⟨p,rfl,-,hacl,hvalid,hlt,hp⟩
  · exact hst.erase handle
  · exact hst.erase handle
  · exact (hst.erase handle).set handle (startPartial_partialInv hf hacl hvalid hlt hp)

/-- The continuation branch keeps the invariant. -/
theorem reassembleContinuation_inv {handle : ℕ} (hst : ReassemblyInv st)
    (h : reassembleContinuation st packet handle=.ok (st',out)) : ReassemblyInv st' := by
  rcases reassembleContinuation_cases h with ⟨-,rfl,-⟩ | ⟨p,data,hp,hcopy,⟨-,rfl,-⟩ | ⟨hne,rfl,-⟩⟩
  · exact hst
  · exact hst.erase handle
  · exact hst.set handle ((hst handle p hp).continue hcopy hne)

/-- Every successful step of the reassembler keeps the partial-packet invariant. -/
theorem reassembleAndDispatch_inv (hst : ReassemblyInv st)
    (h : reassembleAndDispatch st packet=.ok (st',out)) : ReassemblyInv st' := by
  rcases reassembleAndDispatch_cases h with ⟨-,rfl,-⟩ | ⟨rawHandle,aclLength,l2capLength,hf,⟨-,hs⟩ | ⟨-,hc⟩⟩
  · exact hst
  · exact reassembleStart_inv hst hf hs
  · exact reassembleContinuation_inv hst hc

/-- Along every successful run from the empty map, whatever the fragments and
their order, every partial packet keeps the shape of `PartialInv`. -/
theorem reassembleRun_inv {packets : List BtHdr}
    (h : reassembleRun FragmenterState.empty packets=.ok (st',out)) : ReassemblyInv st' :=
  runSteps_invariant (fun _ _ _ _ hs hstep => reassembleAndDispatch_inv hs hstep) reassemblyInv_empty h

/-- An overshooting continuation's copy length is the missing byte count minus
the preamble, converted to `size_t`. -/
theorem continuationCopySize_of_overshoot {p : BtHdr} (hp : PartialInv p)
    (hover : p.len<projectedOffset p packet) :
    continuationCopySize p packet=toSizeT (((p.len-p.offset : ℕ) : ℤ)-hciAclPreambleSize) := by
  have hlt := hp.offset_lt_len
  have hlen := hp.len_lt
  have hmissing : toUint16 ((p.len : ℤ)-p.offset)=p.len-p.offset := by
    unfold toUint16
    omega
  unfold continuationCopySize truncateContinuation
  rw [if_pos hover,hmissing]

/-- A partial packet missing fewer than four bytes makes an overshooting
continuation ask `memcpy` for a negative length, a `size_t` of at least `2^63`
bytes. -/
theorem continuationCopySize_of_short_overshoot {p : BtHdr} (hp : PartialInv p)
    (hover : p.len<projectedOffset p packet) (hshort : p.len-p.offset<hciAclPreambleSize) :
    2^63 ≤ continuationCopySize p packet := by
  rw [continuationCopySize_of_overshoot hp hover]
  unfold hciAclPreambleSize at hshort ⊢
  apply toSizeT_of_neg <;> omega

/-- A continuation that overshoots a partial packet missing fewer than four
bytes faults: its copy leaves the partial packet. -/
theorem reassembleContinuation_short_overshoot {handle : ℕ} {p : BtHdr} (hst : ReassemblyInv st)
    (hp : st.partialPackets handle=some p) (hover : p.len<projectedOffset p packet)
    (hshort : p.len-p.offset<hciAclPreambleSize) :
    reassembleContinuation st packet handle=.error .outOfRange := by
  have hinv := hst handle p hp
  have hsize := continuationCopySize_of_short_overshoot hinv hover hshort
  apply reassembleContinuation_of_copy_fault hp
  apply copyBytes_eq_none_of_lt
  have hdl := hinv.data_length
  have hlen := hinv.len_lt
  omega

/-- A start fragment on handle 1 whose L2CAP length field announces ten bytes:
eighteen bytes in all, of which it carries sixteen. -/
def shortOvershootStart : BtHdr :=
  BtHdr.ofBytes msgHcToStackHciAcl [0x01,0x20,0x0C,0x00,0x0A,0x00,0x40,0x00,1,2,3,4,5,6,7,8]

/-- A continuation on handle 1 carrying three bytes where two are missing. -/
def shortOvershootContinuation : BtHdr :=
  BtHdr.ofBytes msgHcToStackHciAcl [0x01,0x10,0x03,0x00,9,10,11]

/-- From the empty map, the start fragment leaves a partial packet missing two
bytes, the continuation overshoots it, its copy length is a `size_t` of at least
`2^63` bytes, and the run faults on that copy. -/
theorem reassembleRun_short_overshoot_faults :
    ∃ p,reassembleRun FragmenterState.empty [shortOvershootStart]=
        .ok ((FragmenterState.empty.erase 1).set 1 p,[]) ∧
      p.len-p.offset=2 ∧ p.len<projectedOffset p shortOvershootContinuation ∧
      2^63 ≤ continuationCopySize p shortOvershootContinuation ∧
      reassembleRun FragmenterState.empty [shortOvershootStart,shortOvershootContinuation]=
        .error .outOfRange := by
  let p : BtHdr :=
    ⟨msgHcToStackHciAcl,18,16,0,[0x01,0x20,0x0E,0x00,0x0A,0x00,0x40,0x00,1,2,3,4,5,6,7,8,0,0]⟩
  have hstart : reassembleAndDispatch FragmenterState.empty shortOvershootStart=
      .ok ((FragmenterState.empty.erase 1).set 1 p,[]) := rfl
  have hinv := reassembleAndDispatch_inv reassemblyInv_empty hstart
  have hpinv : PartialInv p := hinv 1 p (FragmenterState.set_self _ _ _)
  have hover : p.len<projectedOffset p shortOvershootContinuation := by decide
  have hshort : p.len-p.offset<hciAclPreambleSize := by decide
  have hf : AclFields shortOvershootContinuation 0x1001 3 (9+256*10) :=
    ⟨by decide,by decide,by decide,by decide,by decide⟩
  have hfault : reassembleAndDispatch ((FragmenterState.empty.erase 1).set 1 p)
      shortOvershootContinuation=.error .outOfRange := by
    rw [reassembleAndDispatch_of_continuation hf (by decide)]
    exact reassembleContinuation_short_overshoot hinv (FragmenterState.set_self _ _ _) hover hshort
  refine ⟨p,?_,rfl,hover,continuationCopySize_of_short_overshoot hpinv hover hshort,?_⟩
  · rw [reassembleRun,runSteps_cons_of_ok hstart]
    rfl
  · rw [reassembleRun,runSteps_cons_of_ok hstart,runSteps_cons_of_error hfault]
    rfl

/-- A continuation that overshoots a partial packet missing at least four bytes
completes and dispatches it, yet copies four bytes fewer than are missing: the
last four bytes of the dispatched packet are the partial packet's own, not the
fragment's. -/
theorem reassembleContinuation_long_overshoot {handle : ℕ} {p : BtHdr} (hst : ReassemblyInv st)
    (hp : st.partialPackets handle=some p) (hover : p.len<projectedOffset p packet)
    (hlong : hciAclPreambleSize ≤ p.len-p.offset) (hpre : hciAclPreambleSize ≤ packet.len)
    (hdata : packet.len ≤ packet.data.length) :
    ∃ data,reassembleContinuation st packet handle=
        .ok (st.erase handle,[{p with data,offset := 0}]) ∧
      readBytes data (p.len-hciAclPreambleSize) hciAclPreambleSize=
        readBytes p.data (p.len-hciAclPreambleSize) hciAclPreambleSize := by
  have hinv := hst handle p hp
  have hdl := hinv.data_length
  have hlen := hinv.len_lt
  unfold hciAclPreambleSize at hlong hpre ⊢
  have hsize : continuationCopySize p packet=p.len-p.offset-4 := by
    rw [continuationCopySize_of_overshoot hinv hover]
    unfold toSizeT hciAclPreambleSize
    omega
  -- `projected_offset` is at most the unwrapped sum, so the fragment is longer than what is missing
  have hproj : p.len<p.offset+(packet.len-4) := by
    unfold projectedOffset toUint16 hciAclPreambleSize at hover
    omega
  obtain ⟨data,hcopy⟩ : ∃ data,copyBytes p.data p.offset packet.data hciAclPreambleSize
      (continuationCopySize p packet)=some data := by
    apply copyBytes_isSome_of_le
    · rw [hsize]
      unfold hciAclPreambleSize
      omega
    · rw [hsize]
      omega
  have htr : (truncateContinuation p packet).2=p.len := by
    unfold truncateContinuation
    rw [if_pos hover]
  refine ⟨data,?_,?_⟩
  · rw [reassembleContinuation_of_copy hp hcopy,if_pos htr]
  · exact readBytes_copyBytes_outside hcopy (.inr (by rw [hsize]; omega))

/-- A continuation whose `projected_offset` wraps around `uint16_t` back inside
the expected length passes the overshoot test and then copies its whole payload
past the end of the partial packet. -/
theorem reassembleContinuation_wrapped_overshoot {handle : ℕ} {p : BtHdr} (hst : ReassemblyInv st)
    (hp : st.partialPackets handle=some p) (hlen : packet.len<65536)
    (hwrap : p.len<p.offset+(packet.len-hciAclPreambleSize)) (hin : projectedOffset p packet ≤ p.len)
    (hpre : hciAclPreambleSize ≤ packet.len) :
    reassembleContinuation st packet handle=.error .outOfRange := by
  have hinv := hst handle p hp
  have hsize : continuationCopySize p packet=packet.len-hciAclPreambleSize := by
    unfold continuationCopySize truncateContinuation
    rw [if_neg (Nat.not_lt.mpr hin)]
    unfold toSizeT
    omega
  apply reassembleContinuation_of_copy_fault hp
  apply copyBytes_eq_none_of_lt
  rw [hsize,hinv.data_length]
  exact hwrap

end Dispatch

end BluetoothStack.HciReassemblySafety
