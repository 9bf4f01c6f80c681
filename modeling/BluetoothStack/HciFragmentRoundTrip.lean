import BluetoothStack.HciReassemblySafety

/-!
# Fragmentation and reassembly round trip (hci/src/packet_fragmenter.cc)

An outbound ACL packet is cut by `fragment_and_dispatch` and sent fragment by
fragment; the peer's `reassemble_and_dispatch` puts the fragments back
together. `fragmentBytes` states what the fragment stream is: the message's
payload in pieces of at most the controller's data size, the first piece under
the packet's own handle field and the others under the continuation handle,
each fragment stating its own payload length.

The fragmenter refines that stream: its buffer always holds the rest of the
message at the current offset, with whatever earlier rounds left before it, and
each round sends one fragment and writes the next header over the tail of the
fragment just sent. The reassembler takes the stream back: its partial packet
always holds the bytes received so far followed by zeros.

The round trip needs more than the loop's own bounds. A fragment with one
payload byte is dropped by the reassembler's `acl_length` test when it starts
a packet and read past its end when it continues one; a start fragment keeps
the packet's own boundary flag, so a non-flushable start is taken for a
continuation; and the reassembler refuses packets longer than a default
buffer, whatever the fragment size.
-/

namespace BluetoothStack.HciFragmentRoundTrip

open ByteBuffer StepRun BtTypes HciPacketFragmenter HciReassemblySafety

/-- The bytes of an ACL message: the handle with its flags, the ACL length, then the payload. -/
def aclMessage (handle : ℕ) (payload : List UInt8) : List UInt8 :=
  encodeLE 2 handle++encodeLE 2 payload.length++payload

@[simp] theorem length_aclMessage (handle : ℕ) (payload : List UInt8) :
    (aclMessage handle payload).length=payload.length+hciAclPreambleSize := by
  simp only [aclMessage,List.length_append,length_encodeLE,hciAclPreambleSize]
  omega

/-- The payload follows the ACL preamble. -/
theorem aclMessage_drop (handle : ℕ) (payload : List UInt8) :
    (aclMessage handle payload).drop hciAclPreambleSize=payload := by
  rw [aclMessage]
  exact List.drop_left' (by simp only [List.length_append,length_encodeLE]; rfl)

/-- The handle field of an ACL message. -/
theorem readLE_aclMessage_handle {handle : ℕ} (payload : List UInt8) (hh : handle<65536) :
    readLE (aclMessage handle payload) 0 2=some handle := by
  have hsplit : aclMessage handle payload=[]++encodeLE 2 handle++(encodeLE 2 payload.length++payload) := by
    simp only [aclMessage,List.nil_append,List.append_assoc]
  have hr := readBytes_append_middle [] (encodeLE 2 handle) (encodeLE 2 payload.length++payload)
  rw [← hsplit,List.length_nil,length_encodeLE] at hr
  rw [readLE_eq_of_readBytes hr,decodeLE_encodeLE_of_lt (by norm_num; omega)]

/-- The ACL length field of an ACL message. -/
theorem readLE_aclMessage_length (handle : ℕ) {payload : List UInt8} (hp : payload.length<65536) :
    readLE (aclMessage handle payload) 2 2=some payload.length := by
  have hr := readBytes_append_middle (encodeLE 2 handle) (encodeLE 2 payload.length) payload
  rw [length_encodeLE,length_encodeLE] at hr
  rw [aclMessage,readLE_eq_of_readBytes hr,decodeLE_encodeLE_of_lt (by norm_num; omega)]

/-- The first two payload bytes of an ACL message, where an L2CAP start holds its length. -/
theorem readLE_aclMessage_l2capLength (handle : ℕ) {payload : List UInt8} (hp : 2 ≤ payload.length) :
    readLE (aclMessage handle payload) 4 2=readLE payload 0 2 := by
  have hsplit : aclMessage handle payload=
      (encodeLE 2 handle++encodeLE 2 payload.length)++payload.take 2++payload.drop 2 := by
    rw [List.append_assoc _ (payload.take 2),List.take_append_drop,aclMessage]
  have hr := readBytes_append_middle (encodeLE 2 handle++encodeLE 2 payload.length) (payload.take 2)
    (payload.drop 2)
  have hr0 := readBytes_append_middle [] (payload.take 2) (payload.drop 2)
  rw [← hsplit,List.length_append,length_encodeLE,length_encodeLE,List.length_take,
    Nat.min_eq_left hp] at hr
  rw [List.nil_append,List.take_append_drop,List.length_nil,List.length_take,
    Nat.min_eq_left hp] at hr0
  rw [readLE_eq_of_readBytes hr,readLE_eq_of_readBytes hr0]

/-- The fragment stream of a message of `payload` under `handle`, cut every `d`
bytes: the first fragment names `handle`, the others `continuationHandle`. -/
def fragmentBytes (d handle continuationHandle : ℕ) (payload : List UInt8) : List (List UInt8) :=
  if 0<d ∧ d<payload.length then
    aclMessage handle (payload.take d)::
      fragmentBytes d continuationHandle continuationHandle (payload.drop d)
  else [aclMessage handle payload]
termination_by payload.length
decreasing_by
  simp only [List.length_drop]
  omega

theorem fragmentBytes_of_lt {d handle continuationHandle : ℕ} {payload : List UInt8} (hd : 0<d)
    (hlt : d<payload.length) :
    fragmentBytes d handle continuationHandle payload=aclMessage handle (payload.take d)::
      fragmentBytes d continuationHandle continuationHandle (payload.drop d) := by
  rw [fragmentBytes,if_pos ⟨hd,hlt⟩]

theorem fragmentBytes_of_le {d handle continuationHandle : ℕ} {payload : List UInt8}
    (hle : payload.length ≤ d) :
    fragmentBytes d handle continuationHandle payload=[aclMessage handle payload] := by
  rw [fragmentBytes,if_neg (by omega)]

/-- The payloads of the fragments, in order, are the message's payload. -/
theorem fragmentBytes_payloads (d handle continuationHandle : ℕ) (payload : List UInt8) :
    ((fragmentBytes d handle continuationHandle payload).map
      (List.drop hciAclPreambleSize)).flatten=payload := by
  fun_induction fragmentBytes d handle continuationHandle payload with
  | case1 handle payload hcut ih =>
    rw [List.map_cons,List.flatten_cons,aclMessage_drop,ih,List.take_append_drop]
  | case2 handle payload hcut =>
    rw [List.map_cons,List.map_nil,List.flatten_cons,List.flatten_nil,aclMessage_drop,
      List.append_nil]

/-- The first fragment names the first handle and carries at most `d` bytes,
and at least one of a non-empty payload; every later fragment names the
continuation handle and carries between one and `d` bytes. -/
theorem fragmentBytes_shape {d : ℕ} (hd : 0<d) (handle continuationHandle : ℕ)
    (payload : List UInt8) :
    ∃ c rest,fragmentBytes d handle continuationHandle payload=aclMessage handle c::rest ∧
      c.length ≤ d ∧ c.length ≤ payload.length ∧ (0<payload.length → 0<c.length) ∧
      ∀ f ∈ rest,∃ c',f=aclMessage continuationHandle c' ∧ c'.length ≤ d ∧ 0<c'.length := by
  fun_induction fragmentBytes d handle continuationHandle payload with
  | case1 handle payload hcut ih =>
    obtain ⟨c,rest,heq,hcd,-,hcpos,hrest⟩ := ih
    have hdrop : 0<(payload.drop d).length := by
      simp only [List.length_drop]
      omega
    refine ⟨payload.take d,aclMessage continuationHandle c::rest,?_,?_,?_,?_,?_⟩
    · rw [heq]
    · simp only [List.length_take]
      omega
    · simp only [List.length_take]
      omega
    · intro _
      simp only [List.length_take]
      omega
    · intro f hf
      rcases List.mem_cons.mp hf with rfl | hf
      · exact ⟨c,rfl,hcd,hcpos hdrop⟩
      · exact hrest f hf
  | case2 handle payload hcut =>
    refine ⟨payload,[],rfl,by omega,le_refl _,id,?_⟩
    intro f hf
    cases hf

/-- The bytes a callback hands to the transport: a fragment's message. -/
def sentBytes : FragmentEvent → Option (List UInt8)
  | .fragmented packet _ => packet.message
  | .transmitFinished _ _ => none

/-- The inbound buffers the peer's HCI layer builds from the fragments sent. -/
def received (evs : List FragmentEvent) : List BtHdr :=
  evs.filterMap fun e => (sentBytes e).map (BtHdr.ofBytes msgHcToStackHciAcl)

/-- Events that send exactly a stream of messages are received as that stream. -/
theorem received_of_sentBytes {evs : List FragmentEvent} {frags : List (List UInt8)}
    (h : evs.map sentBytes=frags.map some) :
    received evs=frags.map (BtHdr.ofBytes msgHcToStackHciAcl) := by
  induction evs generalizing frags with
  | nil =>
    cases frags with
    | nil => rfl
    | cons f fs => cases h
  | cons e evs ih =>
    cases frags with
    | nil => cases h
    | cons f fs =>
      simp only [List.map_cons,List.cons.injEq] at h
      obtain ⟨he,hrest⟩ := h
      have hrec : received (e::evs)=BtHdr.ofBytes msgHcToStackHciAcl f::received evs := by
        simp only [received,List.filterMap_cons,he,Option.map_some]
      rw [hrec,ih hrest,List.map_cons]

section Fragmenter

variable {d continuationHandle : ℕ}

/-- The first write of a round: the length field of the message becomes `d`,
which leaves the first fragment's message in place. -/
theorem fragmentRound_length {pre post payload : List UInt8} {handle : ℕ} (hlt : d<payload.length) :
    writeBytes (pre++aclMessage handle payload++post) (pre.length+2) (encodeLE 2 d)=
      some (pre++aclMessage handle (payload.take d)++(payload.drop d++post)) := by
  have htake : (payload.take d).length=d := by
    simp only [List.length_take]
    omega
  have hsplit : pre++aclMessage handle payload++post=
      (pre++encodeLE 2 handle)++encodeLE 2 payload.length++(payload++post) := by
    simp only [aclMessage,List.append_assoc]
  have hpos : pre.length+2=(pre++encodeLE 2 handle).length := by
    simp only [List.length_append,length_encodeLE]
  have hpayload : payload.take d++(payload.drop d++post)=payload++post := by
    rw [← List.append_assoc,List.take_append_drop]
  rw [hsplit,hpos,writeBytes_replace _ _ _ _ (by simp only [length_encodeLE])]
  simp only [aclMessage,htake,List.append_assoc,hpayload]

/-- The second write of a round: the next header goes `d` bytes on, over the
tail of the fragment just sent, which leaves the rest of the message there. -/
theorem fragmentRound_header {pre post payload : List UInt8} {handle : ℕ} (hlt : d<payload.length) :
    writeBytes (pre++aclMessage handle (payload.take d)++(payload.drop d++post)) (pre.length+d)
        (encodeLE 2 continuationHandle++encodeLE 2 (payload.length-d))=
      some ((pre++(aclMessage handle (payload.take d)).take d)++
        aclMessage continuationHandle (payload.drop d)++post) := by
  set first := aclMessage handle (payload.take d)
  have hfirst : first.length=d+hciAclPreambleSize := by
    simp only [first,length_aclMessage,List.length_take]
    omega
  have hsplit : pre++first++(payload.drop d++post)=
      (pre++first.take d)++first.drop d++(payload.drop d++post) := by
    rw [List.append_assoc pre (first.take d),List.take_append_drop]
  have hpos : pre.length+d=(pre++first.take d).length := by
    simp only [List.length_append,List.length_take]
    omega
  rw [hsplit,hpos,writeBytes_replace _ _ _ _ (by
    simp only [List.length_drop,hfirst,List.length_append,length_encodeLE,hciAclPreambleSize]
    omega)]
  simp only [aclMessage,List.length_drop,List.append_assoc]

/-- The loop sends exactly the fragment stream of the message its buffer holds
at the current offset. The induction is on the fuel, one round per fragment; the
buffer keeps the rest of the message at the offset, behind what earlier rounds
left, and the offset and length stay inside `uint16_t`. -/
theorem fragmentLoop_fragmentBytes (hd : 0<d) (hdmax : d+hciAclPreambleSize<65536) :
    ∀ fuel (packet : BtHdr) (pre post : List UInt8) (handle : ℕ) (payload : List UInt8),
      packet.layerSpecific=0 → packet.data=pre++aclMessage handle payload++post →
      packet.offset=pre.length → packet.len=payload.length+hciAclPreambleSize →
      packet.offset+packet.len<65536 → payload.length<fuel →
      ∃ evs,fragmentLoop d continuationHandle fuel packet packet.len=.ok evs ∧
        evs.map sentBytes=
          (fragmentBytes d handle continuationHandle payload).map some := by
  intro fuel
  induction fuel with
  | zero =>
    intro packet pre post handle payload _ _ _ _ _ hfuel
    omega
  | succ fuel ih =>
    intro packet pre post handle payload hls hdata hoff hlen hbound hfuel
    have hmax : (d+hciAclPreambleSize)%65536=d+hciAclPreambleSize := Nat.mod_eq_of_lt hdmax
    by_cases hlt : d<payload.length
    · -- a round: `d` payload bytes go out and the rest waits behind the next header
      have hremaining : toUint16 ((packet.len : ℤ)-d)=(payload.drop d).length+hciAclPreambleSize := by
        rw [hlen,List.length_drop]
        unfold toUint16 hciAclPreambleSize at *
        omega
      have hnext : toUint16 ((toUint16 ((packet.len : ℤ)-d) : ℤ)-hciAclPreambleSize)=
          payload.length-d := by
        rw [hremaining,List.length_drop]
        unfold toUint16 hciAclPreambleSize at *
        omega
      have hoffset : (packet.offset+d)%65536=pre.length+d := by
        rw [hoff] at hbound ⊢
        omega
      set first := aclMessage handle (payload.take d) with hfirst
      have hfirstlen : first.length=d+hciAclPreambleSize := by
        simp only [first,length_aclMessage,List.length_take]
        omega
      have hw : writeBytes packet.data (packet.offset+2) (encodeLE 2 d)=
          some (pre++first++(payload.drop d++post)) := by
        rw [hdata,hoff]
        exact fragmentRound_length hlt
      have hw' : writeBytes (pre++first++(payload.drop d++post)) ((packet.offset+d)%65536)
          (encodeLE 2 continuationHandle++
            encodeLE 2 (toUint16 ((toUint16 ((packet.len : ℤ)-d) : ℤ)-hciAclPreambleSize)))=
          some ((pre++first.take d)++aclMessage continuationHandle (payload.drop d)++post) := by
        rw [hoffset,hnext]
        exact fragmentRound_header hlt
      have hpre : (packet.offset+d)%65536=(pre++first.take d).length := by
        rw [hoffset,List.length_append,List.length_take]
        omega
      set rest := (pre++first.take d)++aclMessage continuationHandle (payload.drop d)++post
      obtain ⟨evs,hrun,hsent⟩ := ih
        {packet with data := rest,offset := (packet.offset+d)%65536,len := toUint16 ((packet.len : ℤ)-d)}
        (pre++first.take d) post continuationHandle (payload.drop d) hls rfl hpre hremaining
        (by dsimp only; rw [hoffset,hremaining,List.length_drop]; omega) (by rw [List.length_drop]; omega)
      have hmsg : BtHdr.message {packet with data := pre++first++(payload.drop d++post),
                                             len := (d+hciAclPreambleSize)%65536}=some first := by
        rw [BtHdr.message]
        dsimp only
        rw [hmax,hoff,← hfirstlen]
        exact readBytes_append_middle pre first _
      refine ⟨_,by rw [fragmentLoop_of_lt (by rw [hmax,hlen]; omega) hls hw hw',hrun]; rfl,?_⟩
      rw [fragmentBytes_of_lt hd hlt,List.map_cons,List.map_cons,hsent,sentBytes,hmsg]
    · refine ⟨_,fragmentLoop_of_le (by rw [hmax,hlen]; omega),?_⟩
      have hmsg : packet.message=some (aclMessage handle payload) := by
        rw [BtHdr.message,hdata,hoff,hlen,← length_aclMessage]
        exact readBytes_append_middle pre _ post
      rw [fragmentBytes_of_le (by omega)]
      simp only [List.map_cons,List.map_nil,sentBytes,hmsg]

/-- An outbound ACL packet holding one message is sent as the fragment stream of
that message, cut at the controller's data size for its transport. -/
theorem fragmentAndDispatch_fragmentBytes {controller : Controller} {event handle : ℕ}
    {payload : List UInt8} (hev : event &&& msgEvtMask=msgStackToHcHciAcl) (hh : handle<65536)
    (hd : 0 < maxDataSizeFor controller event)
    (hdmax : maxDataSizeFor controller event+hciAclPreambleSize<65536)
    (hlen : payload.length+hciAclPreambleSize<65536) :
    ∃ evs,fragmentAndDispatch controller
        ⟨event,payload.length+hciAclPreambleSize,0,0,aclMessage handle payload⟩=.ok evs ∧
      evs.map sentBytes=(fragmentBytes (maxDataSizeFor controller event) handle
        (applyContinuationFlag handle) payload).map some := by
  rw [@fragmentAndDispatch_of_acl controller
    ⟨event,payload.length+hciAclPreambleSize,0,0,aclMessage handle payload⟩ handle hev
    (readLE_aclMessage_handle payload hh)]
  exact fragmentLoop_fragmentBytes hd hdmax _ _ [] [] handle payload rfl
    (by rw [List.nil_append,List.append_nil]) rfl rfl (by dsimp only; omega) (by dsimp only; omega)

end Fragmenter

/-- The partial packet of a message under reassembly: the bytes received so
far, then zeros for the `missing` bytes still to come. -/
def partialOf (got : List UInt8) (missing : ℕ) : BtHdr :=
  ⟨msgHcToStackHciAcl,got.length+missing,got.length,0,got++List.replicate missing 0⟩

/-- A received fragment that carries at least the two bytes of an L2CAP length
gives the reassembler its fields, and its length check passes. -/
theorem aclFields_received {handle l2capLength : ℕ} {c : List UInt8} (hh : handle<65536)
    (hc : 2 ≤ c.length) (hlen : c.length+hciAclPreambleSize<65536)
    (hl2 : readLE c 0 2=some l2capLength) :
    AclFields (BtHdr.ofBytes msgHcToStackHciAcl (aclMessage handle c)) handle c.length l2capLength := by
  refine ⟨by rw [BtHdr.ofBytes_event]; decide,readLE_aclMessage_handle c hh,readLE_aclMessage_length handle (by omega),?_,?_⟩
  · rw [BtHdr.ofBytes_data,readLE_aclMessage_l2capLength handle hc,hl2]
  · rw [BtHdr.ofBytes_len,length_aclMessage,Nat.mod_eq_of_lt hlen]
    push_cast
    ring

/-- A fragment's payload is where the continuation copy reads it. -/
theorem readBytes_aclMessage_payload (handle : ℕ) (c : List UInt8) :
    readBytes (aclMessage handle c) hciAclPreambleSize c.length=some c := by
  have hr := readBytes_append_middle (encodeLE 2 handle++encodeLE 2 c.length) c []
  rwa [List.append_nil,List.length_append,length_encodeLE,length_encodeLE] at hr

/-- A start fragment opens a partial packet holding the fragment, with the full
length in its ACL length field, followed by zeros up to the full length. -/
theorem startPartial_aclMessage {handle full : ℕ} {c : List UInt8}
    (hc : c.length+hciAclPreambleSize<65536) (hfull : c.length+hciAclPreambleSize ≤ full)
    (hf : full<65536) :
    startPartial (BtHdr.ofBytes msgHcToStackHciAcl (aclMessage handle c)) full=
      .ok (partialOf (encodeLE 2 handle++encodeLE 2 (full-hciAclPreambleSize)++c)
        (full-(c.length+hciAclPreambleSize))) := by
  have hpkt : (BtHdr.ofBytes msgHcToStackHciAcl (aclMessage handle c)).len=
      (aclMessage handle c).length := by
    rw [BtHdr.ofBytes_len,Nat.mod_eq_of_lt (by rw [length_aclMessage]; exact hc)]
  have hcopy : copyBytes (List.replicate full 0) 0 (aclMessage handle c) 0 (aclMessage handle c).length=
      some (aclMessage handle c++List.replicate (full-(c.length+hciAclPreambleSize)) 0) := by
    have hr := readBytes_append_middle [] (aclMessage handle c) []
    rw [List.nil_append,List.append_nil,List.length_nil] at hr
    have hw : writeBytes ([]++List.replicate full 0) ([] : List UInt8).length (aclMessage handle c)=
        some ([]++aclMessage handle c++(List.replicate full 0).drop (aclMessage handle c).length) :=
      writeBytes_append_length (by rw [List.length_replicate,length_aclMessage]; exact hfull)
    rw [List.nil_append,List.length_nil,List.nil_append,List.drop_replicate,length_aclMessage] at hw
    rw [copyBytes,hr,Option.bind_some,hw]
  have hacl : toUint16 ((full : ℤ)-hciAclPreambleSize)=full-hciAclPreambleSize := by
    unfold toUint16 hciAclPreambleSize at *
    omega
  have hwrite : writeBytes (aclMessage handle c++List.replicate (full-(c.length+hciAclPreambleSize)) 0) 2
      (encodeLE 2 (full-hciAclPreambleSize))=
      some (encodeLE 2 handle++encodeLE 2 (full-hciAclPreambleSize)++
        (c++List.replicate (full-(c.length+hciAclPreambleSize)) 0)) := by
    have hsplit : aclMessage handle c++List.replicate (full-(c.length+hciAclPreambleSize)) 0=
        encodeLE 2 handle++encodeLE 2 c.length++(c++List.replicate (full-(c.length+hciAclPreambleSize)) 0) := by
      simp only [aclMessage,List.append_assoc]
    rw [hsplit]
    exact writeBytes_replace _ _ _ _ (by simp only [length_encodeLE])
  unfold startPartial
  simp only [BtHdr.ofBytes_data,hpkt,hcopy,hacl,hwrite,inRange_some,ok_bind]
  have hlen : (encodeLE 2 handle++encodeLE 2 (full-hciAclPreambleSize)++c).length+
      (full-(c.length+hciAclPreambleSize))=full := by
    simp only [List.length_append,length_encodeLE,hciAclPreambleSize] at hfull ⊢
    omega
  have hoff : (encodeLE 2 handle++encodeLE 2 (full-hciAclPreambleSize)++c).length=
      (aclMessage handle c).length := by
    simp only [List.length_append,length_encodeLE,length_aclMessage,hciAclPreambleSize]
    omega
  rw [partialOf,hlen,hoff,List.append_assoc _ c]
  rfl

/-- A fragment's payload copied into a partial packet lands right after the
bytes received so far. -/
theorem copyBytes_partialOf {got c : List UInt8} {handle missing : ℕ} (hc : c.length ≤ missing) :
    copyBytes (got++List.replicate missing 0) got.length (aclMessage handle c) hciAclPreambleSize
      c.length=some (got++c++List.replicate (missing-c.length) 0) := by
  rw [copyBytes,readBytes_aclMessage_payload,Option.bind_some,
    writeBytes_append_length (by rw [List.length_replicate]; exact hc),List.drop_replicate]

section Reassembler

variable {st : FragmenterState}

/-- A continuation fragment received for a partial packet that misses at least
its payload is copied in after the bytes received so far; the packet is
dispatched when nothing is missing any more. -/
theorem reassembleAndDispatch_continuationFragment {handle l2capLength missing : ℕ}
    {got c : List UInt8} (hh : handle<65536) (hflag : getBoundaryFlag handle≠startPacketBoundary)
    (hc : 2 ≤ c.length) (hcm : c.length ≤ missing) (hgot : hciAclPreambleSize ≤ got.length)
    (hlen : got.length+missing<65536) (hl2 : readLE c 0 2=some l2capLength)
    (hp : st.partialPackets (handle &&& handleMask)=some (partialOf got missing)) :
    reassembleAndDispatch st (BtHdr.ofBytes msgHcToStackHciAcl (aclMessage handle c))=
      if c.length=missing then
        .ok (st.erase (handle &&& handleMask),[BtHdr.ofBytes msgHcToStackHciAcl (got++c)])
      else .ok (st.set (handle &&& handleMask) (partialOf (got++c) (missing-c.length)),[]) := by
  set packet := BtHdr.ofBytes msgHcToStackHciAcl (aclMessage handle c)
  have hpl : packet.len=c.length+hciAclPreambleSize := by
    rw [BtHdr.ofBytes_len,length_aclMessage,Nat.mod_eq_of_lt (by omega)]
  have hfit : truncateContinuation (partialOf got missing) packet=
        (packet.len,(partialOf got missing).offset+(packet.len-hciAclPreambleSize)) ∧
      continuationCopySize (partialOf got missing) packet=packet.len-hciAclPreambleSize :=
    truncateContinuation_of_fit (by omega) (by simp only [partialOf]; omega)
      (by simp only [partialOf]; omega)
  have hcopy : copyBytes (partialOf got missing).data (partialOf got missing).offset packet.data
      hciAclPreambleSize (continuationCopySize (partialOf got missing) packet)=
        some (got++c++List.replicate (missing-c.length) 0) := by
    rw [hfit.2,hpl,Nat.add_sub_cancel]
    exact copyBytes_partialOf hcm
  have hprojected : (truncateContinuation (partialOf got missing) packet).2=got.length+c.length := by
    rw [hfit.1,hpl,Nat.add_sub_cancel]
    rfl
  rw [reassembleAndDispatch_of_continuation (aclFields_received hh hc (by omega) hl2) hflag,
    reassembleContinuation_of_copy hp hcopy,hprojected]
  by_cases hdone : c.length=missing
  · -- the last bytes arrived: the packet goes out with offset zero
    have hlast : got.length+c.length=(partialOf got missing).len := by
      simp only [partialOf]
      omega
    rw [if_pos hlast,if_pos hdone]
    simp only [partialOf,BtHdr.ofBytes,List.length_append,hdone,Nat.sub_self,List.replicate_zero,
      List.append_nil,Nat.mod_eq_of_lt hlen]
  · have hmore : got.length+c.length≠(partialOf got missing).len := by
      simp only [partialOf]
      omega
    rw [if_neg hmore,if_neg hdone]
    simp only [partialOf,List.length_append,Except.ok.injEq,Prod.mk.injEq,and_true]
    congr 2
    omega

/-- The continuation fragments of a message complete its partial packet and
dispatch the whole message once. The induction follows the fragment stream:
before each fragment the partial packet holds the bytes received so far
followed by zeros for the rest, and the map is untouched at other handles. -/
theorem reassembleRun_continuations {d continuationHandle : ℕ} (hd : 2 ≤ d)
    (hch : continuationHandle<65536) (hflag : getBoundaryFlag continuationHandle≠startPacketBoundary) :
    ∀ n (st : FragmenterState) (got rest : List UInt8),rest.length ≤ n → 0<rest.length →
      rest.length%d≠1 → hciAclPreambleSize ≤ got.length → got.length+rest.length<65536 →
      st.partialPackets (continuationHandle &&& handleMask)=some (partialOf got rest.length) →
      ∃ st',reassembleRun st ((fragmentBytes d continuationHandle continuationHandle rest).map
          (BtHdr.ofBytes msgHcToStackHciAcl))=
          .ok (st',[BtHdr.ofBytes msgHcToStackHciAcl (got++rest)]) ∧
        st'.partialPackets (continuationHandle &&& handleMask)=none ∧
        ∀ other,other≠continuationHandle &&& handleMask →
          st'.partialPackets other=st.partialPackets other := by
  intro n
  induction n with
  | zero =>
    intro st got rest hn hpos
    omega
  | succ n ih =>
    intro st got rest hn hpos hmod hgot hlen hp
    by_cases hlt : d<rest.length
    · -- a middle fragment: `d` bytes are copied in and the rest stays missing
      have hc : (rest.take d).length=d := by
        simp only [List.length_take]
        omega
      have hdrop : (rest.drop d).length=rest.length-d := List.length_drop
      obtain ⟨l2,hl2⟩ : ∃ v,readLE (rest.take d) 0 2=some v := exists_readLE (by omega)
      have hstep := reassembleAndDispatch_continuationFragment hch hflag (by omega) (by omega) hgot
        hlen hl2 hp
      simp only [hc,if_neg (show d≠rest.length by omega)] at hstep
      obtain ⟨st',hrun,hnone,hother⟩ := ih
        (st.set (continuationHandle &&& handleMask) (partialOf (got++rest.take d) (rest.length-d)))
        (got++rest.take d) (rest.drop d) (by omega) (by omega)
        (by rw [hdrop,← Nat.mod_eq_sub_mod (by omega)]; exact hmod)
        (by rw [List.length_append]; omega) (by rw [List.length_append,hc,hdrop]; omega)
        (by rw [FragmenterState.set_self,hdrop])
      refine ⟨st',?_,hnone,?_⟩
      · rw [fragmentBytes_of_lt (by omega) hlt,List.map_cons]
        unfold reassembleRun at hrun ⊢
        rw [runSteps_cons_of_ok hstep,hrun,List.append_assoc,List.take_append_drop]
        rfl
      · intro other hne
        rw [hother other hne,FragmenterState.set_ne _ hne]
    · -- the last fragment brings the last bytes and the packet goes out
      have hle : rest.length ≤ d := by omega
      have hc2 : 2 ≤ rest.length := by
        rcases Nat.lt_or_eq_of_le hle with hlt' | heq
        · rw [Nat.mod_eq_of_lt hlt'] at hmod
          omega
        · omega
      obtain ⟨l2,hl2⟩ : ∃ v,readLE rest 0 2=some v := exists_readLE (by omega)
      have hstep := reassembleAndDispatch_continuationFragment hch hflag hc2 (le_refl _) hgot hlen hl2 hp
      rw [if_pos rfl] at hstep
      refine ⟨st.erase _,?_,FragmenterState.erase_self _ _,fun other hne => FragmenterState.erase_ne hne⟩
      rw [fragmentBytes_of_le hle,List.map_cons,List.map_nil]
      unfold reassembleRun
      rw [runSteps_cons_of_ok hstep,runSteps_nil]
      rfl

/-- The L2CAP length of a message's payload makes its full length the message
length, and a message that fits a default buffer passes the start tests. -/
theorem fullLength_of_l2capLength {payload : List UInt8} (hpl : l2capHeaderSize ≤ payload.length)
    (hfits : payload.length+hciAclPreambleSize+btHdrSize ≤ btDefaultBufferSize) :
    fullLength (payload.length-l2capHeaderSize)=payload.length+hciAclPreambleSize ∧
      invalidStartLength (payload.length-l2capHeaderSize)=false := by
  have hfull : fullLength (payload.length-l2capHeaderSize)=payload.length+hciAclPreambleSize := by
    unfold fullLength l2capHeaderSize hciAclPreambleSize btHdrSize btDefaultBufferSize at *
    omega
  refine ⟨hfull,?_⟩
  unfold invalidStartLength checkUint16Overflow
  rw [hfull]
  simp only [Bool.or_eq_false_iff,decide_eq_false_iff_not,Nat.not_lt]
  unfold uint16Max l2capHeaderSize hciAclPreambleSize btHdrSize btDefaultBufferSize at *
  omega

/-- The first fragment of a message cut into several opens its partial packet:
the fragment with the message length in its ACL length field, then zeros. -/
theorem reassembleAndDispatch_firstFragment {handle d : ℕ} {payload : List UInt8}
    (hh : handle<65536) (hstart : getBoundaryFlag handle=startPacketBoundary) (hd : 2 ≤ d)
    (hlt : d<payload.length) (hl2 : readLE payload 0 2=some (payload.length-l2capHeaderSize))
    (hpl : l2capHeaderSize ≤ payload.length)
    (hfits : payload.length+hciAclPreambleSize+btHdrSize ≤ btDefaultBufferSize) :
    reassembleAndDispatch st (BtHdr.ofBytes msgHcToStackHciAcl (aclMessage handle (payload.take d)))=
      .ok ((st.erase (handle &&& handleMask)).set (handle &&& handleMask)
        (partialOf (encodeLE 2 handle++encodeLE 2 payload.length++payload.take d)
          (payload.length-d)),[]) := by
  obtain ⟨hfull,hvalid⟩ := fullLength_of_l2capLength hpl hfits
  have hsmall : payload.length+hciAclPreambleSize<65536 := by
    unfold btHdrSize btDefaultBufferSize at hfits
    omega
  have hc : (payload.take d).length=d := by
    simp only [List.length_take]
    omega
  have hl2' : readLE (payload.take d) 0 2=some (payload.length-l2capHeaderSize) := by
    unfold readLE at hl2 ⊢
    rw [readBytes_take (by omega)]
    exact hl2
  have hf := aclFields_received hh (by omega) (by omega) hl2'
  have hpartial : startPartial (BtHdr.ofBytes msgHcToStackHciAcl (aclMessage handle (payload.take d)))
      (fullLength (payload.length-l2capHeaderSize))=
      .ok (partialOf (encodeLE 2 handle++encodeLE 2 payload.length++payload.take d)
        (payload.length-d)) := by
    rw [hfull,startPartial_aclMessage (by omega) (by omega) hsmall,hc,Nat.add_sub_cancel]
    congr 2
    unfold hciAclPreambleSize
    omega
  rw [reassembleAndDispatch_of_start hf hstart,reassembleStart_of_short (by rw [hc]; exact hd) hvalid
    (by rw [BtHdr.ofBytes_len,length_aclMessage,Nat.mod_eq_of_lt (by omega),hfull,hc]; omega) hpartial]

end Reassembler

/-- The fragment stream of a message, received in order, is reassembled into
the message: exactly one packet is dispatched, the map holds nothing for the
handle afterwards, and no other handle's entry changes. -/
theorem reassembleRun_fragmentBytes (st : FragmenterState) {handle d : ℕ} {payload : List UInt8}
    (hh : handle<65536) (hstart : getBoundaryFlag handle=startPacketBoundary)
    (hd : l2capHeaderPduLenSize ≤ d) (hl2 : readLE payload 0 2=some (payload.length-l2capHeaderSize))
    (hpl : l2capHeaderSize ≤ payload.length)
    (hfits : payload.length+hciAclPreambleSize+btHdrSize ≤ btDefaultBufferSize)
    (hlast : payload.length%d≠1) :
    ∃ st',reassembleRun st ((fragmentBytes d handle (applyContinuationFlag handle) payload).map
        (BtHdr.ofBytes msgHcToStackHciAcl))=
        .ok (st',[BtHdr.ofBytes msgHcToStackHciAcl (aclMessage handle payload)]) ∧
      st'.partialPackets (handle &&& handleMask)=none ∧
      ∀ other,other≠handle &&& handleMask → st'.partialPackets other=st.partialPackets other := by
  unfold l2capHeaderPduLenSize at hd
  have hsmall : payload.length+hciAclPreambleSize<65536 := by
    unfold btHdrSize btDefaultBufferSize at hfits
    omega
  by_cases hlt : d<payload.length
  · -- the first fragment opens the partial packet and the continuations complete it
    have hkey : applyContinuationFlag handle &&& handleMask=handle &&& handleMask :=
      applyContinuationFlag_handle handle
    have hfirst : reassembleAndDispatch st
        (BtHdr.ofBytes msgHcToStackHciAcl (aclMessage handle (payload.take d)))=
        .ok ((st.erase (handle &&& handleMask)).set (handle &&& handleMask)
          (partialOf (encodeLE 2 handle++encodeLE 2 payload.length++payload.take d)
            (payload.length-d)),[]) :=
      reassembleAndDispatch_firstFragment hh hstart hd hlt hl2 hpl hfits
    have hdrop : (payload.drop d).length=payload.length-d := List.length_drop
    obtain ⟨st',hrun,hnone,hother⟩ := reassembleRun_continuations hd (applyContinuationFlag_lt handle)
      (by rw [getBoundaryFlag_applyContinuationFlag]; decide) (payload.length-d)
      ((st.erase (handle &&& handleMask)).set (handle &&& handleMask)
        (partialOf (encodeLE 2 handle++encodeLE 2 payload.length++payload.take d) (payload.length-d)))
      (encodeLE 2 handle++encodeLE 2 payload.length++payload.take d) (payload.drop d) (by omega)
      (by omega) (by rw [hdrop,← Nat.mod_eq_sub_mod (by omega)]; exact hlast)
      (by simp only [List.length_append,length_encodeLE,hciAclPreambleSize]; omega)
      (by simp only [List.length_append,length_encodeLE,List.length_take,hdrop,hciAclPreambleSize] at *;
          omega)
      (by rw [hkey,FragmenterState.set_self,hdrop])
    refine ⟨st',?_,hkey ▸ hnone,?_⟩
    · rw [fragmentBytes_of_lt (by omega) hlt,List.map_cons]
      unfold reassembleRun at hrun ⊢
      rw [runSteps_cons_of_ok hfirst,hrun,List.append_assoc,List.take_append_drop]
      rfl
    · intro other hne
      rw [hother other (hkey ▸ hne),FragmenterState.set_ne _ hne,FragmenterState.erase_ne hne]
  · -- the message fits one fragment and is dispatched as it is
    obtain ⟨hfull,hvalid⟩ := fullLength_of_l2capLength hpl hfits
    have hf := aclFields_received hh (by unfold l2capHeaderSize at hpl; omega) hsmall hl2
    have hstep : reassembleAndDispatch st (BtHdr.ofBytes msgHcToStackHciAcl (aclMessage handle payload))=
        .ok (st.erase (handle &&& handleMask),[BtHdr.ofBytes msgHcToStackHciAcl (aclMessage handle payload)]) := by
      rw [reassembleAndDispatch_of_start hf hstart]
      exact reassembleStart_of_complete (by unfold l2capHeaderPduLenSize l2capHeaderSize at *; omega)
        hvalid (by rw [hfull,BtHdr.ofBytes_len,length_aclMessage,Nat.mod_eq_of_lt hsmall])
    refine ⟨st.erase (handle &&& handleMask),?_,FragmenterState.erase_self _ _,
      fun other hne => FragmenterState.erase_ne hne⟩
    rw [fragmentBytes_of_le (by omega),List.map_cons,List.map_nil]
    unfold reassembleRun
    rw [runSteps_cons_of_ok hstep,runSteps_nil]
    rfl



/-- An outbound ACL packet whose handle field carries the start flag and whose
L2CAP length field matches its payload, cut at a data size of at least two
bytes that leaves the last fragment at least two payload bytes, and short
enough for the reassembly buffer, is sent as fragments that each state their
own payload length, at most the data size; the first names the packet's handle,
the others the continuation handle of the same connection, and their payloads
make up the packet's. Received in order, from any reassembler state, they give
back exactly the packet, leave nothing for its handle and touch no other. -/
theorem fragmentAndDispatch_reassemble_round_trip (controller : Controller) (st : FragmenterState)
    {event handle : ℕ} {payload : List UInt8} (hev : event &&& msgEvtMask=msgStackToHcHciAcl)
    (hh : handle<65536) (hstart : getBoundaryFlag handle=startPacketBoundary)
    (hl2 : readLE payload 0 2=some (payload.length-l2capHeaderSize))
    (hpl : l2capHeaderSize ≤ payload.length)
    (hfits : payload.length+hciAclPreambleSize+btHdrSize ≤ btDefaultBufferSize)
    (hd : l2capHeaderPduLenSize ≤ maxDataSizeFor controller event)
    (hdmax : maxDataSizeFor controller event+hciAclPreambleSize<65536)
    (hlast : payload.length%maxDataSizeFor controller event≠1) :
    ∃ evs frags,fragmentAndDispatch controller
        ⟨event,payload.length+hciAclPreambleSize,0,0,aclMessage handle payload⟩=.ok evs ∧
      evs.map sentBytes=frags.map some ∧
      (∀ f ∈ frags,readLE f 2 2=some (f.length-hciAclPreambleSize) ∧
        f.length-hciAclPreambleSize ≤ maxDataSizeFor controller event) ∧
      (∃ first rest,frags=first::rest ∧ readLE first 0 2=some handle ∧
        ∀ f ∈ rest,∃ h,readLE f 0 2=some h ∧ getBoundaryFlag h=continuationPacketBoundary ∧
          h &&& handleMask=handle &&& handleMask) ∧
      (frags.map (List.drop hciAclPreambleSize)).flatten=payload ∧
      ∃ st',reassembleRun st (received evs)=
          .ok (st',[BtHdr.ofBytes msgHcToStackHciAcl (aclMessage handle payload)]) ∧
        st'.partialPackets (handle &&& handleMask)=none ∧
        ∀ other,other≠handle &&& handleMask → st'.partialPackets other=st.partialPackets other := by
  have hsmall : payload.length+hciAclPreambleSize<65536 := by
    unfold btHdrSize btDefaultBufferSize at hfits
    omega
  have hd0 : 0 < maxDataSizeFor controller event := by
    unfold l2capHeaderPduLenSize at hd
    omega
  obtain ⟨evs,hrun,hsent⟩ := fragmentAndDispatch_fragmentBytes hev hh hd0 hdmax hsmall
  obtain ⟨c,rest,hfrags,hcd,-,-,hrest⟩ :=
    fragmentBytes_shape hd0 handle (applyContinuationFlag handle) payload
  obtain ⟨st',hre,hnone,hother⟩ := reassembleRun_fragmentBytes st hh hstart hd hl2 hpl hfits hlast
  -- every fragment is a message with a payload of at most the data size
  have hlengths : ∀ h (c' : List UInt8),c'.length ≤ maxDataSizeFor controller event →
      readLE (aclMessage h c') 2 2=some ((aclMessage h c').length-hciAclPreambleSize) ∧
        (aclMessage h c').length-hciAclPreambleSize ≤ maxDataSizeFor controller event := by
    intro h c' hc'
    rw [length_aclMessage,Nat.add_sub_cancel]
    exact ⟨readLE_aclMessage_length h (by omega),hc'⟩
  refine ⟨evs,_,hrun,hsent,?_,⟨_,rest,hfrags,readLE_aclMessage_handle c hh,?_⟩,
    fragmentBytes_payloads _ _ _ _,st',?_,hnone,hother⟩
  · intro f hf
    rw [hfrags] at hf
    rcases List.mem_cons.mp hf with rfl | hf
    · exact hlengths handle c hcd
    · obtain ⟨c',rfl,hc'd,-⟩ := hrest f hf
      exact hlengths _ c' hc'd
  · intro f hf
    obtain ⟨c',rfl,-,-⟩ := hrest f hf
    exact ⟨_,readLE_aclMessage_handle c' (applyContinuationFlag_lt handle),
      getBoundaryFlag_applyContinuationFlag handle,applyContinuationFlag_handle handle⟩
  · rw [received_of_sentBytes hsent]
    exact hre

/-- A ten-byte L2CAP packet on handle 1 cut at four bytes makes the round trip
in three fragments. -/
theorem fragmentAndDispatch_reassemble_round_trip_three_fragments :
    ∃ evs frags,fragmentAndDispatch ⟨4,4⟩
        ⟨msgStackToHcHciAcl,[6,0,0x40,0,1,2,3,4,5,6].length+hciAclPreambleSize,0,0,
          aclMessage 0x2001 [6,0,0x40,0,1,2,3,4,5,6]⟩=.ok evs ∧
      evs.map sentBytes=frags.map some ∧
      (∀ f ∈ frags,readLE f 2 2=some (f.length-hciAclPreambleSize) ∧
        f.length-hciAclPreambleSize ≤ maxDataSizeFor ⟨4,4⟩ msgStackToHcHciAcl) ∧
      (∃ first rest,frags=first::rest ∧ readLE first 0 2=some 0x2001 ∧
        ∀ f ∈ rest,∃ h,readLE f 0 2=some h ∧ getBoundaryFlag h=continuationPacketBoundary ∧
          h &&& handleMask=0x2001 &&& handleMask) ∧
      (frags.map (List.drop hciAclPreambleSize)).flatten=[6,0,0x40,0,1,2,3,4,5,6] ∧
      ∃ st',reassembleRun FragmenterState.empty (received evs)=
          .ok (st',[BtHdr.ofBytes msgHcToStackHciAcl (aclMessage 0x2001 [6,0,0x40,0,1,2,3,4,5,6])]) ∧
        st'.partialPackets (0x2001 &&& handleMask)=none ∧
        ∀ other,other≠0x2001 &&& handleMask →
          st'.partialPackets other=FragmenterState.empty.partialPackets other :=
  @fragmentAndDispatch_reassemble_round_trip ⟨4,4⟩ FragmenterState.empty msgStackToHcHciAcl 0x2001
    [6,0,0x40,0,1,2,3,4,5,6] (by decide) (by decide) (by decide) (by decide) (by decide) (by decide)
    (by decide) (by decide) (by decide)

/-- Two packets that do not make the round trip. At a data size of one byte the
first fragment carries a single payload byte, too short for the L2CAP length
the reassembler reads from it. A packet whose handle field carries the
non-flushable start flag (boundary flag zero) is taken by the reassembler for a
continuation of nothing and dropped. -/
theorem fragmentAndDispatch_round_trip_counterexample :
    (∃ evs,fragmentAndDispatch ⟨1,1⟩
        ⟨msgStackToHcHciAcl,8,0,0,aclMessage 0x2001 [0x00,0x00,0x40,0x00]⟩=.ok evs ∧
      reassembleRun FragmenterState.empty (received evs)=.error .outOfRange) ∧
    (∃ evs,fragmentAndDispatch ⟨27,27⟩
        ⟨msgStackToHcHciAcl,8,0,0,aclMessage 0x0001 [0x00,0x00,0x40,0x00]⟩=.ok evs ∧
      reassembleRun FragmenterState.empty (received evs)=.ok (FragmenterState.empty,[])) :=
  ⟨⟨_,rfl,rfl⟩,⟨_,rfl,rfl⟩⟩
end BluetoothStack.HciFragmentRoundTrip
