import BluetoothStack.AvdtMsg

/-!
# AVCTP control-channel messages: fragmentation and reassembly

`avct_lcb_send_msg` sends a message in one single packet when it fits the peer's MTU with the
three-byte header (header byte and profile id), and otherwise in a start packet, whose four-byte
header also carries NOSP, then continue packets and an end packet with a one-byte header.
`avct_lcb_msg_asmbl` is the reassembler of `MsgAsmbl` with AVCTP's header lengths.

The message is the list of its bytes, and queueing on a congested channel is left out: the
packets are the same whether they go at once or from the queue.
-/

namespace BluetoothStack.AvctLcb

open ByteBuffer StepRun BtTypes MsgAsmbl AvdtMsg

/-- `AVCT_HDR_LEN_SINGLE`. -/
def avctHdrLenSingle : ℕ := 3
/-- `AVCT_HDR_LEN_START`. -/
def avctHdrLenStart : ℕ := 4
/-- `AVCT_HDR_LEN_CONT`. -/
def avctHdrLenCont : ℕ := 1
/-- `AVCT_HDR_LEN_END`. -/
def avctHdrLenEnd : ℕ := 1

/-- `avct_lcb_pkt_type_len`, indexed by packet type. -/
def avctLcbPktTypeLen : ℕ → ℕ
  | 0 => avctHdrLenSingle
  | 1 => avctHdrLenStart
  | 2 => avctHdrLenCont
  | _ => avctHdrLenEnd

/-- `avct_lcb_msg_asmbl`. -/
def avctLcbMsgAsmbl (rx : Option BtHdr) (p : BtHdr) : Except Fault AsmblResult :=
  msgAsmbl ⟨avctLcbPktTypeLen,avctHdrLenCont⟩ rx p

/-- An empty control packet: `avct_lcb_msg_asmbl` reads its type byte before it checks the length. -/
theorem avct_lcb_msg_asmbl_reads_empty_packet (rx : Option BtHdr) (p : BtHdr) (h : p.len=0) :
    avctLcbMsgAsmbl rx p=.error .outOfRange :=
  msgAsmbl_of_empty _ rx h

theorem avct_lcb_msg_asmbl_reads_empty_packet_none :
    (BtHdr.ofBytes 0 []).len=0 ∧ avctLcbMsgAsmbl none (BtHdr.ofBytes 0 [])=.error .outOfRange :=
  ⟨rfl,avct_lcb_msg_asmbl_reads_empty_packet none _ rfl⟩

section Send

/-- `AVCT_BUILD_HDR`: label, packet type and C/R with IPID in one byte. -/
def avctBuildHdr (label pktType crIpid : ℕ) : UInt8 := UInt8.ofNat (label <<< 4 ||| pktType <<< 2 ||| crIpid)

/-- The NOSP `avct_lcb_send_msg` computes for a message of `len` bytes at peer MTU `peerMtu`: the
start packet and one packet per `peerMtu - 1` bytes of the rest, rounded up, in 16 and 8 bits. -/
def avctNosp (len peerMtu : ℕ) : ℕ :=
  let temp := (len+avctHdrLenStart-peerMtu)%65536
  (temp/(peerMtu-1)+1+if temp%(peerMtu-1)≠0 then 1 else 0)%256

/-- The loop of `avct_lcb_send_msg`: the packet type chosen for the next packet and what is left
of the message. A packet takes `peerMtu` less its header when more is left, else all of it. -/
def avctLcbSendLoop (peerMtu label cr pid nosp : ℕ) : ℕ → ℕ → List UInt8 → List (List UInt8)
  | 0,_,_ => []
  | fuel+1,pktType,rest =>
    if rest.length=0 then []
    else
      let hdrLen := avctLcbPktTypeLen pktType
      let body := if peerMtu-hdrLen<rest.length then rest.take (peerMtu-hdrLen) else rest
      let rest := rest.drop body.length
      let header := [avctBuildHdr label pktType cr]++
        (if pktType=pktTypeStart then [UInt8.ofNat nosp] else [])++
        (if pktType=pktTypeStart ∨ pktType=pktTypeSingle then encodeBE 2 pid else [])
      let next := if peerMtu-avctHdrLenEnd<rest.length then pktTypeCont else pktTypeEnd
      (header++body)::avctLcbSendLoop peerMtu label cr pid nosp fuel next rest

/-- `avct_lcb_send_msg` of a message `msg` with label, C/R and profile id. -/
def avctLcbSendMsg (peerMtu label cr pid : ℕ) (msg : List UInt8) : List (List UInt8) :=
  let pktType := if msg.length ≤ peerMtu-avctHdrLenSingle then pktTypeSingle else pktTypeStart
  avctLcbSendLoop peerMtu label cr pid (avctNosp msg.length peerMtu) (msg.length+1) pktType msg

theorem avctLcbSendLoop_nil (peerMtu label cr pid nosp fuel pktType : ℕ) :
    avctLcbSendLoop peerMtu label cr pid nosp fuel pktType []=[] := by
  cases fuel <;> rfl

/-- The continue and end packets that carry `rest`: one per `peerMtu - 1` bytes, rounded up, as long
as the first of them has a one-byte header (every later one has). -/
theorem length_avctLcbSendLoop_cont {peerMtu label cr pid nosp : ℕ} (hmtu : 2 ≤ peerMtu) :
    ∀ fuel pktType (rest : List UInt8),avctLcbPktTypeLen pktType=1 → 0<rest.length → rest.length ≤ fuel →
      (avctLcbSendLoop peerMtu label cr pid nosp fuel pktType rest).length=(rest.length+(peerMtu-2))/(peerMtu-1) := by
  intro fuel
  induction fuel with
  | zero => intro pktType rest _ h0 hf; omega
  | succ fuel ih =>
    intro pktType rest hhdr h0 hf
    have hd : 0<peerMtu-1 := by omega
    have hnext : ∀ n,avctLcbPktTypeLen (if peerMtu-avctHdrLenEnd<n then pktTypeCont else pktTypeEnd)=1 := by
      intro n
      split_ifs <;> rfl
    simp only [avctLcbSendLoop,hhdr]
    rw [if_neg (by omega)]
    by_cases hcont : peerMtu-1<rest.length
    · -- a continue packet takes `peerMtu - 1` bytes, one packet of the rounded-up count
      rw [if_pos hcont,List.length_cons,ih _ _ (hnext _) (by simp; omega) (by simp; omega)]
      simp only [List.length_drop,List.length_take,min_eq_left hcont.le]
      have hsplit : rest.length+(peerMtu-2)=(rest.length-(peerMtu-1)+(peerMtu-2))+(peerMtu-1) := by omega
      rw [hsplit,Nat.add_div_right _ hd]
    · -- the end packet takes the rest
      rw [if_neg hcont,List.length_cons,List.drop_length,avctLcbSendLoop_nil,List.length_nil]
      symm
      apply Nat.div_eq_of_lt_le <;> omega

/-- A message that does not fit one packet starts with a start packet. -/
theorem avctLcbSendMsg_of_lt {peerMtu label cr pid : ℕ} {msg : List UInt8}
    (hlen : peerMtu-avctHdrLenSingle < msg.length) :
    avctLcbSendMsg peerMtu label cr pid msg=
      avctLcbSendLoop peerMtu label cr pid (avctNosp msg.length peerMtu) (msg.length+1) pktTypeStart msg :=
  congrArg (avctLcbSendLoop peerMtu label cr pid _ _ · msg) (if_neg (Nat.not_le_of_lt hlen))

/-- A message that does not fit one packet goes in a start packet and then one packet per
`peerMtu - 1` bytes of what is left, rounded up. -/
theorem length_avctLcbSendMsg_of_lt {peerMtu label cr pid : ℕ} {msg : List UInt8} (hmtu : l2capMinMtu ≤ peerMtu)
    (hlen : peerMtu-avctHdrLenSingle < msg.length) :
    (avctLcbSendMsg peerMtu label cr pid msg).length=
      1+(msg.length-(peerMtu-avctHdrLenStart)+(peerMtu-2))/(peerMtu-1) := by
  simp only [l2capMinMtu,avctHdrLenSingle] at hmtu hlen
  -- the start packet takes `peerMtu - 4` bytes and leaves at least two
  have hbody : (if peerMtu-avctLcbPktTypeLen pktTypeStart < msg.length then msg.take (peerMtu-avctLcbPktTypeLen pktTypeStart)
      else msg)=msg.take (peerMtu-4) := if_pos (by simp only [avctLcbPktTypeLen,pktTypeStart,avctHdrLenStart]; omega)
  rw [avctLcbSendMsg_of_lt (by simp only [avctHdrLenSingle]; omega)]
  simp only [avctLcbSendLoop]
  rw [if_neg (show ¬msg.length=0 by omega),hbody,List.length_cons,
    length_avctLcbSendLoop_cont (by omega) _ _ _ (by split_ifs <;> rfl)
      (by simp only [List.length_drop,List.length_take]; omega) (by simp only [List.length_drop]; omega)]
  simp only [List.length_drop,List.length_take,avctHdrLenStart]
  rw [min_eq_left (by omega)]
  omega

/-- NOSP, the packet count `avct_lcb_send_msg` writes into the start packet, is the number of packets
it sends, taken as a byte, whenever the message length fits the code's 16-bit arithmetic. Unlike
AVDTP's, the count rounds up only when the bytes after the start packet leave a remainder. -/
theorem avct_nosp_counts_packets (peerMtu label cr pid : ℕ) (msg : List UInt8) (hmtu : l2capMinMtu ≤ peerMtu)
    (hlen : peerMtu-avctHdrLenSingle < msg.length) (h16 : msg.length < 65536) :
    AvdtMsg.nospByte (avctLcbSendMsg peerMtu label cr pid msg)=(avctLcbSendMsg peerMtu label cr pid msg).length%256 := by
  have hcount := @length_avctLcbSendMsg_of_lt peerMtu label cr pid msg hmtu hlen
  simp only [l2capMinMtu,avctHdrLenSingle,avctHdrLenStart] at hmtu hlen hcount
  -- the first packet is the start packet, its second byte NOSP
  have hfirst : AvdtMsg.nospByte (avctLcbSendMsg peerMtu label cr pid msg)=avctNosp msg.length peerMtu := by
    rw [avctLcbSendMsg_of_lt (by simp only [avctHdrLenSingle]; omega)]
    simp only [avctLcbSendLoop]
    rw [if_neg (show ¬msg.length=0 by omega)]
    simp [AvdtMsg.nospByte,avctNosp,pktTypeStart,pktTypeSingle]
  -- the 16-bit `temp` does not wrap, and its rounded-up quotient is the closed formula's
  have htemp : (msg.length+avctHdrLenStart-peerMtu)%65536=msg.length+4-peerMtu := by
    simp only [avctHdrLenStart]
    omega
  have hround := @AvdtMsg.add_pred_div_eq (msg.length+4-peerMtu) (peerMtu-1) (by omega)
  have heq : msg.length-(peerMtu-4)+(peerMtu-2)=msg.length+4-peerMtu+(peerMtu-1-1) := by omega
  rw [hfirst,hcount,heq,hround,avctNosp]
  simp only [htemp]
  split_ifs <;> omega

theorem avct_nosp_counts_packets_100 :
    l2capMinMtu ≤ 48 ∧ 48-avctHdrLenSingle<(List.replicate 100 (0 : UInt8)).length ∧
      (List.replicate 100 (0 : UInt8)).length<65536 ∧
      AvdtMsg.nospByte (avctLcbSendMsg 48 0 0 0x110E (List.replicate 100 0))=
        (avctLcbSendMsg 48 0 0 0x110E (List.replicate 100 0)).length%256 :=
  ⟨by decide,by decide,by decide,avct_nosp_counts_packets 48 0 0 0x110E _ (by decide) (by decide) (by decide)⟩

end Send

end BluetoothStack.AvctLcb
