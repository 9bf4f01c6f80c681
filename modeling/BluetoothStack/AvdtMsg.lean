import BluetoothStack.MsgAsmbl

/-!
# AVDTP signalling messages: fragmentation and reassembly

`avdt_msg_send` sends a signalling message in one single packet when it fits the peer's MTU with
the two-byte header (header byte and signal id), and otherwise in a start packet, whose header
also carries NOSP, the number of signal packets, then continue packets and an end packet, each
with a one-byte header. `avdt_msg_asmbl` is the reassembler of `MsgAsmbl` with AVDTP's header
lengths.

The message body is the list of its bytes, and `avdt_msg_send` is modelled without congestion:
a congested channel makes it stop and resume later with the same packets.
-/

namespace BluetoothStack.AvdtMsg

open ByteBuffer StepRun BtTypes MsgAsmbl

/-- `AVDT_LEN_TYPE_SINGLE`. -/
def avdtLenTypeSingle : ℕ := 2
/-- `AVDT_LEN_TYPE_START`. -/
def avdtLenTypeStart : ℕ := 3
/-- `AVDT_LEN_TYPE_CONT`. -/
def avdtLenTypeCont : ℕ := 1
/-- `AVDT_LEN_TYPE_END`. -/
def avdtLenTypeEnd : ℕ := 1
/-- `L2CAP_MIN_MTU`. -/
def l2capMinMtu : ℕ := 48

/-- `avdt_msg_pkt_type_len`, indexed by packet type. -/
def avdtMsgPktTypeLen : ℕ → ℕ
  | 0 => avdtLenTypeSingle
  | 1 => avdtLenTypeStart
  | 2 => avdtLenTypeCont
  | _ => avdtLenTypeEnd

/-- `avdt_msg_asmbl`. -/
def avdtMsgAsmbl (rx : Option BtHdr) (p : BtHdr) : Except Fault AsmblResult :=
  msgAsmbl ⟨avdtMsgPktTypeLen,avdtLenTypeCont⟩ rx p

/-- An empty signalling packet: `avdt_msg_asmbl` reads its type byte before it checks the length. -/
theorem avdt_msg_asmbl_reads_empty_packet (rx : Option BtHdr) (p : BtHdr) (h : p.len=0) :
    avdtMsgAsmbl rx p=.error .outOfRange :=
  msgAsmbl_of_empty _ rx h

theorem avdt_msg_asmbl_reads_empty_packet_none :
    (BtHdr.ofBytes 0 []).len=0 ∧ avdtMsgAsmbl none (BtHdr.ofBytes 0 [])=.error .outOfRange :=
  ⟨rfl,avdt_msg_asmbl_reads_empty_packet none _ rfl⟩

section Send

/-- `AVDT_MSG_BLD_HDR`: label, packet type and message type in one byte. -/
def avdtMsgBldHdr (label pktType msg : ℕ) : UInt8 := UInt8.ofNat (label <<< 4 ||| pktType <<< 2 ||| msg)

/-- The NOSP `avdt_msg_send` computes for a message of `len` bytes at peer MTU `peerMtu`. -/
def avdtNosp (len peerMtu : ℕ) : ℕ := (len+avdtLenTypeStart-peerMtu)/(peerMtu-1)+2

/-- The loop of `avdt_msg_send` over what is left of the message, `rest`; `fragmenting` is whether
the message's offset has moved, that is whether a start packet has gone. Each pass sends one
packet and stops when nothing is left. -/
def avdtMsgSendLoop (peerMtu label msg sig : ℕ) : ℕ → Bool → List UInt8 → List (List UInt8)
  | 0,_,_ => []
  | fuel+1,fragmenting,rest =>
    if !fragmenting ∧ rest.length ≤ peerMtu-avdtLenTypeSingle then
      [[avdtMsgBldHdr label pktTypeSingle msg,UInt8.ofNat sig]++rest]
    else if !fragmenting then
      let n := peerMtu-avdtLenTypeStart
      ([avdtMsgBldHdr label pktTypeStart msg,UInt8.ofNat (avdtNosp rest.length peerMtu),UInt8.ofNat sig]++
        rest.take n)::avdtMsgSendLoop peerMtu label msg sig fuel true (rest.drop n)
    else if peerMtu-avdtLenTypeCont<rest.length then
      let n := peerMtu-avdtLenTypeCont
      ([avdtMsgBldHdr label pktTypeCont msg]++rest.take n)::avdtMsgSendLoop peerMtu label msg sig fuel true (rest.drop n)
    else [[avdtMsgBldHdr label pktTypeEnd msg]++rest]

/-- `avdt_msg_send` of a whole message `body` with label, message type and signal id: the packets
it writes, in order. Each pass consumes a byte or ends, so one pass per byte and one more is enough. -/
def avdtMsgSend (peerMtu label msg sig : ℕ) (body : List UInt8) : List (List UInt8) :=
  avdtMsgSendLoop peerMtu label msg sig (body.length+1) false body

/-- The NOSP byte of the first packet. -/
def nospByte (pkts : List (List UInt8)) : ℕ := ((pkts.headD []).getD 1 0).toNat

/-- The continue and end packets that carry `rest` after a start packet: one per `peerMtu - 1`
bytes, rounded up. -/
theorem length_avdtMsgSendLoop_fragmenting {peerMtu label msg sig : ℕ} (hmtu : 2 ≤ peerMtu) :
    ∀ fuel (rest : List UInt8),0<rest.length → rest.length ≤ fuel →
      (avdtMsgSendLoop peerMtu label msg sig fuel true rest).length=(rest.length+(peerMtu-2))/(peerMtu-1) := by
  intro fuel
  induction fuel with
  | zero => intro rest h0 hf; omega
  | succ fuel ih =>
    intro rest h0 hf
    have hd : 0<peerMtu-1 := by omega
    unfold avdtMsgSendLoop
    simp only [Bool.not_true,Bool.false_eq_true,false_and,if_false]
    by_cases hcont : peerMtu-avdtLenTypeCont<rest.length
    · -- a continue packet takes `peerMtu - 1` bytes, one packet of the rounded-up count
      rw [if_pos hcont,List.length_cons,ih _ (by simp [avdtLenTypeCont] at hcont ⊢; omega)
        (by simp [avdtLenTypeCont] at hcont ⊢; omega),List.length_drop]
      simp only [avdtLenTypeCont] at hcont ⊢
      have hsplit : rest.length+(peerMtu-2)=(rest.length-(peerMtu-1)+(peerMtu-2))+(peerMtu-1) := by omega
      rw [hsplit,Nat.add_div_right _ hd]
    · -- the end packet takes the rest
      rw [if_neg hcont,List.length_singleton]
      simp only [avdtLenTypeCont] at hcont
      symm
      apply Nat.div_eq_of_lt_le <;> omega

/-- A message that does not fit one packet goes in a start packet and then one packet per
`peerMtu - 1` bytes of what is left, rounded up. -/
theorem length_avdtMsgSend_of_lt {peerMtu label msg sig : ℕ} {body : List UInt8} (hmtu : l2capMinMtu ≤ peerMtu)
    (hlen : peerMtu-avdtLenTypeSingle<body.length) :
    (avdtMsgSend peerMtu label msg sig body).length=
      1+(body.length-(peerMtu-avdtLenTypeStart)+(peerMtu-2))/(peerMtu-1) := by
  simp only [avdtMsgSend,avdtMsgSendLoop,Bool.not_false,true_and,if_true]
  rw [if_neg (Nat.not_le.mpr hlen),List.length_cons,
    length_avdtMsgSendLoop_fragmenting (by simp only [l2capMinMtu] at hmtu; omega) _ _
      (by simp only [List.length_drop,avdtLenTypeStart,avdtLenTypeSingle] at hlen ⊢; omega)
      (by simp only [List.length_drop]; omega),List.length_drop]
  omega

/-- Rounding up a quotient adds one exactly when the division leaves a remainder. -/
theorem add_pred_div_eq {t d : ℕ} (hd : 0<d) : (t+(d-1))/d=t/d+if t%d=0 then 0 else 1 := by
  have ht := Nat.div_add_mod t d
  have hlt := Nat.mod_lt t hd
  have hsplit : t+(d-1)=(t%d+(d-1))+d*(t/d) := by omega
  rw [hsplit,Nat.add_mul_div_left _ _ hd]
  split_ifs with hr
  · rw [hr,Nat.zero_add,Nat.div_eq_of_lt (by omega)]
    omega
  · rw [Nat.div_eq_of_lt_le (show 1*d ≤ t%d+(d-1) by omega) (by omega)]
    omega

/-- NOSP counts one packet too many when what follows the start packet fills its continue and end
packets exactly: the closed formula adds two to a quotient that the packet count rounds up by
nothing. -/
theorem avdt_nosp_counts_extra_packet (peerMtu label msg sig : ℕ) (body : List UInt8)
    (hmtu : l2capMinMtu ≤ peerMtu) (hlen : peerMtu-avdtLenTypeSingle<body.length)
    (hexact : (body.length+avdtLenTypeStart-peerMtu)%(peerMtu-1)=0) (hnosp : avdtNosp body.length peerMtu<256) :
    nospByte (avdtMsgSend peerMtu label msg sig body)=(avdtMsgSend peerMtu label msg sig body).length+1 := by
  have hcount := @length_avdtMsgSend_of_lt peerMtu label msg sig body hmtu hlen
  simp only [l2capMinMtu,avdtLenTypeSingle,avdtLenTypeStart] at hmtu hlen hcount hexact
  -- the first packet is the start packet, its second byte NOSP
  have hfirst : nospByte (avdtMsgSend peerMtu label msg sig body)=avdtNosp body.length peerMtu := by
    simp only [nospByte,avdtMsgSend,avdtMsgSendLoop,Bool.not_false,true_and,if_true]
    rw [if_neg (by simp only [avdtLenTypeSingle]; omega)]
    simp [UInt8.toNat_ofNat_of_lt' hnosp]
  have hround := @add_pred_div_eq (body.length+3-peerMtu) (peerMtu-1) (by omega)
  rw [if_pos hexact] at hround
  have heq : body.length-(peerMtu-3)+(peerMtu-2)=body.length+3-peerMtu+(peerMtu-1-1) := by omega
  rw [hfirst,hcount,heq,hround,avdtNosp,avdtLenTypeStart]
  omega

theorem avdt_nosp_counts_extra_packet_92 :
    l2capMinMtu ≤ 48 ∧ 48-avdtLenTypeSingle<(List.replicate 92 (0 : UInt8)).length ∧
      ((List.replicate 92 (0 : UInt8)).length+avdtLenTypeStart-48)%(48-1)=0 ∧
      avdtNosp (List.replicate 92 (0 : UInt8)).length 48<256 ∧
      nospByte (avdtMsgSend 48 0 0 1 (List.replicate 92 0))=(avdtMsgSend 48 0 0 1 (List.replicate 92 0)).length+1 :=
  ⟨by decide,by decide,by decide,by decide,
    avdt_nosp_counts_extra_packet 48 0 0 1 _ (by decide) (by decide) (by decide) (by decide)⟩

end Send

end BluetoothStack.AvdtMsg
