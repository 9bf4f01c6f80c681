import BluetoothStack.A2dpAac
import BluetoothStack.BitMasks

/-!
# Codec information elements (stack/a2dp/a2dp_sbc.cc, a2dp_aac.cc, a2dp_vendor_aptx.cc, a2dp_vendor_ldac.cc)

Each codec has an element record, `A2DP_BuildInfoX`, which writes the element into a codec information
buffer from its first byte, and `A2DP_ParseInfoX`, which reads it back. SBC packs its sample frequency
and channel mode into one byte and its block length, subbands and allocation method into the next;
AAC is in `A2dpAac`. The vendor codecs aptX and LDAC start with the same header: the length,
`A2DP_MEDIA_CT_NON_A2DP`, and the vendor and codec ids little-endian. A builder checks masks (SBC)
or non-zero fields (AAC, LDAC) or nothing (aptX); a parser in capability mode checks the header, the
ids and the SBC bitpools, and nothing else.

The fields no builder or parser reads are left out: `bits_per_sample` of every element and the two
`future` bytes of aptX.
-/

namespace BluetoothStack.A2dpCodecInfo

open A2dpAac BitMasks

/-! ### Constants -/

/-- `A2DP_MEDIA_CT_SBC`. -/
def a2dpMediaCtSbc : UInt8 := 0x00
/-- `A2DP_MEDIA_CT_NON_A2DP`. -/
def a2dpMediaCtNonA2dp : UInt8 := 0xFF
/-- `A2DP_SBC_INFO_LEN`. -/
def a2dpSbcInfoLen : UInt8 := 6
/-- `A2DP_SBC_IE_SAMP_FREQ_MSK`. -/
def a2dpSbcIeSampFreqMsk : UInt8 := 0xF0
/-- `A2DP_SBC_IE_CH_MD_MSK`. -/
def a2dpSbcIeChMdMsk : UInt8 := 0x0F
/-- `A2DP_SBC_IE_BLOCKS_MSK`. -/
def a2dpSbcIeBlocksMsk : UInt8 := 0xF0
/-- `A2DP_SBC_IE_SUBBAND_MSK`. -/
def a2dpSbcIeSubbandMsk : UInt8 := 0x0C
/-- `A2DP_SBC_IE_ALLOC_MD_MSK`. -/
def a2dpSbcIeAllocMdMsk : UInt8 := 0x03
/-- `A2DP_SBC_IE_MIN_BITPOOL`. -/
def a2dpSbcIeMinBitpool : UInt8 := 2
/-- `A2DP_SBC_IE_MAX_BITPOOL`. -/
def a2dpSbcIeMaxBitpool : UInt8 := 250
/-- `A2DP_BAD_SUBBANDS`. -/
def a2dpBadSubbands : UInt8 := 0xC7
/-- `A2DP_BAD_ALLOC_METHOD`. -/
def a2dpBadAllocMethod : UInt8 := 0xC9
/-- `A2DP_BAD_MIN_BITPOOL`. -/
def a2dpBadMinBitpool : UInt8 := 0xCB
/-- `A2DP_BAD_MAX_BITPOOL`. -/
def a2dpBadMaxBitpool : UInt8 := 0xCD
/-- `A2DP_BAD_BLOCK_LEN`. -/
def a2dpBadBlockLen : UInt8 := 0xDD

/-- `A2DP_APTX_CODEC_LEN`. -/
def a2dpAptxCodecLen : UInt8 := 9
/-- `A2DP_APTX_VENDOR_ID`. -/
def a2dpAptxVendorId : UInt32 := 0x0000004F
/-- `A2DP_APTX_CODEC_ID_BLUETOOTH`. -/
def a2dpAptxCodecIdBluetooth : UInt16 := 0x0001

/-- `A2DP_LDAC_CODEC_LEN`. -/
def a2dpLdacCodecLen : UInt8 := 10
/-- `A2DP_LDAC_VENDOR_ID`. -/
def a2dpLdacVendorId : UInt32 := 0x0000012D
/-- `A2DP_LDAC_CODEC_ID`. -/
def a2dpLdacCodecId : UInt16 := 0x00AA
/-- `A2DP_LDAC_SAMPLING_FREQ_MASK`. -/
def a2dpLdacSamplingFreqMask : UInt8 := 0x3F
/-- `A2DP_LDAC_CHANNEL_MODE_MASK`. -/
def a2dpLdacChannelModeMask : UInt8 := 0x07

/-! ### SBC -/

/-- `tA2DP_SBC_CIE`. -/
structure SbcCie where
  sampFreq : UInt8
  chMode : UInt8
  blockLen : UInt8
  numSubbands : UInt8
  allocMethod : UInt8
  minBitpool : UInt8
  maxBitpool : UInt8
  deriving DecidableEq,Repr

/-- `A2DP_BuildInfoSbc`: a field with a bit outside its mask, or bitpools out of range or out of
order, give `A2DP_INVALID_PARAMS` with nothing written. -/
def a2dpBuildInfoSbc (mediaType : UInt8) (ie : SbcCie) (result : CodecInfo) : UInt8×CodecInfo :=
  if ie.sampFreq &&& ~~~a2dpSbcIeSampFreqMsk≠0 ∨ ie.chMode &&& ~~~a2dpSbcIeChMdMsk≠0 ∨
      ie.blockLen &&& ~~~a2dpSbcIeBlocksMsk≠0 ∨ ie.numSubbands &&& ~~~a2dpSbcIeSubbandMsk≠0 ∨
      ie.allocMethod &&& ~~~a2dpSbcIeAllocMdMsk≠0 ∨ ie.minBitpool > ie.maxBitpool ∨
      ie.minBitpool < a2dpSbcIeMinBitpool ∨ ie.minBitpool > a2dpSbcIeMaxBitpool ∨
      ie.maxBitpool < a2dpSbcIeMinBitpool ∨ ie.maxBitpool > a2dpSbcIeMaxBitpool then
    (a2dpInvalidParams,result)
  else
    let result := ((result.write 0 a2dpSbcInfoLen).write 1 (mediaType <<< 4)).write 2 a2dpMediaCtSbc
    let result := (result.write 3 (ie.sampFreq ||| ie.chMode)).write 4
      (ie.blockLen ||| ie.numSubbands ||| ie.allocMethod)
    (a2dpSuccess,(result.write 5 ie.minBitpool).write 6 ie.maxBitpool)

/-- `A2DP_ParseInfoSbc`. The bitpools are checked in both modes; a configuration must also have one
bit in each field. -/
def a2dpParseInfoSbc (codecInfo : CodecInfo) (isCapability : Bool) : Except UInt8 SbcCie :=
  if codecInfo.get 0≠a2dpSbcInfoLen then .error a2dpWrongCodec
  else if codecInfo.get 1 >>> 4≠avdtMediaTypeAudio ∨ codecInfo.get 2≠a2dpMediaCtSbc then .error a2dpWrongCodec
  else
    let ie : SbcCie := {
      sampFreq := codecInfo.get 3 &&& a2dpSbcIeSampFreqMsk
      chMode := codecInfo.get 3 &&& a2dpSbcIeChMdMsk
      blockLen := codecInfo.get 4 &&& a2dpSbcIeBlocksMsk
      numSubbands := codecInfo.get 4 &&& a2dpSbcIeSubbandMsk
      allocMethod := codecInfo.get 4 &&& a2dpSbcIeAllocMdMsk
      minBitpool := codecInfo.get 5
      maxBitpool := codecInfo.get 6 }
    if ie.minBitpool < a2dpSbcIeMinBitpool ∨ ie.minBitpool > a2dpSbcIeMaxBitpool then .error a2dpBadMinBitpool
    else if ie.maxBitpool < a2dpSbcIeMinBitpool ∨ ie.maxBitpool > a2dpSbcIeMaxBitpool ∨
        ie.maxBitpool < ie.minBitpool then .error a2dpBadMaxBitpool
    else if isCapability then .ok ie
    else if a2dpBitsSet ie.sampFreq.toNat≠a2dpSetOneBit then .error a2dpBadSampFreq
    else if a2dpBitsSet ie.chMode.toNat≠a2dpSetOneBit then .error a2dpBadChMode
    else if a2dpBitsSet ie.blockLen.toNat≠a2dpSetOneBit then .error a2dpBadBlockLen
    else if a2dpBitsSet ie.numSubbands.toNat≠a2dpSetOneBit then .error a2dpBadSubbands
    else if a2dpBitsSet ie.allocMethod.toNat≠a2dpSetOneBit then .error a2dpBadAllocMethod
    else .ok ie

/-! ### The vendor codecs -/

/-- The header `A2DP_BuildInfoAptx` and `A2DP_BuildInfoLdac` both write first: the length, the
media type, `A2DP_MEDIA_CT_NON_A2DP`, then the vendor id and the codec id, each byte masked and
shifted down. -/
def buildVendorHeader (codecLen mediaType : UInt8) (vendorId : UInt32) (codecId : UInt16)
    (result : CodecInfo) : CodecInfo :=
  let result := ((result.write 0 codecLen).write 1 (mediaType <<< 4)).write 2 a2dpMediaCtNonA2dp
  let result := (((result.write 3 (vendorId &&& 0x000000FF).toUInt8).write 4
    ((vendorId &&& 0x0000FF00) >>> 8).toUInt8).write 5 ((vendorId &&& 0x00FF0000) >>> 16).toUInt8).write 6
    ((vendorId &&& 0xFF000000) >>> 24).toUInt8
  (result.write 7 (codecId &&& 0x00FF).toUInt8).write 8 ((codecId &&& 0xFF00) >>> 8).toUInt8

/-- The checks `A2DP_ParseInfoAptx` and `A2DP_ParseInfoLdac` both make first: the length, the media
type and `A2DP_MEDIA_CT_NON_A2DP`, then the vendor and codec ids assembled from bytes 3 to 8. -/
def vendorHeaderOk (codecInfo : CodecInfo) (codecLen : UInt8) (vendorId : UInt32) (codecId : UInt16) : Bool :=
  codecInfo.get 0=codecLen ∧ codecInfo.get 1 >>> 4=avdtMediaTypeAudio ∧ codecInfo.get 2=a2dpMediaCtNonA2dp ∧
    le32 (codecInfo.get 3) (codecInfo.get 4) (codecInfo.get 5) (codecInfo.get 6)=vendorId ∧
    le16 (codecInfo.get 7) (codecInfo.get 8)=codecId

/-- `tA2DP_APTX_CIE`, without the `future` bytes no builder writes. -/
structure AptxCie where
  vendorId : UInt32
  codecId : UInt16
  sampleRate : UInt8
  channelMode : UInt8
  deriving DecidableEq,Repr

/-- `A2DP_BuildInfoAptx`: the header, then the sample rate and channel mode or-ed into one byte,
with no check. -/
def a2dpBuildInfoAptx (mediaType : UInt8) (ie : AptxCie) (result : CodecInfo) : UInt8×CodecInfo :=
  (a2dpSuccess,(buildVendorHeader a2dpAptxCodecLen mediaType ie.vendorId ie.codecId result).write 9
    (ie.sampleRate ||| ie.channelMode))

/-- `A2DP_ParseInfoAptx`. -/
def a2dpParseInfoAptx (codecInfo : CodecInfo) (isCapability : Bool) : Except UInt8 AptxCie :=
  if !vendorHeaderOk codecInfo a2dpAptxCodecLen a2dpAptxVendorId a2dpAptxCodecIdBluetooth then
    .error a2dpWrongCodec
  else
    let ie : AptxCie := {
      vendorId := le32 (codecInfo.get 3) (codecInfo.get 4) (codecInfo.get 5) (codecInfo.get 6)
      codecId := le16 (codecInfo.get 7) (codecInfo.get 8)
      sampleRate := codecInfo.get 9 &&& 0xF0
      channelMode := codecInfo.get 9 &&& 0x0F }
    if isCapability then .ok ie
    else if a2dpBitsSet ie.sampleRate.toNat≠a2dpSetOneBit then .error a2dpBadSampFreq
    else if a2dpBitsSet ie.channelMode.toNat≠a2dpSetOneBit then .error a2dpBadChMode
    else .ok ie

/-- `tA2DP_LDAC_CIE`. -/
structure LdacCie where
  vendorId : UInt32
  codecId : UInt16
  sampleRate : UInt8
  channelMode : UInt8
  deriving DecidableEq,Repr

/-- `A2DP_BuildInfoLdac`: the header, then the masked sample rate and channel mode, each read back
and refused with `A2DP_INVALID_PARAMS` when zero. -/
def a2dpBuildInfoLdac (mediaType : UInt8) (ie : LdacCie) (result : CodecInfo) : UInt8×CodecInfo :=
  let result := (buildVendorHeader a2dpLdacCodecLen mediaType ie.vendorId ie.codecId result).write 9
    (ie.sampleRate &&& a2dpLdacSamplingFreqMask)
  if result.get 9=0 then (a2dpInvalidParams,result)
  else
    let result := result.write 10 (ie.channelMode &&& a2dpLdacChannelModeMask)
    if result.get 10=0 then (a2dpInvalidParams,result)
    else (a2dpSuccess,result)

/-- `A2DP_ParseInfoLdac`. -/
def a2dpParseInfoLdac (codecInfo : CodecInfo) (isCapability : Bool) : Except UInt8 LdacCie :=
  if !vendorHeaderOk codecInfo a2dpLdacCodecLen a2dpLdacVendorId a2dpLdacCodecId then
    .error a2dpWrongCodec
  else
    let ie : LdacCie := {
      vendorId := le32 (codecInfo.get 3) (codecInfo.get 4) (codecInfo.get 5) (codecInfo.get 6)
      codecId := le16 (codecInfo.get 7) (codecInfo.get 8)
      sampleRate := codecInfo.get 9 &&& a2dpLdacSamplingFreqMask
      channelMode := codecInfo.get 10 &&& a2dpLdacChannelModeMask }
    if isCapability then .ok ie
    else if a2dpBitsSet ie.sampleRate.toNat≠a2dpSetOneBit then .error a2dpBadSampFreq
    else if a2dpBitsSet ie.channelMode.toNat≠a2dpSetOneBit then .error a2dpBadChMode
    else .ok ie

/-! ### What a parse reads back

A round trip is stated on the bits a parser reads: for each byte from the first, a mask of the bits
that reach the element or a check. -/

/-- `b'` has the bits of `b` that `mask` covers, byte by byte from the first. -/
def AgreesOn (mask : List UInt8) (b b' : CodecInfo) : Prop :=
  ∀ i : Fin mask.length,b'.get i &&& mask.get i=b.get i &&& mask.get i

/-! ### SBC round trip -/

/-- The bits `A2DP_ParseInfoSbc` reads: the length, the media type nibble, the codec type and the
four element bytes. -/
def sbcInfoMask : List UInt8 := [0xFF,0xF0,0xFF,0xFF,0xFF,0xFF,0xFF]

/-- The fields of an SBC element inside their masks, with the bitpools in range and in order. -/
def SbcCie.InMasks (ie : SbcCie) : Prop :=
  ie.sampFreq &&& a2dpSbcIeSampFreqMsk=ie.sampFreq ∧ ie.chMode &&& a2dpSbcIeChMdMsk=ie.chMode ∧
    ie.blockLen &&& a2dpSbcIeBlocksMsk=ie.blockLen ∧ ie.numSubbands &&& a2dpSbcIeSubbandMsk=ie.numSubbands ∧
    ie.allocMethod &&& a2dpSbcIeAllocMdMsk=ie.allocMethod ∧
    a2dpSbcIeMinBitpool ≤ ie.minBitpool ∧ ie.minBitpool ≤ ie.maxBitpool ∧ ie.maxBitpool ≤ a2dpSbcIeMaxBitpool

/-- The builder's checks pass exactly on elements inside their masks. -/
theorem SbcCie.inMasks_iff (ie : SbcCie) :
    ie.InMasks ↔ ¬(ie.sampFreq &&& ~~~a2dpSbcIeSampFreqMsk≠0 ∨ ie.chMode &&& ~~~a2dpSbcIeChMdMsk≠0 ∨
      ie.blockLen &&& ~~~a2dpSbcIeBlocksMsk≠0 ∨ ie.numSubbands &&& ~~~a2dpSbcIeSubbandMsk≠0 ∨
      ie.allocMethod &&& ~~~a2dpSbcIeAllocMdMsk≠0 ∨ ie.minBitpool > ie.maxBitpool ∨
      ie.minBitpool < a2dpSbcIeMinBitpool ∨ ie.minBitpool > a2dpSbcIeMaxBitpool ∨
      ie.maxBitpool < a2dpSbcIeMinBitpool ∨ ie.maxBitpool > a2dpSbcIeMaxBitpool) := by
  simp only [SbcCie.InMasks,ne_eq,not_or,not_not,and_not_eq_zero_iff,gt_iff_lt,UInt8.lt_iff_toNat_lt,
    not_lt,UInt8.le_iff_toNat_le]
  -- the bitpool range: the builder checks five bounds where the element has three
  constructor
  · rintro ⟨h1,h2,h3,h4,h5,hmin,hord,hmax⟩
    exact ⟨h1,h2,h3,h4,h5,hord,hmin,by omega,by omega,hmax⟩
  · rintro ⟨h1,h2,h3,h4,h5,hord,hmin,-,-,hmax⟩
    exact ⟨h1,h2,h3,h4,h5,hmin,hord,hmax⟩

/-- `A2DP_BuildInfoSbc` succeeds exactly on elements inside their masks. -/
theorem a2dpBuildInfoSbc_status (mediaType : UInt8) (ie : SbcCie) (result : CodecInfo) :
    (a2dpBuildInfoSbc mediaType ie result).1=a2dpSuccess ↔ ie.InMasks := by
  rw [SbcCie.inMasks_iff]
  unfold a2dpBuildInfoSbc
  split_ifs with h
  · simp only [h,not_true_eq_false,iff_false]
    decide
  · simp only [h,not_false_eq_true]

/-- The bytes `A2DP_BuildInfoSbc` writes for an element inside its masks. -/
theorem a2dpBuildInfoSbc_get {mediaType : UInt8} {ie : SbcCie} (h : ie.InMasks) (result : CodecInfo) :
    let r := (a2dpBuildInfoSbc mediaType ie result).2
    r.get 0=a2dpSbcInfoLen ∧ r.get 1=mediaType <<< 4 ∧ r.get 2=a2dpMediaCtSbc ∧
      r.get 3=(ie.sampFreq ||| ie.chMode) ∧ r.get 4=(ie.blockLen ||| ie.numSubbands ||| ie.allocMethod) ∧
      r.get 5=ie.minBitpool ∧ r.get 6=ie.maxBitpool := by
  rw [SbcCie.inMasks_iff] at h
  simp only [a2dpBuildInfoSbc,if_neg h]
  simp (disch := decide) only [CodecInfo.get_write_self,CodecInfo.get_write_of_ne,and_self]

/-- The two fields of the first element byte come back under their masks. -/
theorem sbc_byte3_fields {ie : SbcCie} (h : ie.InMasks) :
    (ie.sampFreq ||| ie.chMode) &&& a2dpSbcIeSampFreqMsk=ie.sampFreq ∧
      (ie.sampFreq ||| ie.chMode) &&& a2dpSbcIeChMdMsk=ie.chMode := by
  obtain ⟨hsf,hcm,-⟩ := h
  exact ⟨or_and_of_within_left hsf (and_eq_zero_of_within hcm (by decide)),
    or_and_of_within_right (and_eq_zero_of_within hsf (by decide)) hcm⟩

/-- The three fields of the second element byte come back under their masks. -/
theorem sbc_byte4_fields {ie : SbcCie} (h : ie.InMasks) :
    (ie.blockLen ||| ie.numSubbands ||| ie.allocMethod) &&& a2dpSbcIeBlocksMsk=ie.blockLen ∧
      (ie.blockLen ||| ie.numSubbands ||| ie.allocMethod) &&& a2dpSbcIeSubbandMsk=ie.numSubbands ∧
      (ie.blockLen ||| ie.numSubbands ||| ie.allocMethod) &&& a2dpSbcIeAllocMdMsk=ie.allocMethod := by
  obtain ⟨-,-,hbl,hns,ham,-⟩ := h
  -- each mask keeps its own field and clears the other two
  refine ⟨?_,?_,?_⟩ <;> rw [or_and_distrib,or_and_distrib]
  · rw [hbl,and_eq_zero_of_within hns (by decide),and_eq_zero_of_within ham (by decide),UInt8.or_zero,
      UInt8.or_zero]
  · rw [and_eq_zero_of_within hbl (by decide),hns,and_eq_zero_of_within ham (by decide),UInt8.zero_or,
      UInt8.or_zero]
  · rw [and_eq_zero_of_within hbl (by decide),and_eq_zero_of_within hns (by decide),ham,UInt8.zero_or,
      UInt8.zero_or]

/-- An SBC element inside its masks comes back from its own bytes. -/
theorem a2dpParseInfoSbc_build {ie : SbcCie} (h : ie.InMasks) (result : CodecInfo) :
    a2dpParseInfoSbc (a2dpBuildInfoSbc avdtMediaTypeAudio ie result).2 true=.ok ie := by
  obtain ⟨h0,h1,h2,h3,h4,h5,h6⟩ := @a2dpBuildInfoSbc_get avdtMediaTypeAudio ie h result
  obtain ⟨e3,e3'⟩ := sbc_byte3_fields h
  obtain ⟨e4,e4',e4''⟩ := sbc_byte4_fields h
  obtain ⟨-,-,-,-,-,hmin,hord,hmax⟩ := h
  unfold a2dpParseInfoSbc
  rw [h0,h1,h2,h3,h4,h5,h6,e3,e3',e4,e4',e4'']
  -- the header and the bitpools pass, and capability mode returns the element
  have hpools : ¬(ie.minBitpool < a2dpSbcIeMinBitpool ∨ ie.minBitpool > a2dpSbcIeMaxBitpool) ∧
      ¬(ie.maxBitpool < a2dpSbcIeMinBitpool ∨ ie.maxBitpool > a2dpSbcIeMaxBitpool ∨ ie.maxBitpool < ie.minBitpool) := by
    simp only [UInt8.le_iff_toNat_le] at hmin hord hmax
    simp only [gt_iff_lt,UInt8.lt_iff_toNat_lt]
    omega
  rw [if_neg (by decide),if_neg (by decide),if_neg hpools.1,if_neg hpools.2,if_pos rfl]

/-- What `A2DP_ParseInfoSbc` accepts as a capability: its header, the element its bytes carry, and
that element is inside its masks. -/
theorem a2dpParseInfoSbc_true_eq_ok {b : CodecInfo} {ie : SbcCie} (h : a2dpParseInfoSbc b true=.ok ie) :
    b.get 0=a2dpSbcInfoLen ∧ b.get 1 >>> 4=avdtMediaTypeAudio ∧ b.get 2=a2dpMediaCtSbc ∧
      ie=⟨b.get 3 &&& a2dpSbcIeSampFreqMsk,b.get 3 &&& a2dpSbcIeChMdMsk,b.get 4 &&& a2dpSbcIeBlocksMsk,
        b.get 4 &&& a2dpSbcIeSubbandMsk,b.get 4 &&& a2dpSbcIeAllocMdMsk,b.get 5,b.get 6⟩ ∧ ie.InMasks := by
  unfold a2dpParseInfoSbc at h
  dsimp only at h
  split_ifs at h with h0 h12 hmin hmax hcap
  · cases h
    simp only [ne_eq,not_not,not_or] at h0 h12
    refine ⟨h0,h12.1,h12.2,rfl,?_⟩
    -- a masked byte is inside its mask, and the bitpools passed both checks
    simp only [gt_iff_lt,UInt8.lt_iff_toNat_lt,not_or,not_lt] at hmin hmax
    simp only [SbcCie.InMasks,UInt8.and_assoc,UInt8.and_self,UInt8.le_iff_toNat_le,true_and]
    omega
  all_goals exact absurd rfl hcap

/-- Every SBC capability the parser accepts builds, and the built bytes carry every bit the parser
read. -/
theorem a2dpBuildInfoSbc_of_parse {b : CodecInfo} {ie : SbcCie} (h : a2dpParseInfoSbc b true=.ok ie)
    (result : CodecInfo) :
    (a2dpBuildInfoSbc avdtMediaTypeAudio ie result).1=a2dpSuccess ∧
      AgreesOn sbcInfoMask b (a2dpBuildInfoSbc avdtMediaTypeAudio ie result).2 := by
  obtain ⟨h0,h1,h2,rfl,hin⟩ := a2dpParseInfoSbc_true_eq_ok h
  refine ⟨(a2dpBuildInfoSbc_status _ _ _).mpr hin,?_⟩
  obtain ⟨g0,g1,g2,g3,g4,g5,g6⟩ := @a2dpBuildInfoSbc_get avdtMediaTypeAudio _ hin result
  have hnib : b.get 1 &&& 0xF0=0 := and_high_nibble_of_shiftRight h1
  intro i
  fin_cases i <;> simp only [sbcInfoMask,List.get_eq_getElem,List.getElem_cons_succ,List.getElem_cons_zero,
    and_ff]
  · rw [g0,h0]
  · rw [g1,hnib]
    decide
  · rw [g2,h2]
  · -- the two fields of the byte cover it
    rw [g3,and_or_and,show a2dpSbcIeSampFreqMsk ||| a2dpSbcIeChMdMsk=0xFF by decide,and_ff]
  · rw [g4,and_or_and,and_or_and,
      show a2dpSbcIeBlocksMsk ||| a2dpSbcIeSubbandMsk ||| a2dpSbcIeAllocMdMsk=0xFF by decide,and_ff]
  · rw [g5]
  · rw [g6]

/-! ### The vendor header -/

/-- The bytes `buildVendorHeader` writes. -/
theorem buildVendorHeader_get (codecLen mediaType : UInt8) (vendorId : UInt32) (codecId : UInt16)
    (result : CodecInfo) :
    let r := buildVendorHeader codecLen mediaType vendorId codecId result
    r.get 0=codecLen ∧ r.get 1=mediaType <<< 4 ∧ r.get 2=a2dpMediaCtNonA2dp ∧
      r.get 3=(vendorId &&& 0x000000FF).toUInt8 ∧ r.get 4=((vendorId &&& 0x0000FF00) >>> 8).toUInt8 ∧
      r.get 5=((vendorId &&& 0x00FF0000) >>> 16).toUInt8 ∧ r.get 6=((vendorId &&& 0xFF000000) >>> 24).toUInt8 ∧
      r.get 7=(codecId &&& 0x00FF).toUInt8 ∧ r.get 8=((codecId &&& 0xFF00) >>> 8).toUInt8 := by
  simp (disch := decide) only [buildVendorHeader,CodecInfo.get_write_self,CodecInfo.get_write_of_ne,and_self]

/-- The header bytes are not touched by writes after them. -/
theorem get_write_of_header {b : CodecInfo} {j k : ℕ} (hj : 9 ≤ j) (hk : k<9) (x : UInt8) :
    (b.write j x).get k=b.get k :=
  CodecInfo.get_write_of_ne _ _ (by omega)

/-- Writes after the header leave the vendor parsers' checks as they were. -/
theorem vendorHeaderOk_write {b : CodecInfo} {j : ℕ} (hj : 9 ≤ j) (x codecLen : UInt8) (vendorId : UInt32)
    (codecId : UInt16) : vendorHeaderOk (b.write j x) codecLen vendorId codecId=vendorHeaderOk b codecLen vendorId codecId := by
  simp only [vendorHeaderOk,get_write_of_header hj (by decide : 0<9),get_write_of_header hj (by decide : 1<9),
    get_write_of_header hj (by decide : 2<9),get_write_of_header hj (by decide : 3<9),
    get_write_of_header hj (by decide : 4<9),get_write_of_header hj (by decide : 5<9),
    get_write_of_header hj (by decide : 6<9),get_write_of_header hj (by decide : 7<9),
    get_write_of_header hj (by decide : 8<9)]

/-- A header written with ids that survive the byte split passes the vendor parsers' checks. -/
theorem vendorHeaderOk_build (codecLen : UInt8) (vendorId : UInt32) (codecId : UInt16) (result : CodecInfo)
    (hvendor : le32 (vendorId &&& 0x000000FF).toUInt8 ((vendorId &&& 0x0000FF00) >>> 8).toUInt8
      ((vendorId &&& 0x00FF0000) >>> 16).toUInt8 ((vendorId &&& 0xFF000000) >>> 24).toUInt8=vendorId)
    (hcodec : le16 (codecId &&& 0x00FF).toUInt8 ((codecId &&& 0xFF00) >>> 8).toUInt8=codecId) :
    vendorHeaderOk (buildVendorHeader codecLen avdtMediaTypeAudio vendorId codecId result) codecLen vendorId codecId=true := by
  obtain ⟨h0,h1,h2,h3,h4,h5,h6,h7,h8⟩ := buildVendorHeader_get codecLen avdtMediaTypeAudio vendorId codecId result
  simp only [vendorHeaderOk,h0,h1,h2,h3,h4,h5,h6,h7,h8,hvendor,hcodec,decide_eq_true_eq,and_true]
  decide

/-- A header the vendor parsers accept, with its ids reassembled and written again, has the bits they
read. -/
theorem buildVendorHeader_agrees {b : CodecInfo} {codecLen : UInt8} {vendorId : UInt32} {codecId : UInt16}
    (h : vendorHeaderOk b codecLen vendorId codecId=true) (result : CodecInfo) :
    let r := buildVendorHeader codecLen avdtMediaTypeAudio (le32 (b.get 3) (b.get 4) (b.get 5) (b.get 6))
      (le16 (b.get 7) (b.get 8)) result
    r.get 0=b.get 0 ∧ r.get 1 &&& 0xF0=b.get 1 &&& 0xF0 ∧ r.get 2=b.get 2 ∧ r.get 3=b.get 3 ∧ r.get 4=b.get 4 ∧
      r.get 5=b.get 5 ∧ r.get 6=b.get 6 ∧ r.get 7=b.get 7 ∧ r.get 8=b.get 8 := by
  obtain ⟨h0,h1,h2,h3,h4,h5,h6,h7,h8⟩ := buildVendorHeader_get codecLen avdtMediaTypeAudio
    (le32 (b.get 3) (b.get 4) (b.get 5) (b.get 6)) (le16 (b.get 7) (b.get 8)) result
  simp only [vendorHeaderOk,decide_eq_true_eq] at h
  obtain ⟨hlen,hmedia,hct,-,-⟩ := h
  dsimp only
  rw [h0,h1,h2,h3,h4,h5,h6,h7,h8,le32_byte0,le32_byte1,le32_byte2,le32_byte3,le16_byte0,le16_byte1,hlen,hct,
    and_high_nibble_of_shiftRight hmedia]
  exact ⟨rfl,by decide,rfl,rfl,rfl,rfl,rfl,rfl,rfl⟩

/-! ### aptX round trip -/

/-- The bits `A2DP_ParseInfoAptx` reads: the header and the sample rate and channel mode byte. -/
def aptxInfoMask : List UInt8 := [0xFF,0xF0,0xFF,0xFF,0xFF,0xFF,0xFF,0xFF,0xFF,0xFF]

/-- An aptX element with aptX's own ids, and its sample rate and channel mode inside the nibbles the
parser reads them from. -/
def AptxCie.InMasks (ie : AptxCie) : Prop :=
  ie.vendorId=a2dpAptxVendorId ∧ ie.codecId=a2dpAptxCodecIdBluetooth ∧ ie.sampleRate &&& 0xF0=ie.sampleRate ∧
    ie.channelMode &&& 0x0F=ie.channelMode

/-- An aptX element inside its masks comes back from its own bytes. -/
theorem a2dpParseInfoAptx_build {ie : AptxCie} (h : ie.InMasks) (result : CodecInfo) :
    a2dpParseInfoAptx (a2dpBuildInfoAptx avdtMediaTypeAudio ie result).2 true=.ok ie := by
  obtain ⟨vendorId,codecId,sampleRate,channelMode⟩ := ie
  obtain ⟨rfl,rfl,hsr,hcm⟩ := h
  have hok := vendorHeaderOk_build a2dpAptxCodecLen a2dpAptxVendorId a2dpAptxCodecIdBluetooth result (by decide)
    (by decide)
  obtain ⟨-,-,-,h3,h4,h5,h6,h7,h8⟩ := buildVendorHeader_get a2dpAptxCodecLen avdtMediaTypeAudio
    a2dpAptxVendorId a2dpAptxCodecIdBluetooth result
  -- the ids the parser reassembles are aptX's, and the byte after them gives back both fields
  have hvendor : le32 (a2dpAptxVendorId &&& 0x000000FF).toUInt8 ((a2dpAptxVendorId &&& 0x0000FF00) >>> 8).toUInt8
      ((a2dpAptxVendorId &&& 0x00FF0000) >>> 16).toUInt8 ((a2dpAptxVendorId &&& 0xFF000000) >>> 24).toUInt8=
      a2dpAptxVendorId := by decide
  have hcodec : le16 (a2dpAptxCodecIdBluetooth &&& 0x00FF).toUInt8 ((a2dpAptxCodecIdBluetooth &&& 0xFF00) >>> 8).toUInt8=
      a2dpAptxCodecIdBluetooth := by decide
  have hrate : (sampleRate ||| channelMode) &&& 0xF0=sampleRate :=
    or_and_of_within_left hsr (and_eq_zero_of_within hcm (by decide))
  have hmode : (sampleRate ||| channelMode) &&& 0x0F=channelMode :=
    or_and_of_within_right (and_eq_zero_of_within hsr (by decide)) hcm
  unfold a2dpParseInfoAptx a2dpBuildInfoAptx
  simp (disch := decide) only [vendorHeaderOk_write (le_refl 9),hok,Bool.not_true,get_write_of_header,
    CodecInfo.get_write_self,h3,h4,h5,h6,h7,h8,hvendor,hcodec,hrate,hmode]
  rfl

/-- What `A2DP_ParseInfoAptx` accepts as a capability: a header that passes its checks, and the
element the bytes carry. -/
theorem a2dpParseInfoAptx_true_eq_ok {b : CodecInfo} {ie : AptxCie} (h : a2dpParseInfoAptx b true=.ok ie) :
    vendorHeaderOk b a2dpAptxCodecLen a2dpAptxVendorId a2dpAptxCodecIdBluetooth=true ∧
      ie=⟨le32 (b.get 3) (b.get 4) (b.get 5) (b.get 6),le16 (b.get 7) (b.get 8),b.get 9 &&& 0xF0,b.get 9 &&& 0x0F⟩ := by
  unfold a2dpParseInfoAptx at h
  dsimp only at h
  split_ifs at h with hheader hcap
  · cases h
    exact ⟨by simpa using hheader,rfl⟩
  all_goals exact absurd rfl hcap

/-- Every aptX capability the parser accepts builds, and the built bytes carry every bit the parser
read. -/
theorem a2dpBuildInfoAptx_of_parse {b : CodecInfo} {ie : AptxCie} (h : a2dpParseInfoAptx b true=.ok ie)
    (result : CodecInfo) :
    (a2dpBuildInfoAptx avdtMediaTypeAudio ie result).1=a2dpSuccess ∧
      AgreesOn aptxInfoMask b (a2dpBuildInfoAptx avdtMediaTypeAudio ie result).2 := by
  obtain ⟨hok,rfl⟩ := a2dpParseInfoAptx_true_eq_ok h
  obtain ⟨g0,g1,g2,g3,g4,g5,g6,g7,g8⟩ := buildVendorHeader_agrees hok result
  refine ⟨rfl,?_⟩
  intro i
  fin_cases i <;> simp (disch := decide) only [aptxInfoMask,List.get_eq_getElem,List.getElem_cons_succ,
    List.getElem_cons_zero,and_ff,a2dpBuildInfoAptx,get_write_of_header,CodecInfo.get_write_self,g0,g1,g2,g3,g4,
    g5,g6,g7,g8]
  -- the sample rate and channel mode nibbles cover the last byte
  rw [and_or_and,show (0xF0 : UInt8) ||| 0x0F=0xFF by decide,and_ff]

/-! ### LDAC round trip -/

/-- The bits `A2DP_ParseInfoLdac` reads: the header and the masked sample rate and channel mode. -/
def ldacInfoMask : List UInt8 :=
  [0xFF,0xF0,0xFF,0xFF,0xFF,0xFF,0xFF,0xFF,0xFF,a2dpLdacSamplingFreqMask,a2dpLdacChannelModeMask]

/-- An LDAC element with LDAC's own ids, and its sample rate and channel mode inside their masks. -/
def LdacCie.InMasks (ie : LdacCie) : Prop :=
  ie.vendorId=a2dpLdacVendorId ∧ ie.codecId=a2dpLdacCodecId ∧
    ie.sampleRate &&& a2dpLdacSamplingFreqMask=ie.sampleRate ∧ ie.channelMode &&& a2dpLdacChannelModeMask=ie.channelMode

/-- `A2DP_BuildInfoLdac` succeeds exactly when the masked sample rate and channel mode are not zero. -/
theorem a2dpBuildInfoLdac_status (mediaType : UInt8) (ie : LdacCie) (result : CodecInfo) :
    (a2dpBuildInfoLdac mediaType ie result).1=a2dpSuccess ↔
      ie.sampleRate &&& a2dpLdacSamplingFreqMask≠0 ∧ ie.channelMode &&& a2dpLdacChannelModeMask≠0 := by
  unfold a2dpBuildInfoLdac
  simp (disch := decide) only [CodecInfo.get_write_self]
  split_ifs with hrate hmode
  · simp only [hrate,ne_eq,not_true_eq_false,false_and,iff_false]
    decide
  · simp only [hmode,ne_eq,not_true_eq_false,and_false,iff_false]
    decide
  · simp only [hrate,hmode,ne_eq,not_false_eq_true,and_self]

/-- An LDAC element inside its masks that builds comes back from its own bytes. -/
theorem a2dpParseInfoLdac_build {ie : LdacCie} (h : ie.InMasks) (result : CodecInfo)
    (hok : (a2dpBuildInfoLdac avdtMediaTypeAudio ie result).1=a2dpSuccess) :
    a2dpParseInfoLdac (a2dpBuildInfoLdac avdtMediaTypeAudio ie result).2 true=.ok ie := by
  obtain ⟨hrate,hmode⟩ := (a2dpBuildInfoLdac_status _ _ _).mp hok
  obtain ⟨vendorId,codecId,sampleRate,channelMode⟩ := ie
  obtain ⟨rfl,rfl,hsr,hcm⟩ := h
  rw [hsr] at hrate
  rw [hcm] at hmode
  have hheader := vendorHeaderOk_build a2dpLdacCodecLen a2dpLdacVendorId a2dpLdacCodecId result (by decide)
    (by decide)
  obtain ⟨-,-,-,h3,h4,h5,h6,h7,h8⟩ := buildVendorHeader_get a2dpLdacCodecLen avdtMediaTypeAudio
    a2dpLdacVendorId a2dpLdacCodecId result
  have hvendor : le32 (a2dpLdacVendorId &&& 0x000000FF).toUInt8 ((a2dpLdacVendorId &&& 0x0000FF00) >>> 8).toUInt8
      ((a2dpLdacVendorId &&& 0x00FF0000) >>> 16).toUInt8 ((a2dpLdacVendorId &&& 0xFF000000) >>> 24).toUInt8=
      a2dpLdacVendorId := by decide
  have hcodec : le16 (a2dpLdacCodecId &&& 0x00FF).toUInt8 ((a2dpLdacCodecId &&& 0xFF00) >>> 8).toUInt8=
      a2dpLdacCodecId := by decide
  unfold a2dpParseInfoLdac a2dpBuildInfoLdac
  simp (disch := decide) only [CodecInfo.get_write_self,CodecInfo.get_write_of_ne,if_neg hrate,if_neg hmode,
    vendorHeaderOk_write (le_refl 9),vendorHeaderOk_write (by decide : 9 ≤ 10),hheader,Bool.not_true,h3,h4,h5,
    h6,h7,h8,hvendor,hcodec,hsr,hcm]
  rfl

/-- What `A2DP_ParseInfoLdac` accepts as a capability: a header that passes its checks, and the
element the bytes carry. -/
theorem a2dpParseInfoLdac_true_eq_ok {b : CodecInfo} {ie : LdacCie} (h : a2dpParseInfoLdac b true=.ok ie) :
    vendorHeaderOk b a2dpLdacCodecLen a2dpLdacVendorId a2dpLdacCodecId=true ∧
      ie=⟨le32 (b.get 3) (b.get 4) (b.get 5) (b.get 6),le16 (b.get 7) (b.get 8),
        b.get 9 &&& a2dpLdacSamplingFreqMask,b.get 10 &&& a2dpLdacChannelModeMask⟩ := by
  unfold a2dpParseInfoLdac at h
  dsimp only at h
  split_ifs at h with hheader hcap
  · cases h
    exact ⟨by simpa using hheader,rfl⟩
  all_goals exact absurd rfl hcap

/-- Every LDAC capability the parser accepts with a sample rate and a channel mode builds, and the
built bytes carry every bit the parser read. -/
theorem a2dpBuildInfoLdac_of_parse {b : CodecInfo} {ie : LdacCie} (h : a2dpParseInfoLdac b true=.ok ie)
    (hrate : ie.sampleRate≠0) (hmode : ie.channelMode≠0) (result : CodecInfo) :
    (a2dpBuildInfoLdac avdtMediaTypeAudio ie result).1=a2dpSuccess ∧
      AgreesOn ldacInfoMask b (a2dpBuildInfoLdac avdtMediaTypeAudio ie result).2 := by
  obtain ⟨hok,rfl⟩ := a2dpParseInfoLdac_true_eq_ok h
  obtain ⟨g0,g1,g2,g3,g4,g5,g6,g7,g8⟩ := buildVendorHeader_agrees hok result
  -- the parsed fields are already masked, so the builder's masks keep them
  have hm9 : b.get 9 &&& a2dpLdacSamplingFreqMask &&& a2dpLdacSamplingFreqMask=b.get 9 &&& a2dpLdacSamplingFreqMask := by
    rw [UInt8.and_assoc,UInt8.and_self]
  have hm10 : b.get 10 &&& a2dpLdacChannelModeMask &&& a2dpLdacChannelModeMask=b.get 10 &&& a2dpLdacChannelModeMask := by
    rw [UInt8.and_assoc,UInt8.and_self]
  dsimp only at hrate hmode
  refine ⟨(a2dpBuildInfoLdac_status _ _ _).mpr ⟨by rw [hm9]; exact hrate,by rw [hm10]; exact hmode⟩,?_⟩
  intro i
  fin_cases i <;> simp (disch := decide) only [ldacInfoMask,List.get_eq_getElem,List.getElem_cons_succ,
    List.getElem_cons_zero,and_ff,a2dpBuildInfoLdac,CodecInfo.get_write_self,CodecInfo.get_write_of_ne,hm9,hm10,
    if_neg hrate,if_neg hmode,g0,g1,g2,g3,g4,g5,g6,g7,g8]

/-! ### AAC round trip

The sample rate spans bytes 4 and 5, the channel mode shares byte 5 with its high nibble, and the
variable bit rate flag shares byte 6 with the top seven bits of the bit rate. Each byte is followed
through `toNat`, where the masks are fields and the ORs sums. -/

/-- The bits `A2DP_ParseInfoAac` reads: the header, the object type, the sample rate, the channel
mode, the variable bit rate flag and the bit rate. -/
def aacInfoMask : List UInt8 := [0xFF,0xF0,0xFF,0xFF,0xFF,0xFC,0xFF,0xFF,0xFF]

/-- An AAC element with its sample rate, channel mode and variable bit rate flag inside their masks,
and a bit rate below `2^23`. -/
def AacCie.InMasks (ie : AacCie) : Prop :=
  ie.sampleRate &&& (a2dpAacSamplingFreqMask0 ||| a2dpAacSamplingFreqMask1)=ie.sampleRate ∧
    ie.channelMode &&& a2dpAacChannelModeMask=ie.channelMode ∧
    ie.variableBitRateSupport &&& a2dpAacVariableBitRateMask=ie.variableBitRateSupport ∧ ie.bitRate.toNat<2^23

/-- The sample rate `A2DP_ParseInfoAac` assembles from bytes 4 and 5. -/
theorem aac_parsed_sampleRate_toNat (b4 b5 : UInt8) :
    (b4.toUInt16 &&& a2dpAacSamplingFreqMask0 ||| b5.toUInt16 <<< 8 &&& a2dpAacSamplingFreqMask1).toNat=
      b5.toNat / 16*4096+b4.toNat := by
  have h4 := b4.toNat_lt
  have h5 := b5.toNat_lt
  rw [UInt16.toNat_or,toNat_and_field16 _ 0 8 (by decide),toNat_and_field16 _ 12 4 (by decide),Nat.lor_comm,
    or_field (by omega)]
  rw [UInt16.toNat_shiftLeft,UInt8.toNat_toUInt16,UInt8.toNat_toUInt16,Nat.shiftLeft_eq]
  simp only [UInt16.toNat_ofNat]
  norm_num
  omega

/-- The bit rate `A2DP_ParseInfoAac` assembles from bytes 6 to 8. -/
theorem aac_parsed_bitRate_toNat (b6 b7 b8 : UInt8) :
    (b6.toUInt32 <<< 16 &&& a2dpAacBitRateMask0 ||| b7.toUInt32 <<< 8 &&& a2dpAacBitRateMask1 |||
      b8.toUInt32 &&& a2dpAacBitRateMask2).toNat=b6.toNat % 128*65536+b7.toNat*256+b8.toNat := by
  have h7 := b7.toNat_lt
  have h8 := b8.toNat_lt
  rw [UInt32.toNat_or,UInt32.toNat_or,toNat_and_field32 _ 16 7 (by decide),toNat_and_field32 _ 8 8 (by decide),
    toNat_and_field32 _ 0 8 (by decide)]
  -- each byte lands in its own field of the 23-bit value
  have t6 : (b6.toUInt32 <<< 16).toNat / 2^16 % 2^7=b6.toNat % 128 := by
    rw [UInt32.toNat_shiftLeft,UInt8.toNat_toUInt32,Nat.shiftLeft_eq]
    simp only [UInt32.toNat_ofNat]
    norm_num
    omega
  have t7 : (b7.toUInt32 <<< 8).toNat / 2^8 % 2^8=b7.toNat := by
    rw [UInt32.toNat_shiftLeft,UInt8.toNat_toUInt32,Nat.shiftLeft_eq]
    simp only [UInt32.toNat_ofNat]
    norm_num
    omega
  have t8 : b8.toUInt32.toNat / 2^0 % 2^8*2^0=b8.toNat := by
    rw [UInt8.toNat_toUInt32]
    omega
  rw [t6,t7,t8,or_field (by omega),show b6.toNat % 128*2^16+b7.toNat*2^8=(b6.toNat % 128*2^8+b7.toNat)*2^8 by ring,
    or_field h8]
  ring

/-- Byte 4 as `A2DP_BuildInfoAac` writes it: the low byte of the sample rate. -/
theorem aac_byte4_toNat (sampleRate : UInt16) :
    (sampleRate &&& a2dpAacSamplingFreqMask0).toUInt8.toNat=sampleRate.toNat % 256 := by
  rw [UInt16.toNat_toUInt8,toNat_and_field16 _ 0 8 (by decide)]
  omega

/-- Byte 5 as `A2DP_BuildInfoAac` writes it: the high nibble of the sample rate and the channel mode. -/
theorem aac_byte5_toNat (sampleRate : UInt16) (channelMode : UInt8) :
    (((sampleRate &&& a2dpAacSamplingFreqMask1) >>> 8).toUInt8 ||| channelMode &&& a2dpAacChannelModeMask).toNat=
      sampleRate.toNat / 4096 % 16*16+channelMode.toNat / 4 % 4*4 := by
  have hhigh : ((sampleRate &&& a2dpAacSamplingFreqMask1) >>> 8).toUInt8.toNat=sampleRate.toNat / 4096 % 16*2^4 := by
    rw [UInt16.toNat_toUInt8,UInt16.toNat_shiftRight,toNat_and_field16 _ 12 4 (by decide),Nat.shiftRight_eq_div_pow]
    simp only [UInt16.toNat_ofNat]
    norm_num
    omega
  rw [UInt8.toNat_or,hhigh,toNat_and_field8 _ 2 2 (by decide),or_field (by omega)]
  norm_num

/-- Byte 6 as `A2DP_BuildInfoAac` writes it: the variable bit rate flag and the top seven bits of the
bit rate. -/
theorem aac_byte6_toNat (variableBitRateSupport : UInt8) (bitRate : UInt32) :
    (variableBitRateSupport &&& a2dpAacVariableBitRateMask ||| ((bitRate &&& a2dpAacBitRateMask0) >>> 16).toUInt8).toNat=
      variableBitRateSupport.toNat / 128 % 2*128+bitRate.toNat / 65536 % 128 := by
  have hlow : ((bitRate &&& a2dpAacBitRateMask0) >>> 16).toUInt8.toNat=bitRate.toNat / 65536 % 128 := by
    rw [UInt32.toNat_toUInt8,UInt32.toNat_shiftRight,toNat_and_field32 _ 16 7 (by decide),Nat.shiftRight_eq_div_pow]
    simp only [UInt32.toNat_ofNat]
    norm_num
    omega
  rw [UInt8.toNat_or,toNat_and_field8 _ 7 1 (by decide),hlow,or_field (by omega)]
  norm_num

/-- Bytes 7 and 8 as `A2DP_BuildInfoAac` writes them: the low two bytes of the bit rate. -/
theorem aac_byte78_toNat (bitRate : UInt32) :
    ((bitRate &&& a2dpAacBitRateMask1) >>> 8).toUInt8.toNat=bitRate.toNat / 256 % 256 ∧
      (bitRate &&& a2dpAacBitRateMask2).toUInt8.toNat=bitRate.toNat % 256 := by
  constructor
  · rw [UInt32.toNat_toUInt8,UInt32.toNat_shiftRight,toNat_and_field32 _ 8 8 (by decide),Nat.shiftRight_eq_div_pow]
    simp only [UInt32.toNat_ofNat]
    norm_num
  · rw [UInt32.toNat_toUInt8,toNat_and_field32 _ 0 8 (by decide)]
    omega

/-- A sample rate inside its masks is its high nibble and its low byte. -/
theorem aac_sampleRate_toNat_of_inMasks {sampleRate : UInt16}
    (h : sampleRate &&& (a2dpAacSamplingFreqMask0 ||| a2dpAacSamplingFreqMask1)=sampleRate) :
    sampleRate.toNat=sampleRate.toNat / 4096 % 16*4096+sampleRate.toNat % 256 := by
  have hn := congrArg UInt16.toNat h
  rw [UInt16.toNat_and,UInt16.toNat_or,Nat.and_or_distrib_left,
    show a2dpAacSamplingFreqMask0.toNat=(2^8-1)*2^0 by decide,
    show a2dpAacSamplingFreqMask1.toNat=(2^4-1)*2^12 by decide,and_field,and_field,Nat.lor_comm,
    or_field (by omega)] at hn
  omega

/-- The bytes `A2DP_BuildInfoAac` writes when it succeeds. -/
theorem a2dpBuildInfoAac_get {mediaType : UInt8} {ie : AacCie} {result : CodecInfo}
    (hok : (a2dpBuildInfoAac mediaType ie result).1=a2dpSuccess) :
    let r := (a2dpBuildInfoAac mediaType ie result).2
    r.get 0=a2dpAacCodecLen ∧ r.get 1=mediaType <<< 4 ∧ r.get 2=a2dpMediaCtAac ∧ r.get 3=ie.objectType ∧
      r.get 4=(ie.sampleRate &&& a2dpAacSamplingFreqMask0).toUInt8 ∧
      r.get 5=(((ie.sampleRate &&& a2dpAacSamplingFreqMask1) >>> 8).toUInt8 ||| ie.channelMode &&& a2dpAacChannelModeMask) ∧
      r.get 6=(ie.variableBitRateSupport &&& a2dpAacVariableBitRateMask |||
        ((ie.bitRate &&& a2dpAacBitRateMask0) >>> 16).toUInt8) ∧
      r.get 7=((ie.bitRate &&& a2dpAacBitRateMask1) >>> 8).toUInt8 ∧
      r.get 8=(ie.bitRate &&& a2dpAacBitRateMask2).toUInt8 := by
  obtain ⟨hobject,hrate,hmode⟩ := (a2dpBuildInfoAac_status _ _ _).mp hok
  simp only [a2dpBuildInfoAac,if_neg hobject,if_neg hrate,if_neg hmode]
  simp (disch := decide) only [CodecInfo.get_write_self,CodecInfo.get_write_of_ne,and_self]


/-- An AAC element inside its masks that builds comes back from its own bytes, with no bits per
sample: the element carries none. -/
theorem a2dpParseInfoAac_build {ie : AacCie} (h : AacCie.InMasks ie) (result : CodecInfo)
    (hok : (a2dpBuildInfoAac avdtMediaTypeAudio ie result).1=a2dpSuccess) :
    a2dpParseInfoAac (a2dpBuildInfoAac avdtMediaTypeAudio ie result).2 true=
      .ok {ie with bitsPerSample := btavBitsPerSampleNone} := by
  obtain ⟨g0,g1,g2,g3,g4,g5,g6,g7,g8⟩ := a2dpBuildInfoAac_get hok
  obtain ⟨hsr,hcm,hvbr,hbr⟩ := h
  obtain ⟨t7,t8⟩ := aac_byte78_toNat ie.bitRate
  -- each field the parser reassembles is the element's, compared through `toNat`
  have hrate : (ie.sampleRate &&& a2dpAacSamplingFreqMask0).toUInt8.toUInt16 &&& a2dpAacSamplingFreqMask0 |||
      (((ie.sampleRate &&& a2dpAacSamplingFreqMask1) >>> 8).toUInt8 |||
        ie.channelMode &&& a2dpAacChannelModeMask).toUInt16 <<< 8 &&& a2dpAacSamplingFreqMask1=ie.sampleRate := by
    apply UInt16.toNat_inj.mp
    rw [aac_parsed_sampleRate_toNat,aac_byte4_toNat,aac_byte5_toNat]
    have := aac_sampleRate_toNat_of_inMasks hsr
    omega
  have hmode : (((ie.sampleRate &&& a2dpAacSamplingFreqMask1) >>> 8).toUInt8 |||
      ie.channelMode &&& a2dpAacChannelModeMask) &&& a2dpAacChannelModeMask=ie.channelMode := by
    apply UInt8.toNat_inj.mp
    have hc := congrArg UInt8.toNat hcm
    rw [toNat_and_field8 _ 2 2 (by decide)] at hc
    rw [toNat_and_field8 _ 2 2 (by decide),aac_byte5_toNat]
    omega
  have hvbrate : (ie.variableBitRateSupport &&& a2dpAacVariableBitRateMask |||
      ((ie.bitRate &&& a2dpAacBitRateMask0) >>> 16).toUInt8) &&& a2dpAacVariableBitRateMask=
      ie.variableBitRateSupport := by
    apply UInt8.toNat_inj.mp
    have hv := congrArg UInt8.toNat hvbr
    rw [toNat_and_field8 _ 7 1 (by decide)] at hv
    rw [toNat_and_field8 _ 7 1 (by decide),aac_byte6_toNat]
    omega
  have hbitrate : (ie.variableBitRateSupport &&& a2dpAacVariableBitRateMask |||
      ((ie.bitRate &&& a2dpAacBitRateMask0) >>> 16).toUInt8).toUInt32 <<< 16 &&& a2dpAacBitRateMask0 |||
      ((ie.bitRate &&& a2dpAacBitRateMask1) >>> 8).toUInt8.toUInt32 <<< 8 &&& a2dpAacBitRateMask1 |||
      (ie.bitRate &&& a2dpAacBitRateMask2).toUInt8.toUInt32 &&& a2dpAacBitRateMask2=ie.bitRate := by
    apply UInt32.toNat_inj.mp
    rw [aac_parsed_bitRate_toNat,aac_byte6_toNat,t7,t8]
    omega
  unfold a2dpParseInfoAac
  simp only [g0,g1,g2,g3,g4,g5,g6,g7,g8,hrate,hmode,hvbrate,hbitrate]
  rw [if_neg (by decide),if_neg (by decide),if_true]


/-- What `A2DP_ParseInfoAac` accepts as a capability: its header and the element its bytes carry. -/
theorem a2dpParseInfoAac_true_eq_ok {b : CodecInfo} {ie : AacCie} (h : a2dpParseInfoAac b true=.ok ie) :
    b.get 0=a2dpAacCodecLen ∧ b.get 1 >>> 4=avdtMediaTypeAudio ∧ b.get 2=a2dpMediaCtAac ∧
      ie=⟨b.get 3,(b.get 4).toUInt16 &&& a2dpAacSamplingFreqMask0 |||
          (b.get 5).toUInt16 <<< 8 &&& a2dpAacSamplingFreqMask1,b.get 5 &&& a2dpAacChannelModeMask,
        b.get 6 &&& a2dpAacVariableBitRateMask,(b.get 6).toUInt32 <<< 16 &&& a2dpAacBitRateMask0 |||
          (b.get 7).toUInt32 <<< 8 &&& a2dpAacBitRateMask1 ||| (b.get 8).toUInt32 &&& a2dpAacBitRateMask2,
        btavBitsPerSampleNone⟩ := by
  unfold a2dpParseInfoAac at h
  dsimp only at h
  split_ifs at h with h0 h12 hcap
  · cases h
    simp only [ne_eq,not_not,not_or] at h0 h12
    exact ⟨h0,h12.1,h12.2,rfl⟩
  all_goals exact absurd rfl hcap

/-! The builder writes a parsed sample rate, channel mode, flag and bit rate back as the bytes they
were read from, on every bit the parser read. -/

section ParsedBytes

variable (b4 b5 b6 b7 b8 : UInt8)

theorem aac_parsed_byte4 :
    ((b4.toUInt16 &&& a2dpAacSamplingFreqMask0 ||| b5.toUInt16 <<< 8 &&& a2dpAacSamplingFreqMask1) &&&
      a2dpAacSamplingFreqMask0).toUInt8=b4 := by
  have h4 := b4.toNat_lt
  apply UInt8.toNat_inj.mp
  rw [aac_byte4_toNat,aac_parsed_sampleRate_toNat]
  omega

theorem aac_parsed_byte5 :
    ((((b4.toUInt16 &&& a2dpAacSamplingFreqMask0 ||| b5.toUInt16 <<< 8 &&& a2dpAacSamplingFreqMask1) &&&
      a2dpAacSamplingFreqMask1) >>> 8).toUInt8 ||| b5 &&& a2dpAacChannelModeMask &&& a2dpAacChannelModeMask) &&&
      0xFC=b5 &&& 0xFC := by
  have h4 := b4.toNat_lt
  have h5 := b5.toNat_lt
  have hcm : (b5 &&& a2dpAacChannelModeMask).toNat=b5.toNat / 4 % 4*4 := toNat_and_field8 _ 2 2 (by decide)
  apply UInt8.toNat_inj.mp
  rw [toNat_and_field8 _ 2 6 (by decide),toNat_and_field8 _ 2 6 (by decide),aac_byte5_toNat,
    aac_parsed_sampleRate_toNat,hcm]
  omega

theorem aac_parsed_byte6 :
    (b6 &&& a2dpAacVariableBitRateMask &&& a2dpAacVariableBitRateMask |||
      (((b6.toUInt32 <<< 16 &&& a2dpAacBitRateMask0 ||| b7.toUInt32 <<< 8 &&& a2dpAacBitRateMask1 |||
        b8.toUInt32 &&& a2dpAacBitRateMask2) &&& a2dpAacBitRateMask0) >>> 16).toUInt8)=b6 := by
  have h6 := b6.toNat_lt
  have h7 := b7.toNat_lt
  have h8 := b8.toNat_lt
  have hvbr : (b6 &&& a2dpAacVariableBitRateMask).toNat=b6.toNat / 128 % 2*128 := toNat_and_field8 _ 7 1 (by decide)
  apply UInt8.toNat_inj.mp
  rw [aac_byte6_toNat,aac_parsed_bitRate_toNat,hvbr]
  omega

theorem aac_parsed_byte78 :
    let bitRate := b6.toUInt32 <<< 16 &&& a2dpAacBitRateMask0 ||| b7.toUInt32 <<< 8 &&& a2dpAacBitRateMask1 |||
      b8.toUInt32 &&& a2dpAacBitRateMask2
    ((bitRate &&& a2dpAacBitRateMask1) >>> 8).toUInt8=b7 ∧ (bitRate &&& a2dpAacBitRateMask2).toUInt8=b8 := by
  have h7 := b7.toNat_lt
  have h8 := b8.toNat_lt
  obtain ⟨t7,t8⟩ := aac_byte78_toNat (b6.toUInt32 <<< 16 &&& a2dpAacBitRateMask0 |||
    b7.toUInt32 <<< 8 &&& a2dpAacBitRateMask1 ||| b8.toUInt32 &&& a2dpAacBitRateMask2)
  rw [aac_parsed_bitRate_toNat] at t7 t8
  exact ⟨UInt8.toNat_inj.mp (by omega),UInt8.toNat_inj.mp (by omega)⟩

end ParsedBytes

/-- Every AAC capability the parser accepts with an object type, a sample rate and a channel mode
builds, and the built bytes carry every bit the parser read. -/
theorem a2dpBuildInfoAac_of_parse {b : CodecInfo} {ie : AacCie} (h : a2dpParseInfoAac b true=.ok ie)
    (hobject : ie.objectType≠0) (hrate : ie.sampleRate≠0) (hmode : ie.channelMode≠0) (result : CodecInfo) :
    (a2dpBuildInfoAac avdtMediaTypeAudio ie result).1=a2dpSuccess ∧
      AgreesOn aacInfoMask b (a2dpBuildInfoAac avdtMediaTypeAudio ie result).2 := by
  have hok := (a2dpBuildInfoAac_status avdtMediaTypeAudio ie result).mpr ⟨hobject,hrate,hmode⟩
  refine ⟨hok,?_⟩
  obtain ⟨g0,g1,g2,g3,g4,g5,g6,g7,g8⟩ := a2dpBuildInfoAac_get hok
  obtain ⟨h0,h1,h2,rfl⟩ := a2dpParseInfoAac_true_eq_ok h
  obtain ⟨e7,e8⟩ := aac_parsed_byte78 (b.get 6) (b.get 7) (b.get 8)
  have hnib : b.get 1 &&& 0xF0=0 := and_high_nibble_of_shiftRight h1
  intro i
  fin_cases i <;> simp only [aacInfoMask,List.get_eq_getElem,List.getElem_cons_succ,List.getElem_cons_zero,
    and_ff]
  · rw [g0,h0]
  · rw [g1,hnib]
    decide
  · rw [g2,h2]
  · rw [g3]
  · rw [g4,aac_parsed_byte4]
  · rw [g5,aac_parsed_byte5]
  · rw [g6,aac_parsed_byte6]
  · rw [g7,e7]
  · rw [g8,e8]


/-! ### The four round trips -/

/-- The element round trip of the four codecs. An element inside its masks builds exactly when the
codec's fields that must not be zero are not, and then parses back as a capability; a capability the
parser accepts builds back on every bit it read, where for AAC and LDAC the fields that the builder
refuses as zero must not be. -/
theorem a2dp_codec_info_round_trip (result : CodecInfo) :
    (∀ ie : SbcCie,ie.InMasks → (a2dpBuildInfoSbc avdtMediaTypeAudio ie result).1=a2dpSuccess ∧
      a2dpParseInfoSbc (a2dpBuildInfoSbc avdtMediaTypeAudio ie result).2 true=.ok ie) ∧
    (∀ (b : CodecInfo) (ie : SbcCie),a2dpParseInfoSbc b true=.ok ie →
      (a2dpBuildInfoSbc avdtMediaTypeAudio ie result).1=a2dpSuccess ∧
        AgreesOn sbcInfoMask b (a2dpBuildInfoSbc avdtMediaTypeAudio ie result).2) ∧
    (∀ ie : AacCie,AacCie.InMasks ie →
      ((a2dpBuildInfoAac avdtMediaTypeAudio ie result).1=a2dpSuccess ↔
        ie.objectType≠0 ∧ ie.sampleRate≠0 ∧ ie.channelMode≠0) ∧
      ((a2dpBuildInfoAac avdtMediaTypeAudio ie result).1=a2dpSuccess →
        a2dpParseInfoAac (a2dpBuildInfoAac avdtMediaTypeAudio ie result).2 true=
          .ok {ie with bitsPerSample := btavBitsPerSampleNone})) ∧
    (∀ (b : CodecInfo) (ie : AacCie),a2dpParseInfoAac b true=.ok ie →
      ie.objectType≠0 → ie.sampleRate≠0 → ie.channelMode≠0 →
      (a2dpBuildInfoAac avdtMediaTypeAudio ie result).1=a2dpSuccess ∧
        AgreesOn aacInfoMask b (a2dpBuildInfoAac avdtMediaTypeAudio ie result).2) ∧
    (∀ ie : AptxCie,ie.InMasks → (a2dpBuildInfoAptx avdtMediaTypeAudio ie result).1=a2dpSuccess ∧
      a2dpParseInfoAptx (a2dpBuildInfoAptx avdtMediaTypeAudio ie result).2 true=.ok ie) ∧
    (∀ (b : CodecInfo) (ie : AptxCie),a2dpParseInfoAptx b true=.ok ie →
      (a2dpBuildInfoAptx avdtMediaTypeAudio ie result).1=a2dpSuccess ∧
        AgreesOn aptxInfoMask b (a2dpBuildInfoAptx avdtMediaTypeAudio ie result).2) ∧
    (∀ ie : LdacCie,ie.InMasks →
      ((a2dpBuildInfoLdac avdtMediaTypeAudio ie result).1=a2dpSuccess ↔
        ie.sampleRate &&& a2dpLdacSamplingFreqMask≠0 ∧ ie.channelMode &&& a2dpLdacChannelModeMask≠0) ∧
      ((a2dpBuildInfoLdac avdtMediaTypeAudio ie result).1=a2dpSuccess →
        a2dpParseInfoLdac (a2dpBuildInfoLdac avdtMediaTypeAudio ie result).2 true=.ok ie)) ∧
    (∀ (b : CodecInfo) (ie : LdacCie),a2dpParseInfoLdac b true=.ok ie →
      ie.sampleRate≠0 → ie.channelMode≠0 →
      (a2dpBuildInfoLdac avdtMediaTypeAudio ie result).1=a2dpSuccess ∧
        AgreesOn ldacInfoMask b (a2dpBuildInfoLdac avdtMediaTypeAudio ie result).2) := by
  refine ⟨?sbc,?sbcBack,?aac,?aacBack,?aptx,?aptxBack,?ldac,?ldacBack⟩
  case sbc =>
    intro ie h
    exact ⟨(a2dpBuildInfoSbc_status _ _ _).mpr h,a2dpParseInfoSbc_build h result⟩
  case sbcBack => exact fun b ie h => a2dpBuildInfoSbc_of_parse h result
  case aac =>
    intro ie h
    exact ⟨a2dpBuildInfoAac_status _ _ _,a2dpParseInfoAac_build h result⟩
  case aacBack => exact fun b ie h hobject hrate hmode => a2dpBuildInfoAac_of_parse h hobject hrate hmode result
  case aptx =>
    intro ie h
    exact ⟨rfl,a2dpParseInfoAptx_build h result⟩
  case aptxBack => exact fun b ie h => a2dpBuildInfoAptx_of_parse h result
  case ldac =>
    intro ie h
    exact ⟨a2dpBuildInfoLdac_status _ _ _,a2dpParseInfoLdac_build h result⟩
  case ldacBack => exact fun b ie h hrate hmode => a2dpBuildInfoLdac_of_parse h hrate hmode result

/-- Capabilities the parsers accept and the builders refuse: an AAC element with object type zero,
and an LDAC element with sample rate zero. -/
theorem a2dp_parsed_capabilities_that_do_not_build :
    a2dpParseInfoAac ⟨[0x08,0x00,0x02,0x00,0x01,0x04,0x00,0x00,0x00,0,0,0,0,0,0,0,0,0,0,0],rfl⟩ true=
        .ok ⟨0x00,0x0001,0x04,0x00,0,btavBitsPerSampleNone⟩ ∧
      (a2dpBuildInfoAac avdtMediaTypeAudio ⟨0x00,0x0001,0x04,0x00,0,btavBitsPerSampleNone⟩ CodecInfo.zero).1=
        a2dpInvalidParams ∧
    a2dpParseInfoLdac ⟨[0x0A,0x00,0xFF,0x2D,0x01,0x00,0x00,0xAA,0x00,0x00,0x04,0,0,0,0,0,0,0,0,0],rfl⟩ true=
        .ok ⟨a2dpLdacVendorId,a2dpLdacCodecId,0x00,0x04⟩ ∧
      (a2dpBuildInfoLdac avdtMediaTypeAudio ⟨a2dpLdacVendorId,a2dpLdacCodecId,0x00,0x04⟩ CodecInfo.zero).1=
        a2dpInvalidParams :=
  ⟨rfl,rfl,rfl,rfl⟩

end BluetoothStack.A2dpCodecInfo
