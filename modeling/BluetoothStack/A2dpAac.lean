import BluetoothStack.ByteBuffer

/-!
# AAC codec negotiation (stack/a2dp/a2dp_aac.cc)

`A2dpCodecConfigAacBase::setCodecConfig` takes the peer's AAC codec information, parsed as a
capability or as a configuration, and builds the configuration both sides will use. Each of the
sample rate, the bits per sample and the channel mode is chosen by a cascade: the user's preference
when the peer shares it, and with no preference the audio config, the default config shared with the
peer, and the best value both sides have. The cascade updates `codec_config_`, `codec_capability_` and
`codec_selectable_capability_` as it goes, and a failure jumps to `fail`, which restores every field
saved on entry. On success the peer's element and the chosen one are built into the stored
over-the-air buffers, and both builds are CHECKed.

Codec information buffers are `uint8_t[AVDT_CODEC_SIZE]`; the codec's fields are the C widths. The
enumerations of `bt_av.h` are bit masks combined with `|=`, so they are numbers here. The fields of
`btav_a2dp_codec_config_t` that `setCodecConfig` neither reads nor writes (the codec type and its
priority) are left out.
-/

namespace BluetoothStack.A2dpAac

open ByteBuffer

/-! ### Constants -/

/-- `AVDT_CODEC_SIZE`. -/
def avdtCodecSize : ℕ := 20
/-- `AVDT_MEDIA_TYPE_AUDIO`. -/
def avdtMediaTypeAudio : UInt8 := 0
/-- `A2DP_MEDIA_CT_AAC`. -/
def a2dpMediaCtAac : UInt8 := 0x02
/-- `A2DP_AAC_CODEC_LEN`. -/
def a2dpAacCodecLen : UInt8 := 8

/-- `A2DP_AAC_OBJECT_TYPE_MPEG2_LC`. -/
def a2dpAacObjectTypeMpeg2Lc : UInt8 := 0x80
/-- `A2DP_AAC_SAMPLING_FREQ_MASK0`. -/
def a2dpAacSamplingFreqMask0 : UInt16 := 0xFF
/-- `A2DP_AAC_SAMPLING_FREQ_MASK1`. -/
def a2dpAacSamplingFreqMask1 : UInt16 := 0xF000
/-- `A2DP_AAC_SAMPLING_FREQ_44100`. -/
def a2dpAacSamplingFreq44100 : UInt16 := 0x01
/-- `A2DP_AAC_SAMPLING_FREQ_48000`. -/
def a2dpAacSamplingFreq48000 : UInt16 := 0x8000
/-- `A2DP_AAC_SAMPLING_FREQ_88200`. -/
def a2dpAacSamplingFreq88200 : UInt16 := 0x2000
/-- `A2DP_AAC_SAMPLING_FREQ_96000`. -/
def a2dpAacSamplingFreq96000 : UInt16 := 0x1000
/-- `A2DP_AAC_CHANNEL_MODE_MASK`. -/
def a2dpAacChannelModeMask : UInt8 := 0x0C
/-- `A2DP_AAC_CHANNEL_MODE_MONO`. -/
def a2dpAacChannelModeMono : UInt8 := 0x08
/-- `A2DP_AAC_CHANNEL_MODE_STEREO`. -/
def a2dpAacChannelModeStereo : UInt8 := 0x04
/-- `A2DP_AAC_VARIABLE_BIT_RATE_MASK`. -/
def a2dpAacVariableBitRateMask : UInt8 := 0x80
/-- `A2DP_AAC_VARIABLE_BIT_RATE_ENABLED`. -/
def a2dpAacVariableBitRateEnabled : UInt8 := 0x80
/-- `A2DP_AAC_VARIABLE_BIT_RATE_DISABLED`. -/
def a2dpAacVariableBitRateDisabled : UInt8 := 0x00
/-- `A2DP_AAC_BIT_RATE_MASK0`. -/
def a2dpAacBitRateMask0 : UInt32 := 0x7F0000
/-- `A2DP_AAC_BIT_RATE_MASK1`. -/
def a2dpAacBitRateMask1 : UInt32 := 0xFF00
/-- `A2DP_AAC_BIT_RATE_MASK2`. -/
def a2dpAacBitRateMask2 : UInt32 := 0xFF
/-- `A2DP_AAC_DEFAULT_BITRATE`. -/
def a2dpAacDefaultBitrate : UInt32 := 320000
/-- `A2DP_AAC_MIN_BITRATE`. -/
def a2dpAacMinBitrate : UInt32 := 64000

/-- `A2DP_SUCCESS`. -/
def a2dpSuccess : UInt8 := 0
/-- `A2DP_INVALID_PARAMS`. -/
def a2dpInvalidParams : UInt8 := 0x0C
/-- `A2DP_WRONG_CODEC`. -/
def a2dpWrongCodec : UInt8 := 0x0D
/-- `A2DP_BAD_SAMP_FREQ`. -/
def a2dpBadSampFreq : UInt8 := 0xC3
/-- `A2DP_BAD_CH_MODE`. -/
def a2dpBadChMode : UInt8 := 0xC5
/-- `A2DP_BAD_OBJ_TYPE`. -/
def a2dpBadObjType : UInt8 := 0xD6

/-- `A2DP_SET_ZERO_BIT`. -/
def a2dpSetZeroBit : ℕ := 0
/-- `A2DP_SET_ONE_BIT`. -/
def a2dpSetOneBit : ℕ := 1
/-- `A2DP_SET_MULTL_BIT`. -/
def a2dpSetMultlBit : ℕ := 2

/-- `A2DP_BitsSet`. -/
def a2dpBitsSet (num : ℕ) : ℕ :=
  if num=0 then a2dpSetZeroBit else if num &&& (num-1)=0 then a2dpSetOneBit else a2dpSetMultlBit

/-- `BTAV_A2DP_CODEC_SAMPLE_RATE_NONE`. -/
def btavSampleRateNone : ℕ := 0x0
/-- `BTAV_A2DP_CODEC_SAMPLE_RATE_44100`. -/
def btavSampleRate44100 : ℕ := 0x1
/-- `BTAV_A2DP_CODEC_SAMPLE_RATE_48000`. -/
def btavSampleRate48000 : ℕ := 0x2
/-- `BTAV_A2DP_CODEC_SAMPLE_RATE_88200`. -/
def btavSampleRate88200 : ℕ := 0x4
/-- `BTAV_A2DP_CODEC_SAMPLE_RATE_96000`. -/
def btavSampleRate96000 : ℕ := 0x8
/-- `BTAV_A2DP_CODEC_SAMPLE_RATE_176400`. -/
def btavSampleRate176400 : ℕ := 0x10
/-- `BTAV_A2DP_CODEC_SAMPLE_RATE_192000`. -/
def btavSampleRate192000 : ℕ := 0x20
/-- `BTAV_A2DP_CODEC_SAMPLE_RATE_16000`. -/
def btavSampleRate16000 : ℕ := 0x40
/-- `BTAV_A2DP_CODEC_SAMPLE_RATE_24000`. -/
def btavSampleRate24000 : ℕ := 0x80
/-- `BTAV_A2DP_CODEC_BITS_PER_SAMPLE_NONE`. -/
def btavBitsPerSampleNone : ℕ := 0x0
/-- `BTAV_A2DP_CODEC_BITS_PER_SAMPLE_16`. -/
def btavBitsPerSample16 : ℕ := 0x1
/-- `BTAV_A2DP_CODEC_BITS_PER_SAMPLE_24`. -/
def btavBitsPerSample24 : ℕ := 0x2
/-- `BTAV_A2DP_CODEC_BITS_PER_SAMPLE_32`. -/
def btavBitsPerSample32 : ℕ := 0x4
/-- `BTAV_A2DP_CODEC_CHANNEL_MODE_NONE`. -/
def btavChannelModeNone : ℕ := 0x0
/-- `BTAV_A2DP_CODEC_CHANNEL_MODE_MONO`. -/
def btavChannelModeMono : ℕ := 0x1
/-- `BTAV_A2DP_CODEC_CHANNEL_MODE_STEREO`. -/
def btavChannelModeStereo : ℕ := 0x2
/-- `BTAV_A2DP_CODEC_CHANNEL_MODE_DUAL_CHANNEL`. -/
def btavChannelModeDualChannel : ℕ := 0x4

/-! ### Data -/

/-- A codec information buffer, `uint8_t[AVDT_CODEC_SIZE]`. -/
structure CodecInfo where
  bytes : List UInt8
  length_eq : bytes.length=avdtCodecSize
  deriving DecidableEq

/-- The byte at `i`. -/
def CodecInfo.get (info : CodecInfo) (i : ℕ) : UInt8 := info.bytes.getD i 0

/-- The buffer with byte `i` replaced. -/
def CodecInfo.write (info : CodecInfo) (i : ℕ) (b : UInt8) : CodecInfo :=
  ⟨info.bytes.set i b,by rw [List.length_set,info.length_eq]⟩

theorem CodecInfo.get_write_self (info : CodecInfo) {i : ℕ} (b : UInt8) (h : i<avdtCodecSize) :
    (info.write i b).get i=b := by
  have hlen : i < info.bytes.length := info.length_eq ▸ h
  simp only [CodecInfo.get,CodecInfo.write,List.getD_eq_getElem?_getD,List.getElem?_set,if_true,if_pos hlen,
    Option.getD_some]

theorem CodecInfo.get_write_of_ne (info : CodecInfo) {i j : ℕ} (b : UInt8) (h : i≠j) :
    (info.write i b).get j=info.get j := by
  simp only [CodecInfo.get,CodecInfo.write,List.getD_eq_getElem?_getD,List.getElem?_set,if_neg h]

/-- `tA2DP_AAC_CIE`. -/
structure AacCie where
  objectType : UInt8
  sampleRate : UInt16
  channelMode : UInt8
  variableBitRateSupport : UInt8
  bitRate : UInt32
  bitsPerSample : ℕ
  deriving DecidableEq,Repr

/-- `btav_a2dp_codec_config_t`, the fields `setCodecConfig` reads or writes. -/
structure BtavCodecConfig where
  sampleRate : ℕ
  bitsPerSample : ℕ
  channelMode : ℕ
  codecSpecific1 : ℤ
  codecSpecific2 : ℤ
  codecSpecific3 : ℤ
  codecSpecific4 : ℤ
  deriving DecidableEq,Repr

/-- `a2dp_aac_source_caps`. -/
def a2dpAacSourceCaps : AacCie :=
  ⟨a2dpAacObjectTypeMpeg2Lc,a2dpAacSamplingFreq44100,a2dpAacChannelModeStereo,
    a2dpAacVariableBitRateDisabled,a2dpAacDefaultBitrate,btavBitsPerSample16⟩

/-- `a2dp_aac_sink_caps`. -/
def a2dpAacSinkCaps : AacCie :=
  ⟨a2dpAacObjectTypeMpeg2Lc,a2dpAacSamplingFreq44100 ||| a2dpAacSamplingFreq48000,
    a2dpAacChannelModeMono ||| a2dpAacChannelModeStereo,a2dpAacVariableBitRateEnabled,
    a2dpAacDefaultBitrate,btavBitsPerSample16⟩

/-- `a2dp_aac_default_config`. -/
def a2dpAacDefaultConfig : AacCie :=
  ⟨a2dpAacObjectTypeMpeg2Lc,a2dpAacSamplingFreq44100,a2dpAacChannelModeStereo,
    a2dpAacVariableBitRateDisabled,a2dpAacDefaultBitrate,btavBitsPerSample16⟩

/-! ### Parsing and building the codec information -/

/-- `A2DP_ParseInfoAac`: the peer's element or the status of the error. A capability is taken as
it is; a configuration must have exactly one object type, sample rate and channel mode. The parser
does not write the bits per sample, which no caller reads of a parsed element. -/
def a2dpParseInfoAac (codecInfo : CodecInfo) (isCapability : Bool) : Except UInt8 AacCie :=
  let losc := codecInfo.get 0
  if losc≠a2dpAacCodecLen then .error a2dpWrongCodec
  else
    let mediaType := codecInfo.get 1 >>> 4
    let codecType := codecInfo.get 2
    if mediaType≠avdtMediaTypeAudio ∨ codecType≠a2dpMediaCtAac then .error a2dpWrongCodec
    else
      let ie : AacCie := {
        objectType := codecInfo.get 3
        sampleRate := (codecInfo.get 4).toUInt16 &&& a2dpAacSamplingFreqMask0 |||
          (codecInfo.get 5).toUInt16 <<< 8 &&& a2dpAacSamplingFreqMask1
        channelMode := codecInfo.get 5 &&& a2dpAacChannelModeMask
        variableBitRateSupport := codecInfo.get 6 &&& a2dpAacVariableBitRateMask
        bitRate := (codecInfo.get 6).toUInt32 <<< 16 &&& a2dpAacBitRateMask0 |||
          (codecInfo.get 7).toUInt32 <<< 8 &&& a2dpAacBitRateMask1 |||
          (codecInfo.get 8).toUInt32 &&& a2dpAacBitRateMask2
        bitsPerSample := btavBitsPerSampleNone }
      if isCapability then .ok ie
      else if a2dpBitsSet ie.objectType.toNat≠a2dpSetOneBit then .error a2dpBadObjType
      else if a2dpBitsSet ie.sampleRate.toNat≠a2dpSetOneBit then .error a2dpBadSampFreq
      else if a2dpBitsSet ie.channelMode.toNat≠a2dpSetOneBit then .error a2dpBadChMode
      else .ok ie

/-- `A2DP_BuildInfoAac`: the status, and the buffer with the element written from its start. A zero
object type, sample rate or channel mode stops the writing with `A2DP_INVALID_PARAMS`, after the
bytes before it. -/
def a2dpBuildInfoAac (mediaType : UInt8) (ie : AacCie) (result : CodecInfo) : UInt8×CodecInfo :=
  let result := ((result.write 0 a2dpAacCodecLen).write 1 (mediaType <<< 4)).write 2 a2dpMediaCtAac
  if ie.objectType=0 then (a2dpInvalidParams,result)
  else
    let result := result.write 3 ie.objectType
    if ie.sampleRate=0 then (a2dpInvalidParams,result)
    else
      let result := (result.write 4 (ie.sampleRate &&& a2dpAacSamplingFreqMask0).toUInt8).write 5
        ((ie.sampleRate &&& a2dpAacSamplingFreqMask1) >>> 8).toUInt8
      if ie.channelMode=0 then (a2dpInvalidParams,result)
      else
        let result := result.write 5 (result.get 5 ||| ie.channelMode &&& a2dpAacChannelModeMask)
        let result := result.write 6 (ie.variableBitRateSupport &&& a2dpAacVariableBitRateMask)
        let result := result.write 6 (result.get 6 ||| ((ie.bitRate &&& a2dpAacBitRateMask0) >>> 16).toUInt8)
        let result := result.write 7 ((ie.bitRate &&& a2dpAacBitRateMask1) >>> 8).toUInt8
        let result := result.write 8 (ie.bitRate &&& a2dpAacBitRateMask2).toUInt8
        (a2dpSuccess,result)

/-- `A2DP_BuildInfoAac` succeeds exactly when the object type, the sample rate and the channel mode
are all nonzero. -/
theorem a2dpBuildInfoAac_status (mediaType : UInt8) (ie : AacCie) (result : CodecInfo) :
    (a2dpBuildInfoAac mediaType ie result).1=a2dpSuccess ↔ ie.objectType≠0 ∧ ie.sampleRate≠0 ∧ ie.channelMode≠0 := by
  unfold a2dpBuildInfoAac
  split_ifs with hobject hrate hmode
  · simp [hobject,a2dpInvalidParams,a2dpSuccess]
  · simp [hrate,a2dpInvalidParams,a2dpSuccess]
  · simp [hmode,a2dpInvalidParams,a2dpSuccess]
  · simp [hobject,hrate,hmode,a2dpSuccess]

/-! ### The selection helpers

Each returns the element and the config with its field chosen, or `none` when it chooses nothing,
in which case the C function writes nothing. -/

/-- `select_best_sample_rate`. -/
def selectBestSampleRate (sampleRate : UInt16) (result : AacCie) (config : BtavCodecConfig) :
    Option (AacCie×BtavCodecConfig) :=
  if sampleRate &&& a2dpAacSamplingFreq96000≠0 then
    some ({result with sampleRate := a2dpAacSamplingFreq96000},{config with sampleRate := btavSampleRate96000})
  else if sampleRate &&& a2dpAacSamplingFreq88200≠0 then
    some ({result with sampleRate := a2dpAacSamplingFreq88200},{config with sampleRate := btavSampleRate88200})
  else if sampleRate &&& a2dpAacSamplingFreq48000≠0 then
    some ({result with sampleRate := a2dpAacSamplingFreq48000},{config with sampleRate := btavSampleRate48000})
  else if sampleRate &&& a2dpAacSamplingFreq44100≠0 then
    some ({result with sampleRate := a2dpAacSamplingFreq44100},{config with sampleRate := btavSampleRate44100})
  else none

/-- The rate of `select_audio_sample_rate` and of the user preference: the AAC bit of a
`btav` sample rate the codec supports. -/
def aacSampleRateOf (sampleRate : ℕ) : Option UInt16 :=
  if sampleRate=btavSampleRate44100 then some a2dpAacSamplingFreq44100
  else if sampleRate=btavSampleRate48000 then some a2dpAacSamplingFreq48000
  else if sampleRate=btavSampleRate88200 then some a2dpAacSamplingFreq88200
  else if sampleRate=btavSampleRate96000 then some a2dpAacSamplingFreq96000
  else none

/-- `select_audio_sample_rate`: the audio config's rate when the capability has it. -/
def selectAudioSampleRate (audio : BtavCodecConfig) (sampleRate : UInt16) (result : AacCie)
    (config : BtavCodecConfig) : Option (AacCie×BtavCodecConfig) :=
  match aacSampleRateOf audio.sampleRate with
  | some aac =>
    if sampleRate &&& aac≠0 then some ({result with sampleRate := aac},{config with sampleRate := audio.sampleRate})
    else none
  | none => none

/-- `select_best_bits_per_sample`. -/
def selectBestBitsPerSample (bitsPerSample : ℕ) (result : AacCie) (config : BtavCodecConfig) :
    Option (AacCie×BtavCodecConfig) :=
  if bitsPerSample &&& btavBitsPerSample32≠0 then
    some ({result with bitsPerSample := btavBitsPerSample32},{config with bitsPerSample := btavBitsPerSample32})
  else if bitsPerSample &&& btavBitsPerSample24≠0 then
    some ({result with bitsPerSample := btavBitsPerSample24},{config with bitsPerSample := btavBitsPerSample24})
  else if bitsPerSample &&& btavBitsPerSample16≠0 then
    some ({result with bitsPerSample := btavBitsPerSample16},{config with bitsPerSample := btavBitsPerSample16})
  else none

/-- `select_audio_bits_per_sample`: the audio config's bits per sample when the capability has
them. -/
def selectAudioBitsPerSample (audio : BtavCodecConfig) (bitsPerSample : ℕ) (result : AacCie)
    (config : BtavCodecConfig) : Option (AacCie×BtavCodecConfig) :=
  if (audio.bitsPerSample=btavBitsPerSample16 ∨ audio.bitsPerSample=btavBitsPerSample24 ∨
      audio.bitsPerSample=btavBitsPerSample32) ∧ bitsPerSample &&& audio.bitsPerSample≠0 then
    some ({result with bitsPerSample := audio.bitsPerSample},{config with bitsPerSample := audio.bitsPerSample})
  else none

/-- `select_best_channel_mode`. -/
def selectBestChannelMode (channelMode : UInt8) (result : AacCie) (config : BtavCodecConfig) :
    Option (AacCie×BtavCodecConfig) :=
  if channelMode &&& a2dpAacChannelModeStereo≠0 then
    some ({result with channelMode := a2dpAacChannelModeStereo},{config with channelMode := btavChannelModeStereo})
  else if channelMode &&& a2dpAacChannelModeMono≠0 then
    some ({result with channelMode := a2dpAacChannelModeMono},{config with channelMode := btavChannelModeMono})
  else none

/-- The channel mode of `select_audio_channel_mode` and of the user preference: the AAC bit of a
`btav` channel mode the codec supports. -/
def aacChannelModeOf (channelMode : ℕ) : Option UInt8 :=
  if channelMode=btavChannelModeMono then some a2dpAacChannelModeMono
  else if channelMode=btavChannelModeStereo then some a2dpAacChannelModeStereo
  else none

/-- `select_audio_channel_mode`: the audio config's channel mode when the capability has it. -/
def selectAudioChannelMode (audio : BtavCodecConfig) (channelMode : UInt8) (result : AacCie)
    (config : BtavCodecConfig) : Option (AacCie×BtavCodecConfig) :=
  match aacChannelModeOf audio.channelMode with
  | some aac =>
    if channelMode &&& aac≠0 then some ({result with channelMode := aac},{config with channelMode := audio.channelMode})
    else none
  | none => none

/-! ### `setCodecConfig` -/

/-- What `setCodecConfig` chooses as it goes: the element it builds and the three configs it
updates. -/
structure Negotiation where
  result : AacCie
  config : BtavCodecConfig
  capability : BtavCodecConfig
  selectable : BtavCodecConfig

/-- A choice made by a selection helper. -/
def Negotiation.choose (n : Negotiation) : Option (AacCie×BtavCodecConfig) → Negotiation
  | some (result,config) => {n with result,config}
  | none => n

/-- The `btav` sample rates of the AAC rates in `sampleRate`, as the loop ors them in. -/
def btavSampleRates (sampleRate : UInt16) : ℕ :=
  (if sampleRate &&& a2dpAacSamplingFreq44100≠0 then btavSampleRate44100 else 0) |||
    (if sampleRate &&& a2dpAacSamplingFreq48000≠0 then btavSampleRate48000 else 0) |||
    (if sampleRate &&& a2dpAacSamplingFreq88200≠0 then btavSampleRate88200 else 0) |||
    (if sampleRate &&& a2dpAacSamplingFreq96000≠0 then btavSampleRate96000 else 0)

/-- The `switch` on the user's sample rate: a supported rate the capability has is taken, an
unsupported one clears the choice, and a value that is no case leaves it. -/
def userSampleRate (user : BtavCodecConfig) (sampleRate : UInt16) (n : Negotiation) : Negotiation :=
  match aacSampleRateOf user.sampleRate with
  | some aac =>
    if sampleRate &&& aac≠0 then
      {n with
        result := {n.result with sampleRate := aac}
        capability := {n.capability with sampleRate := user.sampleRate}
        config := {n.config with sampleRate := user.sampleRate}}
    else n
  | none =>
    if user.sampleRate=btavSampleRate176400 ∨ user.sampleRate=btavSampleRate192000 ∨
        user.sampleRate=btavSampleRate16000 ∨ user.sampleRate=btavSampleRate24000 ∨
        user.sampleRate=btavSampleRateNone then
      {n with
        capability := {n.capability with sampleRate := btavSampleRateNone}
        config := {n.config with sampleRate := btavSampleRateNone}}
    else n

/-- The sample rate stage of `setCodecConfig`. -/
def selectSampleRate (caps peer : AacCie) (user audio : BtavCodecConfig) (n : Negotiation) : Negotiation :=
  let sampleRate := caps.sampleRate &&& peer.sampleRate
  let n := userSampleRate user sampleRate {n with config := {n.config with sampleRate := btavSampleRateNone}}
  let n := {n with selectable := {n.selectable with sampleRate := n.selectable.sampleRate ||| btavSampleRates sampleRate}}
  if n.config.sampleRate≠btavSampleRateNone then n
  else
    let n := {n with capability := {n.capability with sampleRate := n.capability.sampleRate ||| btavSampleRates sampleRate}}
    n.choose (selectAudioSampleRate audio sampleRate n.result n.config <|>
      selectBestSampleRate (a2dpAacDefaultConfig.sampleRate &&& peer.sampleRate) n.result n.config <|>
      selectBestSampleRate sampleRate n.result n.config)

/-- The `switch` on the user's bits per sample. -/
def userBitsPerSample (user : BtavCodecConfig) (bitsPerSample : ℕ) (n : Negotiation) : Negotiation :=
  if user.bitsPerSample=btavBitsPerSample16 ∨ user.bitsPerSample=btavBitsPerSample24 ∨
      user.bitsPerSample=btavBitsPerSample32 then
    if bitsPerSample &&& user.bitsPerSample≠0 then
      {n with
        result := {n.result with bitsPerSample := user.bitsPerSample}
        capability := {n.capability with bitsPerSample := user.bitsPerSample}
        config := {n.config with bitsPerSample := user.bitsPerSample}}
    else n
  else if user.bitsPerSample=btavBitsPerSampleNone then
    {n with
      result := {n.result with bitsPerSample := btavBitsPerSampleNone}
      capability := {n.capability with bitsPerSample := btavBitsPerSampleNone}
      config := {n.config with bitsPerSample := btavBitsPerSampleNone}}
  else n

/-- The bits per sample stage of `setCodecConfig`; the capability alone decides it. -/
def selectBitsPerSample (caps : AacCie) (user audio : BtavCodecConfig) (n : Negotiation) : Negotiation :=
  let bitsPerSample := caps.bitsPerSample
  let n := userBitsPerSample user bitsPerSample {n with config := {n.config with bitsPerSample := btavBitsPerSampleNone}}
  let n := {n with selectable := {n.selectable with bitsPerSample := caps.bitsPerSample}}
  if n.config.bitsPerSample≠btavBitsPerSampleNone then n
  else
    let n := {n with capability := {n.capability with bitsPerSample := bitsPerSample}}
    n.choose (selectAudioBitsPerSample audio caps.bitsPerSample n.result n.config <|>
      selectBestBitsPerSample a2dpAacDefaultConfig.bitsPerSample n.result n.config <|>
      selectBestBitsPerSample caps.bitsPerSample n.result n.config)

/-- The `btav` channel modes of the AAC modes in `channelMode`, as the loop ors them in. -/
def btavChannelModes (channelMode : UInt8) : ℕ :=
  (if channelMode &&& a2dpAacChannelModeMono≠0 then btavChannelModeMono else 0) |||
    (if channelMode &&& a2dpAacChannelModeStereo≠0 then btavChannelModeStereo else 0)

/-- The `switch` on the user's channel mode. -/
def userChannelMode (user : BtavCodecConfig) (channelMode : UInt8) (n : Negotiation) : Negotiation :=
  match aacChannelModeOf user.channelMode with
  | some aac =>
    if channelMode &&& aac≠0 then
      {n with
        result := {n.result with channelMode := aac}
        capability := {n.capability with channelMode := user.channelMode}
        config := {n.config with channelMode := user.channelMode}}
    else n
  | none =>
    if user.channelMode=btavChannelModeDualChannel ∨ user.channelMode=btavChannelModeNone then
      {n with
        capability := {n.capability with channelMode := btavChannelModeNone}
        config := {n.config with channelMode := btavChannelModeNone}}
    else n

/-- The channel mode stage of `setCodecConfig`. -/
def selectChannelMode (caps peer : AacCie) (user audio : BtavCodecConfig) (n : Negotiation) : Negotiation :=
  let channelMode := caps.channelMode &&& peer.channelMode
  let n := userChannelMode user channelMode {n with config := {n.config with channelMode := btavChannelModeNone}}
  let n := {n with selectable := {n.selectable with channelMode := n.selectable.channelMode ||| btavChannelModes channelMode}}
  if n.config.channelMode≠btavChannelModeNone then n
  else
    let n := {n with capability := {n.capability with channelMode := n.capability.channelMode ||| btavChannelModes channelMode}}
    n.choose (selectAudioChannelMode audio channelMode n.result n.config <|>
      selectBestChannelMode (a2dpAacDefaultConfig.channelMode &&& peer.channelMode) n.result n.config <|>
      selectBestChannelMode channelMode n.result n.config)

/-- The state of an `A2dpCodecConfigAacBase` that `setCodecConfig` reads or writes. -/
structure AacCodecState where
  /-- `is_source_`. -/
  isSource : Bool
  /-- `codec_config_`. -/
  codecConfig : BtavCodecConfig
  /-- `codec_capability_`. -/
  codecCapability : BtavCodecConfig
  /-- `codec_selectable_capability_`. -/
  codecSelectableCapability : BtavCodecConfig
  /-- `codec_user_config_`. -/
  codecUserConfig : BtavCodecConfig
  /-- `codec_audio_config_`. -/
  codecAudioConfig : BtavCodecConfig
  /-- `ota_codec_config_`. -/
  otaCodecConfig : CodecInfo
  /-- `ota_codec_peer_capability_`. -/
  otaCodecPeerCapability : CodecInfo
  /-- `ota_codec_peer_config_`. -/
  otaCodecPeerConfig : CodecInfo

/-- `init_btav_a2dp_codec_config`: the config cleared, on the fields modelled. -/
def initBtavA2dpCodecConfig : BtavCodecConfig := ⟨btavSampleRateNone,btavBitsPerSampleNone,btavChannelModeNone,0,0,0,0⟩

/-- A buffer cleared by `memset`. -/
def CodecInfo.zero : CodecInfo := ⟨List.replicate avdtCodecSize 0,List.length_replicate⟩

/-- The state the `A2dpCodecConfig` constructor leaves: every config cleared, every stored buffer
zero. -/
def AacCodecState.init (isSource : Bool) : AacCodecState :=
  ⟨isSource,initBtavA2dpCodecConfig,initBtavA2dpCodecConfig,initBtavA2dpCodecConfig,initBtavA2dpCodecConfig,
    initBtavA2dpCodecConfig,CodecInfo.zero,CodecInfo.zero,CodecInfo.zero⟩

/-- The local capability: `a2dp_aac_source_caps` for a source, `a2dp_aac_sink_caps` for a sink. -/
def aacCaps (isSource : Bool) : AacCie := if isSource then a2dpAacSourceCaps else a2dpAacSinkCaps

/-- A codec-specific field of the user config replaces the chosen one when it is not zero. -/
def copyCodecSpecific (user config : ℤ) : ℤ := if user≠0 then user else config

/-- `A2dpCodecConfigAacBase::setCodecConfig`: the returned flag, the state after the call and the
caller's `p_result_codec_config`; a failing CHECK is a fault. `goto fail` restores every saved
field, so the state is the one the call started from, while `p_result_codec_config` keeps what was
written to it. -/
def setCodecConfig (s : AacCodecState) (peerCodecInfo : CodecInfo) (isCapability : Bool)
    (resultCodecConfig : CodecInfo) : Except Fault (Bool×AacCodecState×CodecInfo) :=
  let caps := aacCaps s.isSource
  match a2dpParseInfoAac peerCodecInfo isCapability with
  | .error _ => .ok (false,s,resultCodecConfig)
  | .ok peer =>
    -- `result_config_cie` is cleared, then gets the object type, the variable bit rate and the bit rate
    let result : AacCie := {
      objectType := caps.objectType
      sampleRate := 0
      channelMode := 0
      variableBitRateSupport := caps.variableBitRateSupport &&& peer.variableBitRateSupport
      bitRate := if peer.bitRate<a2dpAacMinBitrate then caps.bitRate else min caps.bitRate peer.bitRate
      bitsPerSample := btavBitsPerSampleNone }
    let n := selectSampleRate caps peer s.codecUserConfig s.codecAudioConfig
      ⟨result,s.codecConfig,s.codecCapability,s.codecSelectableCapability⟩
    if n.config.sampleRate=btavSampleRateNone then .ok (false,s,resultCodecConfig)
    else
      let n := selectBitsPerSample caps s.codecUserConfig s.codecAudioConfig n
      if n.config.bitsPerSample=btavBitsPerSampleNone then .ok (false,s,resultCodecConfig)
      else
        let n := selectChannelMode caps peer s.codecUserConfig s.codecAudioConfig n
        if n.config.channelMode=btavChannelModeNone then .ok (false,s,resultCodecConfig)
        else
          let (status,resultCodecConfig) := a2dpBuildInfoAac avdtMediaTypeAudio n.result resultCodecConfig
          if status≠a2dpSuccess then .ok (false,s,resultCodecConfig)
          else
            let user := s.codecUserConfig
            let config := {n.config with
              codecSpecific1 := copyCodecSpecific user.codecSpecific1 n.config.codecSpecific1
              codecSpecific2 := copyCodecSpecific user.codecSpecific2 n.config.codecSpecific2
              codecSpecific3 := copyCodecSpecific user.codecSpecific3 n.config.codecSpecific3
              codecSpecific4 := copyCodecSpecific user.codecSpecific4 n.config.codecSpecific4 }
            -- the peer's element goes to the stored capability or configuration, under a CHECK
            let (status,peerCapability,peerConfig) :=
              if isCapability then
                let (status,peerCapability) := a2dpBuildInfoAac avdtMediaTypeAudio peer s.otaCodecPeerCapability
                (status,peerCapability,s.otaCodecPeerConfig)
              else
                let (status,peerConfig) := a2dpBuildInfoAac avdtMediaTypeAudio peer s.otaCodecPeerConfig
                (status,s.otaCodecPeerCapability,peerConfig)
            if status≠a2dpSuccess then .error .checkFailed
            else
              let (status,otaCodecConfig) := a2dpBuildInfoAac avdtMediaTypeAudio n.result s.otaCodecConfig
              if status≠a2dpSuccess then .error .checkFailed
              else
                .ok (true,{s with
                  codecConfig := config
                  codecCapability := n.capability
                  codecSelectableCapability := n.selectable
                  otaCodecConfig
                  otaCodecPeerCapability := peerCapability
                  otaCodecPeerConfig := peerConfig},resultCodecConfig)

/-! ### What each selection writes

Every helper and every stage of the cascade writes one field of the element, and a field it chooses
is a nonzero AAC bit. -/

section Selection

variable {result r : AacCie} {config c : BtavCodecConfig}

theorem aacSampleRateOf_spec {rate : ℕ} {aac : UInt16} (h : aacSampleRateOf rate=some aac) :
    aac≠0 ∧ rate≠btavSampleRateNone := by
  unfold aacSampleRateOf at h
  split_ifs at h with h1 h2 h3 h4 <;> cases h
  · exact ⟨by decide,by rw [h1]; decide⟩
  · exact ⟨by decide,by rw [h2]; decide⟩
  · exact ⟨by decide,by rw [h3]; decide⟩
  · exact ⟨by decide,by rw [h4]; decide⟩

theorem aacChannelModeOf_spec {mode : ℕ} {aac : UInt8} (h : aacChannelModeOf mode=some aac) :
    aac≠0 ∧ mode≠btavChannelModeNone := by
  unfold aacChannelModeOf at h
  split_ifs at h with h1 h2 <;> cases h
  · exact ⟨by decide,by rw [h1]; decide⟩
  · exact ⟨by decide,by rw [h2]; decide⟩

/-- A sample rate chosen by a helper: a nonzero AAC rate in the element, a `btav` rate in the
config, and the rest of the element as it was. -/
def SampleRateChoice (result : AacCie) : AacCie×BtavCodecConfig → Prop
  | (r,c) => r={result with sampleRate := r.sampleRate} ∧ r.sampleRate≠0 ∧ c.sampleRate≠btavSampleRateNone

/-- A channel mode chosen by a helper. -/
def ChannelModeChoice (result : AacCie) : AacCie×BtavCodecConfig → Prop
  | (r,c) => r={result with channelMode := r.channelMode} ∧ r.channelMode≠0 ∧ c.channelMode≠btavChannelModeNone

/-- A bits per sample chosen by a helper. -/
def BitsPerSampleChoice (result : AacCie) : AacCie×BtavCodecConfig → Prop
  | (r,c) => r={result with bitsPerSample := r.bitsPerSample} ∧ c.bitsPerSample≠btavBitsPerSampleNone

theorem selectBestSampleRate_spec {rate : UInt16} {x : AacCie×BtavCodecConfig}
    (h : selectBestSampleRate rate result config=some x) : SampleRateChoice result x := by
  unfold selectBestSampleRate at h
  split_ifs at h <;> cases h <;> exact ⟨rfl,by dsimp only; decide,by dsimp only; decide⟩

theorem selectAudioSampleRate_spec {rate : UInt16} {x : AacCie×BtavCodecConfig}
    (h : selectAudioSampleRate audio rate result config=some x) : SampleRateChoice result x := by
  unfold selectAudioSampleRate at h
  split at h
  · next aac haac =>
    split_ifs at h
    cases h
    exact ⟨rfl,(aacSampleRateOf_spec haac).1,(aacSampleRateOf_spec haac).2⟩
  · cases h

theorem selectBestChannelMode_spec {mode : UInt8} {x : AacCie×BtavCodecConfig}
    (h : selectBestChannelMode mode result config=some x) : ChannelModeChoice result x := by
  unfold selectBestChannelMode at h
  split_ifs at h <;> cases h <;> exact ⟨rfl,by dsimp only; decide,by dsimp only; decide⟩

theorem selectAudioChannelMode_spec {mode : UInt8} {x : AacCie×BtavCodecConfig}
    (h : selectAudioChannelMode audio mode result config=some x) : ChannelModeChoice result x := by
  unfold selectAudioChannelMode at h
  split at h
  · next aac haac =>
    split_ifs at h
    cases h
    exact ⟨rfl,(aacChannelModeOf_spec haac).1,(aacChannelModeOf_spec haac).2⟩
  · cases h

theorem selectBestBitsPerSample_spec {bits : ℕ} {x : AacCie×BtavCodecConfig}
    (h : selectBestBitsPerSample bits result config=some x) : BitsPerSampleChoice result x := by
  unfold selectBestBitsPerSample at h
  split_ifs at h <;> cases h <;> exact ⟨rfl,by dsimp only; decide⟩

theorem selectAudioBitsPerSample_spec {bits : ℕ} {x : AacCie×BtavCodecConfig}
    (h : selectAudioBitsPerSample audio bits result config=some x) : BitsPerSampleChoice result x := by
  unfold selectAudioBitsPerSample at h
  split_ifs at h with haudio
  cases h
  refine ⟨rfl,?_⟩
  rcases haudio.1 with h16 | h24 | h32
  · rw [h16]; decide
  · rw [h24]; decide
  · rw [h32]; decide

/-- A rate with the 44.1 kHz bit has a best rate. -/
theorem selectBestSampleRate_ne_none {rate : UInt16} (h : rate &&& a2dpAacSamplingFreq44100≠0) :
    selectBestSampleRate rate result config≠none := by
  unfold selectBestSampleRate
  split_ifs <;> simp_all

/-- A channel mode with the stereo bit has a best mode. -/
theorem selectBestChannelMode_ne_none {mode : UInt8} (h : mode &&& a2dpAacChannelModeStereo≠0) :
    selectBestChannelMode mode result config≠none := by
  unfold selectBestChannelMode
  rw [if_pos h]
  exact Option.some_ne_none _

/-- The default config's 16 bits per sample are always a choice. -/
theorem selectBestBitsPerSample_default_ne_none :
    selectBestBitsPerSample a2dpAacDefaultConfig.bitsPerSample result config≠none :=
  Option.some_ne_none _

end Selection

/-! ### The three stages -/

section Stages

variable {caps peer : AacCie} {user audio : BtavCodecConfig} {n : Negotiation}

/-- What one alternative of a cascade guarantees, the cascade does. -/
theorem orElse_spec {α : Type} {Q : α → Prop} {o o' : Option α} (h : ∀ x,o=some x → Q x)
    (h' : ∀ x,o'=some x → Q x) : ∀ x,(o <|> o')=some x → Q x := by
  intro x hx
  rcases (Option.orElse_eq_some o o' x).mp hx with hx | ⟨-,hx⟩
  · exact h x hx
  · exact h' x hx

/-- A cascade with an alternative that returns, returns. -/
theorem orElse_ne_none {α : Type} {o o' : Option α} (h : o≠none ∨ o'≠none) : (o <|> o')≠none := by
  rw [Ne,Option.orElse_eq_none]
  rintro ⟨ho,ho'⟩
  rcases h with h | h
  · exact h ho
  · exact h ho'

theorem choose_some (r : AacCie) (c : BtavCodecConfig) :
    n.choose (some (r,c))={n with result := r,config := c} := rfl

/-- The sample rate stage writes the element's rate and nothing else of it, and a rate it has
chosen is in the element. -/
def SampleRateStage (result : AacCie) (m : Negotiation) : Prop :=
  m.result={result with sampleRate := m.result.sampleRate} ∧
    (m.config.sampleRate≠btavSampleRateNone → m.result.sampleRate≠0)

/-- The channel mode stage writes the element's channel mode and nothing else of it, and a mode it
has chosen is in the element. -/
def ChannelModeStage (result : AacCie) (m : Negotiation) : Prop :=
  m.result={result with channelMode := m.result.channelMode} ∧
    (m.config.channelMode≠btavChannelModeNone → m.result.channelMode≠0)

theorem userSampleRate_spec {rate : UInt16} (hnone : n.config.sampleRate=btavSampleRateNone) :
    SampleRateStage n.result (userSampleRate user rate n) := by
  unfold userSampleRate SampleRateStage
  split
  · next aac haac =>
    split_ifs
    · exact ⟨rfl,fun _ => (aacSampleRateOf_spec haac).1⟩
    · exact ⟨rfl,fun h => absurd hnone h⟩
  · split_ifs
    · exact ⟨rfl,fun h => absurd rfl h⟩
    · exact ⟨rfl,fun h => absurd hnone h⟩

theorem userChannelMode_spec {mode : UInt8} (hnone : n.config.channelMode=btavChannelModeNone) :
    ChannelModeStage n.result (userChannelMode user mode n) := by
  unfold userChannelMode ChannelModeStage
  split
  · next aac haac =>
    split_ifs
    · exact ⟨rfl,fun _ => (aacChannelModeOf_spec haac).1⟩
    · exact ⟨rfl,fun h => absurd hnone h⟩
  · split_ifs
    · exact ⟨rfl,fun h => absurd rfl h⟩
    · exact ⟨rfl,fun h => absurd hnone h⟩

/-- A rate chosen by the cascade keeps the stage's description. -/
theorem sampleRateStage_choose {result : AacCie} {m : Negotiation} (hm : SampleRateStage result m)
    {o : Option (AacCie×BtavCodecConfig)} (ho : ∀ x,o=some x → SampleRateChoice m.result x) :
    SampleRateStage result (m.choose o) := by
  cases o with
  | none => exact hm
  | some x =>
    obtain ⟨r,c⟩ := x
    obtain ⟨hr,hrate,-⟩ := ho (r,c) rfl
    refine ⟨?_,fun _ => hrate⟩
    rw [choose_some,hr,hm.1]

/-- A mode chosen by the cascade keeps the stage's description. -/
theorem channelModeStage_choose {result : AacCie} {m : Negotiation} (hm : ChannelModeStage result m)
    {o : Option (AacCie×BtavCodecConfig)} (ho : ∀ x,o=some x → ChannelModeChoice m.result x) :
    ChannelModeStage result (m.choose o) := by
  cases o with
  | none => exact hm
  | some x =>
    obtain ⟨r,c⟩ := x
    obtain ⟨hr,hmode,-⟩ := ho (r,c) rfl
    refine ⟨?_,fun _ => hmode⟩
    rw [choose_some,hr,hm.1]

/-- A cascade that returns sets the config to what its alternative chose. -/
theorem choose_config {P : BtavCodecConfig → Prop} {o : Option (AacCie×BtavCodecConfig)} (hne : o≠none)
    (ho : ∀ x,o=some x → P x.2) : P (n.choose o).config := by
  obtain ⟨x,rfl⟩ := Option.ne_none_iff_exists'.mp hne
  exact ho x rfl

theorem selectSampleRate_spec : SampleRateStage n.result (selectSampleRate caps peer user audio n) := by
  have hu : SampleRateStage n.result (userSampleRate user (caps.sampleRate &&& peer.sampleRate)
      {n with config := {n.config with sampleRate := btavSampleRateNone}}) := userSampleRate_spec rfl
  unfold selectSampleRate
  dsimp only
  split_ifs with hset
  · exact hu
  · -- the audio config, then the default config shared with the peer, then the best shared rate
    refine sampleRateStage_choose ?_ ?_
    · exact hu
    · exact orElse_spec (fun _ hx => selectAudioSampleRate_spec hx)
        (orElse_spec (fun _ hx => selectBestSampleRate_spec hx) (fun _ hx => selectBestSampleRate_spec hx))

theorem selectChannelMode_spec : ChannelModeStage n.result (selectChannelMode caps peer user audio n) := by
  have hu : ChannelModeStage n.result (userChannelMode user (caps.channelMode &&& peer.channelMode)
      {n with config := {n.config with channelMode := btavChannelModeNone}}) := userChannelMode_spec rfl
  unfold selectChannelMode
  dsimp only
  split_ifs with hset
  · exact hu
  · refine channelModeStage_choose ?_ ?_
    · exact hu
    · exact orElse_spec (fun _ hx => selectAudioChannelMode_spec hx)
        (orElse_spec (fun _ hx => selectBestChannelMode_spec hx) (fun _ hx => selectBestChannelMode_spec hx))

theorem selectSampleRate_chosen (h : caps.sampleRate &&& peer.sampleRate &&& a2dpAacSamplingFreq44100≠0) :
    (selectSampleRate caps peer user audio n).config.sampleRate≠btavSampleRateNone := by
  unfold selectSampleRate
  dsimp only
  split_ifs with hset
  · exact hset
  · -- the best shared rate always answers, so the cascade does
    refine choose_config (P := fun c => c.sampleRate≠btavSampleRateNone) ?_ ?_
    · exact orElse_ne_none (.inr (orElse_ne_none (.inr (selectBestSampleRate_ne_none h))))
    · exact orElse_spec (fun _ hx => (selectAudioSampleRate_spec hx).2.2)
        (orElse_spec (fun _ hx => (selectBestSampleRate_spec hx).2.2) (fun _ hx => (selectBestSampleRate_spec hx).2.2))

theorem selectChannelMode_chosen (h : caps.channelMode &&& peer.channelMode &&& a2dpAacChannelModeStereo≠0) :
    (selectChannelMode caps peer user audio n).config.channelMode≠btavChannelModeNone := by
  unfold selectChannelMode
  dsimp only
  split_ifs with hset
  · exact hset
  · refine choose_config (P := fun c => c.channelMode≠btavChannelModeNone) ?_ ?_
    · exact orElse_ne_none (.inr (orElse_ne_none (.inr (selectBestChannelMode_ne_none h))))
    · exact orElse_spec (fun _ hx => (selectAudioChannelMode_spec hx).2.2)
        (orElse_spec (fun _ hx => (selectBestChannelMode_spec hx).2.2) (fun _ hx => (selectBestChannelMode_spec hx).2.2))

theorem userBitsPerSample_result {bits : ℕ} :
    (userBitsPerSample user bits n).result={n.result with bitsPerSample := (userBitsPerSample user bits n).result.bitsPerSample} := by
  unfold userBitsPerSample
  split_ifs <;> rfl

/-- The bits per sample stage writes the element's bits per sample and nothing else of it, and it
always chooses: the default config's 16 bits are its second alternative. -/
def BitsPerSampleStage (result : AacCie) (m : Negotiation) : Prop :=
  m.result={result with bitsPerSample := m.result.bitsPerSample} ∧ m.config.bitsPerSample≠btavBitsPerSampleNone

/-- Bits chosen by a cascade that returns complete the stage. -/
theorem bitsPerSampleStage_choose {result : AacCie} {m : Negotiation}
    (hm : m.result={result with bitsPerSample := m.result.bitsPerSample})
    {o : Option (AacCie×BtavCodecConfig)} (hne : o≠none) (ho : ∀ x,o=some x → BitsPerSampleChoice m.result x) :
    BitsPerSampleStage result (m.choose o) := by
  obtain ⟨⟨r,c⟩,rfl⟩ := Option.ne_none_iff_exists'.mp hne
  obtain ⟨hr,hbits⟩ := ho (r,c) rfl
  refine ⟨?_,hbits⟩
  rw [choose_some,hr,hm]

theorem selectBitsPerSample_spec : BitsPerSampleStage n.result (selectBitsPerSample caps user audio n) := by
  have hu := @userBitsPerSample_result user {n with config := {n.config with bitsPerSample := btavBitsPerSampleNone}}
    caps.bitsPerSample
  unfold selectBitsPerSample
  dsimp only
  split_ifs with hset
  · exact ⟨hu,hset⟩
  · refine bitsPerSampleStage_choose ?_ ?_ ?_
    · exact hu
    · exact orElse_ne_none (.inr (orElse_ne_none (.inl selectBestBitsPerSample_default_ne_none)))
    · exact orElse_spec (fun _ hx => selectAudioBitsPerSample_spec hx)
        (orElse_spec (fun _ hx => selectBestBitsPerSample_spec hx) (fun _ hx => selectBestBitsPerSample_spec hx))

end Stages

/-- A false return restores every field saved on entry: the state is the one the call started
from. -/
theorem setCodecConfig_of_false {s s' : AacCodecState} {peerCodecInfo resultCodecConfig result' : CodecInfo}
    {isCapability : Bool} (h : setCodecConfig s peerCodecInfo isCapability resultCodecConfig=.ok (false,s',result')) :
    s'=s := by
  unfold setCodecConfig at h
  split at h
  · cases h
    rfl
  · simp only at h
    split_ifs at h <;> cases h <;> rfl

/-! ### The capability CHECK -/

section Stages

variable {caps peer : AacCie} {user audio : BtavCodecConfig} {n : Negotiation}

/-- From a negotiation whose element has an object type, a peer that shares 44.1 kHz and stereo with
the capability gets an element that `A2DP_BuildInfoAac` builds. -/
theorem stages_build (h44 : caps.sampleRate &&& peer.sampleRate &&& a2dpAacSamplingFreq44100≠0)
    (hstereo : caps.channelMode &&& peer.channelMode &&& a2dpAacChannelModeStereo≠0)
    (hobject : n.result.objectType≠0) (mediaType : UInt8) (result : CodecInfo) :
    (a2dpBuildInfoAac mediaType (selectChannelMode caps peer user audio
      (selectBitsPerSample caps user audio (selectSampleRate caps peer user audio n))).result result).1=a2dpSuccess := by
  -- the three stages in order, each with what it writes
  set n₁ := selectSampleRate caps peer user audio n
  set n₂ := selectBitsPerSample caps user audio n₁
  set n₃ := selectChannelMode caps peer user audio n₂
  have h₁ : SampleRateStage n.result n₁ := selectSampleRate_spec
  have h₂ : BitsPerSampleStage n₁.result n₂ := selectBitsPerSample_spec
  have h₃ : ChannelModeStage n₂.result n₃ := selectChannelMode_spec
  rw [a2dpBuildInfoAac_status]
  refine ⟨?_,?_,?_⟩
  · rw [h₃.1,h₂.1,h₁.1]
    exact hobject
  · rw [h₃.1,h₂.1]
    exact h₁.2 (selectSampleRate_chosen h44)
  · exact h₃.2 (selectChannelMode_chosen hstereo)

end Stages

theorem aacCaps_objectType (isSource : Bool) : (aacCaps isSource).objectType=a2dpAacObjectTypeMpeg2Lc := by
  cases isSource <;> rfl

/-- Both local capabilities have 44.1 kHz. -/
theorem aacCaps_sampleRate (isSource : Bool) :
    (aacCaps isSource).sampleRate &&& a2dpAacSamplingFreq44100=a2dpAacSamplingFreq44100 := by
  cases isSource <;> decide

/-- Both local capabilities have stereo. -/
theorem aacCaps_channelMode (isSource : Bool) :
    (aacCaps isSource).channelMode &&& a2dpAacChannelModeStereo=a2dpAacChannelModeStereo := by
  cases isSource <;> decide

theorem set_codec_config_capability_check_fails (s : AacCodecState) (peerCodecInfo resultCodecConfig : CodecInfo)
    (peer : AacCie) (hparse : a2dpParseInfoAac peerCodecInfo true=.ok peer) (hobject : peer.objectType=0)
    (hrate : peer.sampleRate &&& a2dpAacSamplingFreq44100≠0)
    (hmode : peer.channelMode &&& a2dpAacChannelModeStereo≠0) :
    setCodecConfig s peerCodecInfo true resultCodecConfig=.error .checkFailed := by
  have h44 : (aacCaps s.isSource).sampleRate &&& peer.sampleRate &&& a2dpAacSamplingFreq44100≠0 := by
    rw [UInt16.and_comm (aacCaps s.isSource).sampleRate,UInt16.and_assoc,aacCaps_sampleRate]
    exact hrate
  have hstereo : (aacCaps s.isSource).channelMode &&& peer.channelMode &&& a2dpAacChannelModeStereo≠0 := by
    rw [UInt8.and_comm (aacCaps s.isSource).channelMode,UInt8.and_assoc,aacCaps_channelMode]
    exact hmode
  simp only [setCodecConfig,hparse]
  rw [if_neg (selectSampleRate_chosen h44),if_neg selectBitsPerSample_spec.2,if_neg (selectChannelMode_chosen hstereo)]
  rw [if_neg (not_not.mpr (stages_build h44 hstereo ?hobj _ _))]
  · -- the peer's element, rebuilt into the stored capability, has object type 0
    have hpeer : (a2dpBuildInfoAac avdtMediaTypeAudio peer s.otaCodecPeerCapability).1≠a2dpSuccess :=
      fun h => ((a2dpBuildInfoAac_status _ _ _).mp h).1 hobject
    rw [if_pos trivial,if_pos hpeer]
  · -- the element chosen for the local side has the capability's object type
    dsimp only
    rw [aacCaps_objectType]
    decide

/-- A freshly constructed source offered 44.1 kHz stereo AAC with object type 0 as a capability
aborts. -/
theorem set_codec_config_zero_object_type_aborts :
    setCodecConfig (AacCodecState.init true)
      ⟨[0x08,0x00,0x02,0x00,0x01,0x04,0x00,0x00,0x00,0,0,0,0,0,0,0,0,0,0,0],rfl⟩ true CodecInfo.zero=
      .error .checkFailed :=
  set_codec_config_capability_check_fails _ _ _ ⟨0x00,0x01,0x04,0x00,0,btavBitsPerSampleNone⟩ rfl rfl
    (by decide) (by decide)

end BluetoothStack.A2dpAac
