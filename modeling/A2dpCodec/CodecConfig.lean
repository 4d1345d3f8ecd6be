import Mathlib.Logic.Function.Basic

/-! The configuration snapshot `btav_a2dp_codec_config_t`, the two checks the
descriptors make on it, and the header constants `a2dp_codec_config.cc` uses
only by name. -/

namespace A2dpCodec

/-- The enum and macro values of `bt_av.h`, `avdt_api.h` and `a2dp_constants.h`
that the source uses by name. The source does not fix them, so the model takes
them as a parameter and every result holds for every choice. -/
structure A2dpConstants where
  sourceSbc : Int
  sinkSbc : Int
  sourceAac : Int
  sinkAac : Int
  sourceAptx : Int
  sourceAptxHd : Int
  sourceLdac : Int
  sinkLdac : Int
  sourceOpus : Int
  sinkOpus : Int
  sourceLhdcv2 : Int
  sourceLhdcv3 : Int
  sourceLhdcv5 : Int
  sinkLhdcv3 : Int
  sinkLhdcv5 : Int
  indexMin : Int
  indexSourceMax : Int
  indexMax : Int
  priorityDisabled : Int
  priorityDefault : Int
  sampleRateNone : Nat
  bitsPerSampleNone : Nat
  channelModeNone : Nat
  avdtCodecSize : Nat
  avdtCodecTypeIndex : Nat
  mediaCtSbc : UInt8
  mediaCtAac : UInt8
  mediaCtNonA2dp : UInt8

/-- One numbering of the headers, with source codecs below the sink codecs and the
LC3 slot left without a descriptor; used where the model is run on a concrete input. -/
def sampleConstants : A2dpConstants where
  sourceSbc := 0
  sourceAac := 1
  sourceAptx := 2
  sourceAptxHd := 3
  sourceLdac := 4
  sourceOpus := 6
  sourceLhdcv2 := 7
  sourceLhdcv3 := 8
  sourceLhdcv5 := 9
  indexSourceMax := 10
  sinkSbc := 10
  sinkAac := 11
  sinkLdac := 12
  sinkOpus := 13
  sinkLhdcv3 := 14
  sinkLhdcv5 := 15
  indexMin := 0
  indexMax := 16
  priorityDisabled := -1
  priorityDefault := 0
  sampleRateNone := 0
  bitsPerSampleNone := 0
  channelModeNone := 0
  avdtCodecSize := 20
  avdtCodecTypeIndex := 2
  mediaCtSbc := 0x00
  mediaCtAac := 0x02
  mediaCtNonA2dp := 0xFF

/-- `btav_a2dp_codec_config_t`: one configuration snapshot of a codec. -/
structure BtavA2dpCodecConfig where
  codecType : Int
  codecPriority : Int
  sampleRate : Nat
  bitsPerSample : Nat
  channelMode : Nat
  codecSpecific1 : Int
  codecSpecific2 : Int
  codecSpecific3 : Int
  codecSpecific4 : Int
  deriving DecidableEq, Repr, Inhabited

/-- `init_btav_a2dp_codec_config`: a zeroed snapshot of the given type and priority. -/
def initBtavA2dpCodecConfig (codecIndex codecPriority : Int) : BtavA2dpCodecConfig where
  codecType := codecIndex
  codecPriority := codecPriority
  sampleRate := 0
  bitsPerSample := 0
  channelMode := 0
  codecSpecific1 := 0
  codecSpecific2 := 0
  codecSpecific3 := 0
  codecSpecific4 := 0

section
variable (K : A2dpConstants)

/-- `A2dpCodecConfig::isCodecConfigEmpty`: no explicit override is present. -/
def isCodecConfigEmpty (c : BtavA2dpCodecConfig) : Bool :=
  c.codecPriority == K.priorityDefault && c.sampleRate == K.sampleRateNone &&
    c.bitsPerSample == K.bitsPerSampleNone && c.channelMode == K.channelModeNone &&
    c.codecSpecific1 == 0 && c.codecSpecific2 == 0 && c.codecSpecific3 == 0 &&
    c.codecSpecific4 == 0

/-- `A2dpCodecConfig::codecConfigIsValid`. -/
def codecConfigIsValid (c : BtavA2dpCodecConfig) : Bool :=
  decide (c.codecType < K.indexMax) && c.sampleRate != K.sampleRateNone &&
    c.bitsPerSample != K.bitsPerSampleNone && c.channelMode != K.channelModeNone

end

end A2dpCodec
