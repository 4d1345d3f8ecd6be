import A2dpCodec.CodecConfig

/-! Capability dispatch: each `A2DP_*` routing function reads the codec-type tag of
a codec information element and calls its codec family's own implementation, or
answers a fixed sentinel for a tag it does not know. -/

namespace A2dpCodec

/-- A codec information element (`uint8_t p_codec_info[AVDT_CODEC_SIZE]`). -/
abbrev CodecInfo := List UInt8

/-- The codec families a type tag selects: SBC, AAC and the vendor (non-A2DP) family. -/
inductive A2dpCodecFamily
  | sbc
  | aac
  | vendor
  deriving DecidableEq, Repr

/-- The per-family functions of `a2dp_sbc.cc`, `a2dp_aac.cc` and `a2dp_vendor.cc` that
the dispatchers call. They live outside this file, so the model takes them as given. -/
structure A2dpFamilyImpl where
  isSourceCodecValid : A2dpCodecFamily → CodecInfo → Bool
  isSinkCodecValid : A2dpCodecFamily → CodecInfo → Bool
  isPeerSourceCodecValid : A2dpCodecFamily → CodecInfo → Bool
  isPeerSinkCodecValid : A2dpCodecFamily → CodecInfo → Bool
  isSinkCodecSupported : A2dpCodecFamily → CodecInfo → Bool
  isPeerSourceCodecSupported : A2dpCodecFamily → CodecInfo → Bool
  codecTypeEquals : A2dpCodecFamily → CodecInfo → CodecInfo → Bool
  codecEquals : A2dpCodecFamily → CodecInfo → CodecInfo → Bool
  getTrackSampleRate : A2dpCodecFamily → CodecInfo → Int
  getTrackBitsPerSample : A2dpCodecFamily → CodecInfo → Int
  getTrackChannelCount : A2dpCodecFamily → CodecInfo → Int
  sourceCodecIndex : A2dpCodecFamily → CodecInfo → Int
  sinkCodecIndex : A2dpCodecFamily → CodecInfo → Int
  vendorUsesRtpHeader : Bool → CodecInfo → Bool

section
variable (K : A2dpConstants) (F : A2dpFamilyImpl)

/-- The family a dispatcher's `switch` selects for a tag; `none` is its `default:`. -/
def A2dpConstants.familyOf (codecType : UInt8) : Option A2dpCodecFamily :=
  if codecType = K.mediaCtSbc then some .sbc
  else if codecType = K.mediaCtAac then some .aac
  else if codecType = K.mediaCtNonA2dp then some .vendor
  else none

/-- `A2DP_GetCodecType`: the tag byte at `AVDT_CODEC_TYPE_INDEX`. -/
def a2dpGetCodecType (info : CodecInfo) : UInt8 := info.getD K.avdtCodecTypeIndex 0

/-- `A2DP_MEDIA_TYPE_OFFSET`. -/
def a2dpMediaTypeOffset : Nat := 1

/-- `A2DP_GetMediaType`: the high nibble of the media-type byte. -/
def a2dpGetMediaType (info : CodecInfo) : UInt8 := (info.getD a2dpMediaTypeOffset 0 >>> 4) &&& 0x0f

/-- The shape every dispatcher shares: route on the tag, or answer `unknown`. -/
def a2dpDispatch {α : Type} (info : CodecInfo) (unknown : α) (route : A2dpCodecFamily → α) : α :=
  match K.familyOf (a2dpGetCodecType K info) with
  | some f => route f
  | none => unknown

/-- `A2DP_IsSourceCodecValid`. -/
def a2dpIsSourceCodecValid (info : CodecInfo) : Bool :=
  a2dpDispatch K info false (F.isSourceCodecValid · info)

/-- `A2DP_IsSinkCodecValid`. -/
def a2dpIsSinkCodecValid (info : CodecInfo) : Bool :=
  a2dpDispatch K info false (F.isSinkCodecValid · info)

/-- `A2DP_IsPeerSourceCodecValid`. -/
def a2dpIsPeerSourceCodecValid (info : CodecInfo) : Bool :=
  a2dpDispatch K info false (F.isPeerSourceCodecValid · info)

/-- `A2DP_IsPeerSinkCodecValid`. -/
def a2dpIsPeerSinkCodecValid (info : CodecInfo) : Bool :=
  a2dpDispatch K info false (F.isPeerSinkCodecValid · info)

/-- `A2DP_IsSinkCodecSupported`. -/
def a2dpIsSinkCodecSupported (info : CodecInfo) : Bool :=
  a2dpDispatch K info false (F.isSinkCodecSupported · info)

/-- `A2DP_IsPeerSourceCodecSupported`. -/
def a2dpIsPeerSourceCodecSupported (info : CodecInfo) : Bool :=
  a2dpDispatch K info false (F.isPeerSourceCodecSupported · info)

/-- `A2DP_GetTrackSampleRate`. -/
def a2dpGetTrackSampleRate (info : CodecInfo) : Int :=
  a2dpDispatch K info (-1) (F.getTrackSampleRate · info)

/-- `A2DP_GetTrackBitsPerSample`. -/
def a2dpGetTrackBitsPerSample (info : CodecInfo) : Int :=
  a2dpDispatch K info (-1) (F.getTrackBitsPerSample · info)

/-- `A2DP_GetTrackChannelCount`. -/
def a2dpGetTrackChannelCount (info : CodecInfo) : Int :=
  a2dpDispatch K info (-1) (F.getTrackChannelCount · info)

/-- `A2DP_SourceCodecIndex`: `BTAV_A2DP_CODEC_INDEX_MAX` for an unknown tag. -/
def a2dpSourceCodecIndex (info : CodecInfo) : Int :=
  a2dpDispatch K info K.indexMax (F.sourceCodecIndex · info)

/-- `A2DP_SinkCodecIndex`. -/
def a2dpSinkCodecIndex (info : CodecInfo) : Int :=
  a2dpDispatch K info K.indexMax (F.sinkCodecIndex · info)

/-- `A2DP_UsesRtpHeader`: only the vendor family may go without one. -/
def a2dpUsesRtpHeader (contentProtectionEnabled : Bool) (info : CodecInfo) : Bool :=
  if a2dpGetCodecType K info ≠ K.mediaCtNonA2dp then true
  else F.vendorUsesRtpHeader contentProtectionEnabled info

/-- `A2DP_CodecTypeEquals`: the tags agree and the family says the types agree. -/
def a2dpCodecTypeEquals (a b : CodecInfo) : Bool :=
  if a2dpGetCodecType K a ≠ a2dpGetCodecType K b then false
  else a2dpDispatch K a false (F.codecTypeEquals · a b)

/-- `A2DP_CodecEquals`: the tags agree and the family says all parameters agree. -/
def a2dpCodecEquals (a b : CodecInfo) : Bool :=
  if a2dpGetCodecType K a ≠ a2dpGetCodecType K b then false
  else a2dpDispatch K a false (F.codecEquals · a b)

theorem a2dpDispatch_of_familyOf {α : Type} {info : CodecInfo} {f : A2dpCodecFamily}
    (tag : K.familyOf (a2dpGetCodecType K info) = some f) (unknown : α)
    (route : A2dpCodecFamily → α) : a2dpDispatch K info unknown route = route f := by
  simp only [a2dpDispatch, tag]

end

/-- `tA2DP_ENCODER_INTERFACE`, of which only `get_effective_frame_size` is read here. -/
structure EncoderInterface where
  getEffectiveFrameSize : Int

/-- The other per-family functions the dispatchers of this file call. -/
structure A2dpFamilyServices where
  codecName : A2dpCodecFamily → CodecInfo → String
  getEncoderInterface : A2dpCodecFamily → CodecInfo → Option EncoderInterface
  /-- The element `A2DP_InitDefaultCodecSbc` writes. -/
  initDefaultCodecSbc : CodecInfo

section
variable (K : A2dpConstants) (G : A2dpFamilyServices)

/-- `A2DP_InitDefaultCodec`: the default codec is SBC. -/
def a2dpInitDefaultCodec : CodecInfo := G.initDefaultCodecSbc

/-- `A2DP_CodecName`. -/
def a2dpCodecName (info : CodecInfo) : String :=
  a2dpDispatch K info "UNKNOWN CODEC" (G.codecName · info)

/-- `A2DP_GetEncoderInterface`: null for an unknown tag. -/
def a2dpGetEncoderInterface (info : CodecInfo) : Option EncoderInterface :=
  a2dpDispatch K info none (G.getEncoderInterface · info)

/-- `A2DP_GetEecoderEffectiveFrameSize`: the frame size of the family's encoder, 0 without
one. It runs the same switch as `A2DP_GetEncoderInterface`. -/
def a2dpGetEecoderEffectiveFrameSize (info : CodecInfo) : Int :=
  match a2dpGetEncoderInterface K G info with
  | some encoder => encoder.getEffectiveFrameSize
  | none => 0

end

end A2dpCodec
