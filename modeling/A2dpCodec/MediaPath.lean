import A2dpCodec.Descriptor

/-! The media-path routers: the `A2DP_*` functions that route a codec information element on
its type tag to the codec that reads its timestamps, builds its headers, adjusts or prints it,
the two that route a codec index to the codec that names it or fills its stream endpoint, and
the descriptor's `getTrackBitRate` and `copyOutOtaCodecConfig`. A router that cannot place its
argument calls no codec and hands back every buffer it was given as it was; only
`A2DP_InitCodecConfig` writes first, clearing the content protection whatever the index. -/

namespace A2dpCodec

/-- `tA2DP_DECODER_INTERFACE`. This file passes the pointer on and reads no member, so a
table is known here only as present or null. -/
structure DecoderInterface where
  deriving DecidableEq, Repr

/-- A packet buffer (`BT_HDR`), as its bytes. -/
abbrev BtHdr := List UInt8

/-- `AvdtpSepConfig`. Of a stream endpoint's configuration this file writes only the content
protection: `num_protect` and the first byte of `protect_info`. -/
structure AvdtpSepConfig where
  numProtect : UInt8
  protectInfo : List UInt8
  deriving DecidableEq, Repr

/-- The codecs the two index routers name: the SBC and AAC source and sink codecs, and the
vendor codec of an index. -/
inductive IndexedCodec
  | sbcSource
  | sbcSink
  | aacSource
  | aacSink
  | vendor (codecIndex : Int)
  deriving DecidableEq, Repr

/-- The `switch (codec_index)` of the two index routers, then their vendor fallback below
`BTAV_A2DP_CODEC_INDEX_MAX`; `none` is what is left past it. -/
def A2dpConstants.indexedCodecOf (K : A2dpConstants) (codecIndex : Int) : Option IndexedCodec :=
  if codecIndex = K.sourceSbc then some .sbcSource
  else if codecIndex = K.sinkSbc then some .sbcSink
  else if codecIndex = K.sourceAac then some .aacSource
  else if codecIndex = K.sinkAac then some .aacSink
  else if codecIndex < K.indexMax then some (.vendor codecIndex)
  else none

/-- The codec functions the media-path routers call, implemented outside this file. A
function handed a buffer returns its answer with the buffer as it leaves it. -/
structure A2dpMediaImpl where
  getSinkTrackChannelType : A2dpCodecFamily → CodecInfo → Int
  /-- `A2DP_GetPacketTimestamp*(p_codec_info, p_data, p_timestamp)`, given `*p_timestamp`. -/
  getPacketTimestamp : A2dpCodecFamily → CodecInfo → List UInt8 → UInt32 → Bool × UInt32
  /-- `A2DP_BuildCodecHeader*(p_codec_info, p_buf, frames_per_packet)`. -/
  buildCodecHeader : A2dpCodecFamily → CodecInfo → BtHdr → UInt16 → Bool × BtHdr
  getDecoderInterface : A2dpCodecFamily → CodecInfo → Option DecoderInterface
  /-- `A2DP_AdjustCodec*(p_codec_info)`, which may rewrite the element. -/
  adjustCodec : A2dpCodecFamily → CodecInfo → Bool × CodecInfo
  codecInfoString : A2dpCodecFamily → CodecInfo → String
  /-- `A2DP_GetBitrateSbc()`, which reads no element, `A2DP_GetBitRateAac` and
  `A2DP_VendorGetBitRate`. -/
  getBitRate : A2dpCodecFamily → CodecInfo → Int
  codecIndexStr : IndexedCodec → String
  initCodecConfig : IndexedCodec → AvdtpSepConfig → Bool × AvdtpSepConfig
  /-- `loghex` of the logging header, on a type tag. -/
  loghex : UInt8 → String

section
variable (K : A2dpConstants) (M : A2dpMediaImpl)

/-- `A2DP_GetSinkTrackChannelType`. -/
def a2dpGetSinkTrackChannelType (info : CodecInfo) : Int :=
  a2dpDispatch K info (-1) (M.getSinkTrackChannelType · info)

/-- `A2DP_GetPacketTimestamp`: the answer and `*p_timestamp` after the call. -/
def a2dpGetPacketTimestamp (info data : List UInt8) (timestamp : UInt32) : Bool × UInt32 :=
  a2dpDispatch K info (false, timestamp) (M.getPacketTimestamp · info data timestamp)

/-- `A2DP_BuildCodecHeader`: the answer and `p_buf` after the call. -/
def a2dpBuildCodecHeader (info : CodecInfo) (buf : BtHdr) (framesPerPacket : UInt16) : Bool × BtHdr :=
  a2dpDispatch K info (false, buf) (M.buildCodecHeader · info buf framesPerPacket)

/-- `A2DP_GetDecoderInterface`: null for an unknown tag. -/
def a2dpGetDecoderInterface (info : CodecInfo) : Option DecoderInterface :=
  a2dpDispatch K info none (M.getDecoderInterface · info)

/-- `A2DP_AdjustCodec`: the answer and the element after the call. -/
def a2dpAdjustCodec (info : CodecInfo) : Bool × CodecInfo :=
  a2dpDispatch K info (false, info) (M.adjustCodec · info)

/-- `A2DP_CodecInfoString`. -/
def a2dpCodecInfoString (info : CodecInfo) : String :=
  a2dpDispatch K info ("Unsupported codec type: " ++ M.loghex (a2dpGetCodecType K info))
    (M.codecInfoString · info)

/-- `A2dpCodecConfig::getTrackBitRate`: the router run on a copy of the descriptor's OTA
bytes. -/
def A2dpCodecConfig.getTrackBitRate (c : A2dpCodecConfig) : Int :=
  a2dpDispatch K c.otaCodecConfig (-1) (M.getBitRate · c.otaCodecConfig)

/-- `A2DP_CodecIndexStr`. -/
def a2dpCodecIndexStr (codecIndex : Int) : String :=
  match K.indexedCodecOf codecIndex with
  | some codec => M.codecIndexStr codec
  | none => "UNKNOWN CODEC INDEX"

/-- `A2DP_InitCodecConfig`: clear the content protection, then let the codec the index names
fill the rest. -/
def a2dpInitCodecConfig (codecIndex : Int) (cfg : AvdtpSepConfig) : Bool × AvdtpSepConfig :=
  let cfg := { cfg with numProtect := 0, protectInfo := cfg.protectInfo.set 0 0 }
  match K.indexedCodecOf codecIndex with
  | some codec => M.initCodecConfig codec cfg
  | none => (false, cfg)

/-- `A2dpCodecConfig::copyOutOtaCodecConfig`: whether it copied, and `p_codec_info` after
the `memcpy` of the OTA bytes. -/
def A2dpCodecConfig.copyOutOtaCodecConfig (F : A2dpFamilyImpl) (c : A2dpCodecConfig) (buf : CodecInfo) :
    Bool × CodecInfo :=
  if !a2dpIsSourceCodecValid K F c.otaCodecConfig then (false, buf)
  else (true, c.otaCodecConfig ++ buf.drop c.otaCodecConfig.length)

end


end A2dpCodec
