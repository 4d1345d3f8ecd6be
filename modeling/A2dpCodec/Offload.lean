import A2dpCodec.Descriptor

/-! # The offload encoder

`A2dpCodecConfig::getCodecSpecificConfig` packs the descriptor's negotiated OTA bytes into
the `codec_info` array of `tBT_A2DP_OFFLOAD` for the offload hardware: four bytes for SBC,
two for AAC, and for the vendor family the vendor and codec ids followed by a layout of each
vendor codec's own and, for LHDC, of each revision's own. The array is zeroed first; an
encode the hardware cannot take returns false with whatever it had written so far. -/

namespace A2dpCodec

/-- The size of `codec_info`, the vendor-id readers of `a2dp_vendor.cc`, and the LDAC and LHDC
ids and LDAC quality bytes of the vendor headers. -/
structure VendorOffloadConstants where
  /-- `sizeof(p_a2dp_offload->codec_info)`. -/
  codecInfoSize : Nat
  /-- `A2DP_VendorCodecGetVendorId` of `a2dp_vendor.cc`. -/
  vendorCodecGetVendorId : CodecInfo → UInt32
  /-- `A2DP_VendorCodecGetCodecId` of `a2dp_vendor.cc`. -/
  vendorCodecGetCodecId : CodecInfo → UInt16
  ldacVendorId : UInt32
  ldacCodecId : UInt16
  ldacQualityHigh : UInt8
  ldacQualityMid : UInt8
  ldacQualityLow : UInt8
  ldacQualityAbrOffload : UInt8
  lhdcVendorId : UInt32
  lhdcv2CodecId : UInt16
  lhdcv3CodecId : UInt16
  lhdcv5CodecId : UInt16

/-- The LHDC wire fields (`A2DP_LHDC_*`, `A2DP_LHDCV5_*`) and the bit-rate codes
`codec_specific_1 & 0x0F` is compared with. -/
structure LhdcWireConstants where
  lhdcVersionMask : UInt8
  lhdcVer2 : UInt8
  lhdcVer3 : UInt8
  lhdcVer6 : UInt8
  lhdcFeatureLlac : UInt8
  lhdcFeatureLhdcv4 : UInt8
  lhdcMaxBitRateMask : UInt8
  lhdcMaxBitRate400k : UInt8
  lhdcMaxBitRate500k : UInt8
  lhdcFeatureMinBr : UInt8
  lhdcLlMask : UInt8
  lhdcFeatureAr : UInt8
  lhdcFeatureJas : UInt8
  lhdcFeatureMeta : UInt8
  lhdcChSplitMsk : UInt8
  lhdcChSplitNone : UInt8
  lhdcChSplitTws : UInt8
  -- the bit-rate codes `codec_specific_1 & 0x0F` is compared with
  lhdcQualityLow0 : Int
  lhdcQualityLow1 : Int
  lhdcQualityLow2 : Int
  lhdcQualityLow3 : Int
  lhdcQualityLow4 : Int
  lhdcQualityLow : Int
  lhdcQualityMid : Int
  lhdcQualityHigh : Int
  lhdcQualityHigh1 : Int
  lhdcQualityAbr : Int
  -- the wire fields of LHDC v5
  lhdcv5VersionMask : UInt8
  lhdcv5Ver1 : UInt8
  lhdcv5MaxBitRateMask : UInt8
  lhdcv5MaxBitRate400k : UInt8
  lhdcv5MaxBitRate500k : UInt8
  lhdcv5MaxBitRate900k : UInt8
  lhdcv5MinBitRateMask : UInt8
  lhdcv5MinBitRate64k : UInt8
  lhdcv5MinBitRate128k : UInt8
  lhdcv5MinBitRate256k : UInt8
  lhdcv5FrameLenMask : UInt8
  lhdcv5FeatureLl : UInt8
  lhdcv5FeatureAr : UInt8
  lhdcv5FeatureJas : UInt8
  lhdcv5FeatureMeta : UInt8
  lhdcv5ArOn : UInt8

/-- The LHDC layout of `codec_info` (`A2DP_OFFLOAD_LHDC_*`): the positions of its fields,
then the values stored there. -/
structure LhdcOffloadLayout where
  offloadLhdcCfgVer : Nat
  offloadLhdcCfgBitrateL : Nat
  offloadLhdcCfgBitrateH : Nat
  offloadLhdcCfgMaxBitrateL : Nat
  offloadLhdcCfgMaxBitrateH : Nat
  offloadLhdcCfgMinBitrateL : Nat
  offloadLhdcCfgMinBitrateH : Nat
  offloadLhdcCfgFrameDur : Nat
  offloadLhdcCfgInterval : Nat
  offloadLhdcCfgSpec1 : Nat
  offloadLhdcCfgSpec2 : Nat
  -- the values stored there
  offloadLhdcv3Llac : Nat
  offloadLhdcv3V4Only : Nat
  offloadLhdcv3V3Only : Nat
  offloadLhdcv2Ver1 : Nat
  offloadLhdcv5Ver1 : Nat
  offloadLhdcQualityLow0 : UInt16
  offloadLhdcQualityLow1 : UInt16
  offloadLhdcQualityLow2 : UInt16
  offloadLhdcQualityLow3 : UInt16
  offloadLhdcQualityLow4 : UInt16
  offloadLhdcQualityLow : UInt16
  offloadLhdcQualityMid : UInt16
  offloadLhdcQualityHigh : UInt16
  offloadLhdcQualityHigh1 : UInt16
  offloadLhdcQualityAbr : UInt16
  offloadLhdcDataInterval10ms : UInt8
  offloadLhdcDataInterval20ms : UInt8
  offloadLhdcFrameDuration5000us : UInt8
  offloadLhdcSpecificFeatureAr : UInt8
  offloadLhdcSpecificFeatureJas : UInt8
  offloadLhdcSpecificFeatureMeta : UInt8
  offloadLhdcSpecificFeatureSplit : UInt8
  offloadLhdcSpecificActionArOn : UInt8

/-- The constants the encoder reads. They come from the vendor and offload headers, which are
not part of this file, so every result here holds for all of them. -/
structure OffloadConstants extends VendorOffloadConstants, LhdcWireConstants, LhdcOffloadLayout

/-- `codec_info[i] = v`, for each store in order. -/
def setInfo (buf : List UInt8) (stores : List (Nat × UInt8)) : List UInt8 :=
  stores.foldl (fun b s => b.set s.1 s.2) buf

/-- `if ((flag) != 0) codec_info[i] |= v;`. -/
def orInfo (buf : List UInt8) (flag : UInt8) (i : Nat) (v : UInt8) : List UInt8 :=
  if flag ≠ 0 then buf.set i (buf.getD i 0 ||| v) else buf

/-- An offload tier (`uint16_t`) stored as its low byte at `l` and its high byte at `h`. -/
def tierStores (l h : Nat) (q : UInt16) : List (Nat × UInt8) :=
  [(l, q.toUInt8), (h, (q >>> 8).toUInt8)]

@[simp] theorem map_fst_tierStores (l h : Nat) (q : UInt16) :
    (tierStores l h q).map Prod.fst = [l, h] := rfl

/-- `1 << (n - 1)`, the revision bit of `codec_info[A2DP_OFFLOAD_LHDC_CFG_VER]`. -/
def revisionBit (n : Nat) : UInt8 := UInt8.ofNat (1 <<< (n - 1))

section
variable (O : OffloadConstants)

/-- The `switch (codec_specific_1 & 0x0F)` of the three LHDC revisions (the mask is the
remainder by 16 of the 64-bit two's complement). The revisions differ only in the `HIGH1`
code: v2 and v3 send it to the `HIGH` tier, v5 to its own, passed as `high1`. -/
def OffloadConstants.lhdcBitRate (high1 : UInt16) (codecSpecific1 : Int) : UInt16 :=
  let q := codecSpecific1 % 16
  if q = O.lhdcQualityLow0 then O.offloadLhdcQualityLow0
  else if q = O.lhdcQualityLow1 then O.offloadLhdcQualityLow1
  else if q = O.lhdcQualityLow2 then O.offloadLhdcQualityLow2
  else if q = O.lhdcQualityLow3 then O.offloadLhdcQualityLow3
  else if q = O.lhdcQualityLow4 then O.offloadLhdcQualityLow4
  else if q = O.lhdcQualityLow then O.offloadLhdcQualityLow
  else if q = O.lhdcQualityMid then O.offloadLhdcQualityMid
  else if q = O.lhdcQualityHigh then O.offloadLhdcQualityHigh
  else if q = O.lhdcQualityHigh1 then high1
  else if q = O.lhdcQualityAbr then O.offloadLhdcQualityAbr
  else O.offloadLhdcQualityAbr

/-- The max bit rate of LHDC v2 and v3, from `codec_config[10]`. -/
def OffloadConstants.lhdcMaxBitRate (b10 : UInt8) : UInt16 :=
  if b10 &&& O.lhdcMaxBitRateMask = O.lhdcMaxBitRate400k then O.offloadLhdcQualityLow
  else if b10 &&& O.lhdcMaxBitRateMask = O.lhdcMaxBitRate500k then O.offloadLhdcQualityMid
  else O.offloadLhdcQualityHigh

/-- The max bit rate of LHDC v5, from `codec_config[10]`, with a fourth tier. -/
def OffloadConstants.lhdcv5MaxBitRate (b10 : UInt8) : UInt16 :=
  if b10 &&& O.lhdcv5MaxBitRateMask = O.lhdcv5MaxBitRate400k then O.offloadLhdcQualityLow
  else if b10 &&& O.lhdcv5MaxBitRateMask = O.lhdcv5MaxBitRate500k then O.offloadLhdcQualityMid
  else if b10 &&& O.lhdcv5MaxBitRateMask = O.lhdcv5MaxBitRate900k then O.offloadLhdcQualityHigh
  else O.offloadLhdcQualityHigh1

/-- The min bit rate of LHDC v5, from `codec_config[10]`. -/
def OffloadConstants.lhdcv5MinBitRate (b10 : UInt8) : UInt16 :=
  if b10 &&& O.lhdcv5MinBitRateMask = O.lhdcv5MinBitRate64k then O.offloadLhdcQualityLow0
  else if b10 &&& O.lhdcv5MinBitRateMask = O.lhdcv5MinBitRate128k then O.offloadLhdcQualityLow1
  else if b10 &&& O.lhdcv5MinBitRateMask = O.lhdcv5MinBitRate256k then O.offloadLhdcQualityLow3
  else O.offloadLhdcQualityLow

/-- The data interval of LHDC v2 and v3: 10 ms in low-latency mode, else 20 ms. -/
def OffloadConstants.lhdcInterval (b10 : UInt8) : UInt8 :=
  if b10 &&& O.lhdcLlMask ≠ 0 then O.offloadLhdcDataInterval10ms
  else O.offloadLhdcDataInterval20ms

/-- Codec specific 2 of LHDC v2 and v3, the split mode; false for a mode the hardware cannot
take. -/
def OffloadConstants.lhdcSplit (b11 : UInt8) (buf : List UInt8) : Bool × List UInt8 :=
  if b11 &&& O.lhdcChSplitMsk = O.lhdcChSplitNone then
    (true, setInfo buf [(O.offloadLhdcCfgSpec2, 0)])
  else if b11 &&& O.lhdcChSplitMsk = O.lhdcChSplitTws then
    (true, orInfo buf 1 O.offloadLhdcCfgSpec2 O.offloadLhdcSpecificFeatureSplit)
  else (false, buf)

/-- The LHDC v3 layout. -/
def OffloadConstants.encodeLhdcv3 (codecSpecific1 : Int) (codecConfig : CodecInfo)
    (buf : List UInt8) : Bool × List UInt8 :=
  let byte := fun i => codecConfig.getD i 0
  let version := byte 10 &&& O.lhdcVersionMask
  if version ≠ O.lhdcVer3 ∧ version ≠ O.lhdcVer6 then (false, buf)
  else
    let llac := byte 10 &&& O.lhdcFeatureLlac ≠ 0
    let lhdcv4 := byte 11 &&& O.lhdcFeatureLhdcv4 ≠ 0
    let revision :=
      if llac ∧ ¬lhdcv4 then O.offloadLhdcv3Llac
      else if ¬llac ∧ lhdcv4 then O.offloadLhdcv3V4Only
      else if ¬llac ∧ ¬lhdcv4 then O.offloadLhdcv3V3Only
      else O.offloadLhdcv3V3Only
    let buf := setInfo buf ((O.offloadLhdcCfgVer, revisionBit revision) ::
      tierStores O.offloadLhdcCfgBitrateL O.offloadLhdcCfgBitrateH
        (O.lhdcBitRate O.offloadLhdcQualityHigh codecSpecific1) ++
      tierStores O.offloadLhdcCfgMaxBitrateL O.offloadLhdcCfgMaxBitrateH
        (O.lhdcMaxBitRate (byte 10)) ++
      tierStores O.offloadLhdcCfgMinBitrateL O.offloadLhdcCfgMinBitrateH
        (if byte 11 &&& O.lhdcFeatureMinBr = O.lhdcFeatureMinBr then O.offloadLhdcQualityLow4
          else O.offloadLhdcQualityLow1) ++
      [(O.offloadLhdcCfgInterval, O.lhdcInterval (byte 10))])
    let buf := orInfo buf (byte 9 &&& O.lhdcFeatureAr) O.offloadLhdcCfgSpec1
      O.offloadLhdcSpecificFeatureAr
    let buf := orInfo buf (byte 9 &&& O.lhdcFeatureJas) O.offloadLhdcCfgSpec1
      O.offloadLhdcSpecificFeatureJas
    let buf := orInfo buf (byte 11 &&& O.lhdcFeatureMeta) O.offloadLhdcCfgSpec1
      O.offloadLhdcSpecificFeatureMeta
    O.lhdcSplit (byte 11) buf

/-- The LHDC v2 layout: no min bit rate, frame duration or codec specific 1. -/
def OffloadConstants.encodeLhdcv2 (codecSpecific1 : Int) (codecConfig : CodecInfo)
    (buf : List UInt8) : Bool × List UInt8 :=
  let byte := fun i => codecConfig.getD i 0
  if byte 10 &&& O.lhdcVersionMask > O.lhdcVer2 then (false, buf)
  else
    let buf := setInfo buf ((O.offloadLhdcCfgVer, revisionBit O.offloadLhdcv2Ver1) ::
      tierStores O.offloadLhdcCfgBitrateL O.offloadLhdcCfgBitrateH
        (O.lhdcBitRate O.offloadLhdcQualityHigh codecSpecific1) ++
      tierStores O.offloadLhdcCfgMaxBitrateL O.offloadLhdcCfgMaxBitrateH
        (O.lhdcMaxBitRate (byte 10)) ++
      [(O.offloadLhdcCfgInterval, O.lhdcInterval (byte 10))])
    O.lhdcSplit (byte 11) buf

/-- The LHDC v5 layout. -/
def OffloadConstants.encodeLhdcv5 (codecSpecific1 : Int) (codecConfig : CodecInfo)
    (buf : List UInt8) : Bool × List UInt8 :=
  let byte := fun i => codecConfig.getD i 0
  if byte 11 &&& O.lhdcv5VersionMask ≠ O.lhdcv5Ver1 then (false, buf)
  else
    let buf := setInfo buf ((O.offloadLhdcCfgVer, revisionBit O.offloadLhdcv5Ver1) ::
      tierStores O.offloadLhdcCfgBitrateL O.offloadLhdcCfgBitrateH
        (O.lhdcBitRate O.offloadLhdcQualityHigh1 codecSpecific1) ++
      tierStores O.offloadLhdcCfgMaxBitrateL O.offloadLhdcCfgMaxBitrateH
        (O.lhdcv5MaxBitRate (byte 10)) ++
      tierStores O.offloadLhdcCfgMinBitrateL O.offloadLhdcCfgMinBitrateH
        (O.lhdcv5MinBitRate (byte 10)))
    if byte 11 &&& O.lhdcv5FrameLenMask = 0 then (false, buf)
    else
      let buf := setInfo buf [(O.offloadLhdcCfgFrameDur, O.offloadLhdcFrameDuration5000us),
        (O.offloadLhdcCfgInterval,
          if byte 12 &&& O.lhdcv5FeatureLl ≠ 0 then O.offloadLhdcDataInterval10ms
          else O.offloadLhdcDataInterval20ms)]
      let buf := orInfo buf (byte 12 &&& O.lhdcv5FeatureAr) O.offloadLhdcCfgSpec1
        O.offloadLhdcSpecificFeatureAr
      let buf := orInfo buf (byte 12 &&& O.lhdcv5FeatureJas) O.offloadLhdcCfgSpec1
        O.offloadLhdcSpecificFeatureJas
      let buf := orInfo buf (byte 12 &&& O.lhdcv5FeatureMeta) O.offloadLhdcCfgSpec1
        O.offloadLhdcSpecificFeatureMeta
      (true, orInfo buf (byte 13 &&& O.lhdcv5ArOn) O.offloadLhdcCfgSpec2
        O.offloadLhdcSpecificActionArOn)

/-- The LDAC quality byte: ABR for `codec_specific_1 == 0`, else by `codec_specific_1 % 10`
with C's truncating remainder. -/
def OffloadConstants.ldacQuality (codecSpecific1 : Int) : UInt8 :=
  if codecSpecific1 = 0 then O.ldacQualityAbrOffload
  else
    let q := codecSpecific1.tmod 10
    if q = 0 then O.ldacQualityHigh
    else if q = 1 then O.ldacQualityMid
    else if q = 2 then O.ldacQualityLow
    else O.ldacQualityAbrOffload

/-- The vendor family: the vendor id and codec id, little-endian, then the vendor codec's
own layout. -/
def OffloadConstants.encodeVendor (codecSpecific1 : Int) (codecConfig : CodecInfo)
    (buf : List UInt8) : Bool × List UInt8 :=
  let vendorId := O.vendorCodecGetVendorId codecConfig
  let codecId := O.vendorCodecGetCodecId codecConfig
  let buf := setInfo buf [(0, vendorId.toUInt8), (1, (vendorId >>> 8).toUInt8),
    (2, (vendorId >>> 16).toUInt8), (3, (vendorId >>> 24).toUInt8), (4, codecId.toUInt8),
    (5, (codecId >>> 8).toUInt8)]
  if vendorId = O.ldacVendorId ∧ codecId = O.ldacCodecId then
    (true, setInfo buf [(6, O.ldacQuality codecSpecific1), (7, codecConfig.getD 10 0)])
  else if vendorId = O.lhdcVendorId ∧ codecId = O.lhdcv3CodecId then
    O.encodeLhdcv3 codecSpecific1 codecConfig buf
  else if vendorId = O.lhdcVendorId ∧ codecId = O.lhdcv2CodecId then
    O.encodeLhdcv2 codecSpecific1 codecConfig buf
  else if vendorId = O.lhdcVendorId ∧ codecId = O.lhdcv5CodecId then
    O.encodeLhdcv5 codecSpecific1 codecConfig buf
  else (true, buf)

end

section
variable (K : A2dpConstants) (F : A2dpFamilyImpl) (O : OffloadConstants)

/-- `A2dpCodecConfig::getCodecSpecificConfig`: whether the encode succeeded, and
`codec_info` after it. -/
def A2dpCodecConfig.getCodecSpecificConfig (c : A2dpCodecConfig) : Bool × List UInt8 :=
  let codecInfo := List.replicate O.codecInfoSize 0
  if a2dpIsSourceCodecValid K F c.otaCodecConfig = false then (false, codecInfo)
  else
    let codecConfig := c.otaCodecConfig
    match K.familyOf (a2dpGetCodecType K codecConfig) with
    | some .sbc => (true, setInfo codecInfo [(0, codecConfig.getD 4 0),
        (1, codecConfig.getD 5 0), (2, codecConfig.getD 6 0), (3, codecConfig.getD 3 0)])
    | some .aac => (true, setInfo codecInfo [(0, codecConfig.getD 3 0),
        (1, codecConfig.getD 6 0)])
    | some .vendor => O.encodeVendor c.codecConfig.codecSpecific1 codecConfig codecInfo
    | none => (true, codecInfo)

end

section
variable (O : OffloadConstants)

/-- The vendor and codec ids the encoder tells apart are distinct, as the headers have them. -/
structure OffloadConstants.DistinctIds : Prop where
  ldac_lhdc : O.ldacVendorId ≠ O.lhdcVendorId
  v3_v2 : O.lhdcv3CodecId ≠ O.lhdcv2CodecId
  v3_v5 : O.lhdcv3CodecId ≠ O.lhdcv5CodecId
  v2_v5 : O.lhdcv2CodecId ≠ O.lhdcv5CodecId

end

/-- One choice of the vendor and offload constants for the examples: the headers that fix
them are not part of the source. The ids are read little-endian from bytes 3 to 8. -/
def sampleOffloadConstants : OffloadConstants where
  codecInfoSize := 32
  vendorCodecGetVendorId info := (info.getD 3 0).toUInt32 ||| (info.getD 4 0).toUInt32 <<< 8 |||
    (info.getD 5 0).toUInt32 <<< 16 ||| (info.getD 6 0).toUInt32 <<< 24
  vendorCodecGetCodecId info := (info.getD 7 0).toUInt16 ||| (info.getD 8 0).toUInt16 <<< 8
  ldacVendorId := 0x012D
  ldacCodecId := 0x00AA
  ldacQualityHigh := 0
  ldacQualityMid := 1
  ldacQualityLow := 2
  ldacQualityAbrOffload := 0x7F
  lhdcVendorId := 0x053A
  lhdcv2CodecId := 0x4C32
  lhdcv3CodecId := 0x4C33
  lhdcv5CodecId := 0x4C35
  lhdcVersionMask := 0x0F
  lhdcVer2 := 0x01
  lhdcVer3 := 0x01
  lhdcVer6 := 0x08
  lhdcFeatureLlac := 0x80
  lhdcFeatureLhdcv4 := 0x40
  lhdcMaxBitRateMask := 0x30
  lhdcMaxBitRate400k := 0x10
  lhdcMaxBitRate500k := 0x20
  lhdcFeatureMinBr := 0x20
  lhdcLlMask := 0x40
  lhdcFeatureAr := 0x80
  lhdcFeatureJas := 0x40
  lhdcFeatureMeta := 0x10
  lhdcChSplitMsk := 0x07
  lhdcChSplitNone := 0x01
  lhdcChSplitTws := 0x04
  lhdcQualityLow0 := 0
  lhdcQualityLow1 := 1
  lhdcQualityLow2 := 2
  lhdcQualityLow3 := 3
  lhdcQualityLow4 := 4
  lhdcQualityLow := 5
  lhdcQualityMid := 6
  lhdcQualityHigh := 7
  lhdcQualityHigh1 := 8
  lhdcQualityAbr := 9
  lhdcv5VersionMask := 0x07
  lhdcv5Ver1 := 0x01
  lhdcv5MaxBitRateMask := 0x30
  lhdcv5MaxBitRate400k := 0x30
  lhdcv5MaxBitRate500k := 0x20
  lhdcv5MaxBitRate900k := 0x10
  lhdcv5MinBitRateMask := 0xC0
  lhdcv5MinBitRate64k := 0xC0
  lhdcv5MinBitRate128k := 0x80
  lhdcv5MinBitRate256k := 0x40
  lhdcv5FrameLenMask := 0x10
  lhdcv5FeatureLl := 0x40
  lhdcv5FeatureAr := 0x80
  lhdcv5FeatureJas := 0x20
  lhdcv5FeatureMeta := 0x10
  lhdcv5ArOn := 0x01
  offloadLhdcCfgVer := 6
  offloadLhdcCfgBitrateL := 7
  offloadLhdcCfgBitrateH := 8
  offloadLhdcCfgMaxBitrateL := 9
  offloadLhdcCfgMaxBitrateH := 10
  offloadLhdcCfgMinBitrateL := 11
  offloadLhdcCfgMinBitrateH := 12
  offloadLhdcCfgFrameDur := 13
  offloadLhdcCfgInterval := 14
  offloadLhdcCfgSpec1 := 15
  offloadLhdcCfgSpec2 := 19
  offloadLhdcv3Llac := 3
  offloadLhdcv3V4Only := 2
  offloadLhdcv3V3Only := 1
  offloadLhdcv2Ver1 := 1
  offloadLhdcv5Ver1 := 1
  offloadLhdcQualityLow0 := 64
  offloadLhdcQualityLow1 := 128
  offloadLhdcQualityLow2 := 192
  offloadLhdcQualityLow3 := 256
  offloadLhdcQualityLow4 := 320
  offloadLhdcQualityLow := 400
  offloadLhdcQualityMid := 500
  offloadLhdcQualityHigh := 900
  offloadLhdcQualityHigh1 := 1000
  offloadLhdcQualityAbr := 0x7F
  offloadLhdcDataInterval10ms := 10
  offloadLhdcDataInterval20ms := 20
  offloadLhdcFrameDuration5000us := 50
  offloadLhdcSpecificFeatureAr := 0x01
  offloadLhdcSpecificFeatureJas := 0x02
  offloadLhdcSpecificFeatureMeta := 0x04
  offloadLhdcSpecificFeatureSplit := 0x01
  offloadLhdcSpecificActionArOn := 0x01

end A2dpCodec
