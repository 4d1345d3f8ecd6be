import A2dpCodec.Offload

/-! # When the offload encode fails

The encoder's outcome, revision by revision: an LHDC layout fails exactly for a version or a
channel split its hardware cannot take, and `getCodecSpecificConfig` fails exactly for OTA
bytes that are not a valid source configuration and for those LHDC configurations. -/

namespace A2dpCodec

section
variable (O : OffloadConstants)

/-- A split mode LHDC v2 and v3 can offload: none, or TWS. -/
def OffloadConstants.lhdcSplitSupported (b11 : UInt8) : Prop :=
  b11 &&& O.lhdcChSplitMsk = O.lhdcChSplitNone ∨ b11 &&& O.lhdcChSplitMsk = O.lhdcChSplitTws

/-- The LHDC configurations the offload hardware takes, per revision: v3 in main version 3 or
6 with a split mode it can offload, v2 in a version up to 2 with such a split mode, v5 in
version 1 with a nonzero frame length. -/
def OffloadConstants.lhdcSupported (codecId : UInt16) (codecConfig : CodecInfo) : Prop :=
  let byte := fun i => codecConfig.getD i 0
  (codecId = O.lhdcv3CodecId →
    (byte 10 &&& O.lhdcVersionMask = O.lhdcVer3 ∨ byte 10 &&& O.lhdcVersionMask = O.lhdcVer6) ∧
      O.lhdcSplitSupported (byte 11)) ∧
  (codecId = O.lhdcv2CodecId →
    byte 10 &&& O.lhdcVersionMask ≤ O.lhdcVer2 ∧ O.lhdcSplitSupported (byte 11)) ∧
  (codecId = O.lhdcv5CodecId →
    byte 11 &&& O.lhdcv5VersionMask = O.lhdcv5Ver1 ∧ byte 11 &&& O.lhdcv5FrameLenMask ≠ 0)

variable {O} (buf : List UInt8) (codecSpecific1 : Int) (codecConfig : CodecInfo)

theorem lhdcSplit_fst (b11 : UInt8) :
    (O.lhdcSplit b11 buf).1 = true ↔ O.lhdcSplitSupported b11 := by
  unfold OffloadConstants.lhdcSplit OffloadConstants.lhdcSplitSupported
  split_ifs <;> simp_all

theorem encodeLhdcv3_fst :
    (O.encodeLhdcv3 codecSpecific1 codecConfig buf).1 = true ↔
      (codecConfig.getD 10 0 &&& O.lhdcVersionMask = O.lhdcVer3 ∨
        codecConfig.getD 10 0 &&& O.lhdcVersionMask = O.lhdcVer6) ∧
      O.lhdcSplitSupported (codecConfig.getD 11 0) := by
  unfold OffloadConstants.encodeLhdcv3
  dsimp only
  split
  · simp_all
  · rename_i version
    rw [lhdcSplit_fst]
    exact ⟨fun split => ⟨Decidable.byContradiction fun other => version (not_or.mp other), split⟩,
      And.right⟩

theorem encodeLhdcv2_fst :
    (O.encodeLhdcv2 codecSpecific1 codecConfig buf).1 = true ↔
      codecConfig.getD 10 0 &&& O.lhdcVersionMask ≤ O.lhdcVer2 ∧
      O.lhdcSplitSupported (codecConfig.getD 11 0) := by
  unfold OffloadConstants.encodeLhdcv2
  dsimp only
  split
  · rename_i version
    simp only [Bool.false_eq_true, false_iff, not_and]
    exact fun below => absurd version (UInt8.not_lt.mpr below)
  · rename_i version
    rw [lhdcSplit_fst]
    exact ⟨fun split => ⟨UInt8.not_lt.mp version, split⟩, And.right⟩

theorem encodeLhdcv5_fst :
    (O.encodeLhdcv5 codecSpecific1 codecConfig buf).1 = true ↔
      codecConfig.getD 11 0 &&& O.lhdcv5VersionMask = O.lhdcv5Ver1 ∧
      codecConfig.getD 11 0 &&& O.lhdcv5FrameLenMask ≠ 0 := by
  unfold OffloadConstants.encodeLhdcv5
  dsimp only
  split_ifs <;> simp_all

theorem lhdcSupported_iff (codecId : UInt16) :
    O.lhdcSupported codecId codecConfig ↔
      (codecId = O.lhdcv3CodecId → (codecConfig.getD 10 0 &&& O.lhdcVersionMask = O.lhdcVer3 ∨
          codecConfig.getD 10 0 &&& O.lhdcVersionMask = O.lhdcVer6) ∧
        O.lhdcSplitSupported (codecConfig.getD 11 0)) ∧
      (codecId = O.lhdcv2CodecId → codecConfig.getD 10 0 &&& O.lhdcVersionMask ≤ O.lhdcVer2 ∧
        O.lhdcSplitSupported (codecConfig.getD 11 0)) ∧
      (codecId = O.lhdcv5CodecId → codecConfig.getD 11 0 &&& O.lhdcv5VersionMask = O.lhdcv5Ver1 ∧
        codecConfig.getD 11 0 &&& O.lhdcv5FrameLenMask ≠ 0) := Iff.rfl

variable (ids : O.DistinctIds)
include ids

theorem encodeVendor_fst :
    (O.encodeVendor codecSpecific1 codecConfig buf).1 = true ↔
      (O.vendorCodecGetVendorId codecConfig = O.lhdcVendorId →
        O.lhdcSupported (O.vendorCodecGetCodecId codecConfig) codecConfig) := by
  have v3v2 := ids.v3_v2
  have v3v5 := ids.v3_v5
  have v2v5 := ids.v2_v5
  unfold OffloadConstants.encodeVendor
  generalize O.vendorCodecGetVendorId codecConfig = vendorId
  generalize O.vendorCodecGetCodecId codecConfig = codecId
  by_cases ldac : vendorId = O.ldacVendorId ∧ codecId = O.ldacCodecId
  case pos =>
    rw [if_pos ldac]
    exact iff_of_true rfl fun lhdc => absurd (ldac.1.symm.trans lhdc) ids.ldac_lhdc
  rw [if_neg ldac]
  by_cases v3 : vendorId = O.lhdcVendorId ∧ codecId = O.lhdcv3CodecId
  case pos =>
    obtain ⟨rfl, rfl⟩ := v3
    rw [if_pos ⟨rfl, rfl⟩, encodeLhdcv3_fst, lhdcSupported_iff]
    simp only [v3v2, v3v5, true_implies, false_implies, and_true]
  rw [if_neg v3]
  by_cases v2 : vendorId = O.lhdcVendorId ∧ codecId = O.lhdcv2CodecId
  case pos =>
    obtain ⟨rfl, rfl⟩ := v2
    rw [if_pos ⟨rfl, rfl⟩, encodeLhdcv2_fst, lhdcSupported_iff]
    simp only [Ne.symm v3v2, v2v5, true_implies, false_implies, and_true, true_and]
  rw [if_neg v2]
  by_cases v5 : vendorId = O.lhdcVendorId ∧ codecId = O.lhdcv5CodecId
  case pos =>
    obtain ⟨rfl, rfl⟩ := v5
    rw [if_pos ⟨rfl, rfl⟩, encodeLhdcv5_fst, lhdcSupported_iff]
    simp only [Ne.symm v3v5, Ne.symm v2v5, true_implies, false_implies, true_and]
  rw [if_neg v5]
  exact iff_of_true rfl fun lhdc =>
    ⟨fun c3 => absurd ⟨lhdc, c3⟩ v3, fun c2 => absurd ⟨lhdc, c2⟩ v2, fun c5 => absurd ⟨lhdc, c5⟩ v5⟩

end

section
variable (K : A2dpConstants) (F : A2dpFamilyImpl) {O : OffloadConstants}

/-- The encode fails exactly for OTA bytes that are not a valid source configuration, and for
an LHDC configuration its revision's hardware layout cannot represent; every other input
(any SBC, AAC or LDAC configuration, any other vendor codec, any bit rate) succeeds. -/
theorem getCodecSpecificConfig_succeeds_iff (ids : O.DistinctIds) (c : A2dpCodecConfig) :
    (c.getCodecSpecificConfig K F O).1 = true ↔
      a2dpIsSourceCodecValid K F c.otaCodecConfig = true ∧
        (K.familyOf (a2dpGetCodecType K c.otaCodecConfig) = some .vendor →
          O.vendorCodecGetVendorId c.otaCodecConfig = O.lhdcVendorId →
          O.lhdcSupported (O.vendorCodecGetCodecId c.otaCodecConfig) c.otaCodecConfig) := by
  unfold A2dpCodecConfig.getCodecSpecificConfig
  dsimp only
  split
  · simp_all
  · rename_i valid
    simp only [Bool.not_eq_false] at valid
    split <;> simp_all [encodeVendor_fst _ _ _ ids]

end

/-- A descriptor whose OTA bytes are an LHDC v3 configuration in main version 2, which the v3
layout does not take. -/
def lhdcv3Version2Codec : A2dpCodecConfig :=
  { (default : A2dpCodecConfig) with
    otaCodecConfig := [11, 0, 0xFF, 0x3A, 0x05, 0, 0, 0x33, 0x4C, 0, 0x02, 0x01] }

theorem getCodecSpecificConfig_succeeds_iff_lhdcv3 :
    sampleOffloadConstants.DistinctIds ∧
      ((lhdcv3Version2Codec.getCodecSpecificConfig sampleConstants
          (grantingImpl sampleConstants).toA2dpFamilyImpl sampleOffloadConstants).1 = true ↔
        a2dpIsSourceCodecValid sampleConstants (grantingImpl sampleConstants).toA2dpFamilyImpl
            lhdcv3Version2Codec.otaCodecConfig = true ∧
          (sampleConstants.familyOf (a2dpGetCodecType sampleConstants lhdcv3Version2Codec.otaCodecConfig) =
              some .vendor →
            sampleOffloadConstants.vendorCodecGetVendorId lhdcv3Version2Codec.otaCodecConfig =
              sampleOffloadConstants.lhdcVendorId →
            sampleOffloadConstants.lhdcSupported
              (sampleOffloadConstants.vendorCodecGetCodecId lhdcv3Version2Codec.otaCodecConfig)
              lhdcv3Version2Codec.otaCodecConfig)) :=
  have ids : sampleOffloadConstants.DistinctIds := ⟨by decide, by decide, by decide, by decide⟩
  ⟨ids, getCodecSpecificConfig_succeeds_iff _ _ ids _⟩

end A2dpCodec
