import A2dpCodec.Offload
import Mathlib.Data.List.Nodup

/-! # What the offload encode writes

Whatever branch `getCodecSpecificConfig` takes and whether it succeeds, `codec_info` keeps its
size and is zero outside the documented fields. For an LHDC element the encode writes only the
vendor header and its own revision's fields, so the fields an older revision does not have
stay zero. -/

namespace A2dpCodec

/-- `codec_info` has `n` bytes and is still zero outside the positions `S`. -/
structure Confined (S : List Nat) (n : Nat) (buf : List UInt8) : Prop where
  length : buf.length = n
  zero : ∀ i, i ∉ S → buf.getD i 0 = 0

namespace Confined
variable {S : List Nat} {n : Nat} {buf : List UInt8}

theorem replicate (S : List Nat) (n : Nat) : Confined S n (List.replicate n 0) :=
  ⟨List.length_replicate n 0, fun i _ => by
    simp only [List.getD_eq_getElem?_getD, List.getElem?_replicate]
    split <;> rfl⟩

theorem set (confined : Confined S n buf) {i : Nat} (inside : i ∈ S) (v : UInt8) :
    Confined S n (buf.set i v) := by
  refine ⟨(List.length_set buf i v).trans confined.length, fun j outside => ?_⟩
  have other : i ≠ j := fun same => outside (same ▸ inside)
  simpa only [List.getD_eq_getElem?_getD, List.getElem?_set_ne other] using confined.zero j outside

theorem setInfo (confined : Confined S n buf) {stores : List (Nat × UInt8)}
    (inside : ∀ s ∈ stores, s.1 ∈ S) : Confined S n (setInfo buf stores) := by
  induction stores generalizing buf with
  | nil => exact confined
  | cons s rest ih => exact ih (confined.set (inside s (.head _)) s.2) fun s' m => inside s' (.tail _ m)

theorem orInfo (confined : Confined S n buf) {i : Nat} (inside : i ∈ S) (flag v : UInt8) :
    Confined S n (orInfo buf flag i v) := by
  unfold A2dpCodec.orInfo
  split
  · exact confined.set inside _
  · exact confined

end Confined

section
variable (O : OffloadConstants)

/-- The positions the LHDC layouts write. -/
def OffloadConstants.lhdcPositions : List Nat :=
  [O.offloadLhdcCfgVer, O.offloadLhdcCfgBitrateL, O.offloadLhdcCfgBitrateH,
    O.offloadLhdcCfgMaxBitrateL, O.offloadLhdcCfgMaxBitrateH, O.offloadLhdcCfgMinBitrateL,
    O.offloadLhdcCfgMinBitrateH, O.offloadLhdcCfgFrameDur, O.offloadLhdcCfgInterval,
    O.offloadLhdcCfgSpec1, O.offloadLhdcCfgSpec2]

/-- The positions the LHDC v3 layout writes: all but the frame duration. -/
def OffloadConstants.lhdcv3Positions : List Nat :=
  [O.offloadLhdcCfgVer, O.offloadLhdcCfgBitrateL, O.offloadLhdcCfgBitrateH,
    O.offloadLhdcCfgMaxBitrateL, O.offloadLhdcCfgMaxBitrateH, O.offloadLhdcCfgMinBitrateL,
    O.offloadLhdcCfgMinBitrateH, O.offloadLhdcCfgInterval, O.offloadLhdcCfgSpec1,
    O.offloadLhdcCfgSpec2]

/-- The positions the LHDC v2 layout writes: no min bit rate, frame duration or codec
specific 1. -/
def OffloadConstants.lhdcv2Positions : List Nat :=
  [O.offloadLhdcCfgVer, O.offloadLhdcCfgBitrateL, O.offloadLhdcCfgBitrateH,
    O.offloadLhdcCfgMaxBitrateL, O.offloadLhdcCfgMaxBitrateH, O.offloadLhdcCfgInterval,
    O.offloadLhdcCfgSpec2]

theorem OffloadConstants.lhdcv3Positions_sublist : List.Sublist O.lhdcv3Positions O.lhdcPositions := by
  simp only [OffloadConstants.lhdcv3Positions, OffloadConstants.lhdcPositions, List.cons_sublist_cons]
  exact List.sublist_cons_self _ _

theorem OffloadConstants.lhdcv2Positions_sublist : List.Sublist O.lhdcv2Positions O.lhdcPositions := by
  simp only [OffloadConstants.lhdcv2Positions, OffloadConstants.lhdcPositions, List.cons_sublist_cons]
  exact .cons _ (.cons _ (.cons _ (.cons₂ _ (.cons _ (.refl _)))))

/-- Every position `getCodecSpecificConfig` writes: the first eight bytes (the SBC and AAC
fields, the vendor header and the LDAC bytes) and the LHDC fields. -/
def OffloadConstants.fieldPositions : List Nat := [0, 1, 2, 3, 4, 5, 6, 7] ++ O.lhdcPositions

end

section
variable {O : OffloadConstants} {S : List Nat} {n : Nat} {buf : List UInt8} (confined : Confined S n buf)
  (codecSpecific1 : Int) (codecConfig : CodecInfo)
include confined

theorem Confined.setInfo_header {P : List Nat} (header : P ⊆ S) {stores : List (Nat × UInt8)}
    (low : (stores.map Prod.fst).all (· ∈ P) = true) :
    Confined S n (A2dpCodec.setInfo buf stores) :=
  confined.setInfo fun s member => header (by
    simpa only [decide_eq_true_eq] using List.all_eq_true.mp low s.1 (List.mem_map_of_mem Prod.fst member))

theorem Confined.setInfo_layout {P : List Nat} (fields : P ⊆ S) {stores : List (Nat × UInt8)}
    (layout : List.Sublist (stores.map Prod.fst) P) : Confined S n (A2dpCodec.setInfo buf stores) :=
  confined.setInfo fun _ member => fields (layout.subset (List.mem_map_of_mem Prod.fst member))

theorem Confined.lhdcSplit (spec2 : O.offloadLhdcCfgSpec2 ∈ S) (b11 : UInt8) :
    Confined S n (O.lhdcSplit b11 buf).2 := by
  unfold OffloadConstants.lhdcSplit
  split
  · exact confined.setInfo (by simpa only [List.mem_singleton, forall_eq] using spec2)
  · split
    · exact confined.orInfo spec2 1 O.offloadLhdcSpecificFeatureSplit
    · exact confined

theorem Confined.encodeLhdcv3 (fields : O.lhdcv3Positions ⊆ S) :
    Confined S n (O.encodeLhdcv3 codecSpecific1 codecConfig buf).2 := by
  have spec1 : O.offloadLhdcCfgSpec1 ∈ S := fields (by simp [OffloadConstants.lhdcv3Positions])
  have spec2 : O.offloadLhdcCfgSpec2 ∈ S := fields (by simp [OffloadConstants.lhdcv3Positions])
  unfold OffloadConstants.encodeLhdcv3
  dsimp only
  split
  · exact confined
  · refine (((confined.setInfo_layout fields ?_).orInfo spec1 _ _ |>.orInfo spec1 _ _).orInfo spec1 _ _).lhdcSplit
      spec2 _
    simp only [List.map_cons, List.map_append, List.map_nil, map_fst_tierStores, List.cons_append,
      List.nil_append, OffloadConstants.lhdcv3Positions, List.cons_sublist_cons, List.nil_sublist]

theorem Confined.encodeLhdcv2 (fields : O.lhdcv2Positions ⊆ S) :
    Confined S n (O.encodeLhdcv2 codecSpecific1 codecConfig buf).2 := by
  have spec2 : O.offloadLhdcCfgSpec2 ∈ S := fields (by simp [OffloadConstants.lhdcv2Positions])
  unfold OffloadConstants.encodeLhdcv2
  dsimp only
  split
  · exact confined
  · refine (confined.setInfo_layout fields ?_).lhdcSplit spec2 _
    simp only [List.map_cons, List.map_append, List.map_nil, map_fst_tierStores, List.cons_append,
      List.nil_append, OffloadConstants.lhdcv2Positions, List.cons_sublist_cons, List.nil_sublist]

theorem Confined.encodeLhdcv5 (fields : O.lhdcPositions ⊆ S) :
    Confined S n (O.encodeLhdcv5 codecSpecific1 codecConfig buf).2 := by
  have spec1 : O.offloadLhdcCfgSpec1 ∈ S := fields (by simp [OffloadConstants.lhdcPositions])
  have spec2 : O.offloadLhdcCfgSpec2 ∈ S := fields (by simp [OffloadConstants.lhdcPositions])
  unfold OffloadConstants.encodeLhdcv5
  dsimp only
  split
  · exact confined
  split
  · refine confined.setInfo_layout fields ?_
    simp only [List.map_cons, List.map_append, List.map_nil, map_fst_tierStores, List.cons_append,
      List.nil_append, OffloadConstants.lhdcPositions, List.cons_sublist_cons, List.nil_sublist]
  · refine ((((confined.setInfo_layout fields ?_ |>.setInfo_layout fields ?_).orInfo spec1 _ _).orInfo
      spec1 _ _).orInfo spec1 _ _).orInfo spec2 _ _
    · simp only [List.map_cons, List.map_append, List.map_nil, map_fst_tierStores, List.cons_append,
        List.nil_append, OffloadConstants.lhdcPositions, List.cons_sublist_cons, List.nil_sublist]
    · -- the frame duration and the interval come after the seven fields of the rates
      exact .cons _ (.cons _ (.cons _ (.cons _ (.cons _ (.cons _ (.cons _
        (.cons₂ _ (.cons₂ _ (List.nil_sublist _)))))))))

theorem Confined.encodeVendor (fields : O.fieldPositions ⊆ S) :
    Confined S n (O.encodeVendor codecSpecific1 codecConfig buf).2 := by
  have header : [0, 1, 2, 3, 4, 5, 6, 7] ⊆ S := fun _ low => fields (List.mem_append_left _ low)
  have lhdc : O.lhdcPositions ⊆ S := fun _ member => fields (List.mem_append_right _ member)
  have v3 : O.lhdcv3Positions ⊆ S := fun _ member => lhdc (O.lhdcv3Positions_sublist.subset member)
  have v2 : O.lhdcv2Positions ⊆ S := fun _ member => lhdc (O.lhdcv2Positions_sublist.subset member)
  unfold OffloadConstants.encodeVendor
  generalize O.vendorCodecGetVendorId codecConfig = vendorId
  generalize O.vendorCodecGetCodecId codecConfig = codecId
  by_cases ldac : vendorId = O.ldacVendorId ∧ codecId = O.ldacCodecId
  case pos =>
    rw [if_pos ldac]; exact (confined.setInfo_header header (by rfl)).setInfo_header header (by rfl)
  rw [if_neg ldac]
  by_cases lhdcv3 : vendorId = O.lhdcVendorId ∧ codecId = O.lhdcv3CodecId
  case pos => rw [if_pos lhdcv3]; exact (confined.setInfo_header header (by rfl)).encodeLhdcv3 _ _ v3
  rw [if_neg lhdcv3]
  by_cases lhdcv2 : vendorId = O.lhdcVendorId ∧ codecId = O.lhdcv2CodecId
  case pos => rw [if_pos lhdcv2]; exact (confined.setInfo_header header (by rfl)).encodeLhdcv2 _ _ v2
  rw [if_neg lhdcv2]
  by_cases lhdcv5 : vendorId = O.lhdcVendorId ∧ codecId = O.lhdcv5CodecId
  case pos => rw [if_pos lhdcv5]; exact (confined.setInfo_header header (by rfl)).encodeLhdcv5 _ _ lhdc
  rw [if_neg lhdcv5]
  exact confined.setInfo_header header (by rfl)

end

section
variable (K : A2dpConstants) (F : A2dpFamilyImpl) (O : OffloadConstants)

/-- Whatever branch the encoder takes, and whether it succeeds or not, `codec_info` keeps its
size and nothing is written outside the documented fields. -/
theorem getCodecSpecificConfig_confined (c : A2dpCodecConfig) :
    Confined O.fieldPositions O.codecInfoSize (c.getCodecSpecificConfig K F O).2 := by
  have zeroed := Confined.replicate O.fieldPositions O.codecInfoSize
  have header : [0, 1, 2, 3, 4, 5, 6, 7] ⊆ O.fieldPositions := List.subset_append_left _ _
  unfold A2dpCodecConfig.getCodecSpecificConfig
  dsimp only
  split
  · exact zeroed
  · split
    · exact zeroed.setInfo_header header (by rfl)
    · exact zeroed.setInfo_header header (by rfl)
    · exact zeroed.encodeVendor _ _ (List.Subset.refl _)
    · exact zeroed

end

/-! ## Fields a revision does not have -/

section
variable (O : OffloadConstants)

/-- The positions an encode can write for an element of the LHDC vendor with codec id
`codecId`: the vendor header and the fields of that revision's layout. -/
def OffloadConstants.lhdcRevisionPositions (codecId : UInt16) : List Nat :=
  [0, 1, 2, 3, 4, 5] ++
    if codecId = O.lhdcv3CodecId then O.lhdcv3Positions
    else if codecId = O.lhdcv2CodecId then O.lhdcv2Positions
    else O.lhdcPositions

end

section
variable (K : A2dpConstants) (F : A2dpFamilyImpl) {O : OffloadConstants}

theorem getCodecSpecificConfig_lhdc_confined (ids : O.DistinctIds) (c : A2dpCodecConfig)
    (lhdc : O.vendorCodecGetVendorId c.otaCodecConfig = O.lhdcVendorId) :
    Confined (O.lhdcRevisionPositions (O.vendorCodecGetCodecId c.otaCodecConfig)) O.codecInfoSize
      (c.getCodecSpecificConfig K F O).2 := by
  unfold A2dpCodecConfig.getCodecSpecificConfig OffloadConstants.encodeVendor
  dsimp only
  generalize O.vendorCodecGetVendorId c.otaCodecConfig = vendorId at lhdc ⊢
  subst lhdc
  generalize O.vendorCodecGetCodecId c.otaCodecConfig = codecId
  have zeroed := Confined.replicate (O.lhdcRevisionPositions codecId) O.codecInfoSize
  have header : [0, 1, 2, 3, 4, 5] ⊆ O.lhdcRevisionPositions codecId := List.subset_append_left _ _
  have layout := fun (P : List Nat) (same : O.lhdcRevisionPositions codecId = [0, 1, 2, 3, 4, 5] ++ P) =>
    same ▸ List.subset_append_right [0, 1, 2, 3, 4, 5] P
  by_cases invalid : a2dpIsSourceCodecValid K F c.otaCodecConfig = false
  case pos => rw [if_pos invalid]; exact zeroed
  rw [if_neg invalid]
  split
  · exact zeroed.setInfo_header header (by rfl)
  · exact zeroed.setInfo_header header (by rfl)
  · rw [if_neg fun ldac => ids.ldac_lhdc ldac.1.symm]
    by_cases v3 : codecId = O.lhdcv3CodecId
    case pos =>
      rw [if_pos ⟨rfl, v3⟩]
      exact (zeroed.setInfo_header header (by rfl)).encodeLhdcv3 _ _
        (layout _ (by rw [OffloadConstants.lhdcRevisionPositions, if_pos v3]))
    rw [if_neg fun found => v3 found.2]
    by_cases v2 : codecId = O.lhdcv2CodecId
    case pos =>
      rw [if_pos ⟨rfl, v2⟩]
      exact (zeroed.setInfo_header header (by rfl)).encodeLhdcv2 _ _
        (layout _ (by rw [OffloadConstants.lhdcRevisionPositions, if_neg v3, if_pos v2]))
    rw [if_neg fun found => v2 found.2]
    by_cases v5 : codecId = O.lhdcv5CodecId
    case pos =>
      rw [if_pos ⟨rfl, v5⟩]
      exact (zeroed.setInfo_header header (by rfl)).encodeLhdcv5 _ _
        (layout _ (by rw [OffloadConstants.lhdcRevisionPositions, if_neg v3, if_neg v2]))
    rw [if_neg fun found => v5 found.2]
    exact zeroed.setInfo_header header (by rfl)
  · exact zeroed

theorem get_not_mem_of_nodup {L : List Nat} {n : Nat} (distinct : L.Nodup) (length : L.length = n)
    (k : Fin n) (ks : List (Fin n)) (other : k ∉ ks) :
    L.get (Fin.cast length.symm k) ∉ ks.map fun j => L.get (Fin.cast length.symm j) := fun found => by
  obtain ⟨j, member, same⟩ := List.mem_map.mp found
  have value := Fin.val_eq_of_eq (List.nodup_iff_injective_get.mp distinct same)
  have index : j = k := Fin.ext value
  exact other (index ▸ member)

/-- The fields a revision's layout does not have stay zero, whatever the family tag of the
element and whether the encode succeeds: LHDC v2 writes no min bit rate, frame duration or
codec specific 1, LHDC v3 no frame duration. The positions of the vendor header and of the
LHDC fields are taken distinct. -/
theorem getCodecSpecificConfig_lhdc_absent_fields (ids : O.DistinctIds)
    (distinct : ([0, 1, 2, 3, 4, 5] ++ O.lhdcPositions).Nodup) (c : A2dpCodecConfig)
    (lhdc : O.vendorCodecGetVendorId c.otaCodecConfig = O.lhdcVendorId) :
    (O.vendorCodecGetCodecId c.otaCodecConfig = O.lhdcv2CodecId →
      ∀ i ∈ [O.offloadLhdcCfgMinBitrateL, O.offloadLhdcCfgMinBitrateH, O.offloadLhdcCfgFrameDur,
        O.offloadLhdcCfgSpec1], (c.getCodecSpecificConfig K F O).2.getD i 0 = 0) ∧
    (O.vendorCodecGetCodecId c.otaCodecConfig = O.lhdcv3CodecId →
      (c.getCodecSpecificConfig K F O).2.getD O.offloadLhdcCfgFrameDur 0 = 0) := by
  have confined := getCodecSpecificConfig_lhdc_confined K F ids c lhdc
  have absent := get_not_mem_of_nodup distinct (show _ = 17 from rfl)
  refine ⟨fun v2 => ?_, fun v3 => ?_⟩
  · rw [v2, OffloadConstants.lhdcRevisionPositions, if_neg (Ne.symm ids.v3_v2), if_pos rfl]
      at confined
    have written := (absent · [0, 1, 2, 3, 4, 5, 6, 7, 8, 9, 10, 14, 16])
    simp only [List.mem_cons, List.not_mem_nil, or_false]
    rintro i (rfl | rfl | rfl | rfl)
    · exact confined.zero _ (written 11 (by decide))
    · exact confined.zero _ (written 12 (by decide))
    · exact confined.zero _ (written 13 (by decide))
    · exact confined.zero _ (written 15 (by decide))
  · rw [v3, OffloadConstants.lhdcRevisionPositions, if_pos rfl] at confined
    exact confined.zero _
      (absent 13 [0, 1, 2, 3, 4, 5, 6, 7, 8, 9, 10, 11, 12, 14, 15, 16] (by decide))

end

/-- A descriptor whose OTA bytes are an LHDC v2 configuration in version 1 with no channel
split. -/
def lhdcv2OffloadCodec : A2dpCodecConfig :=
  { (default : A2dpCodecConfig) with
    otaCodecConfig := [11, 0, 0xFF, 0x3A, 0x05, 0, 0, 0x32, 0x4C, 0, 0x01, 0x01] }

theorem getCodecSpecificConfig_lhdc_absent_fields_lhdcv2 :
    sampleOffloadConstants.DistinctIds ∧
      ([0, 1, 2, 3, 4, 5] ++ sampleOffloadConstants.lhdcPositions).Nodup ∧
      sampleOffloadConstants.vendorCodecGetVendorId lhdcv2OffloadCodec.otaCodecConfig =
        sampleOffloadConstants.lhdcVendorId ∧
      (sampleOffloadConstants.vendorCodecGetCodecId lhdcv2OffloadCodec.otaCodecConfig =
          sampleOffloadConstants.lhdcv2CodecId →
        ∀ i ∈ [sampleOffloadConstants.offloadLhdcCfgMinBitrateL,
          sampleOffloadConstants.offloadLhdcCfgMinBitrateH,
          sampleOffloadConstants.offloadLhdcCfgFrameDur, sampleOffloadConstants.offloadLhdcCfgSpec1],
          (lhdcv2OffloadCodec.getCodecSpecificConfig sampleConstants
            (grantingImpl sampleConstants).toA2dpFamilyImpl sampleOffloadConstants).2.getD i 0 = 0) ∧
      (sampleOffloadConstants.vendorCodecGetCodecId lhdcv2OffloadCodec.otaCodecConfig =
          sampleOffloadConstants.lhdcv3CodecId →
        (lhdcv2OffloadCodec.getCodecSpecificConfig sampleConstants
          (grantingImpl sampleConstants).toA2dpFamilyImpl sampleOffloadConstants).2.getD
            sampleOffloadConstants.offloadLhdcCfgFrameDur 0 = 0) :=
  have ids : sampleOffloadConstants.DistinctIds := ⟨by decide, by decide, by decide, by decide⟩
  have distinct : ([0, 1, 2, 3, 4, 5] ++ sampleOffloadConstants.lhdcPositions).Nodup := by decide
  have lhdc : sampleOffloadConstants.vendorCodecGetVendorId lhdcv2OffloadCodec.otaCodecConfig =
      sampleOffloadConstants.lhdcVendorId := by decide
  ⟨ids, distinct, lhdc, getCodecSpecificConfig_lhdc_absent_fields _ _ ids distinct _ lhdc⟩

end A2dpCodec
