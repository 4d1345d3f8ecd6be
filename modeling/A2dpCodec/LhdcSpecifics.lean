import A2dpCodec.LhdcExtendApi
import Mathlib.Algebra.Group.Int

/-! # What "get A2DP specifics" hands back

`getLHDCA2DPSpecficV1` stores each of the four `codec_specific_*` fields of the snapshot a
request names as eight bytes at its head, the most significant first. When no two heads are
closer than eight bytes, the requester reads every field back as the 64-bit two's complement
of its value, and every byte outside the four fields is the one it put there. -/

namespace A2dpCodec

/-- How the requester reads a field stored most significant byte first: the value of the `k`
bytes from `head`, `none` past the buffer. -/
def readBigEndian (buf : List UInt8) (head : Nat) : Nat → Option Nat
  | 0 => some 0
  | k + 1 => do
    let high ← readBigEndian buf head k
    let b ← buf[head + k]?
    return high * 256 + b.toNat

/-- The first `k` bytes of an `int64_t` stored by `int64Byte` read back as its top `8k` bits. -/
theorem readBigEndian_int64Byte {buf : List UInt8} {head : Nat} {x : Int}
    (stored : ∀ j < 8, buf[head + j]? = some (int64Byte x j)) :
    ∀ k ≤ 8, readBigEndian buf head k = some ((BitVec.ofInt 64 x).toNat >>> (8 * (8 - k)))
  | 0, _ => by
    rw [readBigEndian, Nat.shiftRight_eq_div_pow, Nat.div_eq_of_lt (BitVec.isLt _)]
  | k + 1, inside => by
    have lower : 8 * (7 - k) = 8 * (8 - (k + 1)) := by omega
    have upper : 8 * (8 - k) = 8 * (8 - (k + 1)) + 8 := by omega
    rw [readBigEndian, readBigEndian_int64Byte stored k (by omega), stored k (by omega), int64Byte,
      lower, upper, Nat.shiftRight_add]
    generalize (BitVec.ofInt 64 x).toNat >>> (8 * (8 - (k + 1))) = m
    show some (m >>> 8 * 256 + m % 256) = some m
    rw [Nat.shiftRight_eq_div_pow]
    exact congrArg some (by omega)

/-! ## What a run of stores leaves in the buffer -/

theorem writeByte_eq_some {buf b : List UInt8} {i : Nat} {v : UInt8} :
    writeByte buf i v = some b ↔ i < buf.length ∧ buf.set i v = b := by
  by_cases inside : i < buf.length <;> simp [writeByte, inside]

theorem writeAt_cons (buf : List UInt8) (w : Nat × UInt8) (rest : List (Nat × UInt8)) :
    writeAt buf (w :: rest) = (writeByte buf w.1 w.2).bind fun b => writeAt b rest := rfl

theorem writeAt_getElem?_of_untouched {buf buf' : List UInt8} {writes : List (Nat × UInt8)}
    (written : writeAt buf writes = some buf') {i : Nat} (untouched : ∀ w ∈ writes, w.1 ≠ i) :
    buf'[i]? = buf[i]? := by
  induction writes generalizing buf with
  | nil => exact congrArg (·[i]?) (Option.some.inj written).symm
  | cons w rest ih =>
    obtain ⟨b, stored, later⟩ := Option.bind_eq_some.mp ((writeAt_cons buf w rest).symm.trans written)
    obtain ⟨-, rfl⟩ := writeByte_eq_some.mp stored
    rw [ih later fun w' member => untouched w' (.tail _ member),
      List.getElem?_set_ne (untouched w (.head _))]

theorem writeAt_getElem?_of_written {buf buf' : List UInt8} {writes : List (Nat × UInt8)}
    (written : writeAt buf writes = some buf') {i : Nat} {v : UInt8} (member : (i, v) ∈ writes)
    (only : ∀ w ∈ writes, w.1 = i → w.2 = v) : buf'[i]? = some v := by
  induction writes generalizing buf with
  | nil => cases member
  | cons w rest ih =>
    obtain ⟨b, stored, later⟩ := Option.bind_eq_some.mp ((writeAt_cons buf w rest).symm.trans written)
    obtain ⟨inside, rfl⟩ := writeByte_eq_some.mp stored
    by_cases again : ∃ w' ∈ rest, w'.1 = i
    · obtain ⟨w', member', position⟩ := again
      have value := only w' (.tail _ member') position
      exact ih later (position ▸ value ▸ member') fun w'' m => only w'' (.tail _ m)
    · have first : w = (i, v) := by
        rcases List.mem_cons.mp member with first | inRest
        · exact first.symm
        · exact absurd ⟨_, inRest, rfl⟩ again
      subst first
      rw [writeAt_getElem?_of_untouched later fun w' m same => again ⟨w', m, same⟩]
      exact List.getElem?_set_self inside

theorem swapInt64toByteArray_bytes {buf buf' : List UInt8} {head : Nat} {x : Int} {ok : Bool}
    (swapped : swapInt64toByteArray buf head x = some (ok, buf')) :
    (∀ j < 8, buf'[head + j]? = some (int64Byte x j)) ∧
      ∀ i, (i < head ∨ head + 8 ≤ i) → buf'[i]? = buf[i]? := by
  obtain ⟨b, written, ⟨⟩⟩ := Option.map_eq_some'.mp swapped
  have stores : ∀ w ∈ [7, 6, 5, 4, 3, 2, 1, 0].map fun j => (head + j, int64Byte x j),
      ∃ j < 8, w = (head + j, int64Byte x j) := by
    simp only [List.mem_map, List.mem_cons, List.not_mem_nil, or_false]
    rintro w ⟨j, member, rfl⟩
    exact ⟨j, by omega, rfl⟩
  constructor
  · intro j byte
    have position : j ∈ [7, 6, 5, 4, 3, 2, 1, 0] := by
      simp only [List.mem_cons, List.not_mem_nil, or_false]
      omega
    refine writeAt_getElem?_of_written written (List.mem_map_of_mem _ position) fun w member same => ?_
    obtain ⟨j', -, rfl⟩ := stores w member
    obtain rfl : j' = j := by simp only at same; omega
    rfl
  · intro i outside
    refine writeAt_getElem?_of_untouched written fun w member same => ?_
    obtain ⟨j, byte, rfl⟩ := stores w member
    simp only at same
    omega

theorem copySpecifics_bytes {buf buf' : List UInt8} {specifics : List (Nat × Int)}
    (copied : copySpecifics buf specifics = some (true, buf'))
    (apart : specifics.Pairwise fun a b => a.1 + 8 ≤ b.1 ∨ b.1 + 8 ≤ a.1) :
    (∀ f ∈ specifics, ∀ j < 8, buf'[f.1 + j]? = some (int64Byte f.2 j)) ∧
      ∀ i, (∀ f ∈ specifics, i < f.1 ∨ f.1 + 8 ≤ i) → buf'[i]? = buf[i]? := by
  induction specifics generalizing buf with
  | nil =>
    cases copied
    exact ⟨nofun, fun _ _ => rfl⟩
  | cons f rest ih =>
    obtain ⟨head, x⟩ := f
    obtain ⟨⟨ok, b⟩, swapped, next⟩ := Option.bind_eq_some.mp copied
    cases ok
    case false => cases next
    obtain ⟨away, apartRest⟩ := List.pairwise_cons.mp apart
    obtain ⟨bytes, frame⟩ := swapInt64toByteArray_bytes swapped
    obtain ⟨restBytes, restFrame⟩ := ih next apartRest
    refine ⟨fun g member j byte => ?_, fun i outside =>
      (restFrame i fun g m => outside g (.tail _ m)).trans (frame i (outside _ (.head _)))⟩
    rcases List.mem_cons.mp member with rfl | later
    · rw [restFrame _ fun g m => by have := away g m; omega]
      exact bytes j byte
    · exact restBytes g later j byte

/-- No two heads of version 1 are closer than the eight bytes a field takes. -/
def LhdcExtendLayout.SpecificsApartV1 (L : LhdcExtendLayout) : Prop :=
  [L.specifics1HeadV1, L.specifics2HeadV1, L.specifics3HeadV1, L.specifics4HeadV1].Pairwise
    fun a b => a + 8 ≤ b ∨ b + 8 ≤ a

instance (L : LhdcExtendLayout) : Decidable L.SpecificsApartV1 :=
  inferInstanceAs (Decidable (List.Pairwise _ _))

theorem specifics_apart {h1 h2 h3 h4 : Nat}
    (apart : [h1, h2, h3, h4].Pairwise fun a b => a + 8 ≤ b ∨ b + 8 ≤ a) (cfg : BtavA2dpCodecConfig) :
    (cfg.specifics h1 h2 h3 h4).Pairwise fun a b => a.1 + 8 ≤ b.1 ∨ b.1 + 8 ≤ a.1 :=
  have heads : ((cfg.specifics h1 h2 h3 h4).map Prod.fst).Pairwise fun a b => a + 8 ≤ b ∨ b + 8 ≤ a :=
    apart
  List.pairwise_map.mp heads

theorem writeAt_block {buf buf' : List UInt8} {head : Nat} {bytes : List UInt8}
    (written : writeAt buf (bytes.enum.map fun (j, b) => (head + j, b)) = some buf') :
    (∀ j < bytes.length, buf'[head + j]? = bytes[j]?) ∧
      ∀ i, (i < head ∨ head + bytes.length ≤ i) → buf'[i]? = buf[i]? := by
  have stores : ∀ w ∈ bytes.enum.map fun (j, b) => (head + j, b),
      ∃ j < bytes.length, w = (head + j, bytes[j]?.getD 0) ∧ bytes[j]? = some w.2 := by
    rintro w member
    obtain ⟨⟨j, b⟩, enumerated, rfl⟩ := List.mem_map.mp member
    have stored : bytes[j]? = some b := List.mem_enum_iff_getElem?.mp enumerated
    exact ⟨j, List.fst_lt_of_mem_enum enumerated, by simp only [stored, Option.getD_some], stored⟩
  constructor
  · intro j inside
    have member := List.mem_map_of_mem (fun (j, b) => (head + j, b))
      (List.mk_mem_enum_iff_getElem?.mpr (List.getElem?_eq_getElem inside))
    rw [List.getElem?_eq_getElem inside]
    refine writeAt_getElem?_of_written written member fun w member' same => ?_
    obtain ⟨j', -, rfl, stored⟩ := stores w member'
    obtain rfl : j' = j := by simp only at same; omega
    exact Option.some.inj ((List.getElem?_eq_getElem inside).symm.trans stored).symm
  · intro i outside
    refine writeAt_getElem?_of_untouched written fun w member same => ?_
    obtain ⟨j, inside, rfl, -⟩ := stores w member
    simp only at same
    omega

theorem writeAt_length {buf buf' : List UInt8} {writes : List (Nat × UInt8)}
    (written : writeAt buf writes = some buf') : buf'.length = buf.length := by
  induction writes generalizing buf with
  | nil => exact congrArg List.length (Option.some.inj written).symm
  | cons w rest ih =>
    obtain ⟨b, stored, later⟩ := Option.bind_eq_some.mp ((writeAt_cons buf w rest).symm.trans written)
    obtain ⟨-, rfl⟩ := writeByte_eq_some.mp stored
    exact (ih later).trans (List.length_set _ _ _)

theorem readBigEndian_congr {buf buf' : List UInt8} {head : Nat} :
    ∀ {k}, (∀ j < k, buf'[head + j]? = buf[head + j]?) → readBigEndian buf' head k = readBigEndian buf head k
  | 0, _ => rfl
  | k + 1, same => by
    rw [readBigEndian, readBigEndian, readBigEndian_congr fun j below => same j (by omega), same k (by omega)]

/-- What the requester finds after a copy of `fields` and of a `metadata` block (its head and
bytes; `(0, [])` when there is none): the length its buffer had, each field reading back as
its `int64_t` bits, the block at its head, and every other byte as it put it. -/
structure HandsBack (fields : List (Nat × Int)) (metadata : Nat × List UInt8) (buf buf' : List UInt8) :
    Prop where
  length : buf'.length = buf.length
  readBack : ∀ f ∈ fields, readBigEndian buf' f.1 8 = some (f.2 % 2 ^ 64).toNat
  block : ∀ j < metadata.2.length, buf'[metadata.1 + j]? = metadata.2[j]?
  outside : ∀ i, (∀ f ∈ fields, i < f.1 ∨ f.1 + 8 ≤ i) →
    (i < metadata.1 ∨ metadata.1 + metadata.2.length ≤ i) → buf'[i]? = buf[i]?

theorem copySpecifics_handsBack (buf : List UInt8) {specifics : List (Nat × Int)}
    (fit : ∀ f ∈ specifics, f.1 + 8 ≤ buf.length)
    (apart : specifics.Pairwise fun a b => a.1 + 8 ≤ b.1 ∨ b.1 + 8 ≤ a.1) :
    ∃ buf', copySpecifics buf specifics = some (true, buf') ∧ HandsBack specifics (0, []) buf buf' := by
  obtain ⟨buf', copied, length⟩ := copySpecifics_some buf fit
  obtain ⟨bytes, outside⟩ := copySpecifics_bytes copied apart
  refine ⟨buf', copied, length, fun f member => ?_, nofun, fun i away _ => outside i away⟩
  rw [readBigEndian_int64Byte (bytes f member) 8 (Nat.le_refl 8), BitVec.toNat_ofInt]
  simp

theorem HandsBack.withMetadata {fields : List (Nat × Int)} {buf mid buf' : List UInt8} {head : Nat}
    {bytes : List UInt8} (copied : HandsBack fields (0, []) buf mid)
    (written : writeAt mid (bytes.enum.map fun (j, b) => (head + j, b)) = some buf')
    (before : ∀ f ∈ fields, f.1 + 8 ≤ head) : HandsBack fields (head, bytes) buf buf' := by
  obtain ⟨block, frame⟩ := writeAt_block written
  refine ⟨(writeAt_length written).trans copied.length, fun f member => ?_, block,
    fun i away beside => (frame i beside).trans (copied.outside i away (.inr (Nat.zero_le i)))⟩
  rw [← copied.readBack f member]
  exact readBigEndian_congr fun j below => frame _ (.inl (by have := before f member; omega))

/-- The four fields a version 1 copy stores, at their heads. -/
def LhdcExtendLayout.fieldsV1 (L : LhdcExtendLayout) (cfg : BtavA2dpCodecConfig) : List (Nat × Int) :=
  cfg.specifics L.specifics1HeadV1 L.specifics2HeadV1 L.specifics3HeadV1 L.specifics4HeadV1

/-- The four fields a version 2 copy stores, at their heads. -/
def LhdcExtendLayout.fieldsV2 (L : LhdcExtendLayout) (cfg : BtavA2dpCodecConfig) : List (Nat × Int) :=
  cfg.specifics L.specifics1HeadV2 L.specifics2HeadV2 L.specifics3HeadV2 L.specifics4HeadV2

/-- No two heads of version 2 are closer than eight bytes, and every field ends before the
capability metadata. -/
def LhdcExtendLayout.SpecificsApartV2 (L : LhdcExtendLayout) : Prop :=
  [L.specifics1HeadV2, L.specifics2HeadV2, L.specifics3HeadV2, L.specifics4HeadV2].Pairwise
      (fun a b => a + 8 ≤ b ∨ b + 8 ≤ a) ∧
    ∀ h ∈ [L.specifics1HeadV2, L.specifics2HeadV2, L.specifics3HeadV2, L.specifics4HeadV2],
      h + 8 ≤ L.capmetaHeadV2

instance (L : LhdcExtendLayout) : Decidable L.SpecificsApartV2 :=
  inferInstanceAs (Decidable (_ ∧ _))

theorem getLHDCA2DPSpecficV1_handsBack {L : LhdcExtendLayout} (wf : L.WellFormed)
    (apart : L.SpecificsApartV1) (cfg : BtavA2dpCodecConfig) {buf : List UInt8} {clen : Int}
    (length : (buf.length : Int) = clen) (room : L.totalFixedSizeV1 ≤ buf.length) :
    ∃ buf', getLHDCA2DPSpecficV1 L cfg buf clen = some (true, buf') ∧
      HandsBack (L.fieldsV1 cfg) (0, []) buf buf' := by
  obtain ⟨buf', copied, handsBack⟩ :=
    copySpecifics_handsBack buf (specifics_fit wf.specificsV1 room cfg) (specifics_apart apart cfg)
  exact ⟨buf', by rw [getLHDCA2DPSpecficV1, if_neg (by omega), copied], handsBack⟩

theorem getLHDCA2DPSpecficV2_handsBack {L : LhdcExtendLayout} {ext : LhdcExtendImpl}
    (wf : L.WellFormed) (apart : L.SpecificsApartV2) {capabilities : List UInt8}
    (vector : ext.getSrcCapVectorLhdcv3 = some capabilities)
    (capFits : L.capmetaHeadV2 + capabilities.length ≤ L.totalFixedSizeV2) (cfg : BtavA2dpCodecConfig)
    {buf : List UInt8} {clen : Int} (length : (buf.length : Int) = clen)
    (room : L.totalFixedSizeV2 ≤ buf.length) :
    ∃ buf', getLHDCA2DPSpecficV2 L ext cfg buf clen = some (true, buf') ∧
      HandsBack (L.fieldsV2 cfg) (L.capmetaHeadV2, capabilities) buf buf' := by
  obtain ⟨mid, copied, handsBack⟩ :=
    copySpecifics_handsBack buf (specifics_fit wf.specificsV2 room cfg) (specifics_apart apart.1 cfg)
  obtain ⟨buf', written, -⟩ := writeAt_some mid (capabilities.enum.map fun (j, b) => (L.capmetaHeadV2 + j, b))
    fun w member => by
      obtain ⟨⟨j, b⟩, enumerated, rfl⟩ := List.mem_map.mp member
      have := List.fst_lt_of_mem_enum enumerated
      simp only [handsBack.length]
      omega
  have before : ∀ f ∈ L.fieldsV2 cfg, f.1 + 8 ≤ L.capmetaHeadV2 := by
    simp only [LhdcExtendLayout.fieldsV2, BtavA2dpCodecConfig.specifics, List.mem_cons,
      List.not_mem_nil, or_false]
    rintro f (rfl | rfl | rfl | rfl) <;> exact apart.2 _ (by simp)
  refine ⟨buf', ?_, handsBack.withMetadata written before⟩
  simp only [getLHDCA2DPSpecficV2, if_neg (show ¬clen < L.totalFixedSizeV2 by omega), copied, vector,
    written, Option.bind_eq_bind, Option.some_bind, Bool.not_true, Bool.false_eq_true, if_false]
  rfl

/-- Past the header of an LHDC v3 "get A2DP specifics" request that names a snapshot, the
request is the copy of the version its header asks for, its flag answered as a status. -/
theorem getLHDCCodecUserConfig_getSpecifics {K : A2dpConstants} {L : LhdcExtendLayout}
    (ext : LhdcExtendImpl) {s : A2dpCodecs} {peer current : A2dpCodecConfig} {k : Int}
    {buf : List UInt8} {clen : Int} {ver : UInt32} {type : UInt8} {snapshot : BtavA2dpCodecConfig}
    (v3 : peer.codecIndex = K.sourceLhdcv3) (notV5 : K.sourceLhdcv3 ≠ K.sourceLhdcv5)
    (isCurrent : s.current = some (k, current))
    (long : ((L.apiVersionSize + L.apiCodeSize : Nat) : Int) ≤ clen)
    (a2dpType : buf[L.apiCodeHead]? = some L.a2dpTypeMask) (version : readBigEndian32 buf 0 = some ver)
    (getSpecific : readBigEndian32 buf 4 = some L.codeGetSpecific)
    (typeByte : buf[L.a2dpCfgCodeHead]? = some type)
    (named : L.specificsTarget current type = some snapshot) :
    s.getLHDCCodecUserConfig K L ext (some peer) (some buf) clen =
      (if ver = L.verGetSpecificV1 then getLHDCA2DPSpecficV1 L snapshot buf clen
        else if ver = L.verGetSpecificV2 then getLHDCA2DPSpecficV2 L ext snapshot buf clen
        else some (false, buf)).map
        fun (ok, p) => (if ok then L.btStatusSuccess else L.btStatusFail, some p) := by
  simp only [A2dpCodecs.getLHDCCodecUserConfig, v3, notV5, if_false, if_true, a2dpType,
    Int.not_lt.mpr long, isCurrent, version, getSpecific, typeByte, named, Option.bind_eq_bind,
    Option.some_bind, Option.pure_def, Option.map_eq_bind]
  split_ifs <;> rfl

/-- A version 1 "get A2DP specifics" request to an LHDC v3 codec, in a buffer that holds
the header and the fixed size, answers success and hands back the four fields of the
snapshot its type byte names. -/
theorem getLHDCCodecUserConfig_getSpecificsV1 {K : A2dpConstants} {L : LhdcExtendLayout}
    (ext : LhdcExtendImpl) (wf : L.WellFormed) (apart : L.SpecificsApartV1) {s : A2dpCodecs}
    {peer current : A2dpCodecConfig} {k : Int} {buf : List UInt8} {clen : Int} {type : UInt8}
    {snapshot : BtavA2dpCodecConfig} (v3 : peer.codecIndex = K.sourceLhdcv3)
    (notV5 : K.sourceLhdcv3 ≠ K.sourceLhdcv5) (isCurrent : s.current = some (k, current))
    (length : (buf.length : Int) = clen) (header : L.apiVersionSize + L.apiCodeSize ≤ buf.length)
    (room : L.totalFixedSizeV1 ≤ buf.length) (a2dpType : buf[L.apiCodeHead]? = some L.a2dpTypeMask)
    (version : readBigEndian32 buf 0 = some L.verGetSpecificV1)
    (getSpecific : readBigEndian32 buf 4 = some L.codeGetSpecific)
    (typeByte : buf[L.a2dpCfgCodeHead]? = some type)
    (named : L.specificsTarget current type = some snapshot) :
    ∃ buf', s.getLHDCCodecUserConfig K L ext (some peer) (some buf) clen =
      some (L.btStatusSuccess, some buf') ∧ HandsBack (L.fieldsV1 snapshot) (0, []) buf buf' := by
  obtain ⟨buf', copied, handsBack⟩ := getLHDCA2DPSpecficV1_handsBack wf apart snapshot length room
  refine ⟨buf', ?_, handsBack⟩
  rw [getLHDCCodecUserConfig_getSpecifics ext v3 notV5 isCurrent (by omega) a2dpType version
    getSpecific typeByte named, if_pos rfl, copied]
  rfl

/-- A version 1 "get A2DP specifics" request for the final config, in a 48-byte buffer. -/
def sampleLhdcRequestV1 : List UInt8 :=
  [1, 0, 0, 0, 0x0A, 1, 0, 1, 1] ++ List.replicate 39 0

theorem getLHDCCodecUserConfig_getSpecificsV1_sample :
    sampleLhdcLayout.WellFormed ∧ sampleLhdcLayout.SpecificsApartV1 ∧
      lhdcv3SpecificsCodec.codecIndex = sampleConstants.sourceLhdcv3 ∧
      sampleConstants.sourceLhdcv3 ≠ sampleConstants.sourceLhdcv5 ∧
      (soleCodecRegistry lhdcv3SpecificsCodec).current = some (8, lhdcv3SpecificsCodec) ∧
      (sampleLhdcRequestV1.length : Int) = 48 ∧
      sampleLhdcLayout.apiVersionSize + sampleLhdcLayout.apiCodeSize ≤ sampleLhdcRequestV1.length ∧
      sampleLhdcLayout.totalFixedSizeV1 ≤ sampleLhdcRequestV1.length ∧
      sampleLhdcRequestV1[sampleLhdcLayout.apiCodeHead]? = some sampleLhdcLayout.a2dpTypeMask ∧
      readBigEndian32 sampleLhdcRequestV1 0 = some sampleLhdcLayout.verGetSpecificV1 ∧
      readBigEndian32 sampleLhdcRequestV1 4 = some sampleLhdcLayout.codeGetSpecific ∧
      sampleLhdcRequestV1[sampleLhdcLayout.a2dpCfgCodeHead]? = some 1 ∧
      sampleLhdcLayout.specificsTarget lhdcv3SpecificsCodec 1 = some lhdcv3SpecificsCodec.codecConfig ∧
      ∃ buf', (soleCodecRegistry lhdcv3SpecificsCodec).getLHDCCodecUserConfig sampleConstants
          sampleLhdcLayout sampleLhdcExtend (some lhdcv3SpecificsCodec) (some sampleLhdcRequestV1) 48 =
          some (sampleLhdcLayout.btStatusSuccess, some buf') ∧
        HandsBack (sampleLhdcLayout.fieldsV1 lhdcv3SpecificsCodec.codecConfig) (0, [])
          sampleLhdcRequestV1 buf' := by
  have wf : sampleLhdcLayout.WellFormed := ⟨by decide, by decide, by decide⟩
  exact ⟨wf, by decide, rfl, by decide, rfl, rfl, by decide, by decide, rfl, rfl, rfl, rfl, rfl,
    getLHDCCodecUserConfig_getSpecificsV1 sampleLhdcExtend wf (by decide) rfl (by decide) rfl rfl
      (by decide) (by decide) rfl rfl rfl rfl rfl⟩

/-- A version 2 "get A2DP specifics" request to an LHDC v3 codec, in a buffer that holds the
header and the fixed size, with a capability vector that fits, answers success and hands back
the four fields of the named snapshot and the vector at the metadata head. -/
theorem getLHDCCodecUserConfig_getSpecificsV2 {K : A2dpConstants} {L : LhdcExtendLayout}
    {ext : LhdcExtendImpl} (wf : L.WellFormed) (apart : L.SpecificsApartV2)
    (versions : L.verGetSpecificV2 ≠ L.verGetSpecificV1) {capabilities : List UInt8}
    (vector : ext.getSrcCapVectorLhdcv3 = some capabilities)
    (capFits : L.capmetaHeadV2 + capabilities.length ≤ L.totalFixedSizeV2) {s : A2dpCodecs}
    {peer current : A2dpCodecConfig} {k : Int} {buf : List UInt8} {clen : Int} {type : UInt8}
    {snapshot : BtavA2dpCodecConfig} (v3 : peer.codecIndex = K.sourceLhdcv3)
    (notV5 : K.sourceLhdcv3 ≠ K.sourceLhdcv5) (isCurrent : s.current = some (k, current))
    (length : (buf.length : Int) = clen) (header : L.apiVersionSize + L.apiCodeSize ≤ buf.length)
    (room : L.totalFixedSizeV2 ≤ buf.length) (a2dpType : buf[L.apiCodeHead]? = some L.a2dpTypeMask)
    (version : readBigEndian32 buf 0 = some L.verGetSpecificV2)
    (getSpecific : readBigEndian32 buf 4 = some L.codeGetSpecific)
    (typeByte : buf[L.a2dpCfgCodeHead]? = some type)
    (named : L.specificsTarget current type = some snapshot) :
    ∃ buf', s.getLHDCCodecUserConfig K L ext (some peer) (some buf) clen =
      some (L.btStatusSuccess, some buf') ∧
        HandsBack (L.fieldsV2 snapshot) (L.capmetaHeadV2, capabilities) buf buf' := by
  obtain ⟨buf', copied, handsBack⟩ :=
    getLHDCA2DPSpecficV2_handsBack wf apart vector capFits snapshot length room
  refine ⟨buf', ?_, handsBack⟩
  rw [getLHDCCodecUserConfig_getSpecifics ext v3 notV5 isCurrent (by omega) a2dpType version
    getSpecific typeByte named, if_neg versions, if_pos rfl, copied]
  rfl

theorem getLHDCCodecUserConfig_getSpecificsV2_sample :
    sampleLhdcLayout.WellFormed ∧ sampleLhdcLayout.SpecificsApartV2 ∧
      sampleLhdcLayout.verGetSpecificV2 ≠ sampleLhdcLayout.verGetSpecificV1 ∧
      sampleLhdcExtend.getSrcCapVectorLhdcv3 = some (List.replicate 11 0) ∧
      sampleLhdcLayout.capmetaHeadV2 + (List.replicate 11 (0 : UInt8)).length ≤
        sampleLhdcLayout.totalFixedSizeV2 ∧
      lhdcv3SpecificsCodec.codecIndex = sampleConstants.sourceLhdcv3 ∧
      sampleConstants.sourceLhdcv3 ≠ sampleConstants.sourceLhdcv5 ∧
      (soleCodecRegistry lhdcv3SpecificsCodec).current = some (8, lhdcv3SpecificsCodec) ∧
      (sampleLhdcRequest.length : Int) = 64 ∧
      sampleLhdcLayout.apiVersionSize + sampleLhdcLayout.apiCodeSize ≤ sampleLhdcRequest.length ∧
      sampleLhdcLayout.totalFixedSizeV2 ≤ sampleLhdcRequest.length ∧
      sampleLhdcRequest[sampleLhdcLayout.apiCodeHead]? = some sampleLhdcLayout.a2dpTypeMask ∧
      readBigEndian32 sampleLhdcRequest 0 = some sampleLhdcLayout.verGetSpecificV2 ∧
      readBigEndian32 sampleLhdcRequest 4 = some sampleLhdcLayout.codeGetSpecific ∧
      sampleLhdcRequest[sampleLhdcLayout.a2dpCfgCodeHead]? = some 1 ∧
      sampleLhdcLayout.specificsTarget lhdcv3SpecificsCodec 1 = some lhdcv3SpecificsCodec.codecConfig ∧
      ∃ buf', (soleCodecRegistry lhdcv3SpecificsCodec).getLHDCCodecUserConfig sampleConstants
          sampleLhdcLayout sampleLhdcExtend (some lhdcv3SpecificsCodec) (some sampleLhdcRequest) 64 =
          some (sampleLhdcLayout.btStatusSuccess, some buf') ∧
        HandsBack (sampleLhdcLayout.fieldsV2 lhdcv3SpecificsCodec.codecConfig)
          (sampleLhdcLayout.capmetaHeadV2, List.replicate 11 0) sampleLhdcRequest buf' := by
  have wf : sampleLhdcLayout.WellFormed := ⟨by decide, by decide, by decide⟩
  exact ⟨wf, by decide, by decide, rfl, by decide, rfl, by decide, rfl, rfl, by decide, by decide,
    rfl, rfl, rfl, rfl, rfl,
    getLHDCCodecUserConfig_getSpecificsV2 wf (by decide) (by decide) rfl (by decide) rfl (by decide)
      rfl rfl (by decide) (by decide) rfl rfl rfl rfl rfl⟩

end A2dpCodec
