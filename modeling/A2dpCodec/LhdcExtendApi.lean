import A2dpCodec.Run

/-! # The LHDC extended API

`A2dpCodecs::getLHDCCodecUserConfig`: the caller passes a request in a byte buffer of `clen`
bytes. For LHDC v3 the registry decodes the request header and, for "get A2DP specifics",
writes the codec-specific fields of one snapshot of the current codec back into the buffer.
A buffer is a list with checked reads and writes: `none` is an access outside `[0, clen)`. -/

namespace A2dpCodec

/-- The constants of the LHDC extended API. They come from vendor headers that are not part
of this file, so every result here holds for all of them. -/
structure LhdcExtendLayout where
  apiVersionSize : Nat
  apiCodeSize : Nat
  apiCodeHead : Nat
  a2dpCfgCodeHead : Nat
  a2dpTypeMask : UInt8
  libTypeMask : UInt8
  codeGetSpecific : UInt32
  verGetSpecificV1 : UInt32
  verGetSpecificV2 : UInt32
  typeSpecificsFinalCfg : UInt8
  typeSpecificsFinalCap : UInt8
  typeSpecificsLocalCap : UInt8
  typeSpecificsSelectableCap : UInt8
  typeSpecificsUserCfg : UInt8
  typeSpecificsAudioCfg : UInt8
  totalFixedSizeV1 : Nat
  specifics1HeadV1 : Nat
  specifics2HeadV1 : Nat
  specifics3HeadV1 : Nat
  specifics4HeadV1 : Nat
  totalFixedSizeV2 : Nat
  specifics1HeadV2 : Nat
  specifics2HeadV2 : Nat
  specifics3HeadV2 : Nat
  specifics4HeadV2 : Nat
  capmetaHeadV2 : Nat
  btStatusSuccess : Int
  btStatusFail : Int

/-- The functions `getLHDCCodecUserConfig` calls that are implemented outside this file. -/
structure LhdcExtendImpl where
  /-- `A2dpCodecConfig::getLhdcExtendAPIConfig`, the LHDC v5 handler. -/
  getLhdcExtendAPIConfig : A2dpCodecConfig → List UInt8 → Int → Int
  /-- `A2dpCodecConfigLhdcV3::getEncoderExtendFuncUserConfig`, the library requests. -/
  getEncoderExtendFuncUserConfig : List UInt8 → Int → Int
  /-- `A2DP_VendorGetSrcCapVectorLhdcv3`: the capability bytes it writes, `none` when it
  fails. -/
  getSrcCapVectorLhdcv3 : Option (List UInt8)

/-- A store into the buffer; `none` outside it. -/
def writeByte (buf : List UInt8) (i : Nat) (v : UInt8) : Option (List UInt8) :=
  if i < buf.length then some (buf.set i v) else none

/-- Stores in order. -/
def writeAt (buf : List UInt8) (writes : List (Nat × UInt8)) : Option (List UInt8) :=
  writes.foldlM (fun b w => writeByte b w.1 w.2) buf

/-- Byte `j` (the most significant first) of the `int64_t` `x`. -/
def int64Byte (x : Int) (j : Nat) : UInt8 :=
  UInt8.ofNat ((BitVec.ofInt 64 x).toNat >>> (8 * (7 - j)))

/-- `swapInt64toByteArray(&buf[head], integer64)`: the eight bytes of `integer64`, the most
significant first, stored from `byteArray[7]` down to `byteArray[0]`. Its null check cannot
fire on a pointer into the buffer, so it returns true. -/
def swapInt64toByteArray (buf : List UInt8) (head : Nat) (integer64 : Int) :
    Option (Bool × List UInt8) :=
  (writeAt buf ([7, 6, 5, 4, 3, 2, 1, 0].map fun j => (head + j, int64Byte integer64 j))).map
    (true, ·)

/-- The `&&` chain of `swapInt64toByteArray` calls that copies the four codec-specific fields
to their heads, stopping at the first that returns false. -/
def copySpecifics (buf : List UInt8) : List (Nat × Int) → Option (Bool × List UInt8)
  | [] => some (true, buf)
  | (head, x) :: rest => do
    let (ok, buf) ← swapInt64toByteArray buf head x
    if ok then copySpecifics buf rest else some (false, buf)

/-- The four fields in the order both versions copy them, at the given heads. -/
def BtavA2dpCodecConfig.specifics (cfg : BtavA2dpCodecConfig) (h1 h2 h3 h4 : Nat) : List (Nat × Int) :=
  [(h1, cfg.codecSpecific1), (h2, cfg.codecSpecific2), (h3, cfg.codecSpecific3),
    (h4, cfg.codecSpecific4)]

section
variable (K : A2dpConstants) (L : LhdcExtendLayout) (ext : LhdcExtendImpl)

/-- `getLHDCA2DPSpecficV1`. -/
def getLHDCA2DPSpecficV1 (a2dpCfg : BtavA2dpCodecConfig) (pucConfig : List UInt8) (clen : Int) :
    Option (Bool × List UInt8) :=
  if clen < L.totalFixedSizeV1 then some (false, pucConfig)
  else copySpecifics pucConfig (a2dpCfg.specifics L.specifics1HeadV1 L.specifics2HeadV1
    L.specifics3HeadV1 L.specifics4HeadV1)

/-- `getLHDCA2DPSpecficV2`: the copy of version 1 at the version 2 heads, then the capability
metadata. -/
def getLHDCA2DPSpecficV2 (a2dpCfg : BtavA2dpCodecConfig) (pucConfig : List UInt8) (clen : Int) :
    Option (Bool × List UInt8) :=
  if clen < L.totalFixedSizeV2 then some (false, pucConfig)
  else do
    let (ok, pucConfig) ← copySpecifics pucConfig (a2dpCfg.specifics L.specifics1HeadV2
      L.specifics2HeadV2 L.specifics3HeadV2 L.specifics4HeadV2)
    if !ok then return (false, pucConfig)
    match ext.getSrcCapVectorLhdcv3 with
    | some capabilities =>
      let pucConfig ← writeAt pucConfig (capabilities.enum.map fun (j, b) => (L.capmetaHeadV2 + j, b))
      return (true, pucConfig)
    | none => return (false, pucConfig)

/-- The snapshot a "get A2DP specifics" request names, `none` for an unknown type. -/
def LhdcExtendLayout.specificsTarget (c : A2dpCodecConfig) (type : UInt8) :
    Option BtavA2dpCodecConfig :=
  if type = L.typeSpecificsFinalCfg then some c.codecConfig
  else if type = L.typeSpecificsFinalCap then some c.codecCapability
  else if type = L.typeSpecificsLocalCap then some c.codecLocalCapability
  else if type = L.typeSpecificsSelectableCap then some c.codecSelectableCapability
  else if type = L.typeSpecificsUserCfg then some c.codecUserConfig
  else if type = L.typeSpecificsAudioCfg then some c.codecAudioConfig
  else none

/-- The `unsigned int` stored big-endian in the four bytes from `head`: the request header
holds `exFuncVer` in bytes 0 to 3 and `exFuncCode` in bytes 4 to 7. -/
def readBigEndian32 (buf : List UInt8) (head : Nat) : Option UInt32 := do
  let b0 ← buf[head]?
  let b1 ← buf[head + 1]?
  let b2 ← buf[head + 2]?
  let b3 ← buf[head + 3]?
  return b0.toUInt32 <<< 24 ||| b1.toUInt32 <<< 16 ||| b2.toUInt32 <<< 8 ||| b3.toUInt32

/-- `A2dpCodecs::getLHDCCodecUserConfig`: the status it returns and the caller's buffer after
it (`none` for a null buffer), or `none` when an access falls outside the buffer. -/
def A2dpCodecs.getLHDCCodecUserConfig (s : A2dpCodecs) (peerCodec : Option A2dpCodecConfig)
    (codecConfig : Option (List UInt8)) (clen : Int) : Option (Int × Option (List UInt8)) :=
  match peerCodec, codecConfig with
  | some peerCodec, some pucConfig =>
    if peerCodec.codecIndex = K.sourceLhdcv5 then
      some (ext.getLhdcExtendAPIConfig peerCodec pucConfig clen, some pucConfig)
    else if peerCodec.codecIndex = K.sourceLhdcv3 then do
      let apiType ← pucConfig[L.apiCodeHead]?
      if apiType = L.a2dpTypeMask then
        if clen < (L.apiVersionSize + L.apiCodeSize : Nat) then return (L.btStatusFail, some pucConfig)
        match s.current with
        | none => return (L.btStatusFail, some pucConfig)
        | some (_, a2dpCodecConfig) =>
          let exFuncVer ← readBigEndian32 pucConfig 0
          let exFuncCode ← readBigEndian32 pucConfig 4
          if exFuncCode = L.codeGetSpecific then
            match L.specificsTarget a2dpCodecConfig (← pucConfig[L.a2dpCfgCodeHead]?) with
            | none => return (L.btStatusFail, some pucConfig)
            | some codecConfigTmp =>
              if exFuncVer = L.verGetSpecificV1 then
                let (ok, pucConfig) ← getLHDCA2DPSpecficV1 L codecConfigTmp pucConfig clen
                return (if ok then L.btStatusSuccess else L.btStatusFail, some pucConfig)
              else if exFuncVer = L.verGetSpecificV2 then
                let (ok, pucConfig) ← getLHDCA2DPSpecficV2 L ext codecConfigTmp pucConfig clen
                return (if ok then L.btStatusSuccess else L.btStatusFail, some pucConfig)
              else return (L.btStatusFail, some pucConfig)
          else return (L.btStatusFail, some pucConfig)
      else if apiType = L.libTypeMask then
        return (ext.getEncoderExtendFuncUserConfig pucConfig clen, some pucConfig)
      else return (L.btStatusFail, some pucConfig)
    else some (L.btStatusFail, some pucConfig)
  | _, _ => some (L.btStatusFail, codecConfig)

theorem writeAt_some (buf : List UInt8) (writes : List (Nat × UInt8))
    (inside : ∀ w ∈ writes, w.1 < buf.length) :
    ∃ buf', writeAt buf writes = some buf' ∧ buf'.length = buf.length := by
  induction writes generalizing buf with
  | nil => exact ⟨buf, rfl, rfl⟩
  | cons w rest ih =>
    have stored : writeByte buf w.1 w.2 = some (buf.set w.1 w.2) := if_pos (inside w (.head _))
    obtain ⟨buf', written, length⟩ := ih (buf.set w.1 w.2)
      fun w' member => (List.length_set buf w.1 w.2).symm ▸ inside w' (.tail _ member)
    refine ⟨buf', ?_, length.trans (List.length_set _ _ _)⟩
    simpa only [writeAt, List.foldlM_cons, stored, Option.bind_eq_bind, Option.some_bind] using written

theorem swapInt64toByteArray_some {buf : List UInt8} {head : Nat} (fits : head + 8 ≤ buf.length)
    (x : Int) : ∃ buf', swapInt64toByteArray buf head x = some (true, buf') ∧ buf'.length = buf.length := by
  obtain ⟨buf', written, length⟩ := writeAt_some buf
    ([7, 6, 5, 4, 3, 2, 1, 0].map fun j => (head + j, int64Byte x j))
    (by simp only [List.map_cons, List.map_nil, List.mem_cons, List.not_mem_nil, or_false]
        rintro w (rfl | rfl | rfl | rfl | rfl | rfl | rfl | rfl) <;> simp only <;> omega)
  exact ⟨buf', by simp only [swapInt64toByteArray, written, Option.map_some'], length⟩

theorem copySpecifics_some (buf : List UInt8) {specifics : List (Nat × Int)}
    (fit : ∀ f ∈ specifics, f.1 + 8 ≤ buf.length) :
    ∃ buf', copySpecifics buf specifics = some (true, buf') ∧ buf'.length = buf.length := by
  induction specifics generalizing buf with
  | nil => exact ⟨buf, rfl, rfl⟩
  | cons f rest ih =>
    obtain ⟨buf', swapped, length⟩ := swapInt64toByteArray_some (fit f (.head _)) f.2
    obtain ⟨buf'', copied, length'⟩ := ih buf' fun f' member => length ▸ fit f' (.tail _ member)
    refine ⟨buf'', ?_, length'.trans length⟩
    simp only [copySpecifics, swapped, Option.bind_eq_bind, Option.some_bind, if_true, copied]

theorem readBigEndian32_isSome {buf : List UInt8} {head : Nat} (inside : head + 4 ≤ buf.length) :
    (readBigEndian32 buf head).isSome := by
  simp (disch := omega) only [readBigEndian32, List.getElem?_eq_getElem, Option.bind_eq_bind,
    Option.some_bind, Option.pure_def, Option.isSome_some]

/-- The layout facts the two versions rely on: the request header covers the eight bytes
read from it, and every field copied fits in the size each version checks. -/
structure LhdcExtendLayout.WellFormed (L : LhdcExtendLayout) : Prop where
  header : 8 ≤ L.apiVersionSize + L.apiCodeSize
  specificsV1 : ∀ h ∈ [L.specifics1HeadV1, L.specifics2HeadV1, L.specifics3HeadV1, L.specifics4HeadV1],
    h + 8 ≤ L.totalFixedSizeV1
  specificsV2 : ∀ h ∈ [L.specifics1HeadV2, L.specifics2HeadV2, L.specifics3HeadV2, L.specifics4HeadV2],
    h + 8 ≤ L.totalFixedSizeV2

theorem specifics_fit {h1 h2 h3 h4 size : Nat} {buf : List UInt8}
    (fit : ∀ h ∈ [h1, h2, h3, h4], h + 8 ≤ size) (room : size ≤ buf.length) (cfg : BtavA2dpCodecConfig) :
    ∀ f ∈ cfg.specifics h1 h2 h3 h4, f.1 + 8 ≤ buf.length := by
  simp only [BtavA2dpCodecConfig.specifics, List.mem_cons, List.not_mem_nil, or_false] at fit ⊢
  rintro f (rfl | rfl | rfl | rfl) <;> exact Nat.le_trans (fit _ (by simp)) room

theorem isSome_bind_of_isSome {α β : Type} {x : Option α} {f : α → Option β} (hx : x.isSome)
    (hf : ∀ a, (f a).isSome) : (x.bind f).isSome := by
  cases x with
  | none => cases hx
  | some a => exact hf a

variable {L ext} (wf : L.WellFormed) {buf : List UInt8} {clen : Int}
  (length : (buf.length : Int) = clen)
include wf length

theorem getLHDCA2DPSpecficV1_isSome (cfg : BtavA2dpCodecConfig) :
    (getLHDCA2DPSpecficV1 L cfg buf clen).isSome := by
  unfold getLHDCA2DPSpecficV1
  split
  · rfl
  · obtain ⟨buf', copied, -⟩ := copySpecifics_some buf
      (specifics_fit wf.specificsV1 (by omega : L.totalFixedSizeV1 ≤ buf.length) cfg)
    rw [copied]
    rfl

theorem getLHDCA2DPSpecficV2_isSome
    (capFits : ∀ v, ext.getSrcCapVectorLhdcv3 = some v → L.capmetaHeadV2 + v.length ≤ L.totalFixedSizeV2)
    (cfg : BtavA2dpCodecConfig) : (getLHDCA2DPSpecficV2 L ext cfg buf clen).isSome := by
  unfold getLHDCA2DPSpecficV2
  split
  · rfl
  · obtain ⟨buf', copied, length'⟩ := copySpecifics_some buf
      (specifics_fit wf.specificsV2 (by omega : L.totalFixedSizeV2 ≤ buf.length) cfg)
    simp only [copied, Option.bind_eq_bind, Option.some_bind, Bool.not_true, Bool.false_eq_true,
      if_false]
    split
    · rename_i v cap
      obtain ⟨buf'', written, -⟩ := writeAt_some buf'
        (v.enum.map fun (j, b) => (L.capmetaHeadV2 + j, b)) (by
          intro w member
          obtain ⟨⟨j, b⟩, enumerated, rfl⟩ := List.mem_map.mp member
          have := List.fst_lt_of_mem_enum enumerated
          have := capFits v cap
          simp only at this ⊢
          omega)
      simp only [written, Option.some_bind]
      rfl
    · rfl

/-- The two bytes read before any length check are the only ones the caller has to supply:
once they lie inside the buffer, a well-formed layout keeps every other access of every path
inside it. The cases follow the branches of the source; past the header check the eight
header bytes are inside, and what is left are the two copies. -/
theorem getLHDCCodecUserConfig_inBounds
    (capFits : ∀ v, ext.getSrcCapVectorLhdcv3 = some v → L.capmetaHeadV2 + v.length ≤ L.totalFixedSizeV2)
    (s : A2dpCodecs) (peerCodec : Option A2dpCodecConfig) (codeHead : L.apiCodeHead < buf.length)
    (cfgHead : L.a2dpCfgCodeHead < buf.length) :
    (s.getLHDCCodecUserConfig K L ext peerCodec (some buf) clen).isSome := by
  have header := wf.header
  unfold A2dpCodecs.getLHDCCodecUserConfig
  cases peerCodec with
  | none => rfl
  | some peer =>
    dsimp only
    rw [List.getElem?_eq_getElem codeHead, List.getElem?_eq_getElem cfgHead]
    simp only [Option.bind_eq_bind, Option.some_bind]
    by_cases v5 : peer.codecIndex = K.sourceLhdcv5
    case pos => rw [if_pos v5]; rfl
    by_cases v3 : peer.codecIndex = K.sourceLhdcv3
    case neg => rw [if_neg v5, if_neg v3]; rfl
    rw [if_neg v5, if_pos v3]
    by_cases a2dp : buf[L.apiCodeHead] = L.a2dpTypeMask
    case neg => rw [if_neg a2dp]; split <;> rfl
    rw [if_pos a2dp]
    by_cases short : clen < ((L.apiVersionSize + L.apiCodeSize : Nat) : Int)
    case pos => rw [if_pos short]; rfl
    rw [if_neg short]
    simp only [Option.pure_def, Option.some_bind]
    rcases s.current with _ | ⟨_, current⟩
    · rfl
    refine isSome_bind_of_isSome (readBigEndian32_isSome (by omega)) fun ver =>
      isSome_bind_of_isSome (readBigEndian32_isSome (by omega)) fun code => ?_
    by_cases get : code = L.codeGetSpecific
    case neg => rw [if_neg get]; rfl
    rw [if_pos get]
    rcases L.specificsTarget current buf[L.a2dpCfgCodeHead] with _ | target
    · rfl
    dsimp only
    by_cases v1 : ver = L.verGetSpecificV1
    case pos =>
      rw [if_pos v1]
      exact isSome_bind_of_isSome (getLHDCA2DPSpecficV1_isSome wf length _) fun _ => rfl
    by_cases v2 : ver = L.verGetSpecificV2
    case pos =>
      rw [if_neg v1, if_pos v2]
      exact isSome_bind_of_isSome (getLHDCA2DPSpecficV2_isSome wf length capFits _) fun _ => rfl
    rw [if_neg v1, if_neg v2]; rfl
end

/-- A layout for the examples: the vendor's values are not part of the source. -/
def sampleLhdcLayout : LhdcExtendLayout where
  apiVersionSize := 4
  apiCodeSize := 4
  apiCodeHead := 4
  a2dpCfgCodeHead := 8
  a2dpTypeMask := 0x0A
  libTypeMask := 0x0C
  codeGetSpecific := 0x0A010001
  verGetSpecificV1 := 0x01000000
  verGetSpecificV2 := 0x02000000
  typeSpecificsFinalCfg := 1
  typeSpecificsFinalCap := 2
  typeSpecificsLocalCap := 3
  typeSpecificsSelectableCap := 4
  typeSpecificsUserCfg := 5
  typeSpecificsAudioCfg := 6
  totalFixedSizeV1 := 48
  specifics1HeadV1 := 16
  specifics2HeadV1 := 24
  specifics3HeadV1 := 32
  specifics4HeadV1 := 40
  totalFixedSizeV2 := 64
  specifics1HeadV2 := 16
  specifics2HeadV2 := 24
  specifics3HeadV2 := 32
  specifics4HeadV2 := 40
  capmetaHeadV2 := 48
  btStatusSuccess := 0
  btStatusFail := 1

/-- External handlers that answer success and an eleven-byte capability vector. -/
def sampleLhdcExtend : LhdcExtendImpl where
  getLhdcExtendAPIConfig _ _ _ := 0
  getEncoderExtendFuncUserConfig _ _ := 0
  getSrcCapVectorLhdcv3 := some (List.replicate 11 0)

/-- A version 2 "get A2DP specifics" request for the final config, in a 64-byte buffer. -/
def sampleLhdcRequest : List UInt8 :=
  [2, 0, 0, 0, 0x0A, 1, 0, 1, 1] ++ List.replicate 55 0

/-- An LHDC v3 descriptor whose current config carries a negative and a positive specific. -/
def lhdcv3SpecificsCodec : A2dpCodecConfig :=
  { (default : A2dpCodecConfig) with
    codecIndex := sampleConstants.sourceLhdcv3
    codecConfig := { (default : BtavA2dpCodecConfig) with codecSpecific1 := -1, codecSpecific2 := 0x8000 } }

/-- A registry holding one descriptor, current at its own index. -/
def soleCodecRegistry (c : A2dpCodecConfig) : A2dpCodecs where
  codecPriorities _ := none
  indexedCodecs i := if i = c.codecIndex then some c else none
  disabledCodecs _ := none
  orderedSourceCodecs := [c.codecIndex]
  orderedSinkCodecs := []
  currentCodecConfig := some c.codecIndex

theorem getLHDCCodecUserConfig_inBounds_sample :
    sampleLhdcLayout.WellFormed ∧ (sampleLhdcRequest.length : Int) = 64 ∧
      (∀ v, sampleLhdcExtend.getSrcCapVectorLhdcv3 = some v →
        sampleLhdcLayout.capmetaHeadV2 + v.length ≤ sampleLhdcLayout.totalFixedSizeV2) ∧
      sampleLhdcLayout.apiCodeHead < sampleLhdcRequest.length ∧
      sampleLhdcLayout.a2dpCfgCodeHead < sampleLhdcRequest.length ∧
      (soleCodecRegistry lhdcv3SpecificsCodec).current = some (8, lhdcv3SpecificsCodec) ∧
      ((soleCodecRegistry lhdcv3SpecificsCodec).getLHDCCodecUserConfig sampleConstants sampleLhdcLayout
        sampleLhdcExtend (some lhdcv3SpecificsCodec) (some sampleLhdcRequest) 64).isSome := by
  have wf : sampleLhdcLayout.WellFormed := ⟨by decide, by decide, by decide⟩
  have capFits : ∀ v, sampleLhdcExtend.getSrcCapVectorLhdcv3 = some v →
      sampleLhdcLayout.capmetaHeadV2 + v.length ≤ sampleLhdcLayout.totalFixedSizeV2 := by
    rintro v ⟨⟩
    decide
  exact ⟨wf, by decide, capFits, by decide, by decide, rfl,
    getLHDCCodecUserConfig_inBounds sampleConstants wf (by decide) capFits _ _ (by decide) (by decide)⟩

/-- An LHDC v3 request in an empty buffer: the API-code byte is read before any length
check, outside the buffer, whatever the layout, the external handlers and the registry. -/
theorem lhdcv3_request_reads_past_empty_buffer (L : LhdcExtendLayout) (ext : LhdcExtendImpl)
    (s : A2dpCodecs) (c : A2dpCodecConfig) :
    s.getLHDCCodecUserConfig sampleConstants L ext
      (some { c with codecIndex := sampleConstants.sourceLhdcv3 }) (some []) 0 = none := by
  simp [A2dpCodecs.getLHDCCodecUserConfig, sampleConstants]

/-! ## The other entry points of the extended API -/

/-- The handlers the other three entry points hand a request to; they are implemented
outside this file. -/
structure LhdcExtendHandlers where
  /-- `A2dpCodecConfig::setLhdcExtendAPIConfig`. -/
  setLhdcExtendAPIConfig : A2dpCodecConfig → List UInt8 → Int → Int
  /-- `A2dpCodecConfigLhdcV3::setEncoderExtendFuncUserConfig`. -/
  setEncoderExtendFuncUserConfig : List UInt8 → Int → Int
  /-- `A2dpCodecConfig::getLhdcExtendAPIVersion`. -/
  getLhdcExtendAPIVersion : A2dpCodecConfig → List UInt8 → Int → Int
  /-- `A2dpCodecConfigLhdcV3::getEncoderExtendFuncUserApiVer`. -/
  getEncoderExtendFuncUserApiVer : List UInt8 → Int → Int

section
variable (K : A2dpConstants) (L : LhdcExtendLayout) (h : LhdcExtendHandlers)

/-- The routing the entry points share: a null descriptor or buffer answers `fail`, an LHDC
v5 descriptor goes to its own handler, an LHDC v3 descriptor to the encoder library's, and
any other codec (LHDC v2 included) answers `fail`. -/
def lhdcExtendRoute {α : Type} (peerCodec : Option A2dpCodecConfig) (buf : Option (List UInt8))
    (fail : α) (v5 : A2dpCodecConfig → List UInt8 → α) (v3 : List UInt8 → α) : α :=
  match peerCodec, buf with
  | some peer, some b =>
    if peer.codecIndex = K.sourceLhdcv5 then v5 peer b
    else if peer.codecIndex = K.sourceLhdcv3 then v3 b
    else fail
  | _, _ => fail

/-- `A2dpCodecs::setLHDCCodecUserConfig`. -/
def setLHDCCodecUserConfig (peerCodec : Option A2dpCodecConfig)
    (codecConfig : Option (List UInt8)) (clen : Int) : Int :=
  lhdcExtendRoute K peerCodec codecConfig L.btStatusFail
    (fun peer b => h.setLhdcExtendAPIConfig peer b clen)
    (fun b => h.setEncoderExtendFuncUserConfig b clen)

/-- `A2dpCodecs::setLHDCCodecUserData`: true once a handler has the data (the handlers
return nothing). -/
def setLHDCCodecUserData (peerCodec : Option A2dpCodecConfig) (codecData : Option (List UInt8)) :
    Bool :=
  lhdcExtendRoute K peerCodec codecData false (fun _ _ => true) (fun _ => true)

/-- `A2dpCodecs::getLHDCCodecUserApiVer`. -/
def getLHDCCodecUserApiVer (peerCodec : Option A2dpCodecConfig) (version : Option (List UInt8))
    (clen : Int) : Int :=
  lhdcExtendRoute K peerCodec version L.btStatusFail
    (fun peer b => h.getLhdcExtendAPIVersion peer b clen)
    (fun b => h.getEncoderExtendFuncUserApiVer b clen)

end

end A2dpCodec
