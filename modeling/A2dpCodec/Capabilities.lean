import A2dpCodec.Ordering

/-! # What the registry reports to the session layer

`A2dpCodecs::getCodecConfigAndCapabilities` reports the current codec's config, the local
capability of every source codec and the selectable capabilities the session layer can use,
both lists in the order of `ordered_source_codecs_`. With the ownership and order invariants,
in every reachable state these lists are the capabilities of the enabled source codecs,
each once, from the highest priority down. -/

namespace A2dpCodec

open A2dpCodecs

/-- The all-zero `btav_a2dp_codec_config_t` the `memset` leaves. -/
def zeroBtavA2dpCodecConfig : BtavA2dpCodecConfig := ⟨0, 0, 0, 0, 0, 0, 0, 0, 0⟩

/-- A selectable capability the session layer can use: it names a sample rate, a sample
width and a channel mode. -/
def usableCapability (K : A2dpConstants) (c : BtavA2dpCodecConfig) : Bool :=
  !(c.sampleRate == K.sampleRateNone || c.bitsPerSample == K.bitsPerSampleNone ||
    c.channelMode == K.channelModeNone)

/-- The three out-parameters of `getCodecConfigAndCapabilities`. -/
structure CodecConfigAndCapabilities where
  codecConfig : BtavA2dpCodecConfig
  codecsLocalCapabilities : List BtavA2dpCodecConfig
  codecsSelectableCapabilities : List BtavA2dpCodecConfig

namespace A2dpCodecs

/-- `A2dpCodecs::isSupportedCodec`. -/
def isSupportedCodec (s : A2dpCodecs) (codecIndex : Int) : Bool := (s.indexedCodecs codecIndex).isSome

/-- `A2dpCodecs::getCodecConfigAndCapabilities`: it always returns true. -/
def getCodecConfigAndCapabilities (K : A2dpConstants) (s : A2dpCodecs) :
    Bool × CodecConfigAndCapabilities :=
  (true,
    { codecConfig := match s.current with
        | some (_, c) => c.codecConfig
        | none => zeroBtavA2dpCodecConfig
      codecsLocalCapabilities :=
        s.orderedSourceCodecs.map fun k => (s.codecAt k).codecLocalCapability
      codecsSelectableCapabilities :=
        (s.orderedSourceCodecs.map fun k => (s.codecAt k).codecSelectableCapability).filter
          (usableCapability K) })

end A2dpCodecs

section
variable {K : A2dpConstants} {s : A2dpCodecs} (own : Ownership K s)
include own

theorem Ownership.mem_map_codecAt_source (c : A2dpCodecConfig) :
    c ∈ s.orderedSourceCodecs.map s.codecAt ↔
      ∃ i, s.indexedCodecs i = some c ∧ i < K.indexSourceMax := by
  simp only [List.mem_map, own.mem_source]
  constructor
  · rintro ⟨i, ⟨enabled, source⟩, rfl⟩
    obtain ⟨c, found⟩ := Option.isSome_iff_exists.mp enabled
    exact ⟨i, by rw [codecAt, found]; rfl, source⟩
  · rintro ⟨i, found, source⟩
    exact ⟨i, ⟨by rw [found]; rfl, source⟩, by rw [codecAt, found]; rfl⟩

theorem Ownership.nodup_codecIndex_source :
    ((s.orderedSourceCodecs.map s.codecAt).map (·.codecIndex)).Nodup := by
  rw [List.map_map]
  refine (List.nodup_map_iff_inj_on own.source_nodup).mpr fun a ma b mb same => ?_
  simp only [Function.comp_apply] at same
  rwa [own.codecAt_codecIndex ((own.mem_source a).mp ma).1,
    own.codecAt_codecIndex ((own.mem_source b).mp mb).1] at same

end

/-- In every reachable state the two capability lists are those of the enabled source
descriptors, each once and sorted by `compare_codec_priority`: the local capability of every
one, and the selectable capability of every one whose capability names a sample rate, a
sample width and a channel mode. -/
theorem getCodecConfigAndCapabilities_of_reachable {impl : A2dpCodecImpl}
    (keeps : KeepsPriority impl) {s : A2dpCodecs} (reach : Reachable K impl s) :
    (s.getCodecConfigAndCapabilities K).1 = true ∧
      ∃ codecs : List A2dpCodecConfig,
        codecs.Pairwise (fun a b => compareCodecPriority a b = true) ∧
        (codecs.map (·.codecIndex)).Nodup ∧
        (∀ c, c ∈ codecs ↔ ∃ i, s.indexedCodecs i = some c ∧ i < K.indexSourceMax) ∧
        (s.getCodecConfigAndCapabilities K).2.codecsLocalCapabilities =
          codecs.map (·.codecLocalCapability) ∧
        (s.getCodecConfigAndCapabilities K).2.codecsSelectableCapabilities =
          (codecs.map (·.codecSelectableCapability)).filter (usableCapability K) := by
  obtain ⟨own, ordered⟩ := ownership_ordered_of_reachable keeps reach
  refine ⟨rfl, s.orderedSourceCodecs.map s.codecAt, List.pairwise_map.mpr ordered,
    own.nodup_codecIndex_source, own.mem_map_codecAt_source, ?_, ?_⟩ <;>
  simp only [getCodecConfigAndCapabilities, List.map_map] <;> rfl

theorem getCodecConfigAndCapabilities_sampleSession :
    KeepsPriority (grantingImpl sampleConstants) ∧
      Reachable sampleConstants (grantingImpl sampleConstants) sampleSession ∧
      (sampleSession.getCodecConfigAndCapabilities sampleConstants).1 = true ∧
      ∃ codecs : List A2dpCodecConfig,
        codecs.Pairwise (fun a b => compareCodecPriority a b = true) ∧
        (codecs.map (·.codecIndex)).Nodup ∧
        (∀ c, c ∈ codecs ↔
          ∃ i, sampleSession.indexedCodecs i = some c ∧ i < sampleConstants.indexSourceMax) ∧
        (sampleSession.getCodecConfigAndCapabilities sampleConstants).2.codecsLocalCapabilities =
          codecs.map (·.codecLocalCapability) ∧
        (sampleSession.getCodecConfigAndCapabilities sampleConstants).2.codecsSelectableCapabilities =
          (codecs.map (·.codecSelectableCapability)).filter (usableCapability sampleConstants) :=
  have keeps := grantingImpl_keepsPriority sampleConstants
  have reach : Reachable sampleConstants (grantingImpl sampleConstants) sampleSession :=
    .init [] true
  ⟨keeps, reach, getCodecConfigAndCapabilities_of_reachable keeps reach⟩

end A2dpCodec
