import A2dpCodec.ConfigText
import A2dpCodec.SourceOrder
import A2dpCodec.Locality

/-! # The state dump

`A2dpCodecs::debug_codec_dump` writes the name of the current codec, then the dump of each
source codec in the order of `ordered_source_codecs_`: its priority and the texts of its
configuration, selectable capability and local capability. In every reachable state that
order is the `compare_codec_priority` order of the enabled source codecs, so the dump is fixed
by the current codec and the enabled source descriptors, whatever run led to them. -/

namespace A2dpCodec

open A2dpCodecs

section
variable (K : A2dpConstants) (F : A2dpFormatFlags) (codecName : Int → String)

/-- `A2dpCodecConfig::debug_codec_dump`: the text it writes. `codecName` gives `name()`, which
the subclass constructor of each codec index sets. -/
def A2dpCodecConfig.debugCodecDump (c : A2dpCodecConfig) : String :=
  "\nA2DP " ++ codecName c.codecIndex ++ " State:\n" ++
    "  Priority: " ++ toString c.codecPriority ++ "\n" ++
    "  Config: " ++ codecConfig2Str K F c.codecConfig ++ "\n" ++
    "  Selectable: " ++ codecConfig2Str K F c.codecSelectableCapability ++ "\n" ++
    "  Local capability: " ++ codecConfig2Str K F c.codecLocalCapability ++ "\n"

/-- `A2dpCodecs::debug_codec_dump`: the text it writes. -/
def A2dpCodecs.debugCodecDump (s : A2dpCodecs) : String :=
  "\nA2DP Codecs State:\n" ++
    (match s.current with
      | some (_, c) => "  Current Codec: " ++ codecName c.codecIndex ++ "\n"
      | none => "  Current Codec: None\n") ++
    String.join (s.orderedSourceCodecs.map fun k => (s.codecAt k).debugCodecDump K F codecName)

end

example : (sampleSession.codecAt 0).debugCodecDump sampleConstants sampleFormatFlags
    (fun i => if i = 0 then "SBC" else "OTHER") =
      "\nA2DP SBC State:\n  Priority: 1001\n  Config: Invalid\n  Selectable: Invalid\n" ++
        "  Local capability: Invalid\n" := by
  decide

theorem debugCodecDump_congr (K : A2dpConstants) (F : A2dpFormatFlags) (codecName : Int → String)
    {s s' : A2dpCodecs} (list : s'.orderedSourceCodecs = s.orderedSourceCodecs)
    (listed : ∀ k ∈ s.orderedSourceCodecs, s'.codecAt k = s.codecAt k)
    (current : s'.current.map (·.2.codecIndex) = s.current.map (·.2.codecIndex)) :
    s'.debugCodecDump K F codecName = s.debugCodecDump K F codecName := by
  have sections : s'.orderedSourceCodecs.map (fun k => (s'.codecAt k).debugCodecDump K F codecName) =
      s.orderedSourceCodecs.map (fun k => (s.codecAt k).debugCodecDump K F codecName) := by
    rw [list]
    exact List.map_congr_left fun k member => by rw [listed k member]
  unfold A2dpCodecs.debugCodecDump
  rw [sections]
  revert current
  cases s.current with
  | none => cases s'.current <;> simp
  | some kc =>
    cases s'.current with
    | none => simp
    | some kc' =>
      simp only [Option.map_some', Option.some.injEq]
      intro same
      rw [same]

end A2dpCodec
