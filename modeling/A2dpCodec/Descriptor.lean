import A2dpCodec.Dispatch

/-! One codec descriptor (`A2dpCodecConfig`): its snapshots, its priority, and the
user-configuration call that wraps the codec's own negotiation with a rollback and
the two restart decisions. -/

namespace A2dpCodec

/-- `A2dpCodecConfig`. The name and the mutex are left out: no modelled function reads
them. -/
structure A2dpCodecConfig where
  codecIndex : Int
  defaultCodecPriority : Int
  codecPriority : Int
  codecConfig : BtavA2dpCodecConfig
  codecCapability : BtavA2dpCodecConfig
  codecLocalCapability : BtavA2dpCodecConfig
  codecSelectableCapability : BtavA2dpCodecConfig
  codecUserConfig : BtavA2dpCodecConfig
  codecAudioConfig : BtavA2dpCodecConfig
  otaCodecConfig : CodecInfo
  otaCodecPeerCapability : CodecInfo
  otaCodecPeerConfig : CodecInfo
  deriving DecidableEq, Repr, Inhabited

/-- The codec-specific virtual methods of `A2dpCodecConfig` (implemented per codec
outside this file) and the family functions the dispatchers call. -/
structure A2dpCodecImpl extends A2dpFamilyImpl where
  /-- `setCodecConfig(p_peer_codec_info, is_capability, p_result_codec_config)`: whether
  it succeeded, the descriptor after it, and the bytes written to the result buffer. -/
  setCodecConfig : A2dpCodecConfig → CodecInfo → Bool → Bool × A2dpCodecConfig × CodecInfo
  /-- `setPeerCodecCapabilities`. -/
  setPeerCodecCapabilities : A2dpCodecConfig → CodecInfo → Bool × A2dpCodecConfig
  /-- The subclass constructor and its `init()`; `none` when `init()` fails. -/
  init : A2dpCodecConfig → Option A2dpCodecConfig

/-- What a codec's own `setCodecConfig` computes: whether it succeeded, and the snapshots
and OTA bytes it writes. The OTA bytes are also what it leaves in the result buffer. -/
structure Negotiation where
  success : Bool
  codecConfig : BtavA2dpCodecConfig
  codecCapability : BtavA2dpCodecConfig
  codecSelectableCapability : BtavA2dpCodecConfig
  otaCodecConfig : CodecInfo
  otaCodecPeerConfig : CodecInfo

/-- A descriptor after a negotiation wrote its results. Like the codecs' own code, it sets
the fields of `codec_config_` but keeps its codec type and priority. -/
def A2dpCodecConfig.applyNegotiation (c : A2dpCodecConfig) (n : Negotiation) :
    Bool × A2dpCodecConfig × CodecInfo :=
  (n.success, { c with
    codecConfig := { n.codecConfig with
      codecType := c.codecConfig.codecType
      codecPriority := c.codecConfig.codecPriority }
    codecCapability := n.codecCapability
    codecSelectableCapability := n.codecSelectableCapability
    otaCodecConfig := n.otaCodecConfig
    otaCodecPeerConfig := n.otaCodecPeerConfig }, n.otaCodecConfig)

/-- A codec set that grants what the user asks for: the negotiated config is the user
config, the capabilities are the local ones, the OTA bytes are the peer's, each family maps
to its first source and sink codec. It refuses peer bytes of an unknown codec type and then
leaves the descriptor as it was. Used where the model is run on a concrete input. -/
def grantingImpl (K : A2dpConstants) : A2dpCodecImpl where
  isSourceCodecValid _ _ := true
  isSinkCodecValid _ _ := true
  isPeerSourceCodecValid _ _ := true
  isPeerSinkCodecValid _ _ := true
  isSinkCodecSupported _ _ := true
  isPeerSourceCodecSupported _ _ := true
  codecTypeEquals _ a b := a == b
  codecEquals _ a b := a == b
  getTrackSampleRate _ _ := 44100
  getTrackBitsPerSample _ _ := 16
  getTrackChannelCount _ _ := 2
  sourceCodecIndex
    | .sbc, _ => K.sourceSbc
    | .aac, _ => K.sourceAac
    | .vendor, _ => K.sourceLdac
  sinkCodecIndex
    | .sbc, _ => K.sinkSbc
    | .aac, _ => K.sinkAac
    | .vendor, _ => K.sinkLdac
  vendorUsesRtpHeader _ _ := true
  setCodecConfig c info _ :=
    if (K.familyOf (a2dpGetCodecType K info)).isSome then
      c.applyNegotiation
        ⟨true, c.codecUserConfig, c.codecLocalCapability, c.codecLocalCapability, info, info⟩
    else (false, c, info)
  setPeerCodecCapabilities c info := (true, { c with otaCodecPeerCapability := info })
  init c := some c

/-- The three flags a configuring call returns through `p_restart_input`,
`p_restart_output` and `p_config_updated`, with its result. -/
structure ConfigOutcome where
  success : Bool
  /-- The bytes left in `p_result_codec_config`; `none` when nothing wrote it. -/
  resultCodecConfig : Option CodecInfo
  restartInput : Bool
  restartOutput : Bool
  configUpdated : Bool
  deriving DecidableEq, Repr

/-- A call that failed before or inside the negotiation. -/
def ConfigOutcome.failed (result : Option CodecInfo) : ConfigOutcome :=
  ⟨false, result, false, false, false⟩

/-- The comparison behind `*p_restart_input`: the audio format of the config changed. -/
def audioFormatChanged (saved new : BtavA2dpCodecConfig) : Bool :=
  saved.sampleRate != new.sampleRate || saved.bitsPerSample != new.bitsPerSample ||
    saved.channelMode != new.channelMode || saved.codecSpecific1 != new.codecSpecific1 ||
    saved.codecSpecific2 != new.codecSpecific2 || saved.codecSpecific3 != new.codecSpecific3

section
variable (K : A2dpConstants) (impl : A2dpCodecImpl)

/-- The two writes that end both priority setters: `codec_priority_` and its copy in
`codec_config_`. -/
def A2dpCodecConfig.writePriority (c : A2dpCodecConfig) (p : Int) : A2dpCodecConfig :=
  { c with codecPriority := p, codecConfig := { c.codecConfig with codecPriority := p } }

/-- The priority `setDefaultCodecPriority` computes. The `uint32_t` sum does not wrap for
the indices below `BTAV_A2DP_CODEC_INDEX_MAX`. -/
def A2dpCodecConfig.defaultPriority (c : A2dpCodecConfig) : Int :=
  if c.defaultCodecPriority ≠ K.priorityDefault then c.defaultCodecPriority
  else 1000 * (c.codecIndex + 1) + 1

/-- `A2dpCodecConfig::setDefaultCodecPriority`. -/
def A2dpCodecConfig.setDefaultCodecPriority (c : A2dpCodecConfig) : A2dpCodecConfig :=
  c.writePriority (c.defaultPriority K)

/-- `A2dpCodecConfig::setCodecPriority`. -/
def A2dpCodecConfig.setCodecPriority (c : A2dpCodecConfig) (p : Int) : A2dpCodecConfig :=
  if p = K.priorityDefault then c.setDefaultCodecPriority K else c.writePriority p

/-- The `A2dpCodecConfig` constructor: the priority through `setCodecPriority`, zeroed
snapshots, empty user and audio configs, zeroed OTA buffers. -/
def A2dpCodecConfig.new (codecIndex codecPriority : Int) : A2dpCodecConfig :=
  let blank := initBtavA2dpCodecConfig codecIndex codecPriority
  let zeros := List.replicate K.avdtCodecSize 0
  let c : A2dpCodecConfig :=
    ⟨codecIndex, codecPriority, codecPriority, blank, blank, blank, blank, blank, blank,
      zeros, zeros, zeros⟩
  let p := (c.setCodecPriority K codecPriority).codecPriority
  let blank := initBtavA2dpCodecConfig codecIndex p
  let empty := initBtavA2dpCodecConfig codecIndex K.priorityDefault
  ⟨codecIndex, codecPriority, p, blank, blank, blank, blank, empty, empty, zeros, zeros, zeros⟩

/-- The codec indices `createCodec`'s `switch` has a subclass for. -/
def A2dpConstants.createCodecHasCase (i : Int) : Bool :=
  i ∈ [K.sourceSbc, K.sinkSbc, K.sourceAac, K.sinkAac, K.sourceAptx, K.sourceAptxHd,
    K.sourceLdac, K.sinkLdac, K.sourceOpus, K.sinkOpus, K.sourceLhdcv2, K.sourceLhdcv3,
    K.sourceLhdcv5, K.sinkLhdcv3, K.sinkLhdcv5]

/-- `A2dpCodecConfig::createCodec`. The subclass cannot change the const `codec_index_`. -/
def createCodec (i p : Int) : Option A2dpCodecConfig :=
  if K.createCodecHasCase i then
    (impl.init (A2dpCodecConfig.new K i p)).map fun c => { c with codecIndex := i }
  else none

/-- The codec's own `setCodecConfig`, through which `codec_index_` stays as it was. -/
def A2dpCodecConfig.setCodecConfig (c : A2dpCodecConfig) (info : CodecInfo)
    (isCapability : Bool) : Bool × A2dpCodecConfig × CodecInfo :=
  let r := impl.setCodecConfig c info isCapability
  (r.1, { r.2.1 with codecIndex := c.codecIndex }, r.2.2)

/-- The codec's own `setPeerCodecCapabilities`, with `codec_index_` kept. -/
def A2dpCodecConfig.setPeerCodecCapabilities (c : A2dpCodecConfig) (info : CodecInfo) :
    Bool × A2dpCodecConfig :=
  let r := impl.setPeerCodecCapabilities c info
  (r.1, { r.2 with codecIndex := c.codecIndex })

/-- `A2dpCodecConfig::setCodecUserConfig`: installs the user and audio configs, runs the
negotiation, and either restores both configs or reports what changed. -/
def A2dpCodecConfig.setCodecUserConfig (c : A2dpCodecConfig)
    (codecUserConfig codecAudioConfig : BtavA2dpCodecConfig) (peerCodecInfo : CodecInfo)
    (isCapability : Bool) : A2dpCodecConfig × ConfigOutcome :=
  let installed := { c with codecUserConfig, codecAudioConfig }
  let r := installed.setCodecConfig impl peerCodecInfo isCapability
  if r.1 then
    let restartInput := audioFormatChanged c.codecConfig r.2.1.codecConfig
    let restartOutput := !a2dpCodecEquals K impl.toA2dpFamilyImpl c.otaCodecConfig r.2.2
    (r.2.1, ⟨true, some r.2.2, restartInput, restartOutput, restartInput || restartOutput⟩)
  else
    ({ r.2.1 with codecUserConfig := c.codecUserConfig, codecAudioConfig := c.codecAudioConfig },
      .failed (some r.2.2))

@[simp] theorem writePriority_codecIndex (c : A2dpCodecConfig) (p : Int) :
    (c.writePriority p).codecIndex = c.codecIndex := rfl

@[simp] theorem writePriority_codecPriority (c : A2dpCodecConfig) (p : Int) :
    (c.writePriority p).codecPriority = p := rfl

@[simp] theorem writePriority_writePriority (c : A2dpCodecConfig) (p q : Int) :
    (c.writePriority p).writePriority q = c.writePriority q := rfl

@[simp] theorem defaultPriority_writePriority (c : A2dpCodecConfig) (p : Int) :
    (c.writePriority p).defaultPriority K = c.defaultPriority K := rfl

@[simp] theorem setDefaultCodecPriority_codecIndex (c : A2dpCodecConfig) :
    (c.setDefaultCodecPriority K).codecIndex = c.codecIndex := rfl

theorem setCodecPriority_eq (c : A2dpCodecConfig) (p : Int) :
    c.setCodecPriority K p =
      c.writePriority (if p = K.priorityDefault then c.defaultPriority K else p) := by
  unfold A2dpCodecConfig.setCodecPriority A2dpCodecConfig.setDefaultCodecPriority
  split <;> rfl

@[simp] theorem setCodecPriority_codecIndex (c : A2dpCodecConfig) (p : Int) :
    (c.setCodecPriority K p).codecIndex = c.codecIndex := by
  rw [setCodecPriority_eq]; rfl

/-- The recomputed default depends only on the index and the default, which no setter
writes, so setting the same priority twice is setting it once. -/
theorem setCodecPriority_setCodecPriority (c : A2dpCodecConfig) (p : Int) :
    (c.setCodecPriority K p).setCodecPriority K p = c.setCodecPriority K p := by
  simp only [setCodecPriority_eq, defaultPriority_writePriority, writePriority_writePriority]

@[simp] theorem setCodecConfig_codecIndex (c : A2dpCodecConfig) (info : CodecInfo) (b : Bool) :
    (c.setCodecConfig impl info b).2.1.codecIndex = c.codecIndex := rfl

@[simp] theorem setPeerCodecCapabilities_codecIndex (c : A2dpCodecConfig) (info : CodecInfo) :
    (c.setPeerCodecCapabilities impl info).2.codecIndex = c.codecIndex := rfl

section
variable {c c' : A2dpCodecConfig} {u a : BtavA2dpCodecConfig} {info r : CodecInfo} {b : Bool}

theorem setCodecUserConfig_of_success
    (negotiated : ({ c with codecUserConfig := u, codecAudioConfig := a } : A2dpCodecConfig).setCodecConfig
      impl info b = (true, c', r)) :
    c.setCodecUserConfig K impl u a info b =
      (c', ⟨true, some r, audioFormatChanged c.codecConfig c'.codecConfig,
        !a2dpCodecEquals K impl.toA2dpFamilyImpl c.otaCodecConfig r,
        audioFormatChanged c.codecConfig c'.codecConfig ||
          !a2dpCodecEquals K impl.toA2dpFamilyImpl c.otaCodecConfig r⟩) := by
  simp only [A2dpCodecConfig.setCodecUserConfig, negotiated, if_true]

theorem setCodecUserConfig_of_failure
    (negotiated : ({ c with codecUserConfig := u, codecAudioConfig := a } : A2dpCodecConfig).setCodecConfig
      impl info b = (false, c', r)) :
    c.setCodecUserConfig K impl u a info b =
      ({ c' with codecUserConfig := c.codecUserConfig, codecAudioConfig := c.codecAudioConfig },
        .failed (some r)) := by
  simp only [A2dpCodecConfig.setCodecUserConfig, negotiated, Bool.false_eq_true, if_false]

end

@[simp] theorem setCodecUserConfig_codecIndex (c : A2dpCodecConfig)
    (u a : BtavA2dpCodecConfig) (info : CodecInfo) (b : Bool) :
    (c.setCodecUserConfig K impl u a info b).1.codecIndex = c.codecIndex := by
  unfold A2dpCodecConfig.setCodecUserConfig
  dsimp only
  split <;> rfl

theorem createCodec_codecIndex {i p : Int} {c : A2dpCodecConfig}
    (created : createCodec K impl i p = some c) : c.codecIndex = i := by
  unfold createCodec at created
  split at created
  · obtain ⟨c', -, rfl⟩ := Option.map_eq_some'.mp created
    rfl
  · cases created

end

end A2dpCodec
