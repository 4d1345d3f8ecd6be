import A2dpCodec.Ordering

/-! # Repeating a user configuration

Calling `A2dpCodecs::setCodecUserConfig` again with the arguments of a call that succeeded
finds the same codec, renegotiates it, keeps its priority and the current codec, and so
changes nothing and reports nothing, provided the codec's own negotiation depends only on its
inputs and gives the same result when it is handed the peer bytes it recorded. The second
condition is needed: the codecs record the peer's bytes in `ota_codec_peer_capability_` on the
capability path, and a negotiation that reads what it recorded can differ on the repeat. -/

namespace A2dpCodec

open A2dpCodecs

/-- What a codec's negotiation may read of the descriptor: its local capability, the peer
capability it holds, and its user and audio configs. -/
structure NegotiationInputs where
  localCapability : BtavA2dpCodecConfig
  peerCapability : CodecInfo
  userConfig : BtavA2dpCodecConfig
  audioConfig : BtavA2dpCodecConfig

def A2dpCodecConfig.negotiationInputs (c : A2dpCodecConfig) : NegotiationInputs :=
  ⟨c.codecLocalCapability, c.otaCodecPeerCapability, c.codecUserConfig, c.codecAudioConfig⟩

/-- The descriptor a successful negotiation `n` leaves, with `peer` recorded as the peer
capability. -/
def A2dpCodecConfig.negotiated (c : A2dpCodecConfig) (n : Negotiation) (peer : CodecInfo) :
    A2dpCodecConfig :=
  (({ c with otaCodecPeerCapability := peer } : A2dpCodecConfig).applyNegotiation n).2.1

/-- The codec's own `setCodecConfig` follows `negotiate`: whether it succeeds, and on success
what it writes, the peer bytes it leaves in `ota_codec_peer_capability_` and the bytes it
leaves in the result buffer, come from its arguments and the descriptor's negotiation inputs;
and those result bytes are equal to themselves under `A2DP_CodecEquals`. -/
structure FollowsNegotiation (K : A2dpConstants) (impl : A2dpCodecImpl)
    (negotiate : CodecInfo → Bool → NegotiationInputs → Negotiation × CodecInfo) : Prop where
  success : ∀ c info b, (impl.setCodecConfig c info b).1 = (negotiate info b c.negotiationInputs).1.success
  applied : ∀ c info b, (negotiate info b c.negotiationInputs).1.success = true →
    (impl.setCodecConfig c info b).2 =
      (c.negotiated (negotiate info b c.negotiationInputs).1 (negotiate info b c.negotiationInputs).2,
        (negotiate info b c.negotiationInputs).1.otaCodecConfig)
  selfEqual : ∀ info b ins, (negotiate info b ins).1.success = true →
    a2dpCodecEquals K impl.toA2dpFamilyImpl (negotiate info b ins).1.otaCodecConfig
      (negotiate info b ins).1.otaCodecConfig = true

/-- The codec computes what its `setCodecConfig` writes, reports and records only from its
arguments and the descriptor's negotiation inputs, the peer capability it holds among them,
never from the config or the OTA bytes of its own it wrote before. -/
def ComputesFromInputs (K : A2dpConstants) (impl : A2dpCodecImpl) : Prop :=
  ∃ negotiate, FollowsNegotiation K impl negotiate

/-- The codec computes from its inputs, and handed the peer bytes it recorded it negotiates
to the same result. This holds of a codec that records nothing, and of one whose negotiation
does not read the peer capability it records. -/
def HistoryIndependent (K : A2dpConstants) (impl : A2dpCodecImpl) : Prop :=
  ∃ negotiate, FollowsNegotiation K impl negotiate ∧
    ∀ info b ins, (negotiate info b ins).1.success = true →
      negotiate info b { ins with peerCapability := (negotiate info b ins).2 } = negotiate info b ins

theorem audioFormatChanged_self (config : BtavA2dpCodecConfig) :
    audioFormatChanged config config = false := by
  simp [audioFormatChanged]

theorem quiet_outcome {result : Option CodecInfo} {restartInput restartOutput : Bool}
    (input : restartInput = false) (output : restartOutput = false) :
    (⟨true, result, restartInput, restartOutput, restartInput || restartOutput⟩ : ConfigOutcome) =
      ⟨true, result, false, false, false⟩ := by
  subst input output; rfl

section
variable (K : A2dpConstants) (impl : A2dpCodecImpl)

section
variable {K impl} {negotiate : CodecInfo → Bool → NegotiationInputs → Negotiation × CodecInfo}
  (follows : FollowsNegotiation K impl negotiate) {info : CodecInfo} {b : Bool} {n : Negotiation}
  {peer : CodecInfo}
include follows

theorem FollowsNegotiation.setCodecConfig {c : A2dpCodecConfig}
    (negotiated : negotiate info b c.negotiationInputs = (n, peer)) (ok : n.success = true) :
    c.setCodecConfig impl info b = (true, c.negotiated n peer, n.otaCodecConfig) := by
  have succeeded := follows.success c info b
  have applied := follows.applied c info b (by rw [negotiated]; exact ok)
  rw [negotiated] at succeeded applied
  exact Prod.ext (succeeded.trans ok) (congrArg (fun r => ({ r.1 with codecIndex := c.codecIndex }, r.2)) applied)

/-- Renegotiating what a negotiation left, after any priority write, with the same user
config and the descriptor's own audio config, reports nothing and changes nothing, when the
codec negotiates to the same result from the peer bytes it recorded. -/
theorem FollowsNegotiation.renegotiate {d : A2dpCodecConfig}
    (negotiated : negotiate info b d.negotiationInputs = (n, peer)) (ok : n.success = true)
    (stable : negotiate info b { d.negotiationInputs with peerCapability := peer } = (n, peer)) (p : Int) :
    ((d.negotiated n peer).writePriority p).setCodecUserConfig K impl d.codecUserConfig
        ((d.negotiated n peer).writePriority p).codecAudioConfig info b =
      ((d.negotiated n peer).writePriority p, ⟨true, some n.otaCodecConfig, false, false, false⟩) := by
  have equals := follows.selfEqual info b d.negotiationInputs
  rw [negotiated] at equals
  rw [setCodecUserConfig_of_success K impl (follows.setCodecConfig stable ok)]
  exact Prod.ext rfl (quiet_outcome (audioFormatChanged_self _) (congrArg (!·) (equals ok)))

end

/-- The descriptor's half: after a successful `setCodecUserConfig` and any priority write,
the same call with the descriptor's own audio config renegotiates it to itself and reports
no change. -/
theorem setCodecUserConfig_repeat (indep : HistoryIndependent K impl) {c : A2dpCodecConfig}
    {u : BtavA2dpCodecConfig} {info : CodecInfo} {b : Bool}
    (succeeded : (c.setCodecUserConfig K impl u c.codecAudioConfig info b).2.success = true)
    (p : Int) :
    ((c.setCodecUserConfig K impl u c.codecAudioConfig info b).1.writePriority p).setCodecUserConfig
        K impl u ((c.setCodecUserConfig K impl u c.codecAudioConfig info b).1.writePriority p).codecAudioConfig
        info b =
      ((c.setCodecUserConfig K impl u c.codecAudioConfig info b).1.writePriority p,
        ⟨true, (c.setCodecUserConfig K impl u c.codecAudioConfig info b).2.resultCodecConfig,
          false, false, false⟩) := by
  obtain ⟨negotiate, follows, stable⟩ := indep
  rcases negotiated : negotiate info b ({ c with codecUserConfig := u } : A2dpCodecConfig).negotiationInputs
    with ⟨n, peer⟩
  cases ok : n.success with
  | false =>
    have flag := follows.success { c with codecUserConfig := u } info b
    rw [negotiated, ok] at flag
    have failed : ({ c with codecUserConfig := u, codecAudioConfig := c.codecAudioConfig } :
        A2dpCodecConfig).setCodecConfig impl info b = (false, _, _) := Prod.ext flag (Prod.ext rfl rfl)
    rw [setCodecUserConfig_of_failure K impl failed] at succeeded
    cases succeeded
  | true =>
    have again := stable info b _ (by rw [negotiated]; exact ok)
    rw [negotiated] at again
    rw [setCodecUserConfig_of_success K impl (follows.setCodecConfig negotiated ok)]
    exact follows.renegotiate negotiated ok again p

theorem updateCodecPriority_indexed_self (s : A2dpCodecs) (last : Option Int) (k : Int)
    (c : A2dpCodecConfig) (p : Int) (o : ConfigOutcome) :
    (s.updateCodecPriority K last k c p o).1.indexedCodecs k = some (c.setCodecPriority K p) := by
  rcases updateCodecPriority_cases K s last k c p o with ⟨-, same⟩ | ⟨-, same⟩ | ⟨l, -, other, same⟩
  · simp [same]
  · simp [same]
  · rw [same, modifyCodec_indexedCodecs_of_ne _ (Ne.symm other)]
    simp

theorem updateCodecPriority_current_self (s : A2dpCodecs) (k : Int) (c : A2dpCodecConfig) (p : Int)
    (o : ConfigOutcome) :
    (s.updateCodecPriority K (some k) k c p o).1.currentCodecConfig = s.currentCodecConfig := by
  rcases updateCodecPriority_cases K s (some k) k c p o with ⟨-, same⟩ | ⟨never, -⟩ | ⟨l, last, other, -⟩
  · rw [same]
    rfl
  · cases never
  · exact absurd (Option.some.inj last).symm other

theorem updateCodecPriority_unchanged {s : A2dpCodecs} {last : Option Int} {k : Int}
    {c : A2dpCodecConfig} {p : Int} (current : last.isSome) (fixed : c.setCodecPriority K p = c)
    (found : s.indexedCodecs k = some c) {result : Option CodecInfo} :
    s.updateCodecPriority K last k c p ⟨true, result, false, false, false⟩ =
      (s, ⟨true, result, false, false, false⟩) := by
  obtain ⟨l, rfl⟩ := Option.isSome_iff_exists.mp current
  unfold updateCodecPriority
  dsimp only
  rw [fixed, setCodec_self found]
  split_ifs <;> simp_all

theorem setCodecUserConfig_fixed {s : A2dpCodecs} {u : BtavA2dpCodecConfig} {caps : CodecInfo}
    {k : Int} {d : A2dpCodecConfig} {result : Option CodecInfo}
    (target : s.userConfigTarget K u = some (k, d)) (found : s.indexedCodecs k = some d)
    (current : s.currentCodecConfig.isSome) (fixed : d.setCodecPriority K u.codecPriority = d)
    (sorted : s.sortCodecs s.orderedSourceCodecs = s.orderedSourceCodecs)
    (renegotiated : d.setCodecUserConfig K impl u d.codecAudioConfig caps true =
      (d, ⟨true, result, false, false, false⟩)) :
    s.setCodecUserConfig K impl u caps = (s, ⟨true, result, false, false, false⟩) := by
  rw [setCodecUserConfig_of_negotiated K impl target (by rw [renegotiated])]
  simp only [renegotiated, setCodec_self found, updateCodecPriority_unchanged K current fixed found,
    sorted, Bool.or_false]

theorem userConfigTarget_of_found {s s' : A2dpCodecs} {u : BtavA2dpCodecConfig} {k : Int}
    {c d : A2dpCodecConfig} (target : s.userConfigTarget K u = some (k, c))
    (found : s'.indexedCodecs k = some d)
    (current : ¬u.codecType < K.indexMax → s'.currentCodecConfig = s.currentCodecConfig) :
    s'.userConfigTarget K u = some (k, d) := by
  unfold userConfigTarget at target ⊢
  by_cases named : u.codecType < K.indexMax
  · rw [if_pos named] at target ⊢
    obtain ⟨rfl, -⟩ := find_eq_some.mp target
    exact find_eq_some.mpr ⟨rfl, found⟩
  · rw [if_neg named] at target ⊢
    simp only [A2dpCodecs.current, current named, (current_eq_some target).1, Option.some_bind, find,
      found, Option.map_some']

end

/-- A codec set like `grantingImpl` that configures what `offer` picks from its negotiation
inputs and, when it succeeds, records the peer's bytes in `ota_codec_peer_capability_`, as the
codecs' own `setCodecConfig` does on the capability path. -/
def recordingImpl (K : A2dpConstants) (offer : NegotiationInputs → CodecInfo → BtavA2dpCodecConfig) :
    A2dpCodecImpl :=
  { grantingImpl K with
    setCodecConfig := fun c info _ =>
      if (K.familyOf (a2dpGetCodecType K info)).isSome then
        (true, c.negotiated ⟨true, offer c.negotiationInputs info, c.codecLocalCapability,
          c.codecLocalCapability, info, info⟩ info, info)
      else (false, c, info) }

/-- The negotiation `recordingImpl` follows. -/
def recordingNegotiation (K : A2dpConstants) (offer : NegotiationInputs → CodecInfo → BtavA2dpCodecConfig)
    (info : CodecInfo) (_ : Bool) (ins : NegotiationInputs) : Negotiation × CodecInfo :=
  (⟨(K.familyOf (a2dpGetCodecType K info)).isSome, offer ins info, ins.localCapability, ins.localCapability,
    info, info⟩, info)

theorem recordingImpl_follows (K : A2dpConstants) (offer : NegotiationInputs → CodecInfo → BtavA2dpCodecConfig) :
    FollowsNegotiation K (recordingImpl K offer) (recordingNegotiation K offer) where
  success c info _ := by
    simp only [recordingImpl, recordingNegotiation]
    split <;> simp_all
  applied c info _ known := by
    simp only [recordingNegotiation] at known
    simp only [recordingImpl, recordingNegotiation, if_pos known]
    rfl
  selfEqual info _ _ known := by
    obtain ⟨f, family⟩ := Option.isSome_iff_exists.mp known
    simp only [recordingNegotiation, a2dpCodecEquals, ne_eq, not_true_eq_false, if_false,
      a2dpDispatch_of_familyOf K family]
    exact beq_self_eq_true info

theorem recordingImpl_historyIndependent (K : A2dpConstants)
    (offer : NegotiationInputs → CodecInfo → BtavA2dpCodecConfig)
    (ignores : ∀ ins peer info, offer { ins with peerCapability := peer } info = offer ins info) :
    HistoryIndependent K (recordingImpl K offer) :=
  ⟨_, recordingImpl_follows K offer, fun info _ ins _ => by simp only [recordingNegotiation, ignores]⟩

/-- A codec that negotiates against the peer capability it holds: it configures the user's
config once it holds the bytes it is handed, and its local capability before. -/
def heldCapabilityImpl (K : A2dpConstants) : A2dpCodecImpl :=
  recordingImpl K fun ins info => if ins.peerCapability = info then ins.userConfig else ins.localCapability

end A2dpCodec
