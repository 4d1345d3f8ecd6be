import A2dpCodec.Ordering

/-! # What an operation may change

Over any run the sink list and the disabled codecs stay as `init()` left them, and the
current codec changes only through the operations that select one: a user configuration, a
peer's OTA configuration, and `setCodecConfig` or `setSinkCodecConfig` asked to select
their codec. `setCodecAudioConfig` and the peer-capability setters never change which codec
is current, whether they succeed or not. No operation resets the current codec to null:
once a session has one, it keeps one, and it is always an enabled descriptor. -/

namespace A2dpCodec

open A2dpCodecs

/-- The operations that can make another codec current. -/
def Op.selectsCodec : Op → Bool
  | .setCodecUserConfig .. => true
  | .setCodecOtaConfig .. => true
  | .setCodecConfig _ _ selectCurrentCodec => selectCurrentCodec
  | .setSinkCodecConfig _ _ selectCurrentCodec => selectCurrentCodec
  | _ => false

/-- What a step from `s` to `s'` keeps: the sink list and the disabled codecs, and the
current codec unless the step may select one. -/
structure Frame (selects : Bool) (s s' : A2dpCodecs) : Prop where
  sink : s'.orderedSinkCodecs = s.orderedSinkCodecs
  disabled : s'.disabledCodecs = s.disabledCodecs
  current : selects = false → s'.currentCodecConfig = s.currentCodecConfig

namespace Frame

variable {s s' s'' : A2dpCodecs} {a b : Bool}

theorem refl (s : A2dpCodecs) : Frame false s s := ⟨rfl, rfl, fun _ => rfl⟩

theorem trans (h : Frame a s s') (h' : Frame b s' s'') : Frame (a || b) s s'' where
  sink := h'.sink.trans h.sink
  disabled := h'.disabled.trans h.disabled
  current quiet := by
    obtain ⟨quietA, quietB⟩ := Bool.or_eq_false_iff.mp quiet
    exact (h'.current quietB).trans (h.current quietA)

theorem weaken (h : Frame false s s') (selects : Bool) : Frame selects s s' :=
  ⟨h.sink, h.disabled, fun _ => h.current rfl⟩

theorem setCodec (s : A2dpCodecs) (k : Int) (c : A2dpCodecConfig) : Frame false s (s.setCodec k c) :=
  ⟨rfl, rfl, fun _ => rfl⟩

end Frame

section
variable (K : A2dpConstants) (impl : A2dpCodecImpl) (s : A2dpCodecs)

theorem frame_negotiateFound (found : Option (Int × A2dpCodecConfig)) (info : CodecInfo)
    (isCapability selectCurrentCodec : Bool) :
    Frame selectCurrentCodec s (s.negotiateFound impl found info isCapability selectCurrentCodec).1 := by
  unfold negotiateFound
  split
  · exact (Frame.refl s).weaken _
  · dsimp only
    split
    · split
      · rename_i selected
        exact ⟨rfl, rfl, fun quiet => Bool.noConfusion (selected.symm.trans quiet)⟩
      · exact (Frame.setCodec _ _ _).weaken _
    · exact (Frame.setCodec _ _ _).weaken _

theorem frame_recordPeerCapabilities (valid : Bool) (found : Option (Int × A2dpCodecConfig))
    (info : CodecInfo) : Frame false s (s.recordPeerCapabilities impl valid found info).1 := by
  unfold recordPeerCapabilities
  split
  · exact Frame.refl s
  · split
    · exact Frame.refl s
    · exact Frame.setCodec _ _ _

theorem frame_setCodecAudioConfig (a : BtavA2dpCodecConfig) (caps : CodecInfo) :
    Frame false s (s.setCodecAudioConfig K impl a caps).1 := by
  unfold setCodecAudioConfig
  split
  · exact Frame.refl s
  · exact Frame.setCodec _ _ _

theorem frame_setCodecOtaConfig (ota : CodecInfo) : Frame true s (s.setCodecOtaConfig K impl ota).1 := by
  unfold setCodecOtaConfig
  split
  · exact (Frame.refl s).weaken _
  · dsimp only
    split <;> exact ⟨rfl, rfl, fun never => nomatch never⟩

theorem frame_setCodecUserConfig (u : BtavA2dpCodecConfig) (caps : CodecInfo) :
    Frame true s (s.setCodecUserConfig K impl u caps).1 :=
  ⟨setCodecUserConfig_orderedSinkCodecs K impl s u caps,
    (preserves_setCodecUserConfig K impl u caps).disabled, fun never => nomatch never⟩

theorem frame_step (op : Op) : Frame op.selectsCodec s (s.step K impl op).1 := by
  cases op with
  | setCodecUserConfig u caps => exact frame_setCodecUserConfig K impl s u caps
  | setCodecAudioConfig a caps => exact frame_setCodecAudioConfig K impl s a caps
  | setCodecOtaConfig ota => exact frame_setCodecOtaConfig K impl s ota
  | setCodecConfig info isCapability select => exact frame_negotiateFound impl s _ info isCapability select
  | setSinkCodecConfig info isCapability select =>
    exact frame_negotiateFound impl s _ info isCapability select
  | setPeerSinkCodecCapabilities info => exact frame_recordPeerCapabilities impl s _ _ info
  | setPeerSourceCodecCapabilities info => exact frame_recordPeerCapabilities impl s _ _ info

/-- Over any run the sink list and the disabled codecs are those it started from, and a run
with no operation that selects a codec ends with the current codec it started with. -/
theorem run_keeps_selection (ops : List Op) :
    Frame (ops.any Op.selectsCodec) s (s.run K impl ops).1 := by
  induction ops generalizing s with
  | nil => exact Frame.refl s
  | cons op ops ih => exact (frame_step K impl s op).trans (ih _)

end

/-! ### The current codec, once set, stays set -/

section
variable (K : A2dpConstants) (impl : A2dpCodecImpl) {s : A2dpCodecs}

theorem negotiateFound_current_isSome (found : Option (Int × A2dpCodecConfig)) (info : CodecInfo)
    (isCapability selectCurrentCodec : Bool) (has : s.currentCodecConfig.isSome) :
    (s.negotiateFound impl found info isCapability selectCurrentCodec).1.currentCodecConfig.isSome := by
  unfold negotiateFound
  split
  · exact has
  · dsimp only
    split
    · split
      · rfl
      · exact has
    · exact has

theorem setCodecOtaConfig_current_isSome (ota : CodecInfo) (has : s.currentCodecConfig.isSome) :
    (s.setCodecOtaConfig K impl ota).1.currentCodecConfig.isSome := by
  unfold setCodecOtaConfig
  split
  · exact has
  · dsimp only
    split
    · rfl
    · exact has

theorem setCodecUserConfig_current_isSome (u : BtavA2dpCodecConfig) (caps : CodecInfo)
    (has : s.currentCodecConfig.isSome) : (s.setCodecUserConfig K impl u caps).1.currentCodecConfig.isSome := by
  unfold setCodecUserConfig
  split
  · exact has
  · dsimp only
    split
    · exact updateCodecPriority_current_isSome K _ _ _ _ _
    · exact has

theorem step_current_isSome (op : Op) (has : s.currentCodecConfig.isSome) :
    (s.step K impl op).1.currentCodecConfig.isSome := by
  cases op with
  | setCodecUserConfig u caps => exact setCodecUserConfig_current_isSome K impl u caps has
  | setCodecOtaConfig ota => exact setCodecOtaConfig_current_isSome K impl ota has
  | setCodecConfig info isCapability select | setSinkCodecConfig info isCapability select =>
    exact negotiateFound_current_isSome impl _ info isCapability select has
  | setCodecAudioConfig a caps => rw [(frame_step K impl s (.setCodecAudioConfig a caps)).current rfl]; exact has
  | setPeerSinkCodecCapabilities info =>
    rw [(frame_step K impl s (.setPeerSinkCodecCapabilities info)).current rfl]; exact has
  | setPeerSourceCodecCapabilities info =>
    rw [(frame_step K impl s (.setPeerSourceCodecCapabilities info)).current rfl]; exact has

theorem run_current_isSome (ops : List Op) (has : s.currentCodecConfig.isSome) :
    (s.run K impl ops).1.currentCodecConfig.isSome := by
  induction ops generalizing s with
  | nil => exact has
  | cons op ops ih => exact ih (step_current_isSome K impl op has)

theorem Ownership.run (own : Ownership K s) (ops : List Op) : Ownership K (s.run K impl ops).1 := by
  induction ops generalizing s with
  | nil => exact own
  | cons op ops ih => exact ih (own.of_preserves (preserves_step K impl op))

/-- Once a session has a current codec it never loses it: after any run, whatever its
operations and whether they succeed, `current_codec_config_` points to an enabled
descriptor. -/
theorem current_persists (own : Ownership K s) (has : s.currentCodecConfig.isSome) (ops : List Op) :
    (s.run K impl ops).1.current.isSome := by
  obtain ⟨k, current⟩ := Option.isSome_iff_exists.mp (run_current_isSome K impl ops has)
  simpa [A2dpCodecs.current, current, find] using (own.run K impl ops).current_indexed k current

end

/-- The sample session after the user configures SBC at 44.1 kHz, then any run. -/
theorem current_persists_sbc :
    Ownership sampleConstants (sampleSession.step sampleConstants (grantingImpl sampleConstants)
        (.setCodecUserConfig { initBtavA2dpCodecConfig 0 0 with sampleRate := 44100 } [])).1 ∧
      (sampleSession.step sampleConstants (grantingImpl sampleConstants)
        (.setCodecUserConfig { initBtavA2dpCodecConfig 0 0 with sampleRate := 44100 } [])).1.currentCodecConfig.isSome ∧
      ∀ ops, ((sampleSession.step sampleConstants (grantingImpl sampleConstants)
        (.setCodecUserConfig { initBtavA2dpCodecConfig 0 0 with sampleRate := 44100 } [])).1.run
          sampleConstants (grantingImpl sampleConstants) ops).1.current.isSome :=
  have own := (ownership_init sampleConstants (grantingImpl sampleConstants) [] true).of_preserves
    (preserves_step sampleConstants (grantingImpl sampleConstants)
      (.setCodecUserConfig { initBtavA2dpCodecConfig 0 0 with sampleRate := 44100 } []))
  have has : (sampleSession.step sampleConstants (grantingImpl sampleConstants)
      (.setCodecUserConfig { initBtavA2dpCodecConfig 0 0 with sampleRate := 44100 } [])).1.currentCodecConfig.isSome :=
    by decide
  ⟨own, has, current_persists sampleConstants (grantingImpl sampleConstants) own has⟩

end A2dpCodec
