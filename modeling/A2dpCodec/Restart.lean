import A2dpCodec.Run

/-! # Restart decisions

What the configuring calls tell their caller through `p_restart_input`, `p_restart_output`
and `p_config_updated`: the descriptor's comparison of its config and OTA bytes before and
after the negotiation, and the registry's priority reconciliation on top of it. -/

namespace A2dpCodec

open A2dpCodecs

theorem audioFormatChanged_iff (saved new : BtavA2dpCodecConfig) :
    audioFormatChanged saved new = true ↔
      saved.sampleRate ≠ new.sampleRate ∨ saved.bitsPerSample ≠ new.bitsPerSample ∨
        saved.channelMode ≠ new.channelMode ∨ saved.codecSpecific1 ≠ new.codecSpecific1 ∨
        saved.codecSpecific2 ≠ new.codecSpecific2 ∨ saved.codecSpecific3 ≠ new.codecSpecific3 := by
  simp only [audioFormatChanged, Bool.or_eq_true, bne_iff_ne, ne_eq, or_assoc]

/-- What the flags of a successful configuring call report about a descriptor that went
from `c` to `c'`: `restart_input` exactly when the sample rate, the bits per sample, the
channel mode or one of the first three codec-specific fields of the config changed,
`restart_output` exactly when the result bytes differ from the saved OTA bytes under
`A2DP_CodecEquals`, and `config_updated` as their disjunction. -/
structure ReportsChange (K : A2dpConstants) (fam : A2dpFamilyImpl) (c c' : A2dpCodecConfig)
    (o : ConfigOutcome) : Prop where
  restartInput : o.restartInput = true ↔
    c.codecConfig.sampleRate ≠ c'.codecConfig.sampleRate ∨
      c.codecConfig.bitsPerSample ≠ c'.codecConfig.bitsPerSample ∨
      c.codecConfig.channelMode ≠ c'.codecConfig.channelMode ∨
      c.codecConfig.codecSpecific1 ≠ c'.codecConfig.codecSpecific1 ∨
      c.codecConfig.codecSpecific2 ≠ c'.codecConfig.codecSpecific2 ∨
      c.codecConfig.codecSpecific3 ≠ c'.codecConfig.codecSpecific3
  restartOutput : ∃ result, o.resultCodecConfig = some result ∧
    (o.restartOutput = true ↔ a2dpCodecEquals K fam c.otaCodecConfig result = false)
  configUpdated : o.configUpdated = (o.restartInput || o.restartOutput)

section
variable (K : A2dpConstants) (impl : A2dpCodecImpl)

/-- A successful `A2dpCodecConfig::setCodecUserConfig` reports what its negotiation changed. -/
theorem setCodecUserConfig_flags (c : A2dpCodecConfig) (u a : BtavA2dpCodecConfig)
    (info : CodecInfo) (b : Bool) (succeeded : (c.setCodecUserConfig K impl u a info b).2.success = true) :
    ReportsChange K impl.toA2dpFamilyImpl c (c.setCodecUserConfig K impl u a info b).1
      (c.setCodecUserConfig K impl u a info b).2 := by
  rcases h : ({ c with codecUserConfig := u, codecAudioConfig := a } :
    A2dpCodecConfig).setCodecConfig impl info b with ⟨ok, c', r⟩
  cases ok with
  | true =>
    rw [setCodecUserConfig_of_success K impl h]
    exact ⟨audioFormatChanged_iff _ _, ⟨r, rfl, by simp⟩, rfl⟩
  | false =>
    rw [setCodecUserConfig_of_failure K impl h] at succeeded
    cases succeeded

theorem ReportsChange.reportRestart {fam : A2dpFamilyImpl} {c c' : A2dpCodecConfig}
    {o : ConfigOutcome} (reports : ReportsChange K fam c c' o) :
    ReportsChange K fam c c'
      { o with configUpdated := o.configUpdated || o.restartInput || o.restartOutput } where
  restartInput := reports.restartInput
  restartOutput := reports.restartOutput
  configUpdated := by
    rw [reports.configUpdated]
    cases o.restartInput <;> cases o.restartOutput <;> rfl

theorem updateCodecPriority_current (s : A2dpCodecs) (last : Option Int) (k : Int)
    (c : A2dpCodecConfig) (p : Int) (o : ConfigOutcome) :
    (s.updateCodecPriority K last k c p o).1.currentCodecConfig = s.currentCodecConfig ∨
      (s.updateCodecPriority K last k c p o).2.restartInput = true ∧
        (s.updateCodecPriority K last k c p o).2.restartOutput = true := by
  rcases updateCodecPriority_cases K s last k c p o with ⟨-, same⟩ | ⟨-, same⟩ | ⟨l, -, -, same⟩ <;>
    rw [same]
  · exact .inl rfl
  · exact .inr ⟨rfl, rfl⟩
  · exact .inr ⟨rfl, rfl⟩

/-- A successful `A2dpCodecs::setCodecUserConfig` that changes the current codec asks for
both restarts and reports an update. A successful `A2dpCodecs::setCodecOtaConfig` makes the
guarded codec current and reports only what its own negotiation changed. -/
theorem current_switch_reported (s : A2dpCodecs) :
    (∀ u caps, (s.setCodecUserConfig K impl u caps).2.success = true →
      (s.setCodecUserConfig K impl u caps).1.currentCodecConfig ≠ s.currentCodecConfig →
      (s.setCodecUserConfig K impl u caps).2.configUpdated = true ∧
        (s.setCodecUserConfig K impl u caps).2.restartInput = true ∧
        (s.setCodecUserConfig K impl u caps).2.restartOutput = true) ∧
    ∀ ota, (s.setCodecOtaConfig K impl ota).2.success = true →
      ∃ k c c', s.otaTarget K impl ota = some (k, c) ∧
        (s.setCodecOtaConfig K impl ota).1.currentCodecConfig = some k ∧
        (s.setCodecOtaConfig K impl ota).1.indexedCodecs k = some c' ∧
        ReportsChange K impl.toA2dpFamilyImpl c c' (s.setCodecOtaConfig K impl ota).2 := by
  constructor
  · intro u caps succeeded moved
    obtain ⟨k, c, target, negotiated⟩ := setCodecUserConfig_target K impl succeeded
    rw [setCodecUserConfig_of_negotiated K impl target negotiated] at moved ⊢
    rcases updateCodecPriority_current K _ _ _ _ _ _ with same | ⟨input, output⟩
    · exact absurd same moved
    · simp [input, output]
  · intro ota succeeded
    obtain ⟨k, c, target, negotiated⟩ := setCodecOtaConfig_target K impl succeeded
    rw [setCodecOtaConfig_of_negotiated K impl target negotiated]
    exact ⟨k, c, _, target, rfl, by simp,
      (setCodecUserConfig_flags K impl c _ _ _ _ negotiated).reportRestart K⟩

end

theorem setCodecUserConfig_flags_sbc :
    let call := (A2dpCodecConfig.new sampleConstants 0 0).setCodecUserConfig sampleConstants
      (grantingImpl sampleConstants) { initBtavA2dpCodecConfig 0 0 with sampleRate := 44100 }
      (initBtavA2dpCodecConfig 0 0) [] true
    call.2.success = true ∧ ReportsChange sampleConstants (grantingImpl sampleConstants).toA2dpFamilyImpl
      (A2dpCodecConfig.new sampleConstants 0 0) call.1 call.2 :=
  ⟨by decide, setCodecUserConfig_flags _ _ _ _ _ _ _ (by decide)⟩

/-- A user configuration that changes only `codec_specific_4` succeeds without asking for
an input restart. -/
theorem restartInput_ignores_codecSpecific4 :
    let c := A2dpCodecConfig.new sampleConstants 0 0
    let call := c.setCodecUserConfig sampleConstants (grantingImpl sampleConstants)
      { initBtavA2dpCodecConfig 0 0 with codecSpecific4 := 1 } c.codecAudioConfig [] true
    call.2.success = true ∧ call.1.codecConfig.codecSpecific4 ≠ c.codecConfig.codecSpecific4 ∧
      call.2.restartInput = false := by
  decide

/-- Raising the backup AAC from 2001 to 3000, below LDAC's 5001, keeps LDAC current but
returns the restart flags of AAC's own negotiation. -/
theorem backup_raise_restarts_stream :
    Reachable sampleConstants (grantingImpl sampleConstants) ldacSession ∧
      ldacSession.currentCodecConfig = some 4 ∧ (ldacSession.codecAt 1).codecPriority = 2001 ∧
      (ldacSession.codecAt 4).codecPriority = 5001 ∧
      let call := ldacSession.setCodecUserConfig sampleConstants (grantingImpl sampleConstants)
        { initBtavA2dpCodecConfig 1 3000 with sampleRate := 44100 } [0, 0, 2]
      call.2.success = true ∧ (call.1.codecAt 1).codecPriority = 3000 ∧
        call.1.currentCodecConfig = some 4 ∧ call.2.restartInput = true ∧
        call.2.restartOutput = true :=
  ⟨(Reachable.init [] true).run _, by decide⟩

/-- A session in which the peer's AAC and then its SBC configuration were selected. -/
def sbcAfterAacSession : A2dpCodecs :=
  (sampleSession.run sampleConstants (grantingImpl sampleConstants)
    [.setCodecConfig [0, 0, 2] false true, .setCodecConfig [0, 0, 0] false true]).1

/-- The peer's AAC configuration again: AAC becomes current, but its bytes and config are
the ones it already had, so no flag is set. -/
theorem ota_switch_unreported :
    Reachable sampleConstants (grantingImpl sampleConstants) sbcAfterAacSession ∧
      sbcAfterAacSession.currentCodecConfig = some 0 ∧
      let call := sbcAfterAacSession.setCodecOtaConfig sampleConstants (grantingImpl sampleConstants)
        [0, 0, 2]
      call.2.success = true ∧ call.1.currentCodecConfig = some 1 ∧ call.2.configUpdated = false :=
  ⟨(Reachable.init [] true).run _, by decide⟩

end A2dpCodec
