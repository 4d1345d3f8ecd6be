import A2dpCodec.Run

/-! # Which descriptors an operation writes

Each registry operation writes back at most the descriptor it resolves to: the target of a
user configuration, the current codec for an audio configuration, the guarded codec of a
peer's OTA configuration, the codec a peer's codec information finds. A user configuration
may also demote the codec that was current. Every other descriptor, and over a run every
descriptor none of its operations resolves to, is left as it was. -/

namespace A2dpCodec

open A2dpCodecs

/-- A step from `s` to `s'` writes no descriptor outside `written`. -/
def WritesOnly (written : List Int) (s s' : A2dpCodecs) : Prop :=
  ∀ j ∉ written, s'.indexedCodecs j = s.indexedCodecs j

namespace WritesOnly

variable {s s' s'' : A2dpCodecs} {w w' : List Int}

theorem refl (s : A2dpCodecs) : WritesOnly [] s s := fun _ _ => rfl

theorem trans (h : WritesOnly w s s') (h' : WritesOnly w' s' s'') : WritesOnly (w ++ w') s s'' :=
  fun j outside => by
    rw [List.mem_append, not_or] at outside
    exact (h' j outside.2).trans (h j outside.1)

theorem mono (h : WritesOnly w s s') (sub : w ⊆ w') : WritesOnly w' s s' :=
  fun j outside => h j fun member => outside (sub member)

theorem setCodec (s : A2dpCodecs) (k : Int) (c : A2dpCodecConfig) : WritesOnly [k] s (s.setCodec k c) :=
  fun j outside => by
    rw [setCodec_indexedCodecs, if_neg fun same => outside (List.mem_singleton.mpr same)]

theorem modifyCodec (s : A2dpCodecs) (k : Int) (f : A2dpCodecConfig → A2dpCodecConfig) :
    WritesOnly [k] s (s.modifyCodec k f) :=
  fun _ outside => modifyCodec_indexedCodecs_of_ne s (fun same => outside (List.mem_singleton.mpr same)) f

end WritesOnly

section
variable (K : A2dpConstants) (impl : A2dpCodecImpl) (s : A2dpCodecs)

/-- The descriptors an operation may write: the one it resolves to and, for a user
configuration, the codec current before it. -/
def Op.writes : Op → List Int
  | .setCodecUserConfig u _ => ((s.userConfigTarget K u).map (·.1)).toList ++ s.currentCodecConfig.toList
  | .setCodecAudioConfig .. => (s.current.map (·.1)).toList
  | .setCodecOtaConfig ota => ((s.otaTarget K impl ota).map (·.1)).toList
  | .setCodecConfig info .. => ((s.findSourceCodecConfig K impl info).map (·.1)).toList
  | .setSinkCodecConfig info .. => ((s.findSinkCodecConfig K impl info).map (·.1)).toList
  | .setPeerSinkCodecCapabilities info => ((s.findSourceCodecConfig K impl info).map (·.1)).toList
  | .setPeerSourceCodecCapabilities info => ((s.findSinkCodecConfig K impl info).map (·.1)).toList

theorem writesOnly_negotiateFound (found : Option (Int × A2dpCodecConfig)) (info : CodecInfo)
    (isCapability selectCurrentCodec : Bool) :
    WritesOnly (found.map (·.1)).toList s (s.negotiateFound impl found info isCapability selectCurrentCodec).1 := by
  unfold negotiateFound
  split
  · exact WritesOnly.refl s
  · dsimp only
    split
    · split <;> exact WritesOnly.setCodec _ _ _
    · exact WritesOnly.setCodec _ _ _

theorem writesOnly_recordPeerCapabilities (valid : Bool) (found : Option (Int × A2dpCodecConfig))
    (info : CodecInfo) : WritesOnly (found.map (·.1)).toList s (s.recordPeerCapabilities impl valid found info).1 := by
  unfold recordPeerCapabilities
  split
  · exact (WritesOnly.refl s).mono (List.nil_subset _)
  · split
    · exact WritesOnly.refl s
    · exact WritesOnly.setCodec _ _ _

theorem writesOnly_updateCodecPriority (last : Option Int) (k : Int) (c : A2dpCodecConfig) (p : Int)
    (o : ConfigOutcome) : WritesOnly (k :: last.toList) s (s.updateCodecPriority K last k c p o).1 := by
  have target := WritesOnly.setCodec s k (c.setCodecPriority K p)
  rcases updateCodecPriority_cases K s last k c p o with ⟨-, same⟩ | ⟨-, same⟩ | ⟨l, rfl, -, same⟩ <;>
    rw [same]
  · exact target.mono (List.cons_subset_cons k (List.nil_subset _))
  · exact target.mono (List.cons_subset_cons k (List.nil_subset _))
  · exact target.trans (WritesOnly.modifyCodec _ l _)

theorem writesOnly_setCodecUserConfig (u : BtavA2dpCodecConfig) (caps : CodecInfo) :
    WritesOnly ((Op.setCodecUserConfig u caps).writes K impl s) s (s.setCodecUserConfig K impl u caps).1 := by
  cases target : s.userConfigTarget K u with
  | none =>
    simp only [setCodecUserConfig, target]
    exact (WritesOnly.refl s).mono (List.nil_subset _)
  | some kc =>
    obtain ⟨k, c⟩ := kc
    simp only [setCodecUserConfig, Op.writes, target, Option.map_some', Option.toList_some]
    split
    · exact ((WritesOnly.setCodec s k _).trans (writesOnly_updateCodecPriority K _ _ _ _ _ _)).mono (by simp)
    · exact (WritesOnly.setCodec s k _).mono (by simp)

theorem writesOnly_step (op : Op) : WritesOnly (op.writes K impl s) s (s.step K impl op).1 := by
  cases op with
  | setCodecUserConfig u caps => exact writesOnly_setCodecUserConfig K impl s u caps
  | setCodecAudioConfig a caps =>
    show WritesOnly _ s (s.setCodecAudioConfig K impl a caps).1
    cases current : s.current with
    | none => simp only [setCodecAudioConfig, current]; exact (WritesOnly.refl s).mono (List.nil_subset _)
    | some kc =>
      simp only [setCodecAudioConfig, Op.writes, current, Option.map_some', Option.toList_some]
      exact WritesOnly.setCodec _ _ _
  | setCodecOtaConfig ota =>
    show WritesOnly _ s (s.setCodecOtaConfig K impl ota).1
    cases target : s.otaTarget K impl ota with
    | none => simp only [setCodecOtaConfig, target]; exact (WritesOnly.refl s).mono (List.nil_subset _)
    | some kc =>
      simp only [setCodecOtaConfig, Op.writes, target, Option.map_some', Option.toList_some]
      split <;> exact WritesOnly.setCodec _ _ _
  | setCodecConfig info isCapability select | setSinkCodecConfig info isCapability select =>
    exact writesOnly_negotiateFound impl s _ info _ _
  | setPeerSinkCodecCapabilities info | setPeerSourceCodecCapabilities info =>
    exact writesOnly_recordPeerCapabilities impl s _ _ info

/-- The descriptors a run may write: those each operation names in the state it meets. -/
def runWrites : A2dpCodecs → List Op → List Int
  | _, [] => []
  | s, op :: ops => op.writes K impl s ++ runWrites (s.step K impl op).1 ops

end

/-- A run writes no descriptor outside those its operations resolve to, each in the state
it meets: every other descriptor ends as it started. -/
theorem run_writesOnly (K : A2dpConstants) (impl : A2dpCodecImpl) (s : A2dpCodecs) (ops : List Op) :
    WritesOnly (runWrites K impl s ops) s (s.run K impl ops).1 := by
  induction ops generalizing s with
  | nil => exact WritesOnly.refl s
  | cons op ops ih => exact (writesOnly_step K impl s op).trans (ih _)

end A2dpCodec
