import A2dpCodec.Capabilities

/-! # The configuration the session layer is shown

`getCodecConfigAndCapabilities` hands the session layer the current codec's `codec_config_`.
Its codec type and priority are copies: the constructor writes them from `codec_index_` and
`codec_priority_`, and both priority setters write `codec_priority_` and
`codec_config_.codec_priority` together. The codecs' own code sets the other fields of
`codec_config_`. So in every reachable state every descriptor's `codec_config_` names its own
codec index and current priority, and so does the configuration the session layer is shown. -/

namespace A2dpCodec

open A2dpCodecs

/-- A descriptor whose `codec_config_` names its own codec index and current priority. -/
structure A2dpCodecConfig.Synced (c : A2dpCodecConfig) : Prop where
  codecType : c.codecConfig.codecType = c.codecIndex
  codecPriority : c.codecConfig.codecPriority = c.codecPriority

/-- The codec type and priority of `codec_config_`, and `codec_priority_`. -/
def A2dpCodecConfig.priorityFields (c : A2dpCodecConfig) : Int × Int × Int :=
  (c.codecConfig.codecType, c.codecConfig.codecPriority, c.codecPriority)

/-- The codecs' own `init()`, `setCodecConfig` and `setPeerCodecCapabilities` never write the
codec type or priority of `codec_config_`, nor `codec_priority_`. -/
structure KeepsSnapshot (impl : A2dpCodecImpl) : Prop where
  init : ∀ c c', impl.init c = some c' → c'.priorityFields = c.priorityFields
  setCodecConfig : ∀ c info isCapability,
    (impl.setCodecConfig c info isCapability).2.1.priorityFields = c.priorityFields
  setPeerCodecCapabilities : ∀ c info, (impl.setPeerCodecCapabilities c info).2.priorityFields = c.priorityFields

theorem KeepsSnapshot.keepsPriority {impl : A2dpCodecImpl} (keeps : KeepsSnapshot impl) : KeepsPriority impl :=
  ⟨fun c info b => congrArg (·.2.2) (keeps.setCodecConfig c info b),
    fun c info => congrArg (·.2.2) (keeps.setPeerCodecCapabilities c info)⟩

theorem grantingImpl_keepsSnapshot (K : A2dpConstants) : KeepsSnapshot (grantingImpl K) where
  init _ _ created := by cases created; rfl
  setCodecConfig c info _ := by
    simp only [grantingImpl]
    split <;> rfl
  setPeerCodecCapabilities _ _ := rfl

namespace A2dpCodecConfig.Synced

variable {c c' : A2dpCodecConfig}

theorem of_priorityFields (h : c.Synced) (same : c'.priorityFields = c.priorityFields)
    (index : c'.codecIndex = c.codecIndex) : c'.Synced := by
  simp only [priorityFields, Prod.mk.injEq] at same
  exact ⟨by rw [same.1, index, h.codecType], by rw [same.2.1, same.2.2, h.codecPriority]⟩

theorem writePriority (h : c.Synced) (p : Int) : (c.writePriority p).Synced :=
  ⟨h.codecType, rfl⟩

variable (K : A2dpConstants) (impl : A2dpCodecImpl)

theorem setDefaultCodecPriority (h : c.Synced) : (c.setDefaultCodecPriority K).Synced :=
  h.writePriority _

theorem setCodecPriority (h : c.Synced) (p : Int) : (c.setCodecPriority K p).Synced := by
  unfold A2dpCodecConfig.setCodecPriority
  split
  · exact h.setDefaultCodecPriority K
  · exact h.writePriority p

variable {impl} (keeps : KeepsSnapshot impl)
include keeps

theorem setCodecConfig (h : c.Synced) (info : CodecInfo) (isCapability : Bool) :
    (c.setCodecConfig impl info isCapability).2.1.Synced :=
  h.of_priorityFields (keeps.setCodecConfig c info isCapability) rfl

theorem setPeerCodecCapabilities (h : c.Synced) (info : CodecInfo) :
    (c.setPeerCodecCapabilities impl info).2.Synced :=
  h.of_priorityFields (keeps.setPeerCodecCapabilities c info) rfl

theorem setCodecUserConfig (h : c.Synced) (u a : BtavA2dpCodecConfig) (info : CodecInfo) (b : Bool) :
    (c.setCodecUserConfig K impl u a info b).1.Synced := by
  have installed : ({ c with codecUserConfig := u, codecAudioConfig := a } : A2dpCodecConfig).Synced :=
    ⟨h.codecType, h.codecPriority⟩
  have negotiated := installed.setCodecConfig keeps info b
  unfold A2dpCodecConfig.setCodecUserConfig
  dsimp only
  split
  · exact negotiated
  · exact ⟨negotiated.codecType, negotiated.codecPriority⟩

theorem createCodec {i p : Int} (created : createCodec K impl i p = some c) : c.Synced := by
  unfold A2dpCodec.createCodec at created
  split at created
  · obtain ⟨c', initialised, rfl⟩ := Option.map_eq_some'.mp created
    have same := keeps.init _ c' initialised
    simp only [priorityFields, Prod.mk.injEq] at same
    exact ⟨same.1, same.2.1.trans (same.2.2.symm)⟩
  · exact absurd created nofun

end A2dpCodecConfig.Synced

/-- Every enabled descriptor's `codec_config_` names its own codec index and priority. -/
def A2dpCodecs.AllSynced (s : A2dpCodecs) : Prop :=
  ∀ i c, s.indexedCodecs i = some c → c.Synced

namespace A2dpCodecs.AllSynced

variable {s : A2dpCodecs}

theorem setCodec (h : s.AllSynced) {k : Int} {c : A2dpCodecConfig} (synced : c.Synced) :
    (s.setCodec k c).AllSynced := fun i c' found => by
  rw [setCodec_indexedCodecs] at found
  split at found
  · cases found; exact synced
  · exact h i c' found

theorem modifyCodec (h : s.AllSynced) (k : Int) {f : A2dpCodecConfig → A2dpCodecConfig}
    (keeps : ∀ c, c.Synced → (f c).Synced) : (s.modifyCodec k f).AllSynced := by
  unfold A2dpCodecs.modifyCodec
  split
  · exact h.setCodec (keeps _ (h k _ ‹_›))
  · exact h

end A2dpCodecs.AllSynced

section
variable (K : A2dpConstants) {impl : A2dpCodecImpl} (keeps : KeepsSnapshot impl) {s : A2dpCodecs}
  (h : s.AllSynced)
include keeps h

theorem allSynced_negotiateFound {found : Option (Int × A2dpCodecConfig)}
    (pointsInto : ∀ k c, found = some (k, c) → s.indexedCodecs k = some c) (info : CodecInfo)
    (isCapability select : Bool) : (s.negotiateFound impl found info isCapability select).1.AllSynced := by
  match found, pointsInto with
  | none, _ => exact h
  | some (k, c), pointsInto =>
    have written := h.setCodec (k := k) ((h k c (pointsInto k c rfl)).setCodecConfig keeps info isCapability)
    simp only [negotiateFound]
    split
    · split <;> exact written
    · exact written

theorem allSynced_recordPeerCapabilities {found : Option (Int × A2dpCodecConfig)}
    (pointsInto : ∀ k c, found = some (k, c) → s.indexedCodecs k = some c) (valid : Bool)
    (info : CodecInfo) : (s.recordPeerCapabilities impl valid found info).1.AllSynced := by
  unfold recordPeerCapabilities
  split
  · exact h
  · match found, pointsInto with
    | none, _ => exact h
    | some (k, c), pointsInto => exact h.setCodec ((h k c (pointsInto k c rfl)).setPeerCodecCapabilities keeps info)

omit keeps in
theorem allSynced_updateCodecPriority {k : Int} {c : A2dpCodecConfig} (synced : c.Synced)
    (last : Option Int) (p : Int) (o : ConfigOutcome) : (s.updateCodecPriority K last k c p o).1.AllSynced := by
  have written := h.setCodec (k := k) (synced.setCodecPriority K p)
  rcases updateCodecPriority_cases K s last k c p o with ⟨-, same⟩ | ⟨-, same⟩ | ⟨l, -, -, same⟩ <;>
    rw [same]
  · exact written
  · exact written
  · exact AllSynced.modifyCodec (s := { s.setCodec k (c.setCodecPriority K p) with currentCodecConfig := some k })
      written l fun _ synced => synced.setDefaultCodecPriority K

theorem allSynced_setCodecUserConfig (u : BtavA2dpCodecConfig) (caps : CodecInfo) :
    (s.setCodecUserConfig K impl u caps).1.AllSynced := by
  unfold setCodecUserConfig
  split
  · exact h
  · rename_i k c target
    have negotiated := (h k c (userConfigTarget_found K target)).setCodecUserConfig K keeps u
      c.codecAudioConfig caps true
    dsimp only
    split
    · exact allSynced_updateCodecPriority K (h.setCodec negotiated) negotiated _ _ _
    · exact h.setCodec negotiated

theorem allSynced_setCodecAudioConfig (a : BtavA2dpCodecConfig) (caps : CodecInfo) :
    (s.setCodecAudioConfig K impl a caps).1.AllSynced := by
  unfold setCodecAudioConfig
  split
  · exact h
  · rename_i k c current
    exact h.setCodec ((h k c (current_eq_some current).2).setCodecUserConfig K keeps _ a caps true)

theorem allSynced_setCodecOtaConfig (ota : CodecInfo) : (s.setCodecOtaConfig K impl ota).1.AllSynced := by
  unfold setCodecOtaConfig
  split
  · exact h
  · rename_i k c target
    have written := h.setCodec (k := k)
      ((h k c (otaTarget_found K impl target).1).setCodecUserConfig K keeps c.codecUserConfig
        c.codecAudioConfig ota false)
    dsimp only
    split <;> exact written

theorem allSynced_step (op : Op) : (s.step K impl op).1.AllSynced := by
  cases op with
  | setCodecUserConfig u caps => exact allSynced_setCodecUserConfig K keeps h u caps
  | setCodecAudioConfig a caps => exact allSynced_setCodecAudioConfig K keeps h a caps
  | setCodecOtaConfig ota => exact allSynced_setCodecOtaConfig K keeps h ota
  | setCodecConfig info isCapability select =>
    exact allSynced_negotiateFound keeps h (fun _ _ => findSourceCodecConfig_found K impl) _ _ _
  | setSinkCodecConfig info isCapability select =>
    exact allSynced_negotiateFound keeps h (fun _ _ => findSinkCodecConfig_found K impl) _ _ _
  | setPeerSinkCodecCapabilities info =>
    exact allSynced_recordPeerCapabilities keeps h (fun _ _ => findSourceCodecConfig_found K impl) _ _
  | setPeerSourceCodecCapabilities info =>
    exact allSynced_recordPeerCapabilities keeps h (fun _ _ => findSinkCodecConfig_found K impl) _ _

omit h in
theorem allSynced_initCodec (opusEnabled : Bool) (i : Int) (h : s.AllSynced) :
    (s.initCodec K impl opusEnabled i).AllSynced := by
  unfold initCodec
  dsimp only
  split
  · exact h
  · rename_i c created
    have synced := A2dpCodecConfig.Synced.createCodec K keeps created
    have filed : ∀ j c', mapInsert s.indexedCodecs i c j = some c' → c'.Synced := fun j c' found => by
      cases present : s.indexedCodecs i with
      | some _ =>
        simp only [mapInsert, present] at found
        exact h j c' found
      | none =>
        rw [mapInsert_of_none c present, Function.update_apply] at found
        split at found
        · cases found; exact synced
        · exact h j c' found
    split
    · exact h
    · split <;> exact filed

omit h in
theorem allSynced_foldl_initCodec (opusEnabled : Bool) :
    ∀ (l : List Int) (s : A2dpCodecs), s.AllSynced → (l.foldl (initCodec K impl opusEnabled) s).AllSynced
  | [], _, synced => synced
  | i :: l, _, synced =>
    allSynced_foldl_initCodec opusEnabled l _ (allSynced_initCodec K keeps opusEnabled i synced)

omit h in
/-- In every reachable state every enabled descriptor keeps its copies. -/
theorem allSynced_of_reachable (reach : Reachable K impl s) : s.AllSynced := by
  induction reach with
  | init codecPriorities opusEnabled =>
    exact allSynced_foldl_initCodec K keeps opusEnabled _ _ fun _ _ absent => nomatch (absent : none = some _)
  | step op _ ih => exact allSynced_step K keeps ih op

end

/-- Assume the codecs' own code never writes the codec type or priority of `codec_config_`,
nor `codec_priority_`. In every reachable state every enabled descriptor's `codec_config_`
names its codec index and its current priority, and the configuration
`getCodecConfigAndCapabilities` shows the session layer is the current codec's, naming the
current codec's index and priority, or all zero when there is no current codec. -/
theorem shownCodecConfig_of_reachable {K : A2dpConstants} {impl : A2dpCodecImpl}
    (keeps : KeepsSnapshot impl) {s : A2dpCodecs} (reach : Reachable K impl s) :
    (∀ i c, s.indexedCodecs i = some c →
        c.codecConfig.codecType = i ∧ c.codecConfig.codecPriority = c.codecPriority) ∧
      (∀ k c, s.current = some (k, c) →
        (s.getCodecConfigAndCapabilities K).2.codecConfig = c.codecConfig ∧
          (s.getCodecConfigAndCapabilities K).2.codecConfig.codecType = k ∧
          (s.getCodecConfigAndCapabilities K).2.codecConfig.codecPriority = c.codecPriority) ∧
      (s.current = none → (s.getCodecConfigAndCapabilities K).2.codecConfig = zeroBtavA2dpCodecConfig) := by
  have own := (ownership_ordered_of_reachable keeps.keepsPriority reach).1
  have synced := allSynced_of_reachable K keeps reach
  have named : ∀ i c, s.indexedCodecs i = some c →
      c.codecConfig.codecType = i ∧ c.codecConfig.codecPriority = c.codecPriority := fun i c found =>
    ⟨(synced i c found).codecType.trans (own.indexed_codecIndex i c found), (synced i c found).codecPriority⟩
  refine ⟨named, fun k c current => ?_, fun none => ?_⟩
  · have shown : (s.getCodecConfigAndCapabilities K).2.codecConfig = c.codecConfig := by
      simp only [getCodecConfigAndCapabilities, current]
    rw [shown]
    exact ⟨rfl, named k c (current_eq_some current).2⟩
  · simp only [getCodecConfigAndCapabilities, none]

/-- The session in which the user configured LDAC, which is current. -/
theorem shownCodecConfig_of_reachable_ldacSession :
    KeepsSnapshot (grantingImpl sampleConstants) ∧
      Reachable sampleConstants (grantingImpl sampleConstants) ldacSession ∧
      ldacSession.currentCodecConfig = some 4 ∧
      (∀ i c, ldacSession.indexedCodecs i = some c →
        c.codecConfig.codecType = i ∧ c.codecConfig.codecPriority = c.codecPriority) ∧
      (∀ k c, ldacSession.current = some (k, c) →
        (ldacSession.getCodecConfigAndCapabilities sampleConstants).2.codecConfig = c.codecConfig ∧
          (ldacSession.getCodecConfigAndCapabilities sampleConstants).2.codecConfig.codecType = k ∧
          (ldacSession.getCodecConfigAndCapabilities sampleConstants).2.codecConfig.codecPriority =
            c.codecPriority) ∧
      (ldacSession.current = none →
        (ldacSession.getCodecConfigAndCapabilities sampleConstants).2.codecConfig = zeroBtavA2dpCodecConfig) :=
  have keeps := grantingImpl_keepsSnapshot sampleConstants
  have reach : Reachable sampleConstants (grantingImpl sampleConstants) ldacSession := (Reachable.init [] true).run _
  ⟨keeps, reach, by decide, shownCodecConfig_of_reachable keeps reach⟩

end A2dpCodec
