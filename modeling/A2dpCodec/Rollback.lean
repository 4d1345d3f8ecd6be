import A2dpCodec.Run

/-! Failure is rollback: a configuring call that returns false leaves the registry as it
found it, provided the codec's own negotiation does so. And a user configuration of the
current codec locks out the peer: OTA configurations are refused and audio updates keep
the user configuration, the priorities and the current codec. -/

namespace A2dpCodec

open A2dpCodecs

/-- The codec's own `setCodecConfig` leaves the descriptor as it was whenever it fails. -/
def RestoresOnFailure (impl : A2dpCodecImpl) : Prop :=
  ∀ c info isCapability, (impl.setCodecConfig c info isCapability).1 = false →
    (impl.setCodecConfig c info isCapability).2.1 = c

/-- The codec's own `setCodecConfig` never writes the user config or the priority. -/
def KeepsUserConfig (impl : A2dpCodecImpl) : Prop :=
  ∀ c info isCapability,
    (impl.setCodecConfig c info isCapability).2.1.codecUserConfig = c.codecUserConfig ∧
      (impl.setCodecConfig c info isCapability).2.1.codecPriority = c.codecPriority

/-- The registry operations outside the peer-capability setters: those that run a
negotiation. -/
def Op.negotiates : Op → Bool
  | .setPeerSinkCodecCapabilities .. => false
  | .setPeerSourceCodecCapabilities .. => false
  | _ => true

section
variable (K : A2dpConstants) (impl : A2dpCodecImpl)

theorem setCodecConfig_of_failure (restores : RestoresOnFailure impl) {c : A2dpCodecConfig}
    {info : CodecInfo} {b : Bool} (failed : (c.setCodecConfig impl info b).1 = false) :
    (c.setCodecConfig impl info b).2.1 = c := by
  simp only [A2dpCodecConfig.setCodecConfig] at failed ⊢
  rw [restores c info b failed]

theorem setCodecUserConfig_rollback (restores : RestoresOnFailure impl) (c : A2dpCodecConfig)
    (u a : BtavA2dpCodecConfig) (info : CodecInfo) (b : Bool)
    (failed : (c.setCodecUserConfig K impl u a info b).2.success = false) :
    (c.setCodecUserConfig K impl u a info b).1 = c := by
  rcases h : ({ c with codecUserConfig := u, codecAudioConfig := a } :
    A2dpCodecConfig).setCodecConfig impl info b with ⟨ok, c', r⟩
  cases ok with
  | true => simp [setCodecUserConfig_of_success K impl h] at failed
  | false =>
    have restored : c' = { c with codecUserConfig := u, codecAudioConfig := a } := by
      simpa only [h] using setCodecConfig_of_failure impl restores (congrArg (·.1) h)
    rw [setCodecUserConfig_of_failure K impl h, restored]

theorem updateCodecPriority_success (s : A2dpCodecs) (last : Option Int) (k : Int)
    (c : A2dpCodecConfig) (p : Int) (o : ConfigOutcome) :
    (s.updateCodecPriority K last k c p o).2.success = o.success := by
  unfold updateCodecPriority
  dsimp only
  split
  · rfl
  · split_ifs <;> rfl

theorem negotiateFound_rollback (restores : RestoresOnFailure impl) {s : A2dpCodecs}
    {found : Option (Int × A2dpCodecConfig)}
    (pointsInto : ∀ k c, found = some (k, c) → s.indexedCodecs k = some c) (info : CodecInfo)
    (isCapability select : Bool)
    (failed : (s.negotiateFound impl found info isCapability select).2.success = false) :
    (s.negotiateFound impl found info isCapability select).1 = s := by
  match found, pointsInto with
  | none, _ => rfl
  | some (k, c), pointsInto =>
    simp only [negotiateFound] at failed ⊢
    split at failed
    · cases failed
    · rename_i notOk
      rw [if_neg notOk, setCodecConfig_of_failure impl restores (by simpa using notOk),
        setCodec_self (pointsInto k c rfl)]

theorem step_rollback (restores : RestoresOnFailure impl) (s : A2dpCodecs) (op : Op)
    (negotiates : op.negotiates = true) (failed : (s.step K impl op).2.success = false) :
    (s.step K impl op).1 = s := by
  cases op with
  | setCodecUserConfig u caps =>
    simp only [step, setCodecUserConfig] at failed ⊢
    split at failed
    · rfl
    · rename_i k c target
      split at failed
      · simp only [updateCodecPriority_success] at failed
        rename_i succeeded; rw [succeeded] at failed; cases failed
      · rename_i notSucceeded
        rw [if_neg notSucceeded, setCodecUserConfig_rollback K impl restores _ _ _ _ _
          (by simpa using notSucceeded), setCodec_self (userConfigTarget_found K target)]
  | setCodecAudioConfig a caps =>
    simp only [step, setCodecAudioConfig] at failed ⊢
    split at failed
    · rfl
    · rename_i k c current
      rw [setCodecUserConfig_rollback K impl restores _ _ _ _ _ failed,
        setCodec_self (current_eq_some current).2]
  | setCodecOtaConfig ota =>
    simp only [step, setCodecOtaConfig] at failed ⊢
    split at failed
    · rfl
    · rename_i k c target
      split at failed
      · rename_i succeeded; rw [succeeded] at failed; cases failed
      · rename_i notSucceeded
        rw [if_neg notSucceeded, setCodecUserConfig_rollback K impl restores _ _ _ _ _
          (by simpa using notSucceeded), setCodec_self (otaTarget_found K impl target).1]
  | setCodecConfig info isCapability select =>
    exact negotiateFound_rollback impl restores (fun _ _ => findSourceCodecConfig_found K impl) _ _ _ failed
  | setSinkCodecConfig info isCapability select =>
    exact negotiateFound_rollback impl restores (fun _ _ => findSinkCodecConfig_found K impl) _ _ _ failed
  | setPeerSinkCodecCapabilities info => cases negotiates
  | setPeerSourceCodecCapabilities info => cases negotiates

/-- A configuring call that returns false leaves the state as it was: the descriptor after
`A2dpCodecConfig::setCodecUserConfig`, and the whole registry (current codec, ordered lists,
every descriptor) after each registry operation that runs a negotiation. -/
theorem failed_call_rolls_back (restores : RestoresOnFailure impl) :
    (∀ (c : A2dpCodecConfig) (u a : BtavA2dpCodecConfig) (info : CodecInfo) (b : Bool),
      (c.setCodecUserConfig K impl u a info b).2.success = false →
        (c.setCodecUserConfig K impl u a info b).1 = c) ∧
    ∀ (s : A2dpCodecs) (op : Op), op.negotiates = true → (s.step K impl op).2.success = false →
      (s.step K impl op).1 = s :=
  ⟨setCodecUserConfig_rollback K impl restores, step_rollback K impl restores⟩

end

theorem grantingImpl_restoresOnFailure (K : A2dpConstants) :
    RestoresOnFailure (grantingImpl K) := by
  intro c info b
  simp only [grantingImpl]
  split
  · intro never; cases never
  · intro _; rfl

theorem failed_call_rolls_back_granting :
    RestoresOnFailure (grantingImpl sampleConstants) ∧
      ((∀ (c : A2dpCodecConfig) (u a : BtavA2dpCodecConfig) (info : CodecInfo) (b : Bool),
        (c.setCodecUserConfig sampleConstants (grantingImpl sampleConstants) u a info b).2.success =
            false →
          (c.setCodecUserConfig sampleConstants (grantingImpl sampleConstants) u a info b).1 = c) ∧
      ∀ (s : A2dpCodecs) (op : Op), op.negotiates = true →
        (s.step sampleConstants (grantingImpl sampleConstants) op).2.success = false →
          (s.step sampleConstants (grantingImpl sampleConstants) op).1 = s) :=
  ⟨grantingImpl_restoresOnFailure sampleConstants,
    failed_call_rolls_back sampleConstants _ (grantingImpl_restoresOnFailure sampleConstants)⟩

section
variable (K : A2dpConstants) (impl : A2dpCodecImpl)

theorem setCodecConfig_keeps (keeps : KeepsUserConfig impl) (c : A2dpCodecConfig) (info : CodecInfo)
    (b : Bool) :
    (c.setCodecConfig impl info b).2.1.codecUserConfig = c.codecUserConfig ∧
      (c.setCodecConfig impl info b).2.1.codecPriority = c.codecPriority :=
  keeps c info b

theorem setCodecUserConfig_keeps (keeps : KeepsUserConfig impl) (c : A2dpCodecConfig)
    (a : BtavA2dpCodecConfig) (info : CodecInfo) (b : Bool) :
    (c.setCodecUserConfig K impl c.codecUserConfig a info b).1.codecUserConfig = c.codecUserConfig ∧
      (c.setCodecUserConfig K impl c.codecUserConfig a info b).1.codecPriority = c.codecPriority := by
  rcases h : ({ c with codecUserConfig := c.codecUserConfig, codecAudioConfig := a } :
    A2dpCodecConfig).setCodecConfig impl info b with ⟨ok, c', r⟩
  have kept := setCodecConfig_keeps impl keeps
    { c with codecUserConfig := c.codecUserConfig, codecAudioConfig := a } info b
  simp only [h] at kept
  cases ok with
  | true => rw [setCodecUserConfig_of_success K impl h]; exact kept
  | false => rw [setCodecUserConfig_of_failure K impl h]; exact ⟨rfl, kept.2⟩

end

/-- What a user configuration of the current codec `k` keeps in place from the registry `s₀`
on: `k` stays current, every enabled descriptor keeps its user config and priority, and the
disabled codecs are untouched. -/
structure UserLocked (s₀ s : A2dpCodecs) (k : Int) : Prop where
  current : s.currentCodecConfig = some k
  userConfigs : ∀ j, (s.indexedCodecs j).map (·.codecUserConfig) =
    (s₀.indexedCodecs j).map (·.codecUserConfig)
  priorities : ∀ j, (s.indexedCodecs j).map (·.codecPriority) =
    (s₀.indexedCodecs j).map (·.codecPriority)
  disabled : s.disabledCodecs = s₀.disabledCodecs

namespace UserLocked

variable {K : A2dpConstants} {impl : A2dpCodecImpl} {s₀ s : A2dpCodecs} {k : Int}
  {c₀ : A2dpCodecConfig}

theorem refl (current : s.currentCodecConfig = some k) : UserLocked s s k :=
  ⟨current, fun _ => rfl, fun _ => rfl, rfl⟩

theorem setCodec (locked : UserLocked s₀ s k) {j : Int} {c c' : A2dpCodecConfig}
    (found : s.indexedCodecs j = some c) (user : c'.codecUserConfig = c.codecUserConfig)
    (priority : c'.codecPriority = c.codecPriority) : UserLocked s₀ (s.setCodec j c') k where
  current := locked.current
  userConfigs i := by
    rw [setCodec_indexedCodecs]
    split
    · subst i; rw [← locked.userConfigs, found, Option.map_some', Option.map_some', user]
    · exact locked.userConfigs i
  priorities i := by
    rw [setCodec_indexedCodecs]
    split
    · subst i; rw [← locked.priorities, found, Option.map_some', Option.map_some', priority]
    · exact locked.priorities i
  disabled := locked.disabled

variable (found₀ : s₀.indexedCodecs k = some c₀)
include found₀

theorem current_eq (locked : UserLocked s₀ s k) :
    ∃ c, s.current = some (k, c) ∧ c.codecUserConfig = c₀.codecUserConfig := by
  have user := locked.userConfigs k
  rw [found₀, Option.map_some'] at user
  obtain ⟨c, found, same⟩ := Option.map_eq_some'.mp user
  exact ⟨c, by simp only [A2dpCodecs.current, locked.current, Option.some_bind, find, found, Option.map_some'],
    same⟩

variable (configured : isCodecConfigEmpty K c₀.codecUserConfig = false)
include configured

theorem step (keeps : KeepsUserConfig impl) (locked : UserLocked s₀ s k) (op : Op)
    (peerDriven : op.isPeerDriven = true) :
    (∀ ota, op = .setCodecOtaConfig ota → (s.step K impl op).2.success = false) ∧
      UserLocked s₀ (s.step K impl op).1 k := by
  obtain ⟨c, current, user⟩ := locked.current_eq found₀
  cases op with
  | setCodecAudioConfig a caps =>
    refine ⟨(fun _ never => nomatch never), ?_⟩
    simp only [A2dpCodecs.step, setCodecAudioConfig, current]
    obtain ⟨keptUser, keptPriority⟩ := setCodecUserConfig_keeps K impl keeps c a caps true
    exact locked.setCodec (current_eq_some current).2 keptUser keptPriority
  | setCodecOtaConfig ota =>
    have refused : s.otaTarget K impl ota = none := by
      have : s.currentUserConfigured K = true := by
        simp [currentUserConfigured, current, user, configured]
      simp only [otaTarget, this, if_true]
    simp only [A2dpCodecs.step, setCodecOtaConfig, refused]
    exact ⟨fun _ _ => rfl, locked⟩
  | _ => cases peerDriven

theorem run (keeps : KeepsUserConfig impl) (ops : List Op)
    (peerDriven : ∀ op ∈ ops, op.isPeerDriven = true) (locked : UserLocked s₀ s k) :
    (∀ p ∈ ops.zip (s.run K impl ops).2, ∀ ota, p.1 = .setCodecOtaConfig ota → p.2.success = false) ∧
      UserLocked s₀ (s.run K impl ops).1 k := by
  induction ops generalizing s with
  | nil => exact ⟨by simp, locked⟩
  | cons op ops ih =>
    obtain ⟨refused, locked'⟩ :=
      locked.step found₀ configured keeps op (peerDriven op (List.mem_cons_self _ _))
    obtain ⟨refusedRest, lockedRest⟩ :=
      ih (fun o member => peerDriven o (List.mem_cons_of_mem _ member)) locked'
    refine ⟨?_, lockedRest⟩
    simp only [run_cons, List.zip_cons_cons, List.mem_cons]
    rintro p (rfl | member)
    · exact refused
    · exact refusedRest p member

end UserLocked

/-- A user configuration on the current codec locks the peer out: over any run of OTA
configurations and audio updates, each OTA configuration returns false, and at the end the
same codec is current and every descriptor has the user config and priority it had. -/
theorem peer_never_overrides_user_config {K : A2dpConstants} {impl : A2dpCodecImpl}
    (keeps : KeepsUserConfig impl) {s : A2dpCodecs} {k : Int} {c : A2dpCodecConfig}
    (current : s.current = some (k, c)) (configured : isCodecConfigEmpty K c.codecUserConfig = false)
    (ops : List Op) (peerDriven : ∀ op ∈ ops, op.isPeerDriven = true) :
    (∀ p ∈ ops.zip (s.run K impl ops).2, ∀ ota, p.1 = .setCodecOtaConfig ota → p.2.success = false) ∧
      UserLocked s (s.run K impl ops).1 k :=
  UserLocked.run (current_eq_some current).2 configured keeps ops peerDriven
    (.refl (current_eq_some current).1)

theorem grantingImpl_keepsUserConfig (K : A2dpConstants) : KeepsUserConfig (grantingImpl K) := by
  intro c info b
  simp only [grantingImpl]
  split <;> exact ⟨rfl, rfl⟩

/-- A session in which the user configured SBC at 44.1 kHz right after `init()`. -/
def userConfiguredSession : A2dpCodecs :=
  (((A2dpCodecs.new []).init sampleConstants (grantingImpl sampleConstants) true).1.setCodecUserConfig
    sampleConstants (grantingImpl sampleConstants)
    { initBtavA2dpCodecConfig sampleConstants.sourceSbc sampleConstants.priorityDefault with
      sampleRate := 44100 } []).1

theorem peer_never_overrides_user_config_sbc :
    KeepsUserConfig (grantingImpl sampleConstants) ∧
      userConfiguredSession.current = some (0, userConfiguredSession.codecAt 0) ∧
      isCodecConfigEmpty sampleConstants (userConfiguredSession.codecAt 0).codecUserConfig = false ∧
      (∀ op ∈ [Op.setCodecOtaConfig [], .setCodecAudioConfig default []], op.isPeerDriven = true) ∧
      (∀ p ∈ [Op.setCodecOtaConfig [], .setCodecAudioConfig default []].zip
          (userConfiguredSession.run sampleConstants (grantingImpl sampleConstants)
            [.setCodecOtaConfig [], .setCodecAudioConfig default []]).2,
        ∀ ota, p.1 = .setCodecOtaConfig ota → p.2.success = false) ∧
      UserLocked userConfiguredSession
        (userConfiguredSession.run sampleConstants (grantingImpl sampleConstants)
          [.setCodecOtaConfig [], .setCodecAudioConfig default []]).1 0 :=
  have current : userConfiguredSession.current = some (0, userConfiguredSession.codecAt 0) := by
    decide
  have configured :
      isCodecConfigEmpty sampleConstants (userConfiguredSession.codecAt 0).codecUserConfig = false := by
    decide
  have peerDriven :
      ∀ op ∈ [Op.setCodecOtaConfig [], .setCodecAudioConfig default []], op.isPeerDriven = true := by
    decide
  ⟨grantingImpl_keepsUserConfig _, current, configured, peerDriven,
    peer_never_overrides_user_config (grantingImpl_keepsUserConfig _) current configured _ peerDriven⟩

end A2dpCodec
