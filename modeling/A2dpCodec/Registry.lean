import A2dpCodec.Descriptor

/-! The codec registry `A2dpCodecs`: the descriptors it owns, its two priority-ordered
lists, the current codec, and every operation that configures or selects a codec. A
pointer to a descriptor is written as the codec index it is stored under. -/

namespace A2dpCodec

/-- `std::map::insert`: a key already present keeps its value. -/
def mapInsert {β : Type} (m : Int → Option β) (k : Int) (v : β) : Int → Option β :=
  match m k with
  | some _ => m
  | none => Function.update m k (some v)

/-- `A2dpCodecs`. `indexedCodecs` and `disabledCodecs` own the descriptors; the ordered
lists and `currentCodecConfig` point into `indexedCodecs`. -/
structure A2dpCodecs where
  codecPriorities : Int → Option Int
  indexedCodecs : Int → Option A2dpCodecConfig
  disabledCodecs : Int → Option A2dpCodecConfig
  orderedSourceCodecs : List Int
  orderedSinkCodecs : List Int
  currentCodecConfig : Option Int

/-- The `A2dpCodecs` constructor: the priority table, first entry of each type kept. -/
def A2dpCodecs.new (codecPriorities : List BtavA2dpCodecConfig) : A2dpCodecs where
  codecPriorities := codecPriorities.foldl (fun m c => mapInsert m c.codecType c.codecPriority)
    fun _ => none
  indexedCodecs := fun _ => none
  disabledCodecs := fun _ => none
  orderedSourceCodecs := []
  orderedSinkCodecs := []
  currentCodecConfig := none

/-- `compare_codec_priority`: the larger priority first, the larger index on a tie. -/
def compareCodecPriority (lhs rhs : A2dpCodecConfig) : Bool :=
  if lhs.codecPriority > rhs.codecPriority then true
  else if lhs.codecPriority < rhs.codecPriority then false
  else lhs.codecIndex > rhs.codecIndex

/-- The indices `init()` visits, `BTAV_A2DP_CODEC_INDEX_MIN` up to `BTAV_A2DP_CODEC_INDEX_MAX`. -/
def A2dpConstants.codecIndices (K : A2dpConstants) : List Int :=
  (List.range (K.indexMax - K.indexMin).toNat).map fun n : Nat => K.indexMin + n

namespace A2dpCodecs

/-- `indexed_codecs_.find(i)` as a pointer: the key and the descriptor it reaches. -/
def find (s : A2dpCodecs) (i : Int) : Option (Int × A2dpCodecConfig) :=
  (s.indexedCodecs i).map (i, ·)

/-- `current_codec_config_` dereferenced; a pointer reaching nothing reads as null. -/
def current (s : A2dpCodecs) : Option (Int × A2dpCodecConfig) :=
  s.currentCodecConfig.bind s.find

/-- The descriptor an entry of an ordered list points to. -/
def codecAt (s : A2dpCodecs) (k : Int) : A2dpCodecConfig := (s.indexedCodecs k).getD default

/-- Writes a descriptor back through its pointer. -/
def setCodec (s : A2dpCodecs) (k : Int) (c : A2dpCodecConfig) : A2dpCodecs :=
  { s with indexedCodecs := Function.update s.indexedCodecs k (some c) }

/-- Runs a descriptor method through a pointer that may reach nothing. -/
def modifyCodec (s : A2dpCodecs) (k : Int) (f : A2dpCodecConfig → A2dpCodecConfig) : A2dpCodecs :=
  match s.indexedCodecs k with
  | some c => s.setCodec k (f c)
  | none => s

/-- `list::sort(compare_codec_priority)`: a stable merge sort that puts an entry before
an earlier one only when the comparison puts it strictly first. -/
def sortCodecs (s : A2dpCodecs) (l : List Int) : List Int :=
  l.mergeSort fun a b => !compareCodecPriority (s.codecAt b) (s.codecAt a)

@[simp] theorem setCodec_indexedCodecs (s : A2dpCodecs) (k : Int) (c : A2dpCodecConfig) (j : Int) :
    (s.setCodec k c).indexedCodecs j = if j = k then some c else s.indexedCodecs j :=
  Function.update_apply _ _ _ _

@[simp] theorem setCodec_disabledCodecs (s : A2dpCodecs) (k : Int) (c : A2dpCodecConfig) :
    (s.setCodec k c).disabledCodecs = s.disabledCodecs := rfl

@[simp] theorem setCodec_orderedSourceCodecs (s : A2dpCodecs) (k : Int) (c : A2dpCodecConfig) :
    (s.setCodec k c).orderedSourceCodecs = s.orderedSourceCodecs := rfl

@[simp] theorem setCodec_orderedSinkCodecs (s : A2dpCodecs) (k : Int) (c : A2dpCodecConfig) :
    (s.setCodec k c).orderedSinkCodecs = s.orderedSinkCodecs := rfl

@[simp] theorem setCodec_currentCodecConfig (s : A2dpCodecs) (k : Int) (c : A2dpCodecConfig) :
    (s.setCodec k c).currentCodecConfig = s.currentCodecConfig := rfl

theorem setCodec_self {s : A2dpCodecs} {k : Int} {c : A2dpCodecConfig}
    (found : s.indexedCodecs k = some c) : s.setCodec k c = s := by
  unfold setCodec
  rw [← found, Function.update_eq_self]

@[simp] theorem modifyCodec_currentCodecConfig (s : A2dpCodecs) (k : Int)
    (f : A2dpCodecConfig → A2dpCodecConfig) :
    (s.modifyCodec k f).currentCodecConfig = s.currentCodecConfig := by
  unfold modifyCodec
  split <;> rfl

@[simp] theorem modifyCodec_orderedSinkCodecs (s : A2dpCodecs) (k : Int)
    (f : A2dpCodecConfig → A2dpCodecConfig) :
    (s.modifyCodec k f).orderedSinkCodecs = s.orderedSinkCodecs := by
  unfold modifyCodec
  split <;> rfl

theorem modifyCodec_indexedCodecs_of_ne (s : A2dpCodecs) {k j : Int} (other : j ≠ k)
    (f : A2dpCodecConfig → A2dpCodecConfig) :
    (s.modifyCodec k f).indexedCodecs j = s.indexedCodecs j := by
  unfold modifyCodec
  split
  · simp [other]
  · rfl

theorem find_eq_some {s : A2dpCodecs} {i k : Int} {c : A2dpCodecConfig} :
    s.find i = some (k, c) ↔ i = k ∧ s.indexedCodecs i = some c := by
  simp only [find, Option.map_eq_some', Prod.mk.injEq]
  constructor
  · rintro ⟨c', found, rfl, rfl⟩; exact ⟨rfl, found⟩
  · rintro ⟨rfl, found⟩; exact ⟨c, found, rfl, rfl⟩

theorem current_eq_some {s : A2dpCodecs} {k : Int} {c : A2dpCodecConfig}
    (h : s.current = some (k, c)) : s.currentCodecConfig = some k ∧ s.indexedCodecs k = some c := by
  obtain ⟨l, current, found⟩ := Option.bind_eq_some.mp h
  obtain ⟨rfl, indexed⟩ := find_eq_some.mp found
  exact ⟨current, indexed⟩

theorem sortCodecs_perm (s : A2dpCodecs) (l : List Int) : (s.sortCodecs l).Perm l :=
  List.mergeSort_perm _ _

section
variable (K : A2dpConstants) (impl : A2dpCodecImpl)

/-- `A2dpCodecs::findSourceCodecConfig`. -/
def findSourceCodecConfig (s : A2dpCodecs) (info : CodecInfo) : Option (Int × A2dpCodecConfig) :=
  let i := a2dpSourceCodecIndex K impl.toA2dpFamilyImpl info
  if i = K.indexMax then none else s.find i

/-- `A2dpCodecs::findSinkCodecConfig`. -/
def findSinkCodecConfig (s : A2dpCodecs) (info : CodecInfo) : Option (Int × A2dpCodecConfig) :=
  let i := a2dpSinkCodecIndex K impl.toA2dpFamilyImpl info
  if i = K.indexMax then none else s.find i

/-- The body `setCodecConfig` and `setSinkCodecConfig` share once a finder has looked the
peer's codec up: negotiate, and on success select it when asked to. -/
def negotiateFound (s : A2dpCodecs) (found : Option (Int × A2dpCodecConfig)) (info : CodecInfo)
    (isCapability selectCurrentCodec : Bool) : A2dpCodecs × ConfigOutcome :=
  match found with
  | none => (s, .failed none)
  | some (k, c) =>
    let r := c.setCodecConfig impl info isCapability
    let s' := s.setCodec k r.2.1
    if r.1 then
      (if selectCurrentCodec then { s' with currentCodecConfig := some k } else s',
        ⟨true, some r.2.2, false, false, false⟩)
    else (s', .failed (some r.2.2))

/-- `A2dpCodecs::setCodecConfig`. -/
def setCodecConfig (s : A2dpCodecs) (info : CodecInfo) (isCapability selectCurrentCodec : Bool) :
    A2dpCodecs × ConfigOutcome :=
  s.negotiateFound impl (s.findSourceCodecConfig K impl info) info isCapability selectCurrentCodec

/-- `A2dpCodecs::setSinkCodecConfig`. -/
def setSinkCodecConfig (s : A2dpCodecs) (info : CodecInfo) (isCapability selectCurrentCodec : Bool) :
    A2dpCodecs × ConfigOutcome :=
  s.negotiateFound impl (s.findSinkCodecConfig K impl info) info isCapability selectCurrentCodec

/-- The body the two peer-capability setters share: check the element, find the codec,
hand the capability to it. -/
def recordPeerCapabilities (s : A2dpCodecs) (valid : Bool) (found : Option (Int × A2dpCodecConfig))
    (info : CodecInfo) : A2dpCodecs × Bool :=
  if !valid then (s, false)
  else match found with
    | none => (s, false)
    | some (k, c) =>
      let r := c.setPeerCodecCapabilities impl info
      (s.setCodec k r.2, r.1)

/-- `A2dpCodecs::setPeerSinkCodecCapabilities`. -/
def setPeerSinkCodecCapabilities (s : A2dpCodecs) (info : CodecInfo) : A2dpCodecs × Bool :=
  s.recordPeerCapabilities impl (a2dpIsPeerSinkCodecValid K impl.toA2dpFamilyImpl info)
    (s.findSourceCodecConfig K impl info) info

/-- `A2dpCodecs::setPeerSourceCodecCapabilities`. -/
def setPeerSourceCodecCapabilities (s : A2dpCodecs) (info : CodecInfo) : A2dpCodecs × Bool :=
  s.recordPeerCapabilities impl (a2dpIsPeerSourceCodecValid K impl.toA2dpFamilyImpl info)
    (s.findSinkCodecConfig K impl info) info

/-- The `do { ... } while (false)` block of `A2dpCodecs::setCodecUserConfig`: set the
target's priority, then keep, adopt or switch the current codec. `last` is the current
codec before the call and `c` the target after its negotiation. -/
def updateCodecPriority (s : A2dpCodecs) (last : Option Int) (k : Int) (c : A2dpCodecConfig)
    (priority : Int) (o : ConfigOutcome) : A2dpCodecs × ConfigOutcome :=
  let oldPriority := c.codecPriority
  let c' := c.setCodecPriority K priority
  let newPriority := c'.codecPriority
  let s := s.setCodec k c'
  match last with
  | none => ({ s with currentCodecConfig := some k }, { o with restartInput := true, restartOutput := true })
  | some l =>
    if k = l then
      if oldPriority = newPriority then (s, o)
      else (s, { o with
        configUpdated := true
        restartOutput := o.restartOutput || decide (newPriority < oldPriority) })
    else if newPriority ≤ oldPriority then
      (s, { o with
        restartInput := false
        restartOutput := false
        configUpdated := o.configUpdated || o.restartInput || o.restartOutput ||
          decide (oldPriority ≠ newPriority) })
    else if newPriority ≥ (s.codecAt l).codecPriority then
      ({ s with currentCodecConfig := some k }.modifyCodec l (·.setDefaultCodecPriority K),
        { o with configUpdated := true, restartInput := true, restartOutput := true })
    else (s, { o with configUpdated := true })

/-- What the reconciliation block can do: record the target's new priority and, with no
current codec before, adopt the target asking for both restarts; or, when the target's
priority rises to the current codec's, switch to the target, demote the previous current
codec `l` to its default priority and ask for both restarts and an update. -/
theorem updateCodecPriority_cases (s : A2dpCodecs) (last : Option Int) (k : Int)
    (c : A2dpCodecConfig) (priority : Int) (o : ConfigOutcome) :
    (last.isSome ∧ (s.updateCodecPriority K last k c priority o).1 =
        s.setCodec k (c.setCodecPriority K priority)) ∨
      (last = none ∧ s.updateCodecPriority K last k c priority o =
        ({ s.setCodec k (c.setCodecPriority K priority) with currentCodecConfig := some k },
          { o with restartInput := true, restartOutput := true })) ∨
      ∃ l, last = some l ∧ l ≠ k ∧ s.updateCodecPriority K last k c priority o =
        ({ s.setCodec k (c.setCodecPriority K priority) with currentCodecConfig := some k }.modifyCodec
            l (·.setDefaultCodecPriority K),
          { o with configUpdated := true, restartInput := true, restartOutput := true }) := by
  unfold updateCodecPriority
  cases last with
  | none => exact .inr (.inl ⟨rfl, rfl⟩)
  | some l =>
    dsimp only
    by_cases same : k = l
    case pos => rw [if_pos same]; exact .inl ⟨rfl, by split <;> rfl⟩
    rw [if_neg same]
    split_ifs
    all_goals first
      | exact .inl ⟨rfl, rfl⟩
      | exact .inr (.inr ⟨l, rfl, Ne.symm same, rfl⟩)

theorem updateCodecPriority_current_isSome (s : A2dpCodecs) (k : Int) (c : A2dpCodecConfig)
    (p : Int) (o : ConfigOutcome) :
    (s.updateCodecPriority K s.currentCodecConfig k c p o).1.currentCodecConfig.isSome := by
  rcases updateCodecPriority_cases K s s.currentCodecConfig k c p o with
    ⟨current, same⟩ | ⟨-, same⟩ | ⟨l, -, -, same⟩ <;> rw [same]
  · exact current
  · rfl
  · rw [modifyCodec_currentCodecConfig]
    rfl

/-- Step 1 of `A2dpCodecs::setCodecUserConfig`: the codec the user names, or the current
codec when the named type is not below `BTAV_A2DP_CODEC_INDEX_MAX`. -/
def userConfigTarget (s : A2dpCodecs) (u : BtavA2dpCodecConfig) : Option (Int × A2dpCodecConfig) :=
  if u.codecType < K.indexMax then s.find u.codecType else s.current

/-- `A2dpCodecs::setCodecUserConfig`: negotiate through the target with its own audio
config, reconcile priorities, re-sort the source list. -/
def setCodecUserConfig (s : A2dpCodecs) (u : BtavA2dpCodecConfig) (peerSinkCapabilities : CodecInfo) :
    A2dpCodecs × ConfigOutcome :=
  match s.userConfigTarget K u with
  | none => (s, .failed none)
  | some (k, c) =>
    let r := c.setCodecUserConfig K impl u c.codecAudioConfig peerSinkCapabilities true
    let s1 := s.setCodec k r.1
    if r.2.success then
      let u' := s1.updateCodecPriority K s.currentCodecConfig k r.1 u.codecPriority r.2
      ({ u'.1 with orderedSourceCodecs := u'.1.sortCodecs u'.1.orderedSourceCodecs },
        { u'.2 with configUpdated := u'.2.configUpdated || u'.2.restartInput || u'.2.restartOutput })
    else (s1, r.2)

/-- `A2dpCodecs::setCodecAudioConfig`: renegotiate the current codec with a new audio config
and its own user config. Its `restart_input` is a local the caller never sees. -/
def setCodecAudioConfig (s : A2dpCodecs) (a : BtavA2dpCodecConfig) (peerSinkCapabilities : CodecInfo) :
    A2dpCodecs × ConfigOutcome :=
  match s.current with
  | none => (s, .failed none)
  | some (k, c) =>
    let r := c.setCodecUserConfig K impl c.codecUserConfig a peerSinkCapabilities true
    (s.setCodec k r.1, { r.2 with restartInput := false })

/-- Whether the current codec carries an explicit user configuration. -/
def currentUserConfigured (s : A2dpCodecs) : Bool :=
  match s.current with
  | some (_, c) => !isCodecConfigEmpty K c.codecUserConfig
  | none => false

/-- The guards of `A2dpCodecs::setCodecOtaConfig`: the codec the peer's configuration names,
unless the current codec or that codec carries a user configuration. -/
def otaTarget (s : A2dpCodecs) (ota : CodecInfo) : Option (Int × A2dpCodecConfig) :=
  if s.currentUserConfigured K then none else
  let codecType := a2dpSourceCodecIndex K impl.toA2dpFamilyImpl ota
  if codecType = K.indexMax then none else
  match s.find codecType with
  | some (k, c) => if isCodecConfigEmpty K c.codecUserConfig then some (k, c) else none
  | none => none

/-- `A2dpCodecs::setCodecOtaConfig`: adopt the guarded codec as current and renegotiate it
with the peer's configuration, putting the current codec back on failure. -/
def setCodecOtaConfig (s : A2dpCodecs) (ota : CodecInfo) : A2dpCodecs × ConfigOutcome :=
  match s.otaTarget K impl ota with
  | none => (s, .failed none)
  | some (k, c) =>
    let r := c.setCodecUserConfig K impl c.codecUserConfig c.codecAudioConfig ota false
    let s' := { s.setCodec k r.1 with currentCodecConfig := some k }
    if r.2.success then
      (s', { r.2 with configUpdated := r.2.configUpdated || r.2.restartInput || r.2.restartOutput })
    else ({ s' with currentCodecConfig := s.currentCodecConfig }, r.2)

theorem find_found {s : A2dpCodecs} {i k : Int} {c : A2dpCodecConfig}
    (h : s.find i = some (k, c)) : s.indexedCodecs k = some c := by
  obtain ⟨rfl, found⟩ := find_eq_some.mp h
  exact found

theorem userConfigTarget_found {s : A2dpCodecs} {u : BtavA2dpCodecConfig} {k : Int}
    {c : A2dpCodecConfig} (h : s.userConfigTarget K u = some (k, c)) : s.indexedCodecs k = some c := by
  unfold userConfigTarget at h
  split at h
  · exact find_found h
  · exact (current_eq_some h).2

theorem findSourceCodecConfig_found {s : A2dpCodecs} {info : CodecInfo} {k : Int}
    {c : A2dpCodecConfig} (h : s.findSourceCodecConfig K impl info = some (k, c)) :
    s.indexedCodecs k = some c := by
  unfold findSourceCodecConfig at h
  dsimp only at h
  split at h
  · cases h
  · exact find_found h

theorem findSinkCodecConfig_found {s : A2dpCodecs} {info : CodecInfo} {k : Int}
    {c : A2dpCodecConfig} (h : s.findSinkCodecConfig K impl info = some (k, c)) :
    s.indexedCodecs k = some c := by
  unfold findSinkCodecConfig at h
  dsimp only at h
  split at h
  · cases h
  · exact find_found h

theorem otaTarget_found {s : A2dpCodecs} {ota : CodecInfo} {k : Int} {c : A2dpCodecConfig}
    (h : s.otaTarget K impl ota = some (k, c)) :
    s.indexedCodecs k = some c ∧ isCodecConfigEmpty K c.codecUserConfig = true ∧
      s.currentUserConfigured K = false := by
  unfold otaTarget at h
  split at h
  · cases h
  · rename_i configured
    dsimp only at h
    split at h
    · cases h
    · split at h
      · rename_i k' c' found
        split at h
        · cases h
          exact ⟨find_found found, ‹_›, by simpa using configured⟩
        · cases h
      · cases h

theorem setCodecUserConfig_target {s : A2dpCodecs} {u : BtavA2dpCodecConfig} {caps : CodecInfo}
    (succeeded : (s.setCodecUserConfig K impl u caps).2.success = true) :
    ∃ k c, s.userConfigTarget K u = some (k, c) ∧
      (c.setCodecUserConfig K impl u c.codecAudioConfig caps true).2.success = true := by
  unfold setCodecUserConfig at succeeded
  split at succeeded
  · cases succeeded
  · rename_i k c target
    dsimp only at succeeded
    split at succeeded
    · exact ⟨k, c, target, ‹_›⟩
    · exact absurd succeeded ‹_›

theorem setCodecUserConfig_of_negotiated {s : A2dpCodecs} {u : BtavA2dpCodecConfig}
    {caps : CodecInfo} {k : Int} {c : A2dpCodecConfig} (target : s.userConfigTarget K u = some (k, c))
    (negotiated : (c.setCodecUserConfig K impl u c.codecAudioConfig caps true).2.success = true) :
    s.setCodecUserConfig K impl u caps =
      let r := c.setCodecUserConfig K impl u c.codecAudioConfig caps true
      let u' := (s.setCodec k r.1).updateCodecPriority K s.currentCodecConfig k r.1 u.codecPriority r.2
      ({ u'.1 with orderedSourceCodecs := u'.1.sortCodecs u'.1.orderedSourceCodecs },
        { u'.2 with configUpdated := u'.2.configUpdated || u'.2.restartInput || u'.2.restartOutput }) := by
  simp only [setCodecUserConfig, target, negotiated, if_true]

theorem setCodecOtaConfig_target {s : A2dpCodecs} {ota : CodecInfo}
    (succeeded : (s.setCodecOtaConfig K impl ota).2.success = true) :
    ∃ k c, s.otaTarget K impl ota = some (k, c) ∧
      (c.setCodecUserConfig K impl c.codecUserConfig c.codecAudioConfig ota false).2.success = true := by
  unfold setCodecOtaConfig at succeeded
  split at succeeded
  · cases succeeded
  · rename_i k c target
    dsimp only at succeeded
    split at succeeded
    · exact ⟨k, c, target, ‹_›⟩
    · exact absurd succeeded ‹_›

theorem setCodecOtaConfig_of_negotiated {s : A2dpCodecs} {ota : CodecInfo} {k : Int}
    {c : A2dpCodecConfig} (target : s.otaTarget K impl ota = some (k, c))
    (negotiated :
      (c.setCodecUserConfig K impl c.codecUserConfig c.codecAudioConfig ota false).2.success = true) :
    s.setCodecOtaConfig K impl ota =
      let r := c.setCodecUserConfig K impl c.codecUserConfig c.codecAudioConfig ota false
      ({ s.setCodec k r.1 with currentCodecConfig := some k },
        { r.2 with configUpdated := r.2.configUpdated || r.2.restartInput || r.2.restartOutput }) := by
  simp only [setCodecOtaConfig, target, negotiated, if_true]

/-- One turn of the loop of `A2dpCodecs::init`: create the codec of index `i` with its
configured (or forced-disabled) priority and file it as disabled, source or sink. -/
def initCodec (opusEnabled : Bool) (s : A2dpCodecs) (i : Int) : A2dpCodecs :=
  let configured := (s.codecPriorities i).getD K.priorityDefault
  let p := if i = K.sourceOpus ∧ opusEnabled = false then K.priorityDisabled else configured
  match createCodec K impl i p with
  | none => s
  | some c =>
    if c.codecPriority = K.priorityDisabled then
      { s with disabledCodecs := mapInsert s.disabledCodecs i c }
    else
      let s := { s with indexedCodecs := mapInsert s.indexedCodecs i c }
      if i < K.indexSourceMax then
        { s with orderedSourceCodecs := s.sortCodecs (s.orderedSourceCodecs ++ [i]) }
      else { s with orderedSinkCodecs := s.sortCodecs (s.orderedSinkCodecs ++ [i]) }

/-- `A2dpCodecs::init`: the registry after the loop, and whether both lists got a codec.
The offload properties it reads only set globals that no function here reads. -/
def init (opusEnabled : Bool) (s : A2dpCodecs) : A2dpCodecs × Bool :=
  let s := K.codecIndices.foldl (initCodec K impl opusEnabled) s
  (s, !s.orderedSourceCodecs.isEmpty && !s.orderedSinkCodecs.isEmpty)

end

end A2dpCodecs

end A2dpCodec
