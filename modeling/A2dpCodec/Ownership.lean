import A2dpCodec.Run
import Mathlib.Data.List.Nodup

/-! Ownership: the registry owns every descriptor once, under its own index, in exactly
one of its two maps; the ordered lists point once to each enabled descriptor of their
side; the current codec, when set, is an enabled descriptor. `init()` establishes it
and every operation keeps it. -/

namespace A2dpCodec

open A2dpCodecs

/-- The ownership invariant of the registry. -/
structure Ownership (K : A2dpConstants) (s : A2dpCodecs) : Prop where
  disjoint : ∀ i, (s.indexedCodecs i).isSome → s.disabledCodecs i = none
  indexed_codecIndex : ∀ i c, s.indexedCodecs i = some c → c.codecIndex = i
  disabled_codecIndex : ∀ i c, s.disabledCodecs i = some c → c.codecIndex = i
  source_nodup : s.orderedSourceCodecs.Nodup
  sink_nodup : s.orderedSinkCodecs.Nodup
  mem_source : ∀ i, i ∈ s.orderedSourceCodecs ↔ (s.indexedCodecs i).isSome ∧ i < K.indexSourceMax
  mem_sink : ∀ i, i ∈ s.orderedSinkCodecs ↔ (s.indexedCodecs i).isSome ∧ K.indexSourceMax ≤ i
  current_indexed : ∀ k, s.currentCodecConfig = some k → (s.indexedCodecs k).isSome

/-- What every registry operation keeps: each key keeps a descriptor of the same index,
the disabled codecs stay, each list is at most reordered, and the current codec is kept
or moved to an enabled descriptor. -/
structure Preserves (s s' : A2dpCodecs) : Prop where
  indexed : ∀ i, (s'.indexedCodecs i).map (·.codecIndex) = (s.indexedCodecs i).map (·.codecIndex)
  disabled : s'.disabledCodecs = s.disabledCodecs
  source : s'.orderedSourceCodecs.Perm s.orderedSourceCodecs
  sink : s'.orderedSinkCodecs.Perm s.orderedSinkCodecs
  current : ∀ k, s'.currentCodecConfig = some k →
    s.currentCodecConfig = some k ∨ (s.indexedCodecs k).isSome

namespace Preserves

variable {s s' s'' : A2dpCodecs}

theorem refl (s : A2dpCodecs) : Preserves s s :=
  ⟨fun _ => rfl, rfl, .refl _, .refl _, fun _ h => .inl h⟩

theorem isSome (h : Preserves s s') (i : Int) :
    (s'.indexedCodecs i).isSome = (s.indexedCodecs i).isSome := by
  simpa only [Option.isSome_map'] using congrArg Option.isSome (h.indexed i)

theorem trans (h : Preserves s s') (h' : Preserves s' s'') : Preserves s s'' where
  indexed i := (h'.indexed i).trans (h.indexed i)
  disabled := h'.disabled.trans h.disabled
  source := h'.source.trans h.source
  sink := h'.sink.trans h.sink
  current k current := by
    rcases h'.current k current with kept | moved
    · exact h.current k kept
    · exact .inr ((h.isSome k).symm.trans moved)

theorem restore (h : Preserves s s') :
    Preserves s { s' with currentCodecConfig := s.currentCodecConfig } :=
  { h with current := fun _ current => .inl current }

end Preserves

section
variable {s : A2dpCodecs} {k : Int} {c c' : A2dpCodecConfig}

theorem preserves_setCodec (found : s.indexedCodecs k = some c)
    (same : c'.codecIndex = c.codecIndex) : Preserves s (s.setCodec k c') where
  indexed i := by
    by_cases hik : i = k
    · subst hik; simp [found, same]
    · simp [hik]
  disabled := rfl
  source := .refl _
  sink := .refl _
  current _ current := .inl current

theorem preserves_select (enabled : (s.indexedCodecs k).isSome) :
    Preserves s { s with currentCodecConfig := some k } :=
  { Preserves.refl s with current := fun _ current => .inr (Option.some_inj.mp current ▸ enabled) }

theorem preserves_modifyCodec (f : A2dpCodecConfig → A2dpCodecConfig)
    (same : ∀ c, (f c).codecIndex = c.codecIndex) : Preserves s (s.modifyCodec k f) := by
  unfold modifyCodec
  split
  · exact preserves_setCodec ‹_› (same _)
  · exact .refl s

theorem preserves_sortSource (s : A2dpCodecs) :
    Preserves s { s with orderedSourceCodecs := s.sortCodecs s.orderedSourceCodecs } :=
  { Preserves.refl s with source := sortCodecs_perm s _ }

end

section
variable (K : A2dpConstants) (impl : A2dpCodecImpl) {s : A2dpCodecs}

theorem preserves_negotiateFound {found : Option (Int × A2dpCodecConfig)}
    (pointsInto : ∀ k c, found = some (k, c) → s.indexedCodecs k = some c) (info : CodecInfo)
    (isCapability select : Bool) : Preserves s (s.negotiateFound impl found info isCapability select).1 := by
  match found, pointsInto with
  | none, _ => exact .refl s
  | some (k, c), pointsInto =>
    have base := preserves_setCodec (pointsInto k c rfl)
      (setCodecConfig_codecIndex impl c info isCapability)
    simp only [negotiateFound]
    split
    · split
      · exact base.trans (preserves_select (by simp))
      · exact base
    · exact base

theorem preserves_recordPeerCapabilities {found : Option (Int × A2dpCodecConfig)}
    (pointsInto : ∀ k c, found = some (k, c) → s.indexedCodecs k = some c) (valid : Bool)
    (info : CodecInfo) : Preserves s (s.recordPeerCapabilities impl valid found info).1 := by
  unfold recordPeerCapabilities
  split
  · exact .refl s
  · match found, pointsInto with
    | none, _ => exact .refl s
    | some (k, c), pointsInto =>
      exact preserves_setCodec (pointsInto k c rfl) (setPeerCodecCapabilities_codecIndex impl c info)

theorem preserves_updateCodecPriority {k : Int} {c : A2dpCodecConfig}
    (found : s.indexedCodecs k = some c) (last : Option Int) (p : Int) (o : ConfigOutcome) :
    Preserves s (s.updateCodecPriority K last k c p o).1 := by
  have base := preserves_setCodec found (setCodecPriority_codecIndex K c p)
  have select := base.trans (preserves_select (k := k) (by simp))
  rcases updateCodecPriority_cases K s last k c p o with ⟨-, same⟩ | ⟨-, same⟩ | ⟨l, -, -, same⟩ <;>
    rw [same]
  · exact base
  · exact select
  · exact select.trans (preserves_modifyCodec _ (setDefaultCodecPriority_codecIndex K))

theorem preserves_setCodecUserConfig (u : BtavA2dpCodecConfig) (caps : CodecInfo) :
    Preserves s (s.setCodecUserConfig K impl u caps).1 := by
  unfold setCodecUserConfig
  split
  · exact .refl s
  · rename_i k c target
    have base := preserves_setCodec (userConfigTarget_found K target)
      (setCodecUserConfig_codecIndex K impl c u c.codecAudioConfig caps true)
    dsimp only
    split
    · exact (base.trans (preserves_updateCodecPriority K (by simp) _ _ _)).trans
        (preserves_sortSource _)
    · exact base

theorem preserves_setCodecAudioConfig (a : BtavA2dpCodecConfig) (caps : CodecInfo) :
    Preserves s (s.setCodecAudioConfig K impl a caps).1 := by
  unfold setCodecAudioConfig
  split
  · exact .refl s
  · rename_i k c current
    exact preserves_setCodec (current_eq_some current).2
      (setCodecUserConfig_codecIndex K impl c _ a caps true)

theorem preserves_setCodecOtaConfig (ota : CodecInfo) :
    Preserves s (s.setCodecOtaConfig K impl ota).1 := by
  unfold setCodecOtaConfig
  split
  · exact .refl s
  · rename_i k c target
    have adopt := (preserves_setCodec (otaTarget_found K impl target).1
      (setCodecUserConfig_codecIndex K impl c c.codecUserConfig c.codecAudioConfig ota false)).trans (preserves_select (k := k) (by simp))
    dsimp only
    split
    · exact adopt
    · exact adopt.restore

theorem preserves_step (op : Op) : Preserves s (s.step K impl op).1 := by
  cases op with
  | setCodecUserConfig u caps => exact preserves_setCodecUserConfig K impl u caps
  | setCodecAudioConfig a caps => exact preserves_setCodecAudioConfig K impl a caps
  | setCodecOtaConfig ota => exact preserves_setCodecOtaConfig K impl ota
  | setCodecConfig info isCapability select =>
    exact preserves_negotiateFound impl (fun _ _ => findSourceCodecConfig_found K impl) _ _ _
  | setSinkCodecConfig info isCapability select =>
    exact preserves_negotiateFound impl (fun _ _ => findSinkCodecConfig_found K impl) _ _ _
  | setPeerSinkCodecCapabilities info =>
    exact preserves_recordPeerCapabilities impl (fun _ _ => findSourceCodecConfig_found K impl) _ _
  | setPeerSourceCodecCapabilities info =>
    exact preserves_recordPeerCapabilities impl (fun _ _ => findSinkCodecConfig_found K impl) _ _

end

/-- The invariant survives anything that keeps what `Preserves` keeps. -/
theorem Ownership.of_preserves {K : A2dpConstants} {s s' : A2dpCodecs} (own : Ownership K s)
    (h : Preserves s s') : Ownership K s' where
  disjoint i enabled := h.disabled ▸ own.disjoint i (h.isSome i ▸ enabled)
  indexed_codecIndex i c found := by
    have index := h.indexed i
    rw [found, Option.map_some'] at index
    obtain ⟨d, old, same⟩ := Option.map_eq_some'.mp index.symm
    exact same.symm.trans (own.indexed_codecIndex i d old)
  disabled_codecIndex i c found := own.disabled_codecIndex i c (h.disabled ▸ found)
  source_nodup := h.source.nodup_iff.mpr own.source_nodup
  sink_nodup := h.sink.nodup_iff.mpr own.sink_nodup
  mem_source i := h.source.mem_iff.trans ((own.mem_source i).trans (by rw [h.isSome]))
  mem_sink i := h.sink.mem_iff.trans ((own.mem_sink i).trans (by rw [h.isSome]))
  current_indexed k current := by
    rw [h.isSome]
    rcases h.current k current with kept | moved
    · exact own.current_indexed k kept
    · exact moved

section Init
variable (K : A2dpConstants) (impl : A2dpCodecImpl) {s : A2dpCodecs} {i : Int} {c : A2dpCodecConfig}

theorem ownership_new (codecPriorities : List BtavA2dpCodecConfig) :
    Ownership K (A2dpCodecs.new codecPriorities) where
  disjoint _ _ := rfl
  indexed_codecIndex _ _ found := by cases found
  disabled_codecIndex _ _ found := by cases found
  source_nodup := .nil
  sink_nodup := .nil
  mem_source _ := by simp [A2dpCodecs.new]
  mem_sink _ := by simp [A2dpCodecs.new]
  current_indexed _ current := by cases current

theorem mapInsert_of_none {β : Type} {m : Int → Option β} {k : Int} (v : β) (absent : m k = none) :
    mapInsert m k v = Function.update m k (some v) := by
  simp only [mapInsert, absent]

theorem Ownership.insertDisabled (own : Ownership K s) (absent : s.indexedCodecs i = none)
    (index : c.codecIndex = i) :
    Ownership K { s with disabledCodecs := Function.update s.disabledCodecs i (some c) } :=
  { own with
    disjoint := fun j enabled => by
      by_cases hj : j = i
      · subst hj; simp [absent] at enabled
      · simpa [hj] using own.disjoint j enabled
    disabled_codecIndex := fun j d found => by
      by_cases hj : j = i
      · subst hj; simp only [Function.update_same, Option.some_inj] at found; exact found ▸ index
      · dsimp only at found
        rw [Function.update_noteq hj] at found
        exact own.disabled_codecIndex j d found }

theorem Ownership.insertEnabled_indexed (own : Ownership K s) (absentDisabled : s.disabledCodecs i = none)
    (index : c.codecIndex = i) (j : Int) :
    ((Function.update s.indexedCodecs i (some c) j).isSome → s.disabledCodecs j = none) ∧
      ∀ d, Function.update s.indexedCodecs i (some c) j = some d → d.codecIndex = j := by
  by_cases hj : j = i
  · subst hj; simp only [Function.update_same, Option.some_inj]
    exact ⟨fun _ => absentDisabled, fun d same => same ▸ index⟩
  · simp only [Function.update_noteq hj]
    exact ⟨own.disjoint j, own.indexed_codecIndex j⟩

theorem update_isSome_iff (s : A2dpCodecs) (j : Int) :
    (Function.update s.indexedCodecs i (some c) j).isSome ↔ j = i ∨ (s.indexedCodecs j).isSome := by
  by_cases hj : j = i
  · subst hj; simp
  · simp [hj]

theorem sortCodecs_append_nodup (t : A2dpCodecs) {l : List Int} {i : Int} (nodup : l.Nodup)
    (fresh : i ∉ l) : (t.sortCodecs (l ++ [i])).Nodup :=
  (sortCodecs_perm t _).nodup_iff.mpr (List.nodup_append_comm.mpr (List.nodup_cons.mpr ⟨fresh, nodup⟩))

theorem Ownership.insertSource (own : Ownership K s) (absent : s.indexedCodecs i = none)
    (absentDisabled : s.disabledCodecs i = none) (index : c.codecIndex = i)
    (source : i < K.indexSourceMax) (t : A2dpCodecs) :
    Ownership K { s with
      indexedCodecs := Function.update s.indexedCodecs i (some c)
      orderedSourceCodecs := t.sortCodecs (s.orderedSourceCodecs ++ [i]) } where
  disjoint j := (own.insertEnabled_indexed K absentDisabled index j).1
  indexed_codecIndex j := (own.insertEnabled_indexed K absentDisabled index j).2
  disabled_codecIndex := own.disabled_codecIndex
  source_nodup := sortCodecs_append_nodup t own.source_nodup fun mem => by
    simpa [absent] using (own.mem_source i).mp mem
  sink_nodup := own.sink_nodup
  mem_source j := by
    rw [(sortCodecs_perm t _).mem_iff, List.mem_append, own.mem_source, update_isSome_iff]
    by_cases hj : j = i
    · subst hj; simp [source]
    · simp [hj]
  mem_sink j := by
    rw [own.mem_sink, update_isSome_iff]
    by_cases hj : j = i
    · subst hj; simp [absent]; omega
    · simp [hj]
  current_indexed k current := (update_isSome_iff s k).mpr (.inr (own.current_indexed k current))

theorem Ownership.insertSink (own : Ownership K s) (absent : s.indexedCodecs i = none)
    (absentDisabled : s.disabledCodecs i = none) (index : c.codecIndex = i)
    (sink : K.indexSourceMax ≤ i) (t : A2dpCodecs) :
    Ownership K { s with
      indexedCodecs := Function.update s.indexedCodecs i (some c)
      orderedSinkCodecs := t.sortCodecs (s.orderedSinkCodecs ++ [i]) } where
  disjoint j := (own.insertEnabled_indexed K absentDisabled index j).1
  indexed_codecIndex j := (own.insertEnabled_indexed K absentDisabled index j).2
  disabled_codecIndex := own.disabled_codecIndex
  source_nodup := own.source_nodup
  sink_nodup := sortCodecs_append_nodup t own.sink_nodup fun mem => by
    simpa [absent] using (own.mem_sink i).mp mem
  mem_source j := by
    rw [own.mem_source, update_isSome_iff]
    by_cases hj : j = i
    · subst hj; simp [absent]; omega
    · simp [hj]
  mem_sink j := by
    rw [(sortCodecs_perm t _).mem_iff, List.mem_append, own.mem_sink, update_isSome_iff]
    by_cases hj : j = i
    · subst hj; simp [sink]
    · simp [hj]
  current_indexed k current := (update_isSome_iff s k).mpr (.inr (own.current_indexed k current))

theorem initCodec_other {j : Int} (other : j ≠ i) (opusEnabled : Bool) :
    (s.initCodec K impl opusEnabled i).indexedCodecs j = s.indexedCodecs j ∧
      (s.initCodec K impl opusEnabled i).disabledCodecs j = s.disabledCodecs j := by
  unfold initCodec mapInsert
  dsimp only
  split
  · exact ⟨rfl, rfl⟩
  · split
    · split <;> simp [Function.update_noteq other]
    · split <;> split <;> simp [Function.update_noteq other]

theorem ownership_initCodec (own : Ownership K s) (absent : s.indexedCodecs i = none)
    (absentDisabled : s.disabledCodecs i = none) (opusEnabled : Bool) :
    Ownership K (s.initCodec K impl opusEnabled i) := by
  unfold initCodec
  dsimp only
  split
  · exact own
  · rename_i c created
    have index := createCodec_codecIndex K impl created
    split
    · rw [mapInsert_of_none c absentDisabled]
      exact own.insertDisabled K absent index
    · rw [mapInsert_of_none c absent]
      split
      · exact own.insertSource K absent absentDisabled index ‹_› _
      · exact own.insertSink K absent absentDisabled index (by omega) _

theorem ownership_foldl_initCodec (opusEnabled : Bool) :
    ∀ (l : List Int) (s : A2dpCodecs), l.Nodup →
      (∀ i ∈ l, s.indexedCodecs i = none ∧ s.disabledCodecs i = none) → Ownership K s →
      Ownership K (l.foldl (initCodec K impl opusEnabled) s)
  | [], _, _, _, own => own
  | i :: l, s, nodup, absent, own => by
    obtain ⟨notMem, nodup⟩ := List.nodup_cons.mp nodup
    refine ownership_foldl_initCodec opusEnabled l _ nodup (fun j mem => ?_)
      (ownership_initCodec K impl own (absent i (.head _)).1 (absent i (.head _)).2 opusEnabled)
    have other : j ≠ i := fun same => notMem (same ▸ mem)
    rw [(initCodec_other K impl other opusEnabled).1, (initCodec_other K impl other opusEnabled).2]
    exact absent j (.tail _ mem)

theorem codecIndices_nodup : K.codecIndices.Nodup :=
  (List.nodup_range _).map fun a b same => Int.ofNat.inj (by simpa using same)

theorem ownership_init (codecPriorities : List BtavA2dpCodecConfig) (opusEnabled : Bool) :
    Ownership K ((A2dpCodecs.new codecPriorities).init K impl opusEnabled).1 :=
  ownership_foldl_initCodec K impl opusEnabled _ _ (codecIndices_nodup K)
    (fun _ _ => ⟨rfl, rfl⟩) (ownership_new K codecPriorities)

end Init

/-- Every state a session reaches satisfies the ownership invariant, whatever the priority
table, the OPUS setting, the codecs' own negotiation and the operations issued. -/
theorem ownership_of_reachable {K : A2dpConstants} {impl : A2dpCodecImpl} {s : A2dpCodecs}
    (reach : Reachable K impl s) : Ownership K s := by
  induction reach with
  | init codecPriorities opusEnabled => exact ownership_init K impl codecPriorities opusEnabled
  | step op _ ih => exact ih.of_preserves (preserves_step K impl op)

theorem ownership_sampleSession :
    Ownership sampleConstants
      ((A2dpCodecs.new []).init sampleConstants (grantingImpl sampleConstants) true).1 :=
  ownership_of_reachable (.init [] true)

end A2dpCodec
