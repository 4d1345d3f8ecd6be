import A2dpCodec.Ownership
import Mathlib.Data.List.Pairwise

/-! # Priority order of the codec lists

`list::sort(compare_codec_priority)` and what it leaves: a list sorted by priority, the
larger first, and by codec index on a tie. `init()` sorts each list after each insertion,
and `A2dpCodecs::setCodecUserConfig` sorts the source list after every priority change it
makes. Nothing sorts the sink list again, so the source list is sorted in every reachable
state, while a priority change of a sink codec leaves the sink list out of order. -/

namespace A2dpCodec

open A2dpCodecs

/-- What `compare_codec_priority` compares: the priority, then the codec index. -/
def A2dpCodecConfig.rank (c : A2dpCodecConfig) : Int × Int := (c.codecPriority, c.codecIndex)

theorem compareCodecPriority_eq_true (x y : A2dpCodecConfig) :
    compareCodecPriority x y = true ↔
      y.codecPriority < x.codecPriority ∨
        x.codecPriority = y.codecPriority ∧ y.codecIndex < x.codecIndex := by
  unfold compareCodecPriority
  split_ifs <;> simp only [decide_eq_true_eq, true_iff, false_iff] <;> omega

theorem compareCodecPriority_of_rank {x y x' y' : A2dpCodecConfig} (hx : x.rank = x'.rank)
    (hy : y.rank = y'.rank) : compareCodecPriority x y = compareCodecPriority x' y' := by
  simp only [A2dpCodecConfig.rank, Prod.mk.injEq] at hx hy
  simp only [compareCodecPriority, hx, hy]

theorem pairwise_rel_or_rel {α : Type} {R : α → α → Prop} {l : List α} (sorted : l.Pairwise R)
    {a b : α} (ma : a ∈ l) (mb : b ∈ l) (ne : a ≠ b) : R a b ∨ R b a :=
  (sorted.imp Or.inl).forall (fun _ _ => Or.symm) ma mb ne

namespace A2dpCodecs

/-- `compare_codec_priority` on the descriptors two list entries point to. -/
def precedes (s : A2dpCodecs) (a b : Int) : Bool := compareCodecPriority (s.codecAt a) (s.codecAt b)

/-- A list of entries sorted by `compare_codec_priority`. -/
def Ordered (s : A2dpCodecs) (l : List Int) : Prop := l.Pairwise fun a b => s.precedes a b = true

instance (s : A2dpCodecs) (l : List Int) : Decidable (s.Ordered l) :=
  inferInstanceAs (Decidable (l.Pairwise _))

/-- The order `list::sort` leaves: no entry is strictly preceded by a later one. -/
theorem sortCodecs_pairwise (s : A2dpCodecs) (l : List Int) :
    (s.sortCodecs l).Pairwise fun a b => (!s.precedes b a) = true :=
  List.sorted_mergeSort
    (fun a b c ab bc => by
      simp only [precedes, Bool.not_eq_true', Bool.eq_false_iff, ne_eq,
        compareCodecPriority_eq_true] at ab bc ⊢
      omega)
    (fun a b => by
      simp only [precedes, Bool.or_eq_true, Bool.not_eq_true', Bool.eq_false_iff, ne_eq,
        compareCodecPriority_eq_true]
      omega)
    l

theorem sortCodecs_sortCodecs (s : A2dpCodecs) (l : List Int) :
    s.sortCodecs (s.sortCodecs l) = s.sortCodecs l :=
  List.mergeSort_of_sorted (sortCodecs_pairwise s l)

theorem ordered_sortCodecs (s : A2dpCodecs) (l : List Int) (nodup : (s.sortCodecs l).Nodup)
    (index : ∀ k ∈ s.sortCodecs l, (s.codecAt k).codecIndex = k) : s.Ordered (s.sortCodecs l) :=
  ((sortCodecs_pairwise s l).and nodup).imp_of_mem fun {a b} ma mb ⟨notAfter, ne⟩ => by
    have distinct := index a ma ▸ index b mb ▸ ne
    simp only [precedes, Bool.not_eq_true', Bool.eq_false_iff, ne_eq,
      compareCodecPriority_eq_true] at notAfter distinct ⊢
    omega

theorem Ordered.congr {s s' : A2dpCodecs} {l : List Int}
    (same : ∀ k ∈ l, (s'.codecAt k).rank = (s.codecAt k).rank) (ordered : s.Ordered l) :
    s'.Ordered l :=
  ordered.imp_of_mem fun {a b} ma mb before => by
    rwa [precedes, compareCodecPriority_of_rank (same a ma) (same b mb)]

theorem codecAt_rank {s s' : A2dpCodecs} {k : Int}
    (same : (s'.indexedCodecs k).map (·.rank) = (s.indexedCodecs k).map (·.rank)) :
    (s'.codecAt k).rank = (s.codecAt k).rank := by
  simpa only [Option.getD_map] using congrArg (Option.getD · (default : A2dpCodecConfig).rank) same

end A2dpCodecs

theorem Ownership.codecAt_codecIndex {K : A2dpConstants} {s : A2dpCodecs} (own : Ownership K s)
    {k : Int} (enabled : (s.indexedCodecs k).isSome) : (s.codecAt k).codecIndex = k := by
  obtain ⟨c, found⟩ := Option.isSome_iff_exists.mp enabled
  rw [codecAt, found]
  exact own.indexed_codecIndex k c found

theorem Ownership.ordered_source {K : A2dpConstants} {s : A2dpCodecs} (own : Ownership K s)
    {l : List Int} (sorted : s.orderedSourceCodecs = s.sortCodecs l) :
    s.Ordered s.orderedSourceCodecs :=
  sorted ▸ ordered_sortCodecs s l (sorted ▸ own.source_nodup)
    fun k mem => own.codecAt_codecIndex ((own.mem_source k).mp (sorted ▸ mem)).1

theorem Ownership.ordered_sink {K : A2dpConstants} {s : A2dpCodecs} (own : Ownership K s)
    {l : List Int} (sorted : s.orderedSinkCodecs = s.sortCodecs l) :
    s.Ordered s.orderedSinkCodecs :=
  sorted ▸ ordered_sortCodecs s l (sorted ▸ own.sink_nodup)
    fun k mem => own.codecAt_codecIndex ((own.mem_sink k).mp (sorted ▸ mem)).1

/-- What an operation that makes no priority change keeps: the ranks of the enabled
descriptors and both lists. -/
structure KeepsOrder (s s' : A2dpCodecs) : Prop where
  ranks : ∀ k, (s'.indexedCodecs k).map (·.rank) = (s.indexedCodecs k).map (·.rank)
  source : s'.orderedSourceCodecs = s.orderedSourceCodecs
  sink : s'.orderedSinkCodecs = s.orderedSinkCodecs

namespace KeepsOrder

variable {s s' s'' : A2dpCodecs}

theorem refl (s : A2dpCodecs) : KeepsOrder s s := ⟨fun _ => rfl, rfl, rfl⟩

theorem trans (h : KeepsOrder s s') (h' : KeepsOrder s' s'') : KeepsOrder s s'' :=
  ⟨fun k => (h'.ranks k).trans (h.ranks k), h'.source.trans h.source, h'.sink.trans h.sink⟩

theorem current (h : KeepsOrder s s') (current : Option Int) :
    KeepsOrder s { s' with currentCodecConfig := current } :=
  ⟨h.ranks, h.source, h.sink⟩

theorem setCodec {k : Int} {c c' : A2dpCodecConfig} (found : s.indexedCodecs k = some c)
    (rank : c'.rank = c.rank) : KeepsOrder s (s.setCodec k c') where
  ranks j := by
    rw [setCodec_indexedCodecs]
    split
    · subst j; rw [found, Option.map_some', Option.map_some', rank]
    · rfl
  source := rfl
  sink := rfl

theorem ordered_source (h : KeepsOrder s s') (ordered : s.Ordered s.orderedSourceCodecs) :
    s'.Ordered s'.orderedSourceCodecs :=
  h.source ▸ ordered.congr fun _ _ => codecAt_rank (h.ranks _)

end KeepsOrder

/-- The codecs' own `setCodecConfig` and `setPeerCodecCapabilities` never write the
priority: only `setCodecPriority` and `setDefaultCodecPriority` do. -/
def KeepsPriority (impl : A2dpCodecImpl) : Prop :=
  (∀ c info isCapability, (impl.setCodecConfig c info isCapability).2.1.codecPriority = c.codecPriority) ∧
    ∀ c info, (impl.setPeerCodecCapabilities c info).2.codecPriority = c.codecPriority

theorem grantingImpl_keepsPriority (K : A2dpConstants) : KeepsPriority (grantingImpl K) := by
  refine ⟨fun c info b => ?_, fun _ _ => rfl⟩
  simp only [grantingImpl]
  split <;> rfl

section
variable (K : A2dpConstants) (impl : A2dpCodecImpl) (keeps : KeepsPriority impl)
include keeps

theorem setCodecConfig_rank (c : A2dpCodecConfig) (info : CodecInfo) (b : Bool) :
    (c.setCodecConfig impl info b).2.1.rank = c.rank :=
  Prod.ext (keeps.1 c info b) rfl

theorem setPeerCodecCapabilities_rank (c : A2dpCodecConfig) (info : CodecInfo) :
    (c.setPeerCodecCapabilities impl info).2.rank = c.rank :=
  Prod.ext (keeps.2 c info) rfl

theorem setCodecUserConfig_rank (c : A2dpCodecConfig) (u a : BtavA2dpCodecConfig)
    (info : CodecInfo) (b : Bool) : (c.setCodecUserConfig K impl u a info b).1.rank = c.rank := by
  unfold A2dpCodecConfig.setCodecUserConfig
  dsimp only
  split <;> exact Prod.ext (keeps.1 _ _ _) rfl

theorem keepsOrder_negotiateFound {s : A2dpCodecs} {found : Option (Int × A2dpCodecConfig)}
    (pointsInto : ∀ k c, found = some (k, c) → s.indexedCodecs k = some c) (info : CodecInfo)
    (isCapability select : Bool) :
    KeepsOrder s (s.negotiateFound impl found info isCapability select).1 := by
  match found, pointsInto with
  | none, _ => exact .refl s
  | some (k, c), pointsInto =>
    have base := KeepsOrder.setCodec (pointsInto k c rfl) (setCodecConfig_rank impl keeps c info isCapability)
    simp only [negotiateFound]
    split
    · split
      · exact base.current _
      · exact base
    · exact base

theorem keepsOrder_recordPeerCapabilities {s : A2dpCodecs} {found : Option (Int × A2dpCodecConfig)}
    (pointsInto : ∀ k c, found = some (k, c) → s.indexedCodecs k = some c) (valid : Bool)
    (info : CodecInfo) : KeepsOrder s (s.recordPeerCapabilities impl valid found info).1 := by
  unfold recordPeerCapabilities
  split
  · exact .refl s
  · match found, pointsInto with
    | none, _ => exact .refl s
    | some (k, c), pointsInto =>
      exact .setCodec (pointsInto k c rfl) (setPeerCodecCapabilities_rank impl keeps c info)

theorem setCodecUserConfig_order (s : A2dpCodecs) (u : BtavA2dpCodecConfig) (caps : CodecInfo) :
    KeepsOrder s (s.setCodecUserConfig K impl u caps).1 ∨
      ∃ l, (s.setCodecUserConfig K impl u caps).1.orderedSourceCodecs =
        (s.setCodecUserConfig K impl u caps).1.sortCodecs l := by
  unfold setCodecUserConfig
  split
  · exact .inl (.refl s)
  · rename_i k c target
    dsimp only
    split
    · exact .inr ⟨_, rfl⟩
    · exact .inl (.setCodec (userConfigTarget_found K target)
        (setCodecUserConfig_rank K impl keeps c _ _ _ _))

theorem keepsOrder_step {s : A2dpCodecs} (op : Op)
    (other : ∀ u caps, op ≠ .setCodecUserConfig u caps) : KeepsOrder s (s.step K impl op).1 := by
  cases op with
  | setCodecUserConfig u caps => exact absurd rfl (other u caps)
  | setCodecAudioConfig a caps =>
    simp only [step, setCodecAudioConfig]
    split
    · exact .refl s
    · rename_i k c current
      exact .setCodec (current_eq_some current).2 (setCodecUserConfig_rank K impl keeps c _ _ _ _)
  | setCodecOtaConfig ota =>
    simp only [step, setCodecOtaConfig]
    split
    · exact .refl s
    · rename_i k c target
      have adopt := (KeepsOrder.setCodec (otaTarget_found K impl target).1
        (setCodecUserConfig_rank K impl keeps c c.codecUserConfig c.codecAudioConfig ota false)).current
          (some k)
      split
      · exact adopt
      · exact adopt.current _
  | setCodecConfig info isCapability select =>
    exact keepsOrder_negotiateFound impl keeps (fun _ _ => findSourceCodecConfig_found K impl) _ _ _
  | setSinkCodecConfig info isCapability select =>
    exact keepsOrder_negotiateFound impl keeps (fun _ _ => findSinkCodecConfig_found K impl) _ _ _
  | setPeerSinkCodecCapabilities info =>
    exact keepsOrder_recordPeerCapabilities impl keeps (fun _ _ => findSourceCodecConfig_found K impl) _ _
  | setPeerSourceCodecCapabilities info =>
    exact keepsOrder_recordPeerCapabilities impl keeps (fun _ _ => findSinkCodecConfig_found K impl) _ _

theorem ordered_source_step {s : A2dpCodecs} (own : Ownership K s)
    (ordered : s.Ordered s.orderedSourceCodecs) (op : Op) :
    (s.step K impl op).1.Ordered (s.step K impl op).1.orderedSourceCodecs := by
  by_cases user : ∃ u caps, op = .setCodecUserConfig u caps
  · obtain ⟨u, caps, rfl⟩ := user
    rcases setCodecUserConfig_order K impl keeps s u caps with kept | ⟨l, sorted⟩
    · exact kept.ordered_source ordered
    · exact (own.of_preserves (preserves_step K impl _)).ordered_source sorted
  · push_neg at user
    exact (keepsOrder_step K impl keeps op user).ordered_source ordered

end

section Init
variable (K : A2dpConstants) (impl : A2dpCodecImpl) {s : A2dpCodecs} {i : Int}

theorem initCodec_lists (opusEnabled : Bool) :
    ((s.initCodec K impl opusEnabled i).orderedSourceCodecs = s.orderedSourceCodecs ∨
      (s.initCodec K impl opusEnabled i).orderedSourceCodecs =
        (s.initCodec K impl opusEnabled i).sortCodecs (s.orderedSourceCodecs ++ [i])) ∧
    ((s.initCodec K impl opusEnabled i).orderedSinkCodecs = s.orderedSinkCodecs ∨
      (s.initCodec K impl opusEnabled i).orderedSinkCodecs =
        (s.initCodec K impl opusEnabled i).sortCodecs (s.orderedSinkCodecs ++ [i])) := by
  unfold initCodec
  dsimp only
  split
  · exact ⟨.inl rfl, .inl rfl⟩
  · split
    · exact ⟨.inl rfl, .inl rfl⟩
    · split
      · exact ⟨.inr rfl, .inl rfl⟩
      · exact ⟨.inl rfl, .inr rfl⟩

theorem A2dpCodecs.Ordered.initCodec {l : List Int} (enabled : ∀ k ∈ l, (s.indexedCodecs k).isSome)
    (absent : s.indexedCodecs i = none) (opusEnabled : Bool) (ordered : s.Ordered l) :
    (s.initCodec K impl opusEnabled i).Ordered l :=
  ordered.congr fun k mem => by
    have other : k ≠ i := fun same => by simpa [same, absent] using enabled k mem
    rw [codecAt, codecAt, (initCodec_other K impl other opusEnabled).1]

theorem ordered_initCodec (own : Ownership K s) (absent : s.indexedCodecs i = none)
    (absentDisabled : s.disabledCodecs i = none) (opusEnabled : Bool)
    (source : s.Ordered s.orderedSourceCodecs) (sink : s.Ordered s.orderedSinkCodecs) :
    (s.initCodec K impl opusEnabled i).Ordered (s.initCodec K impl opusEnabled i).orderedSourceCodecs ∧
      (s.initCodec K impl opusEnabled i).Ordered (s.initCodec K impl opusEnabled i).orderedSinkCodecs := by
  have own' := ownership_initCodec K impl own absent absentDisabled opusEnabled
  obtain ⟨source', sink'⟩ := initCodec_lists K impl (s := s) (i := i) opusEnabled
  constructor
  · rcases source' with kept | sorted
    · rw [kept]
      exact source.initCodec K impl (fun k mem => ((own.mem_source k).mp mem).1) absent opusEnabled
    · exact own'.ordered_source sorted
  · rcases sink' with kept | sorted
    · rw [kept]
      exact sink.initCodec K impl (fun k mem => ((own.mem_sink k).mp mem).1) absent opusEnabled
    · exact own'.ordered_sink sorted

theorem ordered_foldl_initCodec (opusEnabled : Bool) :
    ∀ (l : List Int) (s : A2dpCodecs), l.Nodup →
      (∀ i ∈ l, s.indexedCodecs i = none ∧ s.disabledCodecs i = none) → Ownership K s →
      s.Ordered s.orderedSourceCodecs → s.Ordered s.orderedSinkCodecs →
      (l.foldl (initCodec K impl opusEnabled) s).Ordered
          (l.foldl (initCodec K impl opusEnabled) s).orderedSourceCodecs ∧
        (l.foldl (initCodec K impl opusEnabled) s).Ordered
          (l.foldl (initCodec K impl opusEnabled) s).orderedSinkCodecs
  | [], _, _, _, _, source, sink => ⟨source, sink⟩
  | i :: l, s, nodup, absent, own, source, sink => by
    obtain ⟨notMem, nodup⟩ := List.nodup_cons.mp nodup
    have absent' : ∀ j ∈ l, (s.initCodec K impl opusEnabled i).indexedCodecs j = none ∧
        (s.initCodec K impl opusEnabled i).disabledCodecs j = none := fun j mem => by
      have other : j ≠ i := fun same => notMem (same ▸ mem)
      rw [(initCodec_other K impl other opusEnabled).1, (initCodec_other K impl other opusEnabled).2]
      exact absent j (.tail _ mem)
    have ordered := ordered_initCodec K impl own (absent i (.head _)).1 (absent i (.head _)).2
      opusEnabled source sink
    exact ordered_foldl_initCodec opusEnabled l _ nodup absent'
      (ownership_initCodec K impl own (absent i (.head _)).1 (absent i (.head _)).2 opusEnabled)
      ordered.1 ordered.2

theorem ordered_init (codecPriorities : List BtavA2dpCodecConfig) (opusEnabled : Bool) :
    ((A2dpCodecs.new codecPriorities).init K impl opusEnabled).1.Ordered
        ((A2dpCodecs.new codecPriorities).init K impl opusEnabled).1.orderedSourceCodecs ∧
      ((A2dpCodecs.new codecPriorities).init K impl opusEnabled).1.Ordered
        ((A2dpCodecs.new codecPriorities).init K impl opusEnabled).1.orderedSinkCodecs :=
  ordered_foldl_initCodec K impl opusEnabled _ _ (codecIndices_nodup K) (fun _ _ => ⟨rfl, rfl⟩)
    (ownership_new K codecPriorities) .nil .nil

end Init

/-- In every reachable state the source list is sorted by `compare_codec_priority`, with the
priorities the descriptors have then. -/
theorem ownership_ordered_of_reachable {K : A2dpConstants} {impl : A2dpCodecImpl}
    (keeps : KeepsPriority impl) {s : A2dpCodecs} (reach : Reachable K impl s) :
    Ownership K s ∧ s.Ordered s.orderedSourceCodecs := by
  induction reach with
  | init codecPriorities opusEnabled =>
    exact ⟨ownership_init K impl codecPriorities opusEnabled,
      (ordered_init K impl codecPriorities opusEnabled).1⟩
  | step op _ ih =>
    exact ⟨ih.1.of_preserves (preserves_step K impl op),
      ordered_source_step K impl keeps ih.1 ih.2 op⟩

theorem source_ordered_of_reachable {K : A2dpConstants} {impl : A2dpCodecImpl}
    (keeps : KeepsPriority impl) {s : A2dpCodecs} (reach : Reachable K impl s) :
    s.Ordered s.orderedSourceCodecs :=
  (ownership_ordered_of_reachable keeps reach).2

theorem source_ordered_sampleSession :
    KeepsPriority (grantingImpl sampleConstants) ∧
      Reachable sampleConstants (grantingImpl sampleConstants) sampleSession ∧
      sampleSession.Ordered sampleSession.orderedSourceCodecs :=
  ⟨grantingImpl_keepsPriority _, .init [] true,
    source_ordered_of_reachable (grantingImpl_keepsPriority _) (.init [] true)⟩

section
variable (K : A2dpConstants) (impl : A2dpCodecImpl)

theorem updateCodecPriority_orderedSinkCodecs (s : A2dpCodecs) (last : Option Int) (k : Int)
    (c : A2dpCodecConfig) (p : Int) (o : ConfigOutcome) :
    (s.updateCodecPriority K last k c p o).1.orderedSinkCodecs = s.orderedSinkCodecs := by
  rcases updateCodecPriority_cases K s last k c p o with ⟨-, same⟩ | ⟨-, same⟩ | ⟨l, -, -, same⟩ <;>
    rw [same] <;> simp

theorem setCodecUserConfig_orderedSinkCodecs (s : A2dpCodecs) (u : BtavA2dpCodecConfig)
    (caps : CodecInfo) : (s.setCodecUserConfig K impl u caps).1.orderedSinkCodecs = s.orderedSinkCodecs := by
  unfold setCodecUserConfig
  split
  · rfl
  · dsimp only
    split
    · exact updateCodecPriority_orderedSinkCodecs K _ _ _ _ _ _
    · rfl

end

/-- Raising the sink SBC codec above every other sink codec leaves the sink list of a
freshly initialised session as it was, so out of order. -/
theorem sink_reprioritised_unordered :
    Reachable sampleConstants (grantingImpl sampleConstants) sampleSession ∧
      sampleSession.Ordered sampleSession.orderedSinkCodecs ∧
      let call := sampleSession.setCodecUserConfig sampleConstants (grantingImpl sampleConstants)
        { initBtavA2dpCodecConfig 10 20000 with sampleRate := 44100 } []
      call.2.success = true ∧ ¬ call.1.Ordered call.1.orderedSinkCodecs := by
  have own := ownership_init sampleConstants (grantingImpl sampleConstants) [] true
  have ordered := (ordered_init sampleConstants (grantingImpl sampleConstants) [] true).2
  refine ⟨.init [] true, ordered, by decide, fun unordered => ?_⟩
  rw [setCodecUserConfig_orderedSinkCodecs] at unordered
  have sbc : (10 : Int) ∈ sampleSession.orderedSinkCodecs := (own.mem_sink 10).mpr ⟨by decide, by decide⟩
  have aac : (11 : Int) ∈ sampleSession.orderedSinkCodecs := (own.mem_sink 11).mpr ⟨by decide, by decide⟩
  rcases pairwise_rel_or_rel (ordered.and unordered) sbc aac (by decide) with ⟨before, -⟩ | ⟨-, after⟩
  · exact absurd before (by decide)
  · exact absurd after (by decide)

end A2dpCodec
