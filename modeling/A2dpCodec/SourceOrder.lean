import A2dpCodec.Ordering
import Mathlib.Data.List.Sort

/-! # The source list as a function of the descriptors

The abstract view of `ordered_source_codecs_`: the enabled source codecs, each once, from
the first to the last in `compare_codec_priority` order. `compare_codec_priority` never puts
two descriptors each before the other, so at most one list meets that view, and in every
reachable state the registry's list does. The source order is thus fixed by the ranks of the
enabled source descriptors, whatever run led to them. -/

namespace A2dpCodec

open A2dpCodecs

/-- The abstract view of a source list of the registry `s`. -/
structure SourceOrder (K : A2dpConstants) (s : A2dpCodecs) (l : List Int) : Prop where
  nodup : l.Nodup
  members : ∀ j, j ∈ l ↔ (s.indexedCodecs j).isSome ∧ j < K.indexSourceMax
  ordered : s.Ordered l

theorem compareCodecPriority_asymm {x y : A2dpCodecConfig} (before : compareCodecPriority x y = true) :
    compareCodecPriority y x = false := by
  rw [compareCodecPriority_eq_true] at before
  rw [Bool.eq_false_iff, ne_eq, compareCodecPriority_eq_true]
  omega

/-- Two ordered lists of the same entries are one list. -/
theorem Ordered.eq_of_perm {s : A2dpCodecs} {l₁ l₂ : List Int} (ordered₁ : s.Ordered l₁)
    (ordered₂ : s.Ordered l₂) (perm : l₁.Perm l₂) : l₁ = l₂ :=
  have : IsAntisymm Int fun a b => s.precedes a b = true :=
    ⟨fun _ _ ab ba => absurd ba (by rw [precedes, compareCodecPriority_asymm ab]; exact Bool.false_ne_true)⟩
  List.eq_of_perm_of_sorted perm ordered₁ ordered₂

namespace SourceOrder

variable {K : A2dpConstants} {s s' : A2dpCodecs} {l l' : List Int}

theorem unique (h : SourceOrder K s l) (h' : SourceOrder K s l') : l = l' :=
  Ordered.eq_of_perm h.ordered h'.ordered
    ((List.perm_ext_iff_of_nodup h.nodup h'.nodup).mpr fun j => (h.members j).trans (h'.members j).symm)

theorem congr (h : SourceOrder K s l)
    (same : ∀ j < K.indexSourceMax, (s'.indexedCodecs j).map (·.rank) = (s.indexedCodecs j).map (·.rank)) :
    SourceOrder K s' l where
  nodup := h.nodup
  members j := by
    have enabled : j < K.indexSourceMax → (s'.indexedCodecs j).isSome = (s.indexedCodecs j).isSome :=
      fun source => by simpa only [Option.isSome_map'] using congrArg Option.isSome (same j source)
    rw [h.members j]
    exact ⟨fun ⟨present, source⟩ => ⟨(enabled source).trans present, source⟩,
      fun ⟨present, source⟩ => ⟨(enabled source).symm.trans present, source⟩⟩
  ordered := h.ordered.congr fun j member => codecAt_rank (same j ((h.members j).mp member).2)

end SourceOrder

theorem Ownership.sourceOrder {K : A2dpConstants} {s : A2dpCodecs} (own : Ownership K s) (ordered : s.Ordered s.orderedSourceCodecs) :
    SourceOrder K s s.orderedSourceCodecs :=
  ⟨own.source_nodup, own.mem_source, ordered⟩


/-- In every reachable state the registry's source list meets the abstract view and is the
only list that does. -/
theorem orderedSourceCodecs_refines {K : A2dpConstants} {impl : A2dpCodecImpl} (keeps : KeepsPriority impl)
    {s : A2dpCodecs} (reach : Reachable K impl s) :
    SourceOrder K s s.orderedSourceCodecs ∧ ∀ l, SourceOrder K s l → l = s.orderedSourceCodecs :=
  have view := (ownership_ordered_of_reachable keeps reach).1.sourceOrder
    (ownership_ordered_of_reachable keeps reach).2
  ⟨view, fun _ other => other.unique view⟩

theorem orderedSourceCodecs_refines_sampleSession :
    KeepsPriority (grantingImpl sampleConstants) ∧
      Reachable sampleConstants (grantingImpl sampleConstants) sampleSession ∧
      SourceOrder sampleConstants sampleSession sampleSession.orderedSourceCodecs ∧
      ∀ l, SourceOrder sampleConstants sampleSession l → l = sampleSession.orderedSourceCodecs :=
  ⟨grantingImpl_keepsPriority _, .init [] true,
    orderedSourceCodecs_refines (grantingImpl_keepsPriority _) (.init [] true)⟩

/-- Two reachable states whose enabled source descriptors have the same ranks have the same
source list, whatever runs led to them. -/
theorem orderedSourceCodecs_history_independent {K : A2dpConstants} {impl : A2dpCodecImpl}
    (keeps : KeepsPriority impl) {s s' : A2dpCodecs} (reach : Reachable K impl s)
    (reach' : Reachable K impl s')
    (same : ∀ j < K.indexSourceMax, (s'.indexedCodecs j).map (·.rank) = (s.indexedCodecs j).map (·.rank)) :
    s.orderedSourceCodecs = s'.orderedSourceCodecs := by
  obtain ⟨own, ordered⟩ := ownership_ordered_of_reachable keeps reach
  obtain ⟨own', ordered'⟩ := ownership_ordered_of_reachable keeps reach'
  exact ((own.sourceOrder ordered).congr same).unique (own'.sourceOrder ordered')

/-- The sample session, and the session after a peer reports its sink capabilities. -/
theorem orderedSourceCodecs_history_independent_sampleSession :
    KeepsPriority (grantingImpl sampleConstants) ∧
      Reachable sampleConstants (grantingImpl sampleConstants) sampleSession ∧
      Reachable sampleConstants (grantingImpl sampleConstants)
        (sampleSession.step sampleConstants (grantingImpl sampleConstants)
          (.setPeerSinkCodecCapabilities [6, 0, 0, 0x21, 0x15, 2, 53])).1 ∧
      (∀ j < sampleConstants.indexSourceMax,
        ((sampleSession.step sampleConstants (grantingImpl sampleConstants)
          (.setPeerSinkCodecCapabilities [6, 0, 0, 0x21, 0x15, 2, 53])).1.indexedCodecs j).map (·.rank) =
          (sampleSession.indexedCodecs j).map (·.rank)) ∧
      sampleSession.orderedSourceCodecs =
        (sampleSession.step sampleConstants (grantingImpl sampleConstants)
          (.setPeerSinkCodecCapabilities [6, 0, 0, 0x21, 0x15, 2, 53])).1.orderedSourceCodecs :=
  have keeps := grantingImpl_keepsPriority sampleConstants
  have reported := (Reachable.init [] true).step (.setPeerSinkCodecCapabilities [6, 0, 0, 0x21, 0x15, 2, 53])
  have same := (keepsOrder_step sampleConstants _ keeps (.setPeerSinkCodecCapabilities [6, 0, 0, 0x21, 0x15, 2, 53])
    fun _ _ => nofun).ranks
  ⟨keeps, .init [] true, reported, fun j _ => same j,
    orderedSourceCodecs_history_independent keeps (.init [] true) reported fun j _ => same j⟩

end A2dpCodec
