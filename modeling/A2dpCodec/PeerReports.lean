import A2dpCodec.Run

/-! # Peer reports on different codecs are independent

While a peer's stream endpoints are discovered, the stack hands the registry one element per
endpoint: its capabilities (`setPeerSinkCodecCapabilities`, `setPeerSourceCodecCapabilities`)
or a configuration to negotiate without selecting it (`setCodecConfig` and
`setSinkCodecConfig` with `select_current_codec` false). Each such call looks its codec up at
the index its element alone fixes, and reads and writes the registry only there. A batch of
them naming different codecs therefore acts as if each call were made alone on the registry
the batch started from, whatever their order. -/

namespace A2dpCodec

open A2dpCodecs

/-- The index a peer report looks its codec up at, fixed by its element; `none` for the
operations that read or select the current codec. -/
def Op.peerTarget (K : A2dpConstants) (F : A2dpFamilyImpl) : Op → Option Int
  | .setCodecConfig info _ false => some (a2dpSourceCodecIndex K F info)
  | .setSinkCodecConfig info _ false => some (a2dpSinkCodecIndex K F info)
  | .setPeerSinkCodecCapabilities info => some (a2dpSourceCodecIndex K F info)
  | .setPeerSourceCodecCapabilities info => some (a2dpSinkCodecIndex K F info)
  | _ => none

/-- The registry with the descriptor slot at `i` replaced. -/
def A2dpCodecs.updateAt (s : A2dpCodecs) (i : Int) (d : Option A2dpCodecConfig) : A2dpCodecs :=
  { s with indexedCodecs := Function.update s.indexedCodecs i d }

@[simp] theorem updateAt_indexedCodecs_self (s : A2dpCodecs) (i : Int) (d : Option A2dpCodecConfig) :
    (s.updateAt i d).indexedCodecs i = d :=
  Function.update_same _ _ _

/-- An action on the registry that reads and writes it only at index `i`. -/
structure LocalAt {α : Type} (act : A2dpCodecs → A2dpCodecs × α) (i : Int) : Prop where
  /-- It changes nothing but the descriptor at `i`. -/
  frame : ∀ s, (act s).1 = s.updateAt i ((act s).1.indexedCodecs i)
  /-- What it leaves at `i` and what it returns depend only on the descriptor found there. -/
  reads : ∀ s s' : A2dpCodecs, s'.indexedCodecs i = s.indexedCodecs i →
    (act s').1.indexedCodecs i = (act s).1.indexedCodecs i ∧ (act s').2 = (act s).2

namespace LocalAt

variable {α β : Type} {act : A2dpCodecs → A2dpCodecs × α} {act' : A2dpCodecs → A2dpCodecs × β}
  {i j : Int}

theorem other (h : LocalAt act i) (s : A2dpCodecs) (ne : j ≠ i) :
    (act s).1.indexedCodecs j = s.indexedCodecs j :=
  (congrArg (·.indexedCodecs j) (h.frame s)).trans (Function.update_noteq ne _ _)

theorem map (h : LocalAt act i) (g : α → β) : LocalAt (fun s => ((act s).1, g (act s).2)) i :=
  ⟨h.frame, fun s s' same => ⟨(h.reads s s' same).1, congrArg g (h.reads s s' same).2⟩⟩

end LocalAt

section
variable (K : A2dpConstants) (impl : A2dpCodecImpl) (info : CodecInfo) (i : Int)

theorem setCodec_eq_updateAt (s : A2dpCodecs) (c : A2dpCodecConfig) : s.setCodec i c = s.updateAt i (some c) :=
  rfl

theorem updateAt_self (s : A2dpCodecs) : s.updateAt i (s.indexedCodecs i) = s := by
  simp only [updateAt, Function.update_eq_self]

/-- `findSourceCodecConfig` and `findSinkCodecConfig` with the index their element gives. -/
def lookupAt (s : A2dpCodecs) : Option (Int × A2dpCodecConfig) :=
  if i = K.indexMax then none else s.find i

theorem lookupAt_eq_some {s : A2dpCodecs} {k : Int} {c : A2dpCodecConfig}
    (found : lookupAt K i s = some (k, c)) : k = i ∧ s.indexedCodecs i = some c := by
  unfold lookupAt at found
  split at found
  · exact absurd found nofun
  · obtain ⟨rfl, indexed⟩ := find_eq_some.mp found
    exact ⟨rfl, indexed⟩

theorem lookupAt_congr {s s' : A2dpCodecs} (same : s'.indexedCodecs i = s.indexedCodecs i) :
    lookupAt K i s' = lookupAt K i s := by
  simp only [lookupAt, find, same]

theorem localAt_negotiateFound (isCapability : Bool) :
    LocalAt (fun s : A2dpCodecs => s.negotiateFound impl (lookupAt K i s) info isCapability false) i where
  frame s := by
    cases found : lookupAt K i s with
    | none => exact (updateAt_self i s).symm
    | some kc =>
      obtain ⟨k, c⟩ := kc
      obtain ⟨rfl, -⟩ := lookupAt_eq_some K i found
      simp only [negotiateFound, Bool.false_eq_true, if_false]
      split <;> simp [setCodec_eq_updateAt]
  reads s s' same := by
    simp only [lookupAt_congr K i same]
    cases found : lookupAt K i s with
    | none => exact ⟨same, rfl⟩
    | some kc =>
      obtain ⟨k, c⟩ := kc
      obtain ⟨rfl, -⟩ := lookupAt_eq_some K i found
      simp only [negotiateFound, Bool.false_eq_true, if_false]
      split <;> exact ⟨by simp, rfl⟩

theorem localAt_recordPeerCapabilities (valid : Bool) :
    LocalAt (fun s : A2dpCodecs => s.recordPeerCapabilities impl valid (lookupAt K i s) info) i where
  frame s := by
    unfold recordPeerCapabilities
    split
    · exact (updateAt_self i s).symm
    · cases found : lookupAt K i s with
      | none => exact (updateAt_self i s).symm
      | some kc =>
        obtain ⟨k, c⟩ := kc
        obtain ⟨rfl, -⟩ := lookupAt_eq_some K i found
        simp [setCodec_eq_updateAt]
  reads s s' same := by
    unfold recordPeerCapabilities
    simp only [lookupAt_congr K i same]
    split
    · exact ⟨same, rfl⟩
    · cases found : lookupAt K i s with
      | none => exact ⟨same, rfl⟩
      | some kc =>
        obtain ⟨k, c⟩ := kc
        obtain ⟨rfl, -⟩ := lookupAt_eq_some K i found
        exact ⟨by simp, rfl⟩

end

section
variable (K : A2dpConstants) (impl : A2dpCodecImpl)

/-- A peer report is local at the index its element gives. -/
theorem localAt_step {op : Op} {i : Int} (target : op.peerTarget K impl.toA2dpFamilyImpl = some i) :
    LocalAt (fun s => s.step K impl op) i := by
  cases op with
  | setCodecConfig info isCapability select | setSinkCodecConfig info isCapability select =>
    cases select
    case false =>
      cases Option.some.inj target
      exact localAt_negotiateFound K impl info _ isCapability
    case true => exact absurd target nofun
  | setPeerSinkCodecCapabilities info =>
    cases Option.some.inj target
    exact (localAt_recordPeerCapabilities K impl info _
      (a2dpIsPeerSinkCodecValid K impl.toA2dpFamilyImpl info)).map
        fun r => (⟨r, none, false, false, false⟩ : ConfigOutcome)
  | setPeerSourceCodecCapabilities info =>
    cases Option.some.inj target
    exact (localAt_recordPeerCapabilities K impl info _
      (a2dpIsPeerSourceCodecValid K impl.toA2dpFamilyImpl info)).map
        fun r => (⟨r, none, false, false, false⟩ : ConfigOutcome)
  | setCodecUserConfig | setCodecAudioConfig | setCodecOtaConfig => exact absurd target nofun

/-- A batch of peer reports naming pairwise different codecs acts as if each report were made
alone on the registry the batch starts from: the codec each one names ends as that report alone
leaves it, every other descriptor and the rest of the registry are unchanged, and each report
returns what it returns alone. None of this depends on the order of the batch. -/
theorem run_peerReports (ops : List Op)
    (targeted : ∀ op ∈ ops, (op.peerTarget K impl.toA2dpFamilyImpl).isSome)
    (distinct : ops.Pairwise fun a b => a.peerTarget K impl.toA2dpFamilyImpl ≠ b.peerTarget K impl.toA2dpFamilyImpl)
    (s : A2dpCodecs) :
    (∀ op ∈ ops, ∀ i, op.peerTarget K impl.toA2dpFamilyImpl = some i →
        (s.run K impl ops).1.indexedCodecs i = (s.step K impl op).1.indexedCodecs i) ∧
      (∀ j, (∀ op ∈ ops, op.peerTarget K impl.toA2dpFamilyImpl ≠ some j) →
        (s.run K impl ops).1.indexedCodecs j = s.indexedCodecs j) ∧
      (s.run K impl ops).1 = { s with indexedCodecs := (s.run K impl ops).1.indexedCodecs } ∧
      (s.run K impl ops).2 = ops.map fun op => (s.step K impl op).2 := by
  induction ops generalizing s with
  | nil => exact ⟨fun _ member => absurd member (List.not_mem_nil _), fun _ _ => rfl, rfl, rfl⟩
  | cons op ops ih =>
    obtain ⟨i, target⟩ := Option.isSome_iff_exists.mp (targeted op (.head _))
    have here := localAt_step K impl target
    have frame : (s.step K impl op).1 = s.updateAt i ((s.step K impl op).1.indexedCodecs i) := here.frame s
    obtain ⟨apart, distinct⟩ := List.pairwise_cons.mp distinct
    obtain ⟨named, unnamed, rest, outcomes⟩ :=
      ih (fun o member => targeted o (.tail _ member)) distinct (s.step K impl op).1
    have elsewhere : ∀ o ∈ ops, ∀ i', o.peerTarget K impl.toA2dpFamilyImpl = some i' → i' ≠ i :=
      fun o member i' t same => apart o member (target.trans (t.trans (congrArg some same)).symm)
    refine ⟨fun o member i' t => ?_, fun j none => ?_, ?_, ?_⟩
    · rcases List.mem_cons.mp member with rfl | member
      · exact unnamed i' fun o' member' t' => apart o' member' (t.trans t'.symm)
      · exact (named o member i' t).trans
          ((localAt_step K impl t).reads s _ (here.other s (elsewhere o member i' t))).1
    · exact (unnamed j fun o member => none o (.tail _ member)).trans
        (here.other s fun same => none op (.head _) (same ▸ target))
    · calc ((s.step K impl op).1.run K impl ops).1
          = { (s.step K impl op).1 with indexedCodecs := ((s.step K impl op).1.run K impl ops).1.indexedCodecs } :=
            rest
        _ = { s.updateAt i ((s.step K impl op).1.indexedCodecs i) with
              indexedCodecs := ((s.step K impl op).1.run K impl ops).1.indexedCodecs } := by rw [← frame]
    · rw [run_cons, outcomes, List.map_cons]
      refine congrArg _ (List.map_congr_left fun o member => ?_)
      obtain ⟨i', t⟩ := Option.isSome_iff_exists.mp (targeted o (.tail _ member))
      exact ((localAt_step K impl t).reads s _ (here.other s (elsewhere o member i' t))).2

end


/-- The sample peer's capability reports for SBC and AAC. -/
def samplePeerReports : List Op :=
  [.setPeerSinkCodecCapabilities [6, 0, 0, 0x21, 0x15, 2, 53], .setPeerSinkCodecCapabilities [6, 0, 2, 0x80, 1, 0x8C]]

theorem run_peerReports_sbc_aac :
    (∀ op ∈ samplePeerReports, (op.peerTarget sampleConstants (grantingImpl sampleConstants).1).isSome) ∧
      samplePeerReports.Pairwise (fun a b =>
        a.peerTarget sampleConstants (grantingImpl sampleConstants).1 ≠
          b.peerTarget sampleConstants (grantingImpl sampleConstants).1) ∧
      (∀ op ∈ samplePeerReports, ∀ i, op.peerTarget sampleConstants (grantingImpl sampleConstants).1 = some i →
        (sampleSession.run sampleConstants (grantingImpl sampleConstants) samplePeerReports).1.indexedCodecs i =
          (sampleSession.step sampleConstants (grantingImpl sampleConstants) op).1.indexedCodecs i) ∧
      (∀ j, (∀ op ∈ samplePeerReports, op.peerTarget sampleConstants (grantingImpl sampleConstants).1 ≠ some j) →
        (sampleSession.run sampleConstants (grantingImpl sampleConstants) samplePeerReports).1.indexedCodecs j =
          sampleSession.indexedCodecs j) ∧
      (sampleSession.run sampleConstants (grantingImpl sampleConstants) samplePeerReports).1 =
        { sampleSession with indexedCodecs :=
          (sampleSession.run sampleConstants (grantingImpl sampleConstants) samplePeerReports).1.indexedCodecs } ∧
      (sampleSession.run sampleConstants (grantingImpl sampleConstants) samplePeerReports).2 =
        samplePeerReports.map fun op => (sampleSession.step sampleConstants (grantingImpl sampleConstants) op).2 :=
  have targeted : ∀ op ∈ samplePeerReports,
      (op.peerTarget sampleConstants (grantingImpl sampleConstants).1).isSome := by decide
  have distinct : samplePeerReports.Pairwise (fun a b =>
      a.peerTarget sampleConstants (grantingImpl sampleConstants).1 ≠
        b.peerTarget sampleConstants (grantingImpl sampleConstants).1) := by decide
  ⟨targeted, distinct, run_peerReports sampleConstants (grantingImpl sampleConstants) samplePeerReports targeted
    distinct sampleSession⟩

end A2dpCodec
