import A2dpCodec.Ownership

/-! # What `init()` files

The loop of `A2dpCodecs::init` visits each index from `BTAV_A2DP_CODEC_INDEX_MIN` below
`BTAV_A2DP_CODEC_INDEX_MAX` once. It creates the codec of that index with the priority the
table gives its first entry of that type (OPUS forced disabled when it is off) and files the
descriptor as disabled when its priority is `BTAV_A2DP_CODEC_PRIORITY_DISABLED`, as enabled
otherwise, and nowhere when the codec cannot be created. What is filed at an index depends
on that index alone. -/

namespace A2dpCodec

open A2dpCodecs

/-- Where the registry files index `i`: its enabled and its disabled descriptor. -/
def A2dpCodecs.filed (s : A2dpCodecs) (i : Int) : Option A2dpCodecConfig × Option A2dpCodecConfig :=
  (s.indexedCodecs i, s.disabledCodecs i)

/-- Where a turn of `init()` files the descriptor it created, if any. -/
def fileCodec (K : A2dpConstants) : Option A2dpCodecConfig → Option A2dpCodecConfig × Option A2dpCodecConfig
  | none => (none, none)
  | some c => if c.codecPriority = K.priorityDisabled then (none, some c) else (some c, none)

/-- The priority the table gives index `i`: that of its first entry of type `i`. -/
def tablePriority (codecPriorities : List BtavA2dpCodecConfig) (i : Int) : Option Int :=
  (codecPriorities.find? (·.codecType = i)).map (·.codecPriority)

/-- The priority a turn of `init()` creates the codec of index `i` with. -/
def initPriority (K : A2dpConstants) (opusEnabled : Bool) (priorities : Int → Option Int) (i : Int) : Int :=
  if i = K.sourceOpus ∧ opusEnabled = false then K.priorityDisabled
  else (priorities i).getD K.priorityDefault

theorem mem_codecIndices (K : A2dpConstants) (i : Int) :
    i ∈ K.codecIndices ↔ K.indexMin ≤ i ∧ i < K.indexMax := by
  simp only [A2dpConstants.codecIndices, List.mem_map, List.mem_range]
  constructor
  · rintro ⟨n, below, rfl⟩
    omega
  · intro inside
    exact ⟨(i - K.indexMin).toNat, by omega, by omega⟩

theorem foldl_mapInsert_priority (codecPriorities : List BtavA2dpCodecConfig) (m : Int → Option Int)
    (i : Int) :
    codecPriorities.foldl (fun m c => mapInsert m c.codecType c.codecPriority) m i =
      (m i).or (tablePriority codecPriorities i) := by
  induction codecPriorities generalizing m with
  | nil => exact Option.or_none.symm
  | cons c rest ih =>
    rw [List.foldl_cons, ih]
    unfold mapInsert tablePriority
    by_cases same : c.codecType = i
    · subst same
      cases found : m c.codecType <;> simp [found]
    · cases found : m c.codecType <;> simp [found, same, Function.update_noteq (Ne.symm same)]

theorem new_codecPriorities (codecPriorities : List BtavA2dpCodecConfig) :
    (A2dpCodecs.new codecPriorities).codecPriorities = tablePriority codecPriorities :=
  funext fun i => (foldl_mapInsert_priority codecPriorities _ i).trans Option.none_or

section
variable (K : A2dpConstants) (impl : A2dpCodecImpl) (opusEnabled : Bool) {s : A2dpCodecs} {i : Int}

theorem initCodec_codecPriorities :
    (s.initCodec K impl opusEnabled i).codecPriorities = s.codecPriorities := by
  unfold initCodec
  dsimp only
  split
  · rfl
  · split
    · rfl
    · split <;> rfl

theorem initCodec_filed_self (fresh : s.filed i = (none, none)) :
    (s.initCodec K impl opusEnabled i).filed i =
      fileCodec K (createCodec K impl i (initPriority K opusEnabled s.codecPriorities i)) := by
  obtain ⟨absent, absentDisabled⟩ := Prod.mk.inj fresh
  unfold initCodec initPriority
  dsimp only
  split
  case h_1 created => rw [created]; exact fresh
  case h_2 c created =>
    rw [created, fileCodec]
    split
    · simp [filed, mapInsert_of_none c absentDisabled, absent]
    · split <;> simp [filed, mapInsert_of_none c absent, absentDisabled]

/-- Over the loop, an index visited once holds what its turn filed, and any other index
what it held. -/
theorem foldl_initCodec_filed (l : List Int) (nodup : l.Nodup)
    (fresh : ∀ i ∈ l, s.filed i = (none, none)) (j : Int) :
    (l.foldl (initCodec K impl opusEnabled) s).filed j =
      if j ∈ l then fileCodec K (createCodec K impl j (initPriority K opusEnabled s.codecPriorities j))
      else s.filed j := by
  induction l generalizing s with
  | nil => rfl
  | cons i rest ih =>
    obtain ⟨notMem, nodup⟩ := List.nodup_cons.mp nodup
    have freshRest : ∀ k ∈ rest, (s.initCodec K impl opusEnabled i).filed k = (none, none) :=
      fun k member => by
        have other : k ≠ i := fun same => notMem (same ▸ member)
        rw [filed, (initCodec_other K impl other opusEnabled).1,
          (initCodec_other K impl other opusEnabled).2]
        exact fresh k (.tail _ member)
    rw [List.foldl_cons, ih nodup freshRest, initCodec_codecPriorities]
    by_cases later : j ∈ rest
    · rw [if_pos later, if_pos (List.mem_cons_of_mem i later)]
    by_cases now : j = i
    · subst now
      rw [if_neg later, if_pos (List.mem_cons_self j rest), initCodec_filed_self K impl opusEnabled
        (fresh j (.head _))]
    · rw [if_neg later, if_neg (by simp only [List.mem_cons, now, later, or_self, not_false_eq_true]),
        filed, (initCodec_other K impl now opusEnabled).1, (initCodec_other K impl now opusEnabled).2]
      rfl

end

/-- What `init()` files at each index: inside `[BTAV_A2DP_CODEC_INDEX_MIN,
BTAV_A2DP_CODEC_INDEX_MAX)`, the codec created with the priority of the table's first entry
of that type (the default when there is none, disabled for OPUS when OPUS is off), as
disabled when its priority is disabled and as enabled otherwise, and nothing when it cannot
be created; nothing outside. -/
theorem init_filed (K : A2dpConstants) (impl : A2dpCodecImpl) (codecPriorities : List BtavA2dpCodecConfig)
    (opusEnabled : Bool) (i : Int) :
    ((A2dpCodecs.new codecPriorities).init K impl opusEnabled).1.filed i =
      if K.indexMin ≤ i ∧ i < K.indexMax then
        fileCodec K (createCodec K impl i (initPriority K opusEnabled (tablePriority codecPriorities) i))
      else (none, none) := by
  have run := foldl_initCodec_filed K impl opusEnabled (s := A2dpCodecs.new codecPriorities) _
    (codecIndices_nodup K) (fun _ _ => rfl) i
  simp only [new_codecPriorities, mem_codecIndices] at run
  exact run

end A2dpCodec
