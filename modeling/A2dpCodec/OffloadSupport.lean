import A2dpCodec.CodecConfig
import Mathlib.Data.List.Nodup

/-! # The offload settings `init()` reads

Before it builds the registry, `A2dpCodecs::init` reads three system properties into two
globals. A2DP offload is on when `ro.bluetooth.a2dp_offload.supported` is `true` and
`persist.bluetooth.a2dp_offload.disabled` is `false`; then each `-`-separated token of
`persist.bluetooth.a2dp_offload.cap` that names a codec stores that codec's entry of
`offload_codec_support`: true for the five standard codecs, false for the three LHDC ones. -/

namespace A2dpCodec

/-- `osi_property_get(key, value, default_value)` over a property store. Like
`property_get`, it returns the stored value only when it is nonempty, and the default when the
property is unset or set to the empty string. -/
def osiPropertyGet (properties : String → Option String) (key defaultValue : String) : String :=
  match properties key with
  | some value => if value = "" then defaultValue else value
  | none => defaultValue

theorem osiPropertyGet_eq_iff {properties : String → Option String} {key defaultValue value : String}
    (nonempty : value ≠ "") :
    osiPropertyGet properties key defaultValue = value ↔
      properties key = some value ∨ (properties key = none ∨ properties key = some "") ∧ defaultValue = value := by
  unfold osiPropertyGet
  cases properties key with
  | none => simp
  | some stored => by_cases empty : stored = "" <;> simp [empty, Ne.symm nonempty]

/-- The scan of `strtok_r` with the delimiter `-`: `tok` is the token being read; a
delimiter ends a nonempty token and is skipped otherwise. -/
def strtokRuns : List Char → List Char → List (List Char)
  | tok, [] => if tok = [] then [] else [tok]
  | tok, c :: cs =>
    if c = '-' then (if tok = [] then strtokRuns [] cs else tok :: strtokRuns [] cs)
    else strtokRuns (tok ++ [c]) cs

/-- `strtok_r(value, "-", ...)` called until it returns null: the maximal runs of
characters other than `-`, in order. -/
def strtokTokens (value : String) : List String :=
  (strtokRuns [] value.data).map String.mk

theorem strtokRuns_wellFormed {tok cs : List Char} (noDash : '-' ∉ tok) :
    ∀ t ∈ strtokRuns tok cs, t ≠ [] ∧ '-' ∉ t := by
  induction tok, cs using strtokRuns.induct with
  | case1 => nofun
  | case2 tok nonempty =>
    rw [strtokRuns, if_neg nonempty]
    rintro t (_ | ⟨_, ⟨⟩⟩)
    exact ⟨nonempty, noDash⟩
  | case3 cs ih => rw [strtokRuns, if_pos rfl, if_pos rfl]; exact ih noDash
  | case4 tok cs nonempty ih =>
    rw [strtokRuns, if_pos rfl, if_neg nonempty]
    rintro t (_ | ⟨_, later⟩)
    · exact ⟨nonempty, noDash⟩
    · exact ih (List.not_mem_nil _) t later
  | case5 tok c cs notDash ih =>
    rw [strtokRuns, if_neg notDash]
    refine ih ?_
    simp only [List.mem_append, noDash, List.mem_singleton, false_or]
    exact Ne.symm notDash

theorem strtokRuns_flatten (tok cs : List Char) :
    (strtokRuns tok cs).flatten = tok ++ cs.filter (· ≠ '-') := by
  induction tok, cs using strtokRuns.induct with
  | case1 => rfl
  | case2 tok nonempty => simp [strtokRuns, nonempty]
  | case3 cs ih => simp [strtokRuns, ih]
  | case4 tok cs nonempty ih => simp [strtokRuns, nonempty, ih]
  | case5 tok c cs notDash ih => simp [strtokRuns, notDash, ih]

/-- What `strtok_r` returns is well formed and loses nothing: every token is a nonempty
string with no `-`, and the tokens in order spell the value without its dashes. -/
theorem strtokTokens_spec (value : String) :
    (∀ t ∈ strtokTokens value, t ≠ "" ∧ '-' ∉ t.data) ∧
      ((strtokTokens value).map String.data).flatten = value.data.filter (· ≠ '-') := by
  constructor
  · intro t member
    obtain ⟨run, scanned, rfl⟩ := List.mem_map.mp member
    obtain ⟨nonempty, noDash⟩ := strtokRuns_wellFormed (List.not_mem_nil _) run scanned
    exact ⟨fun empty => nonempty (congrArg String.data empty), noDash⟩
  · rw [strtokTokens, List.map_map]
    exact (congrArg List.flatten (List.map_id' _)).trans (strtokRuns_flatten [] _)

example : strtokTokens "-sbc--aac-" = ["sbc", "aac"] := by decide

/-- The globals `init()` sets from the properties. -/
structure OffloadGlobals where
  a2dpOffloadStatus : Bool
  offloadCodecSupport : Int → Bool

/-- A `strcmp` chain over keyed entries: the first entry whose token is `tok` stores its
value at its index; a token no entry has changes nothing. -/
def markToken (entries : List (String × Int × Bool)) (support : Int → Bool) (tok : String) :
    Int → Bool :=
  match entries.find? (·.1 = tok) with
  | some (_, i, v) => Function.update support i v
  | none => support

/-- The tokens `init()` compares a capability token with, in its order, each with the index
whose entry it stores and the value it stores there. -/
def offloadCapTokens (K : A2dpConstants) : List (String × Int × Bool) :=
  [("sbc", K.sourceSbc, true), ("aac", K.sourceAac, true), ("aptx", K.sourceAptx, true),
    ("aptxhd", K.sourceAptxHd, true), ("ldac", K.sourceLdac, true),
    ("lhdcv2", K.sourceLhdcv2, false), ("lhdcv3", K.sourceLhdcv3, false),
    ("lhdcv5", K.sourceLhdcv5, false)]

/-- One pass of the `strtok_r` loop of `init()`. -/
def markOffloadToken (K : A2dpConstants) (support : Int → Bool) (tok : String) : Int → Bool :=
  markToken (offloadCapTokens K) support tok

/-- `a2dp_offload_status`: offload supported and not disabled. -/
def offloadEnabled (properties : String → Option String) : Bool :=
  osiPropertyGet properties "ro.bluetooth.a2dp_offload.supported" "false" == "true" &&
    osiPropertyGet properties "persist.bluetooth.a2dp_offload.disabled" "false" == "false"

/-- Offload is on exactly when the supported property is `true` and the disabled property is
`false`, unset or empty. -/
theorem offloadEnabled_iff (properties : String → Option String) :
    offloadEnabled properties = true ↔
      properties "ro.bluetooth.a2dp_offload.supported" = some "true" ∧
        (properties "persist.bluetooth.a2dp_offload.disabled" = some "false" ∨
          properties "persist.bluetooth.a2dp_offload.disabled" = none ∨
          properties "persist.bluetooth.a2dp_offload.disabled" = some "") := by
  rw [offloadEnabled, Bool.and_eq_true, beq_iff_eq, beq_iff_eq, osiPropertyGet_eq_iff (by decide),
    osiPropertyGet_eq_iff (by decide)]
  simp only [show ("false" : String) ≠ "true" by decide, and_false, or_false, and_true]

example : offloadEnabled (fun key => if key = "ro.bluetooth.a2dp_offload.supported" then some "true"
    else if key = "persist.bluetooth.a2dp_offload.disabled" then some "" else none) = true := by
  decide

/-- The tokens of `persist.bluetooth.a2dp_offload.cap`. -/
def offloadCapabilityTokens (properties : String → Option String) : List String :=
  strtokTokens (osiPropertyGet properties "persist.bluetooth.a2dp_offload.cap" "")

/-- The property reads at the start of `A2dpCodecs::init`; the OPUS property is the
`opusEnabled` parameter of `init`. -/
def initOffloadSettings (K : A2dpConstants) (properties : String → Option String)
    (g : OffloadGlobals) : OffloadGlobals :=
  let a2dpOffloadStatus := offloadEnabled properties
  if a2dpOffloadStatus then
    { a2dpOffloadStatus
      offloadCodecSupport :=
        (offloadCapabilityTokens properties).foldl (markOffloadToken K) g.offloadCodecSupport }
  else { g with a2dpOffloadStatus }

theorem offloadCapTokens_names_nodup (K : A2dpConstants) : ((offloadCapTokens K).map (·.1)).Nodup :=
  show ["sbc", "aac", "aptx", "aptxhd", "ldac", "lhdcv2", "lhdcv3", "lhdcv5"].Nodup by decide

section
variable {entries : List (String × Int × Bool)} (names : (entries.map (·.1)).Nodup)
  (indices : (entries.map (·.2.1)).Nodup)

theorem markToken_of_found {support : Int → Bool} {tok t : String} {i : Int} {v : Bool}
    (found : entries.find? (·.1 = tok) = some (t, i, v)) :
    markToken entries support tok = Function.update support i v := by
  simp only [markToken, found]

theorem markToken_of_none {support : Int → Bool} {tok : String}
    (none : entries.find? (·.1 = tok) = none) : markToken entries support tok = support := by
  simp only [markToken, none]

theorem find?_token {tok : String} {e : String × Int × Bool}
    (found : entries.find? (·.1 = tok) = some e) : e ∈ entries ∧ e.1 = tok := by
  have holds := List.find?_some found
  exact ⟨List.mem_of_find?_eq_some found, by simpa only [decide_eq_true_eq] using holds⟩

include names indices in
theorem markToken_entry (support : Int → Bool) (tok : String) {e : String × Int × Bool}
    (member : e ∈ entries) :
    markToken entries support tok e.2.1 = if e.1 = tok then e.2.2 else support e.2.1 := by
  cases found : entries.find? (·.1 = tok) with
  | some f =>
    obtain ⟨t, i, v⟩ := f
    obtain ⟨found', rfl⟩ := find?_token found
    rw [markToken_of_found found]
    by_cases same : e.1 = t
    case pos =>
      obtain rfl := List.inj_on_of_nodup_map names member found' same
      rw [if_pos rfl, Function.update_same]
    case neg =>
      have other : e.2.1 ≠ i := fun index =>
        same (congrArg (·.1) (List.inj_on_of_nodup_map indices member found' index))
      rw [if_neg same, Function.update_noteq other]
  | none =>
    have absent := List.find?_eq_none.mp found e member
    rw [markToken_of_none found, if_neg fun same => absent (decide_eq_true same)]

theorem markToken_other (support : Int → Bool) (tok : String) {i : Int}
    (absent : i ∉ entries.map (·.2.1)) : markToken entries support tok i = support i := by
  cases found : entries.find? (·.1 = tok) with
  | some f =>
    obtain ⟨t, j, v⟩ := f
    have present : j ∈ entries.map (·.2.1) := List.mem_map_of_mem _ (find?_token found).1
    rw [markToken_of_found found, Function.update_noteq fun (same : i = j) => absent (same ▸ present)]
  | none => rw [markToken_of_none found]

include names indices in
/-- Over the whole loop, an entry's index holds its value once its token has come, and what
it held before otherwise. -/
theorem foldl_markToken_entry (toks : List String) (support : Int → Bool)
    {e : String × Int × Bool} (member : e ∈ entries) :
    toks.foldl (markToken entries) support e.2.1 = if e.1 ∈ toks then e.2.2 else support e.2.1 := by
  induction toks generalizing support with
  | nil => exact (if_neg (List.not_mem_nil _)).symm
  | cons t ts ih =>
    rw [List.foldl_cons, ih, markToken_entry names indices _ _ member]
    by_cases later : e.1 ∈ ts
    · rw [if_pos later, if_pos (List.mem_cons_of_mem t later)]
    · by_cases now : e.1 = t
      · rw [if_neg later, if_pos now, if_pos (now ▸ List.mem_cons_self _ _)]
      · rw [if_neg later, if_neg now, if_neg (by simp only [List.mem_cons, now, later, or_self,
          not_false_eq_true])]

theorem foldl_markToken_other (toks : List String) (support : Int → Bool) {i : Int}
    (absent : i ∉ entries.map (·.2.1)) : toks.foldl (markToken entries) support i = support i := by
  induction toks generalizing support with
  | nil => rfl
  | cons t ts ih => rw [List.foldl_cons, ih, markToken_other _ _ absent]

end

/-- What `init()` leaves in the offload globals. Offload is on exactly when the supported
property is `true` and the disabled property is `false`, unset or empty. While it is on, the
entry of each codec with a token holds that token's value if the capability property names it,
and what it held before otherwise; every other entry, and every entry while offload is off,
keeps its value. -/
theorem initOffloadSettings_spec {K : A2dpConstants} (indices : ((offloadCapTokens K).map (·.2.1)).Nodup)
    (properties : String → Option String) (g : OffloadGlobals) :
    ((initOffloadSettings K properties g).a2dpOffloadStatus = true ↔
        properties "ro.bluetooth.a2dp_offload.supported" = some "true" ∧
          (properties "persist.bluetooth.a2dp_offload.disabled" = some "false" ∨
            properties "persist.bluetooth.a2dp_offload.disabled" = none ∨
            properties "persist.bluetooth.a2dp_offload.disabled" = some "")) ∧
      (∀ e ∈ offloadCapTokens K, (initOffloadSettings K properties g).offloadCodecSupport e.2.1 =
        if offloadEnabled properties = true ∧ e.1 ∈ offloadCapabilityTokens properties then e.2.2
        else g.offloadCodecSupport e.2.1) ∧
      ∀ i ∉ (offloadCapTokens K).map (·.2.1),
        (initOffloadSettings K properties g).offloadCodecSupport i = g.offloadCodecSupport i := by
  have status : (initOffloadSettings K properties g).a2dpOffloadStatus = offloadEnabled properties := by
    unfold initOffloadSettings
    dsimp only
    split <;> rfl
  refine ⟨status ▸ offloadEnabled_iff properties, ?_⟩
  unfold initOffloadSettings
  by_cases enabled : offloadEnabled properties = true
  case pos =>
    simp only [enabled, if_true, true_and]
    exact ⟨fun e member => foldl_markToken_entry (offloadCapTokens_names_nodup K) indices _ _ member,
      fun i absent => foldl_markToken_other _ _ absent⟩
  case neg =>
    simp only [enabled, Bool.false_eq_true, if_false, false_and, implies_true, and_self]

/-- A property store with offload supported, the disabled property set to the empty string,
and the capability `sbc-aac-lhdcv3`. -/
def sampleOffloadProperties (key : String) : Option String :=
  if key = "ro.bluetooth.a2dp_offload.supported" then some "true"
  else if key = "persist.bluetooth.a2dp_offload.disabled" then some ""
  else if key = "persist.bluetooth.a2dp_offload.cap" then some "sbc-aac-lhdcv3"
  else none

theorem initOffloadSettings_spec_sample :
    ((offloadCapTokens sampleConstants).map (·.2.1)).Nodup ∧
      ((initOffloadSettings sampleConstants sampleOffloadProperties ⟨false, fun _ => false⟩).a2dpOffloadStatus =
          true ↔
        sampleOffloadProperties "ro.bluetooth.a2dp_offload.supported" = some "true" ∧
          (sampleOffloadProperties "persist.bluetooth.a2dp_offload.disabled" = some "false" ∨
            sampleOffloadProperties "persist.bluetooth.a2dp_offload.disabled" = none ∨
            sampleOffloadProperties "persist.bluetooth.a2dp_offload.disabled" = some "")) ∧
      (∀ e ∈ offloadCapTokens sampleConstants,
        (initOffloadSettings sampleConstants sampleOffloadProperties ⟨false, fun _ => false⟩).offloadCodecSupport
          e.2.1 =
        if offloadEnabled sampleOffloadProperties = true ∧ e.1 ∈ offloadCapabilityTokens sampleOffloadProperties
        then e.2.2 else false) ∧
      ∀ i ∉ (offloadCapTokens sampleConstants).map (·.2.1),
        (initOffloadSettings sampleConstants sampleOffloadProperties ⟨false, fun _ => false⟩).offloadCodecSupport
          i = false :=
  ⟨by decide, initOffloadSettings_spec (by decide) _ _⟩

example : (initOffloadSettings sampleConstants sampleOffloadProperties ⟨false, fun _ => false⟩).offloadCodecSupport
    sampleConstants.sourceAac = true := by decide

end A2dpCodec
