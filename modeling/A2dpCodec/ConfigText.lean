import A2dpCodec.Descriptor
import Mathlib.Data.String.Basic

/-! # The text of a configuration

`A2dpCodecConfig::codecConfig2Str` prints a snapshot for the debug dump with three printers
of one shape: each tests the flags of a format mask in a fixed order and appends the name of
every flag that is set, separated by `|`. The text of a mask with a known flag splits at `|`
back into exactly those names, in order. -/

namespace A2dpCodec

/-- The bits of the format masks of `bt_av.h`, which the source uses by name. -/
structure A2dpFormatFlags where
  sampleRate44100 : Nat
  sampleRate48000 : Nat
  sampleRate88200 : Nat
  sampleRate96000 : Nat
  sampleRate176400 : Nat
  sampleRate192000 : Nat
  bitsPerSample16 : Nat
  bitsPerSample24 : Nat
  bitsPerSample32 : Nat
  channelModeMono : Nat
  channelModeStereo : Nat

/-- One choice of the flags, each its own bit, for the examples. -/
def sampleFormatFlags : A2dpFormatFlags where
  sampleRate44100 := 0x01
  sampleRate48000 := 0x02
  sampleRate88200 := 0x04
  sampleRate96000 := 0x08
  sampleRate176400 := 0x10
  sampleRate192000 := 0x20
  bitsPerSample16 := 0x01
  bitsPerSample24 := 0x02
  bitsPerSample32 := 0x04
  channelModeMono := 0x01
  channelModeStereo := 0x02

/-- One `if` of a printer: a flag set in `value` appends its name, after a `|` unless the
text is still empty. -/
def appendFlag (value : Nat) (result : String) (flag : Nat × String) : String :=
  if value &&& flag.1 ≠ 0 then (if !result.isEmpty then result ++ "|" else result) ++ flag.2
  else result

/-- The shape the three printers share: the flags in order, then, when none was set,
`Unknown<what>(0x<value in hex>)` read back through the `stringstream`. -/
def flags2Str (flags : List (Nat × String)) (what : String) (value : Nat) : String :=
  let result := flags.foldl (appendFlag value) ""
  if result.isEmpty then "Unknown" ++ what ++ "(0x" ++ String.mk (Nat.toDigits 16 value) ++ ")"
  else result

/-- The names of the flags set in `value`, in order. -/
def setNames (value : Nat) (flags : List (Nat × String)) : List String :=
  (flags.filter fun flag => value &&& flag.1 ≠ 0).map (·.2)

/-- The flags `codecSampleRate2Str` tests, in its order. -/
def sampleRateFlags (F : A2dpFormatFlags) : List (Nat × String) :=
  [(F.sampleRate44100, "44100"), (F.sampleRate48000, "48000"), (F.sampleRate88200, "88200"),
    (F.sampleRate96000, "96000"), (F.sampleRate176400, "176400"), (F.sampleRate192000, "192000")]

/-- The flags `codecBitsPerSample2Str` tests, in its order. -/
def bitsPerSampleFlags (F : A2dpFormatFlags) : List (Nat × String) :=
  [(F.bitsPerSample16, "16"), (F.bitsPerSample24, "24"), (F.bitsPerSample32, "32")]

/-- The flags `codecChannelMode2Str` tests, in its order. -/
def channelModeFlags (F : A2dpFormatFlags) : List (Nat × String) :=
  [(F.channelModeMono, "MONO"), (F.channelModeStereo, "STEREO")]

/-- `A2dpCodecConfig::codecSampleRate2Str`. -/
def codecSampleRate2Str (F : A2dpFormatFlags) (codecSampleRate : Nat) : String :=
  flags2Str (sampleRateFlags F) "SampleRate" codecSampleRate

/-- `A2dpCodecConfig::codecBitsPerSample2Str`. -/
def codecBitsPerSample2Str (F : A2dpFormatFlags) (codecBitsPerSample : Nat) : String :=
  flags2Str (bitsPerSampleFlags F) "BitsPerSample" codecBitsPerSample

/-- `A2dpCodecConfig::codecChannelMode2Str`. -/
def codecChannelMode2Str (F : A2dpFormatFlags) (codecChannelMode : Nat) : String :=
  flags2Str (channelModeFlags F) "ChannelMode" codecChannelMode

/-- `A2dpCodecConfig::codecConfig2Str`. -/
def codecConfig2Str (K : A2dpConstants) (F : A2dpFormatFlags) (codecConfig : BtavA2dpCodecConfig) :
    String :=
  if !codecConfigIsValid K codecConfig then "Invalid"
  else "Rate=" ++ codecSampleRate2Str F codecConfig.sampleRate ++ " Bits=" ++
    codecBitsPerSample2Str F codecConfig.bitsPerSample ++ " Mode=" ++
    codecChannelMode2Str F codecConfig.channelMode

/-- `A2dpCodecConfig::getAudioBitsPerSample`: the `switch` on the bits of the current
config, 0 for any value other than the three sizes. -/
def getAudioBitsPerSample (F : A2dpFormatFlags) (c : A2dpCodecConfig) : UInt8 :=
  if c.codecConfig.bitsPerSample = F.bitsPerSample16 then 16
  else if c.codecConfig.bitsPerSample = F.bitsPerSample24 then 24
  else if c.codecConfig.bitsPerSample = F.bitsPerSample32 then 32
  else 0

theorem isEmpty_eq_true_iff {s : String} : s.isEmpty = true ↔ s.data = [] :=
  (String.isEmpty_iff s).trans ⟨fun empty => empty ▸ rfl, fun empty => String.ext empty⟩

theorem intercalate_cons {α : Type} (sep : α) (a : List α) (l : List (List α)) :
    [sep].intercalate (a :: l) = a ++ (l.map (sep :: ·)).flatten := by
  induction l generalizing a with
  | nil => simp [List.intercalate]
  | cons b l ih =>
    simp only [List.intercalate, List.intersperse_cons_cons, List.flatten_cons] at ih ⊢
    rw [ih, List.map_cons, List.flatten_cons, List.singleton_append, List.cons_append]

theorem setNames_cons (value : Nat) (flag : Nat × String) (flags : List (Nat × String)) :
    setNames value (flag :: flags) =
      if value &&& flag.1 ≠ 0 then flag.2 :: setNames value flags else setNames value flags := by
  by_cases set : value &&& flag.1 ≠ 0 <;> simp [setNames, List.filter_cons, set]

theorem foldl_appendFlag_data (value : Nat) {flags : List (Nat × String)}
    (named : ∀ flag ∈ flags, flag.2 ≠ "") (result : String) :
    (flags.foldl (appendFlag value) result).data =
      if result.data = [] then ['|'].intercalate ((setNames value flags).map String.data)
      else ['|'].intercalate (result.data :: (setNames value flags).map String.data) := by
  induction flags generalizing result with
  | nil => by_cases empty : result.data = [] <;> simp [setNames, empty, List.intercalate]
  | cons flag flags ih =>
    have rest := ih fun f member => named f (.tail _ member)
    have nonempty : flag.2.data ≠ [] := fun empty => named flag (.head _) (String.ext empty)
    rw [List.foldl_cons, appendFlag, setNames_cons]
    by_cases set : value &&& flag.1 ≠ 0
    case neg => rw [if_neg set, if_neg set, rest]
    rw [if_pos set, if_pos set, rest, List.map_cons]
    by_cases empty : result.data = []
    · have isEmpty : result.isEmpty = true := isEmpty_eq_true_iff.mpr empty
      simp only [isEmpty, Bool.not_true, Bool.false_eq_true, if_false, String.data_append, empty,
        List.nil_append, nonempty, if_true]
    · have notEmpty : result.isEmpty = false := Bool.eq_false_iff.mpr (mt isEmpty_eq_true_iff.mp empty)
      simp only [notEmpty, Bool.not_false, if_true, String.data_append, empty, if_false,
        List.append_eq_nil, nonempty, and_false, intercalate_cons, List.map_cons, List.flatten_cons,
        List.append_assoc]
      rfl

/-- A printer names exactly the flags set in the value, in the order it tests them: with
names that are nonempty and have no `|`, its text splits at `|` into those names; and it
prints the unknown text, with the value in hex, exactly when no flag is set. -/
theorem flags2Str_spec {flags : List (Nat × String)} (what : String) (value : Nat)
    (named : ∀ flag ∈ flags, flag.2 ≠ "" ∧ '|' ∉ flag.2.data) :
    (setNames value flags = [] →
      flags2Str flags what value = "Unknown" ++ what ++ "(0x" ++ String.mk (Nat.toDigits 16 value) ++ ")") ∧
    (setNames value flags ≠ [] →
      (flags2Str flags what value).data.splitOn '|' = (setNames value flags).map String.data) := by
  have text := foldl_appendFlag_data value (fun flag member => (named flag member).1) ""
  rw [if_pos rfl] at text
  have names : ∀ n ∈ (setNames value flags).map String.data, n ≠ [] ∧ '|' ∉ n := by
    simp only [setNames, List.map_map, List.mem_map, List.mem_filter]
    rintro _ ⟨flag, ⟨member, -⟩, rfl⟩
    exact ⟨fun empty => (named flag member).1 (String.ext empty), (named flag member).2⟩
  constructor
  · intro none
    rw [none, List.map_nil] at text
    rw [flags2Str, if_pos (isEmpty_eq_true_iff.mpr text)]
  · intro some
    have printed : ['|'].intercalate ((setNames value flags).map String.data) ≠ [] := by
      cases listed : (setNames value flags).map String.data with
      | nil => exact absurd (List.map_eq_nil_iff.mp listed) some
      | cons n ns =>
        rw [intercalate_cons]
        exact fun empty => (names n (listed ▸ .head _)).1 (List.append_eq_nil.mp empty).1
    rw [flags2Str, if_neg (mt isEmpty_eq_true_iff.mp (text ▸ printed)), text]
    exact List.splitOn_intercalate _ '|' (fun n member => (names n member).2)
      (mt List.map_eq_nil_iff.mp some)

theorem flags2Str_spec_sampleRate :
    (∀ flag ∈ sampleRateFlags sampleFormatFlags, flag.2 ≠ "" ∧ '|' ∉ flag.2.data) ∧
      (setNames 0x21 (sampleRateFlags sampleFormatFlags) = [] →
        flags2Str (sampleRateFlags sampleFormatFlags) "SampleRate" 0x21 =
          "Unknown" ++ "SampleRate" ++ "(0x" ++ String.mk (Nat.toDigits 16 0x21) ++ ")") ∧
      (setNames 0x21 (sampleRateFlags sampleFormatFlags) ≠ [] →
        (flags2Str (sampleRateFlags sampleFormatFlags) "SampleRate" 0x21).data.splitOn '|' =
          (setNames 0x21 (sampleRateFlags sampleFormatFlags)).map String.data) :=
  have named : ∀ flag ∈ sampleRateFlags sampleFormatFlags, flag.2 ≠ "" ∧ '|' ∉ flag.2.data := by decide
  ⟨named, flags2Str_spec "SampleRate" 0x21 named⟩

example : codecSampleRate2Str sampleFormatFlags 0x21 = "44100|192000" := by decide

example : codecChannelMode2Str sampleFormatFlags 0x04 = "UnknownChannelMode(0x4)" := by decide

example : codecConfig2Str sampleConstants sampleFormatFlags
    { (default : BtavA2dpCodecConfig) with sampleRate := 0x01, bitsPerSample := 0x01, channelMode := 0x02 } =
    "Rate=44100 Bits=16 Mode=STEREO" := by decide

end A2dpCodec
