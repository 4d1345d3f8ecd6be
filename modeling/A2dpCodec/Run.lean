import A2dpCodec.Registry

/-! Sessions of the registry: the operations a caller issues after `init()`, one step
of each, runs of steps, and the states a session can reach. -/

namespace A2dpCodec

/-- The registry operations that change its state, with their arguments. The
encoder-init peer parameters are left out: no modelled function reads them. -/
inductive Op
  | setCodecUserConfig (codecUserConfig : BtavA2dpCodecConfig) (peerSinkCapabilities : CodecInfo)
  | setCodecAudioConfig (codecAudioConfig : BtavA2dpCodecConfig) (peerSinkCapabilities : CodecInfo)
  | setCodecOtaConfig (otaCodecConfig : CodecInfo)
  | setCodecConfig (peerCodecInfo : CodecInfo) (isCapability selectCurrentCodec : Bool)
  | setSinkCodecConfig (peerCodecInfo : CodecInfo) (isCapability selectCurrentCodec : Bool)
  | setPeerSinkCodecCapabilities (peerCodecCapabilities : CodecInfo)
  | setPeerSourceCodecCapabilities (peerCodecCapabilities : CodecInfo)

/-- The operations a peer drives while a user configuration may be in force. -/
def Op.isPeerDriven : Op → Bool
  | .setCodecAudioConfig .. => true
  | .setCodecOtaConfig .. => true
  | _ => false

namespace A2dpCodecs

section
variable (K : A2dpConstants) (impl : A2dpCodecImpl)

/-- One operation: the registry after it and what it returned. -/
def step (s : A2dpCodecs) : Op → A2dpCodecs × ConfigOutcome
  | .setCodecUserConfig u caps => s.setCodecUserConfig K impl u caps
  | .setCodecAudioConfig a caps => s.setCodecAudioConfig K impl a caps
  | .setCodecOtaConfig ota => s.setCodecOtaConfig K impl ota
  | .setCodecConfig info isCapability select => s.setCodecConfig K impl info isCapability select
  | .setSinkCodecConfig info isCapability select => s.setSinkCodecConfig K impl info isCapability select
  | .setPeerSinkCodecCapabilities info =>
    let r := s.setPeerSinkCodecCapabilities K impl info
    (r.1, ⟨r.2, none, false, false, false⟩)
  | .setPeerSourceCodecCapabilities info =>
    let r := s.setPeerSourceCodecCapabilities K impl info
    (r.1, ⟨r.2, none, false, false, false⟩)

/-- A run of operations: the registry at the end and each operation's outcome. -/
def run (s : A2dpCodecs) : List Op → A2dpCodecs × List ConfigOutcome
  | [] => (s, [])
  | op :: ops =>
    let r := s.step K impl op
    let rest := r.1.run ops
    (rest.1, r.2 :: rest.2)

@[simp] theorem run_nil (s : A2dpCodecs) : s.run K impl [] = (s, []) := rfl

@[simp] theorem run_cons (s : A2dpCodecs) (op : Op) (ops : List Op) :
    s.run K impl (op :: ops) =
      (((s.step K impl op).1.run K impl ops).1,
        (s.step K impl op).2 :: ((s.step K impl op).1.run K impl ops).2) := rfl

end

end A2dpCodecs

/-- The registry states a session reaches: built from any priority table, initialised
under either OPUS setting, then driven by any operations with any arguments. -/
inductive Reachable (K : A2dpConstants) (impl : A2dpCodecImpl) : A2dpCodecs → Prop
  | init (codecPriorities : List BtavA2dpCodecConfig) (opusEnabled : Bool) :
      Reachable K impl ((A2dpCodecs.new codecPriorities).init K impl opusEnabled).1
  | step {s : A2dpCodecs} (op : Op) :
      Reachable K impl s → Reachable K impl (s.step K impl op).1

/-- The session the examples run: the sample constants, the granting codec set, no priority
overrides, OPUS enabled. -/
def sampleSession : A2dpCodecs :=
  ((A2dpCodecs.new []).init sampleConstants (grantingImpl sampleConstants) true).1

theorem Reachable.run {K : A2dpConstants} {impl : A2dpCodecImpl} {s : A2dpCodecs}
    (reach : Reachable K impl s) (ops : List Op) : Reachable K impl (s.run K impl ops).1 := by
  induction ops generalizing s with
  | nil => exact reach
  | cons op ops ih => exact ih (reach.step op)

/-- A session in which the user configured LDAC, which became current. -/
def ldacSession : A2dpCodecs :=
  (sampleSession.run sampleConstants (grantingImpl sampleConstants)
    [.setCodecUserConfig { initBtavA2dpCodecConfig 4 0 with sampleRate := 44100 } [0, 0, 0xFF]]).1

end A2dpCodec
