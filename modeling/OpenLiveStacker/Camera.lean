import Mathlib.Algebra.Group.Int
import Mathlib.Algebra.Group.Nat.Basic
import Mathlib.Data.List.Basic

/-!
# The camera data model

The types that `camera.cpp`, `video_generator.cpp` and `stacker_ctl_app.h` share, declared in
`camera.h` (not part of the sources): the stream formats and Bayer patterns a camera reports, the
option identifiers, a stream format descriptor, the byte buffer of a frame, and `CamError`, the
single domain error of the camera layer.

* `CamStreamType`, `CamBayerType`, `CamOptionId`, `CamOptionType`;
* `CamStreamFormat`, `VideoFrame`, `CamError`;
* `BitVec 32` stands for a C `int`: two's complement, and products wrap as the target computes
  them.

Calls that may throw return an `EStateM.Result`, which keeps the state reached at the throw, as
the C++ objects do.
-/

namespace OpenLiveStacker

instance instDecidableEqResult {ε σ α : Type} [DecidableEq ε] [DecidableEq σ] [DecidableEq α] :
    DecidableEq (EStateM.Result ε σ α)
  | .ok a s, .ok b t => decidable_of_iff (a = b ∧ s = t) (by simp)
  | .error e s, .error e' t => decidable_of_iff (e = e' ∧ s = t) (by simp)
  | .ok _ _, .error _ _ | .error _ _, .ok _ _ => isFalse nofun

instance instDecidableEqExcept {ε α : Type} [DecidableEq ε] [DecidableEq α] :
    DecidableEq (Except ε α)
  | .ok a, .ok b => decidable_of_iff (a = b) (by simp)
  | .error e, .error e' => decidable_of_iff (e = e') (by simp)
  | .ok _, .error _ | .error _, .ok _ => isFalse nofun

/-- The state a call leaves, whether it returned or threw. -/
def resultState {ε σ α : Type} : EStateM.Result ε σ α → σ
  | .ok _ s => s
  | .error _ s => s

/-- Modelled from the spec: the stream tags of `camera.h` (§3, §6), with the error tag that
`process_frame` names. -/
inductive CamStreamType
  | streamYuv2
  | streamMjpeg
  | streamRgb24
  | streamRgb48
  | streamRaw8
  | streamRaw16
  | streamMono8
  | streamMono16
  | streamError
  deriving DecidableEq, Repr

/-- Modelled from the spec: the Bayer tags of `camera.h`. -/
inductive CamBayerType
  | bayerNa
  | bayerRg
  | bayerGr
  | bayerBg
  | bayerGb
  deriving DecidableEq, Repr

/-- Modelled from the spec: the sixteen option identifiers of `camera.h`, in the order of
`option_string_ids`. -/
inductive CamOptionId
  | optAutoExp
  | optAutoWb
  | optExp
  | optWb
  | optWbR
  | optWbB
  | optGain
  | optGamma
  | optBrightness
  | optContrast
  | optTemperature
  | optCoolerTarget
  | optCoolerOn
  | optFanOn
  | optCoolerPower
  | optLiveStretch
  deriving DecidableEq, Repr

/-- Modelled from the spec: the value types of a camera option in `camera.h` (§6), in the order
of `cam_option_type_names`. -/
inductive CamOptionType
  | typeBool
  | typeNumber
  | typeMsec
  | typePercent
  | typeKelvin
  | typeCelsius
  deriving DecidableEq, Repr

/-- A stream format descriptor: the format tag, the frame size and the binning factor. -/
structure CamStreamFormat where
  format : CamStreamType
  width : BitVec 32
  height : BitVec 32
  bin : BitVec 32
  deriving DecidableEq, Repr

/-- A `VideoFrame`: a byte buffer, `data()` and `size()`. -/
structure VideoFrame where
  data : List UInt8
  deriving DecidableEq, Repr

/-- `VideoFrame::size()`. -/
def VideoFrame.size (v : VideoFrame) : Nat := v.data.length

/-- `CamError`: a `std::runtime_error` with its message. -/
structure CamError where
  msg : String
  deriving DecidableEq, Repr

/-- `is_mono_stream` (declared in `util.h`): the single-channel formats without a Bayer
pattern. -/
def isMonoStream : CamStreamType → Bool
  | .streamMono8 | .streamMono16 => true
  | _ => false

/-! ### `int` values -/

theorem toInt_nonneg_iff (x : BitVec 32) : 0 ≤ x.toInt ↔ x.toNat < 2 ^ 31 := by
  rw [BitVec.toInt_eq_toNat_cond]; split <;> omega

theorem toInt_of_nonneg {x : BitVec 32} (h : 0 ≤ x.toInt) : x.toInt = x.toNat := by
  rw [BitVec.toInt_eq_toNat_cond] at h ⊢; split <;> omega

/-- A non-negative `int` converts to `size_t` unchanged. -/
theorem signExtend_toNat {x : BitVec 32} (h : 0 ≤ x.toInt) : (x.signExtend 64).toNat = x.toNat := by
  have hm : x.msb = false := by
    rw [BitVec.msb_eq_false_iff_two_mul_lt]; have := (toInt_nonneg_iff x).1 h; omega
  rw [BitVec.signExtend_eq_not_setWidth_not_of_msb_false hm, BitVec.toNat_setWidth]
  exact Nat.mod_eq_of_lt (by have := x.isLt; omega)

end OpenLiveStacker
