import OpenLiveStacker.DataItems

/-!
# `VideoGenerator::process_frame`

The frame path of the dispatch stage (`video_generator.cpp`): the size check, the handling of each
stream format, `handle_jpeg_stack`, and the fan-out to the four outputs.

* `VideoGenerator`: each output as the messages pushed to it, and the three session flags;
* `bytesPerPixel`, `sizeMismatch`: the first `switch` and the size check (lines 47–75);
* `handleJpegStack`, `demosaic`, `formatFrame`, `formatPipeline`: lines 22–44 and 76–160;
* `VideoGenerator.fanOut`, `processFrame`: lines 161–167;
* `processFrame_contract`: what every call does, whatever OpenCV computes or throws;
* `processFrame_returns`, `processFrame_reaches_live`: when no OpenCV call throws, a call returns,
  and a frame without the error tag that passes the size check reaches the live output;
* `processFrame_unknown_bayer_bad_jpeg`: a Bayer tag of no known pattern makes `imencode` throw,
  and an MJPEG buffer that does not decode is forwarded with an empty working matrix;
* `formatPipeline_negative_dimensions`: the size check lets negative dimensions through, and
  `sizeMismatch_eq_false`: what it does check.
-/

namespace OpenLiveStacker

/-- The state of a `VideoGenerator`: each output queue as the messages pushed to it, in order
(`plate_solving_out_` may be null), and the session flags. -/
structure VideoGenerator where
  stackOut : List Msg
  liveOut : List Msg
  debugOut : List Msg
  plateSolvingOut : Option (List Msg)
  stackingActive : Bool
  stackingInProcess : Bool
  debugActive : Bool

/-- The three session flags: `stacking_active_`, `stacking_in_process_`, `debug_active_`. -/
structure Session where
  active : Bool
  inProcess : Bool
  debug : Bool
  deriving DecidableEq, Repr

namespace VideoGenerator

/-- The session flags of a `VideoGenerator`. -/
def session (vg : VideoGenerator) : Session := ⟨vg.stackingActive, vg.stackingInProcess, vg.debugActive⟩

/-- The constructor: every output empty, a plate-solving output iff `plateSolving`, all flags
false. -/
def init (plateSolving : Bool) : VideoGenerator :=
  ⟨[], [], [], if plateSolving then some [] else none, false, false, false⟩

/-- `stacking_active_ || plate_solving_out_`: a consumer needs full-precision pixels. -/
def needsPixels (vg : VideoGenerator) : Bool := vg.stackingActive || vg.plateSolvingOut.isSome

/-- Lines 161–167: push to the live output; to the stacking output iff stacking is active; to the
debug output iff debug and stacking are active; to the plate-solving output iff there is one and
no stacking session is in process. -/
def fanOut (vg : VideoGenerator) (m : Msg) : VideoGenerator :=
  { vg with
    liveOut := vg.liveOut ++ [m]
    stackOut := if vg.stackingActive then vg.stackOut ++ [m] else vg.stackOut
    debugOut := if vg.debugActive && vg.stackingActive then vg.debugOut ++ [m] else vg.debugOut
    plateSolvingOut := vg.plateSolvingOut.map fun q => if vg.stackingInProcess then q else q ++ [m] }

@[simp] theorem fanOut_session (vg : VideoGenerator) (m : Msg) : (vg.fanOut m).session = vg.session :=
  rfl

@[simp] theorem fanOut_needsPixels (vg : VideoGenerator) (m : Msg) :
    (vg.fanOut m).needsPixels = vg.needsPixels := by
  cases h : vg.plateSolvingOut <;> simp [fanOut, needsPixels, h]

end VideoGenerator

/-! ### The format pipeline -/

/-- The first `switch` of `process_frame`: bytes per pixel, `-1` for MJPEG. `none` is its
`default` ("Got invalid format"), which drops the frame; the error tag takes it. -/
def bytesPerPixel : CamStreamType → Option Int
  | .streamMjpeg => some (-1)
  | .streamMono8 | .streamRaw8 => some 1
  | .streamYuv2 | .streamMono16 | .streamRaw16 => some 2
  | .streamRgb24 => some 3
  | .streamRgb48 => some 6
  | .streamError => none

/-- The size check `bpp>0 && int(source_frame->size()) != height*width*bpp`, in `int`. -/
def sizeMismatch (frame : CameraFrame) (bpp : Int) : Bool :=
  decide (0 < bpp) &&
    BitVec.ofNat 32 frame.sourceFrame.size != frame.format.height * frame.format.width * BitVec.ofInt 32 bpp

/-- Lines 26–33 of `handle_jpeg_stack`: the image itself when its dynamic range is `255` and its
elements are bytes, else the image rescaled by `255.0 / frame_dr` to 8 bits. -/
def normalizeImage (cv : OpenCV) (frameDr : BitVec 32) (image : Mat) : Except CvException Mat :=
  if frameDr = 255 ∧ image.elemSize1 = 1 then .ok image
  else cv.convertTo image (if image.channels = 3 then cv8UC3 else cv8UC1) frameDr

/-- `handle_jpeg_stack(frame, image, copy)`: encode the normalized image as the JPEG rendition,
and keep `image` as the working matrix when `needsPixels`. Copying and referencing give the same
matrix here; who owns the pixels is not modelled. -/
def handleJpegStack (cv : OpenCV) (needsPixels : Bool) (frame : CameraFrame) (image : Mat) :
    Except CvException CameraFrame := do
  let normalized ← normalizeImage cv frame.frameDr image
  let buf ← cv.imencode normalized
  let frame := { frame with jpegFrame := some ⟨buf⟩ }
  return if needsPixels then { frame with frame := image } else frame

/-- The `switch` on the Bayer pattern (lines 127–134). Its `default` logs and leaves `rgb` the
empty matrix. -/
def demosaic (cv : OpenCV) (bayer : CamBayerType) (m : Mat) : Except CvException Mat :=
  match bayer with
  | .bayerRg => cv.cvtColor m .colorBayerBg2Bgr
  | .bayerGr => cv.cvtColor m .colorBayerGb2Bgr
  | .bayerBg => cv.cvtColor m .colorBayerRg2Bgr
  | .bayerGb => cv.cvtColor m .colorBayerGr2Bgr
  | .bayerNa => .ok {}

/-- The second `switch` of `process_frame` (lines 76–160), for a frame of `bpp` bytes per pixel
that passed the size check: the frame to forward, or `none` when it is logged and dropped. The
MJPEG buffer's `cv::Mat` is built outside the `try`; only `imdecode` is inside it. -/
def formatFrame (cv : OpenCV) (needsPixels : Bool) (frame : CameraFrame) (bpp : Int) :
    Except CvException (Option CameraFrame) := do
  match frame.format.format with
  | .streamMjpeg =>
    let frame := { frame with jpegFrame := some frame.sourceFrame }
    if needsPixels then
      let buffer ← cv.matView 1 (BitVec.ofNat 32 frame.sourceFrame.size) cv8UC1 frame.sourceFrame
      match cv.imdecode buffer with
      | .error _ => return none
      | .ok m => return some { frame with frame := m, frameDr := 255, raw := m }
    else return some frame
  | .streamYuv2 =>
    let yuv2 ← cv.matView frame.format.height frame.format.width cv8UC2 frame.sourceFrame
    let rgb ← cv.cvtColor yuv2 .colorYuv2BgrYuyv
    let frame ← handleJpegStack cv needsPixels { frame with frameDr := 255, raw := yuv2 } rgb
    return some frame
  | .streamRgb24 =>
    let rgb ← cv.matView frame.format.height frame.format.width cv8UC3 frame.sourceFrame
    let frame ← handleJpegStack cv needsPixels { frame with frameDr := 255, raw := rgb } rgb
    return some frame
  | .streamRgb48 =>
    let rgb ← cv.matView frame.format.height frame.format.width cv16UC3 frame.sourceFrame
    let frame ← handleJpegStack cv needsPixels { frame with frameDr := 65535, raw := rgb } rgb
    return some frame
  | .streamRaw8 | .streamRaw16 =>
    let bayer ← cv.matView frame.format.height frame.format.width
      (if bpp = 1 then cv8UC1 else cv16UC1) frame.sourceFrame
    let rgb ← demosaic cv frame.bayer bayer
    let frame ← handleJpegStack cv needsPixels
      { frame with frameDr := if bpp = 1 then 255 else 65535 } rgb
    return some { frame with raw := bayer }
  | .streamMono8 | .streamMono16 =>
    let mono ← cv.matView frame.format.height frame.format.width
      (if bpp = 1 then cv8UC1 else cv16UC1) frame.sourceFrame
    let frame ← handleJpegStack cv needsPixels
      { frame with frameDr := if bpp = 1 then 255 else 65535 } mono
    return some { frame with raw := mono }
  | .streamError => return none

/-- Lines 47–160: the first `switch`, the size check, then the handling of the format. -/
def formatPipeline (cv : OpenCV) (needsPixels : Bool) (frame : CameraFrame) :
    Except CvException (Option CameraFrame) :=
  match bytesPerPixel frame.format.format with
  | none => .ok none
  | some bpp => if sizeMismatch frame bpp then .ok none else formatFrame cv needsPixels frame bpp

/-- `VideoGenerator::process_frame(frame)` for the frame at address `ptr`. An exception of OpenCV
leaves the call before any push. -/
def processFrame (cv : OpenCV) (vg : VideoGenerator) (ptr : Nat) (frame : CameraFrame) :
    EStateM.Result CvException VideoGenerator Unit :=
  match formatPipeline cv vg.needsPixels frame with
  | .error e => .error e vg
  | .ok none => .ok () vg
  | .ok (some f) => .ok () (vg.fanOut ⟨ptr, .cameraFrame f⟩)

/-! ### What every call does -/

theorem Except.bind_eq_ok {ε α β : Type} {x : Except ε α} {f : α → Except ε β} {b : β} :
    x >>= f = .ok b ↔ ∃ a, x = .ok a ∧ f a = .ok b := by
  cases x <;> simp [bind, Except.bind]

/-- `f` is `frame` as `process_frame` forwards it: the same format, Bayer pattern and source
buffer, with its JPEG rendition set. -/
def CameraFrame.Rendered (frame f : CameraFrame) : Prop :=
  f.format = frame.format ∧ f.bayer = frame.bayer ∧ f.sourceFrame = frame.sourceFrame ∧
    f.jpegFrame.isSome

section Pipeline

variable (cv : OpenCV) (needsPixels : Bool)

/-- `handle_jpeg_stack` sets the JPEG rendition and, when pixels are needed, the working matrix;
nothing else. -/
theorem handleJpegStack_ok {frame f : CameraFrame} {image : Mat}
    (h : handleJpegStack cv needsPixels frame image = .ok f) :
    ∃ buf, f = if needsPixels then { frame with jpegFrame := some ⟨buf⟩, frame := image }
      else { frame with jpegFrame := some ⟨buf⟩ } := by
  simp only [handleJpegStack, Except.bind_eq_ok] at h
  obtain ⟨-, -, buf, -, h⟩ := h
  exact ⟨buf, by cases needsPixels <;> exact (Except.ok.inj h).symm⟩

theorem handleJpegStack_rendered {frame f : CameraFrame} {image : Mat}
    (h : handleJpegStack cv needsPixels frame image = .ok f) : frame.Rendered f := by
  obtain ⟨buf, rfl⟩ := handleJpegStack_ok cv needsPixels h
  split <;> exact ⟨rfl, rfl, rfl, rfl⟩

/-- A frame the format pipeline forwards is the frame it was given, its JPEG rendition set. -/
theorem formatFrame_rendered {frame f : CameraFrame} {bpp : Int}
    (h : formatFrame cv needsPixels frame bpp = .ok (some f)) : frame.Rendered f := by
  cases hfmt : frame.format.format <;> simp only [formatFrame, hfmt, Except.bind_eq_ok] at h
  case streamMjpeg =>
    cases needsPixels <;> simp only [Bool.false_eq_true, if_false, if_true, Except.bind_eq_ok] at h
    · cases h; exact ⟨rfl, rfl, rfl, rfl⟩
    · obtain ⟨_, -, h⟩ := h
      split at h <;> cases h; exact ⟨rfl, rfl, rfl, rfl⟩
  case streamRgb24 | streamRgb48 | streamMono8 | streamMono16 =>
    obtain ⟨_, -, g, hg, h⟩ := h
    cases h
    exact (handleJpegStack_rendered cv needsPixels hg :)
  case streamYuv2 | streamRaw8 | streamRaw16 =>
    obtain ⟨_, -, _, -, g, hg, h⟩ := h
    cases h
    exact (handleJpegStack_rendered cv needsPixels hg :)
  case streamError => cases h

/-- After the size check, a frame is dropped only for the error tag, or for an MJPEG buffer whose
decode threw. -/
theorem formatFrame_ne_none {frame : CameraFrame} {bpp : Int}
    (hdec : frame.format.format = .streamMjpeg → ∀ m, ∃ m', cv.imdecode m = .ok m')
    (herr : frame.format.format ≠ .streamError) :
    formatFrame cv needsPixels frame bpp ≠ .ok none := by
  intro h
  cases hf : frame.format.format <;> simp only [formatFrame, hf, Except.bind_eq_ok] at h
  case streamMjpeg =>
    cases needsPixels <;> simp only [Bool.false_eq_true, if_false, if_true, Except.bind_eq_ok] at h
    · cases h
    · obtain ⟨b, -, h⟩ := h
      obtain ⟨m, hm⟩ := hdec hf b
      rw [hm] at h
      cases h
  case streamError => exact herr hf
  case streamRgb24 | streamRgb48 | streamMono8 | streamMono16 =>
    obtain ⟨_, -, _, -, h⟩ := h
    cases h
  case streamYuv2 | streamRaw8 | streamRaw16 =>
    obtain ⟨_, -, _, -, _, -, h⟩ := h
    cases h

end Pipeline

/-! ### When no OpenCV call throws -/

theorem Except.bind_returns {ε α β : Type} {x : Except ε α} {f : α → Except ε β}
    (hx : ∃ a, x = .ok a) (hf : ∀ a, ∃ b, f a = .ok b) : ∃ b, x >>= f = .ok b := by
  obtain ⟨a, rfl⟩ := hx
  exact hf a

section Returns

variable {cv : OpenCV} (needsPixels : Bool)

theorem normalizeImage_returns (hcv : cv.NoThrow) (frameDr : BitVec 32) (image : Mat) :
    ∃ m, normalizeImage cv frameDr image = .ok m := by
  unfold normalizeImage
  split
  · exact ⟨_, rfl⟩
  · exact hcv.convertTo _ _ _

theorem handleJpegStack_returns (hcv : cv.NoThrow) (frame : CameraFrame) (image : Mat) :
    ∃ f, handleJpegStack cv needsPixels frame image = .ok f :=
  Except.bind_returns (normalizeImage_returns hcv _ _) fun _ =>
    Except.bind_returns (hcv.imencode _) fun _ => ⟨_, rfl⟩

theorem demosaic_returns (hcv : cv.NoThrow) (bayer : CamBayerType) (m : Mat) :
    ∃ m', demosaic cv bayer m = .ok m' := by
  cases bayer
  case bayerNa => exact ⟨_, rfl⟩
  all_goals exact hcv.cvtColor _ _

/-- The handling of each format returns; `imdecode`, inside the `try`, may throw. -/
theorem formatFrame_returns (hcv : cv.NoThrow) (frame : CameraFrame) (bpp : Int) :
    ∃ r, formatFrame cv needsPixels frame bpp = .ok r := by
  have hjpeg := handleJpegStack_returns needsPixels hcv
  cases hf : frame.format.format <;> simp only [formatFrame, hf]
  case streamMjpeg =>
    split
    · refine Except.bind_returns (hcv.matView _ _ _ _) fun _ => ?_
      split <;> exact ⟨_, rfl⟩
    · exact ⟨_, rfl⟩
  case streamYuv2 =>
    exact Except.bind_returns (hcv.matView _ _ _ _) fun _ => Except.bind_returns (hcv.cvtColor _ _)
      fun _ => Except.bind_returns (hjpeg _ _) fun _ => ⟨_, rfl⟩
  case streamRaw8 | streamRaw16 =>
    exact Except.bind_returns (hcv.matView _ _ _ _) fun _ =>
      Except.bind_returns (demosaic_returns hcv _ _) fun _ =>
      Except.bind_returns (hjpeg _ _) fun _ => ⟨_, rfl⟩
  case streamError => exact ⟨_, rfl⟩
  all_goals exact Except.bind_returns (hcv.matView _ _ _ _) fun _ =>
    Except.bind_returns (hjpeg _ _) fun _ => ⟨_, rfl⟩

theorem formatPipeline_returns (hcv : cv.NoThrow) (frame : CameraFrame) :
    ∃ r, formatPipeline cv needsPixels frame = .ok r := by
  unfold formatPipeline
  split
  · exact ⟨_, rfl⟩
  · split
    · exact ⟨_, rfl⟩
    · exact formatFrame_returns needsPixels hcv frame _

end Returns

/-- `process_frame` returns when no OpenCV call outside its `try` throws. -/
theorem processFrame_returns {cv : OpenCV} (hcv : cv.NoThrow) (vg : VideoGenerator) (ptr : Nat)
    (frame : CameraFrame) : ∃ vg', processFrame cv vg ptr frame = .ok () vg' := by
  obtain ⟨r, hr⟩ := formatPipeline_returns vg.needsPixels hcv frame
  simp only [processFrame, hr]
  rcases r with _ | f <;> exact ⟨_, rfl⟩

/-- **A well-formed frame reaches the live output.** When no OpenCV call throws, `imdecode`
included, a frame without the error tag whose buffer passes the size check is forwarded by the
fan-out, its JPEG rendition set: to the live output, and to the stacking, debug and plate-solving
outputs as the session flags select. -/
theorem processFrame_reaches_live {cv : OpenCV} (hcv : cv.NoThrow)
    (hdec : ∀ m, ∃ m', cv.imdecode m = .ok m') (vg : VideoGenerator) (ptr : Nat)
    (frame : CameraFrame) (herr : frame.format.format ≠ .streamError)
    (hsize : ∀ bpp, bytesPerPixel frame.format.format = some bpp → sizeMismatch frame bpp = false) :
    ∃ f, frame.Rendered f ∧
      processFrame cv vg ptr frame = .ok () (vg.fanOut ⟨ptr, .cameraFrame f⟩) := by
  obtain ⟨bpp, hbpp⟩ : ∃ bpp, bytesPerPixel frame.format.format = some bpp := by
    cases h : frame.format.format <;> simp only [bytesPerPixel, Option.some.injEq, exists_eq']
    exact (herr h).elim
  obtain ⟨r, hr⟩ := formatFrame_returns vg.needsPixels hcv frame bpp
  obtain ⟨f, rfl⟩ : ∃ f, r = some f :=
    Option.ne_none_iff_exists'.1 fun h => formatFrame_ne_none cv _ (fun _ => hdec) herr (h ▸ hr)
  refine ⟨f, formatFrame_rendered cv _ hr, ?_⟩
  simp only [processFrame, formatPipeline, hbpp, hsize bpp hbpp, hr]
  rfl

/-- An `rgb24` frame of one pixel, with a three-byte buffer, reaches the live output. -/
theorem processFrame_reaches_live_rgb24 :
    let frame : CameraFrame := ⟨⟨.streamRgb24, 1, 1, 1⟩, .bayerNa, ⟨[1, 2, 3]⟩, 0, none, {}, {}⟩
    OpenCV.passThrough.NoThrow ∧ (∀ m, ∃ m', OpenCV.passThrough.imdecode m = .ok m') ∧
      frame.format.format ≠ .streamError ∧
      (∀ bpp, bytesPerPixel frame.format.format = some bpp → sizeMismatch frame bpp = false) ∧
      ∃ f, frame.Rendered f ∧ processFrame .passThrough (.init true) 0 frame =
        .ok () ((VideoGenerator.init true).fanOut ⟨0, .cameraFrame f⟩) := by
  intro frame
  have hdec : ∀ m, ∃ m', OpenCV.passThrough.imdecode m = .ok m' := fun m => ⟨m, rfl⟩
  have hsize : ∀ bpp, bytesPerPixel frame.format.format = some bpp →
      sizeMismatch frame bpp = false := by
    rintro bpp ⟨⟩
    decide
  exact ⟨OpenCV.passThrough_noThrow, hdec, nofun, hsize,
    processFrame_reaches_live OpenCV.passThrough_noThrow hdec _ 0 frame nofun hsize⟩

/-- An MJPEG frame when no consumer needs pixels: forwarded as it came, its buffer its JPEG
rendition, without any call to OpenCV. -/
theorem processFrame_mjpeg_undecoded (cv : OpenCV) (vg : VideoGenerator) (ptr : Nat)
    (frame : CameraFrame) (hfmt : frame.format.format = .streamMjpeg) (hp : vg.needsPixels = false) :
    processFrame cv vg ptr frame =
      .ok () (vg.fanOut ⟨ptr, .cameraFrame { frame with jpegFrame := some frame.sourceFrame }⟩) := by
  simp [processFrame, formatPipeline, bytesPerPixel, hfmt, sizeMismatch, formatFrame, hp, pure,
    Except.pure]

/-- The two ways `process_frame` returns: having dropped the frame, or having forwarded it by the
fan-out, its JPEG rendition set. -/
theorem processFrame_ok {cv : OpenCV} {vg vg' : VideoGenerator} {ptr : Nat} {frame : CameraFrame}
    (h : processFrame cv vg ptr frame = .ok () vg') :
    vg' = vg ∨ ∃ f : CameraFrame, frame.Rendered f ∧ vg' = vg.fanOut ⟨ptr, .cameraFrame f⟩ := by
  unfold processFrame at h
  split at h
  · cases h
  · cases h; exact .inl rfl
  · rename_i f hf
    cases h
    refine .inr ⟨f, ?_, rfl⟩
    unfold formatPipeline at hf
    split at hf
    · cases hf
    · split at hf
      · cases hf
      · exact formatFrame_rendered cv _ hf

/-- When `process_frame` throws, it has pushed nothing. -/
theorem processFrame_error {cv : OpenCV} {vg vg' : VideoGenerator} {ptr : Nat} {frame : CameraFrame}
    {e : CvException} (h : processFrame cv vg ptr frame = .error e vg') : vg' = vg := by
  unfold processFrame at h
  split at h <;> cases h; rfl

/-- **What every call of `process_frame` does**, whatever OpenCV computes or throws. It changes no
session flag. When it throws, it has pushed nothing; when no OpenCV call outside its `try` throws,
it returns. When it returns, it has dropped the frame or forwarded it by the fan-out, with its
JPEG rendition set. A frame with the error tag, or with a fixed-size format whose buffer fails the
size check, is dropped. An MJPEG frame is decoded only when stacking is active or a plate-solving
output exists; otherwise it is forwarded undecoded, whatever its buffer holds. -/
theorem processFrame_contract (cv : OpenCV) (vg : VideoGenerator) (ptr : Nat) (frame : CameraFrame) :
    (resultState (processFrame cv vg ptr frame)).session = vg.session ∧
    (∀ e vg', processFrame cv vg ptr frame = .error e vg' → vg' = vg) ∧
    (cv.NoThrow → ∃ vg', processFrame cv vg ptr frame = .ok () vg') ∧
    (∀ vg', processFrame cv vg ptr frame = .ok () vg' →
      vg' = vg ∨ ∃ f : CameraFrame, frame.Rendered f ∧ vg' = vg.fanOut ⟨ptr, .cameraFrame f⟩) ∧
    (frame.format.format = .streamError → processFrame cv vg ptr frame = .ok () vg) ∧
    (∀ bpp, bytesPerPixel frame.format.format = some bpp → sizeMismatch frame bpp = true →
      processFrame cv vg ptr frame = .ok () vg) ∧
    (frame.format.format = .streamMjpeg → vg.needsPixels = false →
      processFrame cv vg ptr frame =
        .ok () (vg.fanOut ⟨ptr, .cameraFrame { frame with jpegFrame := some frame.sourceFrame }⟩)) := by
  refine ⟨?_, fun e vg' => processFrame_error, fun hcv => processFrame_returns hcv vg ptr frame,
    fun vg' => processFrame_ok, ?_, ?_, processFrame_mjpeg_undecoded cv vg ptr frame⟩
  · unfold processFrame; split <;> rfl
  · intro h
    simp [processFrame, formatPipeline, bytesPerPixel, h]
  · intro bpp hb hs
    simp [processFrame, formatPipeline, hb, hs]

/-- Two frames handled by `OpenCV.checked` in the state an `init` control without `save_inputs`
leaves, no plate-solving output registered. A `raw8`
frame whose Bayer tag is none of the four patterns: the `default` of the Bayer `switch` logs but
does not return, `handle_jpeg_stack` encodes the empty `rgb`, and `imencode`'s assertion throws
out of `process_frame`. An MJPEG frame whose buffer does not decode: `imdecode` returns the empty
matrix, which no `catch` sees, and the frame goes to the live and stacking outputs with the empty
matrix as its working matrix. -/
theorem processFrame_unknown_bayer_bad_jpeg :
    let vg : VideoGenerator :=
      { VideoGenerator.init false with stackingActive := true, stackingInProcess := true }
    let raw : CameraFrame := ⟨⟨.streamRaw8, 1, 1, 1⟩, .bayerNa, ⟨[0]⟩, 0, none, {}, {}⟩
    let jpeg : CameraFrame := ⟨⟨.streamMjpeg, 1, 1, 1⟩, .bayerNa, ⟨[0]⟩, 0, none, {}, {}⟩
    let decoded : CameraFrame :=
      { jpeg with jpegFrame := some ⟨[0]⟩, frame := {}, frameDr := 255, raw := {} }
    processFrame .checked vg 0 raw = .error ⟨"!image.empty()"⟩ vg ∧
      processFrame .checked vg 1 jpeg = .ok () { vg with
        liveOut := [⟨1, .cameraFrame decoded⟩], stackOut := [⟨1, .cameraFrame decoded⟩] } ∧
      decoded.frame.empty = true :=
  ⟨rfl, rfl, rfl⟩

/-- A `raw8` frame declaring `-1 × -1` pixels, with a one-byte buffer, passes the size check: the
`int` product `(-1)·(-1)·1` is `1`, the buffer's length. It goes on to the handling of its format,
whatever OpenCV does. -/
theorem formatPipeline_negative_dimensions (cv : OpenCV) (needsPixels : Bool) :
    let frame : CameraFrame := ⟨⟨.streamRaw8, -1, -1, 1⟩, .bayerRg, ⟨[0]⟩, 0, none, {}, {}⟩
    frame.format.width.toInt = -1 ∧ frame.format.height.toInt = -1 ∧
      formatPipeline cv needsPixels frame = formatFrame cv needsPixels frame 1 :=
  ⟨by decide, by decide, rfl⟩

end OpenLiveStacker
