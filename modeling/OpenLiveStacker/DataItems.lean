import OpenLiveStacker.OpenCV

/-!
# The messages of the pipeline

The message types of `data_items.h` (not part of the sources), with the fields the modelled
functions read or write. Every stage passes `shared_ptr<BaseData>`; a `Msg` is such a pointer:
the address of its object and the object as it is when pushed.

* `CameraFrame`: a frame as the camera delivers it, and what `process_frame` derives from it;
* `StackerControl` with its operation `StackerControl.Op`;
* `DataItem`: `ShutDownData`, `CameraFrame`, `StackerControl`, `StatsData`,
  `ErrorNotificationData`;
* `Msg`.
-/

namespace OpenLiveStacker

/-- Modelled from the spec: a `CameraFrame` (§3). The source buffer, its format and Bayer
pattern, and what `process_frame` sets: the dynamic range `frame_dr`, the JPEG rendition
`jpeg_frame` (`none` is a null pointer), the working matrix `frame` and the raw view `raw`. -/
structure CameraFrame where
  format : CamStreamFormat
  bayer : CamBayerType
  sourceFrame : VideoFrame
  frameDr : BitVec 32
  jpegFrame : Option VideoFrame
  frame : Mat
  raw : Mat
  deriving DecidableEq, Repr

/-- Modelled from the spec: the operations of a `StackerControl` (§3). -/
inductive StackerControl.Op
  | ctlInit
  | ctlPause
  | ctlResume
  | ctlSave
  | ctlCancel
  | ctlUpdate
  deriving DecidableEq, Repr, Inhabited

/-- Modelled from the spec: a `StackerControl` (§3), with the fields `StackerControlApp` sets.
The dispatch stage reads `op` and `save_inputs` only. -/
structure StackerControl where
  op : StackerControl.Op
  mono : Bool
  format : String
  bin : BitVec 32
  width : BitVec 32
  height : BitVec 32
  calibration : Bool
  name : String
  saveInputs : Bool
  outputPath : String
  sourceGamma : Float
  cameraConfig : CamOptionId → Option Float
  lat : Float
  lon : Float
  ra : Float
  de : Float
  derotateMirror : Bool
  derotate : Bool
  rollbackOnPause : Bool
  darksPath : String
  flatsPath : String
  darkFlatsPath : String
  autoStretch : Bool
  stretchLow : Float
  stretchHigh : Float
  stretchGamma : Float
  removeSatellites : Bool
  deriving Inhabited

/-- Modelled from the spec: the closed message variant (§3). The fields of `StatsData` and
`ErrorNotificationData` are read by no modelled function. -/
inductive DataItem
  | shutDown
  | cameraFrame (f : CameraFrame)
  | stackerControl (c : StackerControl)
  | statsData
  | errorNotificationData
  deriving Inhabited

/-- A `shared_ptr<BaseData>` in a queue: the address of its object, and the object. -/
structure Msg where
  ptr : Nat
  item : DataItem
  deriving Inhabited

/-- `dynamic_pointer_cast<ShutDownData>` succeeds. -/
def Msg.isShutDown (m : Msg) : Bool :=
  match m.item with
  | .shutDown => true
  | _ => false

/-- `dynamic_pointer_cast<StackerControl>`: the control, if the message is one. -/
def Msg.control? (m : Msg) : Option StackerControl :=
  match m.item with
  | .stackerControl c => some c
  | _ => none

end OpenLiveStacker
