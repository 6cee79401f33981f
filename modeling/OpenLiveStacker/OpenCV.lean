import OpenLiveStacker.Camera

/-!
# The OpenCV calls of the dispatch stage

`process_frame` and `handle_jpeg_stack` call OpenCV, which is not part of the sources: a matrix
header over a buffer, `cv::imdecode`, `cv::cvtColor`, `Mat::convertTo` and `cv::imencode`. The
development keeps these calls as parameters, an `OpenCV` record, so every result holds whatever
they compute and whenever they throw; only what `process_frame` itself reads of a matrix is
modelled: its size, its element type and its bytes.

* `Depth`, `MatType`, `Mat` with `Mat.empty`, `Mat.elemSize1`, `Mat.channels`;
* `ColorConversionCode`: the five conversions `process_frame` names;
* `CvException`, `OpenCV`;
* `OpenCV.NoThrow`: none of the calls `process_frame` makes outside its `try` throws;
* `OpenCV.passThrough`, which never throws, and `OpenCV.checked`, which throws where OpenCV
  documents that it does on the inputs `process_frame` can hand it.
-/

namespace OpenLiveStacker

/-- The element depth of a matrix: `CV_8U` or `CV_16U`. -/
inductive Depth
  | cv8U
  | cv16U
  deriving DecidableEq, Repr

/-- A matrix type `CV_<depth>C<channels>`. -/
structure MatType where
  depth : Depth
  channels : Nat
  deriving DecidableEq, Repr

/-- `CV_8UC1`. -/
def cv8UC1 : MatType := ⟨.cv8U, 1⟩
/-- `CV_8UC2`. -/
def cv8UC2 : MatType := ⟨.cv8U, 2⟩
/-- `CV_8UC3`. -/
def cv8UC3 : MatType := ⟨.cv8U, 3⟩
/-- `CV_16UC1`. -/
def cv16UC1 : MatType := ⟨.cv16U, 1⟩
/-- `CV_16UC3`. -/
def cv16UC3 : MatType := ⟨.cv16U, 3⟩

/-- A `cv::Mat`: its size, element type and bytes. The default matrix `cv::Mat()` is `0 × 0` of
type `CV_8UC1`. -/
structure Mat where
  rows : Nat := 0
  cols : Nat := 0
  type : MatType := cv8UC1
  data : List UInt8 := []
  deriving DecidableEq, Repr

instance : Inhabited Mat := ⟨{}⟩

/-- `Mat::empty()`: no elements. -/
def Mat.empty (m : Mat) : Bool := m.rows * m.cols = 0

/-- `Mat::elemSize1()`: bytes per channel. -/
def Mat.elemSize1 (m : Mat) : Nat :=
  match m.type.depth with
  | .cv8U => 1
  | .cv16U => 2

/-- `Mat::channels()`. -/
def Mat.channels (m : Mat) : Nat := m.type.channels

/-- The colour conversions of `process_frame`. -/
inductive ColorConversionCode
  | colorYuv2BgrYuyv
  | colorBayerBg2Bgr
  | colorBayerGb2Bgr
  | colorBayerRg2Bgr
  | colorBayerGr2Bgr
  deriving DecidableEq, Repr

/-- A `cv::Exception`. -/
structure CvException where
  msg : String
  deriving DecidableEq, Repr

/-- The OpenCV calls `process_frame` makes; each returns its result or throws. -/
structure OpenCV where
  /-- `cv::Mat(rows, cols, type, data)`: a header over the bytes of a buffer. -/
  matView : BitVec 32 → BitVec 32 → MatType → VideoFrame → Except CvException Mat
  /-- `cv::imdecode(buffer, cv::IMREAD_UNCHANGED)`. -/
  imdecode : Mat → Except CvException Mat
  /-- `cv::cvtColor(src, dst, code)`. -/
  cvtColor : Mat → ColorConversionCode → Except CvException Mat
  /-- `src.convertTo(dst, type, 255.0 / dr)`, given the dynamic range `dr`. -/
  convertTo : Mat → MatType → BitVec 32 → Except CvException Mat
  /-- `cv::imencode(".jpeg", image, buf)`: the encoded bytes. -/
  imencode : Mat → Except CvException (List UInt8)

/-- No call `process_frame` makes outside its `try` throws: the matrix views, `cvtColor`,
`convertTo` and `imencode`. `imdecode`, the one call inside the `try`, may. -/
structure OpenCV.NoThrow (cv : OpenCV) : Prop where
  matView : ∀ rows cols type buf, ∃ m, cv.matView rows cols type buf = .ok m
  cvtColor : ∀ src code, ∃ m, cv.cvtColor src code = .ok m
  convertTo : ∀ src type dr, ∃ m, cv.convertTo src type dr = .ok m
  imencode : ∀ image, ∃ buf, cv.imencode image = .ok buf

/-- An OpenCV that never throws: a view holds the bytes of its buffer, `imencode` gives the bytes
of its image, and every other call returns its input. -/
def OpenCV.passThrough : OpenCV :=
  ⟨fun r c t v => .ok ⟨r.toNat, c.toNat, t, v.data⟩, .ok, fun m _ => .ok m, fun m _ _ => .ok m,
    fun m => .ok m.data⟩

theorem OpenCV.passThrough_noThrow : OpenCV.passThrough.NoThrow :=
  ⟨fun _ _ _ _ => ⟨_, rfl⟩, fun _ _ => ⟨_, rfl⟩, fun _ _ _ => ⟨_, rfl⟩, fun _ => ⟨_, rfl⟩⟩

/-- `OpenCV.passThrough` with what OpenCV documents for bad input: `imdecode` returns the empty
matrix for data that does not open with the JPEG marker `FF D8`, and `imencode` asserts
`!image.empty()`. -/
def OpenCV.checked : OpenCV :=
  { OpenCV.passThrough with
    imdecode := fun m =>
      .ok (if m.data.take 2 = [0xFF, 0xD8] then ⟨1, 1, cv8UC3, [0, 0, 0]⟩ else {})
    imencode := fun m => if m.empty then .error ⟨"!image.empty()"⟩ else .ok m.data }

end OpenLiveStacker
