import OpenLiveStacker.VideoGenerator.Run
import OpenLiveStacker.Encodings

/-!
# `StackerControlApp`

The control surface of `stacker_ctl_app.h`. The requests `start`, `control` and `stretch` build a
`StackerControl` from the JSON body `content_` (and, for `start`, from the camera), may set
`status_`, and push the command into the dispatch stage's input queue; `status` reports
`status_`. The dispatch stage keeps its own flags, set by the commands as `run` consumes them.

* `Json`, `Json.get`, `Json.getD`: a request body and `cppcms::json::value::get`, without and
  with a default;
* `StackerControlApp`, `startCommand`, `start`, `control`, `stretch`, `handle`, `runRequests`;
* `handle_cases`: a request either throws, leaving `status_` and the queue as they were, or pushes
  one command and sets `status_` as `statusAfter` says;
* `runRequests_status`: as long as no `save` has been pushed, once `run` has consumed the commands
  `status()` reports its flags; `start_then_save`: after a `save` it does not.
-/

namespace OpenLiveStacker

/-! ### Request bodies -/

/-- A JSON value of a request body, as `cppcms::json::value` holds it (arrays, which no request
reads, left out). -/
inductive Json
  | undefined
  | null
  | boolean (b : Bool)
  | number (x : Float)
  | string (s : String)
  | object (members : List (String × Json))
  deriving Inhabited

/-- `value::find(path)`, over the keys of a dotted path: the member each key names, `undefined`
where there is none. -/
def Json.find : Json → List String → Json
  | v, [] => v
  | .object members, k :: ks => ((members.lookup k).getD .undefined).find ks
  | _, _ :: _ => .undefined

/-- The C++ types the requests read from a body: `std::string`, `bool` and `double`. -/
class JsonType (α : Type) where
  /-- `value::get_value<T>()`: the value, if it has type `T`. -/
  cast? : Json → Option α

instance : JsonType String := ⟨fun | .string s => some s | _ => none⟩

instance : JsonType Bool := ⟨fun | .boolean b => some b | _ => none⟩

instance : JsonType Float := ⟨fun | .number x => some x | _ => none⟩

/-- What a request handler throws. -/
inductive RequestError
  /-- `cppcms::json::bad_value_cast`: `path` is missing or holds another type. -/
  | badValueCast (path : String)
  /-- `std::runtime_error`. -/
  | runtimeError (msg : String)
  /-- A `CamError` of the camera layer. -/
  | camError (e : CamError)
  deriving DecidableEq, Repr

/-- The keys of a dotted path. -/
def pathKeys (path : String) : List String := (path.toList.splitOn '.').map String.mk

/-- `value::get<T>(path)`: throws unless `path` holds a `T`. -/
def Json.get {α : Type} [JsonType α] (v : Json) (path : String) : Except RequestError α :=
  match JsonType.cast? (v.find (pathKeys path)) with
  | some a => .ok a
  | none => .error (.badValueCast path)

/-- `value::get(path, def)`: `def` when `path` is missing or holds another type. -/
def Json.getD {α : Type} [JsonType α] (v : Json) (path : String) (d : α) : α :=
  (JsonType.cast? (v.find (pathKeys path))).getD d

/-! ### The requests -/

/-- What `start` reads of the camera at the time of the request; each read may throw. `start`
calls `cam_->stream_format()` three times (lines 75, 77 and 78), before it takes the camera's lock,
so each call has its own answer. The camera is not part of the sources, and `CameraInterface`,
which `camera_iface.h` does give, declares no `stream_format()`: `start` does not compile against
that header, and the call is modelled from its use in `start`. -/
structure CameraReads where
  /-- The answers to the three calls of `cam_->stream_format()`, in order. -/
  streamFormat : Fin 3 → Except CamError CamStreamFormat
  /-- `cam_->cam().supported_options(e)`, then `e.check()`. -/
  supportedOptions : Except CamError (List CamOptionId)
  /-- `cam_->cam().get_parameter(opt, true, e).cur_val`, then `e.check()`. -/
  getParameter : CamOptionId → Except CamError Float

/-- The members of `StackerControlApp` its requests read or write: the two paths under
`data_dir_`, `status_`, and the commands pushed to `queue_` so far. -/
structure StackerControlApp where
  stackedPath : String
  calibrationPath : String
  status : String
  pushed : List StackerControl

/-- The constructor: `status_` starts `"idle"`. -/
def StackerControlApp.init (dataDir : String) : StackerControlApp :=
  ⟨dataDir ++ "/stacked", dataDir ++ "/calibration", "idle", []⟩

/-- `queue_->push(cmd)`. -/
def StackerControlApp.push (app : StackerControlApp) (cmd : StackerControl) : StackerControlApp :=
  { app with pushed := app.pushed ++ [cmd] }

/-- The loop over the supported options in `start`: each option's current value into
`camera_config`, and the gamma option's also into `source_gamma`. -/
def readCameraConfig (cam : CameraReads) :
    List CamOptionId → (CamOptionId → Option Float) → Float →
      Except CamError ((CamOptionId → Option Float) × Float)
  | [], config, gamma => .ok (config, gamma)
  | opt :: opts, config, gamma => do
    let v ← cam.getParameter opt
    readCameraConfig cam opts (fun o => if o = opt then some v else config o)
      (if opt = .optGamma then v else gamma)

/-- A calibration frame's name made a path under `calibration_path_`, unless it is empty. -/
def calibrationFile (calibrationPath name : String) : String :=
  if name.isEmpty then name else calibrationPath ++ "/" ++ name ++ ".tiff"

/-- The command `start` builds from `fresh`, a newly constructed `StackerControl`, or what it
throws; `now` is `ftime("%Y%m%d_%H%M%S", time(nullptr))`. `mono`, `width` and `height` come from
the first call of `cam_->stream_format()`, the format's name from the second, `bin` from the
third. -/
def startCommand (app : StackerControlApp) (cam : CameraReads) (now : String)
    (fresh : StackerControl) (content : Json) : Except RequestError StackerControl := do
  let format ← (cam.streamFormat 0).mapError .camError
  let format₁ ← (cam.streamFormat 1).mapError .camError
  let formatName ← (streamTypeToStr format₁.format).mapError .camError
  let format₂ ← (cam.streamFormat 2).mapError .camError
  let calibration := content.getD "type" "dso" == "calibration"
  let name : String ← content.get "name"
  let saveInputs := content.getD "save_data" false
  let name := if calibration then name else (if name.isEmpty then name else name ++ "_") ++ now
  let outputPath := if calibration then app.calibrationPath else app.stackedPath ++ "/" ++ name
  let opts ← cam.supportedOptions.mapError .camError
  let config ← (readCameraConfig cam opts fresh.cameraConfig 1.0).mapError .camError
  return { fresh with
    op := .ctlInit, mono := isMonoStream format.format, format := formatName, bin := format₂.bin,
    width := format.width, height := format.height, calibration, name, saveInputs, outputPath,
    sourceGamma := config.2, cameraConfig := config.1,
    lat := content.getD "location.lat" fresh.lat, lon := content.getD "location.lon" fresh.lon,
    ra := content.getD "target.ra" fresh.ra, de := content.getD "target.de" fresh.de,
    derotateMirror := content.getD "image_flip" fresh.derotateMirror,
    derotate := content.getD "field_derotation" fresh.derotate,
    rollbackOnPause := content.getD "rollback_on_pause" fresh.rollbackOnPause,
    darksPath := calibrationFile app.calibrationPath (content.getD "darks" fresh.darksPath),
    flatsPath := calibrationFile app.calibrationPath (content.getD "flats" fresh.flatsPath),
    darkFlatsPath :=
      calibrationFile app.calibrationPath (content.getD "dark_flats" fresh.darkFlatsPath),
    autoStretch := content.getD "auto_stretch" fresh.autoStretch,
    stretchLow := content.getD "stretch_low" fresh.stretchLow,
    stretchHigh := content.getD "stretch_high" fresh.stretchHigh,
    stretchGamma := content.getD "stretch_gamma" fresh.stretchGamma,
    removeSatellites := content.getD "remove_satellites" fresh.removeSatellites }

/-- `StackerControlApp::start`: every throw comes before `status_ = "stacking"` and the push. -/
def start (cam : CameraReads) (now : String) (fresh : StackerControl) (content : Json)
    (app : StackerControlApp) : EStateM.Result RequestError StackerControlApp Unit :=
  match startCommand app cam now fresh content with
  | .error e => .error e app
  | .ok cmd => .ok () ({ app with status := "stacking" }.push cmd)

/-- `StackerControlApp::control`: the operation names the command, and sets `status_`, except
`save`, which sets nothing. -/
def control (fresh : StackerControl) (content : Json) (app : StackerControlApp) :
    EStateM.Result RequestError StackerControlApp Unit :=
  match (content.get "operation" : Except RequestError String) with
  | .error e => .error e app
  | .ok op =>
    if op = "pause" then .ok () ({ app with status := "paused" }.push { fresh with op := .ctlPause })
    else if op = "save" then .ok () (app.push { fresh with op := .ctlSave })
    else if op = "resume" then
      .ok () ({ app with status := "stacking" }.push { fresh with op := .ctlResume })
    else if op = "cancel" then
      .ok () ({ app with status := "idle" }.push { fresh with op := .ctlCancel })
    else .error (.runtimeError ("Unknown operation " ++ op)) app

/-- `StackerControlApp::stretch`: an `update` carrying the stretch parameters. -/
def stretch (fresh : StackerControl) (content : Json) (app : StackerControlApp) :
    EStateM.Result RequestError StackerControlApp Unit :=
  .ok () (app.push { fresh with
    op := .ctlUpdate, autoStretch := content.getD "auto_stretch" fresh.autoStretch,
    stretchLow := content.getD "stretch_low" fresh.stretchLow,
    stretchHigh := content.getD "stretch_high" fresh.stretchHigh,
    stretchGamma := content.getD "stretch_gamma" fresh.stretchGamma })

/-- A request that changes state. -/
inductive Request
  /-- `POST /start`, with what the camera answers and the time, at the request. -/
  | start (cam : CameraReads) (now : String) (content : Json)
  /-- `POST /control`. -/
  | control (content : Json)
  /-- `POST /stretch`. -/
  | stretch (content : Json)

/-- The dispatcher: a request to its handler; `fresh` is what `new StackerControl()` gives. -/
def handle (fresh : StackerControl) : Request → StackerControlApp →
    EStateM.Result RequestError StackerControlApp Unit
  | .start cam now content => start cam now fresh content
  | .control content => control fresh content
  | .stretch content => stretch fresh content

/-- Requests one after another; one that throws leaves the state it threw in. -/
def runRequests (fresh : StackerControl) (app : StackerControlApp) (reqs : List Request) :
    StackerControlApp :=
  reqs.foldl (fun app r => resultState (handle fresh r app)) app

/-! ### What a request does to `status_` and the queue -/

/-- What a request that pushes a command with operation `op` leaves in `status_`. -/
def statusAfter (status : String) : StackerControl.Op → String
  | .ctlInit | .ctlResume => "stacking"
  | .ctlPause => "paused"
  | .ctlCancel => "idle"
  | .ctlSave | .ctlUpdate => status

theorem startCommand_op {app : StackerControlApp} {cam : CameraReads} {now : String}
    {fresh : StackerControl} {content : Json} {cmd : StackerControl}
    (h : startCommand app cam now fresh content = .ok cmd) : cmd.op = .ctlInit := by
  simp only [startCommand, Except.bind_eq_ok] at h
  obtain ⟨_, -, _, -, _, -, _, -, _, -, _, -, _, -, h⟩ := h
  cases h
  rfl

theorem push_eq_of_status {app : StackerControlApp} {c : StackerControl}
    (h : statusAfter app.status c.op = app.status) :
    app.push c = { app with status := statusAfter app.status c.op }.push c := by
  rw [h]

/-- Everything a request can do: throw, in the state it started from, or push one command and set
`status_` to `statusAfter` of its operation. -/
theorem handle_cases (fresh : StackerControl) (req : Request) (app : StackerControlApp) :
    (∃ e, handle fresh req app = .error e app) ∨ ∃ c : StackerControl,
      handle fresh req app = .ok () ({ app with status := statusAfter app.status c.op }.push c) := by
  cases req with
  | start cam now content =>
    simp only [handle, start]
    split
    · exact .inl ⟨_, rfl⟩
    · rename_i cmd hcmd
      exact .inr ⟨cmd, by rw [startCommand_op hcmd]; rfl⟩
  | control content =>
    simp only [handle, control]
    split
    · exact .inl ⟨_, rfl⟩
    rename_i op _
    by_cases hpause : op = "pause"
    · rw [if_pos hpause]; exact .inr ⟨{ fresh with op := .ctlPause }, rfl⟩
    rw [if_neg hpause]
    by_cases hsave : op = "save"
    · rw [if_pos hsave]; exact .inr ⟨{ fresh with op := .ctlSave }, rfl⟩
    rw [if_neg hsave]
    by_cases hresume : op = "resume"
    · rw [if_pos hresume]; exact .inr ⟨{ fresh with op := .ctlResume }, rfl⟩
    rw [if_neg hresume]
    by_cases hcancel : op = "cancel"
    · rw [if_pos hcancel]; exact .inr ⟨{ fresh with op := .ctlCancel }, rfl⟩
    rw [if_neg hcancel]
    exact .inl ⟨_, rfl⟩
  | stretch content => exact .inr ⟨_, congrArg (EStateM.Result.ok ()) (push_eq_of_status rfl)⟩

/-- A request that throws leaves `status_` and the queue as they were. -/
theorem handle_error {fresh : StackerControl} {req : Request} {app app' : StackerControlApp}
    {e : RequestError} (h : handle fresh req app = .error e app') : app' = app := by
  rcases handle_cases fresh req app with ⟨e', h'⟩ | ⟨c, h'⟩ <;> rw [h'] at h <;> cases h
  rfl

/-- The state a request leaves: the one it started from, or one more command pushed. -/
theorem resultState_handle (fresh : StackerControl) (req : Request) (app : StackerControlApp) :
    resultState (handle fresh req app) = app ∨ ∃ c : StackerControl,
      resultState (handle fresh req app) =
        { app with status := statusAfter app.status c.op }.push c := by
  rcases handle_cases fresh req app with ⟨e, h⟩ | ⟨c, h⟩ <;> rw [h]
  exacts [.inl rfl, .inr ⟨c, rfl⟩]

/-! ### `status_` against the dispatch stage's flags -/

/-- What `status()` should report for the dispatch stage's flags. -/
def Session.status (s : Session) : String :=
  if s.active then "stacking" else if s.inProcess then "paused" else "idle"

/-- The flags the dispatch stage reaches from its constructor once it has consumed `cmds`. -/
def sessionOf (cmds : List StackerControl) : Session := cmds.foldl Session.apply Session.idle

/-- A request pushing anything but a `save` sets `status_` as the table sets the flags. -/
theorem statusAfter_apply (s : Session) (c : StackerControl) (hc : c.op ≠ .ctlSave) :
    statusAfter s.status c.op = (s.apply c).status := by
  unfold Session.apply
  cases h : c.op <;> simp_all [statusAfter, Session.status]

/-- Only controls change the flags. -/
theorem foldl_after_eq (ms : List Msg) (s : Session) :
    ms.foldl Session.after s = (ms.filterMap Msg.control?).foldl Session.apply s := by
  induction ms generalizing s with
  | nil => rfl
  | cons m ms ih =>
    obtain ⟨ptr, item⟩ := m
    cases item <;> simp only [List.foldl_cons, List.filterMap_cons, Msg.control?] <;> exact ih _

/-- Once `run` has consumed its input, its flags are those the controls in it give. -/
theorem run_session_of_controls {cv : OpenCV} {plateSolving : Bool} {ms : List Msg}
    (h : (run cv (.init plateSolving) ms).2 = .waiting) :
    (run cv (.init plateSolving) ms).1.session = sessionOf (ms.filterMap Msg.control?) := by
  rw [(run_waiting_session h).1, foldl_after_eq]
  rfl

theorem sessionOf_inv (cmds : List StackerControl) : (sessionOf cmds).Inv := by
  unfold sessionOf
  generalize hs : Session.idle = s
  have h0 : s.Inv := by rw [← hs]; exact fun h => h
  clear hs
  induction cmds generalizing s with
  | nil => exact h0
  | cons c cmds ih => exact ih _ (h0.apply c)

/-- `status()` over the flags of a session satisfying the invariant: each of the three reports
and the flags it stands for. -/
theorem Session.status_eq_iff {s : Session} (h : s.Inv) :
    (s.status = "stacking" ↔ s.active = true) ∧
      (s.status = "paused" ↔ s.inProcess = true ∧ s.active = false) ∧
      (s.status = "idle" ↔ s.inProcess = false) := by
  obtain ⟨active, inProcess, debug⟩ := s
  cases active <;> cases inProcess <;> simp_all [Session.status, Session.Inv]

/-- `status_` agrees with the flags of the commands pushed so far. -/
def StackerControlApp.Agrees (app : StackerControlApp) : Prop :=
  app.status = (sessionOf app.pushed).status

theorem runRequests_extends_pushed (fresh : StackerControl) (app : StackerControlApp)
    (reqs : List Request) : app.pushed <+: (runRequests fresh app reqs).pushed := by
  induction reqs generalizing app with
  | nil => exact List.prefix_refl _
  | cons r rs ih =>
    have hstep : app.pushed <+: (resultState (handle fresh r app)).pushed := by
      rcases resultState_handle fresh r app with h | ⟨c, h⟩
      · simp only [h, List.prefix_refl]
      · simp only [h, StackerControlApp.push, List.prefix_append]
    exact hstep.trans (ih _)

/-- A request that pushes no `save` keeps the agreement. -/
theorem handle_agrees (fresh : StackerControl) (req : Request) {app : StackerControlApp}
    (h : app.Agrees)
    (hsave : ∀ c ∈ (resultState (handle fresh req app)).pushed, c.op ≠ .ctlSave) :
    (resultState (handle fresh req app)).Agrees := by
  rcases resultState_handle fresh req app with hr | ⟨c, hr⟩ <;> rw [hr] at hsave ⊢
  · exact h
  · have hc : c.op ≠ .ctlSave := hsave c (List.mem_append_right _ (List.mem_singleton_self c))
    simp only [StackerControlApp.Agrees, StackerControlApp.push, sessionOf, List.foldl_append,
      List.foldl_cons, List.foldl_nil]
    rw [h, statusAfter_apply _ _ hc]
    rfl

/-- Requests that push no `save` keep the agreement. -/
theorem runRequests_agrees (fresh : StackerControl) (reqs : List Request) {app : StackerControlApp}
    (h : app.Agrees) (hsave : ∀ c ∈ (runRequests fresh app reqs).pushed, c.op ≠ .ctlSave) :
    (runRequests fresh app reqs).Agrees := by
  induction reqs generalizing app with
  | nil => exact h
  | cons r rs ih =>
    refine ih (handle_agrees fresh r h fun c hc => hsave c ?_) hsave
    exact (runRequests_extends_pushed fresh _ rs).subset hc

/-- **Status and flags, without `save`.** After any requests, some of which may throw, none of
which pushed a `save`: once `run` has consumed every command they pushed, among any other
messages, `status()` reports `"stacking"` iff stacking is active, `"paused"` iff a session is in
process and stacking is not active, and `"idle"` iff no session is in process. -/
theorem runRequests_status (fresh : StackerControl) (dataDir : String) (reqs : List Request)
    (hsave : ∀ c ∈ (runRequests fresh (.init dataDir) reqs).pushed, c.op ≠ .ctlSave)
    (cv : OpenCV) (plateSolving : Bool) (ms : List Msg)
    (hrun : (run cv (.init plateSolving) ms).2 = .waiting)
    (hms : ms.filterMap Msg.control? = (runRequests fresh (.init dataDir) reqs).pushed) :
    let status := (runRequests fresh (.init dataDir) reqs).status
    let vg := (run cv (.init plateSolving) ms).1
    (status = "stacking" ↔ vg.stackingActive = true) ∧
      (status = "paused" ↔ vg.stackingInProcess = true ∧ vg.stackingActive = false) ∧
      (status = "idle" ↔ vg.stackingInProcess = false) := by
  have hagree := @runRequests_agrees fresh reqs (.init dataDir) rfl hsave
  intro status vg
  have hvg : vg.session = sessionOf (runRequests fresh (.init dataDir) reqs).pushed := by
    rw [← hms]; exact run_session_of_controls hrun
  have hstatus : status = vg.session.status := by rw [hvg]; exact hagree
  rw [hstatus]
  exact Session.status_eq_iff (hvg ▸ sessionOf_inv _)

/-- A `pause` with no session: `status_` becomes `"paused"`, and `run`, once it has consumed the
command, has a session in process and stacking inactive. -/
theorem pause_request_status :
    let cv : OpenCV := ⟨fun _ _ _ _ => .error ⟨""⟩, fun _ => .error ⟨""⟩, fun _ _ => .error ⟨""⟩,
      fun _ _ _ => .error ⟨""⟩, fun _ => .error ⟨""⟩⟩
    let reqs : List Request := [.control (.object [("operation", .string "pause")])]
    let ms : List Msg := [⟨0, .stackerControl { (default : StackerControl) with op := .ctlPause }⟩]
    (∀ c ∈ (runRequests default (.init "/data") reqs).pushed, c.op ≠ .ctlSave) ∧
      (run cv (.init false) ms).2 = .waiting ∧
      ms.filterMap Msg.control? = (runRequests default (.init "/data") reqs).pushed ∧
      let status := (runRequests default (.init "/data") reqs).status
      let vg := (run cv (.init false) ms).1
      (status = "stacking" ↔ vg.stackingActive = true) ∧
        (status = "paused" ↔ vg.stackingInProcess = true ∧ vg.stackingActive = false) ∧
        (status = "idle" ↔ vg.stackingInProcess = false) := by
  intro cv reqs ms
  have hsave : ∀ c ∈ (runRequests default (.init "/data") reqs).pushed, c.op ≠ .ctlSave := by
    decide
  exact ⟨hsave, rfl, rfl, runRequests_status default "/data" reqs hsave cv false ms rfl rfl⟩

/-- A `start`, then a `control` request with operation `save`: `status_` stays `"stacking"`,
while `run`, once it has consumed both commands, among any other messages, has stacking inactive
and no session in process. -/
theorem start_then_save :
    let cam : CameraReads := ⟨fun _ => .ok ⟨.streamRaw8, 100, 50, 1⟩, .ok [], fun _ => .ok 1.0⟩
    let app := runRequests default (.init "/data")
      [.start cam "20260101_000000" (.object [("name", .string "m31")]),
        .control (.object [("operation", .string "save")])]
    app.status = "stacking" ∧ ∀ cv plateSolving ms,
      (run cv (.init plateSolving) ms).2 = .waiting → ms.filterMap Msg.control? = app.pushed →
      (run cv (.init plateSolving) ms).1.stackingActive = false ∧
        (run cv (.init plateSolving) ms).1.stackingInProcess = false := by
  intro cam app
  refine ⟨rfl, fun cv plateSolving ms hrun hms => ?_⟩
  have h := run_session_of_controls hrun
  rw [hms] at h
  exact ⟨(congrArg Session.active h).trans rfl, (congrArg Session.inProcess h).trans rfl⟩

end OpenLiveStacker
