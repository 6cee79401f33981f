import OpenLiveStacker.StackerControlApp
import OpenLiveStacker.VideoGenerator.Outputs

/-!
# What the requests of `StackerControlApp` leave

Over any sequence of requests from the constructor, some of which may throw:

* `lastStatusOp`, `statusOfLast`, `runRequests_status_of_last`: `status_` is decided by the last
  command pushed other than a `save` or an `update`, and is always `"idle"`, `"paused"` or
  `"stacking"`;
* `runRequests_status_agrees`: once the dispatch stage has consumed the commands, `status()`
  reports its flags unless the last command other than an `update` was a `save`, after which the
  flags say idle;
* `readCameraConfig_ok`: the option loop of `start`;
* `start_records_camera`: a `start` throws, changing nothing, or pushes an `init` that records
  what each of its three calls of `cam_->stream_format()` answered, names the format so that
  `stream_type_from_str` reads it back, and holds the current value of every option the camera
  supports.
-/

namespace OpenLiveStacker

/-! ### `status_` -/

/-- The operation of the last command among `cs` that sets `status_`: any but a `save` and an
`update`. -/
def lastStatusOp (cs : List StackerControl) : Option StackerControl.Op :=
  ((cs.map (·.op)).filter fun op => op != .ctlSave && op != .ctlUpdate).getLast?

/-- What `status_` reports after the last command that sets it: the constructor's `"idle"` when
there is none. -/
def statusOfLast : Option StackerControl.Op → String
  | some .ctlInit | some .ctlResume => "stacking"
  | some .ctlPause => "paused"
  | _ => "idle"

theorem statusOfLast_cases (op : Option StackerControl.Op) :
    statusOfLast op = "idle" ∨ statusOfLast op = "paused" ∨ statusOfLast op = "stacking" := by
  unfold statusOfLast; split <;> simp

/-- One more command: `status_` as a request pushing it sets it. -/
theorem statusOfLast_snoc (cs : List StackerControl) (c : StackerControl) :
    statusOfLast (lastStatusOp (cs ++ [c])) =
      statusAfter (statusOfLast (lastStatusOp cs)) c.op := by
  cases h : c.op <;> simp [lastStatusOp, statusOfLast, statusAfter, List.getLast?_append, h]

/-- `status_` as the commands pushed so far decide it. -/
def StackerControlApp.StatusOfPushed (app : StackerControlApp) : Prop :=
  app.status = statusOfLast (lastStatusOp app.pushed)

theorem handle_statusOfPushed (fresh : StackerControl) (req : Request) {app : StackerControlApp}
    (h : app.StatusOfPushed) : (resultState (handle fresh req app)).StatusOfPushed := by
  rcases resultState_handle fresh req app with hr | ⟨c, hr⟩ <;> rw [hr]
  · exact h
  · simp only [StackerControlApp.StatusOfPushed, StackerControlApp.push]
    rw [statusOfLast_snoc, ← h]

theorem runRequests_statusOfPushed (fresh : StackerControl) (reqs : List Request)
    {app : StackerControlApp} (h : app.StatusOfPushed) :
    (runRequests fresh app reqs).StatusOfPushed := by
  induction reqs generalizing app with
  | nil => exact h
  | cons r rs ih => exact ih (handle_statusOfPushed fresh r h)

/-- **`status_` from the queue.** After any requests from the constructor, some of which may have
thrown, `status_` is `"stacking"` if the last command pushed other than a `save` or an `update` is
an `init` or a `resume`, `"paused"` if it is a `pause`, and `"idle"` if it is a `cancel` or there is
none; so `status()` only ever reports `"idle"`, `"paused"` or `"stacking"`. -/
theorem runRequests_status_of_last (fresh : StackerControl) (dataDir : String)
    (reqs : List Request) :
    let app := runRequests fresh (.init dataDir) reqs
    app.status = statusOfLast (lastStatusOp app.pushed) ∧
      (app.status = "idle" ∨ app.status = "paused" ∨ app.status = "stacking") := by
  have h := @runRequests_statusOfPushed fresh reqs (.init dataDir) rfl
  exact ⟨h, h ▸ statusOfLast_cases _⟩

/-! ### `status_` against the dispatch stage's flags -/

/-- Unless the last command other than an `update` is a `save`, it is also the last command that
sets `status_`. -/
theorem lastStatusOp_eq (cs : List StackerControl) (h : lastSessionOp cs ≠ some .ctlSave) :
    lastStatusOp cs = lastSessionOp cs := by
  induction cs using List.reverseRecOn with
  | nil => rfl
  | append_singleton cs c ih =>
    cases hc : c.op <;> simp_all [lastStatusOp, lastSessionOp, List.getLast?_append]

/-- `status_` as the last command decides it is what `status()` should report for the flags that
command leaves. -/
theorem statusOfLast_ofLast (cs : List StackerControl) :
    statusOfLast (lastSessionOp cs) = (Session.ofLast Session.idle cs).status := by
  cases h : lastSessionOp cs with
  | none => simp [h, statusOfLast, Session.status, Session.ofLast, Session.idle]
  | some op => cases op <;> simp [h, statusOfLast, Session.status, Session.ofLast]

/-- **`status()` against the flags, `save` included.** After any requests from the constructor,
some of which may have thrown, once `run` has consumed every command they pushed, among any other
messages: `status()` reports the dispatch stage's flags (`"stacking"` when stacking is active,
`"paused"` when only a session is in process, `"idle"` otherwise) unless the last command pushed
other than an `update` is a `save`; after such a `save` the flags say idle, whatever `status()`
reports. -/
theorem runRequests_status_agrees (fresh : StackerControl) (dataDir : String)
    (reqs : List Request) (cv : OpenCV) (plateSolving : Bool) (ms : List Msg)
    (hrun : (run cv (.init plateSolving) ms).2 = .waiting)
    (hms : ms.filterMap Msg.control? = (runRequests fresh (.init dataDir) reqs).pushed) :
    let app := runRequests fresh (.init dataDir) reqs
    let vg := (run cv (.init plateSolving) ms).1
    (lastSessionOp app.pushed ≠ some .ctlSave → app.status = vg.session.status) ∧
      (lastSessionOp app.pushed = some .ctlSave → vg.session.status = "idle") := by
  intro app vg
  have hvg : vg.session = Session.ofLast Session.idle app.pushed := by
    rw [(run_waiting_session hrun).1, init_session, foldl_after_ofLast, hms]
  refine ⟨fun hs => ?_, fun hs => ?_⟩
  · rw [@runRequests_statusOfPushed fresh reqs (.init dataDir) rfl, lastStatusOp_eq _ hs,
      statusOfLast_ofLast, hvg]
  · rw [hvg, ← statusOfLast_ofLast, hs]
    rfl

/-- A `pause` with no session, consumed by `run`: `status()` reports the flags. -/
theorem pause_status_agrees :
    let cv : OpenCV := ⟨fun _ _ _ _ => .error ⟨""⟩, fun _ => .error ⟨""⟩,
      fun _ _ => .error ⟨""⟩, fun _ _ _ => .error ⟨""⟩, fun _ => .error ⟨""⟩⟩
    let reqs : List Request := [.control (.object [("operation", .string "pause")])]
    let ms : List Msg :=
      [⟨0, .stackerControl { (default : StackerControl) with op := .ctlPause }⟩]
    (run cv (.init false) ms).2 = .waiting ∧
      ms.filterMap Msg.control? = (runRequests default (.init "/data") reqs).pushed ∧
      let app := runRequests default (.init "/data") reqs
      let vg := (run cv (.init false) ms).1
      (lastSessionOp app.pushed ≠ some .ctlSave → app.status = vg.session.status) ∧
        (lastSessionOp app.pushed = some .ctlSave → vg.session.status = "idle") := by
  intro cv reqs ms
  exact ⟨rfl, rfl, runRequests_status_agrees default "/data" reqs cv false ms rfl rfl⟩

/-! ### `start` -/

theorem Except.mapError_eq_ok {ε ε' α : Type} {f : ε → ε'} {x : Except ε α} {a : α} :
    x.mapError f = .ok a ↔ x = .ok a := by
  cases x <;> simp [Except.mapError]

/-- The option loop of `start`, when it returns: every supported option was read and its value is
in `camera_config`; every other option keeps what `camera_config` held; `source_gamma` is the
gamma option's value if the camera supports it, and what it held otherwise. -/
theorem readCameraConfig_ok {cam : CameraReads} {opts : List CamOptionId}
    {config config' : CamOptionId → Option Float} {gamma gamma' : Float}
    (h : readCameraConfig cam opts config gamma = .ok (config', gamma')) :
    (∀ o ∈ opts, ∃ v, cam.getParameter o = .ok v ∧ config' o = some v) ∧
      (∀ o, o ∉ opts → config' o = config o) ∧
      (.optGamma ∈ opts → cam.getParameter .optGamma = .ok gamma') ∧
      (.optGamma ∉ opts → gamma' = gamma) := by
  induction opts generalizing config gamma with
  | nil =>
    cases h
    exact ⟨fun _ h => (nomatch h), fun _ _ => rfl, fun h => (nomatch h), fun _ => rfl⟩
  | cons opt opts ih =>
    simp only [readCameraConfig, Except.bind_eq_ok] at h
    obtain ⟨v, hv, h⟩ := h
    obtain ⟨h1, h2, h3, h4⟩ := ih h
    refine ⟨fun o ho => ?_, fun o ho => ?_, fun hg => ?_, fun hg => ?_⟩
    · by_cases hmem : o ∈ opts
      · exact h1 o hmem
      · obtain rfl : o = opt := by simpa [hmem] using ho
        exact ⟨v, hv, by rw [h2 o hmem, if_pos rfl]⟩
    · rw [List.mem_cons, not_or] at ho
      rw [h2 o ho.2, if_neg ho.1]
    · by_cases hmem : CamOptionId.optGamma ∈ opts
      · exact h3 hmem
      · obtain rfl : CamOptionId.optGamma = opt := by simpa [hmem] using hg
        rw [h4 hmem, if_pos rfl, hv]
    · rw [List.mem_cons, not_or] at hg
      rw [h4 hg.2, if_neg (Ne.symm hg.1)]

/-- **What a `start` records of the camera.** A `start` request throws, changing nothing, or pushes
an `init` and sets `status_` to `"stacking"`. Each field comes from its own call of
`cam_->stream_format()`: the `init` is `mono` iff the format of the first answer is, and has that
answer's width and height; it names the format of the second answer in a string that
`stream_type_from_str` reads back as that format; it has the binning of the third. Its
`camera_config` holds the current value of every option the camera supports, each read without
error, and the default for every other option. Its `source_gamma` is the gamma option's value if
the camera supports it, and `1.0` otherwise. -/
theorem start_records_camera (cam : CameraReads) (now : String) (fresh : StackerControl)
    (content : Json) (app : StackerControlApp) :
    (∃ e, start cam now fresh content app = .error e app) ∨
      ∃ fmt₀ fmt₁ fmt₂ opts cmd, cam.streamFormat 0 = .ok fmt₀ ∧ cam.streamFormat 1 = .ok fmt₁ ∧
        cam.streamFormat 2 = .ok fmt₂ ∧ cam.supportedOptions = .ok opts ∧
        start cam now fresh content app = .ok () ({ app with status := "stacking" }.push cmd) ∧
        cmd.op = .ctlInit ∧ cmd.mono = isMonoStream fmt₀.format ∧ cmd.width = fmt₀.width ∧
        cmd.height = fmt₀.height ∧ streamTypeFromStr cmd.format = .ok fmt₁.format ∧
        cmd.bin = fmt₂.bin ∧
        (∀ o ∈ opts, ∃ v, cam.getParameter o = .ok v ∧ cmd.cameraConfig o = some v) ∧
        (∀ o, o ∉ opts → cmd.cameraConfig o = fresh.cameraConfig o) ∧
        (.optGamma ∈ opts → cam.getParameter .optGamma = .ok cmd.sourceGamma) ∧
        (.optGamma ∉ opts → cmd.sourceGamma = 1.0) := by
  unfold start
  cases hc : startCommand app cam now fresh content with
  | error e => exact .inl ⟨e, rfl⟩
  | ok cmd =>
    right
    simp only [startCommand, Except.bind_eq_ok, Except.mapError_eq_ok] at hc
    obtain ⟨fmt₀, h₀, fmt₁, h₁, name, hname, fmt₂, h₂, _, -, opts, hopts, ⟨config, gamma⟩, hcfg,
      hcmd⟩ := hc
    obtain ⟨hsup, hother, hgamma, hnogamma⟩ := readCameraConfig_ok hcfg
    cases hcmd
    exact ⟨fmt₀, fmt₁, fmt₂, opts, _, h₀, h₁, h₂, hopts, rfl, rfl, rfl, rfl, rfl,
      streamType_isCodec.from_to hname, rfl, hsup, hother, hgamma, hnogamma⟩

end OpenLiveStacker
