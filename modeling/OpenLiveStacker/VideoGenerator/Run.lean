import OpenLiveStacker.VideoGenerator.ProcessFrame

/-!
# `VideoGenerator::run`

The dispatch loop of `video_generator.cpp`: pop a message; forward a Shutdown to the live,
stacking and debug outputs and leave the loop; hand a frame to `process_frame`; apply a control to
the session flags and forward it to the same three outputs; log and drop anything else.

* `VideoGenerator.control`, `VideoGenerator.forward`, `VideoGenerator.step`; `run` and `Exit`;
* `Session.apply`, `sessionAfter`, `routes`: the transition table and the forwarding rules of
  spec §4.3, for a message in the state the controls before it leave;
* `run_routes`: every message `run` consumes is forwarded as those rules prescribe;
* `run_clean`: a run that leaves other than at a Shutdown pushes none;
* `run_shutdown`: when no OpenCV call outside `process_frame`'s `try` throws, the first Shutdown
  ends the loop and is the last message of each output it reaches; `run_throws_before_shutdown`:
  the Bayer `switch`'s `default`, which does not return, lets `imencode` throw first;
* `Reachable`, `reachable_stacking_invariant`: stacking active implies a session in process, so no
  frame goes both to stacking and to plate solving.
-/

namespace OpenLiveStacker

namespace VideoGenerator

/-- The `switch` on `ctl_ptr->op` (lines 187–208). -/
def control (vg : VideoGenerator) (c : StackerControl) : VideoGenerator :=
  match c.op with
  | .ctlInit =>
    { vg with stackingActive := true, stackingInProcess := true, debugActive := c.saveInputs }
  | .ctlResume => { vg with stackingActive := true, stackingInProcess := true }
  | .ctlPause => { vg with stackingActive := false, stackingInProcess := true }
  | .ctlSave | .ctlCancel => { vg with stackingActive := false, stackingInProcess := false }
  | .ctlUpdate => vg

/-- `live_out_->push(m); stack_out_->push(m); debug_out_->push(m);`. -/
def forward (vg : VideoGenerator) (m : Msg) : VideoGenerator :=
  { vg with
    liveOut := vg.liveOut ++ [m], stackOut := vg.stackOut ++ [m], debugOut := vg.debugOut ++ [m] }

/-- One pass of `run`'s loop on the popped message: `.ok true` goes on to the next pop, `.ok false`
leaves the loop (`break`), `.error` is an exception leaving it. -/
def step (cv : OpenCV) (vg : VideoGenerator) (m : Msg) :
    EStateM.Result CvException VideoGenerator Bool :=
  match m.item with
  | .shutDown => .ok false (vg.forward m)
  | .cameraFrame f =>
    match processFrame cv vg m.ptr f with
    | .ok () vg' => .ok true vg'
    | .error e vg' => .error e vg'
  | .stackerControl c => .ok true ((vg.control c).forward m)
  | .statsData | .errorNotificationData => .ok true vg

end VideoGenerator

/-- How `run` leaves its loop; `rest` are the messages it never popped. -/
inductive Exit
  /-- Every message was popped: the next `pop` blocks. -/
  | waiting
  /-- The loop broke after forwarding a Shutdown. -/
  | shutdown (rest : List Msg)
  /-- An exception escaped `process_frame`. -/
  | threw (e : CvException) (rest : List Msg)

/-- `VideoGenerator::run()` over the messages its input queue delivers, in order. -/
def run (cv : OpenCV) (vg : VideoGenerator) : List Msg → VideoGenerator × Exit
  | [] => (vg, .waiting)
  | m :: ms =>
    match vg.step cv m with
    | .ok true vg' => run cv vg' ms
    | .ok false vg' => (vg', .shutdown ms)
    | .error e vg' => (vg', .threw e ms)

/-! ### The specification of spec §4.3 -/

/-- The state before any control. -/
def Session.idle : Session := ⟨false, false, false⟩

/-- The control transition table of spec §4.3. -/
def Session.apply (s : Session) (c : StackerControl) : Session :=
  match c.op with
  | .ctlInit => ⟨true, true, c.saveInputs⟩
  | .ctlResume => ⟨true, true, s.debug⟩
  | .ctlPause => ⟨false, true, s.debug⟩
  | .ctlSave => ⟨false, false, s.debug⟩
  | .ctlCancel => ⟨false, false, s.debug⟩
  | .ctlUpdate => s

/-- The state after a message: only a control changes it. -/
def Session.after (s : Session) (m : Msg) : Session :=
  match m.item with
  | .stackerControl c => s.apply c
  | _ => s

/-- The state the controls among `ms` leave, from the idle state. -/
def sessionAfter (ms : List Msg) : Session := ms.foldl Session.after Session.idle

/-- What a message is pushed as, to the live, stacking, debug and plate-solving outputs. -/
structure Routes where
  live : List Msg
  stack : List Msg
  debug : List Msg
  plate : List Msg

/-- The forwarding rules of spec §4.3 for a message in session `s`, with a plate-solving output iff
`plateSolving`. A Shutdown or a control goes once to each of live, stacking and debug; a frame that
passes the format pipeline goes once to live, to stacking iff active, to debug iff debug and
active, to plate solving iff there is one and no session is in process; anything else, and a frame
the pipeline drops or throws on, goes nowhere. -/
def routes (cv : OpenCV) (plateSolving : Bool) (s : Session) (m : Msg) : Routes :=
  match m.item with
  | .shutDown | .stackerControl _ => ⟨[m], [m], [m], []⟩
  | .cameraFrame f =>
    match formatPipeline cv (s.active || plateSolving) f with
    | .ok (some f') =>
      ⟨[⟨m.ptr, .cameraFrame f'⟩],
        if s.active then [⟨m.ptr, .cameraFrame f'⟩] else [],
        if s.debug && s.active then [⟨m.ptr, .cameraFrame f'⟩] else [],
        if plateSolving && !s.inProcess then [⟨m.ptr, .cameraFrame f'⟩] else []⟩
    | _ => ⟨[], [], [], []⟩
  | _ => ⟨[], [], [], []⟩

/-- Going from `vg` to `vg'`, each output received exactly the messages `r` lists for it. -/
structure Forwarded (vg vg' : VideoGenerator) (r : Routes) : Prop where
  live : vg'.liveOut = vg.liveOut ++ r.live
  stack : vg'.stackOut = vg.stackOut ++ r.stack
  debug : vg'.debugOut = vg.debugOut ++ r.debug
  plate : vg'.plateSolvingOut = vg.plateSolvingOut.map (· ++ r.plate)

/-! ### One pass of the loop -/

namespace VideoGenerator

@[simp] theorem forward_session (vg : VideoGenerator) (m : Msg) :
    (vg.forward m).session = vg.session :=
  rfl

/-- The code's `switch` on the operation is the transition table, and touches no output. -/
theorem control_eq (vg : VideoGenerator) (c : StackerControl) :
    vg.control c = { vg with
      stackingActive := (vg.session.apply c).active
      stackingInProcess := (vg.session.apply c).inProcess
      debugActive := (vg.session.apply c).debug } := by
  cases c with
  | mk op => cases op <;> rfl

@[simp] theorem control_session (vg : VideoGenerator) (c : StackerControl) :
    (vg.control c).session = vg.session.apply c := by
  rw [control_eq]; rfl

end VideoGenerator

/-- Nothing pushed anywhere. -/
theorem Forwarded.none (vg : VideoGenerator) : Forwarded vg vg ⟨[], [], [], []⟩ :=
  ⟨by simp, by simp, by simp, by simp⟩

/-- The fan-out of `process_frame` pushes by the rules of `routes`. -/
theorem fanOut_forwarded (vg : VideoGenerator) (m : Msg) :
    Forwarded vg (vg.fanOut m)
      ⟨[m], if vg.stackingActive then [m] else [],
        if vg.debugActive && vg.stackingActive then [m] else [],
        if vg.plateSolvingOut.isSome && !vg.stackingInProcess then [m] else []⟩ := by
  constructor
  · rfl
  · simp only [VideoGenerator.fanOut]; split <;> simp
  · simp only [VideoGenerator.fanOut]; split <;> simp
  · cases hq : vg.plateSolvingOut <;> cases hi : vg.stackingInProcess <;>
      simp [VideoGenerator.fanOut, hq, hi]

theorem forward_forwarded (vg : VideoGenerator) (m : Msg) :
    Forwarded vg (vg.forward m) ⟨[m], [m], [m], []⟩ :=
  ⟨rfl, rfl, rfl, by simp; rfl⟩

/-- A control forwarded to live, stacking and debug. -/
theorem control_forward_forwarded (vg : VideoGenerator) (c : StackerControl) (m : Msg) :
    Forwarded vg ((vg.control c).forward m) ⟨[m], [m], [m], []⟩ := by
  rw [VideoGenerator.control_eq]
  exact ⟨rfl, rfl, rfl, by simp; rfl⟩

/-- One pass: the outputs receive what `routes` prescribes for the flags the pass starts from, and
the flags become `Session.after`. -/
theorem step_routes (cv : OpenCV) (vg : VideoGenerator) (m : Msg) :
    Forwarded vg (resultState (vg.step cv m)) (routes cv vg.plateSolvingOut.isSome vg.session m) ∧
      (resultState (vg.step cv m)).session = vg.session.after m := by
  obtain ⟨ptr, item⟩ := m
  cases item with
  | shutDown => exact ⟨forward_forwarded vg _, rfl⟩
  | cameraFrame f =>
    simp only [VideoGenerator.step, routes, Session.after, processFrame]
    have hn : vg.needsPixels = (vg.session.active || vg.plateSolvingOut.isSome) := rfl
    rw [hn]
    generalize formatPipeline cv (vg.session.active || vg.plateSolvingOut.isSome) f = r
    rcases r with e | _ | f'
    · exact ⟨Forwarded.none vg, rfl⟩
    · exact ⟨Forwarded.none vg, rfl⟩
    · exact ⟨fanOut_forwarded vg _, rfl⟩
  | stackerControl c =>
    exact ⟨control_forward_forwarded vg c _,
      by simp [VideoGenerator.step, resultState, Session.after]⟩
  | statsData | errorNotificationData => exact ⟨Forwarded.none vg, rfl⟩

/-- Everything a pass can do: leave the loop after forwarding a Shutdown; go on after anything
else; or let an exception of a frame escape, having pushed nothing. -/
theorem step_cases (cv : OpenCV) (vg : VideoGenerator) (m : Msg) :
    (m.isShutDown = true ∧ vg.step cv m = .ok false (vg.forward m)) ∨
      (m.isShutDown = false ∧ ∃ vg', vg.step cv m = .ok true vg') ∨
      (m.isShutDown = false ∧ ∃ e, vg.step cv m = .error e vg) := by
  obtain ⟨ptr, item⟩ := m
  cases item with
  | shutDown => exact .inl ⟨rfl, rfl⟩
  | cameraFrame f =>
    simp only [VideoGenerator.step]
    rcases h : processFrame cv vg ptr f with ⟨_, vg'⟩ | ⟨e, vg'⟩
    · exact .inr (.inl ⟨rfl, vg', rfl⟩)
    · exact .inr (.inr ⟨rfl, e, by rw [processFrame_error h]⟩)
  | stackerControl c => exact .inr (.inl ⟨rfl, _, rfl⟩)
  | statsData | errorNotificationData => exact .inr (.inl ⟨rfl, _, rfl⟩)

/-! ### Runs -/

/-- After a run that popped all of `pre`, running on continues from where it stopped. -/
theorem run_append_of_waiting {cv : OpenCV} {vg : VideoGenerator} {pre : List Msg}
    (h : (run cv vg pre).2 = .waiting) (post : List Msg) :
    run cv vg (pre ++ post) = run cv (run cv vg pre).1 post := by
  induction pre generalizing vg with
  | nil => rfl
  | cons m pre ih =>
    rcases hs : vg.step cv m with ⟨_ | _, vg'⟩ | ⟨e, vg'⟩
    · simp [run, hs] at h
    · simp only [run, hs, List.cons_append] at h ⊢; exact ih h
    · simp [run, hs] at h

/-- A run that pops all of `ms` leaves the flags that the controls among `ms` give, by the table,
and keeps whether there is a plate-solving output. -/
theorem run_waiting_session {cv : OpenCV} {vg : VideoGenerator} {ms : List Msg}
    (h : (run cv vg ms).2 = .waiting) :
    (run cv vg ms).1.session = ms.foldl Session.after vg.session ∧
      (run cv vg ms).1.plateSolvingOut.isSome = vg.plateSolvingOut.isSome := by
  induction ms generalizing vg with
  | nil => exact ⟨rfl, rfl⟩
  | cons m ms ih =>
    rcases step_cases cv vg m with ⟨-, hs⟩ | ⟨-, vg', hs⟩ | ⟨-, e, hs⟩
    · simp [run, hs] at h
    · simp only [run, hs] at h ⊢
      obtain ⟨hf, hsess⟩ := step_routes cv vg m
      simp only [hs, resultState] at hf hsess
      obtain ⟨ih1, ih2⟩ := ih h
      refine ⟨by rw [ih1, List.foldl_cons, hsess], ?_⟩
      rw [ih2, hf.plate, Option.isSome_map']
    · simp [run, hs] at h

theorem run_singleton (cv : OpenCV) (vg : VideoGenerator) (m : Msg) :
    (run cv vg [m]).1 = resultState (vg.step cv m) := by
  simp only [run]
  split <;> simp_all [run, resultState]

@[simp] theorem init_session (plateSolving : Bool) :
    (VideoGenerator.init plateSolving).session = Session.idle := rfl

@[simp] theorem init_plateSolvingOut_isSome (plateSolving : Bool) :
    (VideoGenerator.init plateSolving).plateSolvingOut.isSome = plateSolving := by
  cases plateSolving <;> rfl

/-- **The transition table and the forwarding rules.** Let `run` start from its constructor and
consume all of `pre`, then pop `m`. The flags it has before `m` are those the table gives for the
controls in `pre`, and only a control changes them; `m` is forwarded, once to each output it goes
to, as `routes` prescribes in those flags: a control to live, stacking and debug and never to plate
solving; a frame that passes the format pipeline to live, to stacking iff stacking is active, to
debug iff debug and stacking are active, and to plate solving iff there is such an output and no
session is in process; a dropped frame, a frame whose processing throws, and any other message but
a Shutdown to no output. -/
theorem run_routes (cv : OpenCV) (plateSolving : Bool) (pre : List Msg) (m : Msg)
    (hpre : (run cv (.init plateSolving) pre).2 = .waiting) :
    (run cv (.init plateSolving) pre).1.session = sessionAfter pre ∧
      (run cv (.init plateSolving) (pre ++ [m])).1.session = sessionAfter (pre ++ [m]) ∧
      Forwarded (run cv (.init plateSolving) pre).1 (run cv (.init plateSolving) (pre ++ [m])).1
        (routes cv plateSolving (sessionAfter pre) m) := by
  obtain ⟨hs, hp⟩ := run_waiting_session hpre
  simp only [init_session, init_plateSolvingOut_isSome] at hs hp
  obtain ⟨hf, hsess⟩ := step_routes cv (run cv (.init plateSolving) pre).1 m
  rw [hs, hp] at hf
  rw [hs] at hsess
  rw [run_append_of_waiting hpre, run_singleton]
  refine ⟨hs, ?_, hf⟩
  rw [hsess, sessionAfter, List.foldl_append]
  rfl

/-- After an `init` with `save_inputs`, on an OpenCV that never throws, an `rgb24` frame of one
pixel is forwarded to the live, stacking and debug outputs, and not to plate solving, the session
being in process. -/
theorem run_routes_frame_after_init :
    let pre : List Msg :=
      [⟨0, .stackerControl { (default : StackerControl) with op := .ctlInit, saveInputs := true }⟩]
    let m : Msg :=
      ⟨1, .cameraFrame ⟨⟨.streamRgb24, 1, 1, 1⟩, .bayerNa, ⟨[1, 2, 3]⟩, 0, none, {}, {}⟩⟩
    let r := routes .passThrough true (sessionAfter pre) m
    (run .passThrough (.init true) pre).2 = .waiting ∧
      ((run .passThrough (.init true) pre).1.session = sessionAfter pre ∧
        (run .passThrough (.init true) (pre ++ [m])).1.session = sessionAfter (pre ++ [m]) ∧
        Forwarded (run .passThrough (.init true) pre).1
          (run .passThrough (.init true) (pre ++ [m])).1 r) ∧
      r.live.length = 1 ∧ r.stack.length = 1 ∧ r.debug.length = 1 ∧ r.plate = [] := by
  intro pre m r
  exact ⟨rfl, run_routes .passThrough true pre m rfl, rfl, rfl, rfl, rfl⟩

/-! ### The Shutdown sentinel -/

/-- No message of `l` is a Shutdown. -/
def NoShutDown (l : List Msg) : Prop := ∀ m ∈ l, m.isShutDown = false

instance (l : List Msg) : Decidable (NoShutDown l) := inferInstanceAs (Decidable (∀ m ∈ l, _))

/-- No output holds a Shutdown. -/
def VideoGenerator.Clean (vg : VideoGenerator) : Prop :=
  NoShutDown vg.liveOut ∧ NoShutDown vg.stackOut ∧ NoShutDown vg.debugOut ∧
    ∀ q ∈ vg.plateSolvingOut, NoShutDown q

/-- No route holds a Shutdown. -/
def Routes.NoShutDown (r : Routes) : Prop :=
  OpenLiveStacker.NoShutDown (r.live ++ r.stack ++ r.debug ++ r.plate)

theorem noShutDown_append {l l' : List Msg} :
    NoShutDown (l ++ l') ↔ NoShutDown l ∧ NoShutDown l' := List.forall_mem_append

/-- The rules route only the message itself or the frame it carries, so no Shutdown. -/
theorem routes_noShutDown (cv : OpenCV) (plateSolving : Bool) (s : Session) {m : Msg}
    (hm : m.isShutDown = false) : (routes cv plateSolving s m).NoShutDown := by
  obtain ⟨ptr, item⟩ := m
  cases item with
  | cameraFrame f =>
    simp only [routes, Routes.NoShutDown]
    split
    · intro m' h
      simp only [List.mem_append, List.mem_singleton, List.mem_ite_nil_right] at h
      rcases h with ((rfl | ⟨-, rfl⟩) | ⟨-, rfl⟩) | ⟨-, rfl⟩ <;> rfl
    · intro _ h; simp at h
  | stackerControl c =>
    intro m' h
    simp only [routes, List.mem_append, List.mem_singleton, List.not_mem_nil, or_false,
      or_self] at h
    rw [h]; exact hm
  | shutDown => cases hm
  | _ => intro _ h; simp [routes] at h

theorem Forwarded.clean {vg vg' : VideoGenerator} {r : Routes} (hf : Forwarded vg vg' r)
    (hr : r.NoShutDown) (hvg : vg.Clean) : vg'.Clean := by
  simp only [Routes.NoShutDown, noShutDown_append] at hr
  obtain ⟨⟨⟨hl, hs⟩, hd⟩, hp⟩ := hr
  obtain ⟨hl₀, hs₀, hd₀, hp₀⟩ := hvg
  refine ⟨?_, ?_, ?_, ?_⟩
  · rw [hf.live]; exact noShutDown_append.2 ⟨hl₀, hl⟩
  · rw [hf.stack]; exact noShutDown_append.2 ⟨hs₀, hs⟩
  · rw [hf.debug]; exact noShutDown_append.2 ⟨hd₀, hd⟩
  · intro q hq
    rw [hf.plate, Option.mem_map] at hq
    obtain ⟨q₀, hq₀, rfl⟩ := hq
    exact noShutDown_append.2 ⟨hp₀ q₀ hq₀, hp⟩

/-- A pass on anything but a Shutdown pushes no Shutdown. -/
theorem step_clean (cv : OpenCV) {vg : VideoGenerator} {m : Msg} (hm : m.isShutDown = false)
    (hvg : vg.Clean) : (resultState (vg.step cv m)).Clean :=
  (step_routes cv vg m).1.clean (routes_noShutDown _ _ _ hm) hvg

/-- A run that leaves other than at a Shutdown pushes no Shutdown. -/
theorem run_clean {cv : OpenCV} {vg : VideoGenerator} (hvg : vg.Clean) (ms : List Msg)
    (h : ∀ rest, (run cv vg ms).2 ≠ .shutdown rest) : (run cv vg ms).1.Clean := by
  induction ms generalizing vg with
  | nil => exact hvg
  | cons m ms ih =>
    rcases step_cases cv vg m with ⟨-, hs⟩ | ⟨hm, vg', hs⟩ | ⟨-, e, hs⟩ <;>
      simp only [run, hs] at h ⊢
    · exact absurd rfl (h ms)
    · exact ih (by simpa only [hs, resultState] using step_clean cv hm hvg) h
    · exact hvg

@[simp] theorem init_clean (plateSolving : Bool) : (VideoGenerator.init plateSolving).Clean := by
  cases plateSolving <;> simp [VideoGenerator.Clean, VideoGenerator.init, NoShutDown]

/-- When no OpenCV call outside `process_frame`'s `try` throws, a pass on anything but a Shutdown
goes on to the next pop. -/
theorem step_returns {cv : OpenCV} (hcv : cv.NoThrow) (vg : VideoGenerator) {m : Msg}
    (hm : m.isShutDown = false) : ∃ vg', vg.step cv m = .ok true vg' := by
  obtain ⟨ptr, item⟩ := m
  cases item with
  | shutDown => cases hm
  | cameraFrame f =>
    obtain ⟨vg', h⟩ := processFrame_returns hcv vg ptr f
    exact ⟨vg', by simp only [VideoGenerator.step, h]⟩
  | _ => exact ⟨_, rfl⟩

/-- When no OpenCV call outside `process_frame`'s `try` throws, a run over messages none of which
is a Shutdown pops them all. -/
theorem run_waiting_of_noShutDown {cv : OpenCV} (hcv : cv.NoThrow) (vg : VideoGenerator)
    {ms : List Msg} (h : NoShutDown ms) : (run cv vg ms).2 = .waiting := by
  induction ms generalizing vg with
  | nil => rfl
  | cons m ms ih =>
    obtain ⟨hm, hms⟩ := List.forall_mem_cons.1 h
    obtain ⟨vg', hs⟩ := step_returns hcv vg hm
    simp only [run, hs]
    exact ih vg' hms

theorem step_shutDown (cv : OpenCV) (vg : VideoGenerator) {m : Msg} (hm : m.isShutDown = true) :
    vg.step cv m = .ok false (vg.forward m) := by
  obtain ⟨ptr, item⟩ := m
  cases item <;> first | rfl | cases hm

/-- **The Shutdown sentinel**, when no OpenCV call outside `process_frame`'s `try` throws. On any
input, from its constructor: if the input holds a Shutdown, `run` leaves its loop at the first one,
having popped nothing after it; that Shutdown is then the last message of the live, stacking and
debug outputs and their only Shutdown, and plate solving received none. If the input holds no
Shutdown, `run` pops it all and no output holds a Shutdown. -/
theorem run_shutdown {cv : OpenCV} (hcv : cv.NoThrow) (plateSolving : Bool) (ms : List Msg) :
    let r := run cv (.init plateSolving) ms
    (∀ pre sd post, ms = pre ++ sd :: post → NoShutDown pre → sd.isShutDown = true →
        r.2 = .shutdown post ∧ (∃ l, r.1.liveOut = l ++ [sd] ∧ NoShutDown l) ∧
        (∃ l, r.1.stackOut = l ++ [sd] ∧ NoShutDown l) ∧
        (∃ l, r.1.debugOut = l ++ [sd] ∧ NoShutDown l) ∧ ∀ q ∈ r.1.plateSolvingOut, NoShutDown q) ∧
      (NoShutDown ms → r.2 = .waiting ∧ r.1.Clean) := by
  intro r
  have hclean {l : List Msg} (h : NoShutDown l) : (run cv (.init plateSolving) l).1.Clean :=
    run_clean (init_clean plateSolving) l (by rw [run_waiting_of_noShutDown hcv _ h]; nofun)
  refine ⟨fun pre sd post hms hpre hsd => ?_,
    fun h => ⟨run_waiting_of_noShutDown hcv _ h, hclean h⟩⟩
  obtain ⟨hl, hs, hd, hp⟩ := hclean hpre
  have hrun : r = ((run cv (.init plateSolving) pre).1.forward sd, .shutdown post) := by
    simp only [r, hms, run_append_of_waiting (run_waiting_of_noShutDown hcv _ hpre), run,
      step_shutDown cv _ hsd]
  rw [hrun]
  exact ⟨rfl, ⟨_, rfl, hl⟩, ⟨_, rfl, hs⟩, ⟨_, rfl, hd⟩, hp⟩

/-- A frame, a Shutdown, then a control, on an OpenCV that never throws: `run` forwards the
Shutdown and leaves its loop with the control unpopped. -/
theorem run_shutdown_after_frame :
    let ms : List Msg := [⟨0, .cameraFrame ⟨⟨.streamRgb24, 1, 1, 1⟩, .bayerNa, ⟨[1, 2, 3]⟩, 0, none,
      {}, {}⟩⟩, ⟨1, .shutDown⟩, ⟨2, .stackerControl default⟩]
    OpenCV.passThrough.NoThrow ∧
      let r := run .passThrough (.init false) ms
      (∀ pre sd post, ms = pre ++ sd :: post → NoShutDown pre → sd.isShutDown = true →
          r.2 = .shutdown post ∧ (∃ l, r.1.liveOut = l ++ [sd] ∧ NoShutDown l) ∧
          (∃ l, r.1.stackOut = l ++ [sd] ∧ NoShutDown l) ∧
          (∃ l, r.1.debugOut = l ++ [sd] ∧ NoShutDown l) ∧
          ∀ q ∈ r.1.plateSolvingOut, NoShutDown q) ∧
        (NoShutDown ms → r.2 = .waiting ∧ r.1.Clean) :=
  ⟨OpenCV.passThrough_noThrow, run_shutdown OpenCV.passThrough_noThrow false _⟩

/-- On `OpenCV.checked`, a `raw8` frame whose Bayer tag is none of the four patterns, then a
Shutdown. The `default` of the Bayer `switch` logs but, unlike the other error paths of
`process_frame`, does not return: `handle_jpeg_stack` encodes the empty `rgb`, `imencode`'s
assertion throws, and the exception escapes `run` before the Shutdown is popped. No output
receives the sentinel. -/
theorem run_throws_before_shutdown :
    let frame : CameraFrame := ⟨⟨.streamRaw8, 1, 1, 1⟩, .bayerNa, ⟨[0]⟩, 0, none, {}, {}⟩
    run .checked (.init false) [⟨0, .cameraFrame frame⟩, ⟨1, .shutDown⟩] =
      (.init false, .threw ⟨"!image.empty()"⟩ [⟨1, .shutDown⟩]) :=
  rfl

/-! ### Stacking and plate solving exclude each other -/

/-- Stacking active implies a session in process. -/
def Session.Inv (s : Session) : Prop := s.active = true → s.inProcess = true

/-- Every row of the table keeps the invariant: `init` and `resume` set both flags, `pause` sets
only the second, `save` and `cancel` clear both, `update` changes nothing. -/
theorem Session.Inv.apply {s : Session} (h : s.Inv) (c : StackerControl) : (s.apply c).Inv := by
  unfold Session.apply
  split <;> first | exact h | exact fun _ => rfl | exact id

theorem Session.Inv.after {s : Session} (h : s.Inv) (m : Msg) : (s.after m).Inv := by
  unfold Session.after
  split
  · exact h.apply _
  · exact h

/-- No message is routed both to stacking and to plate solving, and what is routed to debug is
routed to stacking. -/
def Routes.Exclusive (r : Routes) : Prop :=
  (r.stack = [] ∨ r.plate = []) ∧ (r.debug = [] ∨ r.debug = r.stack)

theorem routes_exclusive (cv : OpenCV) (plateSolving : Bool) {s : Session} (hs : s.Inv)
    (m : Msg) : (routes cv plateSolving s m).Exclusive := by
  unfold routes
  split
  · exact ⟨.inr rfl, .inr rfl⟩
  · exact ⟨.inr rfl, .inr rfl⟩
  · split
    · cases ha : s.active
      · simp [Routes.Exclusive]
      · cases s.debug <;> simp [Routes.Exclusive, hs ha]
    · exact ⟨.inl rfl, .inl rfl⟩
  · exact ⟨.inl rfl, .inl rfl⟩

/-- What exclusive routes mean for the outputs. -/
theorem Forwarded.exclusive {vg vg' : VideoGenerator} {r : Routes} (hf : Forwarded vg vg' r)
    (hr : r.Exclusive) :
    (vg'.stackOut = vg.stackOut ∨ vg'.plateSolvingOut = vg.plateSolvingOut) ∧
      ∀ l, vg'.debugOut = vg.debugOut ++ l → l = [] ∨ vg'.stackOut = vg.stackOut ++ l := by
  obtain ⟨hsp, hds⟩ := hr
  refine ⟨?_, fun l hl => ?_⟩
  · rcases hsp with h | h
    · left; rw [hf.stack, h, List.append_nil]
    · right; rw [hf.plate, h]; simp
  · obtain rfl : l = r.debug := List.append_cancel_left (hl.symm.trans hf.debug)
    rcases hds with h | h
    · exact .inl h
    · right; rw [hf.stack, h]

/-- The states `run` can be in: its constructor's, and any state a pass leads to from one. -/
inductive Reachable (cv : OpenCV) (plateSolving : Bool) : VideoGenerator → Prop
  | init : Reachable cv plateSolving (.init plateSolving)
  | step {vg : VideoGenerator} (m : Msg) :
      Reachable cv plateSolving vg → Reachable cv plateSolving (resultState (vg.step cv m))

theorem Reachable.session_inv {cv : OpenCV} {plateSolving : Bool} {vg : VideoGenerator}
    (h : Reachable cv plateSolving vg) : vg.session.Inv := by
  induction h with
  | init => exact fun h => h
  | step m _ ih => rw [(step_routes cv _ m).2]; exact ih.after m

/-- Every state `run` leaves in, on any input, is reachable. -/
theorem Reachable.run {cv : OpenCV} {plateSolving : Bool} {vg : VideoGenerator}
    (h : Reachable cv plateSolving vg) (ms : List Msg) :
    Reachable cv plateSolving (OpenLiveStacker.run cv vg ms).1 := by
  induction ms generalizing vg with
  | nil => exact h
  | cons m ms ih =>
    have h' := h.step m
    rcases hs : vg.step cv m with ⟨_ | _, vg'⟩ | ⟨e, vg'⟩ <;>
      simp only [hs, resultState] at h' <;> simp only [OpenLiveStacker.run, hs]
    · exact h'
    · exact ih h'
    · exact h'

/-- **Stacking excludes plate solving.** In every state `run` can reach, stacking active implies a
session in process. So whatever message it handles next, it pushes nothing to stacking or nothing
to plate solving, and what it pushes to debug it also pushes to stacking. -/
theorem reachable_stacking_invariant {cv : OpenCV} {plateSolving : Bool} {vg : VideoGenerator}
    (h : Reachable cv plateSolving vg) :
    (vg.stackingActive = true → vg.stackingInProcess = true) ∧ ∀ m,
      ((resultState (vg.step cv m)).stackOut = vg.stackOut ∨
          (resultState (vg.step cv m)).plateSolvingOut = vg.plateSolvingOut) ∧
        ∀ l, (resultState (vg.step cv m)).debugOut = vg.debugOut ++ l →
          l = [] ∨ (resultState (vg.step cv m)).stackOut = vg.stackOut ++ l := by
  exact ⟨h.session_inv, fun m =>
    (step_routes cv vg m).1.exclusive (routes_exclusive _ _ h.session_inv m)⟩

/-- After an `init` control the state is reachable and stacking is active; the invariant holds
there. -/
theorem init_control_stacking_invariant :
    let vg := resultState ((VideoGenerator.init true).step .passThrough
      ⟨0, .stackerControl { (default : StackerControl) with op := .ctlInit, saveInputs := true }⟩)
    Reachable .passThrough true vg ∧ vg.stackingActive = true ∧
      (vg.stackingActive = true → vg.stackingInProcess = true) ∧ ∀ m,
        ((resultState (vg.step .passThrough m)).stackOut = vg.stackOut ∨
            (resultState (vg.step .passThrough m)).plateSolvingOut = vg.plateSolvingOut) ∧
          ∀ l, (resultState (vg.step .passThrough m)).debugOut = vg.debugOut ++ l →
            l = [] ∨ (resultState (vg.step .passThrough m)).stackOut = vg.stackOut ++ l := by
  intro vg
  have h : Reachable .passThrough true vg := .step _ .init
  exact ⟨h, rfl, reachable_stacking_invariant h⟩

end OpenLiveStacker
