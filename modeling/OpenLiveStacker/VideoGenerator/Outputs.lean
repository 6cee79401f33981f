import OpenLiveStacker.Pipeline

/-!
# What the outputs of `VideoGenerator::run` hold

The four output queues and the flags of the dispatch loop over whole runs: from its constructor,
on any input, whichever way the loop leaves (input exhausted, Shutdown, or an exception of
`process_frame`).

* `Routes.Within`, `VideoGenerator.Nested`, `run_outputs_nested`: debug is a subsequence of
  stacking, stacking and plate solving are subsequences of live, and stacking and plate solving
  together fit in live, counting copies;
* `Exit.rest`, `Routes.Carries`, `Broadcast`, `run_broadcasts_controls`: live, stacking and debug
  each receive every control the loop popped, in the order popped, and plate solving receives
  frames only;
* `lastSessionOp`, `lastInit`, `Session.ofLast`, `run_session_of_last`: the flags after any run
  are decided by the last control that is not an `update`, and `debug_active_` by the last
  `init`, whatever came after it;
* `CameraFrame.PixelsFromRaw`, `run_frames_have_pixels`: every frame the stacking and
  plate-solving outputs receive has its working matrix computed, in the pass that forwarded it,
  from its raw view;
* `runStage_rest`, `fifoStage_controls`: behind the FIFO input queue, under any interleaving of
  producers, the three outputs hold the controls of a prefix of the push order, none lost,
  repeated or reordered.
-/

namespace OpenLiveStacker

/-- `dynamic_pointer_cast<CameraFrame>` succeeds. -/
def Msg.isFrame (m : Msg) : Bool :=
  match m.item with
  | .cameraFrame _ => true
  | _ => false

/-- The messages a run never popped. -/
def Exit.rest : Exit → List Msg
  | .waiting => []
  | .shutdown rest => rest
  | .threw _ rest => rest

theorem subperm_append {α : Type} {l₁ l₂ r₁ r₂ : List α} (hl : List.Subperm l₁ l₂)
    (hr : List.Subperm r₁ r₂) : List.Subperm (l₁ ++ r₁) (l₂ ++ r₂) :=
  ((List.subperm_append_right r₁).2 hl).trans ((List.subperm_append_left l₂).2 hr)

/-! ### Nesting of the outputs -/

/-- What a pass routes to stacking or to plate solving, it routes to live. -/
def Routes.Within (r : Routes) : Prop :=
  List.Sublist r.stack r.live ∧ List.Sublist r.plate r.live

theorem routes_within (cv : OpenCV) (plateSolving : Bool) (s : Session) (m : Msg) :
    (routes cv plateSolving s m).Within := by
  unfold routes
  split
  · exact ⟨.refl _, List.nil_sublist _⟩
  · exact ⟨.refl _, List.nil_sublist _⟩
  · split
    · refine ⟨?_, ?_⟩ <;> simp only <;> split <;> simp
    · exact ⟨.slnil, .slnil⟩
  · exact ⟨.slnil, .slnil⟩

/-- The outputs nest: debug within stacking within live as subsequences; each plate-solving queue
within live; and stacking with plate solving within live counting copies, so that no message live
received once went both to stacking and to plate solving. -/
structure VideoGenerator.Nested (vg : VideoGenerator) : Prop where
  debug_stack : List.Sublist vg.debugOut vg.stackOut
  stack_live : List.Sublist vg.stackOut vg.liveOut
  plate_live : ∀ q ∈ vg.plateSolvingOut, List.Sublist q vg.liveOut
  stack_plate_live : ∀ q ∈ vg.plateSolvingOut, List.Subperm (vg.stackOut ++ q) vg.liveOut

theorem init_plateSolvingOut_nil (plateSolving : Bool) :
    ∀ q ∈ (VideoGenerator.init plateSolving).plateSolvingOut, q = [] := by
  cases plateSolving <;> simp [VideoGenerator.init]

theorem init_nested (plateSolving : Bool) : (VideoGenerator.init plateSolving).Nested :=
  have hq := init_plateSolvingOut_nil plateSolving
  ⟨.slnil, .slnil, fun q h => hq q h ▸ .slnil, fun q h => hq q h ▸ List.nil_subperm⟩

/-- A pass whose routes are exclusive and within live keeps the outputs nested. -/
theorem Forwarded.nested {vg vg' : VideoGenerator} {r : Routes} (hf : Forwarded vg vg' r)
    (hx : r.Exclusive) (hw : r.Within) (h : vg.Nested) : vg'.Nested := by
  obtain ⟨hsp, hds⟩ := hx
  have hd : List.Sublist r.debug r.stack := by
    rcases hds with hds | hds <;> simp [hds]
  have hr : List.Subperm (r.stack ++ r.plate) r.live := by
    rcases hsp with hsp | hsp <;> rw [hsp]
    exacts [hw.2.subperm, by simpa using hw.1.subperm]
  have hplate :
      ∀ q' ∈ vg'.plateSolvingOut, ∃ q ∈ vg.plateSolvingOut, q' = q ++ r.plate := by
    intro q' hq'
    rw [hf.plate, Option.mem_map] at hq'
    obtain ⟨q, hq, rfl⟩ := hq'
    exact ⟨q, hq, rfl⟩
  refine ⟨?_, ?_, fun q' hq' => ?_, fun q' hq' => ?_⟩
  · rw [hf.debug, hf.stack]; exact h.debug_stack.append hd
  · rw [hf.stack, hf.live]; exact h.stack_live.append hw.1
  · obtain ⟨q, hq, rfl⟩ := hplate q' hq'
    rw [hf.live]; exact (h.plate_live q hq).append hw.2
  · obtain ⟨q, hq, rfl⟩ := hplate q' hq'
    rw [hf.stack, hf.live]
    have hperm : List.Perm (vg.stackOut ++ r.stack ++ (q ++ r.plate))
        (vg.stackOut ++ q ++ (r.stack ++ r.plate)) := by
      simp only [List.append_assoc]
      exact List.Perm.append_left _ (List.perm_append_comm_assoc _ _ _)
    exact hperm.subperm.trans (subperm_append (h.stack_plate_live q hq) hr)

theorem Reachable.nested {cv : OpenCV} {plateSolving : Bool} {vg : VideoGenerator}
    (h : Reachable cv plateSolving vg) : vg.Nested := by
  induction h with
  | init => exact init_nested plateSolving
  | step m hr ih =>
    exact (step_routes cv _ m).1.nested (routes_exclusive _ _ hr.session_inv m)
      (routes_within _ _ _ m) ih

/-- **The outputs nest.** After any run from the constructor, on any input and whichever way the
loop left: the debug output is a subsequence of the stacking output, which is a subsequence of the
live output; the plate-solving output is a subsequence of the live output; and the stacking and
plate-solving outputs together fit in the live output, counting copies, so no message the live
output received once went to both. -/
theorem run_outputs_nested (cv : OpenCV) (plateSolving : Bool) (ms : List Msg) :
    let vg := (run cv (.init plateSolving) ms).1
    List.Sublist vg.debugOut vg.stackOut ∧ List.Sublist vg.stackOut vg.liveOut ∧
      ∀ q ∈ vg.plateSolvingOut,
        List.Sublist q vg.liveOut ∧ List.Subperm (vg.stackOut ++ q) vg.liveOut := by
  have h := ((@Reachable.init cv plateSolving).run ms).nested
  exact ⟨h.debug_stack, h.stack_live,
    fun q hq => ⟨h.plate_live q hq, h.stack_plate_live q hq⟩⟩

/-! ### Controls reach live, stacking and debug -/

theorem filterMap_control_cons (m : Msg) (l : List Msg) :
    (m :: l).filterMap Msg.control? = m.control?.toList ++ l.filterMap Msg.control? := by
  cases h : m.control? <;> simp [List.filterMap_cons, h]

/-- What a pass routes for `m`: to each of live, stacking and debug the control `m` is, if it is
one, among frames and Shutdowns; to plate solving, frames only. -/
def Routes.Carries (r : Routes) (m : Msg) : Prop :=
  r.live.filterMap Msg.control? = m.control?.toList ∧
    r.stack.filterMap Msg.control? = m.control?.toList ∧
    r.debug.filterMap Msg.control? = m.control?.toList ∧ ∀ x ∈ r.plate, x.isFrame = true

theorem routes_carries (cv : OpenCV) (plateSolving : Bool) (s : Session) (m : Msg) :
    (routes cv plateSolving s m).Carries m := by
  obtain ⟨ptr, item⟩ := m
  cases item with
  | shutDown => exact ⟨rfl, rfl, rfl, fun _ h => nomatch h⟩
  | stackerControl c => exact ⟨rfl, rfl, rfl, fun _ h => nomatch h⟩
  | cameraFrame f =>
    simp only [routes, Routes.Carries]
    split
    · refine ⟨rfl, ?_, ?_, ?_⟩ <;> split_ifs <;> simp [Msg.isFrame, Msg.control?]
    · exact ⟨rfl, rfl, rfl, fun _ h => nomatch h⟩
  | statsData | errorNotificationData => exact ⟨rfl, rfl, rfl, fun _ h => nomatch h⟩

/-- From `vg` to `vg'`, each of live, stacking and debug received the controls `cs`, in order,
among other messages, and plate solving received frames only. -/
structure Broadcast (vg vg' : VideoGenerator) (cs : List StackerControl) : Prop where
  live : vg'.liveOut.filterMap Msg.control? = vg.liveOut.filterMap Msg.control? ++ cs
  stack : vg'.stackOut.filterMap Msg.control? = vg.stackOut.filterMap Msg.control? ++ cs
  debug : vg'.debugOut.filterMap Msg.control? = vg.debugOut.filterMap Msg.control? ++ cs
  plate : ∀ q' ∈ vg'.plateSolvingOut, ∃ q ∈ vg.plateSolvingOut, ∃ fs, q' = q ++ fs ∧
    ∀ x ∈ fs, x.isFrame = true

theorem Broadcast.refl (vg : VideoGenerator) : Broadcast vg vg [] :=
  ⟨by simp, by simp, by simp, fun q hq => ⟨q, hq, [], by simp, fun _ h => nomatch h⟩⟩

theorem Broadcast.trans {vg vg' vg'' : VideoGenerator} {cs cs' : List StackerControl}
    (h : Broadcast vg vg' cs) (h' : Broadcast vg' vg'' cs') : Broadcast vg vg'' (cs ++ cs') := by
  refine ⟨by rw [h'.live, h.live, List.append_assoc],
    by rw [h'.stack, h.stack, List.append_assoc], by rw [h'.debug, h.debug, List.append_assoc],
    fun q'' hq'' => ?_⟩
  obtain ⟨q', hq', fs', rfl, hfs'⟩ := h'.plate q'' hq''
  obtain ⟨q, hq, fs, rfl, hfs⟩ := h.plate q' hq'
  exact ⟨q, hq, fs ++ fs', List.append_assoc _ _ _, List.forall_mem_append.2 ⟨hfs, hfs'⟩⟩

theorem Forwarded.broadcast {vg vg' : VideoGenerator} {r : Routes} {m : Msg}
    (hf : Forwarded vg vg' r) (hc : r.Carries m) : Broadcast vg vg' m.control?.toList := by
  obtain ⟨hl, hs, hd, hp⟩ := hc
  refine ⟨by rw [hf.live, List.filterMap_append, hl], by rw [hf.stack, List.filterMap_append, hs],
    by rw [hf.debug, List.filterMap_append, hd], fun q' hq' => ?_⟩
  rw [hf.plate, Option.mem_map] at hq'
  obtain ⟨q, hq, rfl⟩ := hq'
  exact ⟨q, hq, r.plate, rfl, hp⟩

/-- From the constructor: the outputs hold the controls `cs` and nothing else of the kind. -/
theorem Broadcast.of_init {plateSolving : Bool} {vg : VideoGenerator} {cs : List StackerControl}
    (h : Broadcast (.init plateSolving) vg cs) :
    vg.liveOut.filterMap Msg.control? = cs ∧ vg.stackOut.filterMap Msg.control? = cs ∧
      vg.debugOut.filterMap Msg.control? = cs ∧
      ∀ q ∈ vg.plateSolvingOut, ∀ x ∈ q, x.isFrame = true := by
  refine ⟨h.live, h.stack, h.debug, fun q' hq' => ?_⟩
  obtain ⟨q, hq, fs, rfl, hfs⟩ := h.plate q' hq'
  rwa [init_plateSolvingOut_nil plateSolving q hq]

/-- A run pops a prefix of its input, leaving the rest: the outputs received the controls among
it, and the flags are those the table gives for it. -/
theorem run_popped (cv : OpenCV) (vg : VideoGenerator) (ms : List Msg) :
    ∃ pre, ms = pre ++ (run cv vg ms).2.rest ∧
      Broadcast vg (run cv vg ms).1 (pre.filterMap Msg.control?) ∧
      (run cv vg ms).1.session = pre.foldl Session.after vg.session := by
  induction ms generalizing vg with
  | nil => exact ⟨[], rfl, Broadcast.refl vg, rfl⟩
  | cons m ms ih =>
    have hb := (step_routes cv vg m).1.broadcast (routes_carries _ _ _ m)
    have hs := (step_routes cv vg m).2
    have hm : [m].filterMap Msg.control? = m.control?.toList := by
      simp [filterMap_control_cons]
    rcases hstep : vg.step cv m with ⟨_ | _, vg'⟩ | ⟨e, vg'⟩ <;>
      simp only [hstep, resultState] at hb hs <;> simp only [run, hstep]
    · exact ⟨[m], rfl, hm ▸ hb, hs⟩
    · obtain ⟨pre, hpre, hb', hs'⟩ := ih vg'
      refine ⟨m :: pre, by rw [List.cons_append, ← hpre], ?_, by rw [hs', hs]; rfl⟩
      rw [filterMap_control_cons]
      exact hb.trans hb'
    · exact ⟨[m], rfl, hm ▸ hb, hs⟩

/-- **Every control reaches live, stacking and debug.** After any run from the constructor, on any
input and whichever way the loop left, with `pre` the messages it popped: each of the live,
stacking and debug outputs holds exactly the controls among `pre`, in the order popped, whatever
frames and Shutdown lie between them; and the plate-solving output holds frames only. -/
theorem run_broadcasts_controls (cv : OpenCV) (plateSolving : Bool) (ms : List Msg) :
    let r := run cv (.init plateSolving) ms
    ∃ pre, ms = pre ++ r.2.rest ∧
      r.1.liveOut.filterMap Msg.control? = pre.filterMap Msg.control? ∧
      r.1.stackOut.filterMap Msg.control? = pre.filterMap Msg.control? ∧
      r.1.debugOut.filterMap Msg.control? = pre.filterMap Msg.control? ∧
      ∀ q ∈ r.1.plateSolvingOut, ∀ x ∈ q, x.isFrame = true := by
  obtain ⟨pre, hpre, hb, -⟩ := run_popped cv (.init plateSolving) ms
  exact ⟨pre, hpre, hb.of_init⟩

/-! ### The flags, from the last commands -/

/-- The operation of the last command among `cs` that sets the flags: any but an `update`. -/
def lastSessionOp (cs : List StackerControl) : Option StackerControl.Op :=
  ((cs.map (·.op)).filter (· != .ctlUpdate)).getLast?

/-- The last `init` among `cs`. -/
def lastInit (cs : List StackerControl) : Option StackerControl :=
  (cs.filter (·.op == .ctlInit)).getLast?

/-- The flags as the last commands decide them, from `s` where there is no such command: stacking
is active iff the last command other than an `update` is `init` or `resume`; a session is in
process iff it is `init`, `resume` or `pause`; debug is the `save_inputs` of the last `init`,
whatever came after it. -/
def Session.ofLast (s : Session) (cs : List StackerControl) : Session where
  active := match lastSessionOp cs with
    | some op => op == .ctlInit || op == .ctlResume
    | none => s.active
  inProcess := match lastSessionOp cs with
    | some op => op == .ctlInit || op == .ctlResume || op == .ctlPause
    | none => s.inProcess
  debug := match lastInit cs with
    | some c => c.saveInputs
    | none => s.debug

/-- One more command: the table's row for it. -/
theorem Session.ofLast_snoc (s : Session) (cs : List StackerControl) (c : StackerControl) :
    Session.ofLast s (cs ++ [c]) = (Session.ofLast s cs).apply c := by
  cases h : c.op <;>
    simp [Session.ofLast, Session.apply, lastSessionOp, lastInit, List.getLast?_append, h]

/-- The table, applied to the controls among `ms` one after another, is decided by the last ones. -/
theorem foldl_after_ofLast (s : Session) (ms : List Msg) :
    ms.foldl Session.after s = Session.ofLast s (ms.filterMap Msg.control?) := by
  induction ms using List.reverseRecOn with
  | nil => rfl
  | append_singleton ms m ih =>
    rw [List.foldl_append, List.filterMap_append, ih]
    obtain ⟨ptr, item⟩ := m
    cases item <;> simp [Session.after, Msg.control?, Session.ofLast_snoc]

/-- **The flags, from the last commands.** After any run from the constructor, on any input and
whichever way the loop left, with `pre` the messages it popped: stacking is active iff the last
control among `pre` other than an `update` is an `init` or a `resume`; a session is in process iff
that control is an `init`, a `resume` or a `pause`; and `debug_active_` is the `save_inputs` of the
last `init` among `pre`, so that it outlives the `save` or `cancel` that ends its session. -/
theorem run_session_of_last (cv : OpenCV) (plateSolving : Bool) (ms : List Msg) :
    let r := run cv (.init plateSolving) ms
    ∃ pre, ms = pre ++ r.2.rest ∧
      r.1.session = Session.ofLast Session.idle (pre.filterMap Msg.control?) := by
  obtain ⟨pre, hpre, -, hs⟩ := run_popped cv (.init plateSolving) ms
  exact ⟨pre, hpre, by rw [hs, foldl_after_ofLast]; rfl⟩

/-! ### The pixels stacking and plate solving receive -/

/-- The working matrix `frame` of a frame, computed from its raw view `raw`: the YUYV to BGR
conversion for YUV2, the demosaicing of its Bayer pattern for the Bayer formats, and the raw view
itself for every other format. -/
def CameraFrame.PixelsFromRaw (cv : OpenCV) (f : CameraFrame) : Prop :=
  match f.format.format with
  | .streamYuv2 => cv.cvtColor f.raw .colorYuv2BgrYuyv = .ok f.frame
  | .streamRaw8 | .streamRaw16 => demosaic cv f.bayer f.raw = .ok f.frame
  | _ => f.frame = f.raw

/-- A message that, if it is a frame, has its working matrix computed from its raw view. -/
def Msg.PixelsFromRaw (cv : OpenCV) (x : Msg) : Prop :=
  ∀ f, x.item = .cameraFrame f → f.PixelsFromRaw cv

/-- With pixels needed, every format the pipeline forwards gets its working matrix from its raw
view. -/
theorem formatFrame_pixels (cv : OpenCV) {f f' : CameraFrame} {bpp : Int}
    (h : formatFrame cv true f bpp = .ok (some f')) : f'.PixelsFromRaw cv := by
  cases hfmt : f.format.format <;> simp only [formatFrame, hfmt, Except.bind_eq_ok] at h
  case streamMjpeg =>
    simp only [if_true, Except.bind_eq_ok] at h
    obtain ⟨_, -, h⟩ := h
    split at h <;> cases h
    simp [CameraFrame.PixelsFromRaw, hfmt]
  case streamYuv2 =>
    obtain ⟨_, -, rgb, hrgb, g, hg, h⟩ := h
    cases h
    obtain ⟨buf, rfl⟩ := handleJpegStack_ok cv true hg
    simpa [CameraFrame.PixelsFromRaw, hfmt] using hrgb
  case streamRaw8 | streamRaw16 =>
    obtain ⟨_, -, rgb, hrgb, g, hg, h⟩ := h
    cases h
    obtain ⟨buf, rfl⟩ := handleJpegStack_ok cv true hg
    simpa [CameraFrame.PixelsFromRaw, hfmt] using hrgb
  case streamRgb24 | streamRgb48 | streamMono8 | streamMono16 =>
    obtain ⟨_, -, g, hg, h⟩ := h
    cases h
    obtain ⟨buf, rfl⟩ := handleJpegStack_ok cv true hg
    simp [CameraFrame.PixelsFromRaw, hfmt]
  case streamError => cases h

theorem formatPipeline_pixels (cv : OpenCV) {f f' : CameraFrame}
    (h : formatPipeline cv true f = .ok (some f')) : f'.PixelsFromRaw cv := by
  unfold formatPipeline at h
  split at h
  · cases h
  · split at h
    · cases h
    · exact formatFrame_pixels cv h

/-- What a pass routes to stacking or to plate solving was processed with pixels needed. -/
def Routes.Pixels (cv : OpenCV) (r : Routes) : Prop :=
  ∀ x ∈ r.stack ++ r.plate, x.PixelsFromRaw cv

theorem routes_pixels (cv : OpenCV) (plateSolving : Bool) (s : Session) (m : Msg) :
    (routes cv plateSolving s m).Pixels cv := by
  obtain ⟨ptr, item⟩ := m
  cases item with
  | cameraFrame f =>
    simp only [routes, Routes.Pixels]
    split
    · rename_i f' hf'
      intro x hx g hg
      simp only [List.mem_append, List.mem_ite_nil_right, List.mem_singleton] at hx
      have hx' : x = ⟨ptr, .cameraFrame f'⟩ ∧ (s.active || plateSolving) = true := by
        rcases hx with ⟨ha, rfl⟩ | ⟨hp, rfl⟩
        · exact ⟨rfl, by simp [ha]⟩
        · exact ⟨rfl, by simp_all⟩
      obtain ⟨rfl, hn⟩ := hx'
      cases hg
      rw [hn] at hf'
      exact formatPipeline_pixels cv hf'
    · intro _ h; simp at h
  | shutDown | stackerControl _ =>
    intro x hx g hg
    simp only [routes, List.append_nil, List.mem_singleton] at hx
    subst hx; cases hg
  | statsData | errorNotificationData => intro _ h; simp [routes] at h

/-- Every frame in the stacking output and in the plate-solving output has its working matrix
computed from its raw view. -/
def VideoGenerator.Pixels (cv : OpenCV) (vg : VideoGenerator) : Prop :=
  (∀ x ∈ vg.stackOut, x.PixelsFromRaw cv) ∧
    ∀ q ∈ vg.plateSolvingOut, ∀ x ∈ q, x.PixelsFromRaw cv

theorem Forwarded.pixels {cv : OpenCV} {vg vg' : VideoGenerator} {r : Routes}
    (hf : Forwarded vg vg' r) (hr : r.Pixels cv) (h : vg.Pixels cv) : vg'.Pixels cv := by
  refine ⟨?_, fun q' hq' => ?_⟩
  · rw [hf.stack]
    exact List.forall_mem_append.2 ⟨h.1, fun x hx => hr x (List.mem_append_left _ hx)⟩
  · rw [hf.plate, Option.mem_map] at hq'
    obtain ⟨q, hq, rfl⟩ := hq'
    exact List.forall_mem_append.2 ⟨h.2 q hq, fun x hx => hr x (List.mem_append_right _ hx)⟩

theorem Reachable.pixels {cv : OpenCV} {plateSolving : Bool} {vg : VideoGenerator}
    (h : Reachable cv plateSolving vg) : vg.Pixels cv := by
  induction h with
  | init =>
    refine ⟨fun _ h => (nomatch h), fun q hq x hx => ?_⟩
    rw [init_plateSolvingOut_nil plateSolving q hq] at hx
    cases hx
  | step m _ ih => exact (step_routes cv _ m).1.pixels (routes_pixels _ _ _ m) ih

/-- **Stacking and plate solving receive pixels.** After any run from the constructor, on any input
and whichever way the loop left, every frame in the stacking output and in the plate-solving
output has its working matrix computed, in the pass that forwarded it, from its raw view: the YUYV
to BGR conversion for YUV2, the demosaicing of its Bayer pattern for the Bayer formats, and the
raw view itself, decoded or not, for MJPEG, RGB and mono frames. -/
theorem run_frames_have_pixels (cv : OpenCV) (plateSolving : Bool) (ms : List Msg) :
    let vg := (run cv (.init plateSolving) ms).1
    (∀ x ∈ vg.stackOut, ∀ f, x.item = .cameraFrame f → f.PixelsFromRaw cv) ∧
      ∀ q ∈ vg.plateSolvingOut, ∀ x ∈ q, ∀ f,
        x.item = .cameraFrame f → f.PixelsFromRaw cv :=
  ((@Reachable.init cv plateSolving).run ms).pixels

/-! ### Behind the input queue -/

theorem run_singleton_rest (cv : OpenCV) (vg : VideoGenerator) (m : Msg) :
    (run cv vg [m]).2.rest = [] := by
  simp only [run]
  split <;> rfl

/-- The stage pops only while `run` is in its loop, so `run` has consumed every message it was
given. -/
theorem runStage_rest {σ : Type} (Q : QueueImpl σ Msg) (cv : OpenCV) (plateSolving : Bool)
    (es : List StageEvent) :
    (run cv (.init plateSolving) (runStage Q cv plateSolving es).popped).2.rest = [] := by
  unfold runStage
  generalize hr : (⟨Q.empty, [], [], false⟩ : QueueRun σ Msg) = r
  have h0 : (run cv (.init plateSolving) r.popped).2.rest = [] := by rw [← hr]; rfl
  clear hr
  induction es generalizing r with
  | nil => exact h0
  | cons e es ih =>
    refine ih _ ?_
    cases e with
    | produce d => exact h0
    | consume =>
      simp only [stageExec]
      split
      · rename_i hw
        simp only [QueueImpl.exec]
        split
        · exact h0
        · exact h0
        · have hw' : (run cv (.init plateSolving) r.popped).2 = .waiting := by
            revert hw; cases (run cv (.init plateSolving) r.popped).2 <;> simp [Exit.isWaiting]
          rw [run_append_of_waiting hw', run_singleton_rest]
      · exact h0

/-- **No control lost on the way to the outputs.** For any interleaving of any number of producers
with `run`'s pops, over the FIFO queue of spec §4.1: the messages `run` popped are the first ones
pushed, in push order, and each of the live, stacking and debug outputs holds exactly the controls
among them, in that order. -/
theorem fifoStage_controls (cv : OpenCV) (plateSolving : Bool) (es : List StageEvent) :
    let r := runStage (fifoQueue Msg) cv plateSolving es
    let vg := stageOutputs (fifoQueue Msg) cv plateSolving es
    r.popped <+: r.pushed ∧
      vg.liveOut.filterMap Msg.control? = r.popped.filterMap Msg.control? ∧
      vg.stackOut.filterMap Msg.control? = r.popped.filterMap Msg.control? ∧
      vg.debugOut.filterMap Msg.control? = r.popped.filterMap Msg.control? := by
  intro r vg
  obtain ⟨qes, hq⟩ := runStage_runQueue (fifoQueue Msg) cv plateSolving es
  have hfifo : r.popped <+: r.pushed := by
    have h := (fifoQueue_run qes).1
    rwa [← hq] at h
  obtain ⟨pre, hpre, hb, -⟩ := run_popped cv (.init plateSolving) r.popped
  rw [runStage_rest, List.append_nil] at hpre
  obtain ⟨hl, hs, hd, -⟩ := hb.of_init
  rw [hpre] at hfifo ⊢
  exact ⟨hfifo, hl, hs, hd⟩

end OpenLiveStacker
