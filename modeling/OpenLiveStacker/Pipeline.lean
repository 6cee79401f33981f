import OpenLiveStacker.SyncQueue
import OpenLiveStacker.VideoGenerator.Run

/-!
# The dispatch stage and its input queue

Producers (the camera thread, the control surface) push newly allocated messages into the
`sync_queue` that `VideoGenerator` reads, and `run` pops them one at a time. Each `push` and each
`pop` is one critical section under the queue's lock, so an interleaving of any number of producers
with the dispatch thread is a sequence of calls in lock order. What `run` pushes to its outputs
depends only on the messages it has popped, in order: after any interleaving the outputs are those
of `run` over the popped messages. `run` pops only while it is in its loop.

* `StageEvent`, `stageExec`, `runStage`, `stageOutputs`; `runStage_runQueue`: the stage drives
  its input queue by `push` and `pop` calls only, so the laws of `sync_queue` runs apply to it;
* `OutputsWithin`, `run_outputsWithin`: each output receives popped messages, each at most once,
  in the order they were popped;
* `fifoStage_outputs`: over the FIFO queue of spec §4.1, each output is, by address, a
  subsequence of the push order;
* `syncStage_run`: over `sync_queue` as written, no message reaches an output, and every pop after
  a push reads the front of an empty container.
-/

namespace OpenLiveStacker

/-- A call on the dispatch stage's input queue. -/
inductive StageEvent
  /-- A producer pushes a newly allocated message holding `d`. -/
  | produce (d : DataItem)
  /-- `run` calls `pop`. -/
  | consume

/-- Whether `run` is still in its loop. -/
def Exit.isWaiting : Exit → Bool
  | .waiting => true
  | _ => false

/-! ### What `run` forwards, by address -/

/-- `o'` is `o` followed by messages whose addresses form a subsequence of `ps`. -/
def Extends (o o' : List Msg) (ps : List Nat) : Prop :=
  ∃ l, o' = o ++ l ∧ List.Sublist (l.map Msg.ptr) ps

/-- Each output of `vg'` extends that of `vg` by messages whose addresses form a subsequence of
`ps`. -/
def OutputsWithin (vg vg' : VideoGenerator) (ps : List Nat) : Prop :=
  Extends vg.liveOut vg'.liveOut ps ∧ Extends vg.stackOut vg'.stackOut ps ∧
    Extends vg.debugOut vg'.debugOut ps ∧
    ∀ q' ∈ vg'.plateSolvingOut, ∃ q ∈ vg.plateSolvingOut, Extends q q' ps

theorem Extends.trans {o o' o'' : List Msg} {ps ps' : List Nat} (h : Extends o o' ps)
    (h' : Extends o' o'' ps') : Extends o o'' (ps ++ ps') := by
  obtain ⟨l, rfl, hl⟩ := h
  obtain ⟨l', rfl, hl'⟩ := h'
  exact ⟨l ++ l', List.append_assoc .., by simpa only [List.map_append] using hl.append hl'⟩

theorem Extends.mono {o o' : List Msg} {ps ps' : List Nat} (h : Extends o o' ps)
    (hps : List.Sublist ps ps') :
    Extends o o' ps' :=
  let ⟨l, ho, hl⟩ := h; ⟨l, ho, hl.trans hps⟩

theorem OutputsWithin.refl (vg : VideoGenerator) : OutputsWithin vg vg [] := by
  have hnil : ∀ o, Extends o o [] := fun o => ⟨[], (List.append_nil o).symm, .slnil⟩
  exact ⟨hnil _, hnil _, hnil _, fun q hq => ⟨q, hq, hnil q⟩⟩

theorem OutputsWithin.trans {vg vg' vg'' : VideoGenerator} {ps ps' : List Nat}
    (h : OutputsWithin vg vg' ps) (h' : OutputsWithin vg' vg'' ps') :
    OutputsWithin vg vg'' (ps ++ ps') := by
  obtain ⟨hl, hs, hd, hp⟩ := h
  obtain ⟨hl', hs', hd', hp'⟩ := h'
  refine ⟨hl.trans hl', hs.trans hs', hd.trans hd', fun q'' hq'' => ?_⟩
  obtain ⟨q', hq', he'⟩ := hp' q'' hq''
  obtain ⟨q, hq, he⟩ := hp q' hq'
  exact ⟨q, hq, he.trans he'⟩

theorem OutputsWithin.mono {vg vg' : VideoGenerator} {ps ps' : List Nat}
    (h : OutputsWithin vg vg' ps) (hps : List.Sublist ps ps') : OutputsWithin vg vg' ps' := by
  obtain ⟨hl, hs, hd, hp⟩ := h
  refine ⟨hl.mono hps, hs.mono hps, hd.mono hps, fun q' hq' => ?_⟩
  obtain ⟨q, hq, he⟩ := hp q' hq'
  exact ⟨q, hq, he.mono hps⟩

/-- Every route of a message holds at most that message, or the frame it carries, under its
address. -/
def Routes.From (r : Routes) (p : Nat) : Prop :=
  List.Sublist (r.live.map Msg.ptr) [p] ∧ List.Sublist (r.stack.map Msg.ptr) [p] ∧
    List.Sublist (r.debug.map Msg.ptr) [p] ∧ List.Sublist (r.plate.map Msg.ptr) [p]

theorem routes_from (cv : OpenCV) (plateSolving : Bool) (s : Session) (m : Msg) :
    (routes cv plateSolving s m).From m.ptr := by
  unfold routes
  split
  · simp [Routes.From]
  · simp [Routes.From]
  · split
    · simp only [Routes.From]
      refine ⟨by simp, ?_, ?_, ?_⟩ <;> split <;> simp
    · simp [Routes.From]
  · simp [Routes.From]

theorem Forwarded.outputsWithin {vg vg' : VideoGenerator} {r : Routes} {p : Nat}
    (hf : Forwarded vg vg' r) (hr : r.From p) : OutputsWithin vg vg' [p] := by
  obtain ⟨hl, hs, hd, hp⟩ := hr
  refine ⟨⟨_, hf.live, hl⟩, ⟨_, hf.stack, hs⟩, ⟨_, hf.debug, hd⟩, ?_⟩
  intro q' hq'
  rw [hf.plate, Option.mem_map] at hq'
  obtain ⟨q, hq, rfl⟩ := hq'
  exact ⟨q, hq, _, rfl, hp⟩

/-- What `run` pushes, on any input: to each output, popped messages under their own addresses,
each at most once, in the order they were popped. -/
theorem run_outputsWithin (cv : OpenCV) (vg : VideoGenerator) (ms : List Msg) :
    OutputsWithin vg (run cv vg ms).1 (ms.map Msg.ptr) := by
  induction ms generalizing vg with
  | nil => exact .refl vg
  | cons m ms ih =>
    have hstep := (step_routes cv vg m).1.outputsWithin (routes_from _ _ _ m)
    have hm : List.Sublist [m.ptr] ((m :: ms).map Msg.ptr) := by simp
    rcases hs : vg.step cv m with ⟨_ | _, vg'⟩ | ⟨e, vg'⟩ <;>
      simp only [hs, resultState] at hstep <;> simp only [run, hs]
    · exact hstep.mono hm
    · exact hstep.trans (ih vg')
    · exact hstep.mono hm

/-! ### The stage -/

section Stage

variable {σ : Type} (Q : QueueImpl σ Msg) (cv : OpenCV) (plateSolving : Bool)

/-- One call, in lock order. A pushed message gets a fresh address, the number of messages pushed
before it; `run` pops only while it is in its loop. -/
def stageExec (r : QueueRun σ Msg) : StageEvent → QueueRun σ Msg
  | .produce d => Q.exec r (.push ⟨r.pushed.length, d⟩)
  | .consume => if (run cv (.init plateSolving) r.popped).2.isWaiting then Q.exec r .pop else r

/-- The input queue after the calls `es`, from the empty queue. -/
def runStage (es : List StageEvent) : QueueRun σ Msg :=
  es.foldl (stageExec Q cv plateSolving) ⟨Q.empty, [], [], false⟩

/-- The generator after the calls `es`: `run` over what it popped. -/
def stageOutputs (es : List StageEvent) : VideoGenerator :=
  (run cv (.init plateSolving) (runStage Q cv plateSolving es).popped).1

/-- The stage drives its input queue by `push` and `pop` calls only: after any calls of the stage,
the queue is where some sequence of queue calls, in lock order, leads it. -/
theorem runStage_runQueue (es : List StageEvent) :
    ∃ qes, runStage Q cv plateSolving es = Q.runQueue qes := by
  induction es using List.reverseRecOn with
  | nil => exact ⟨[], rfl⟩
  | append_singleton es e ih =>
    obtain ⟨qes, hq⟩ := ih
    simp only [runStage, List.foldl_append, List.foldl_cons, List.foldl_nil] at hq ⊢
    rw [hq]
    cases e with
    | produce d => exact ⟨qes ++ [.push _], by rw [Q.runQueue_append_singleton]; rfl⟩
    | consume =>
      simp only [stageExec]
      split
      · exact ⟨qes ++ [.pop], (Q.runQueue_append_singleton _ _).symm⟩
      · exact ⟨qes, rfl⟩

/-- Pushed messages carry the addresses `0, 1, 2, …` in push order. -/
theorem runStage_ptrs (es : List StageEvent) :
    (runStage Q cv plateSolving es).pushed.map Msg.ptr =
      List.range (runStage Q cv plateSolving es).pushed.length := by
  unfold runStage
  generalize hr : (⟨Q.empty, [], [], false⟩ : QueueRun σ Msg) = r
  have h0 : r.pushed.map Msg.ptr = List.range r.pushed.length := by rw [← hr]; rfl
  clear hr
  induction es generalizing r with
  | nil => exact h0
  | cons e es ih =>
    refine ih _ ?_
    cases e with
    | produce d => simp [stageExec, QueueImpl.exec, h0, List.range_succ]
    | consume =>
      simp only [stageExec]
      split
      · simp only [QueueImpl.exec]; split <;> exact h0
      · exact h0

end Stage

/-- **The stage over a FIFO queue.** For any interleaving of any number of producers with
`run`'s pops, over the FIFO queue of spec §4.1: no pop faults, pushed messages have distinct
addresses in push order, and each output receives, by address, a subsequence of the push order:
only pushed messages, each at most once, in the order they were pushed. -/
theorem fifoStage_outputs (cv : OpenCV) (plateSolving : Bool) (es : List StageEvent) :
    (runStage (fifoQueue Msg) cv plateSolving es).fault = false ∧
      (runStage (fifoQueue Msg) cv plateSolving es).pushed.map Msg.ptr =
        List.range (runStage (fifoQueue Msg) cv plateSolving es).pushed.length ∧
      OutputsWithin (.init plateSolving) (stageOutputs (fifoQueue Msg) cv plateSolving es)
        ((runStage (fifoQueue Msg) cv plateSolving es).pushed.map Msg.ptr) := by
  obtain ⟨qes, hq⟩ := runStage_runQueue (fifoQueue Msg) cv plateSolving es
  obtain ⟨hfifo, hfault⟩ := fifoQueue_run qes
  rw [← hq] at hfifo hfault
  exact ⟨hfault, runStage_ptrs _ _ _ es, (run_outputsWithin cv _ _).mono (hfifo.sublist.map _)⟩

/-- **The stage over `sync_queue` as written.** Whatever the interleaving, `run` never receives a
message, so no output receives one; and once a message has been pushed, `run`'s next pop reads
the front of an empty container. -/
theorem syncStage_run (cv : OpenCV) (plateSolving : Bool) (es : List StageEvent) :
    (runStage (syncQueue Msg) cv plateSolving es).popped = [] ∧
      stageOutputs (syncQueue Msg) cv plateSolving es = .init plateSolving ∧
      ((runStage (syncQueue Msg) cv plateSolving es).pushed ≠ [] →
        (stageExec (syncQueue Msg) cv plateSolving (runStage (syncQueue Msg) cv plateSolving es)
          .consume).fault = true) := by
  obtain ⟨qes, hq⟩ := runStage_runQueue (syncQueue Msg) cv plateSolving es
  obtain ⟨-, hpopped, hpop⟩ := syncQueue_run qes
  rw [← hq] at hpopped hpop
  refine ⟨hpopped, by rw [stageOutputs, hpopped]; rfl, fun hne => ?_⟩
  simp only [stageExec, hpopped, run, Exit.isWaiting, if_true, QueueImpl.exec, hpop,
    List.isEmpty_eq_false.2 hne, Bool.false_eq_true, if_false]

/-- A producer pushes a control, then `run` pops: the pop reads the front of an empty container,
and the control reaches no output. -/
theorem syncStage_control_then_pop :
    let cv : OpenCV := ⟨fun _ _ _ _ => .error ⟨""⟩, fun _ => .error ⟨""⟩, fun _ _ => .error ⟨""⟩,
      fun _ _ _ => .error ⟨""⟩, fun _ => .error ⟨""⟩⟩
    let es : List StageEvent := [.produce (.stackerControl default), .consume]
    (runStage (syncQueue Msg) cv false es).fault = true ∧
      (runStage (syncQueue Msg) cv false es).popped = [] ∧
      (stageOutputs (syncQueue Msg) cv false es).liveOut = [] :=
  ⟨rfl, rfl, rfl⟩

end OpenLiveStacker
