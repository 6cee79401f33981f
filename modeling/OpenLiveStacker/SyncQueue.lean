import Mathlib.Data.List.Infix

/-!
# `sync_queue`

The blocking queue of `sync_queue.h`. `push` appends under `lock_` and notifies `cond_`; `pop`
waits on `cond_` while `data_` is empty, then reads and removes the front of `queue_`. As written
the header does not compile once `push` or `pop` is instantiated: `data_` is a `std::queue`, which
has no `push_back`, and no member `queue_` is declared. The model reads `data_.push_back(v)` as
appending to `data_`, and `queue_` as a second member, a container that no operation fills: the
two operations name two containers.

* `SyncQueue`, `SyncQueue.push`, `SyncQueue.pop`;
* `FifoQueue`: the blocking FIFO queue of spec §4.1, the component's purpose;
* `QueueImpl`: a queue as its producers and consumers call it, given by both;
* `runQueue`: push and pop calls of any number of threads, each atomic under the lock, taken in
  lock order; `fifoQueue_run` (the FIFO law) and `syncQueue_run` (every completed pop of the
  code reads the front of an empty container).
-/

namespace OpenLiveStacker

/-- What one `pop` call does once it holds the lock. -/
inductive PopResult (σ α : Type)
  /-- The queue is empty: `pop` waits on `cond_`, releasing the lock. -/
  | wait
  /-- `pop` reads the front of an empty container: undefined behaviour. -/
  | emptyFront
  /-- `pop` returns a value and leaves the queue in a new state. -/
  | value (a : α) (s : σ)
  deriving DecidableEq, Repr

/-- The members of `sync_queue<T>` that hold values: `data_` and `queue_`. -/
structure SyncQueue (α : Type) where
  /-- `data_`: `push` appends here and `pop` waits on it. -/
  data : List α
  /-- `queue_`: `pop` reads and removes its front. -/
  queue : List α
  deriving DecidableEq, Repr

namespace SyncQueue

variable {α : Type}

/-- `sync_queue::push`: `data_.push_back(v)`. -/
def push (v : α) (q : SyncQueue α) : SyncQueue α := { q with data := q.data ++ [v] }

/-- `sync_queue::pop`: wait while `data_` is empty, then `queue_.front()` and
`queue_.pop_front()`. -/
def pop (q : SyncQueue α) : PopResult (SyncQueue α) α :=
  if q.data.isEmpty then .wait else
  match q.queue with
  | [] => .emptyFront
  | a :: rest => .value a { q with queue := rest }

end SyncQueue

/-- The blocking FIFO queue of spec §4.1: `push` appends to the tail, `pop` waits for a message
and removes the head. -/
structure FifoQueue (α : Type) where
  items : List α
  deriving DecidableEq, Repr

namespace FifoQueue

variable {α : Type}

/-- Append to the tail. -/
def push (v : α) (q : FifoQueue α) : FifoQueue α := ⟨q.items ++ [v]⟩

/-- Wait while empty, then remove and return the head. -/
def pop (q : FifoQueue α) : PopResult (FifoQueue α) α :=
  match q.items with
  | [] => .wait
  | a :: rest => .value a ⟨rest⟩

end FifoQueue

/-- A queue as its users call it: the state it starts in, `push`, and `pop`. -/
structure QueueImpl (σ α : Type) where
  empty : σ
  push : α → σ → σ
  pop : σ → PopResult σ α

/-- `sync_queue<T>` as written, constructed with both containers empty. -/
def syncQueue (α : Type) : QueueImpl (SyncQueue α) α := ⟨⟨[], []⟩, SyncQueue.push, SyncQueue.pop⟩

/-- The FIFO queue of the spec, constructed empty. -/
def fifoQueue (α : Type) : QueueImpl (FifoQueue α) α := ⟨⟨[]⟩, FifoQueue.push, FifoQueue.pop⟩

/-! ### Runs of calls in lock order -/

/-- A call that completes one critical section under `lock_`. -/
inductive QueueEvent (α : Type)
  | push (v : α)
  | pop
  deriving DecidableEq, Repr

/-- A queue with the values passed to `push` and returned by completed pops so far, in lock
order, and whether some pop has read the front of an empty container. -/
structure QueueRun (σ α : Type) where
  state : σ
  pushed : List α
  popped : List α
  fault : Bool
  deriving DecidableEq, Repr

namespace QueueImpl

variable {σ α : Type} (Q : QueueImpl σ α)

/-- One critical section. A pop that finds the queue empty waits and changes nothing. -/
def exec (r : QueueRun σ α) : QueueEvent α → QueueRun σ α
  | .push v => { r with state := Q.push v r.state, pushed := r.pushed ++ [v] }
  | .pop =>
    match Q.pop r.state with
    | .wait => r
    | .emptyFront => { r with fault := true }
    | .value a s => { r with state := s, popped := r.popped ++ [a] }

/-- The calls of all threads, in lock order, from the empty queue. -/
def runQueue (es : List (QueueEvent α)) : QueueRun σ α :=
  es.foldl Q.exec ⟨Q.empty, [], [], false⟩

@[simp] theorem runQueue_append_singleton (es : List (QueueEvent α)) (e : QueueEvent α) :
    Q.runQueue (es ++ [e]) = Q.exec (Q.runQueue es) e := by
  simp only [runQueue, List.foldl_append, List.foldl_cons, List.foldl_nil]

/-- A property that every call keeps holds after every run. -/
theorem runQueue_induction (P : QueueRun σ α → Prop) (h0 : P ⟨Q.empty, [], [], false⟩)
    (hstep : ∀ r e, P r → P (Q.exec r e)) (es : List (QueueEvent α)) : P (Q.runQueue es) := by
  unfold runQueue
  generalize (⟨Q.empty, [], [], false⟩ : QueueRun σ α) = r at h0
  induction es generalizing r with
  | nil => exact h0
  | cons e es ih => exact ih _ (hstep r e h0)

end QueueImpl

/-! ### The FIFO law -/

section Fifo

variable {α : Type}

/-- What a FIFO run keeps: what was pushed is what was popped, then what is queued, and no
pop has faulted. -/
def FifoInv (r : QueueRun (FifoQueue α) α) : Prop :=
  r.pushed = r.popped ++ r.state.items ∧ r.fault = false

theorem fifoInv_exec (r : QueueRun (FifoQueue α) α) (e : QueueEvent α) (h : FifoInv r) :
    FifoInv ((fifoQueue α).exec r e) := by
  obtain ⟨h1, h2⟩ := h
  obtain ⟨⟨items⟩, pushed, popped, fault⟩ := r
  cases e with
  | push v => exact ⟨by simp_all [QueueImpl.exec, fifoQueue, FifoQueue.push], h2⟩
  | pop =>
    cases items with
    | nil => exact ⟨h1, h2⟩
    | cons a rest => exact ⟨by simp_all [QueueImpl.exec, fifoQueue, FifoQueue.pop], h2⟩

/-- **FIFO.** For any interleaving of push and pop calls, the values returned by completed pops,
in lock order, are a prefix of the values pushed, in lock order, and no pop reads the front of an
empty container. -/
theorem fifoQueue_run (es : List (QueueEvent α)) :
    ((fifoQueue α).runQueue es).popped <+: ((fifoQueue α).runQueue es).pushed ∧
      ((fifoQueue α).runQueue es).fault = false := by
  obtain ⟨h1, h2⟩ := (fifoQueue α).runQueue_induction FifoInv ⟨rfl, rfl⟩ fifoInv_exec es
  exact ⟨⟨_, h1.symm⟩, h2⟩

end Fifo

/-! ### The queue as written -/

section Sync

variable {α : Type}

/-- What every run of the code's queue keeps: `data_` holds everything pushed, `queue_` stays
empty, and no pop has returned a value. -/
def SyncInv (r : QueueRun (SyncQueue α) α) : Prop :=
  r.state = ⟨r.pushed, []⟩ ∧ r.popped = []

theorem syncInv_exec (r : QueueRun (SyncQueue α) α) (e : QueueEvent α) (h : SyncInv r) :
    SyncInv ((syncQueue α).exec r e) := by
  obtain ⟨⟨data, queue⟩, pushed, popped, fault⟩ := r
  obtain ⟨h1, h2⟩ := h
  simp only [SyncQueue.mk.injEq] at h1
  obtain ⟨rfl, rfl⟩ := h1
  cases e with
  | push v => exact ⟨rfl, h2⟩
  | pop =>
    by_cases hd : data.isEmpty <;> simp [QueueImpl.exec, syncQueue, SyncQueue.pop, hd, SyncInv, h2]

/-- On the code's queue, whatever the interleaving: `data_` holds everything pushed, `queue_`
stays empty, no pop returns a value, and once anything has been pushed every pop that leaves its
wait loop reads the front of an empty container. -/
theorem syncQueue_run (es : List (QueueEvent α)) :
    ((syncQueue α).runQueue es).state = ⟨((syncQueue α).runQueue es).pushed, []⟩ ∧
      ((syncQueue α).runQueue es).popped = [] ∧
      (syncQueue α).pop ((syncQueue α).runQueue es).state =
        if ((syncQueue α).runQueue es).pushed.isEmpty then .wait else .emptyFront := by
  obtain ⟨h1, h2⟩ := (syncQueue α).runQueue_induction SyncInv ⟨rfl, rfl⟩ syncInv_exec es
  refine ⟨h1, h2, ?_⟩
  rw [h1]
  simp only [syncQueue, SyncQueue.pop]

/-- One thread pushes `1`, another pops: the pop leaves its wait loop, since `data_` holds `1`,
and reads the front of `queue_`, which is empty. -/
theorem syncQueue_push_then_pop :
    (syncQueue Nat).runQueue [.push 1, .pop] = ⟨⟨[1], []⟩, [1], [], true⟩ := by
  decide

end Sync

end OpenLiveStacker
