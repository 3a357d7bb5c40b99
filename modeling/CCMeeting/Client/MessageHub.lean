import CCMeeting.Lib.Buckets
import CCMeeting.Lib.Transition
import CCMeeting.Client.Codec

/-! # The client's send pipeline

`PriorityMessageQueue` and the sending side of `MessageHub`: the queue, the
send thread with its program points, and the two threads that start and stop
it (the controller's and the UI's), one atomic operation at a time. A `push`
that does not get the mutex of the queue within two seconds gives up, and its
message is lost. A `wait` for the send thread that runs out of time is followed
by deleting a running `QThread`, at which Qt ends the program.
-/

namespace CCMeeting

open Transition

/-! ## The queue -/

/-- `MessagePtr`: messages with the same content are different objects. -/
structure MessagePtr where
  address : ℕ
  message : Message
deriving DecidableEq, Repr

/-- `Message::send_priority` of what is pointed to. -/
def MessagePtr.priority (msg : MessagePtr) : MessagePriority := msg.message.sendPriority

/-- `QUEUE_MAXSIZE`. -/
def queueMaxSize : ℕ := 1500

/-- `push_bounded`: the oldest make room. -/
def pushBounded (bucket : List MessagePtr) (msg : MessagePtr) (maxSize : ℕ) : List MessagePtr :=
  if maxSize = 0 then bucket else bucket.drop (bucket.length + 1 - maxSize) ++ [msg]

/-- `PriorityMessageQueue`. -/
abbrev PriorityMessageQueue := Buckets MessagePtr.priority

namespace PriorityMessageQueue

theorem pushBounded_sorted (q : PriorityMessageQueue) (msg : MessagePtr) :
    ∀ m ∈ pushBounded (q.bucket msg.priority) msg queueMaxSize, m.priority = msg.priority := by
  intro m hm
  rw [pushBounded, if_neg (by decide), List.mem_append, List.mem_singleton] at hm
  rcases hm with hm | rfl
  · exact q.sorted _ m (List.mem_of_mem_drop hm)
  · rfl

/-- `PriorityMessageQueue::push`, once it has the lock. -/
def push (q : PriorityMessageQueue) (msg : MessagePtr) : PriorityMessageQueue :=
  q.set msg.priority (pushBounded (q.bucket msg.priority) msg queueMaxSize)
    (pushBounded_sorted q msg)

/-- The front of a bucket taken off. -/
def popFront (q : PriorityMessageQueue) (priority : MessagePriority) : PriorityMessageQueue :=
  q.set priority (q.bucket priority).tail
    fun m hm => q.sorted priority m (List.mem_of_mem_tail hm)

/-- `PriorityMessageQueue::pop`: none when the time runs out on an empty queue. -/
def pop (q : PriorityMessageQueue) : Option MessagePtr × PriorityMessageQueue :=
  match (q.bucket .control).head? with
  | some msg => (some msg, popFront q .control)
  | none =>
    match (q.bucket .text).head? with
    | some msg => (some msg, popFront q .text)
    | none => (none, q)

/-! What an operation does to the buckets. -/

section

variable {q : PriorityMessageQueue} {msg : MessagePtr}

theorem bucket_push (h : (q.bucket msg.priority).length < queueMaxSize) :
    (push q msg).bucket msg.priority = q.bucket msg.priority ++ [msg] := by
  have hroom : (q.bucket msg.priority).length + 1 - queueMaxSize = 0 := by omega
  rw [push, Buckets.bucket_set_self, pushBounded, if_neg (by decide), hroom, List.drop_zero]

theorem bucket_push_of_ne (priority : MessagePriority) (h : priority ≠ msg.priority) :
    (push q msg).bucket priority = q.bucket priority := Buckets.bucket_set_of_ne _ _ h

theorem bucket_popFront {priority : MessagePriority} (h : (q.bucket priority).head? = some msg) :
    msg.priority = priority ∧ q.bucket priority = msg :: (popFront q priority).bucket priority := by
  have hcons : q.bucket priority = msg :: (q.bucket priority).tail :=
    (List.cons_head?_tail h).symm
  constructor
  · apply q.sorted priority msg
    rw [hcons]
    exact List.mem_cons_self ..
  · rw [popFront, Buckets.bucket_set_self]
    exact hcons

/-- What is popped is the front of its own bucket. -/
theorem bucket_pop {q' : PriorityMessageQueue} (h : pop q = (some msg, q')) :
    q.bucket msg.priority = msg :: q'.bucket msg.priority ∧
      ∀ priority, priority ≠ msg.priority → q'.bucket priority = q.bucket priority := by
  have hfront : ∀ priority, (q.bucket priority).head? = some msg → q' = popFront q priority →
      q.bucket msg.priority = msg :: q'.bucket msg.priority ∧
        ∀ priority, priority ≠ msg.priority → q'.bucket priority = q.bucket priority := by
    intro priority hhead hq'
    rcases bucket_popFront hhead with ⟨hpriority, hbucket⟩
    subst hpriority hq'
    constructor
    · exact hbucket
    · intro other hother
      exact Buckets.bucket_set_of_ne _ _ hother
  -- `pop` tries the control bucket first, then the text bucket
  unfold pop at h
  cases hcontrol : (q.bucket .control).head? with
  | some front =>
    rw [hcontrol] at h
    cases h
    exact hfront .control hcontrol rfl
  | none =>
    rw [hcontrol] at h
    cases htext : (q.bucket .text).head? with
    | some front =>
      rw [htext] at h
      cases h
      exact hfront .text htext rfl
    | none =>
      rw [htext] at h
      cases h

theorem pop_none {q' : PriorityMessageQueue} (h : pop q = (none, q')) : q' = q := by
  unfold pop at h
  cases hcontrol : (q.bucket .control).head? with
  | some front =>
    rw [hcontrol] at h
    cases h
  | none =>
    rw [hcontrol] at h
    cases htext : (q.bucket .text).head? with
    | some front =>
      rw [htext] at h
      cases h
    | none =>
      rw [htext] at h
      cases h
      rfl

end

end PriorityMessageQueue

/-! ## The send thread and its callers -/

/-- The kinds a superseded worker puts back into the queue. -/
def Message.isReturned : Message → Bool
  | createMeeting .. | joinMeeting .. | closeCamera | sendText .. => true
  | _ => false

/-- `send_running_` and `send_epoch_`. -/
structure SendControl where
  sendRunning : Bool
  sendEpoch : UInt64
  /-- `epoch` of `start_send_worker`, kept until the controller's next call -/
  taken : Option UInt64
deriving DecidableEq, Repr

/-- The atomic operations of starting and stopping. -/
inductive HubOp where
  | storeRunning (value : Bool)
  | addEpoch
  | joinSendThread
  | takeEpoch
  | launch
deriving DecidableEq, Repr

/-- What an operation does to the two atomics. -/
def SendControl.apply (c : SendControl) : HubOp → SendControl
  | .storeRunning value => { c with sendRunning := value }
  | .addEpoch => { c with sendEpoch := c.sendEpoch + 1 }
  | .takeEpoch => { c with sendEpoch := c.sendEpoch + 1, taken := some (c.sendEpoch + 1) }
  | .joinSendThread | .launch => c

/-- `MessageHub::signal_send_stop`. -/
def signalSendStop : List HubOp := [.storeRunning false, .addEpoch]

/-- `MessageHub::start_send_worker`. -/
def startSendWorker : List HubOp :=
  signalSendStop ++ [.joinSendThread, .takeEpoch, .storeRunning true, .launch]

/-- `MessageHub::stop_send_worker`. -/
def stopSendWorker : List HubOp := signalSendStop ++ [.joinSendThread]

/-- `MessageHub::stop_send_worker_async`: a thread of its own waits for the
send thread, and `join_send_thread` for that one. -/
def stopSendWorkerAsync : List HubOp := signalSendStop

/-- Where a worker is in `send_loop`. -/
inductive SendPoint where
  /-- before `send_running_.load()` in the head of the loop -/
  | running
  /-- before `send_epoch_.load() == epoch` in the head of the loop -/
  | epoch
  | pop
  /-- before the comparison that follows `pop` -/
  | popped (msg : Option MessagePtr)
  | giveBack (msg : MessagePtr)
  | encode (msg : MessagePtr)
  /-- before `sendWireData` is invoked -/
  | post (msg : MessagePtr)
deriving DecidableEq, Repr

/-- The message in the hand of a worker. -/
def SendPoint.hand : SendPoint → List MessagePtr
  | popped (some msg) | giveBack msg | encode msg | post msg => [msg]
  | _ => []

/-- A send thread that has not ended. -/
structure SendWorker where
  epoch : UInt64
  point : SendPoint
deriving DecidableEq, Repr

/-- The sending side of `MessageHub`. -/
structure MessageHub where
  sendQueue : PriorityMessageQueue
  /-- `connection_` is set -/
  connection : Bool
  control : SendControl
  /-- the send thread, while there is one -/
  sendThread : Option SendWorker
  /-- what is left of the call the controller's thread has made -/
  controller : List HubOp
  /-- what is left of the call the UI thread has made -/
  ui : List HubOp
  /-- a history variable: the messages `enqueue_send` was called with -/
  enqueued : List MessagePtr
  /-- a history variable: the messages handed to `Connection::sendWireData` -/
  handed : List MessagePtr

namespace MessageHub

/-- The hub once `start` has been called. -/
def fresh : MessageHub where
  sendQueue := .empty
  connection := true
  control := { sendRunning := false, sendEpoch := 0, taken := none }
  sendThread := none
  controller := []
  ui := []
  enqueued := []
  handed := []

/-- What the workers hold. -/
def hand (h : MessageHub) : List MessagePtr :=
  match h.sendThread with
  | some w => w.point.hand
  | none => []

/-- `MessageHub::enqueue_send`. -/
def enqueueSend (h : MessageHub) (message : Message) : MessageHub :=
  let msg : MessagePtr := { address := h.enqueued.length, message }
  { h with sendQueue := PriorityMessageQueue.push h.sendQueue msg, enqueued := h.enqueued ++ [msg] }

/-- `MessageHub::enqueue_send`, where `push` gives up at its deadline. -/
def enqueueGivesUp (h : MessageHub) (message : Message) : MessageHub :=
  { h with enqueued := h.enqueued ++ [{ address := h.enqueued.length, message }] }

/-- The worker goes on at a point of the loop. -/
def goto (h : MessageHub) (w : SendWorker) (point : SendPoint) : MessageHub :=
  { h with sendThread := some { w with point } }

/-- The worker leaves the loop. -/
def leave (h : MessageHub) : MessageHub := { h with sendThread := none }

/-- One step of `MessageHub::send_loop`. -/
def sendLoop (qt : Qt) (localUserId : Int64) (h : MessageHub) (w : SendWorker) : MessageHub :=
  match w.point with
  | .running => if h.control.sendRunning then h.goto w .epoch else h.leave
  | .epoch => if h.control.sendEpoch = w.epoch then h.goto w .pop else h.leave
  | .pop =>
    let (msg, sendQueue) := PriorityMessageQueue.pop h.sendQueue
    { h with sendQueue }.goto w (.popped msg)
  | .popped none => if h.control.sendEpoch ≠ w.epoch then h.leave else h.goto w .running
  | .popped (some msg) =>
    if h.control.sendEpoch ≠ w.epoch then
      -- superseded: a message of another kind is let go with the worker
      if msg.message.isReturned then h.goto w (.giveBack msg) else h.leave
    else h.goto w (.encode msg)
  | .giveBack msg => { h with sendQueue := PriorityMessageQueue.push h.sendQueue msg }.leave
  | .encode msg =>
    if h.connection = false then h.goto w .running
    else if encodeWireFrame qt msg.message localUserId = [] then h.goto w .running
    else h.goto w (.post msg)
  | .post msg => { h with handed := h.handed ++ [msg] }.goto w .running

/-- The worker is to give its message back, but `push` gives up at its deadline. -/
def giveBackGivesUp (h : MessageHub) : Option MessageHub :=
  match h.sendThread with
  | some { point := .giveBack _, .. } => some h.leave
  | _ => none

/-- An operation of a caller, where it need not wait. -/
def perform (h : MessageHub) (op : HubOp) : Option MessageHub :=
  match op with
  | .joinSendThread => if h.sendThread = none then some h else none
  | .launch =>
    some { h with sendThread := h.control.taken.map fun epoch => { epoch, point := .running } }
  | op => some { h with control := h.control.apply op }

/-- What can happen. -/
inductive Event where
  | enqueueSend (message : Message)
  | enqueueGivesUp (message : Message)
  /-- the worker takes a step; it finds this user logged in -/
  | sendLoop (localUserId : Int64)
  | giveBackGivesUp
  | startSendWorker
  | stopSendWorker
  | stopSendWorkerAsync
  | controller
  /-- the UI thread calls `stop_send_worker_async` -/
  | uiStopSendWorkerAsync
  | ui
  | clearAll
  /-- `start` and `stop` set `connection_` -/
  | setConnection (connection : Bool)
deriving DecidableEq

/-- The controller's thread makes a call. -/
def call (h : MessageHub) (ops : List HubOp) : Option MessageHub :=
  if h.controller = [] then
    some { h with controller := ops, control := { h.control with taken := none } }
  else none

/-- What an event does, where it can happen. -/
def next (qt : Qt) (h : MessageHub) : Event → Option MessageHub
  | .enqueueSend message => some (h.enqueueSend message)
  | .enqueueGivesUp message => some (h.enqueueGivesUp message)
  | .sendLoop localUserId => h.sendThread.map (h.sendLoop qt localUserId)
  | .giveBackGivesUp => h.giveBackGivesUp
  | .startSendWorker => h.call CCMeeting.startSendWorker
  | .stopSendWorker => h.call CCMeeting.stopSendWorker
  | .stopSendWorkerAsync => h.call CCMeeting.stopSendWorkerAsync
  | .controller =>
    match h.controller with
    | op :: ops => { h with controller := ops }.perform op
    | [] => none
  | .uiStopSendWorkerAsync =>
    if h.ui = [] then some { h with ui := CCMeeting.stopSendWorkerAsync } else none
  | .ui =>
    match h.ui with
    | op :: ops => { h with ui := ops }.perform op
    | [] => none
  | .clearAll => some { h with sendQueue := .empty }
  | .setConnection connection => some { h with connection }

/-- What a step can do. -/
inductive Step (qt : Qt) (h : MessageHub) : Event → MessageHub → Prop where
  | enqueueSend (message : Message) : Step qt h (.enqueueSend message) (h.enqueueSend message)
  | sendLoop {localUserId : Int64} {w : SendWorker} : h.sendThread = some w →
      Step qt h (.sendLoop localUserId) (h.sendLoop qt localUserId w)
  /-- a message is lost that does not get into the queue in time -/
  | enqueueGivesUp (message : Message) :
      Step qt h (.enqueueGivesUp message) (h.enqueueGivesUp message)
  | giveBackGivesUp : Step qt h .giveBackGivesUp h.leave
  /-- the controller's thread begins a call -/
  | call {e : Event} {ops : List HubOp} :
      ops ∈ [CCMeeting.startSendWorker, CCMeeting.stopSendWorker, CCMeeting.stopSendWorkerAsync] →
      Step qt h e { h with controller := ops, control := { h.control with taken := none } }
  | controller {op : HubOp} {ops : List HubOp} {h' : MessageHub} : h.controller = op :: ops →
      { h with controller := ops }.perform op = some h' → Step qt h .controller h'
  | uiStopSendWorkerAsync : Step qt h .uiStopSendWorkerAsync
      { h with ui := CCMeeting.stopSendWorkerAsync }
  | ui {op : HubOp} {ops : List HubOp} {h' : MessageHub} : h.ui = op :: ops →
      { h with ui := ops }.perform op = some h' → Step qt h .ui h'
  | clearAll : Step qt h .clearAll { h with sendQueue := .empty }
  | setConnection (connection : Bool) : Step qt h (.setConnection connection) { h with connection }

theorem Step.of_next {qt : Qt} {h h' : MessageHub} {e : Event} (hstep : h.next qt e = some h') :
    Step qt h e h' := by
  have hcall : ∀ ops ∈ [CCMeeting.startSendWorker, CCMeeting.stopSendWorker,
      CCMeeting.stopSendWorkerAsync], h.call ops = some h' → Step qt h e h' := by
    intro ops hops hcall
    unfold MessageHub.call at hcall
    split_ifs at hcall
    cases hcall
    exact .call hops
  cases e with
  | enqueueSend message =>
    cases hstep
    exact .enqueueSend message
  | sendLoop localUserId =>
    rcases Option.map_eq_some_iff.mp hstep with ⟨w, hw, rfl⟩
    exact .sendLoop hw
  | enqueueGivesUp message =>
    cases hstep
    exact .enqueueGivesUp message
  | giveBackGivesUp =>
    simp only [next, MessageHub.giveBackGivesUp] at hstep
    split at hstep
    · cases hstep
      exact .giveBackGivesUp
    · cases hstep
  | startSendWorker => exact hcall _ (by simp) hstep
  | stopSendWorker => exact hcall _ (by simp) hstep
  | stopSendWorkerAsync => exact hcall _ (by simp) hstep
  | controller =>
    cases hops : h.controller with
    | nil =>
      simp only [next, hops] at hstep
      cases hstep
    | cons op ops =>
      simp only [next, hops] at hstep
      exact .controller hops hstep
  | uiStopSendWorkerAsync =>
    simp only [next] at hstep
    split_ifs at hstep
    cases hstep
    exact .uiStopSendWorkerAsync
  | ui =>
    cases hops : h.ui with
    | nil =>
      simp only [next, hops] at hstep
      cases hstep
    | cons op ops =>
      simp only [next, hops] at hstep
      exact .ui hops hstep
  | clearAll =>
    cases hstep
    exact .clearAll
  | setConnection connection =>
    cases hstep
    exact .setConnection connection

/-- The runs of the send pipeline. -/
def system (qt : Qt) : System MessageHub Event where
  Init h := h = fresh
  Step h e h' := h.next qt e = some h'

end MessageHub

end CCMeeting
