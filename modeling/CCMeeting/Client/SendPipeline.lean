import CCMeeting.Client.MessageHub
import CCMeeting.Client.Reference

/-! # What becomes of the messages to send

Nothing is lost and nothing overtakes another message of its priority, as long
as every `push` gets the lock of the queue in time and a superseded worker that
holds a message can give it back to an empty bucket. The latter is what `send_loop`
does not see to: it puts a message back at the end, and lets go of the kinds it does
not name.
-/

namespace CCMeeting

open Transition

namespace MessageHub

/-! ## The property and its condition -/

/-- Every message is in one place, once, and those handed over are the first
of their priority. -/
structure Conserved (h : MessageHub) : Prop where
  once : ∀ msg, h.handed.count msg + h.hand.count msg +
    (h.sendQueue.bucket msg.priority).count msg = if msg ∈ h.enqueued then 1 else 0
  inOrder : ∀ priority, h.handed.filter (·.priority = priority) <+:
    h.enqueued.filter (·.priority = priority)

/-- A connection is set, nothing is cleared, and there is room in the queue. -/
def Undisturbed (h : MessageHub) (e : Event) : Prop :=
  h.connection = true ∧ e ≠ .clearAll ∧ (h.sendQueue.bucket .control).length < queueMaxSize ∧
    (h.sendQueue.bucket .text).length < queueMaxSize

instance (h : MessageHub) (e : Event) : Decidable (h.Undisturbed e) :=
  inferInstanceAs (Decidable (_ ∧ _))

/-- No `push` gives up at the deadline of its lock. -/
def Event.locks : Event → Bool
  | .enqueueGivesUp _ | .giveBackGivesUp => false
  | _ => true

/-- A worker that finds itself superseded with a message in its hand is to put
it back, and when it does nothing of its priority is queued. -/
def returnsInPlace (h : MessageHub) : Event → Bool
  | .sendLoop _ =>
    match h.sendThread with
    | some { epoch, point := .popped (some msg) } =>
      h.control.sendEpoch = epoch || msg.message.isReturned
    | some { point := .giveBack msg, .. } => (h.sendQueue.bucket msg.priority).isEmpty
    | _ => true
  | _ => true

/-! ## The callers -/

/-- What can be left of a call of the controller's thread. -/
def controllerPrograms : List (List HubOp) :=
  [CCMeeting.startSendWorker, CCMeeting.stopSendWorker, CCMeeting.stopSendWorkerAsync].flatMap
    List.tails

/-- A send thread is still to be started, and the last one has been waited for. -/
def Joined (ops : List HubOp) : Prop := .launch ∈ ops ∧ .joinSendThread ∉ ops

instance (ops : List HubOp) : Decidable (Joined ops) := inferInstanceAs (Decidable (_ ∧ _))

theorem controllerPrograms_step : ∀ ops ∈ controllerPrograms, ops.tail ∈ controllerPrograms ∧
    (ops.head? = some .launch → Joined ops ∧ ¬Joined ops.tail) ∧
    (Joined ops.tail → ops.head? = some .joinSendThread ∨ Joined ops) := by
  decide

theorem ui_step : ∀ ops ∈ CCMeeting.stopSendWorkerAsync.tails,
    ops.tail ∈ CCMeeting.stopSendWorkerAsync.tails ∧ ops.head? ≠ some .launch := by
  decide

/-- Both threads are in the middle of one of their calls, and a new send thread
is started only once the last one has ended. -/
structure Called (h : MessageHub) : Prop where
  controller : h.controller ∈ controllerPrograms
  ui : h.ui ∈ CCMeeting.stopSendWorkerAsync.tails
  joined : Joined h.controller → h.sendThread = none

theorem fresh_called : fresh.Called where
  controller := by decide
  ui := by decide
  joined _ := rfl

/-- An operation changes the atomics and the send thread; only `launch` starts one. -/
theorem perform_cases {h h' : MessageHub} {op : HubOp} (hop : h.perform op = some h') :
    ∃ control thread, h' = { h with control, sendThread := thread } ∧
      (op ≠ .launch → thread = h.sendThread) ∧
      (op = .launch → ∀ w ∈ thread, w.point = .running) ∧
      (op = .joinSendThread → h.sendThread = none) := by
  cases op with
  | joinSendThread =>
    change (if h.sendThread = none then some h else none) = some h' at hop
    split_ifs at hop with hnone
    cases hop
    exact ⟨h.control, h.sendThread, rfl, fun _ => rfl, nofun, fun _ => hnone⟩
  | launch =>
    cases hop
    refine ⟨h.control, _, rfl, fun hne => absurd rfl hne, ?_, nofun⟩
    intro _ w hw
    rcases Option.map_eq_some_iff.mp hw with ⟨epoch, _, rfl⟩
    rfl
  | storeRunning _ | addEpoch | takeEpoch =>
    cases hop
    exact ⟨_, h.sendThread, rfl, fun _ => rfl, nofun, nofun⟩

/-- A step of the worker changes the queue, what was handed over and the send
thread. -/
theorem sendLoop_cases (qt : Qt) (localUserId : Int64) (h : MessageHub) (w : SendWorker) :
    ∃ queue handed thread, h.sendLoop qt localUserId w =
      { h with sendQueue := queue, handed, sendThread := thread } := by
  unfold sendLoop
  split
  all_goals try split_ifs
  all_goals exact ⟨_, _, _, rfl⟩

theorem call_program : ∀ ops ∈ [CCMeeting.startSendWorker, CCMeeting.stopSendWorker,
    CCMeeting.stopSendWorkerAsync], ops ∈ controllerPrograms ∧ ¬Joined ops := by
  decide

theorem called_step {qt : Qt} {h h' : MessageHub} {e : Event} (hinv : h.Called)
    (hstep : Step qt h e h') : h'.Called := by
  cases hstep with
  | enqueueSend | enqueueGivesUp | clearAll | setConnection =>
    exact ⟨hinv.controller, hinv.ui, hinv.joined⟩
  | giveBackGivesUp => exact ⟨hinv.controller, hinv.ui, fun _ => rfl⟩
  | @sendLoop localUserId w hw =>
    rcases sendLoop_cases qt localUserId h w with ⟨queue, handed, thread, heq⟩
    rw [heq]
    refine ⟨hinv.controller, hinv.ui, ?_⟩
    -- there is a worker, so the next one is not started yet
    intro hj
    rw [hinv.joined hj] at hw
    cases hw
  | call hops =>
    rcases call_program _ hops with ⟨hprogram, hjoined⟩
    exact ⟨hprogram, hinv.ui, fun hj => absurd hj hjoined⟩
  | @controller op ops _ hops hop =>
    rcases perform_cases hop with ⟨control, thread, rfl, hsame, _, hjoin⟩
    rcases controllerPrograms_step _ hinv.controller with ⟨htail, hlaunch, hjoined⟩
    rw [hops] at htail hlaunch hjoined
    refine ⟨htail, hinv.ui, ?_⟩
    intro hj
    have hne : op ≠ .launch := by
      rintro rfl
      exact (hlaunch rfl).2 hj
    rw [hsame hne]
    rcases hjoined hj with hhead | hj
    · exact hjoin (Option.some.inj hhead)
    · rw [← hops] at hj
      exact hinv.joined hj
  | uiStopSendWorkerAsync =>
    have hui : CCMeeting.stopSendWorkerAsync ∈ CCMeeting.stopSendWorkerAsync.tails := by decide
    exact ⟨hinv.controller, hui, hinv.joined⟩
  | @ui op ops _ hops hop =>
    rcases perform_cases hop with ⟨control, thread, rfl, hsame, _, _⟩
    rcases ui_step _ hinv.ui with ⟨htail, hne⟩
    rw [hops] at htail hne
    refine ⟨hinv.controller, htail, ?_⟩
    rw [hsame fun heq => hne (congrArg some heq)]
    exact hinv.joined

/-! ## The messages -/

/-- What is queued is what was enqueued and has been neither handed over nor taken. -/
def InOrder (h : MessageHub) : Prop := h.sendQueue.Lined (h.handed ++ h.hand) h.enqueued

/-- `enqueue_send` is called with a new object every time. -/
def Addressed (h : MessageHub) : Prop :=
  h.enqueued.map MessagePtr.address = List.range h.enqueued.length

theorem Addressed.nodup {h : MessageHub} (ha : h.Addressed) : h.enqueued.Nodup := by
  apply List.Nodup.of_map MessagePtr.address
  rw [ha]
  exact List.nodup_range

theorem hand_of_thread {h : MessageHub} {w : SendWorker} (hw : h.sendThread = some w) :
    h.hand = w.point.hand := by
  rw [hand, hw]

theorem hand_of_none {h : MessageHub} (hw : h.sendThread = none) : h.hand = [] := by
  rw [hand, hw]

/-- The conclusion is drawn from the invariants. -/
theorem InOrder.conserved {h : MessageHub} (hline : h.InOrder) (ha : h.Addressed) :
    h.Conserved where
  once msg := by
    have hcount := hline.count ha.nodup msg
    rw [List.count_append] at hcount
    exact hcount
  inOrder priority := by
    have hprefix := hline.isPrefix priority
    rw [List.filter_append] at hprefix
    exact (List.prefix_append _ _).trans hprefix

section Step

variable {qt : Qt} {h h' : MessageHub}

theorem room_of_undisturbed {e : Event} (he : h.Undisturbed e) (priority : MessagePriority) :
    (h.sendQueue.bucket priority).length < queueMaxSize := by
  cases priority with
  | control => exact he.2.2.1
  | text => exact he.2.2.2

theorem enqueueSend_inOrder {message : Message} (hline : h.InOrder)
    (hroom : ∀ priority, (h.sendQueue.bucket priority).length < queueMaxSize) :
    (h.enqueueSend message).InOrder :=
  hline.push (PriorityMessageQueue.bucket_push (hroom _)) PriorityMessageQueue.bucket_push_of_ne

theorem enqueueSend_addressed {message : Message} (ha : h.Addressed) :
    (h.enqueueSend message).Addressed := by
  show (h.enqueued ++ [_]).map MessagePtr.address = List.range (h.enqueued ++ [_]).length
  rw [List.map_append, ha, List.length_append, List.length_singleton, List.range_succ]
  rfl

/-- What a worker does with the message in its hand: it takes the front of its
bucket, passes it on, or gives it back to an empty bucket. -/
theorem sendLoop_inOrder (hqt : ∀ ms, qt.toJson (.object ms) ≠ []) {localUserId : Int64}
    {w : SendWorker} (hw : h.sendThread = some w) (hline : h.InOrder)
    (he : h.Undisturbed (.sendLoop localUserId))
    (hreturn : h.returnsInPlace (.sendLoop localUserId) = true) :
    (h.sendLoop qt localUserId w).InOrder := by
  rcases w with ⟨epoch, point⟩
  unfold InOrder at hline
  rw [hand_of_thread hw] at hline
  -- one case per program point of `sendLoop`; the message in the worker's hand stands between
  -- what it posted and what is queued
  cases point with
  | running =>
    simp only [sendLoop]
    split_ifs <;> exact hline
  | epoch =>
    simp only [sendLoop]
    split_ifs <;> exact hline
  | pop =>
    change h.sendQueue.Lined (h.handed ++ []) h.enqueued at hline
    rw [List.append_nil] at hline
    rcases hpop : PriorityMessageQueue.pop h.sendQueue with ⟨popped, queue⟩
    simp only [sendLoop, hpop]
    cases popped with
    | none =>
      rw [PriorityMessageQueue.pop_none hpop]
      show h.sendQueue.Lined (h.handed ++ []) h.enqueued
      rw [List.append_nil]
      exact hline
    | some msg =>
      rcases PriorityMessageQueue.bucket_pop hpop with ⟨hself, hother⟩
      exact hline.pop hself hother
  | popped popped =>
    cases popped with
    | none =>
      simp only [sendLoop]
      split_ifs <;> exact hline
    | some msg =>
      simp only [returnsInPlace, hw, Bool.or_eq_true, decide_eq_true_eq] at hreturn
      simp only [sendLoop]
      split_ifs with hepoch hkind
      · exact hline
      -- superseded with a message of a kind that is not put back: `hreturn` excludes it
      · rcases hreturn with hepoch' | hkind'
        · exact absurd hepoch' hepoch
        · exact absurd hkind' hkind
      · exact hline
  | giveBack msg =>
    simp only [returnsInPlace, hw, List.isEmpty_iff] at hreturn
    show Buckets.Lined _ (h.handed ++ []) h.enqueued
    rw [List.append_nil]
    -- nothing of its priority is queued, so the back of the bucket is also its front
    exact hline.giveBack hreturn
      (PriorityMessageQueue.bucket_push (room_of_undisturbed he msg.priority))
      PriorityMessageQueue.bucket_push_of_ne
  | encode msg =>
    simp only [sendLoop]
    split_ifs with hconnection hframe
    -- the two ways to lose a message: no connection, or a frame that encodes to nothing
    · exact absurd (hconnection.symm.trans he.1) Bool.false_ne_true
    · exact absurd hframe (hqt _)
    · exact hline
  | post msg =>
    show h.sendQueue.Lined (h.handed ++ [msg] ++ []) h.enqueued
    rw [List.append_nil]
    exact hline

/-- A caller moves no message: a worker is launched when there is none. -/
theorem perform_inOrder {op : HubOp} (hline : h.InOrder)
    (hlaunch : op = .launch → h.sendThread = none) {controller ui : List HubOp}
    (hop : { h with controller, ui }.perform op = some h') : h'.InOrder := by
  rcases perform_cases hop with ⟨control, thread, rfl, hsame, hstart, _⟩
  have hhand :
      MessageHub.hand { h with controller, ui, control, sendThread := thread } = h.hand := by
    by_cases hop : op = .launch
    · rw [hand_of_none (hlaunch hop)]
      cases hthread : thread with
      | none => rfl
      | some w =>
        have hpoint : w.point = .running := hstart hop w hthread
        show w.point.hand = []
        rw [hpoint]
        rfl
    · rw [hsame hop]
      rfl
  show Buckets.Lined _ (h.handed ++ _) _
  rw [hhand]
  exact hline

theorem perform_addressed {op : HubOp} (ha : h.Addressed) (hop : h.perform op = some h') :
    h'.Addressed := by
  rcases perform_cases hop with ⟨control, thread, rfl, _, _, _⟩
  exact ha

/-- One step keeps the messages in line, where no `push` gives up and the worker
returns them in place. -/
theorem inOrder_step (hqt : ∀ ms, qt.toJson (.object ms) ≠ []) {e : Event} (hcalled : h.Called)
    (hline : h.InOrder) (ha : h.Addressed) (he : h.Undisturbed e) (hlocks : e.locks = true)
    (hreturn : h.returnsInPlace e = true) (hstep : Step qt h e h') :
    h'.InOrder ∧ h'.Addressed := by
  -- the calls only begin or go on with a program; `sendLoop` and `enqueueSend` move messages
  cases hstep with
  | enqueueSend message =>
    exact ⟨enqueueSend_inOrder hline (room_of_undisturbed he), enqueueSend_addressed ha⟩
  | @sendLoop localUserId w hw =>
    constructor
    · exact sendLoop_inOrder hqt hw hline he hreturn
    · rcases sendLoop_cases qt localUserId h w with ⟨queue, handed, thread, heq⟩
      rw [heq]
      exact ha
  | call | uiStopSendWorkerAsync | setConnection => exact ⟨hline, ha⟩
  | @controller op ops _ hops hop =>
    rcases controllerPrograms_step _ hcalled.controller with ⟨_, hjoined, _⟩
    -- the controller joins the old thread before it launches one, so no message is in a hand
    have hlaunch : op = .launch → h.sendThread = none := by
      rintro rfl
      apply hcalled.joined
      rw [hops] at hjoined ⊢
      exact (hjoined rfl).1
    constructor
    · exact perform_inOrder hline hlaunch hop
    · exact perform_addressed (h := { h with controller := ops }) ha hop
  | @ui op ops _ hops hop =>
    have hne : op ≠ .launch := by
      rintro rfl
      apply (ui_step _ hcalled.ui).2
      rw [hops]
      rfl
    constructor
    · exact perform_inOrder hline (fun heq => absurd heq hne) hop
    · exact perform_addressed (h := { h with ui := ops }) ha hop
  | clearAll => exact absurd rfl he.2.1
  | enqueueGivesUp | giveBackGivesUp => cases hlocks

end Step

/-- The runs in which a connection is set, nothing is cleared and the queue has
room. -/
def undisturbed (qt : Qt) : System MessageHub Event := (system qt).restrict Undisturbed

end MessageHub

open MessageHub

/-- While no `push` gives up and superseded workers return what they hold in its
place, every message enqueued is in one place and those of a priority are handed over
in order. -/
theorem send_pipeline {qt : Qt} (hqt : ∀ ms, qt.toJson (.object ms) ≠ []) {h : MessageHub}
    (hreach : Reachable ((undisturbed qt).restrict
      fun h e => e.locks = true ∧ h.returnsInPlace e = true) h) :
    h.Conserved := by
  have hinv : h.Called ∧ h.InOrder ∧ h.Addressed := by
    refine hreach.invariant (I := fun h => h.Called ∧ h.InOrder ∧ h.Addressed) ?_ ?_
    · rintro h rfl
      exact ⟨fresh_called, Buckets.Lined.start, rfl⟩
    · rintro h e h' _ ⟨hcalled, hline, ha⟩ ⟨⟨hlocks, hreturn⟩, he, hstep⟩
      have hstep := Step.of_next hstep
      refine ⟨called_step hcalled hstep, ?_⟩
      exact inOrder_step hqt hcalled hline ha he hlocks hreturn hstep
  exact hinv.2.1.conserved hinv.2.2

namespace MessageHub

/-- A new worker up to its first `pop`. -/
def firstPop : List Event :=
  [.startSendWorker, .controller, .controller, .controller, .controller, .controller, .controller,
    .sendLoop 1, .sendLoop 1, .sendLoop 1]

/-- A disconnected notification stops the worker. -/
def stopped : List Event := [.uiStopSendWorkerAsync, .ui, .ui]

theorem reachable_of_guarded {C : MessageHub → Event → Prop} [∀ h e, Decidable (C h e)]
    {es : List Event} {h : MessageHub}
    (hrun : replay (guarded C (guarded Undisturbed (next referenceQt))) fresh es = some h) :
    Reachable ((undisturbed referenceQt).restrict C) h := by
  have hstep : ∀ h e h', guarded Undisturbed (next referenceQt) h e = some h' →
      (undisturbed referenceQt).Step h e h' := fun _ _ _ => guarded_step fun _ _ _ => id
  exact (Run.of_replay (fun _ _ _ => guarded_step hstep) hrun).reachable (.init rfl)

end MessageHub

/-- A request to create a meeting, popped by a worker that was then stopped, is
put back and handed over by the next one. -/
theorem send_pipeline_of_request :
    ∃ h : MessageHub, h.handed = [⟨0, .createMeeting 5 60⟩] ∧ h.Conserved := by
  have hrun : (replay (guarded (fun h e => e.locks = true ∧ h.returnsInPlace e = true)
      (guarded Undisturbed (next referenceQt))) fresh
      (.enqueueSend (.createMeeting 5 60) :: firstPop ++ stopped ++ [.sendLoop 1, .sendLoop 1] ++
        firstPop ++ [.sendLoop 1, .sendLoop 1, .sendLoop 1])).any
      (·.handed = [⟨0, .createMeeting 5 60⟩]) = true := by
    decide +kernel
  rcases (Option.any_eq_true _ _).mp hrun with ⟨h, hrun, hhanded⟩
  have hqt : ∀ ms, referenceQt.toJson (.object ms) ≠ [] := fun ms => List.cons_ne_nil _ _
  exact ⟨h, of_decide_eq_true hhanded, send_pipeline hqt (reachable_of_guarded hrun)⟩

/-- A request to change the settings of the room goes down with the worker. -/
theorem settings_go_down_with_worker :
    ¬∀ h, Reachable (undisturbed referenceQt) h → h.Conserved := by
  intro hall
  have hrun : (replay (guarded (fun _ _ => True) (guarded Undisturbed (next referenceQt))) fresh
      (.enqueueSend (.roomSettings 1) :: firstPop ++ stopped ++ [.sendLoop 1])).any
      (fun h => h.enqueued = [⟨0, .roomSettings 1⟩] ∧ h.handed = [] ∧ h.hand = [] ∧
        h.sendQueue.bucket .control = []) = true := by
    decide +kernel
  rcases (Option.any_eq_true _ _).mp hrun with ⟨h, hrun, htest⟩
  rcases of_decide_eq_true htest with ⟨henqueued, hhanded, hhand, hqueue⟩
  have honce := (hall h (reachable_of_guarded hrun).of_restrict).once ⟨0, .roomSettings 1⟩
  change _ + List.count _ (h.sendQueue.bucket .control) = _ at honce
  rw [henqueued, hhanded, hhand, hqueue] at honce
  exact absurd honce (by decide)

end CCMeeting
