import CCMeeting.Client.MessageHub

/-! # Which send worker is the current one

`NetworkManager` and its three threads: the controller's thread connects and
disconnects, the IO thread closes the socket, and the UI thread is notified of
it and stops the send worker. The notification does not say which connection
was closed.
-/

namespace CCMeeting

open Transition

/-- The operations of `connect_to_server` and `disconnect_from_host`. -/
inductive ManagerOp where
  | hub (op : HubOp)
  /-- `Connection::connectToServer`, which waits for the IO thread -/
  | connectToServer
  /-- `connect_to_server` returns true -/
  | returnTrue
  /-- `Connection::disconnectFromHost`, which posts `disconnectOnIoThread` -/
  | disconnectFromHost
deriving DecidableEq, Repr

/-- `NetworkManager`, with the queues of its threads. -/
structure NetworkManager where
  control : SendControl
  /-- what is left of the call the controller's thread has made -/
  controller : List ManagerOp
  /-- the calls of `disconnectOnIoThread` in the queue of the IO thread -/
  disconnects : ℕ
  /-- the signals `disconnected` in the queue of the UI thread -/
  notifications : ℕ
  /-- what is left of the `stop_send_worker_async` a signal has called -/
  ui : List HubOp
  /-- a history variable: the epoch of the worker `connect_to_server` has
  returned true for, until the next call -/
  current : Option UInt64
deriving DecidableEq, Repr

namespace NetworkManager

/-- `NetworkManager::NetworkManager`. -/
def fresh : NetworkManager where
  control := { sendRunning := false, sendEpoch := 0, taken := none }
  controller := []
  disconnects := 0
  notifications := 0
  ui := []
  current := none

/-- `NetworkManager::connect_to_server`, up to the answer of the IO thread. -/
def connectToServer : List ManagerOp := stopSendWorker.map .hub ++ [.connectToServer]

/-- `NetworkManager::connect_to_server` once the handshake has succeeded. -/
def connected : List ManagerOp := startSendWorker.map .hub ++ [.returnTrue]

/-- `NetworkManager::disconnect_from_host`. -/
def disconnectFromHost : List ManagerOp := stopSendWorkerAsync.map .hub ++ [.disconnectFromHost]

/-- What can happen. -/
inductive Event where
  /-- the call of the controller's thread; it returns at once where the address is not `valid` -/
  | connectToServer (valid : Bool)
  | disconnectFromHost
  /-- the call goes on; `ok` is how the handshake ends -/
  | controller (ok : Bool)
  /-- the IO thread runs `disconnectOnIoThread` -/
  | io
  /-- the UI thread goes on, or takes the next signal -/
  | ui
deriving DecidableEq, Repr

/-- The controller's thread makes a call. -/
def call (m : NetworkManager) (ops : List ManagerOp) : Option NetworkManager :=
  if m.controller = [] then
    some { m with controller := ops, control := { m.control with taken := none }, current := none }
  else none

/-- An operation of the call under way, with `ops` left of it. -/
def perform (m : NetworkManager) (ok : Bool) (ops : List ManagerOp) :
    ManagerOp → Option NetworkManager
  | .hub op => some { m with controller := ops, control := m.control.apply op }
  | .connectToServer =>
    -- the IO thread takes its calls in order
    if m.disconnects = 0 then some { m with controller := if ok then connected else ops } else none
  | .returnTrue => some { m with controller := ops, current := m.control.taken }
  | .disconnectFromHost => some { m with controller := ops, disconnects := m.disconnects + 1 }

/-- What an event does, where it can happen. -/
def next (m : NetworkManager) : Event → Option NetworkManager
  | .connectToServer valid => m.call (if valid then connectToServer else [])
  | .disconnectFromHost => m.call disconnectFromHost
  | .controller ok =>
    match m.controller with
    | op :: ops => m.perform ok ops op
    | [] => none
  | .io =>
    if m.disconnects = 0 then none
    else some { m with disconnects := m.disconnects - 1, notifications := m.notifications + 1 }
  | .ui =>
    match m.ui with
    | op :: ops => some { m with ui := ops, control := m.control.apply op }
    | [] =>
      if m.notifications = 0 then none
      else some { m with notifications := m.notifications - 1, ui := stopSendWorkerAsync }

/-- The runs of the network manager. -/
def system : System NetworkManager Event where
  Init m := m = fresh
  Step m e m' := m.next e = some m'

/-- The worker of the current connection is the current one. -/
def WorkerCurrent (m : NetworkManager) : Prop :=
  ∀ epoch, m.current = some epoch → m.control.sendRunning = true ∧ m.control.sendEpoch = epoch

/-- A signal of the IO thread stops no worker that has taken its epoch since
the controller's last call. -/
def StopsNoNewWorker (m : NetworkManager) (e : Event) : Prop :=
  e = .ui → m.ui ≠ [] → m.control.taken = none

instance (m : NetworkManager) (e : Event) : Decidable (m.StopsNoNewWorker e) :=
  inferInstanceAs (Decidable (_ → _))

/-! ## The worker stays the current one -/

/-- What can be left of a call. -/
def programs : List (List ManagerOp) :=
  [connectToServer, connected, disconnectFromHost].flatMap List.tails

/-- What is left of `connect_to_server` when the worker has taken its epoch. -/
def starting : List ManagerOp := [.hub (.storeRunning true), .hub .launch, .returnTrue]

theorem programs_step : ∀ ops ∈ programs, ops.tail ∈ programs ∧
    (ops.head? = some (.hub .takeEpoch) → ops.tail = starting) := by
  decide

/-- While the epoch taken is remembered, it is the current one, and the worker
runs from the next operation on. -/
structure Inv (m : NetworkManager) : Prop where
  program : m.controller ∈ programs
  ui : m.ui ∈ stopSendWorkerAsync.tails
  taken : ∀ epoch, m.control.taken = some epoch → m.control.sendEpoch = epoch ∧
    (m.controller = starting ∨ m.control.sendRunning = true ∧ m.controller ∈ starting.tail.tails)
  current : ∀ epoch, m.current = some epoch →
    m.control.taken = some epoch ∧ m.control.sendRunning = true ∧ m.controller = []

theorem fresh_inv : fresh.Inv where
  program := by decide
  ui := by decide
  taken _ h := nomatch h
  current _ h := nomatch h

section Step

variable {m m' : NetworkManager}

/-- The operations that follow the taking of the epoch. -/
theorem Inv.taken_cases {op : ManagerOp} {ops : List ManagerOp} {epoch : UInt64} (hinv : m.Inv)
    (hcontroller : m.controller = op :: ops) (htaken : m.control.taken = some epoch) :
    m.control.sendEpoch = epoch ∧
      (op = .hub (.storeRunning true) ∧ ops = [.hub .launch, .returnTrue] ∨
        m.control.sendRunning = true ∧
          (op = .hub .launch ∧ ops = [.returnTrue] ∨ op = .returnTrue ∧ ops = [])) := by
  rcases hinv.taken epoch htaken with ⟨hepoch, hrest⟩
  rw [hcontroller] at hrest
  refine ⟨hepoch, hrest.imp ?_ (And.imp_right ?_)⟩
  · intro heq
    cases heq
    exact ⟨rfl, rfl⟩
  · intro hmem
    simpa [starting] using hmem

theorem call_inv {ops : List ManagerOp} (hinv : m.Inv) (hops : ops ∈ programs)
    (hcall : m.call ops = some m') : m'.Inv := by
  unfold call at hcall
  split_ifs at hcall
  cases hcall
  exact ⟨hops, hinv.ui, nofun, nofun⟩

/-- An operation of the hub: one of them takes the epoch, and the next starts
the worker. -/
theorem hub_taken {op : HubOp} {ops : List ManagerOp} {epoch : UInt64} (hinv : m.Inv)
    (hcontroller : m.controller = .hub op :: ops)
    (htaken : (m.control.apply op).taken = some epoch) :
    (m.control.apply op).sendEpoch = epoch ∧ (ops = starting ∨
      (m.control.apply op).sendRunning = true ∧ ops ∈ starting.tail.tails) := by
  cases op with
  | takeEpoch =>
    have hrest := (programs_step _ hinv.program).2
    rw [hcontroller] at hrest
    cases htaken
    exact ⟨rfl, Or.inl (hrest rfl)⟩
  | storeRunning value =>
    rcases hinv.taken_cases hcontroller htaken with ⟨hepoch, ⟨heq, rfl⟩ | ⟨_, ⟨heq, _⟩ | ⟨heq, _⟩⟩⟩
    · cases heq
      have hops : [.hub .launch, .returnTrue] ∈ starting.tail.tails := by decide
      exact ⟨hepoch, Or.inr ⟨rfl, hops⟩⟩
    · cases heq
    · cases heq
  | launch =>
    rcases hinv.taken_cases hcontroller htaken with ⟨hepoch, ⟨heq, _⟩ | ⟨hrun, ⟨_, rfl⟩ | ⟨heq, _⟩⟩⟩
    · cases heq
    · have hops : [.returnTrue] ∈ starting.tail.tails := by decide
      exact ⟨hepoch, Or.inr ⟨hrun, hops⟩⟩
    · cases heq
  | addEpoch | joinSendThread =>
    rcases hinv.taken_cases hcontroller htaken with ⟨_, ⟨heq, _⟩ | ⟨_, ⟨heq, _⟩ | ⟨heq, _⟩⟩⟩ <;>
      cases heq

/-- A step of the call under way: only there a worker takes its epoch. -/
theorem perform_inv {ok : Bool} {op : ManagerOp} {ops : List ManagerOp} (hinv : m.Inv)
    (hcontroller : m.controller = op :: ops) (hop : m.perform ok ops op = some m') : m'.Inv := by
  have htail := (programs_step _ hinv.program).1
  rw [hcontroller] at htail
  -- a current worker means the controller's program is at its end; here it is not
  have hcurrent : ∀ epoch, m.current ≠ some epoch := by
    intro epoch hepoch
    rw [(hinv.current epoch hepoch).2.2] at hcontroller
    cases hcontroller
  have habsent : op = .connectToServer ∨ op = .disconnectFromHost →
      ∀ epoch, m.control.taken ≠ some epoch := by
    intro hop epoch htaken
    rcases hop with rfl | rfl
    all_goals
      rcases hinv.taken_cases hcontroller htaken with ⟨_, ⟨heq, _⟩ | ⟨_, ⟨heq, _⟩ | ⟨heq, _⟩⟩⟩ <;>
        cases heq
  -- `taken` is the epoch of the start under way; only `returnTrue` makes its worker current
  cases op with
  | hub op =>
    cases hop
    exact ⟨htail, hinv.ui, fun _ => hub_taken hinv hcontroller,
      fun epoch hepoch => absurd hepoch (hcurrent epoch)⟩
  | connectToServer =>
    change (if m.disconnects = 0 then some { m with controller := if ok then connected else ops }
      else none) = some m' at hop
    split_ifs at hop <;> cases hop
    all_goals
      refine ⟨?_, hinv.ui, fun epoch htaken => absurd htaken (habsent (Or.inl rfl) epoch),
        fun epoch hepoch => absurd hepoch (hcurrent epoch)⟩
    · show connected ∈ programs
      decide
    · exact htail
  | returnTrue =>
    cases hop
    have hreturned : ∀ epoch, m.control.taken = some epoch →
        m.control.sendEpoch = epoch ∧ m.control.sendRunning = true ∧ ops = [] := by
      intro epoch htaken
      rcases hinv.taken_cases hcontroller htaken with
        ⟨hepoch, ⟨heq, _⟩ | ⟨hrun, ⟨heq, _⟩ | ⟨_, hops⟩⟩⟩
      · cases heq
      · cases heq
      · exact ⟨hepoch, hrun, hops⟩
    refine ⟨htail, hinv.ui, ?_, ?_⟩
    · intro epoch htaken
      rcases hreturned epoch htaken with ⟨hepoch, hrun, rfl⟩
      have hnil : [] ∈ starting.tail.tails := by decide
      exact ⟨hepoch, Or.inr ⟨hrun, hnil⟩⟩
    · intro epoch htaken
      exact ⟨htaken, (hreturned epoch htaken).2⟩
  | disconnectFromHost =>
    cases hop
    exact ⟨htail, hinv.ui, fun epoch htaken => absurd htaken (habsent (Or.inr rfl) epoch),
      fun epoch hepoch => absurd hepoch (hcurrent epoch)⟩

theorem ui_step : ∀ ops ∈ stopSendWorkerAsync.tails, ops.tail ∈ stopSendWorkerAsync.tails ∧
    ops.head? ≠ some .takeEpoch := by
  decide

theorem apply_taken {c : SendControl} {op : HubOp} (h : op ≠ .takeEpoch) :
    (c.apply op).taken = c.taken := by
  cases op with
  | takeEpoch => exact absurd rfl h
  | _ => rfl

/-- The UI thread stops a worker while none has taken its epoch. -/
theorem ui_inv (hinv : m.Inv) (hstop : m.StopsNoNewWorker .ui) (hstep : m.next .ui = some m') :
    m'.Inv := by
  cases hops : m.ui with
  | nil =>
    simp only [next, hops] at hstep
    split_ifs at hstep
    cases hstep
    have hui : stopSendWorkerAsync ∈ stopSendWorkerAsync.tails := by decide
    exact ⟨hinv.program, hui, hinv.taken, hinv.current⟩
  | cons op ops =>
    have hnone : m.control.taken = none := by
      apply hstop rfl
      rw [hops]
      exact List.cons_ne_nil op ops
    rcases ui_step _ hinv.ui with ⟨htail, hne⟩
    rw [hops] at htail hne
    have hnone' : (m.control.apply op).taken = none := by
      rw [apply_taken fun heq => hne (congrArg some heq)]
      exact hnone
    simp only [next, hops] at hstep
    cases hstep
    refine ⟨hinv.program, htail, ?_, ?_⟩
    · intro epoch htaken
      cases hnone'.symm.trans htaken
    · intro epoch hepoch
      cases hnone.symm.trans (hinv.current epoch hepoch).1

theorem step_inv {e : Event} (hinv : m.Inv) (hstop : m.StopsNoNewWorker e)
    (hstep : m.next e = some m') : m'.Inv := by
  cases e with
  | connectToServer valid =>
    refine call_inv hinv ?_ hstep
    cases valid <;> decide
  | disconnectFromHost =>
    refine call_inv hinv ?_ hstep
    decide
  | controller ok =>
    cases hops : m.controller with
    | nil =>
      simp only [next, hops] at hstep
      cases hstep
    | cons op ops =>
      simp only [next, hops] at hstep
      exact perform_inv hinv hops hstep
  | io =>
    simp only [next] at hstep
    split_ifs at hstep
    cases hstep
    exact ⟨hinv.program, hinv.ui, hinv.taken, hinv.current⟩
  | ui => exact ui_inv hinv hstop hstep

end Step

end NetworkManager

open NetworkManager

/-- While the signals of the IO thread are acted on before the next worker takes
its epoch, the worker of the current connection stays the current one. -/
theorem worker_current {m : NetworkManager}
    (hreach : Reachable (NetworkManager.system.restrict StopsNoNewWorker) m) : m.WorkerCurrent := by
  have hinv : m.Inv := by
    refine hreach.invariant ?_ ?_
    · rintro m rfl
      exact NetworkManager.fresh_inv
    · intro m e m' _ hinv hstep
      exact NetworkManager.step_inv hinv hstep.1 hstep.2
  intro epoch hepoch
  rcases hinv.current epoch hepoch with ⟨htaken, hrun, _⟩
  exact ⟨hrun, (hinv.taken epoch htaken).1⟩

namespace NetworkManager

/-- A connection is opened; `connect_to_server` waits for the IO thread, and
returns true. -/
def opened : List Event :=
  .connectToServer true :: List.replicate 3 (.controller true) ++ [.io] ++
    List.replicate 8 (.controller true)

/-- The connection is given up. -/
def closed : List Event := .disconnectFromHost :: List.replicate 3 (.controller true)

/-- The first connection is opened: the IO thread has nothing to close. -/
def openedFirst : List Event := .connectToServer true :: List.replicate 11 (.controller true)

end NetworkManager

/-- The signal of the first connection is acted on before the worker of the
second one is started. -/
theorem worker_current_of_early_signal :
    ∃ m : NetworkManager, m.current = some 8 ∧ m.control.sendRunning = true ∧
      m.control.sendEpoch = 8 := by
  have hrun : (replay (guarded StopsNoNewWorker NetworkManager.next) NetworkManager.fresh
      (openedFirst ++ closed ++ [.io, .ui, .ui, .ui] ++ openedFirst)).any
      (·.current = some 8) = true := by
    decide
  rcases (Option.any_eq_true _ _).mp hrun with ⟨m, hrun, hcurrent⟩
  have hreach : Reachable (NetworkManager.system.restrict StopsNoNewWorker) m :=
    (Run.of_replay (fun _ _ _ => guarded_step fun _ _ _ => id) hrun).reachable (.init rfl)
  exact ⟨m, of_decide_eq_true hcurrent, worker_current hreach 8 (of_decide_eq_true hcurrent)⟩

/-- The signal of the first connection stops the worker of the second one. -/
theorem late_signal_stops_worker :
    ¬∀ m, Reachable NetworkManager.system m → m.WorkerCurrent := by
  intro hall
  have hrun : (replay NetworkManager.next NetworkManager.fresh
      (openedFirst ++ closed ++ opened ++ [.ui, .ui])).any
      (fun m => m.current = some 7 ∧ m.control.sendRunning = false) = true := by
    decide
  rcases (Option.any_eq_true _ _).mp hrun with ⟨m, hrun, htest⟩
  rcases of_decide_eq_true htest with ⟨hcurrent, hstopped⟩
  have hreach : Reachable NetworkManager.system m :=
    (Run.of_replay (fun _ _ _ => id) hrun).reachable (.init rfl)
  have hrunning := (hall m hreach 7 hcurrent).1
  rw [hstopped] at hrunning
  cases hrunning

end CCMeeting
