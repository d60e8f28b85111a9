import ServiceMux.Connection.Event
import ServiceMux.Proofs.Outstanding
/-! Runs of a connection from its start, and what happens in them. Main statements: what holds at
the start and outlives every step holds after every run (`afterRun`, `afterHistory`). -/
namespace ServiceMux
variable {μ : Type}

/-- What a connection is established with. -/
structure Setting (μ : Type) where
  id : UInt32
  service : Service
  registry : Registry μ
  config : Config
  peer : Option HostAddress := none
  localAddress : Option Net.SocketAddress := none

def Setting.start (s : Setting μ) : Connection μ :=
  { Connection.establish s.id s.service s.registry s.config with
    peer := s.peer, localAddress := s.localAddress }

inductive Occurrence (μ : Type) where
  | registered (registration : Registration) (fate : Fate)
  /-- A call stands in line with its frame. -/
  | queued (call : CallId) (frame : List UInt8)
  /-- A call has the write half, and looks whether it can write. -/
  | locked (call : CallId) (frame : List UInt8)
  /-- A frame came in, and found the connection like this. -/
  | routed (found : Connection μ) (frame : Frame)

namespace Occurrence

def registered? : Occurrence μ → Option Registration
  | registered r _ => some r
  | _ => none

def routed? : Occurrence μ → Option Frame
  | routed _ frame => some frame
  | _ => none

end Occurrence

def Purpose.fate? : Purpose → Option Fate
  | request | receive _ => some .awaited
  | discard => some .dropped
  | send | sendAs _ => none

namespace Connection

def countRead (n : Nat) (c : Connection μ) : Connection μ :=
  { c with metrics := { c.metrics with bytesRead := c.metrics.bytesRead + n } }

/-- The registration that a call for this purpose makes. -/
def registrations (c : Connection μ) (purpose : Purpose) : List (Occurrence μ) :=
  match purpose.fate? with
  | none => []
  | some fate =>
    if c.isLive then
      match c.table.register fate with
      | .ok (r, _) => [.registered r fate]
      | .error _ => []
    else []

/-- The call whose turn comes when it is let run. -/
def turns (c : Connection μ) (call : CallId) : List (Occurrence μ) :=
  match c.waits.find? (·.call == call), c.progress, c.line with
  | none, none, .write first frame _ :: _ => if first == call then [.locked call frame] else []
  | _, _, _ => []

/-- The bytes that a read brings in. -/
def received (c : Connection μ) : Event μ → List UInt8
  | .read (some (.bytes data)) =>
    match c.reader with
    | .reading _ => if c.shutdown then [] else data
    | _ => []
  | _ => []

theorem registrationsCases (c : Connection μ) (purpose : Purpose) :
    c.registrations purpose = [] ∨ ∃ r fate, c.registrations purpose = [.registered r fate] := by
  unfold registrations
  split
  · exact .inl rfl
  · split
    · split
      · exact .inr ⟨_, _, rfl⟩
      · exact .inl rfl
    · exact .inl rfl

theorem registrationsSilent {α : Type} {f : Occurrence μ → Option α}
    (quiet : ∀ r fate, f (.registered r fate) = none) (c : Connection μ) (purpose : Purpose) :
    (c.registrations purpose).filterMap f = [] := by
  rcases registrationsCases c purpose with none | ⟨r, fate, one⟩
  · rw [none]
    rfl
  · rw [one, List.filterMap_cons, quiet]
    rfl

theorem turnsCases (c : Connection μ) (call : CallId) :
    c.turns call = [] ∨ ∃ frame, c.turns call = [.locked call frame] := by
  unfold turns
  split
  · split
    · exact .inr ⟨_, rfl⟩
    · exact .inl rfl
  · exact .inl rfl

variable [Message μ]

/-- The frame with which a call stands in line: its request, as it was stamped, in an envelope. -/
def queues (c : Connection μ) (call : CallId) (purpose : Purpose) (request : μ) :
    List (Occurrence μ) :=
  let begun := c.submit call purpose request
  match begun.outcome, Message.frame c.service.wireCode begun.request c.config.maxFrameSize with
  | none, .ok frame => [.queued call frame]
  | _, _ => []

def routings (c : Connection μ) : List Frame → List (Occurrence μ)
  | [] => []
  | frame :: rest => .routed c frame :: (c.route frame).routings rest

def arrivals (c : Connection μ) (data : List UInt8) : List (Occurrence μ) :=
  match c.reader with
  | .reading buffer =>
    if c.shutdown || data.isEmpty then []
    else
      (c.countRead data.length).routings
        (Frame.splitAll c.config.maxFrameSize (buffer ++ data)).frames
  | _ => []

/-- What happens in one step. -/
def occurrences (c : Connection μ) : Event μ → List (Occurrence μ)
  | .submit call purpose request =>
    if c.isFresh call then c.registrations purpose ++ c.queues call purpose request else []
  | .poll call _ _ => c.turns call
  | .read (some (.bytes data)) => c.arrivals data
  | _ => []

def history (c : Connection μ) : List (Event μ) → List (Occurrence μ)
  | [] => []
  | e :: rest => c.occurrences e ++ (c.step e).history rest

/-- All bytes that came in. -/
def inbound (c : Connection μ) : List (Event μ) → List UInt8
  | [] => []
  | e :: rest => c.received e ++ (c.step e).inbound rest

/-! What can come of each event. -/

section Silent
variable {α : Type} {f : Occurrence μ → Option α} (c : Connection μ)

theorem queuesSilent (quiet : ∀ call frame, f (.queued call frame) = none) (call : CallId)
    (purpose : Purpose) (request : μ) : (c.queues call purpose request).filterMap f = [] := by
  unfold queues
  dsimp only
  split
  · rw [List.filterMap_cons, quiet]
    rfl
  · rfl

theorem routingsSilent (quiet : ∀ found frame, f (.routed found frame) = none)
    (frames : List Frame) : (c.routings frames).filterMap f = [] := by
  induction frames generalizing c with
  | nil => rfl
  | cons frame rest ih => rw [routings, List.filterMap_cons, quiet]; exact ih _

end Silent

theorem attachStep (c : Connection μ) : ∃ n, c.step .attach = { c with references := n } := by
  dsimp only [step, attach]
  split
  · rename_i ok
    split at ok
    · contradiction
    · cases ok
      exact ⟨_, rfl⟩
  · exact ⟨c.references, rfl⟩

theorem allocateStep (c : Connection μ) :
    ∃ n, c.step .allocate = { c with table := { c.table with next := n } } := by
  dsimp only [step, newCorrelationId]
  split
  · rename_i ok
    split at ok
    · rename_i found
      obtain ⟨_, rfl⟩ := PendingTable.allocated found
      cases ok
      exact ⟨_, rfl⟩
    · contradiction
  · exact ⟨c.table.next, rfl⟩

/-! What holds throughout. -/

theorem runAppend (c : Connection μ) (events later : List (Event μ)) :
    c.run (events ++ later) = (c.run events).run later := List.foldl_append

theorem runLast (c : Connection μ) (events : List (Event μ)) (e : Event μ) :
    c.run (events ++ [e]) = (c.run events).step e := runAppend c events [e]

theorem afterRun (holds : Connection μ → Prop) {c : Connection μ} (start : holds c)
    (step : ∀ c e, holds c → holds (c.step e)) (events : List (Event μ)) :
    holds (c.run events) := by
  unfold run
  induction events generalizing c with
  | nil => exact start
  | cons e rest ih => exact ih (step c e start)

theorem afterHistory (holds : List (Occurrence μ) → Connection μ → Prop) {c : Connection μ}
    (start : holds [] c)
    (step : ∀ past c e, holds past c → holds (past ++ c.occurrences e) (c.step e))
    (events : List (Event μ)) : holds (c.history events) (c.run events) := by
  have later (past : List (Occurrence μ)) (c : Connection μ) (now : holds past c) :
      holds (past ++ c.history events) (c.run events) := by
    unfold run
    induction events generalizing c past with
    | nil => simpa [history] using now
    | cons e rest ih =>
      simp only [history, List.foldl_cons, ← List.append_assoc]
      exact ih _ _ (step past c e now)
  simpa using later [] c start

end Connection
end ServiceMux
