import ServiceMux.Opening
import ServiceMux.Proofs.Callers
import ServiceMux.Proofs.Provenance
import ServiceMux.Proofs.Traffic
/-! Attempts at opening a connection, moment by moment, and what each part of one makes of its
connection. Main statements: a request of the handshake and the wait for its reply are steps of the
connection, and fail only as any other call would (`asked`, `polled`). -/
namespace ServiceMux
variable {μ : Type}

/-- How far an attempt at opening a connection got. -/
inductive Attempt (μ : Type) where
  | dialing (d : Opening.Dialing)
  | going (n : Opening.Negotiating μ)
  | opened (c : Connection μ)
  /-- With the connection that was half open, if there was a stream. -/
  | failed (e : ServerError) (c : Option (Connection μ))
  /-- Whoever wanted the connection gave it up before it was open. -/
  | dropped (c : Option (Connection μ))

/-- What happens to an attempt, or to the connection that came of it. -/
inductive Moment where
  | poll (now : Instant) (attempt : WriteAttempt)
  | expire (now : Instant)
  | drop
  | read (arrival : Option Arrival)

/-- A moment of an attempt, and what the attempt finds in its process then. -/
structure Occasion (μ : Type) where
  nextConnection : UInt32
  shared : SharedRegistry μ
  moment : Moment

/-- What comes about in an attempt: its stream, and the hooks' judgements of the host's replies. -/
inductive Sign (μ : Type) where
  | stream
  | attributes (reply : Reply μ) (verdict : Except HandshakeError Unit)
  | start (reply : Reply μ) (verdict : Except HandshakeError (Option String))

def HandshakeError.rejection? : HandshakeError → Option (UInt32 × String)
  | negotiation _ => none
  | rejected code reason => some (code, reason)

def Sign.rejection? : Sign μ → Option (UInt32 × String)
  | attributes _ (.error e) => e.rejection?
  | start _ (.error e) => e.rejection?
  | _ => none

/-- What the hooks say to the reply of an exchange. -/
def Hooks.verdict (hooks : Hooks μ) (reply : Reply μ) : Stage → Sign μ
  | .attributes => .attributes reply (hooks.checkAttributes reply)
  | .start => .start reply (hooks.checkStartServer reply)

namespace Attempt

def connection? : Attempt μ → Option (Connection μ)
  | dialing _ => none
  | going n => some n.connection
  | opened c => some c
  | failed _ c => c
  | dropped c => c

def ofProgress : Opening.Progress μ → Attempt μ
  | .going n => going n
  | .opened c => opened c
  | .failed e c => failed e (some c)

def drop : Attempt μ → Attempt μ
  | dialing _ => dropped none
  | going n => dropped (some n.abandon)
  | a => a

def expire (o : Opening μ) (now : Instant) : Attempt μ → Attempt μ
  | going n => if n.limit.isDue now then ofProgress (o.expire n) else going n
  | a => a

variable [Message μ]

/-- The attempt is let run, and what it leaves of the shared registry. -/
def poll (o : Opening μ) (a : Attempt μ) (id : UInt32) (shared : SharedRegistry μ) (now : Instant)
    (attempt : WriteAttempt) : Attempt μ × SharedRegistry μ :=
  match a with
  | dialing d =>
    match o.dialed d now with
    | none => (dialing d, shared)
    | some (.error e) => (failed e none, shared)
    | some (.ok localAddress) =>
      let (progress, shared) := o.connect d.address localAddress id shared now
      (ofProgress progress, shared)
  | going n => (ofProgress (o.poll n now attempt), shared)
  | a => (a, shared)

/-- The reader of the connection is let run, also after the attempt has ended. -/
def read (arrival : Option Arrival) : Attempt μ → Attempt μ
  | dialing d => dialing d
  | going n => going { n with connection := n.connection.pollReader arrival }
  | opened c => opened (c.pollReader arrival)
  | failed e c => failed e (c.map (·.pollReader arrival))
  | dropped c => dropped (c.map (·.pollReader arrival))

def step (o : Opening μ) (a : Attempt μ) (occasion : Occasion μ) : Attempt μ :=
  match occasion.moment with
  | .poll now attempt => (a.poll o occasion.nextConnection occasion.shared now attempt).1
  | .expire now => a.expire o now
  | .drop => a.drop
  | .read arrival => a.read arrival

/-- What comes about at a moment of a handshake with these hooks. -/
def signs (o : Opening μ) (hooks : Hooks μ) (a : Attempt μ) (moment : Moment) : List (Sign μ) :=
  match a, moment with
  | dialing d, .poll now _ =>
    match o.dialed d now with
    | some (.ok _) => [.stream]
    | _ => []
  | going n, .poll now attempt =>
    match (n.connection.poll n.stage.call now attempt).2 with
    | some (.ok (.reply reply)) => [hooks.verdict reply n.stage]
    | _ => []
  | _, _ => []

def run (o : Opening μ) (a : Attempt μ) (occasions : List (Occasion μ)) : Attempt μ :=
  occasions.foldl (step o) a

def past (o : Opening μ) (hooks : Hooks μ) (a : Attempt μ) : List (Occasion μ) → List (Sign μ)
  | [] => []
  | first :: rest => a.signs o hooks first.moment ++ (a.step o first).past o hooks rest

theorem afterPast (o : Opening μ) (hooks : Hooks μ) (holds : List (Sign μ) → Attempt μ → Prop)
    {a : Attempt μ} (start : holds [] a)
    (step : ∀ past a (occasion : Occasion μ), holds past a →
      holds (past ++ a.signs o hooks occasion.moment) (a.step o occasion))
    (occasions : List (Occasion μ)) : holds (a.past o hooks occasions) (a.run o occasions) := by
  have later (past : List (Sign μ)) (a : Attempt μ) (now : holds past a) :
      holds (past ++ a.past o hooks occasions) (a.run o occasions) := by
    unfold run
    induction occasions generalizing a past with
    | nil => simpa [Attempt.past] using now
    | cons first rest ih =>
      simp only [Attempt.past, List.foldl_cons, ← List.append_assoc]
      exact ih _ _ (step past a first now)
  simpa using later [] a start

end Attempt

/-- An attempt from where its stream is dialed. -/
def Opening.begin (o : Opening μ) (provider : Provider) (now : Instant) : Attempt μ :=
  match o.dial provider now with
  | .ok d => .dialing d
  | .error e => .failed e none

/-! What a call can fail with. -/

/-- Refusals by the host and by the configuration are no errors of a call on a connection. -/
def ServerError.isOfCall : ServerError → Bool
  | .configuration _ | .connect _ | .authentication .. => false
  | _ => true

theorem ServerError.asConnect {e : ServerError} (h : e.isOfCall = true) :
    ∃ reason, Opening.asConnectFailure e = .connect reason := by
  cases e with
  | configuration | authentication => contradiction
  | connect reason => exact ⟨reason, rfl⟩
  | _ => exact ⟨_, rfl⟩

namespace Connection
variable {c : Connection μ} {call : CallId} {frame : List UInt8} {errand : Errand} {now : Instant}
  {attempt : WriteAttempt} {e : ServerError}

theorem sentError (h : (c.sent call errand now).2 = some (.error e)) : e.isOfCall = true := by
  cases errand <;> cases h

theorem downErrorIsOfCall (errand : Errand) : (downError errand).isOfCall = true := by
  unfold downError
  split <;> rfl

theorem writeOnError {before : Nat}
    (h : (c.writeOn call frame errand before now attempt).2 = some (.error e)) :
    e.isOfCall = true := by
  cases c.writeCases call frame errand before now attempt with
  | late _ comes | failed _ _ comes =>
    rw [comes] at h
    cases h
    rfl
  | stalled _ _ comes =>
    rw [comes] at h
    contradiction
  | complete _ _ comes =>
    rw [comes] at h
    exact sentError h

theorem takeTurnError (h : (c.takeTurn call frame errand now attempt).2 = some (.error e)) :
    e.isOfCall = true := by
  cases c.turnCases call frame errand now attempt with
  | late _ _ comes =>
    rw [comes] at h
    cases h
    exact downErrorIsOfCall errand
  | writes _ comes => exact writeOnError (comes ▸ h)

theorem pollWaitError (faults : c.inward.Faults) {w : Wait}
    (h : (c.pollWait w now).2 = some (.error e)) : e.isOfCall = true := by
  cases c.waitCases w now with
  | @told result found comes =>
    obtain ⟨inbox, own, filled⟩ := Option.bind_eq_some_iff.mp found
    rw [comes] at h
    cases result with
    | ok reply => cases h
    | error e =>
      cases h
      rcases faults inbox (List.mem_of_find?_eq_some own) _ filled with
        ⟨_, rfl⟩ | ⟨_, rfl⟩ | ⟨rfl, _⟩ <;> rfl
  | lost _ _ comes | late _ _ _ _ comes =>
    rw [comes] at h
    cases h
    rfl
  | still _ _ _ comes =>
    rw [comes] at h
    contradiction

theorem pollError (faults : c.inward.Faults) (h : (c.poll call now attempt).2 = some (.error e)) :
    e.isOfCall = true := by
  cases c.pollCases call now attempt with
  | waits _ comes => exact pollWaitError faults (comes ▸ h)
  | turn _ _ comes => exact takeTurnError (comes ▸ h)
  | still _ _ comes =>
    rw [comes] at h
    contradiction

variable [Message μ]

theorem sendAndReceiveError {request : μ}
    (h : (c.sendAndReceive call request).outcome = some (.error e)) : e.isOfCall = true := by
  unfold sendAndReceive at h
  rcases submitCases c call (.receive c.replyTimeout) request with
    ⟨other, turned, _, refuses⟩ | ⟨_, d, id, errand, _, stands⟩
  · rw [turned] at h
    cases h
    cases refuses with
    | down => rfl
    | register _ refused =>
      rcases PendingTable.registerFails refused with ⟨-, rfl⟩ | ⟨-, rfl⟩ <;> rfl
  · rw [stands] at h
    unfold standInLine at h
    split at h
    · rename_i unframed
      cases h
      cases Message.unsendableIff.mp unframed <;> rfl
    · contradiction

/-! The exchanges of a handshake. -/

omit [Message μ] in
theorem freshOf (h : call ∉ c.callers) : c.isFresh call = true := by
  simp only [isFresh, Bool.and_eq_true, List.all_eq_true, bne_iff_ne]
  refine ⟨fun w waits same => h ?_, fun turn inside same => h ?_⟩
  · exact List.mem_append_right _ (List.mem_map.mpr ⟨w, waits, same⟩)
  · exact List.mem_append_left _ (List.mem_filterMap.mpr ⟨turn, inside, same⟩)

theorem askSubmits (c : Connection μ) (stage : Stage) (request : μ) :
    (Hooks.ask c stage request).1 =
      (c.submit stage.call (.receive c.replyTimeout) request).connection := by
  unfold Hooks.ask
  dsimp only
  split <;> rfl

theorem asked {stage : Stage} (fresh : stage.call ∉ c.callers) (request : μ) :
    let d := c.step (.submit stage.call (.receive c.replyTimeout) request)
    Hooks.ask c stage request = (d, .under stage) ∨
      ∃ e, e.isOfCall = true ∧ Hooks.ask c stage request = (d, .over (.error e)) := by
  intro d
  have same : d = (c.sendAndReceive stage.call request).connection := if_pos (freshOf fresh)
  unfold Hooks.ask
  rw [same]
  dsimp only
  split
  · rename_i e failed
    exact .inr ⟨e, sendAndReceiveError failed, rfl⟩
  · exact .inl rfl

theorem polled (faults : c.inward.Faults) (hooks : Hooks μ) (credentials : Option Credentials)
    (stage : Stage) (now : Instant) (attempt : WriteAttempt) :
    let d := c.step (.poll stage.call now attempt)
    let outcome := (c.poll stage.call now attempt).2
    let negotiated := hooks.poll credentials c stage now attempt
    (∃ reply, outcome = some (.ok (.reply reply)) ∧
        negotiated = hooks.judge credentials d stage reply) ∨
      (∀ reply, outcome ≠ some (.ok (.reply reply))) ∧
        (negotiated = (d, .under stage) ∨
          ∃ e, e.isOfCall = true ∧ negotiated = (d, .over (.error e))) := by
  have failing {e : ServerError} (failed : (c.poll stage.call now attempt).2 = some (.error e)) :
      e.isOfCall = true := pollError faults failed
  unfold Hooks.poll Connection.step
  dsimp only
  generalize c.poll stage.call now attempt = result at failing ⊢
  obtain ⟨d, outcome⟩ := result
  match outcome with
  | some (.ok (.reply reply)) => exact .inl ⟨reply, rfl, rfl⟩
  | some (.error e) => exact .inr ⟨nofun, .inr ⟨e, failing rfl, rfl⟩⟩
  | some (.ok (.handle _)) | some (.ok (.id _)) | some (.ok .done) | none =>
    exact .inr ⟨nofun, .inl rfl⟩

end Connection
end ServiceMux
