import ServiceMux.Proofs.History
import ServiceMux.Proofs.Outstanding
/-! How a call begins. Main statement: it takes what its purpose needs and comes to stand in line
with that, or it is turned away and leaves everything as it was (`submitCases`). -/
namespace ServiceMux.Connection
variable {μ : Type}

/-- A call takes what its purpose needs: the connection that leaves, the id that goes on the
request, and the errand. -/
inductive Takes (c : Connection μ) : Purpose → Connection μ → UInt32 → Errand → Prop where
  | request {r : Registration} {table : PendingTable}
      (ok : c.table.register .awaited = .ok (r, table)) :
      Takes c .request { c with table, inboxes := c.inboxes ++ [Inbox.mk r none] }
        r.correlationId (.handOut r)
  | receive {r : Registration} {table : PendingTable} {within : Option Duration}
      (ok : c.table.register .awaited = .ok (r, table)) :
      Takes c (.receive within) { c with table, inboxes := c.inboxes ++ [Inbox.mk r none] }
        r.correlationId (.await r within)
  | discard {r : Registration} {table : PendingTable}
      (ok : c.table.register .dropped = .ok (r, table)) :
      Takes c .discard { c with table } r.correlationId (.discard r)
  | send {id : UInt32} {table : PendingTable} (ok : c.table.allocate = .ok (id, table)) :
      Takes c .send { c with table } id (.numbered id)
  | sendAs {id : UInt32} : Takes c (.sendAs id) c id .plain

/-- Why a call is turned away before it has taken anything. -/
inductive TurnsAway (c : Connection μ) : Purpose → ServerError → Prop where
  | down {purpose : Purpose} (down : c.isLive = false) : TurnsAway c purpose .connectionClosed
  | register {purpose : Purpose} {fate : Fate} {e : ServerError}
      (wanted : purpose.fate? = some fate) (refused : c.table.register fate = .error e) :
      TurnsAway c purpose e
  | allocate {e : ServerError} (refused : c.table.allocate = .error e) : TurnsAway c .send e

theorem Takes.setting {c d : Connection μ} {purpose : Purpose} {id : UInt32} {errand : Errand}
    (h : c.Takes purpose d id errand) : d.service = c.service ∧ d.config = c.config := by
  cases h <;> exact ⟨rfl, rfl⟩

/-! Which registration a call makes. -/

section Registrations
variable {c : Connection μ} {purpose : Purpose} {fate : Fate}

theorem registrationsDown (down : c.isLive = false) : c.registrations purpose = [] := by
  unfold registrations
  split
  · rfl
  · rw [if_neg (by simp [down])]

theorem registrationsRefused (wanted : purpose.fate? = some fate) {e : ServerError}
    (refused : c.table.register fate = .error e) : c.registrations purpose = [] := by
  unfold registrations
  rw [wanted]
  dsimp only
  rw [refused]
  split <;> rfl

theorem registrationsOne {r : Registration} {table : PendingTable}
    (wanted : purpose.fate? = some fate) (live : c.isLive = true)
    (ok : c.table.register fate = .ok (r, table)) :
    c.registrations purpose = [.registered r fate] := by
  unfold registrations
  rw [wanted]
  dsimp only
  rw [if_pos live, ok]

end Registrations

section Submit
variable [Message μ] (c : Connection μ) (call : CallId)

theorem awaitedCases (purpose : Purpose) (wanted : purpose.fate? = some .awaited) (request : μ)
    (errand : Registration → Errand) :
    (∃ e, c.submitAwaited call request errand = ⟨c, request, some (.error e)⟩ ∧
      c.registrations purpose = [] ∧ c.TurnsAway purpose e) ∨
    ∃ r table, c.table.register .awaited = .ok (r, table) ∧
      c.submitAwaited call request errand =
        standInLine { c with table, inboxes := c.inboxes ++ [Inbox.mk r none] } call
          (Message.stamp r.correlationId request) (errand r) := by
  unfold submitAwaited
  cases answer : c.table.register .awaited with
  | error e => exact .inl ⟨e, rfl, registrationsRefused wanted answer, .register wanted answer⟩
  | ok taken => exact .inr ⟨taken.1, taken.2, rfl, rfl⟩

theorem standInLineStamps (d : Connection μ) (stamped : μ) (errand : Errand) :
    (d.standInLine call stamped errand).request = stamped := by
  unfold standInLine
  split <;> rfl

/-- Either the request goes into no frame, or the call comes to stand at the end of the line. -/
@[elab_as_elim]
theorem standInLineState {d : Connection μ} {errand : Errand} {motive : Connection μ → Prop}
    (stamped : μ) (back : motive (d.takeBack errand))
    (stood : ∀ frame, motive { d with line := d.line ++ [.write call frame errand] }) :
    motive (d.standInLine call stamped errand).connection := by
  unfold standInLine
  split
  · exact back
  · exact stood _

theorem submitCases (purpose : Purpose) (request : μ) :
    (∃ e, c.submit call purpose request = ⟨c, request, some (.error e)⟩ ∧
      c.registrations purpose = [] ∧ c.TurnsAway purpose e) ∨
    c.isLive = true ∧ ∃ d id errand, c.Takes purpose d id errand ∧
      c.submit call purpose request = d.standInLine call (Message.stamp id request) errand := by
  cases live : c.isLive with
  | false =>
    refine .inl ⟨.connectionClosed, ?_, registrationsDown live, .down live⟩
    unfold submit
    rw [live]
    rfl
  | true =>
    unfold submit
    rw [if_neg (by simp [live])]
    cases purpose with
    | request =>
      rcases awaitedCases c call .request rfl request .handOut with
        refused | ⟨r, table, ok, stands⟩
      · exact .inl refused
      · exact .inr ⟨rfl, _, _, _, .request ok, stands⟩
    | receive within =>
      rcases awaitedCases c call (.receive within) rfl request (.await · within) with
        refused | ⟨r, table, ok, stands⟩
      · exact .inl refused
      · exact .inr ⟨rfl, _, _, _, .receive ok, stands⟩
    | discard =>
      cases answer : c.table.register .dropped with
      | error e => exact .inl ⟨e, rfl, registrationsRefused rfl answer, .register rfl answer⟩
      | ok taken => exact .inr ⟨rfl, _, _, _, .discard answer, rfl⟩
    | send =>
      cases answer : c.table.allocate with
      | error e => exact .inl ⟨e, rfl, rfl, .allocate answer⟩
      | ok taken => exact .inr ⟨rfl, _, _, _, .send answer, rfl⟩
    | sendAs id => exact .inr ⟨rfl, _, _, _, .sendAs, rfl⟩

end Submit
end ServiceMux.Connection
