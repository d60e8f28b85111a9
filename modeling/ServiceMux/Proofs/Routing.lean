import ServiceMux.Connection.Dispatch
import ServiceMux.Proofs.Delivery
/-! One inbound frame, all that it does written out. Main statements: the entry under the frame's
id goes, its inbox gets the verdict on the frame, and nothing else changes but the counters and
what is reported (`routeEq`); all of that depends only on what the frame finds (`FindsAs`). -/
namespace ServiceMux.Connection
variable {μ : Type}

/-- The inboxes once a frame under this id has brought a result. -/
def answered (c : Connection μ) (id : UInt32) (result : Except ServerError (Reply μ)) :
    List (Inbox μ) :=
  match c.table.get? id with
  | some ⟨ticket, .awaited⟩ => (c.deliver ticket result).1.inboxes
  | _ => c.inboxes

/-- The counters once the entry under this id has had a frame that yields no reply. -/
def failedTally (c : Connection μ) (id : UInt32) (m : Metrics) : Metrics :=
  match c.table.get? id with
  | some ⟨_, .dropped⟩ => m.countDiscarded
  | _ => m

def reports (c : Connection μ) (frame : Frame) : List Warning :=
  let header := frame.header
  if c.service.accepts header.serverId then
    match c.prototypeFor header.requestReplyId with
    | none => [.unregistered header.correlationId header.requestReplyId]
    | some p =>
      match c.table.get? header.correlationId, p.decode header frame.body with
      | some ⟨_, .awaited⟩, .error cause =>
        [.undecodable header.correlationId header.requestReplyId cause]
      | _, _ => []
  else [.foreignFrame header.correlationId header.serverId]

/-- What is read of a connection to route a frame under this id is the same for both. -/
structure FindsAs (d c : Connection μ) (id : UInt32) : Prop where
  service : d.service = c.service
  registry : d.registry = c.registry
  prototypes : d.instancePrototypes = c.instancePrototypes
  entry : d.table.get? id = c.table.get? id
  told : ∀ ticket, d.table.get? id = some ⟨ticket, .awaited⟩ → ∀ result,
    (d.deliver ticket result).2 = (c.deliver ticket result).2

/-- What is read of a connection to route a frame is the same for both. -/
structure RoutesAs (d c : Connection μ) : Prop where
  service : d.service = c.service
  registry : d.registry = c.registry
  prototypes : d.instancePrototypes = c.instancePrototypes
  table : d.table = c.table
  inboxes : d.inboxes = c.inboxes

theorem RoutesAs.finds {c d : Connection μ} (h : d.RoutesAs c) (id : UInt32) : d.FindsAs c id :=
  ⟨h.service, h.registry, h.prototypes, by rw [h.table],
    fun ticket _ result => by rw [deliverAs ticket result h.inboxes]⟩

theorem FindsAs.prototypeFor {c d : Connection μ} {id : UInt32} (h : d.FindsAs c id)
    (discriminator : UInt16) : d.prototypeFor discriminator = c.prototypeFor discriminator := by
  unfold Connection.prototypeFor
  rw [h.service, h.registry, h.prototypes]

theorem FindsAs.reports {c d : Connection μ} {frame : Frame}
    (h : d.FindsAs c frame.header.correlationId) : d.reports frame = c.reports frame := by
  unfold Connection.reports
  rw [h.service]
  dsimp only
  rw [h.prototypeFor, h.entry]

theorem RoutesAs.reports {c d : Connection μ} (h : d.RoutesAs c) (frame : Frame) :
    d.reports frame = c.reports frame :=
  (h.finds _).reports

theorem answeredAs {c d : Connection μ} {id : UInt32} {result : Except ServerError (Reply μ)}
    (table : d.table = c.table) (inboxes : d.inboxes = c.inboxes) :
    d.answered id result = c.answered id result := by
  unfold answered
  rw [table, inboxes]
  split
  · rw [deliverAs _ _ inboxes]
  · rfl

theorem failWaiterAs {c d : Connection μ} (table : d.table = c.table)
    (inboxes : d.inboxes = c.inboxes) (id : UInt32) (fault : RoutingFault) :
    d.failWaiter id fault =
      { d with
        table := (c.table.take id).2
        inboxes := c.answered id (.error fault.toServerError)
        metrics := c.failedTally id d.metrics } := by
  rw [← answeredAs table inboxes]
  unfold failWaiter PendingTable.take answered failedTally
  rw [← table]
  cases d.table.get? id with
  | none => rfl
  | some slot =>
    obtain ⟨ticket, fate⟩ := slot
    cases fate with
    | dropped => rfl
    | awaited =>
      exact congrArg Prod.fst (deliverAs (c := d) (d := { d with table := d.table.erase id })
        ticket (.error fault.toServerError) rfl)

variable [Message μ]

/-- What a frame tells the caller who waits under its id. -/
def verdict (c : Connection μ) (frame : Frame) : Except ServerError (Reply μ) :=
  let header := frame.header
  if c.service.accepts header.serverId then
    match c.prototypeFor header.requestReplyId with
    | none => .error (RoutingFault.unregistered header.requestReplyId).toServerError
    | some p =>
      match p.decode header frame.body with
      | .ok reply => .ok (reply.stamp header.correlationId)
      | .error cause =>
        .error (RoutingFault.undecodable p.typeName header.requestReplyId cause).toServerError
  else .error (RoutingFault.foreign header.serverId c.service.wireCode).toServerError

/-- The counters once a frame has come to the caller with this ticket. -/
def decodedTally (c : Connection μ) (ticket : Nat) (frame : Frame) (m : Metrics) : Metrics :=
  match c.verdict frame with
  | .ok reply => if (c.deliver ticket (.ok reply)).2 then m.countDelivered else m.countDiscarded
  | .error e =>
    if (c.deliver ticket (.error e)).2 then m.countFault else m.countFault.countDiscarded

def tally (c : Connection μ) (frame : Frame) (m : Metrics) : Metrics :=
  let header := frame.header
  if c.service.accepts header.serverId && (c.prototypeFor header.requestReplyId).isSome then
    match c.table.get? header.correlationId with
    | some ⟨ticket, .awaited⟩ => c.decodedTally ticket frame m
    | _ => m.countDiscarded
  else c.failedTally header.correlationId m.countFault

theorem decodeForAs {c d : Connection μ} (inboxes : d.inboxes = c.inboxes) {frame : Frame}
    {p : Prototype μ} (accepted : c.service.accepts frame.header.serverId = true)
    (found : c.prototypeFor frame.header.requestReplyId = some p) (ticket : Nat) :
    d.decodeFor ticket p frame =
      { d with
        inboxes := (c.deliver ticket (c.verdict frame)).1.inboxes
        metrics := c.decodedTally ticket frame d.metrics
        warnings := d.warnings ++
          match p.decode frame.header frame.body with
          | .ok _ => []
          | .error cause =>
            [.undecodable frame.header.correlationId frame.header.requestReplyId cause] } := by
  have decided : c.verdict frame = match p.decode frame.header frame.body with
      | .ok reply => .ok (reply.stamp frame.header.correlationId)
      | .error cause => .error
        (RoutingFault.undecodable p.typeName frame.header.requestReplyId cause).toServerError := by
    unfold verdict
    dsimp only
    rw [if_pos accepted, found]
  unfold decodeFor decodedTally
  dsimp only
  cases decoded : p.decode frame.header frame.body with
  | ok reply =>
    rw [decoded] at decided
    rw [decided]
    dsimp only
    rw [deliverAs _ _ inboxes, List.append_nil]
    cases (c.deliver ticket (.ok (reply.stamp frame.header.correlationId))).2 <;> rfl
  | error cause =>
    rw [decoded] at decided
    rw [decided]
    dsimp only
    have told := deliverAs (c := c) (d := { d with metrics := d.metrics.countFault }.warn
      (.undecodable frame.header.correlationId frame.header.requestReplyId cause)) ticket
      (.error (RoutingFault.undecodable p.typeName frame.header.requestReplyId
        cause).toServerError) inboxes
    rw [told]
    cases (c.deliver ticket (.error (RoutingFault.undecodable p.typeName
      frame.header.requestReplyId cause).toServerError)).2 <;> rfl

theorem routeEq (c : Connection μ) (frame : Frame) :
    c.route frame =
      { c with
        table := (c.table.take frame.header.correlationId).2
        inboxes := c.answered frame.header.correlationId (c.verdict frame)
        metrics := c.tally frame c.metrics
        warnings := c.warnings ++ c.reports frame } := by
  unfold route
  dsimp only
  by_cases accepted : c.service.accepts frame.header.serverId = true
  · rw [if_neg (by simp [accepted])]
    cases found : c.prototypeFor frame.header.requestReplyId with
    | none =>
      refine (failWaiterAs (c := c) ?_ ?_ _ _).trans ?_
      · rfl
      · rfl
      unfold verdict tally reports
      simp only [accepted, found, Option.isSome_none, Bool.and_false, Bool.false_eq_true,
        if_false, if_true]
      rfl
    | some p =>
      have consulted : (c.service.accepts frame.header.serverId &&
          (c.prototypeFor frame.header.requestReplyId).isSome) = true := by simp [accepted, found]
      unfold tally reports answered PendingTable.take
      dsimp only
      rw [if_pos consulted, if_pos accepted, found]
      cases held : c.table.get? frame.header.correlationId with
      | none => simp
      | some slot =>
        obtain ⟨ticket, fate⟩ := slot
        cases fate with
        | dropped => simp
        | awaited =>
          refine (decodeForAs (c := c) ?_ accepted found ticket).trans ?_
          · rfl
          cases decoded : p.decode frame.header frame.body <;> simp [decoded]
  · rw [if_pos (by simp [accepted])]
    refine (failWaiterAs (c := c) ?_ ?_ _ _).trans ?_
    · rfl
    · rfl
    unfold verdict tally reports
    simp only [accepted, Bool.false_and, Bool.false_eq_true, if_false]
    rfl

theorem routeTable (c : Connection μ) (frame : Frame) :
    (c.route frame).table = (c.table.take frame.header.correlationId).2 := by
  rw [routeEq]

theorem FindsAs.verdict {c d : Connection μ} {id : UInt32} (h : d.FindsAs c id) (frame : Frame) :
    d.verdict frame = c.verdict frame := by
  unfold Connection.verdict
  rw [h.service]
  dsimp only
  rw [h.prototypeFor]

theorem FindsAs.tally {c d : Connection μ} {frame : Frame}
    (h : d.FindsAs c frame.header.correlationId) (m : Metrics) :
    d.tally frame m = c.tally frame m := by
  have verdict := h.verdict frame
  have entry := h.entry
  have told := h.told
  unfold Connection.tally failedTally
  rw [h.service]
  dsimp only
  rw [h.prototypeFor, ← entry]
  cases held : d.table.get? frame.header.correlationId with
  | none => rfl
  | some slot =>
    obtain ⟨ticket, fate⟩ := slot
    cases fate with
    | dropped => rfl
    | awaited =>
      dsimp only
      unfold decodedTally
      simp only [verdict, told ticket held]

theorem RoutesAs.verdict {c d : Connection μ} (h : d.RoutesAs c) (frame : Frame) :
    d.verdict frame = c.verdict frame :=
  (h.finds 0).verdict frame

theorem RoutesAs.tally {c d : Connection μ} (h : d.RoutesAs c) (frame : Frame) (m : Metrics) :
    d.tally frame m = c.tally frame m :=
  (h.finds _).tally m

theorem tallyRead (c : Connection μ) (frame : Frame) (m : Metrics) (n : Nat) :
    c.tally frame { m with bytesRead := n } = { c.tally frame m with bytesRead := n } := by
  unfold tally decodedTally failedTally
  dsimp only
  split
  · split
    · split <;> split <;> rfl
    · rfl
  · split <;> rfl

end ServiceMux.Connection
