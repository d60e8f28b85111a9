import ServiceMux.Proofs.Inward
/-! What traffic leaves alone. Main statements: sending, waiting, reading and going down change
nothing of a connection that has an event of its own (`stepTerms`), and only reading moves the
counters of what came in (`stepInbound`). -/
namespace ServiceMux
variable {μ : Type}

/-- All of a connection that its traffic does not change. -/
structure Terms (μ : Type) where
  id : UInt32
  service : Service
  config : Config
  registry : Registry μ
  peer : Option HostAddress
  localAddress : Option Net.SocketAddress
  prototypes : List (UInt16 × Prototype μ)
  references : Nat
  job : String
  attributes : Option (Reply μ)
  replyTimeout : Option Duration

def Event.isTraffic : Event μ → Bool
  | .attach | .release | .setReplyTimeout _ | .setJob _ | .setAttributes _ | .addPrototype _ _
  | .clearPrototypes => false
  | _ => true

namespace Connection

def terms (c : Connection μ) : Terms μ where
  id := c.id
  service := c.service
  config := c.config
  registry := c.registry
  peer := c.peer
  localAddress := c.localAddress
  prototypes := c.instancePrototypes
  references := c.references
  job := c.job
  attributes := c.attributes
  replyTimeout := c.replyTimeout

/-- All of a connection that no call changes, whatever becomes of it. -/
def settled (c : Connection μ) : Terms μ × Metrics := (c.terms, c.metrics.inbound)

section Calls
variable (c : Connection μ)

@[simp] theorem letGoSettled (errand : Errand) : (c.letGo errand).settled = c.settled := by
  cases errand <;> rfl

@[simp] theorem takeBackSettled (errand : Errand) : (c.takeBack errand).settled = c.settled := by
  cases errand <;> rfl

@[simp] theorem deliverSettled (ticket : Nat) (result : Except ServerError (Reply μ)) :
    (c.deliver ticket result).1.settled = c.settled := by
  rw [deliverShape]
  rfl

@[simp] theorem closeSettled (reason : CloseReason) : (c.close reason).settled = c.settled := by
  cases live : c.isLive with
  | true => rw [closeLive live]; rfl
  | false => rw [closeDown live]

@[simp] theorem leaveSettled : c.leave.settled = c.settled := by
  unfold leave
  split <;> rfl

theorem pollWaitSettled (w : Wait) (now : Instant) : (c.pollWait w now).1.settled = c.settled :=
  pollWaitState c w now rfl rfl

theorem interruptSettled (r : Registration) : (c.interrupt r).1.settled = c.settled := by
  cases c.interruptCases r with
  | missed _ comes => rw [comes]
  | dropped _ comes =>
    rw [comes]
    rfl
  | awaited _ comes => exact comes ▸ deliverSettled _ _ _

theorem writeOnSettled (call : CallId) (frame : List UInt8) (errand : Errand) (before : Nat)
    (now : Instant) (attempt : WriteAttempt) :
    (c.writeOn call frame errand before now attempt).1.settled = c.settled := by
  have met : (c.interfered attempt).settled = c.settled :=
    interferedState c attempt rfl (closeSettled c .forced)
  cases c.writeCases call frame errand before now attempt with
  | late _ comes => exact comes ▸ letGoSettled _ errand
  | stalled _ _ comes => exact comes ▸ met
  | complete _ _ comes =>
    rw [comes, ← met]
    cases errand <;> rfl
  | failed _ _ comes =>
    rw [comes, ← met]
    refine (letGoSettled _ errand).trans ((closeSettled _ .writeFailed).trans ?_)
    exact takeBackSettled (c.interfered attempt) errand

theorem takeTurnSettled (call : CallId) (frame : List UInt8) (errand : Errand) (now : Instant)
    (attempt : WriteAttempt) :
    (c.takeTurn call frame errand now attempt).1.settled = c.settled := by
  cases c.turnCases call frame errand now attempt with
  | late _ _ comes => exact comes ▸ letGoSettled _ errand
  | writes _ comes => exact comes ▸ writeOnSettled c call frame errand _ now attempt

theorem pollSettled (call : CallId) (now : Instant) (attempt : WriteAttempt) :
    (c.poll call now attempt).1.settled = c.settled := by
  cases c.pollCases call now attempt with
  | waits _ comes => exact comes ▸ pollWaitSettled c _ now
  | turn _ _ comes => exact comes ▸ takeTurnSettled c call _ _ now attempt
  | still _ _ comes => rw [comes]

theorem leaveLineSettled (call : CallId) : (c.leaveLine call).settled = c.settled := by
  cases c.leaveLineCases call with
  | write _ comes => exact comes ▸ letGoSettled _ _
  | still _ comes => rw [comes]

theorem abandonSettled (call : CallId) : (c.abandon call).settled = c.settled := by
  cases c.abandonCases call with
  | waits _ comes =>
    rw [comes]
    rfl
  | busy _ _ _ comes =>
    exact comes ▸ (letGoSettled _ _).trans (closeSettled { c with writeHalf := false } _)
  | idle _ _ _ comes => exact comes ▸ letGoSettled _ _
  | behind _ _ comes => exact comes ▸ leaveLineSettled c call

end Calls

theorem Takes.settled {c d : Connection μ} {purpose : Purpose} {id : UInt32} {errand : Errand}
    (h : c.Takes purpose d id errand) : d.settled = c.settled := by
  cases h <;> rfl

section Terms
variable (c : Connection μ)

theorem closeTerms (reason : CloseReason) : (c.close reason).terms = c.terms :=
  congrArg Prod.fst (closeSettled c reason)

theorem leaveTerms : c.leave.terms = c.terms := congrArg Prod.fst (leaveSettled c)

theorem releaseTerms :
    c.release.terms = { c.terms with references := c.references - 1 } :=
  releaseState c (fun _ => closeTerms _ .released) fun _ => rfl

end Terms

variable [Message μ] (c : Connection μ)

theorem submitSettled (call : CallId) (purpose : Purpose) (request : μ) :
    (c.submit call purpose request).connection.settled = c.settled := by
  rcases submitCases c call purpose request with
    ⟨e, refused, _⟩ | ⟨_, d, id, errand, taken, stands⟩
  · rw [refused]
  · rw [stands, ← taken.settled]
    exact standInLineState call _ (takeBackSettled d errand) fun _ => rfl

theorem submitTerms (call : CallId) (purpose : Purpose) (request : μ) :
    (c.submit call purpose request).connection.terms = c.terms :=
  congrArg Prod.fst (submitSettled c call purpose request)

theorem stepSettled {e : Event μ} (traffic : e.isTraffic = true)
    (deaf : ∀ arrival, e ≠ .read arrival) : (c.step e).settled = c.settled := by
  cases e with
  | submit call purpose request =>
    dsimp only [step]
    split
    · exact submitSettled c call purpose request
    · rfl
  | poll call now attempt => exact pollSettled c call now attempt
  | abandon call => exact abandonSettled c call
  | wait call r within now | dropReply r =>
    dsimp only [step]
    split <;> rfl
  | interrupt r => exact interruptSettled c r
  | read arrival => exact absurd rfl (deaf arrival)
  | disconnect => exact closeSettled c .forced
  | allocate =>
    obtain ⟨n, same⟩ := allocateStep c
    rw [same]
    rfl
  | attach | release | setReplyTimeout | setJob | setAttributes | addPrototype | clearPrototypes =>
    contradiction

/-- Nothing but what was read moves the counters of what came in. -/
theorem stepInbound {e : Event μ} (deaf : ∀ arrival, e ≠ .read arrival) :
    (c.step e).metrics.inbound = c.metrics.inbound := by
  by_cases traffic : e.isTraffic = true
  · exact congrArg Prod.snd (stepSettled c traffic deaf)
  · cases e with
    | attach =>
      obtain ⟨n, same⟩ := attachStep c
      rw [same]
    | release =>
      dsimp only [step]
      split
      · rfl
      · exact releaseState c (fun _ => congrArg Prod.snd (closeSettled _ .released)) fun _ => rfl
    | setReplyTimeout | setJob | setAttributes | addPrototype | clearPrototypes => rfl
    | submit | poll | abandon | wait | dropReply | interrupt | read | disconnect | allocate =>
      exact absurd rfl traffic

theorem feedTerms (buffer data : List UInt8) : (c.feed buffer data).terms = c.terms := by
  have routed (frames : List Frame) :
      (frames.foldl route (c.countRead data.length)).terms = c.terms := by
    rw [routeAllShape]
    rfl
  rw [feedStages]
  dsimp only
  split
  · exact routed _
  · exact (leaveTerms _).trans ((closeTerms _ .corrupted).trans (routed _))

theorem pollReaderTerms (arrival : Option Arrival) : (c.pollReader arrival).terms = c.terms := by
  cases c.readerCases arrival with
  | stopped _ comes | behind _ _ comes | idle _ _ _ comes => rw [comes]
  | passes _ _ comes =>
    rw [comes]
    rfl
  | leaves _ _ comes => exact comes ▸ leaveTerms c
  | ended _ _ _ comes => exact comes ▸ (leaveTerms _).trans (closeTerms c .endOfStream)
  | feeds _ _ _ _ comes => exact comes ▸ feedTerms c _ _
  | fails _ _ _ comes => exact comes ▸ (leaveTerms _).trans (closeTerms _ .readFailed)

theorem stepTerms {e : Event μ} (traffic : e.isTraffic = true) : (c.step e).terms = c.terms := by
  by_cases reads : ∃ arrival, e = .read arrival
  · obtain ⟨arrival, rfl⟩ := reads
    exact pollReaderTerms c arrival
  · exact congrArg Prod.fst (stepSettled c traffic fun arrival same => reads ⟨arrival, same⟩)

end Connection
end ServiceMux
