import ServiceMux.Proofs.Openings
import ServiceMux.Proofs.Requests
/-! The two exchanges of a handshake. Main statements: a moment goes on in the same way whatever the
second exchange is to be, as long as the reply that is judged at it, if there is one, is judged alike
(`stepAlike`), what an attempt has asked of the host is one of a few scripts (`Scripted.step`), and
so the credentials go to nobody whose attributes were not accepted (`attributesFirst`). -/
namespace ServiceMux
variable {μ : Type}

/-- The hooks accept a reply as the host's attributes. -/
def Sign.accepts : Sign μ → Bool
  | attributes _ (.ok ()) => true
  | _ => false

/-- What is asked of the host in an attempt, by what has come about in it. -/
def Opening.requests (o : Opening μ) (hooks : Hooks μ) (past : List (Sign μ)) : List μ :=
  hooks.exchangeAttributes ::
    if past.any Sign.accepts then (o.credentials.bind hooks.startServer).toList else []

namespace Attempt
open Connection
variable [Message μ]

/-! What a moment does not depend on. -/

section Alike
variable (o : Opening μ) (hooks : Hooks μ) (credentials : Option Credentials)
  (startServer : Credentials → Option μ)
  (checkStartServer : Reply μ → Except HandshakeError (Option String))

/-- A reply is judged alike when the second exchange is this one. -/
structure JudgedAlike (stage : Stage) (reply : Reply μ) : Prop where
  goesOn : ∀ c, Hooks.judge { hooks with startServer, checkStartServer } credentials c stage reply =
    hooks.judge o.credentials c stage reply
  said : Hooks.verdict { hooks with startServer, checkStartServer } reply stage =
    hooks.verdict reply stage

theorem stepAlike (a : Attempt μ) (occasion : Occasion μ)
    (judged : ∀ n now attempt reply, a = .going n → occasion.moment = .poll now attempt →
      (n.connection.poll n.stage.call now attempt).2 = some (.ok (.reply reply)) →
      JudgedAlike o hooks credentials startServer checkStartServer n.stage reply) :
    let o' := { o with
      credentials, handshake := .exchange { hooks with startServer, checkStartServer } }
    let o := { o with handshake := .exchange hooks }
    a.step o' occasion = a.step o occasion ∧
      a.signs o' { hooks with startServer, checkStartServer } occasion.moment =
        a.signs o hooks occasion.moment := by
  intro o' o
  obtain ⟨id, shared, moment⟩ := occasion
  cases moment with
  | expire | drop | read => cases a <;> exact ⟨rfl, rfl⟩
  | poll now attempt =>
    cases a with
    | dialing | opened | failed | dropped => exact ⟨rfl, rfl⟩
    | going n =>
      have same := fun reply => judged n now attempt reply rfl rfl
      dsimp only [step, Attempt.poll, signs, Opening.poll, o', o]
      unfold Hooks.poll
      generalize n.connection.poll n.stage.call now attempt = result at same ⊢
      obtain ⟨c, outcome⟩ := result
      match outcome with
      | some (.ok (.reply reply)) =>
        obtain ⟨goesOn, said⟩ := same reply rfl
        dsimp only
        rw [goesOn, said]
        exact ⟨rfl, rfl⟩
      | some (.error e) => exact ⟨rfl, rfl⟩
      | some (.ok (.handle _)) | some (.ok (.id _)) | some (.ok .done) | none => exact ⟨rfl, rfl⟩

theorem judgedAlike {past : List (Sign μ)} {n : Opening.Negotiating μ}
    (h : Keeps o hooks past (.going n)) (reply : Reply μ)
    (unused : (past ++ [hooks.verdict reply n.stage]).any Sign.accepts = false ∨
      credentials.bind startServer = o.credentials.bind hooks.startServer ∧
        checkStartServer = hooks.checkStartServer) :
    JudgedAlike o hooks credentials startServer checkStartServer n.stage reply := by
  rcases unused with unaccepted | ⟨same, rfl⟩
  · cases h with
    | attributes stage =>
      rw [stage] at unaccepted ⊢
      cases verdict : hooks.checkAttributes reply with
      | ok => simp [Hooks.verdict, verdict, Sign.accepts] at unaccepted
      | error e => exact ⟨fun c => by simp only [Hooks.judge, verdict], rfl⟩
    | start => simp [Sign.accepts] at unaccepted
  · cases n.stage with
    | attributes => exact ⟨fun c => by simp only [Hooks.judge, same], rfl⟩
    | start => exact ⟨fun c => rfl, rfl⟩

theorem runAlike (occasions : List (Occasion μ)) {past : List (Sign μ)} {a : Attempt μ}
    (h : Keeps { o with handshake := .exchange hooks } hooks past a) :
    let o' := { o with
      credentials, handshake := .exchange { hooks with startServer, checkStartServer } }
    let o := { o with handshake := .exchange hooks }
    (past ++ a.past o hooks occasions).any Sign.accepts = false ∨
        credentials.bind startServer = o.credentials.bind hooks.startServer ∧
          checkStartServer = hooks.checkStartServer →
      a.past o' { hooks with startServer, checkStartServer } occasions = a.past o hooks occasions ∧
        a.run o' occasions = a.run o occasions := by
  intro o' o unused
  induction occasions generalizing a past with
  | nil => exact ⟨rfl, rfl⟩
  | cons first rest ih =>
    rw [Attempt.past, ← List.append_assoc] at unused
    have next := h.step rfl first
    obtain ⟨goes, said⟩ := stepAlike o hooks credentials startServer checkStartServer a first
      fun n now attempt reply going moment brings => by
        subst going
        refine judgedAlike o hooks credentials startServer checkStartServer h reply
          (unused.imp_left fun unaccepted => ?_)
        simp only [moment, signs, brings, List.any_append, Bool.or_eq_false_iff] at unaccepted ⊢
        exact unaccepted.1
    obtain ⟨samePast, sameRun⟩ := ih next unused
    simp only [Attempt.past, run, List.foldl_cons] at samePast sameRun ⊢
    rw [goes, said, samePast, sameRun]
    exact ⟨rfl, rfl⟩

end Alike

/-! What is asked. -/

/-- Over the connection this was asked of the host, and this is cached of what it said. -/
structure Asked (o : Opening μ) (hooks : Hooks μ) (past : List (Sign μ)) (asks : List μ)
    (cache : Option (Reply μ)) (c : Connection μ) : Prop where
  life : ∃ (s : Setting μ) (events : List (Event μ)), c = s.start.run events ∧
    (s.service = o.service ∧ s.config = o.config) ∧ events.filterMap Event.request? = asks ∧
    ∀ reply verdict, .attributes reply verdict ∈ past →
      verdict = hooks.checkAttributes reply ∧ Answers s events hooks.exchangeAttributes reply
  attributes : c.attributes = cache

namespace Asked
variable {o : Opening μ} {hooks : Hooks μ} {past : List (Sign μ)} {asks : List μ}
  {cache : Option (Reply μ)} {c : Connection μ} (h : Asked o hooks past asks cache c)
include h

theorem step (e : Event μ) :
    Asked o hooks past (asks ++ e.request?.toList) (c.step e).attributes (c.step e) := by
  obtain ⟨s, events, rfl, fixed, rfl, answers⟩ := h.life
  refine ⟨⟨s, events ++ [e], (runLast s.start events e).symm, fixed, ?_,
    fun reply verdict said => (answers reply verdict said).imp_right (·.later [e])⟩, rfl⟩
  rw [List.filterMap_append]
  cases asked : e.request? <;> simp [asked]

theorem unasked {e : Event μ} (silent : e.request? = none) :
    Asked o hooks past asks (c.step e).attributes (c.step e) := by
  simpa [silent] using h.step e

theorem traffic {e : Event μ} (traffic : e.isTraffic = true) :
    Asked o hooks past (asks ++ e.request?.toList) cache (c.step e) := by
  have same : (c.step e).attributes = c.attributes :=
    congrArg Terms.attributes (stepTerms c traffic)
  rw [← h.attributes, ← same]
  exact h.step e

theorem quiet {e : Event μ} (traffic : e.isTraffic = true) (silent : e.request? = none) :
    Asked o hooks past asks cache (c.step e) := by
  simpa [silent] using h.traffic traffic

theorem caches (reply : Reply μ) :
    Asked o hooks past asks (some reply) { c with attributes := some reply } :=
  h.unasked (e := .setAttributes reply) rfl

theorem prototypes (prototypes : List (UInt16 × Prototype μ)) :
    Asked o hooks past asks cache (prototypes.foldl (fun c (d, p) => c.addPrototype d p) c) := by
  induction prototypes generalizing c with
  | nil => exact h
  | cons first rest ih =>
    refine ih (c := c.step (.addPrototype first.1 first.2)) ?_
    exact h.attributes ▸ h.unasked (e := .addPrototype first.1 first.2) rfl

theorem released (references : c.references = 1) : Asked o hooks past asks cache c.release := by
  have step : c.release = c.step .release := (if_neg (by simp [references])).symm
  have same : (c.step .release).attributes = c.attributes :=
    step ▸ congrArg Terms.attributes (releaseTerms c)
  rw [step, ← h.attributes, ← same]
  exact h.unasked rfl

theorem concluded (references : c.references = 1) (address : HostAddress) (limit : Deadline)
    (negotiation : Negotiation) {d : Connection μ}
    (has : (ofProgress (Opening.conclude address limit c negotiation)).connection? = some d) :
    Asked o hooks past asks cache d := by
  have still : (c.step .disconnect).references = 1 :=
    (congrArg Terms.references (stepTerms c rfl)).trans references
  match negotiation with
  | .under stage =>
    cases has
    exact h
  | .over (.error e) =>
    cases has
    exact (h.quiet (e := .disconnect) rfl rfl).released still
  | .over (.ok none) =>
    cases has
    exact h
  | .over (.ok (some job)) =>
    cases has
    exact h.attributes ▸ h.unasked (e := .setJob job) rfl

/-- The reply to the only request was judged. -/
theorem hears (only : asks = [hooks.exchangeAttributes]) {call : CallId} {now : Instant}
    {attempt : WriteAttempt} {reply : Reply μ}
    (brings : (c.poll call now attempt).2 = some (.ok (.reply reply))) :
    Asked o hooks (past ++ [.attributes reply (hooks.checkAttributes reply)]) asks cache c := by
  obtain ⟨s, events, rfl, fixed, rfl, answers⟩ := h.life
  refine ⟨⟨s, events, rfl, fixed, rfl, fun said judged member => ?_⟩, h.attributes⟩
  rcases List.mem_append.mp member with old | new
  · exact answers said judged old
  · cases List.mem_singleton.mp new
    obtain ⟨request, asked, answer⟩ := replyAnswers s events brings
    rw [only] at asked
    exact ⟨rfl, List.mem_singleton.mp asked ▸ answer⟩

theorem tells (answer : Reply μ) (verdict : Except HandshakeError (Option String)) :
    Asked o hooks (past ++ [.start answer verdict]) asks cache c := by
  obtain ⟨s, events, same, fixed, asked, answers⟩ := h.life
  refine ⟨⟨s, events, same, fixed, asked, fun said judged member => ?_⟩, h.attributes⟩
  exact answers said judged (by simpa using member)

end Asked

/-- What has come about in an attempt, what was asked in it, and what is cached of it. -/
inductive Script (o : Opening μ) (hooks : Hooks μ) :
    List (Sign μ) → List μ → Option (Reply μ) → Prop where
  | asked : Script o hooks [.stream] [hooks.exchangeAttributes] none
  | refused (reply : Reply μ) (e : HandshakeError) :
      Script o hooks [.stream, .attributes reply (.error e)] [hooks.exchangeAttributes] none
  | brief (reply : Reply μ) (unwanted : o.credentials.bind hooks.startServer = none) :
      Script o hooks [.stream, .attributes reply (.ok ())] [hooks.exchangeAttributes] (some reply)
  | begun (reply : Reply μ) {request : μ}
      (wanted : o.credentials.bind hooks.startServer = some request) :
      Script o hooks [.stream, .attributes reply (.ok ())] [hooks.exchangeAttributes, request]
        (some reply)
  | answered (reply : Reply μ) {request : μ}
      (wanted : o.credentials.bind hooks.startServer = some request) (answer : Reply μ)
      (verdict : Except HandshakeError (Option String)) :
      Script o hooks [.stream, .attributes reply (.ok ()), .start answer verdict]
        [hooks.exchangeAttributes, request] (some reply)

def Scripted (o : Opening μ) (hooks : Hooks μ) (past : List (Sign μ)) (a : Attempt μ) : Prop :=
  ∀ c, a.connection? = some c →
    ∃ asks cache, Script o hooks past asks cache ∧ Asked o hooks past asks cache c

namespace Scripted
variable {o : Opening μ} {hooks : Hooks μ} {past : List (Sign μ)} {a : Attempt μ}

theorem undialed (none : a.connection? = none) : Scripted o hooks past a := by
  intro c has
  rw [none] at has
  contradiction

theorem concludes {c : Connection μ} {asks : List μ} {cache : Option (Reply μ)}
    (script : Script o hooks past asks cache) (asked : Asked o hooks past asks cache c)
    (references : c.references = 1) (address : HostAddress) (limit : Deadline)
    (negotiation : Negotiation) :
    Scripted o hooks past (ofProgress (Opening.conclude address limit c negotiation)) :=
  fun _ has => ⟨asks, cache, script, asked.concluded references address limit negotiation has⟩

/-- The exchange of a stage begins, and goes on or has failed. -/
theorem asks {c : Connection μ} {asks : List μ} {cache : Option (Reply μ)} {request : μ}
    (script : Script o hooks past (asks ++ [request]) cache)
    (asked : Asked o hooks past asks cache c) (references : c.references = 1) (stage : Stage)
    (fresh : stage.call ∉ c.callers) (address : HostAddress) (limit : Deadline) :
    let (c, negotiation) := Hooks.ask c stage request
    Scripted o hooks past (ofProgress (Opening.conclude address limit c negotiation)) := by
  let e : Event μ := .submit stage.call (.receive c.replyTimeout) request
  have begun : Asked o hooks past (asks ++ [request]) cache (c.step e) :=
    asked.traffic (e := e) rfl
  have still : (c.step e).references = 1 :=
    (congrArg Terms.references (stepTerms c rfl)).trans references
  rcases Connection.asked fresh request with under | ⟨_, _, failed⟩
  · rw [under]
    exact concludes script begun still address limit _
  · rw [failed]
    exact concludes script begun still address limit _

/-- The reply to the attributes was judged. -/
theorem judgesAttributes {n : Opening.Negotiating μ} (stage : n.stage = .attributes)
    {d : Connection μ} (references : d.references = 1) (own : d.Among [Stage.attributes.call])
    {reply : Reply μ}
    (asked : Asked o hooks [.stream, .attributes reply (hooks.checkAttributes reply)]
      [hooks.exchangeAttributes] none d) :
    let (c, negotiation) := hooks.judge o.credentials d n.stage reply
    Scripted o hooks ([.stream] ++ [hooks.verdict reply n.stage])
      (ofProgress (Opening.conclude n.address n.limit c negotiation)) := by
  rw [stage]
  unfold Hooks.judge Hooks.verdict
  dsimp only
  cases verdict : hooks.checkAttributes reply with
  | error e => exact concludes (.refused reply e) (verdict ▸ asked) references _ _ _
  | ok =>
    have cached := (verdict ▸ asked).caches reply
    cases wanted : o.credentials.bind hooks.startServer with
    | none => exact concludes (.brief reply wanted) cached references _ _ _
    | some request =>
      have fresh : Stage.start.call ∉ d.callers := fun member => by
        have first := own.subset member
        simp [Stage.call] at first
      exact asks (.begun reply wanted) cached references .start fresh _ _

/-- The reply to the start of the server was judged. -/
theorem judgesStart {n : Opening.Negotiating μ} (stage : n.stage = .start) {first : Reply μ}
    {request : μ} (wanted : o.credentials.bind hooks.startServer = some request)
    {d : Connection μ} (references : d.references = 1) {reply : Reply μ}
    (asked : Asked o hooks [.stream, .attributes first (.ok ())]
      [hooks.exchangeAttributes, request] (some first) d) :
    let (c, negotiation) := hooks.judge o.credentials d n.stage reply
    Scripted o hooks ([.stream, .attributes first (.ok ())] ++ [hooks.verdict reply n.stage])
      (ofProgress (Opening.conclude n.address n.limit c negotiation)) := by
  rw [stage]
  unfold Hooks.judge Hooks.verdict
  dsimp only
  have told := asked.tells reply (hooks.checkStartServer reply)
  have script := Script.answered first wanted reply (hooks.checkStartServer reply)
  generalize hooks.checkStartServer reply = verdict at told script ⊢
  cases verdict with
  | error | ok => exact concludes script told references _ _ _

section Moments
variable (exchanges : o.handshake = .exchange hooks)
include exchanges

theorem establishes (address : HostAddress) (localAddress : Option Net.SocketAddress)
    (id : UInt32) (registry : Registry μ) (now : Instant) :
    Scripted o hooks [.stream]
      (ofProgress (o.establish address localAddress id registry now)) := by
  let s : Setting μ := ⟨id, o.service, registry, o.config, some address, localAddress⟩
  have start : Asked o hooks [.stream] [] none s.start :=
    ⟨⟨s, [], rfl, ⟨rfl, rfl⟩, rfl, by simp⟩, rfl⟩
  obtain ⟨opens, idle⟩ := prototypesAdded o.handshake.prototypes (c := s.start)
    ⟨⟨s, [], rfl⟩, rfl, rfl, rfl⟩ rfl
  have added := start.prototypes o.handshake.prototypes
  unfold Opening.establish
  simp only [exchanges] at opens idle added ⊢
  exact asks .asked added opens.references .attributes (by rw [idle]; nofun) address _

theorem proceeds {n : Opening.Negotiating μ} (h : Keeps o hooks past (.going n))
    (scripted : Scripted o hooks past (.going n)) (now : Instant) (attempt : WriteAttempt) :
    Scripted o hooks (past ++ (going n).signs o hooks (.poll now attempt))
      (ofProgress (o.poll n now attempt)) := by
  obtain ⟨asks, cache, script, asked⟩ := scripted _ rfl
  obtain ⟨attributes, opens, _⟩ := h.underway
  let e : Event μ := .poll n.stage.call now attempt
  have references := (opens.traffic (e := e) rfl).references
  unfold Opening.poll signs
  rw [exchanges]
  dsimp only
  rcases polled opens.lived.faults hooks o.credentials n.stage now attempt with
    ⟨reply, came, judged⟩ | ⟨silent, ended⟩
  · rw [came, judged]
    cases h with
    | attributes stage _ own =>
      cases script
      exact judgesAttributes stage references (stepAmong own (e := e) nofun nofun)
        ((asked.hears rfl came).quiet rfl rfl)
    | start stage wanted =>
      cases script with
      | brief reply unwanted =>
        rw [unwanted] at wanted
        contradiction
      | begun reply first => exact judgesStart stage first references (asked.quiet rfl rfl)
  · have next := asked.quiet (e := e) rfl rfl
    split
    · rename_i reply came
      exact absurd came (silent reply)
    · rw [List.append_nil]
      rcases ended with under | ⟨_, _, failed⟩
      · rw [under]
        exact concludes script next references n.address n.limit _
      · rw [failed]
        exact concludes script next references n.address n.limit _

theorem runs (h : Keeps o hooks past a) (scripted : Scripted o hooks past a) (id : UInt32)
    (shared : SharedRegistry μ) (now : Instant) (attempt : WriteAttempt) :
    Scripted o hooks (past ++ a.signs o hooks (.poll now attempt))
      (a.poll o id shared now attempt).1 := by
  have quiet : past ++ [] = past := List.append_nil past
  cases a with
  | going n => exact proceeds exchanges h scripted now attempt
  | opened c | failed e c | dropped c => exact quiet.symm ▸ scripted
  | dialing d =>
    cases h
    unfold Attempt.poll signs
    dsimp only
    cases o.dialed d now with
    | none => exact scripted
    | some result =>
      cases result with
      | ok localAddress =>
        unfold Opening.connect
        dsimp only
        split <;> exact establishes exchanges d.address localAddress id _ now
      | error e => exact undialed rfl

end Moments

theorem ends {n : Opening.Negotiating μ} (h : Keeps o hooks past (.going n))
    (scripted : Scripted o hooks past (.going n)) :
    Scripted o hooks past (.dropped (some n.abandon)) ∧ ∀ e,
      Scripted o hooks past (ofProgress (Opening.fail (n.connection.abandon n.stage.call) e)) := by
  obtain ⟨asks, cache, script, asked⟩ := scripted _ rfl
  obtain ⟨_, opens, _⟩ := h.underway
  let e : Event μ := .abandon n.stage.call
  have references := (opens.traffic (e := e) rfl).references
  have next := asked.quiet (e := e) rfl rfl
  refine ⟨fun c has => ⟨asks, cache, script, ?_⟩, fun e => ?_⟩
  · cases has
    exact next.released references
  · exact concludes script next references n.address n.limit (.over (.error e))

theorem reads (scripted : Scripted o hooks past a) (arrival : Option Arrival) :
    Scripted o hooks past (a.read arrival) := by
  intro c has
  have onward {d : Connection μ} (had : a.connection? = some d) :
      ∃ asks cache, Script o hooks past asks cache ∧
        Asked o hooks past asks cache (d.pollReader arrival) := by
    obtain ⟨asks, cache, script, asked⟩ := scripted d had
    exact ⟨asks, cache, script, asked.quiet (e := .read arrival) rfl rfl⟩
  cases a with
  | dialing => contradiction
  | going | opened =>
    cases has
    exact onward rfl
  | failed e half | dropped half =>
    obtain ⟨d, rfl, rfl⟩ := Option.map_eq_some_iff.mp has
    exact onward rfl

theorem step (exchanges : o.handshake = .exchange hooks) (h : Keeps o hooks past a)
    (scripted : Scripted o hooks past a) (occasion : Occasion μ) :
    Scripted o hooks (past ++ a.signs o hooks occasion.moment) (a.step o occasion) := by
  obtain ⟨id, shared, moment⟩ := occasion
  have quiet (none : a.signs o hooks moment = []) :
      past ++ a.signs o hooks moment = past := by rw [none, List.append_nil]
  cases moment with
  | poll now attempt => exact runs exchanges h scripted id shared now attempt
  | read arrival => rw [quiet (by cases a <;> rfl)]; exact scripted.reads arrival
  | expire now =>
    rw [quiet (by cases a <;> rfl)]
    cases a with
    | going n =>
      dsimp only [Attempt.step, Attempt.expire]
      split
      · exact (ends h scripted).2 _
      · exact scripted
    | dialing | opened | failed | dropped => exact scripted
  | drop =>
    rw [quiet (by cases a <;> rfl)]
    cases a with
    | going n => exact (ends h scripted).1
    | dialing => exact undialed rfl
    | opened | failed | dropped => exact scripted

theorem run (exchanges : o.handshake = .exchange hooks) (provider : Provider) (start : Instant)
    (occasions : List (Occasion μ)) :
    let begun := o.begin provider start
    Scripted o hooks (begun.past o hooks occasions) (begun.run o occasions) := by
  refine (afterPast o hooks (fun past a => Keeps o hooks past a ∧ Scripted o hooks past a)
    ⟨Keeps.begins provider start, ?_⟩
    (fun _ _ occasion ⟨h, scripted⟩ =>
      ⟨h.step exchanges occasion, scripted.step exchanges h occasion⟩) occasions).2
  unfold Opening.begin
  split <;> exact undialed rfl

end Scripted

/-! What it comes to. -/

section Scripts
omit [Message μ]
variable {o : Opening μ} {hooks : Hooks μ} {past : List (Sign μ)} {asks : List μ}
  {cache : Option (Reply μ)} (script : Script o hooks past asks cache)
include script

theorem Script.requests : o.requests hooks past = asks ∧ asks.length ≤ 2 := by
  cases script with
  | asked | refused => exact ⟨rfl, Nat.le_succ 1⟩
  | brief reply unwanted =>
    exact ⟨by simp [Opening.requests, Sign.accepts, unwanted], Nat.le_succ 1⟩
  | begun reply wanted | answered reply wanted =>
    exact ⟨by simp [Opening.requests, Sign.accepts, wanted], Nat.le_refl 2⟩

theorem Script.caches (reply : Reply μ) :
    cache = some reply ↔ .attributes reply (.ok ()) ∈ past := by
  cases script with
  | asked | refused => simp
  | brief | begun | answered => simp [eq_comm]

theorem Script.refuses {reply : Reply μ} {e : HandshakeError}
    (said : .attributes reply (.error e) ∈ past) : past.any Sign.accepts = false := by
  cases script with
  | asked | refused => rfl
  | brief | begun | answered => simp at said

theorem Script.unaccepted (unaccepted : past.any Sign.accepts = false) : cache = none := by
  cases script with
  | asked | refused => rfl
  | brief | begun | answered => simp [Sign.accepts] at unaccepted

end Scripts

/-- What the host was told in an attempt, and what is cached of what it said. -/
structure Discloses (o : Opening μ) (hooks : Hooks μ) (past : List (Sign μ)) (c : Connection μ) :
    Prop where
  lived : c.Lived
  registers : ∀ (s : Setting μ) (events : List (Event μ)), c = s.start.run events →
    ((s.start.history events).filterMap Occurrence.registered?).length ≤
        (o.requests hooks past).length ∧ (o.requests hooks past).length ≤ 2
  writes : ∃ frames, List.SublistForall₂ (Frames o.service o.config) frames
      (o.requests hooks past) ∧ c.written <+: frames.flatten
  answered : ∀ reply verdict, .attributes reply verdict ∈ past →
    verdict = hooks.checkAttributes reply ∧
      ∃ (s : Setting μ) (events : List (Event μ)), c = s.start.run events ∧
        Answers s events hooks.exchangeAttributes reply
  caches : ∀ reply, c.attributes = some reply ↔ .attributes reply (.ok ()) ∈ past
  refuses : ∀ reply e, .attributes reply (.error e) ∈ past → past.any Sign.accepts = false
  unaccepted : past.any Sign.accepts = false → c.attributes = none

theorem Scripted.discloses {o : Opening μ} {hooks : Hooks μ} {past : List (Sign μ)} {a : Attempt μ}
    (scripted : Scripted o hooks past a) {c : Connection μ} (has : a.connection? = some c) :
    Discloses o hooks past c := by
  obtain ⟨asks, cache, script, asked⟩ := scripted c has
  obtain ⟨same, few⟩ := script.requests
  obtain ⟨s, events, rfl, ⟨service, config⟩, requests, answers⟩ := asked.life
  refine ⟨⟨s, events, rfl⟩, fun s' events' alike => ?_, ?_,
    fun reply verdict said => (answers reply verdict said).imp_right (⟨s, events, rfl, ·⟩), ?_,
    fun _ _ => script.refuses, asked.attributes ▸ script.unaccepted⟩
  · rw [same, ← registeredAlike alike]
    exact ⟨requests ▸ runRegisters s.start events, few⟩
  · rw [same, ← service, ← config, ← requests]
    exact runWrites s events
  · rw [asked.attributes]
    exact script.caches

/-- Nothing that comes about tells the one opening from the other. -/
def SameRun (o o' : Opening μ) (hooks hooks' : Hooks μ) (provider : Provider) (start : Instant)
    (occasions : List (Occasion μ)) : Prop :=
  (o'.begin provider start).past o' hooks' occasions =
      (o.begin provider start).past o hooks occasions ∧
    (o'.begin provider start).run o' occasions = (o.begin provider start).run o occasions

theorem attributesFirst (o : Opening μ) (hooks : Hooks μ) (provider : Provider) (start : Instant)
    (occasions : List (Occasion μ)) :
    let o := { o with handshake := .exchange hooks }
    let begun := o.begin provider start
    let past := begun.past o hooks occasions
    (past.any Sign.accepts = false → ∀ credentials startServer checkStartServer,
      let hooks' := { hooks with startServer, checkStartServer }
      let o' := { o with credentials, handshake := .exchange hooks' }
      SameRun o o' hooks hooks' provider start occasions) ∧
    (∀ startServer, (∀ k, o.credentials = some k → startServer k = hooks.startServer k) →
      let hooks' := { hooks with startServer }
      let o' := { o with handshake := .exchange hooks' }
      SameRun o o' hooks hooks' provider start occasions) ∧
    ∀ c, (begun.run o occasions).connection? = some c → Discloses o hooks past c := by
  intro o begun past
  have begins : Keeps o hooks [] begun := Keeps.begins provider start
  refine ⟨fun unaccepted credentials startServer checkStartServer => ?_,
    fun startServer agrees => ?_, fun c => ?_⟩
  · exact runAlike o hooks credentials startServer checkStartServer occasions begins (.inl unaccepted)
  · have same : o.credentials.bind startServer = o.credentials.bind hooks.startServer := by
      cases given : o.credentials with
      | none => rfl
      | some k => exact agrees k given
    exact runAlike o hooks o.credentials startServer hooks.checkStartServer occasions begins
      (.inr ⟨same, rfl⟩)
  · exact (Scripted.run rfl provider start occasions).discloses

end Attempt
end ServiceMux
