import ServiceMux.Proofs.Attempts
import ServiceMux.Proofs.Leases
/-! The shared registry of a process, from its start. Main statements: until somebody asks for it,
it gathers registrations as a registry of one's own would, and from then on it stays as it was
(`runShared`); so all who ask get the same, also an opening that has just got its stream
(`frozenOnce`). -/
namespace ServiceMux
variable {μ : Type}

namespace SharedRegistry
variable {s : SharedRegistry μ} {r : Registry μ}

/-- What a registration comes to once the registry is frozen. -/
structure Judges (s : SharedRegistry μ) (r : Registry μ) (service : Service)
    (discriminator : UInt16) (prototype : Prototype μ) : Prop where
  unchanged : ∀ after, s.register service discriminator prototype = .ok after → after = s
  accepted : (∃ after, s.register service discriminator prototype = .ok after) ↔
    ∃ existing, r.lookup service discriminator = some existing ∧
      existing.typeId = prototype.typeId
  conflicting (holder attempted : String) : s.register service discriminator prototype =
      .error (.conflictingPrototype service discriminator holder attempted) ↔
    ∃ existing, r.lookup service discriminator = some existing ∧
      existing.typeId ≠ prototype.typeId ∧ existing.typeName = holder ∧
        prototype.typeName = attempted
  refused : s.register service discriminator prototype =
      .error (.registryFrozen service discriminator prototype.typeName) ↔
    r.lookup service discriminator = none

theorem judges (frozen : s.frozen = some r) (service : Service) (discriminator : UInt16)
    (prototype : Prototype μ) : s.Judges r service discriminator prototype := by
  cases held : r.lookup service discriminator with
  | none =>
    have answer : s.register service discriminator prototype =
        .error (.registryFrozen service discriminator prototype.typeName) := by
      simp only [register, frozen, held]
    constructor <;> simp [answer, held]
  | some existing =>
    have answer : s.register service discriminator prototype =
        if existing.same prototype then .ok s else .error
          (.conflictingPrototype service discriminator existing.typeName prototype.typeName) := by
      simp only [register, frozen, held]
    by_cases same : existing.typeId = prototype.typeId <;>
      constructor <;> simp [answer, held, same]

theorem gathers (r : Registry μ) (service : Service) (discriminator : UInt16)
    (prototype : Prototype μ) :
    SharedRegistry.register ⟨r, none⟩ service discriminator prototype =
      (r.register service discriminator prototype).map (⟨·, none⟩) := by
  unfold register
  dsimp only
  cases r.register service discriminator prototype <;> rfl

end SharedRegistry

/-! Openings. -/

namespace Attempt
open Connection

/-- Whether an attempt gets its stream at this moment. -/
def connects (o : Opening μ) : Attempt μ → Moment → Bool
  | dialing d, .poll now _ =>
    match o.dialed d now with
    | some (.ok _) => true
    | _ => false
  | _, _ => false

/-- Whether an attempt needs the shared registry at this moment. -/
def asks (o : Opening μ) (a : Attempt μ) (moment : Moment) : Bool :=
  o.registry.isNone && a.connects o moment

variable [Message μ]

/-- The shared registry as a moment of an attempt leaves it. -/
def leaves (o : Opening μ) (a : Attempt μ) (occasion : Occasion μ) : SharedRegistry μ :=
  match occasion.moment with
  | .poll now attempt => (a.poll o occasion.nextConnection occasion.shared now attempt).2
  | _ => occasion.shared

/-! The connection that comes of a stream reads replies with the registry it was given. -/

omit [Message μ] in
theorem concludeRegistry (address : HostAddress) (limit : Deadline) (c : Connection μ)
    (negotiation : Negotiation) :
    (ofProgress (Opening.conclude address limit c negotiation)).connection?.map (·.registry) =
      some c.registry := by
  match negotiation with
  | .under stage => rfl
  | .over (.error e) =>
    have closed : (c.close .forced).registry = c.registry :=
      congrArg Terms.registry (closeTerms c .forced)
    have released : (c.close .forced).release.registry = (c.close .forced).registry :=
      congrArg Terms.registry (releaseTerms _)
    exact congrArg some (released.trans closed)
  | .over (.ok none) | .over (.ok (some job)) => rfl

theorem establishRegistry (o : Opening μ) (address : HostAddress)
    (localAddress : Option Net.SocketAddress) (id : UInt32) (registry : Registry μ)
    (now : Instant) :
    (ofProgress (o.establish address localAddress id registry now)).connection?.map (·.registry) =
      some registry := by
  have added (prototypes : List (UInt16 × Prototype μ)) (c : Connection μ) :
      (prototypes.foldl (fun c p => c.addPrototype p.1 p.2) c).registry = c.registry := by
    induction prototypes generalizing c with
    | nil => rfl
    | cons first rest ih => exact ih _
  unfold Opening.establish
  dsimp only
  split
  · rw [concludeRegistry, added]
    rfl
  · rename_i hooks _
    have begun (c : Connection μ) : (hooks.start c).1.registry = c.registry := by
      rw [Hooks.start, askSubmits]
      exact congrArg Terms.registry (submitTerms c _ _ _)
    rw [concludeRegistry, begun, added]
    rfl

section Asking
variable {o : Opening μ} {a : Attempt μ} {moment : Moment}

omit [Message μ] in
theorem connectsIff : a.connects o moment = true ↔ ∃ d now attempt localAddress,
    a = .dialing d ∧ moment = .poll now attempt ∧ o.dialed d now = some (.ok localAddress) := by
  constructor
  · intro connects
    unfold Attempt.connects at connects
    split at connects
    · split at connects
      · rename_i d now attempt _ localAddress came
        exact ⟨d, now, attempt, localAddress, rfl, rfl, came⟩
      · contradiction
    · contradiction
  · rintro ⟨d, now, attempt, localAddress, rfl, rfl, came⟩
    simp only [Attempt.connects, came]

omit [Message μ] in
theorem asksIff : a.asks o moment = true ↔ o.registry = none ∧ a.connects o moment = true := by
  rw [asks, Bool.and_eq_true, Option.isNone_iff_eq_none]

/-- An opening without a registry of its own asks for the shared one, once it has its stream. -/
theorem leavesAsked (asks : a.asks o moment = true) (id : UInt32) (shared : SharedRegistry μ) :
    a.leaves o ⟨id, shared, moment⟩ = shared.read.2 ∧
      (a.step o ⟨id, shared, moment⟩).connection?.map (·.registry) = some shared.read.1 := by
  obtain ⟨none, connects⟩ := asksIff.mp asks
  obtain ⟨d, now, attempt, localAddress, rfl, rfl, came⟩ := connectsIff.mp connects
  unfold Attempt.step leaves Attempt.poll
  dsimp only
  simp only [came, Opening.connect, none]
  exact ⟨trivial, establishRegistry o d.address localAddress id _ now⟩

theorem leavesAlone (silent : a.asks o moment = false) (id : UInt32)
    (shared : SharedRegistry μ) : a.leaves o ⟨id, shared, moment⟩ = shared := by
  cases moment with
  | expire | drop | read => rfl
  | poll now attempt =>
    cases a with
    | going | opened | failed | dropped => rfl
    | dialing d =>
      unfold leaves Attempt.poll
      dsimp only
      cases came : o.dialed d now with
      | none => rfl
      | some result =>
        cases result with
        | error e => rfl
        | ok localAddress =>
          cases own : o.registry with
          | some registry => simp only [Opening.connect, own]
          | none =>
            have connects : connects o (.dialing d) (.poll now attempt) = true :=
              connectsIff.mpr ⟨d, now, attempt, localAddress, rfl, rfl, came⟩
            rw [asksIff.mpr ⟨own, connects⟩] at silent
            contradiction

end Asking
end Attempt

/-! Processes. -/

/-- The shared registry of a process, and the openings that were begun in it. -/
structure Process (μ : Type) where
  shared : SharedRegistry μ := {}
  openings : List (Opening μ × Attempt μ) := []

namespace Process

inductive Call (μ : Type) where
  | register (service : Service) (discriminator : UInt16) (prototype : Prototype μ)
  | registry
  | isFrozen
  /-- An opening is begun; it is let run by further calls. -/
  | begin (o : Opening μ) (provider : Provider) (now : Instant)
  | goOn (opening : Nat) (nextConnection : UInt32) (moment : Moment)

/-- What a registry of one's own makes of this call. -/
def Call.gather (r : Registry μ) : Call μ → Registry μ
  | register service discriminator prototype =>
    match r.register service discriminator prototype with
    | .ok r => r
    | .error _ => r
  | _ => r

/-- Whether somebody asks for the shared registry with this call. -/
def asks (p : Process μ) : Call μ → Bool
  | .registry => true
  | .goOn n _ moment =>
    match p.openings[n]? with
    | some (o, a) => a.asks o moment
    | none => false
  | _ => false

variable [Message μ]

def step (p : Process μ) : Call μ → Process μ
  | .register service discriminator prototype =>
    match p.shared.register service discriminator prototype with
    | .ok shared => { p with shared }
    | .error _ => p
  | .registry => { p with shared := p.shared.read.2 }
  | .isFrozen => p
  | .begin o provider now => { p with openings := p.openings ++ [(o, o.begin provider now)] }
  | .goOn n nextConnection moment =>
    match p.openings[n]? with
    | some (o, a) =>
      let occasion := ⟨nextConnection, p.shared, moment⟩
      ⟨a.leaves o occasion, p.openings.set n (o, a.step o occasion)⟩
    | none => p

/-- The registry that comes of this call: as it is returned, or as it is put to use on the
connection that is opened. -/
def answer (p : Process μ) (call : Call μ) : Option (Registry μ) :=
  match call with
  | .registry => some p.shared.read.1
  | .goOn n _ _ =>
    match (p.step call).openings[n]? with
    | some (_, a) => a.connection?.map (·.registry)
    | none => none
  | _ => none

def run (p : Process μ) (calls : List (Call μ)) : Process μ := calls.foldl step p

/-- Whether somebody has asked for the shared registry in the course of these calls. -/
def asked (p : Process μ) : List (Call μ) → Bool
  | [] => false
  | call :: rest => p.asks call || (p.step call).asked rest

/-- What a registry of one's own makes of these calls, up to the first that asks for it. -/
def gathered (p : Process μ) (r : Registry μ) : List (Call μ) → Registry μ
  | [] => r
  | call :: rest => if p.asks call then r else (p.step call).gathered (call.gather r) rest

variable {p : Process μ} {r : Registry μ}

theorem stepFrozen (frozen : p.shared = ⟨.empty, some r⟩) (call : Call μ) :
    (p.step call).shared = ⟨.empty, some r⟩ := by
  have read : p.shared.read.2 = p.shared := by rw [frozen]; rfl
  cases call with
  | register service discriminator prototype =>
    have judges := p.shared.judges (r := r) (by rw [frozen]) service discriminator prototype
    unfold step
    dsimp only
    split
    · rename_i after accepted
      exact (judges.unchanged after accepted).trans frozen
    · exact frozen
  | registry => exact read.trans frozen
  | isFrozen | begin => exact frozen
  | goOn n nextConnection moment =>
    unfold step
    dsimp only
    split
    · rename_i o a _
      cases asks : a.asks o moment with
      | true => exact (Attempt.leavesAsked asks _ _).1.trans (read.trans frozen)
      | false => exact (Attempt.leavesAlone asks _ _).trans frozen
    · exact frozen

theorem stepAsked {call : Call μ} (asks : p.asks call = true) :
    (p.step call).shared = p.shared.read.2 ∧ p.answer call = some p.shared.read.1 := by
  cases call with
  | registry => exact ⟨rfl, rfl⟩
  | register | isFrozen | begin => contradiction
  | goOn n nextConnection moment =>
    unfold Process.asks at asks
    dsimp only at asks
    cases found : p.openings[n]? with
    | none =>
      rw [found] at asks
      contradiction
    | some opening =>
      obtain ⟨o, a⟩ := opening
      rw [found] at asks
      obtain ⟨left, used⟩ := Attempt.leavesAsked asks nextConnection p.shared
      have inside : n < p.openings.length := (List.getElem?_eq_some_iff.mp found).1
      unfold answer step
      simp only [found, List.getElem?_set_self inside]
      exact ⟨left, used⟩

theorem stepGathers (gathering : p.shared = ⟨r, none⟩) {call : Call μ}
    (silent : p.asks call = false) : (p.step call).shared = ⟨call.gather r, none⟩ := by
  cases call with
  | register service discriminator prototype =>
    unfold step Call.gather
    dsimp only
    rw [gathering, SharedRegistry.gathers]
    cases r.register service discriminator prototype with
    | ok _ => rfl
    | error _ => exact gathering
  | registry => contradiction
  | isFrozen | begin => exact gathering
  | goOn n nextConnection moment =>
    unfold Process.asks at silent
    dsimp only at silent
    unfold step
    dsimp only
    split
    · rename_i o a found
      rw [found] at silent
      exact (Attempt.leavesAlone silent _ _).trans gathering
    · exact gathering

theorem runFrozen (frozen : p.shared = ⟨.empty, some r⟩) (calls : List (Call μ)) :
    (p.run calls).shared = ⟨.empty, some r⟩ := by
  unfold run
  induction calls generalizing p with
  | nil => exact frozen
  | cons call rest ih => exact ih (stepFrozen frozen call)

theorem runShared (gathering : p.shared = ⟨r, none⟩) (calls : List (Call μ)) :
    (p.run calls).shared =
      if p.asked calls then ⟨.empty, some (p.gathered r calls)⟩
      else ⟨p.gathered r calls, none⟩ := by
  -- On the calls: up to the first that asks nothing is frozen, and after it all stays as it is.
  induction calls generalizing p r with
  | nil => exact gathering
  | cons call rest ih =>
    show ((p.step call).run rest).shared = _
    unfold asked gathered
    cases asks : p.asks call with
    | true =>
      have frozen : (p.step call).shared = ⟨.empty, some r⟩ := by
        rw [(stepAsked asks).1, gathering]
        rfl
      rw [runFrozen frozen]
      rfl
    | false => exact ih (stepGathers gathering asks)

theorem gatheredUpTo (calls later : List (Call μ)) {call : Call μ}
    (asks : (p.run calls).asks call = true) :
    p.gathered r (calls ++ call :: later) = p.gathered r calls := by
  induction calls generalizing p r with
  | nil => exact if_pos asks
  | cons first rest ih =>
    rw [List.cons_append, gathered, gathered]
    split
    · rfl
    · exact ih asks

theorem frozenOnce (calls : List (Call μ)) :
    let start : Process μ := {}
    let p := start.run calls
    let built := start.gathered .empty calls
    let asked := start.asked calls
    (p.shared.isFrozen = true ↔ asked = true) ∧
      (∀ call, p.asks call = true → p.answer call = some built ∧
        ∀ later, start.gathered .empty (calls ++ call :: later) = built) ∧
      (asked = false → ∀ service discriminator prototype,
        p.shared.register service discriminator prototype =
          (built.register service discriminator prototype).map (⟨·, none⟩)) ∧
      (asked = true → ∀ service discriminator prototype,
        p.shared.Judges built service discriminator prototype) ∧
      ∀ n o a, p.openings[n]? = some (o, a) → ∀ id moment,
        p.asks (.goOn n id moment) = true ↔ o.registry = none ∧
          ∃ d now attempt localAddress, a = .dialing d ∧ moment = .poll now attempt ∧
            o.dialed d now = some (.ok localAddress) := by
  intro start p built asked
  have shared : p.shared = if asked then ⟨.empty, some built⟩ else ⟨built, none⟩ :=
    runShared rfl calls
  have read : p.shared.read.1 = built := by
    rw [shared]
    split <;> rfl
  refine ⟨?_, fun call asks => ⟨(stepAsked asks).2.trans (congrArg some read),
    fun later => gatheredUpTo calls later asks⟩, fun before => ?_, fun since => ?_, ?_⟩
  · rw [shared]
    cases asked <;> simp [SharedRegistry.isFrozen]
  · rw [shared, before]
    exact SharedRegistry.gathers built
  · exact SharedRegistry.judges (by rw [shared, since]; rfl)
  · intro n o a found id moment
    unfold Process.asks
    simp only [found]
    rw [Attempt.asksIff, Attempt.connectsIff]

end Process
end ServiceMux
