import Mathlib.Data.Finset.Card
import ServiceMux.Bench.Datastream
import ServiceMux.Registry.Basic
/-! Registries as they come of many registrations. Main statements: each key belongs to the
prototype that was first put forward for it (`lookupBuilt`), any other that is put forward later is
refused (`answerError`), and so all that matters is which candidate is the first for each key
(`firstKeepsKey`). -/
namespace ServiceMux.Registry
variable {μ : Type}

abbrev Key := Service × UInt16

/-- A prototype that is put forward for a key. -/
structure Candidate (μ : Type) where
  service : Service
  discriminator : UInt16
  prototype : Prototype μ

def Candidate.key (c : Candidate μ) : Key := (c.service, c.discriminator)

def answer (r : Registry μ) (c : Candidate μ) : Except ConfigurationError (Registry μ) :=
  r.register c.service c.discriminator c.prototype

/-- A candidate that is refused leaves the registry as it was. -/
def enter (r : Registry μ) (c : Candidate μ) : Registry μ :=
  match r.answer c with
  | .ok r => r
  | .error _ => r

def built (candidates : List (Candidate μ)) : Registry μ := candidates.foldl enter empty

def keys (r : Registry μ) : List Key := r.entries.map Prod.fst

/-- Left out are some candidates whose key has come before. -/
inductive Pared : List Key → List (Candidate μ) → List (Candidate μ) → Prop where
  | done (seen : List Key) : Pared seen [] []
  | kept {seen : List Key} {c : Candidate μ} {rest fewer : List (Candidate μ)}
      (next : Pared (c.key :: seen) rest fewer) : Pared seen (c :: rest) (c :: fewer)
  | omitted {seen : List Key} {c : Candidate μ} {rest fewer : List (Candidate μ)}
      (again : c.key ∈ seen) (next : Pared seen rest fewer) : Pared seen (c :: rest) fewer

variable {r : Registry μ} {c : Candidate μ}

@[simp] theorem keysEmpty : (empty : Registry μ).keys = [] := rfl

theorem memKeys {service : Service} {discriminator : UInt16} :
    (service, discriminator) ∈ r.keys ↔ r.lookup service discriminator ≠ none := by
  simp [keys, lookup, List.lookup_eq_none_iff]

theorem enterKnown (known : c.key ∈ r.keys) : r.enter c = r := by
  obtain ⟨existing, found⟩ := Option.ne_none_iff_exists'.mp (memKeys.mp known)
  simp only [enter, answer, register, found]
  cases existing.same c.prototype <;> rfl

theorem enterNew (new : c.key ∉ r.keys) : r.enter c = ⟨r.entries ++ [(c.key, c.prototype)]⟩ := by
  have none : r.lookup c.service c.discriminator = none := by
    by_contra found
    exact new (memKeys.mpr found)
  simp [enter, answer, register, none, Candidate.key]

theorem keysEnter (r : Registry μ) (c : Candidate μ) :
    (r.enter c).keys = if c.key ∈ r.keys then r.keys else r.keys ++ [c.key] := by
  split
  · rw [enterKnown ‹_›]
  · rw [enterNew ‹_›]
    simp [keys]

theorem lookupEnter (r : Registry μ) (c : Candidate μ) (service : Service)
    (discriminator : UInt16) :
    (r.enter c).lookup service discriminator = (r.lookup service discriminator).or
      (if c.key = (service, discriminator) then some c.prototype else none) := by
  by_cases known : c.key ∈ r.keys
  · rw [enterKnown known]
    split
    · rename_i own
      rw [own, memKeys] at known
      obtain ⟨existing, found⟩ := Option.ne_none_iff_exists'.mp known
      simp [found]
    · simp
  · rw [enterNew known]
    by_cases own : c.key = (service, discriminator)
    · simp [lookup, List.lookup_append, own]
    · simp [lookup, List.lookup_append, List.lookup_cons, own, beq_false_of_ne (Ne.symm own)]

theorem lookupBuilt (candidates : List (Candidate μ)) (service : Service)
    (discriminator : UInt16) :
    (candidates.foldl enter r).lookup service discriminator =
      (r.lookup service discriminator).or
        ((candidates.find? (·.key == (service, discriminator))).map Candidate.prototype) := by
  induction candidates generalizing r with
  | nil => simp
  | cons c rest ih =>
    rw [List.foldl_cons, ih, lookupEnter, Option.or_assoc]
    by_cases own : c.key = (service, discriminator) <;> simp [own]

theorem answerError {e : ConfigurationError} : r.answer c = .error e ↔
    ∃ existing, r.lookup c.service c.discriminator = some existing ∧
      existing.typeId ≠ c.prototype.typeId ∧ e = .conflictingPrototype c.service c.discriminator
        existing.typeName c.prototype.typeName := by
  unfold answer register
  cases r.lookup c.service c.discriminator with
  | none => simp
  | some existing =>
    by_cases same : existing.typeId = c.prototype.typeId
    · simp [same]
    · simpa [same] using eq_comm

/-- Two types with one name are two types. -/
example (decode : Header → List UInt8 → Except CodecError μ) :
    let first : Candidate μ := ⟨.command, 0x8001, ⟨⟨"here"⟩, "Pong", decode⟩⟩
    let namesake : Candidate μ := ⟨.command, 0x8001, ⟨⟨"elsewhere"⟩, "Pong", decode⟩⟩
    (built [first]).answer namesake =
      .error (.conflictingPrototype .command 0x8001 "Pong" "Pong") := rfl

theorem memKeysBuilt (candidates : List (Candidate μ)) {key : Key} :
    key ∈ (candidates.foldl enter r).keys ↔ key ∈ r.keys ∨ key ∈ candidates.map Candidate.key := by
  induction candidates generalizing r with
  | nil => simp
  | cons c rest ih =>
    rw [List.foldl_cons, ih, keysEnter]
    split <;> grind

theorem keysNodup (once : r.keys.Nodup) (candidates : List (Candidate μ)) :
    (candidates.foldl enter r).keys.Nodup := by
  induction candidates generalizing r with
  | nil => exact once
  | cons c rest ih =>
    refine ih ?_
    rw [keysEnter]
    split <;> grind

theorem pared {seen : List Key} {candidates fewer : List (Candidate μ)}
    (h : Pared seen candidates fewer) (known : ∀ key ∈ seen, key ∈ r.keys) :
    fewer.foldl enter r = candidates.foldl enter r := by
  induction h generalizing r with
  | done => rfl
  | kept next ih =>
    refine ih fun key member => ?_
    rw [keysEnter]
    split <;> grind
  | omitted again next ih =>
    rw [List.foldl_cons, enterKnown (known _ again)]
    exact ih known

theorem sizeBuilt (candidates : List (Candidate μ)) :
    (built candidates).size = (candidates.map Candidate.key).toFinset.card := by
  have once : (built candidates).keys.Nodup := keysNodup (by simp) candidates
  have same : (built candidates).keys.toFinset = (candidates.map Candidate.key).toFinset := by
    ext key
    rw [List.mem_toFinset, List.mem_toFinset, built, memKeysBuilt]
    simp
  rw [← same, List.toFinset_card_of_nodup once]
  simp [keys, size]

theorem memKeysOf {candidates : List (Candidate μ)} {key : Key} :
    key ∈ (candidates.map Candidate.key).toFinset ↔ candidates.filter (·.key == key) ≠ [] := by
  simp

theorem sameKeys {candidates others : List (Candidate μ)}
    (alike : ∀ key, others.filter (·.key == key) = candidates.filter (·.key == key)) :
    (others.map Candidate.key).toFinset = (candidates.map Candidate.key).toFinset := by
  ext key
  rw [memKeysOf, memKeysOf, alike]

theorem firstKeepsKey (candidates : List (Candidate μ)) :
    let r := built candidates
    (∀ service discriminator, r.lookup service discriminator =
        (candidates.find? (·.key == (service, discriminator))).map Candidate.prototype) ∧
      r.size = (candidates.map Candidate.key).toFinset.card ∧
      (∀ c e, r.answer c = .error e ↔ ∃ first, candidates.find? (·.key == c.key) = some first ∧
        first.prototype.typeId ≠ c.prototype.typeId ∧ e = .conflictingPrototype c.service
          c.discriminator first.prototype.typeName c.prototype.typeName) ∧
      (∀ fewer, Pared [] candidates fewer → built fewer = r) ∧
      ∀ others, (∀ key, others.filter (·.key == key) = candidates.filter (·.key == key)) →
        (∀ service discriminator,
          (built others).lookup service discriminator = r.lookup service discriminator) ∧
        (built others).size = r.size := by
  intro r
  have found (candidates : List (Candidate μ)) (service : Service) (discriminator : UInt16) :
      (built candidates).lookup service discriminator =
        (candidates.find? (·.key == (service, discriminator))).map Candidate.prototype := by
    rw [built, lookupBuilt]
    rfl
  refine ⟨found candidates, sizeBuilt candidates, fun c e => ?_,
    fun fewer less => pared less (by simp),
    fun others alike => ⟨fun service discriminator => ?_, ?_⟩⟩
  · rw [answerError, found]
    simp [Candidate.key]
  · rw [found, found, ← List.head?_filter, ← List.head?_filter, alike]
  · rw [sizeBuilt, sizeBuilt, sameKeys alike]

/-- A candidate that was refused in between leaves nothing behind: the first may come again. -/
theorem firstComesAgain :
    let pong : Candidate Bench.Datastream := ⟨.command, 0x8001, Bench.ReplyType.pong.prototype⟩
    let raw : Candidate Bench.Datastream := ⟨.command, 0x8001, Bench.ReplyType.raw.prototype⟩
    ¬((∃ e, (built [pong, raw]).answer pong = .error e) ↔ ∃ earlier ∈ [pong, raw],
      earlier.key = pong.key ∧ earlier.prototype.typeId ≠ pong.prototype.typeId) := by
  intro pong raw claimed
  have accepted : (built [pong, raw]).answer pong = .ok (built [pong, raw]) := rfl
  obtain ⟨e, refused⟩ := claimed.mpr ⟨raw, by simp, rfl, by decide⟩
  rw [accepted] at refused
  contradiction

end ServiceMux.Registry
