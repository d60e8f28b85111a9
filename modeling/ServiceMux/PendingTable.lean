import ServiceMux.Error.Server
/-! Which correlation ids are outstanding, and the handing out of free ones.

Every registration carries a ticket of its own, so one that is over cannot touch a later one under
the same id. -/
namespace ServiceMux

structure Registration where
  correlationId : UInt32
  ticket : Nat
  deriving DecidableEq, Repr

/-- What becomes of the reply to an outstanding request. -/
inductive Fate where
  | awaited
  | dropped
  deriving DecidableEq, Repr

structure Slot where
  ticket : Nat
  fate : Fate
  deriving DecidableEq, Repr

structure PendingTable where
  /-- No id comes twice. -/
  entries : List (UInt32 × Slot)
  /-- Where the search for a free id starts. -/
  next : UInt32
  /-- Ids run from one to here. -/
  limit : UInt32
  /-- Counted without end: 2^64 registrations are out of reach, so 64 bits never come round. -/
  nextTicket : Nat
  closed : Bool
  deriving DecidableEq, Repr

namespace PendingTable

/-- With room for `limit` ids, and for one at least. -/
def ofLimit (limit : UInt32) : PendingTable := ⟨[], 1, max limit 1, 1, false⟩

def get? (t : PendingTable) (id : UInt32) : Option Slot := t.entries.lookup id

def size (t : PendingTable) : Nat := t.entries.length

/-- The id after this one, in a circle. -/
def successor (t : PendingTable) (id : UInt32) : UInt32 := if t.limit ≤ id then 1 else id + 1

/-- The first id from `id` on that is not outstanding, among as many as there is fuel for. -/
def firstFree (t : PendingTable) : Nat → UInt32 → Option UInt32
  | 0, _ => none
  | fuel + 1, id =>
    match t.get? id with
    | none => some id
    | some _ => t.firstFree fuel (t.successor id)

/-- An id that is not outstanding. Among one more id than there are entries, one is free. -/
def allocate (t : PendingTable) : Except ServerError (UInt32 × PendingTable) :=
  if t.limit.toNat ≤ t.size then .error (.idsExhausted t.limit)
  else
    match t.firstFree (t.size + 1) t.next with
    | some id => .ok (id, { t with next := t.successor id })
    | none => .error (.idsExhausted t.limit)

def register (t : PendingTable) (fate : Fate) :
    Except ServerError (Registration × PendingTable) :=
  if t.closed then .error .connectionClosed
  else
    match t.allocate with
    | .error e => .error e
    | .ok (id, t) =>
      .ok (⟨id, t.nextTicket⟩,
        { t with
          entries := t.entries ++ [(id, ⟨t.nextTicket, fate⟩)]
          nextTicket := t.nextTicket + 1 })

section Failing
variable {t : PendingTable} {e : ServerError}

theorem allocateFails (h : t.allocate = .error e) : e = .idsExhausted t.limit := by
  unfold allocate at h
  split at h
  · cases h
    rfl
  · split at h
    · contradiction
    · cases h
      rfl

theorem registerFails {fate : Fate} (h : t.register fate = .error e) :
    (t.closed = true ∧ e = .connectionClosed) ∨
      (t.closed = false ∧ e = .idsExhausted t.limit) := by
  unfold register at h
  split at h
  · rename_i closed
    cases h
    exact .inl ⟨closed, rfl⟩
  · rename_i accepting
    split at h
    · rename_i refused
      cases h
      exact .inr ⟨by simpa using accepting, allocateFails refused⟩
    · contradiction

end Failing

def erase (t : PendingTable) (id : UInt32) : PendingTable :=
  { t with entries := t.entries.filter (·.1 != id) }

/-- The entry under the id of an inbound reply, whoever registered it. -/
def take (t : PendingTable) (id : UInt32) : Option Slot × PendingTable :=
  match t.get? id with
  | some slot => (some slot, t.erase id)
  | none => (none, t)

/-- Whether the registration's own entry is still there. -/
def holds (t : PendingTable) (r : Registration) : Bool :=
  match t.get? r.correlationId with
  | some slot => slot.ticket == r.ticket
  | none => false

/-- Removes the registration's own entry, and no other. -/
def cancel (t : PendingTable) (r : Registration) : Option Slot × PendingTable :=
  if t.holds r then t.take r.correlationId else (none, t)

def awaited (t : PendingTable) : List Nat :=
  t.entries.filterMap fun (_, slot) => if slot.fate = .awaited then some slot.ticket else none

/-- Drops every entry, and takes no more. -/
def close (t : PendingTable) : PendingTable := { t with entries := [], closed := true }

end PendingTable
end ServiceMux
