import Tarka.Messaging.DiskBuffer

/-! # Publishing with a failure at any step

`_sync_enqueue_with_lock` commits the row before it writes the journal. What fails up to the commit
is rolled back. What fails after it is raised to the caller while the row is in the buffer, and a
caller that tries again has the message delivered twice (`retry_delivers_twice`). -/

namespace Tarka.Messaging

open Tarka.Lib Option

/-- The calls that can raise, in their order. A commit that raises has not taken place. -/
inductive Stage where
  | lock
  | connect
  | beginImmediate
  | insert
  | commit
  | close
  | openJournal
  | write
  | flush
  | fsync
  | unlock
  deriving DecidableEq

def stages : List Stage :=
  [.lock, .connect, .beginImmediate, .insert, .commit, .close, .openJournal, .write, .flush, .fsync,
    .unlock]

/-- The buffer, and the insert of an open transaction. -/
structure Session where
  buffer : State
  pending : Option Row

def Session.row (x : Session) (m : Message) : Row :=
  ⟨x.buffer.lastId + 1, m.subject, m.payload, m.delivery.value, false⟩

def Stage.effect (m : Message) (x : Session) : Stage → Session
  | insert => { x with pending := some (x.row m) }
  | commit =>
    { buffer := { x.buffer with
        rows := x.buffer.rows ++ x.pending.toList
        lastId := x.buffer.lastId + x.pending.toList.length }
      pending := none }
  | fsync => { x with buffer.journal := x.buffer.journal ++ journalRecord m.subject m.payload }
  | _ => x

/-- What a call leaves that raises: an open transaction is rolled back, and of the record of the
journal some bytes may be written. -/
def Stage.failed (m : Message) (torn : Nat) (x : Session) : Stage → State
  | write | flush | fsync =>
    { x.buffer with
      journal := x.buffer.journal ++ (journalRecord m.subject m.payload).take torn }
  | _ => x.buffer

section

variable (m : Message) (fault : Option Stage) (torn : Nat)

/-- Whether the stages raise, and the buffer after them. -/
def runStages : List Stage → Session → Bool × State
  | [], x =>
    (false, { x.buffer with accepted := x.buffer.accepted ++ [(x.buffer.lastId, m)] })
  | stage :: rest, x =>
    if fault = some stage then (true, stage.failed m torn x)
    else runStages rest (stage.effect m x)

/-- `EphemeralDiskBufferBroker.publish`. -/
def publish (closed : Bool) (s : State) : Bool × State :=
  if closed || !withinBounds m.subject m.payload then (true, s)
  else runStages m fault torn stages ⟨s, none⟩

end

def Stage.untilCommit : Stage → Bool
  | lock | connect | beginImmediate | insert | commit => true
  | _ => false

variable {m : Message} {fault : Option Stage} {torn : Nat} {closed : Bool} {s : State}

theorem raised_iff : (publish m fault torn closed s).1
    ↔ (closed || !withinBounds m.subject m.payload) ∨ fault.isSome := by
  rw [publish]
  split_ifs with hrefused
  · simp [hrefused]
  · rcases fault with _ | stage
    · simp [hrefused, stages, runStages]
    · cases stage <;> simp [stages, runStages]

theorem rows_publish (hopen : (closed || !withinBounds m.subject m.payload) = false) :
    (publish m fault torn closed s).2.rows
      = s.rows ++ if fault.any Stage.untilCommit then [] else [Session.row ⟨s, none⟩ m] := by
  rw [publish, hopen]
  rcases fault with _ | stage
  · rfl
  · cases stage <;> simp [stages, runStages, Stage.effect, Stage.failed, Stage.untilCommit,
      Session.row]

/-- A publish that raises leaves no row, and whatever becomes of a retry there is at most one. -/
def RaisesClean (m : Message) (fault : Option Stage) (torn : Nat) (closed : Bool) (s : State) :
    Prop :=
  (publish m fault torn closed s).1 = true →
    (publish m fault torn closed s).2.rows = s.rows
    ∧ ∀ fault' torn',
      (publish m fault' torn' closed (publish m fault torn closed s).2).2.rows.length
        ≤ s.rows.length + 1

/-- **A publish that raises leaves nothing** exactly when it is refused or fails until the
commit. -/
theorem raisesClean_iff (m : Message) (fault : Option Stage) (torn : Nat) (closed : Bool)
    (s : State) :
    RaisesClean m fault torn closed s
      ↔ closed = true ∨ withinBounds m.subject m.payload = false
        ∨ fault.all Stage.untilCommit = true := by
  rw [RaisesClean, raised_iff]
  cases hopen : closed || !withinBounds m.subject m.payload with
  | true =>
    have hsame : ∀ fault torn s, publish m fault torn closed s = (true, s) := by
      intro fault torn s
      rw [publish, if_pos hopen]
    have hrefused : closed = true ∨ withinBounds m.subject m.payload = false := by
      simpa using hopen
    simp only [hsame]
    exact iff_of_true (by simp) (hrefused.imp_right Or.inl)
  | false =>
    simp only [rows_publish hopen]
    obtain ⟨rfl, hin⟩ : closed = false ∧ withinBounds m.subject m.payload = true := by
      simpa using hopen
    rcases fault with _ | stage
    · simp
    · cases huntil : stage.untilCommit with
      | true =>
        -- the table is as before, and the retry adds one row or none
        simp only [any_some, huntil, if_true, List.append_nil, true_and, all_some]
        refine iff_of_true (fun _ fault' _ => ?_) (.inr (.inr trivial))
        split_ifs <;> simp
      | false => simp [huntil, hin]

namespace Demo

def order : Message := ⟨"orders", [1], .core⟩

/-- The journal cannot be synced; the caller tries again. -/
def retried : State := (publish order none 0 false (publish order (some .fsync) 0 false .init).2).2

end Demo

open Demo

theorem retry_delivers_twice : (publish order (some .fsync) 0 false .init).1 = true
    ∧ ¬ RaisesClean order (some .fsync) 0 false .init
    ∧ ((Steps.run bufferStep retried [.replay 10, .list, .fetch, .publish true, .mark, .fetch,
        .publish true]).map (fun s => s.delivered.map Prod.snd)) = some [order, order] :=
  ⟨by decide +kernel, fun h => absurd (h (by decide +kernel)).1 (by decide +kernel),
    by decide +kernel⟩

end Tarka.Messaging
