import Deckhand.Store.Confirmations
import Deckhand.Lib.TextTime
import Deckhand.Sample

/-! The timestamp columns are texts, and the queries compare and order texts. They select the
rows, and in the order, that the instants behind the texts would. -/
namespace Deckhand
open Lib

namespace JobRow
variable (r : JobRow)

def createdText : String := Timestamp.isoformat r.createdAt

def updatedText : String := Timestamp.isoformat r.updatedAt

def leaseText : Option String := r.leaseExpiresAt.map Timestamp.isoformat

/-- The instants of a row are ones that a datetime can hold. -/
structure Dated : Prop where
  created : Timestamp.InRange r.createdAt
  updated : Timestamp.InRange r.updatedAt
  lease : ∀ expiry ∈ r.leaseExpiresAt, Timestamp.InRange expiry

end JobRow

namespace DB
variable (db : DB) (rank : JobRow → Nat)

structure Dated : Prop where
  jobs : ∀ r ∈ db.jobs.rows, r.Dated
  confirmations : ∀ r ∈ db.confirmations.rows, Timestamp.InRange r.createdAt

/-- `WHERE state = ? AND (lease_expires_at IS NULL OR lease_expires_at < ?)
ORDER BY created_at LIMIT 1` -/
def nextQueued (now : String) : Option JobRow :=
  (orderByText JobRow.createdText rank
    (db.jobs.rows.filter fun r => r.state = .queued ∧ ∀ expiry ∈ r.leaseText, expiry < now)).head?

/-- `WHERE state IN (?, ?) AND lease_expires_at IS NOT NULL AND lease_expires_at < ?` -/
def lapsedLeases (now : String) : List JobRow :=
  orderBy (fun _ => 0) rank (db.jobs.rows.filter fun r =>
    (r.state = .running ∨ r.state = .verifying) ∧ ∃ expiry ∈ r.leaseText, expiry < now)

/-- `WHERE state = ? AND created_at < ?` -/
def staleQueued (cutoff : String) : List JobRow :=
  orderBy (fun _ => 0) rank
    (db.jobs.rows.filter fun r => r.state = .queued ∧ r.createdText < cutoff)

/-- `WHERE state = ? ORDER BY updated_at LIMIT ?` -/
def inState (state : JobState) (limit : Nat) : List JobRow :=
  (orderByText JobRow.updatedText rank (db.jobs.rows.filter fun r => r.state = state)).take
    (min limit 1000)

/-- `AND used_at IS NULL ORDER BY created_at DESC LIMIT 1` -/
def newestAwaiting (s : Store) (request : ActionRequest) (subject : Subject)
    (rank : ConfirmationRow → Nat) : Option ConfirmationRow :=
  (orderByTextDesc (fun r => Timestamp.isoformat r.createdAt) rank
    (db.confirmations.rows.filter fun r => r.Awaits s request subject)).head?

end DB

section
variable {db : DB} {rank : JobRow → Nat} {r : JobRow} {o : Oracle} {t : Timestamp}

theorem lease_before (dated : r.Dated) (now : Timestamp.InRange t) :
    (∀ expiry ∈ r.leaseText, expiry < Timestamp.isoformat t) ↔
      ∀ expiry ∈ r.leaseExpiresAt, expiry < t := by
  unfold JobRow.leaseText
  cases lease : r.leaseExpiresAt with
  | none => simp
  | some expiry =>
    simp only [Option.map_some, Option.mem_def, Option.some.injEq, forall_eq',
      isoformat_lt_iff (dated.lease expiry lease) now]

theorem lease_over (dated : r.Dated) (now : Timestamp.InRange t) :
    (∃ expiry ∈ r.leaseText, expiry < Timestamp.isoformat t) ↔
      ∃ expiry ∈ r.leaseExpiresAt, expiry < t := by
  unfold JobRow.leaseText
  cases lease : r.leaseExpiresAt with
  | none => simp
  | some expiry =>
    simp only [Option.map_some, Option.mem_def, Option.some.injEq, exists_eq_left',
      isoformat_lt_iff (dated.lease expiry lease) now]

theorem nextQueued_text (dated : db.Dated) (now : Timestamp.InRange o.now) :
    db.nextQueued rank (Timestamp.isoformat o.now) =
      (orderBy JobRow.createdAt rank (db.jobs.rows.filter fun r => r.Claimable o)).head? := by
  have chosen : (db.jobs.rows.filter fun r =>
      r.state = .queued ∧ ∀ expiry ∈ r.leaseText, expiry < Timestamp.isoformat o.now) =
      db.jobs.rows.filter fun r => r.Claimable o := by
    refine List.filter_congr fun r here => ?_
    rw [decide_eq_decide, lease_before (dated.jobs r here) now, JobRow.Claimable]
  rw [DB.nextQueued, chosen]
  congr 1
  refine orderByText_isoformat fun r here => ?_
  exact (dated.jobs r (List.mem_of_mem_filter here)).created

theorem lapsedLeases_text (dated : db.Dated) (now : Timestamp.InRange o.now) :
    db.lapsedLeases rank (Timestamp.isoformat o.now) =
      orderBy (fun _ => 0) rank (db.jobs.rows.filter fun r => r.Lapsed o) := by
  unfold DB.lapsedLeases
  congr 1
  refine List.filter_congr fun r here => ?_
  rw [decide_eq_decide, lease_over (dated.jobs r here) now, JobRow.Lapsed]

theorem staleQueued_text {ttlSeconds : Int} (dated : db.Dated)
    (cutoff : Timestamp.InRange (o.now.addSeconds (-ttlSeconds))) :
    db.staleQueued rank (Timestamp.isoformat (o.now.addSeconds (-ttlSeconds))) =
      orderBy (fun _ => 0) rank (db.jobs.rows.filter fun r => r.Stale o ttlSeconds) := by
  unfold DB.staleQueued
  congr 1
  refine List.filter_congr fun r here => ?_
  rw [decide_eq_decide, JobRow.createdText, isoformat_lt_iff (dated.jobs r here).created cutoff,
    JobRow.Stale]

theorem inState_text (dated : db.Dated) (state : JobState) (limit : Nat) :
    db.inState rank state limit =
      (orderBy JobRow.updatedAt rank (db.jobs.rows.filter fun r => r.state = state)).take
        (min limit 1000) := by
  unfold DB.inState
  congr 1
  refine orderByText_isoformat fun r here => ?_
  exact (dated.jobs r (List.mem_of_mem_filter here)).updated

theorem newestAwaiting_text (dated : db.Dated) (s : Store) (request : ActionRequest)
    (subject : Subject) : db.newestAwaiting s request subject (fun r => o.rank r.id) =
      s.pendingConfirmation o db request subject := by
  unfold DB.newestAwaiting Store.pendingConfirmation
  congr 1
  refine orderByTextDesc_isoformat fun r here => ?_
  exact dated.confirmations r (List.mem_of_mem_filter here)

end

/-- Two datetimes compare as their texts do, so that every query on the timestamp columns selects
what it would select, in the order it would, by comparing the datetimes. -/
theorem texts_order_like_time :
    (∀ a b : Timestamp, Timestamp.InRange a → Timestamp.InRange b →
      (Timestamp.isoformat a < Timestamp.isoformat b ↔ a < b) ∧
      (Timestamp.isoformat a = Timestamp.isoformat b ↔ a = b)) ∧
    ∀ (db : DB) (o : Oracle), db.Dated → Timestamp.InRange o.now →
      db.nextQueued (fun r => o.rank r.id) (Timestamp.isoformat o.now) =
        (orderBy JobRow.createdAt (fun r => o.rank r.id)
          (db.jobs.rows.filter fun r => r.Claimable o)).head? ∧
      db.lapsedLeases (fun r => o.rank r.id) (Timestamp.isoformat o.now) =
        orderBy (fun _ => 0) (fun r => o.rank r.id) (db.jobs.rows.filter fun r => r.Lapsed o) ∧
      (∀ ttlSeconds : Int, Timestamp.InRange (o.now.addSeconds (-ttlSeconds)) →
        db.staleQueued (fun r => o.rank r.id)
            (Timestamp.isoformat (o.now.addSeconds (-ttlSeconds))) =
          orderBy (fun _ => 0) (fun r => o.rank r.id)
            (db.jobs.rows.filter fun r => r.Stale o ttlSeconds)) ∧
      (∀ (state : JobState) (limit : Nat),
        db.inState (fun r => o.rank r.id) state limit =
          (orderBy JobRow.updatedAt (fun r => o.rank r.id)
            (db.jobs.rows.filter fun r => r.state = state)).take (min limit 1000)) ∧
      ∀ (s : Store) (request : ActionRequest) (subject : Subject),
        db.newestAwaiting s request subject (fun r => o.rank r.id) =
          s.pendingConfirmation o db request subject := by
  constructor
  · intro a b ha hb
    exact ⟨isoformat_lt_iff ha hb, isoformat_eq_iff ha hb⟩
  · intro db o dated now
    refine ⟨nextQueued_text dated now, lapsedLeases_text dated now, ?_, ?_, ?_⟩
    · intro ttlSeconds cutoff
      exact staleQueued_text dated cutoff
    · intro state limit
      exact inState_text dated state limit
    · intro s request subject
      exact newestAwaiting_text dated s request subject

namespace Sample

/-- A job queued on a whole second, after one that was queued a microsecond later. -/
def queuedRows : List JobRow :=
  [.queue store { oracle 1786665600 "b" with now := 1786665600000001 } (request keyB) subject,
    .queue store (oracle 1786665600 "a") (request keyA) subject]

theorem queuedRows_ids : (queuedRows.map JobRow.id).Nodup := by decide

theorem queuedRows_keys : (queuedRows.map JobRow.idempotencyKey).Nodup := by decide

def queuedPair : DB := ⟨⟨⟨queuedRows, queuedRows_ids⟩, queuedRows_keys⟩, .empty, .empty⟩

theorem queuedPair_dated : queuedPair.Dated where
  jobs := by
    have instants : ∀ r ∈ queuedRows, Timestamp.InRange r.createdAt ∧
        Timestamp.InRange r.updatedAt ∧ r.leaseExpiresAt = none := by decide
    intro r here
    obtain ⟨created, updated, free⟩ := instants r here
    refine ⟨created, updated, ?_⟩
    rw [free]
    intro expiry none
    cases none
  confirmations := by
    intro r here
    cases here

end Sample

theorem texts_order_like_time_queued :
    Timestamp.isoformat 1786665600000000 < Timestamp.isoformat 1786665600000001 ∧
    (Sample.queuedPair.nextQueued (fun r => (Sample.oracle 1786665601 "c").rank r.id)
      (Timestamp.isoformat (Sample.oracle 1786665601 "c").now)).map JobRow.id = some "job_a" := by
  constructor
  · exact (texts_order_like_time.1 1786665600000000 1786665600000001 (by decide) (by decide)).1.mpr
      (by decide)
  · have select := texts_order_like_time.2 Sample.queuedPair (Sample.oracle 1786665601 "c")
      Sample.queuedPair_dated (by decide)
    rw [select.1]
    decide

end Deckhand
