import Deckhand.Lib.Table
import Deckhand.Lib.Txn
import Deckhand.Lib.Chain
import Deckhand.StateMachine
import Deckhand.Digests

/-! The database: its three tables with their constraints. The constraints are fields, so a table
that breaks one cannot be built and a statement that would break one fails. Columns that hold JSON
text hold what the text reads back as, but for the order of its keys; datetimes are the instants
their ISO texts denote. -/
namespace Deckhand
open Lib

structure JobRow where
  id : String
  idempotencyKey : String
  request : ActionRequest
  requestDigest : String
  subject : Subject
  state : JobState
  leaseOwner : Option String := none
  leaseToken : Option String := none
  leaseExpiresAt : Option Timestamp := none
  reconcileAttempts : Nat := 0
  result : Option Dict := none
  error : Option JobError := none
  createdAt : Timestamp
  updatedAt : Timestamp

/-- The columns no statement assigns after the insertion. -/
def JobRow.identity (r : JobRow) :
    String × String × ActionRequest × String × Subject × Timestamp :=
  (r.id, r.idempotencyKey, r.request, r.requestDigest, r.subject, r.createdAt)

structure ConfirmationRow where
  id : String
  tokenHash : String
  confirmationDigest : String
  subjectName : PyStr
  subjectDevice : PyStr
  control : Option String
  mode : ConfirmationMode
  expectedResponse : Option String
  expiresAt : Timestamp
  usedAt : Option Timestamp := none
  createdAt : Timestamp

def ConfirmationRow.use (now : Timestamp) (r : ConfirmationRow) : ConfirmationRow :=
  { r with usedAt := some now }

theorem ConfirmationRow.use_id (now : Timestamp) (r : ConfirmationRow) : (r.use now).id = r.id :=
  rfl

/-- `payload` is the dict that `payload_json` is the text of. -/
structure AuditRow where
  sequence : Nat
  occurredAt : String
  eventType : String
  payload : Dict
  previousHash : String
  eventHash : String

def AuditRow.payloadJson (r : AuditRow) : String := Json.dumps (.obj r.payload)

structure Jobs extends Table JobRow.id where
  keysUnique : (rows.map JobRow.idempotencyKey).Nodup

namespace Jobs

def empty : Jobs := ⟨Table.empty, List.nodup_nil⟩

def insert? (t : Jobs) (r : JobRow) : Option Jobs :=
  if taken : r.idempotencyKey ∈ t.rows.map JobRow.idempotencyKey then none
  else match found : t.toTable.insert? r with
    | none => none
    | some t' => some ⟨t', by
      rw [(Table.insert?_rows found).1, List.map_append, List.nodup_append]
      refine ⟨t.keysUnique, List.nodup_singleton _, ?_⟩
      rintro a ha b hb rfl
      obtain rfl : a = r.idempotencyKey := by simpa using hb
      exact taken ha⟩

def update (t : Jobs) (id : String) (f : JobRow → JobRow)
    (keeps : ∀ r, (f r).identity = r.identity) : Jobs where
  toTable := t.toTable.update id f fun r => congrArg Prod.fst (keeps r)
  keysUnique := by
    have same : (t.rows.map fun r => if r.id = id then f r else r).map JobRow.idempotencyKey =
        t.rows.map JobRow.idempotencyKey := by
      rw [List.map_map]
      refine List.map_congr_left fun r _ => ?_
      have keepsKey : (f r).idempotencyKey = r.idempotencyKey :=
        congrArg (fun i => i.2.1) (keeps r)
      by_cases h : r.id = id <;> simp [h, keepsKey]
    exact same ▸ t.keysUnique

theorem insert?_table {t t' : Jobs} {r : JobRow} (h : t.insert? r = some t') :
    t.toTable.insert? r = some t'.toTable := by
  unfold insert? at h
  split at h
  · cases h
  · split at h
    · cases h
    · rename_i found
      cases Option.some.inj h
      exact found

theorem key_unique {t : Jobs} {r s : JobRow} (hr : r ∈ t.rows) (hs : s ∈ t.rows)
    (same : r.idempotencyKey = s.idempotencyKey) : r = s :=
  List.inj_on_of_nodup_map t.keysUnique hr hs same

theorem keyed_once {t : Jobs} {r : JobRow} (member : r ∈ t.rows) :
    (t.rows.filter fun s => s.idempotencyKey = r.idempotencyKey) = [r] := by
  have count : (t.rows.map JobRow.idempotencyKey).count r.idempotencyKey = 1 :=
    List.count_eq_one_of_mem t.keysUnique (List.mem_map_of_mem member)
  have one : (t.rows.filter fun s => s.idempotencyKey = r.idempotencyKey).length = 1 := by
    rw [← count, List.count, List.countP_map, List.countP_eq_length_filter]
    rfl
  obtain ⟨s, whole⟩ := List.length_eq_one_iff.mp one
  have among : r ∈ t.rows.filter fun s => s.idempotencyKey = r.idempotencyKey :=
    List.mem_filter.mpr ⟨member, by simp⟩
  rw [whole] at among ⊢
  rw [List.mem_singleton.mp among]

end Jobs

/-- The audit table, in sequence order, with the counter of its AUTOINCREMENT column. -/
structure AuditEvents where
  rows : List AuditRow
  counter : Nat
  ordered : (rows.map AuditRow.sequence).Pairwise (· < ·)
  bounded : ∀ r ∈ rows, r.sequence ≤ counter
  hashesUnique : (rows.map AuditRow.eventHash).Nodup

namespace AuditEvents

def empty : AuditEvents := ⟨[], 0, .nil, by simp, List.nodup_nil⟩

def insert? (t : AuditEvents) (occurredAt eventType : String) (payload : Dict)
    (previousHash eventHash : String) : Option AuditEvents :=
  if taken : eventHash ∈ t.rows.map AuditRow.eventHash then none
  else some {
    rows := t.rows ++ [⟨t.counter + 1, occurredAt, eventType, payload, previousHash, eventHash⟩]
    counter := t.counter + 1
    ordered := by
      rw [List.map_append, List.pairwise_append]
      refine ⟨t.ordered, by simp, ?_⟩
      intro a ha b hb
      obtain ⟨r, hr, rfl⟩ := List.mem_map.mp ha
      obtain rfl : b = t.counter + 1 := by simpa using hb
      exact Nat.lt_succ_of_le (t.bounded r hr)
    bounded := by
      intro r hr
      rcases List.mem_append.mp hr with hr | hr
      · exact Nat.le_succ_of_le (t.bounded r hr)
      · obtain rfl := List.mem_singleton.mp hr
        exact Nat.le_refl _
    hashesUnique := by
      rw [List.map_append, List.nodup_append]
      refine ⟨t.hashesUnique, List.nodup_singleton _, ?_⟩
      rintro a ha b hb rfl
      obtain rfl : a = eventHash := by simpa using hb
      exact taken ha }

/-- `UPDATE audit_events SET event_hash = hash WHERE sequence = sequence` -/
def setHash? (t : AuditEvents) (sequence : Nat) (hash : String) : Option AuditEvents :=
  if taken : ∃ r ∈ t.rows, r.sequence ≠ sequence ∧ r.eventHash = hash then none
  else some {
    rows := t.rows.map fun r => if r.sequence = sequence then { r with eventHash := hash } else r
    counter := t.counter
    ordered := by
      have same : (t.rows.map fun r =>
          if r.sequence = sequence then { r with eventHash := hash } else r).map
            AuditRow.sequence = t.rows.map AuditRow.sequence := by
        rw [List.map_map]
        refine List.map_congr_left fun r _ => ?_
        by_cases h : r.sequence = sequence <;> simp [h]
      exact same ▸ t.ordered
    bounded := by
      intro r hr
      obtain ⟨s, hs, rfl⟩ := List.mem_map.mp hr
      by_cases h : s.sequence = sequence
      · simpa [h] using h ▸ t.bounded s hs
      · simpa [h] using t.bounded s hs
    hashesUnique := by
      have apart := (List.pairwise_map.mp t.ordered).and (List.pairwise_map.mp t.hashesUnique)
      rw [List.map_map, List.Nodup, List.pairwise_map]
      refine apart.imp_of_mem fun {a b} ha hb differ => ?_
      have fresh : ∀ r ∈ t.rows, r.sequence ≠ sequence → r.eventHash ≠ hash :=
        fun r hr other same => taken ⟨r, hr, other, same⟩
      by_cases at_a : a.sequence = sequence <;> by_cases at_b : b.sequence = sequence
      · omega
      · simpa [at_a, at_b] using (fresh b hb at_b).symm
      · simpa [at_a, at_b] using fresh a ha at_a
      · simpa [at_a, at_b] using differ.2 }

theorem insert?_rows {t t' : AuditEvents} {occurredAt eventType : String} {payload : Dict}
    {previousHash eventHash : String}
    (h : t.insert? occurredAt eventType payload previousHash eventHash = some t') :
    t'.counter = t.counter + 1 ∧ t'.rows = t.rows ++
      [⟨t.counter + 1, occurredAt, eventType, payload, previousHash, eventHash⟩] := by
  unfold insert? at h
  split at h
  · cases h
  · cases Option.some.inj h
    exact ⟨rfl, rfl⟩

theorem setHash?_last {t t' : AuditEvents} {old : List AuditRow} {r : AuditRow} {hash : String}
    (rows : t.rows = old ++ [r]) (h : t.setHash? r.sequence hash = some t') :
    t'.counter = t.counter ∧ t'.rows = old ++ [{ r with eventHash := hash }] := by
  unfold setHash? at h
  split at h
  · cases h
  · cases Option.some.inj h
    have before : ∀ x ∈ old, x.sequence ≠ r.sequence := by
      intro x hx
      have ordered := t.ordered
      rw [rows, List.map_append, List.pairwise_append] at ordered
      exact Nat.ne_of_lt (ordered.2.2 _ (List.mem_map_of_mem hx) _ (by simp))
    have kept : (old.map fun x =>
        if x.sequence = r.sequence then { x with eventHash := hash } else x) = old := by
      refine (List.map_congr_left fun x hx => ?_).trans (List.map_id old)
      rw [if_neg (before x hx)]
      rfl
    refine ⟨rfl, ?_⟩
    simp only [rows, List.map_append, kept, List.map_cons, List.map_nil, if_true]

end AuditEvents

structure DB where
  jobs : Jobs
  confirmations : Table ConfirmationRow.id
  auditEvents : AuditEvents

namespace DB

def empty : DB := ⟨.empty, .empty, .empty⟩

def job? (db : DB) (id : String) : Option JobRow := db.jobs.find? id

def confirmation? (db : DB) (id : String) : Option ConfirmationRow := db.confirmations.find? id

/-- `UPDATE jobs SET ... WHERE id = id` -/
def updateJob (db : DB) (id : String) (f : JobRow → JobRow)
    (keeps : ∀ r, (f r).identity = r.identity) : DB :=
  { db with jobs := db.jobs.update id f keeps }

/-- `UPDATE confirmations SET used_at = now WHERE id = id` -/
def useConfirmation (db : DB) (id : String) (now : Timestamp) : DB :=
  { db with
    confirmations := db.confirmations.update id (ConfirmationRow.use now)
      (ConfirmationRow.use_id now) }

theorem job?_updateJob (db : DB) (id j : String) (f : JobRow → JobRow) (keeps) :
    (db.updateJob id f keeps).job? j = if j = id then (db.job? j).map f else db.job? j :=
  Table.find?_update _ id j f fun r => congrArg Prod.fst (keeps r)

theorem confirmation?_useConfirmation (db : DB) (id c : String) (now : Timestamp) :
    (db.useConfirmation id now).confirmation? c = if c = id then
      (db.confirmation? c).map (ConfirmationRow.use now) else db.confirmation? c :=
  Table.find?_update _ id c _ (ConfirmationRow.use_id now)

end DB

/-- A store: the audit key it was configured with, if any. -/
structure Store where
  hashlib : Hashlib
  auditHmacKey : Option String

/-- What one store call takes from outside the database: the clock, the random values, the
order among rows a query leaves tied, and the exception some statement or the commit
raises, if any. -/
structure Oracle where
  now : Timestamp
  uuid : String
  token : String
  auditNow : Nat → Timestamp
  pendingUuid : Nat → String
  rank : String → Nat
  fault : Option (Nat × StoreExn)

abbrev StoreTxn (α : Type) := Txn DB StoreExn α

namespace StoreTxn
open Txn

/-- The driver's exception for a statement that would break a constraint. -/
def constrained (v : Option DB) : Except StoreExn (Nat × DB) :=
  match v with
  | some db => .ok (0, db)
  | none => .error (.sqliteError "UNIQUE constraint failed")

def insertJob (row : JobRow) : StoreTxn Nat :=
  write fun db => constrained ((db.jobs.insert? row).map fun t => { db with jobs := t })

def updateJob (id : String) (f : JobRow → JobRow) (keeps : ∀ r, (f r).identity = r.identity) :
    StoreTxn Nat :=
  write fun db => .ok (1, db.updateJob id f keeps)

def insertConfirmation (row : ConfirmationRow) : StoreTxn Nat :=
  write fun db =>
    constrained ((db.confirmations.insert? row).map fun t => { db with confirmations := t })

def useConfirmation (id : String) (now : Timestamp) : StoreTxn Nat :=
  write fun db => .ok (1, db.useConfirmation id now)

end StoreTxn
end Deckhand
