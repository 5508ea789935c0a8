import Deckhand.Store.Schema

namespace Deckhand
open Lib Lib.Txn

def genesisHash : String := String.ofList (List.replicate 64 '0')

/-- The text a link is computed from: the five fields joined with the unit separator. -/
def chainMaterial (sequence : Int) (previousHash occurredAt eventType payloadJson : String) :
    List Char :=
  ['\x1f'].intercalate
    [intText sequence, previousHash.toList, occurredAt.toList, eventType.toList,
      payloadJson.toList]

/-- Keyed when a key is configured, else an unkeyed integrity hash. -/
def Store.chainHash (s : Store) (sequence : Int)
    (previousHash occurredAt eventType payloadJson : String) : String :=
  let material := chainMaterial sequence previousHash occurredAt eventType payloadJson
  match s.auditHmacKey with
  | some key => s.hashlib.hmacSha256 key material
  | none => s.hashlib.sha256 material

def Store.expectedHash (s : Store) (r : AuditRow) : String :=
  s.chainHash r.sequence r.previousHash r.occurredAt r.eventType r.payloadJson

def AuditEvents.previousHash (t : AuditEvents) : String :=
  lastTag AuditRow.eventHash genesisHash t.rows

def Store.appendAudit (s : Store) (o : Oracle) (eventType : String) (payload : Dict) :
    StoreTxn Unit := do
  let db ← read
  let previousHash := db.auditEvents.previousHash
  let occurredAt := (o.auditNow db.auditEvents.counter).isoformat
  -- the placeholder holds the row's place until the sequence is known
  let sequence ← write fun db =>
    match db.auditEvents.insert? occurredAt eventType payload previousHash
      ("pending_" ++ o.pendingUuid db.auditEvents.counter) with
    | some t => .ok (t.counter, { db with auditEvents := t })
    | none => .error (.sqliteError "UNIQUE constraint failed: audit_events.event_hash")
  let eventHash := s.chainHash sequence previousHash occurredAt eventType
    (Json.dumps (.obj payload))
  let _ ← write fun db =>
    match db.auditEvents.setHash? sequence eventHash with
    | some t => .ok (1, { db with auditEvents := t })
    | none => .error (.sqliteError "UNIQUE constraint failed: audit_events.event_hash")
  return ()

/-- One event appended at the end and linked to the one before it; nothing else written. -/
structure Appended (s : Store) (eventType : String) (payload : Dict) (db db' : DB) : Prop where
  jobs : db'.jobs = db.jobs
  confirmations : db'.confirmations = db.confirmations
  counter : db'.auditEvents.counter = db.auditEvents.counter + 1
  row : ∃ r : AuditRow, db'.auditEvents.rows = db.auditEvents.rows ++ [r] ∧
    r.eventType = eventType ∧ r.payload = payload ∧ r.sequence = db.auditEvents.counter + 1 ∧
    r.previousHash = db.auditEvents.previousHash ∧ r.eventHash = s.expectedHash r ∧
    ∃ t : Timestamp, r.occurredAt = t.isoformat

theorem run_appendAudit {s : Store} {o : Oracle} {eventType : String} {payload : Dict}
    {db db' : DB} {u : Unit} (h : (s.appendAudit o eventType payload).run db = .ok (u, db')) :
    Appended s eventType payload db db' := by
  simp only [Store.appendAudit, run_bind, run_read, run_write, run_pure] at h
  obtain ⟨seen, same, ⟨hseen, hsame⟩, sequence, db₁, insert, _, db₂, finalise, -, rfl⟩ := h
  subst seen same
  split at insert
  · rename_i t inserted
    obtain ⟨counter, rows⟩ := AuditEvents.insert?_rows inserted
    obtain ⟨rfl, rfl⟩ : t.counter = sequence ∧ { db with auditEvents := t } = db₁ := by
      simpa using insert
    split at finalise
    · rename_i t' updated
      rw [counter] at updated
      obtain ⟨counter', rows'⟩ := AuditEvents.setHash?_last rows updated
      obtain ⟨-, rfl⟩ : _ ∧ { db with auditEvents := t' } = db' := by simpa using finalise
      exact ⟨rfl, rfl, counter'.trans counter, _, rows', rfl, rfl, rfl, rfl, rfl, _, rfl⟩
    · cases finalise
  · cases insert

/-- The placeholder and the hash of the next event are new, as random and hash values are. -/
structure AuditReady (s : Store) (o : Oracle) (t : AuditEvents) : Prop where
  placeholder : "pending_" ++ o.pendingUuid t.counter ∉ t.rows.map AuditRow.eventHash
  hash : ∀ occurredAt eventType payloadJson,
    s.chainHash (t.counter + 1 : Nat) t.previousHash occurredAt eventType payloadJson ∉
      t.rows.map AuditRow.eventHash

theorem appendAudit_succeeds {s : Store} {o : Oracle} (db : DB)
    (ready : AuditReady s o db.auditEvents) (eventType : String) (payload : Dict) :
    ∃ db', (s.appendAudit o eventType payload).run db = .ok ((), db') := by
  have inserted : ∀ occurredAt previousHash, ∃ t, db.auditEvents.insert? occurredAt eventType
      payload previousHash ("pending_" ++ o.pendingUuid db.auditEvents.counter) = some t := by
    intro occurredAt previousHash
    exact ⟨_, dif_neg ready.placeholder⟩
  obtain ⟨t, ht⟩ := inserted (o.auditNow db.auditEvents.counter).isoformat
    db.auditEvents.previousHash
  obtain ⟨counter, rows⟩ := AuditEvents.insert?_rows ht
  have finalised : ∃ t', t.setHash? t.counter (s.chainHash t.counter db.auditEvents.previousHash
      (o.auditNow db.auditEvents.counter).isoformat eventType (Json.dumps (.obj payload))) =
        some t' := by
    refine ⟨_, dif_neg ?_⟩
    rintro ⟨r, member, other, same⟩
    rw [rows] at member
    rcases List.mem_append.mp member with old | new
    · rw [counter] at same
      exact ready.hash _ _ _ (List.mem_map.mpr ⟨r, old, same⟩)
    · obtain rfl := List.mem_singleton.mp new
      exact other counter.symm
  obtain ⟨t', ht'⟩ := finalised
  refine ⟨{ db with auditEvents := t' }, ?_⟩
  simp only [Store.appendAudit, run_bind, run_read, run_write, run_pure]
  refine ⟨db, db, ⟨rfl, rfl⟩, t.counter, { db with auditEvents := t }, ?_, 1, _, ?_, trivial, rfl⟩
  · rw [ht]
  · rw [ht']

def jobEventTypes : List String :=
  JobState.all.map (fun state => "job." ++ state.value) ++ ["job.reconcile_exhausted"]

def requestEventTypes : List String :=
  ["confirmation.created", "confirmation.rejected", "confirmation.consumed",
    "confirmation.cancelled", "policy.denied"]

theorem mem_jobEventTypes (state : JobState) : "job." ++ state.value ∈ jobEventTypes :=
  List.mem_append_left _ (List.mem_map_of_mem (mem_all state))

theorem eventTypes_clean :
    ∀ eventType ∈ jobEventTypes ++ requestEventTypes, '\x1f' ∉ eventType.toList := by
  decide +kernel

/-- The log is linked from the genesis value on, every event carries the hash the store
computes for it, and types and times hold no separator. -/
structure Linked (s : Store) (rows : List AuditRow) : Prop where
  chained : Chained AuditRow.previousHash AuditRow.eventHash s.expectedHash genesisHash rows
  typed : ∀ r ∈ rows, '\x1f' ∉ r.eventType.toList
  timed : ∀ r ∈ rows, ∃ t : Timestamp, r.occurredAt = t.isoformat

theorem Linked.nil (s : Store) : Linked s [] := ⟨trivial, by simp, by simp⟩

theorem Appended.linked {s : Store} {eventType : String} {payload : Dict} {db db' : DB}
    (h : Appended s eventType payload db db')
    (known : eventType ∈ jobEventTypes ++ requestEventTypes)
    (before : Linked s db.auditEvents.rows) : Linked s db'.auditEvents.rows := by
  obtain ⟨r, rows, rfl, -, -, previous, hash, time⟩ := h.row
  rw [rows]
  refine ⟨chained_snoc.mpr ⟨before.chained, previous, hash⟩, ?_, ?_⟩
  · intro x hx
    rcases List.mem_append.mp hx with hx | hx
    · exact before.typed x hx
    · obtain rfl := List.mem_singleton.mp hx
      exact eventTypes_clean _ known
  · intro x hx
    rcases List.mem_append.mp hx with hx | hx
    · exact before.timed x hx
    · obtain rfl := List.mem_singleton.mp hx
      exact time

theorem Appended.grows {s : Store} {eventType : String} {payload : Dict} {db db' : DB}
    (h : Appended s eventType payload db db') :
    db.auditEvents.rows <+: db'.auditEvents.rows := by
  obtain ⟨r, rows, -⟩ := h.row
  exact ⟨[r], rows.symm⟩

theorem Store.chainHash_hex (s : Store) (sequence : Int)
    (previousHash occurredAt eventType payloadJson : String) :
    (s.chainHash sequence previousHash occurredAt eventType payloadJson).toList.all isHexDigit =
      true := by
  unfold Store.chainHash
  cases s.auditHmacKey with
  | none => exact s.hashlib.sha256Hex _
  | some key => exact s.hashlib.hmacSha256Hex key _

theorem Linked.unhashed {s : Store} {rows : List AuditRow} (h : Linked s rows) {text : String}
    (other : text.toList.all isHexDigit = false) : text ∉ rows.map AuditRow.eventHash := by
  intro member
  obtain ⟨r, hr, rfl⟩ := List.mem_map.mp member
  rw [h.chained.tagged r hr] at other
  exact absurd (s.chainHash_hex ..) (by simpa [Store.expectedHash] using other)

/-- A value of a text column as any writer of the database file can leave it. -/
inductive Cell where
  | text (s : String)
  | blob (bytes : List UInt8)
  | undecodable
  deriving DecidableEq

structure RawAuditRow where
  sequence : Int
  occurredAt : Cell
  eventType : Cell
  payloadJson : Cell
  previousHash : Cell
  eventHash : Cell

def AuditRow.raw (r : AuditRow) : RawAuditRow where
  sequence := r.sequence
  occurredAt := .text r.occurredAt
  eventType := .text r.eventType
  payloadJson := .text r.payloadJson
  previousHash := .text r.previousHash
  eventHash := .text r.eventHash

def RawAuditRow.undecodable (r : RawAuditRow) : Bool :=
  [r.occurredAt, r.eventType, r.payloadJson, r.previousHash, r.eventHash].any (· = .undecodable)

def isAscii (s : String) : Bool := s.toList.all fun c => c.toNat < 128

/-- `hmac.compare_digest` of two texts. -/
def compareDigest (a b : String) : Except StoreExn Bool :=
  if isAscii a && isAscii b then .ok (a == b)
  else .error (.typeError "comparing strings with non-ASCII characters is not supported")

def Store.verifyRows (s : Store) : String → List RawAuditRow → Except StoreExn Bool
  | _, [] => .ok true
  | previousHash, r :: rest =>
    if r.previousHash ≠ .text previousHash then .ok false
    else match r.occurredAt, r.eventType, r.payloadJson with
      | .text occurredAt, .text eventType, .text payloadJson =>
        let expected := s.chainHash r.sequence previousHash occurredAt eventType payloadJson
        match r.eventHash with
        | .text eventHash =>
          match compareDigest expected eventHash with
          | .ok true => s.verifyRows eventHash rest
          | .ok false => .ok false
          | .error x => .error x
        | _ => .error (.typeError "unsupported operand types(s) or combination of types")
      | _, _, _ => .error (.typeError "sequence item: expected str instance, bytes found")

/-- The rows of a table, in sequence order. A text that is not UTF-8 fails the query. -/
def Store.verifyAuditChain (s : Store) (rows : List RawAuditRow) : Except StoreExn Bool :=
  if rows.any RawAuditRow.undecodable then .error (.storeError "Could not decode to UTF-8 column")
  else s.verifyRows genesisHash rows

/-- The probe's row is written inside a savepoint that is rolled back. -/
def auditProbe (o : Oracle) : StoreTxn Unit := do
  let savepoint ← read
  let _ ← write fun db =>
    match db.auditEvents.insert? o.now.isoformat "audit.write_probe" [] genesisHash
      ("probe_" ++ o.uuid) with
    | some t => .ok (t.counter, { db with auditEvents := t })
    | none => .error (.sqliteError "UNIQUE constraint failed: audit_events.event_hash")
  let _ ← write fun _ => .ok (0, savepoint)
  return ()

def Store.auditIsWritable (o : Oracle) (db : DB) : Except StoreExn Bool × DB :=
  match (auditProbe o).atomically id o.fault db with
  | (.ok _, db') => (.ok true, db')
  | (.error (.sqliteError _), db') => (.ok false, db')
  | (.error x, db') => (.error x, db')

theorem auditProbe_run {o : Oracle} {db db' : DB} {u : Unit}
    (h : (auditProbe o).run db = .ok (u, db')) : db' = db := by
  simp only [auditProbe, run_bind, run_read, run_write, run_pure] at h
  obtain ⟨_, _, ⟨rfl, rfl⟩, _, _, -, _, _, rolled, -, rfl⟩ := h
  exact (show _ ∧ _ by simpa using rolled.symm).2

theorem auditIsWritable_ends {s : Store} {o : Oracle} {db : DB} (unfailing : o.fault = none)
    (linked : Linked s db.auditEvents.rows) : Store.auditIsWritable o db = (.ok true, db) := by
  have unlike : ("probe_" ++ o.uuid).toList.all isHexDigit = false := by
    rw [String.toList_append, List.all_append]
    simp [isHexDigit]
  obtain ⟨t, inserted⟩ : ∃ t, db.auditEvents.insert? o.now.isoformat "audit.write_probe" []
      genesisHash ("probe_" ++ o.uuid) = some t := ⟨_, dif_neg (linked.unhashed unlike)⟩
  have probe : (auditProbe o).run db = .ok ((), db) := by
    simp only [auditProbe, run_bind, run_read, run_write, run_pure]
    refine ⟨db, db, ⟨rfl, rfl⟩, t.counter, { db with auditEvents := t }, ?_, 0, db, rfl, trivial,
      rfl⟩
    rw [inserted]
  rw [Store.auditIsWritable, unfailing, atomically_none, probe]

theorem auditIsWritable_frame (o : Oracle) (db : DB) : (Store.auditIsWritable o db).2 = db := by
  have kept : ((auditProbe o).atomically id o.fault db).2 = db := by
    cases run : (auditProbe o).atomically id o.fault db with
    | mk r db' =>
      cases r with
      | ok u => exact auditProbe_run (atomically_ok run)
      | error x => exact atomically_error run
  unfold Store.auditIsWritable
  split <;> simp_all

end Deckhand
