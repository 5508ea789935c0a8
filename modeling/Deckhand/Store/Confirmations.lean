import Deckhand.Store.Life

namespace Deckhand
open Lib Lib.Txn StoreTxn

namespace ConfirmationRow

def issue (s : Store) (o : Oracle) (request : ActionRequest) (subject : Subject)
    (mode : ConfirmationMode) (ttlSeconds : Int) : ConfirmationRow where
  id := "confirm_" ++ o.uuid
  tokenHash := s.hashlib.sha256 o.token.toList
  confirmationDigest := Deckhand.confirmationDigest s.hashlib request
  subjectName := subject.name
  subjectDevice := subject.device
  control := request.context.control
  mode := mode
  expectedResponse := if mode = .typed then some request.target.id else none
  expiresAt := o.now.addSeconds ttlSeconds
  createdAt := o.now

/-- The row is one that consumption looks for. -/
def Awaits (s : Store) (request : ActionRequest) (subject : Subject) (r : ConfirmationRow) : Prop :=
  r.confirmationDigest = Deckhand.confirmationDigest s.hashlib request ∧
    r.subjectName = subject.name ∧ r.subjectDevice = subject.device ∧ r.usedAt = none

instance (s : Store) (request : ActionRequest) (subject : Subject) (r : ConfirmationRow) :
    Decidable (r.Awaits s request subject) :=
  inferInstanceAs (Decidable (_ ∧ _))

/-- What consumption checks on the one row it picked. -/
structure Proved (s : Store) (o : Oracle) (request : ActionRequest) (token : String)
    (response : Option String) (r : ConfirmationRow) : Prop where
  token : r.tokenHash = s.hashlib.sha256 token.toList
  live : o.now < r.expiresAt
  control : r.control = request.context.control
  response : ∀ expected ∈ r.expectedResponse, expected = response.getD ""

end ConfirmationRow

def confirmationRejectReason (row : Option ConfirmationRow) (tokenHash : String)
    (request : ActionRequest) (response : Option String) (now : Timestamp) :
    Except StoreExn (Option String) :=
  match row with
  | none => return some "no_matching_confirmation"
  | some row => do
    if !(← compareDigest row.tokenHash tokenHash) then return some "token_mismatch"
    if row.expiresAt ≤ now then return some "expired"
    -- a confirmation issued for one key cannot be consumed from another
    if row.control ≠ request.context.control then return some "control_mismatch"
    match row.expectedResponse with
    | none => return none
    | some expected =>
      if !(← compareDigest expected (response.getD "")) then
        return some "typed_response_mismatch"
      return none

namespace Store
variable (s : Store) (o : Oracle)

def createConfirmation (request : ActionRequest) (subject : Subject) (mode : ConfirmationMode)
    (prompt : String) (ttlSeconds : Int) : StoreTxn ConfirmationChallenge := do
  raiseIf (request.writable = false ∨ subject.encodable = false) .valueError
  let row := ConfirmationRow.issue s o request subject mode ttlSeconds
  let _ ← insertConfirmation row
  s.appendAudit o "confirmation.created"
    [("confirmation_id", .str row.id), ("confirmation_digest", .str row.confirmationDigest),
      ("mode", .str mode.value), ("control", textOrNull request.context.control)]
  return ⟨row.id, o.token, mode, row.expiresAt, prompt⟩

/-- The newest unused row for the digest and the subject, whatever its token and control. -/
def pendingConfirmation (db : DB) (request : ActionRequest) (subject : Subject) :
    Option ConfirmationRow :=
  (orderBy (fun r => -r.createdAt) (fun r => o.rank r.id)
    (db.confirmations.rows.filter fun r => r.Awaits s request subject)).head?

def consumeConfirmation (request : ActionRequest) (subject : Subject) (token : String)
    (response : Option String) : StoreTxn Bool := do
  raiseIf (request.writable = false ∨ subject.encodable = false) .valueError
  let db ← read
  let digest := confirmationDigest s.hashlib request
  let row := s.pendingConfirmation o db request subject
  let reason ← lift
    (confirmationRejectReason row (s.hashlib.sha256 token.toList) request response o.now)
  match reason, row with
  | some reason, _ =>
    s.appendAudit o "confirmation.rejected"
      [("confirmation_digest", .str digest), ("subject", subject.modelDump),
        ("reason", .str reason)]
    return false
  | none, some row =>
    let _ ← useConfirmation row.id o.now
    s.appendAudit o "confirmation.consumed"
      [("confirmation_id", .str row.id), ("confirmation_digest", .str digest)]
    return true
  | none, none => raise (.typeError "'NoneType' object is not subscriptable")

def cancelConfirmation (confirmationId : String) (subject : Subject) : StoreTxn Bool := do
  raiseIf (subject.encodable = false) .valueError
  let db ← read
  match db.confirmations.rows.find? fun r => r.id = confirmationId ∧
      r.subjectName = subject.name ∧ r.subjectDevice = subject.device ∧ r.usedAt = none with
  | none => return false
  | some _ =>
    let _ ← useConfirmation confirmationId o.now
    s.appendAudit o "confirmation.cancelled"
      [("confirmation_id", .str confirmationId), ("subject", subject.modelDump)]
    return true

def recordPolicyDenial (request : ActionRequest) (subject : Subject) (phase : String)
    (reason : PyStr) : StoreTxn Unit := do
  raiseIf ((Json.obj request.parameters.jsonMode).writable = false) .valueError
  s.appendAudit o "policy.denied"
    [("phase", .str phase), ("action_id", .str request.actionId),
      ("action_version", .int request.actionVersion), ("target", request.target.modelDump),
      ("subject", subject.modelDump),
      ("request_digest", .str (requestDigest s.hashlib request)), ("reason", .str reason)]

end Store

theorem compareDigest_ok {a b : String} {same : Bool} :
    compareDigest a b = .ok same ↔
      isAscii a = true ∧ isAscii b = true ∧ same = (a == b) := by
  unfold compareDigest
  cases isAscii a <;> cases isAscii b <;> simp [eq_comm]

theorem compareDigest_true {a b : String} :
    compareDigest a b = .ok true ↔ a = b ∧ isAscii a = true := by
  rw [compareDigest_ok]
  constructor
  · rintro ⟨ascii, -, same⟩
    exact ⟨by simpa using same.symm, ascii⟩
  · rintro ⟨rfl, ascii⟩
    exact ⟨ascii, ascii, by simp⟩

theorem sha256_ascii (h : Hashlib) (message : List Char) : isAscii (h.sha256 message) = true := by
  refine List.all_eq_true.mpr fun c hc => decide_eq_true ?_
  exact hexDigit_ascii (List.all_eq_true.mp (h.sha256Hex message) c hc)

/-- Nothing is objected to exactly when a row was picked, it is proved, and the texts of the
typed answer could be compared. -/
theorem rejectReason_none {s : Store} {o : Oracle} {request : ActionRequest}
    {token : String} {response : Option String} {row : ConfirmationRow}
    (hashed : isAscii row.tokenHash = true) :
    confirmationRejectReason (some row) (s.hashlib.sha256 token.toList) request response o.now =
        .ok none ↔
      row.Proved s o request token response ∧ ∀ expected ∈ row.expectedResponse,
        isAscii expected = true := by
  have compared : compareDigest row.tokenHash (s.hashlib.sha256 token.toList) =
      .ok (row.tokenHash == s.hashlib.sha256 token.toList) :=
    compareDigest_ok.mpr ⟨hashed, sha256_ascii .., rfl⟩
  simp only [confirmationRejectReason, compared, bind, Except.bind, pure, Except.pure]
  by_cases token_eq : row.tokenHash = s.hashlib.sha256 token.toList
  · by_cases live : row.expiresAt ≤ o.now
    · have dead : ¬ row.Proved s o request token response :=
        fun h => absurd h.live (Int.not_lt.mpr live)
      simp [token_eq, live, dead]
    · by_cases control : row.control = request.context.control
      · have proved : row.Proved s o request token response ↔
            ∀ expected ∈ row.expectedResponse, expected = response.getD "" :=
          ⟨fun h => h.response, fun h => ⟨token_eq, Int.not_le.mp live, control, h⟩⟩
        simp only [token_eq, live, control, proved]
        cases typed : row.expectedResponse with
        | none => simp
        | some expected =>
          have answered := compareDigest_true (a := expected) (b := response.getD "")
          cases compared : compareDigest expected (response.getD "") with
          | error x => simpa [compared] using answered
          | ok same => cases same <;> simpa [compared] using answered
      · have elsewhere : ¬ row.Proved s o request token response := fun h => control h.control
        simp [token_eq, live, control, elsewhere]
  · have forged : ¬ row.Proved s o request token response := fun h => token_eq h.token
    simp [token_eq, forged]

theorem rejectReason_proved {s : Store} {o : Oracle} {request : ActionRequest}
    {token : String} {response : Option String} {row : ConfirmationRow}
    (h : confirmationRejectReason (some row) (s.hashlib.sha256 token.toList) request response
      o.now = .ok none) : row.Proved s o request token response := by
  refine ((rejectReason_none ?_).mp h).1
  cases compared : compareDigest row.tokenHash (s.hashlib.sha256 token.toList) with
  | error x => simp [confirmationRejectReason, compared, bind, Except.bind] at h
  | ok same => exact (compareDigest_ok.mp compared).1

section Spec
variable {s : Store} {o : Oracle} {db db' : DB}

theorem confirmation?_mem {c : String} {r : ConfirmationRow} :
    db.confirmation? c = some r ↔ r ∈ db.confirmations.rows ∧ r.id = c :=
  Table.find?_eq_some

theorem run_useConfirmation {id : String} {now : Timestamp} {n : Nat} :
    (useConfirmation id now).run db = .ok (n, db') ↔
      n = 1 ∧ db' = db.useConfirmation id now := by
  simp only [useConfirmation, run_write, Except.ok.injEq, Prod.mk.injEq]
  tauto

theorem run_use {id eventType : String} {now : Timestamp} {payload : Dict} {u : Unit}
    (type : isUse eventType = true) (named : namedBy payload "confirmation_id" = some (pyStr id))
    (h : (s.appendAudit o eventType payload).run (db.useConfirmation id now) = .ok (u, db'))
    (c : String) :
    db'.usage c = if c = id then
      ⟨(db.confirmation? c).map (ConfirmationRow.use now), db.uses c + 1⟩
      else db.usage c := by
  have appended := run_appendAudit h
  rw [DB.usage, appended.confirmation?, appended.uses, DB.confirmation?_useConfirmation, named,
    type]
  by_cases same : c = id
  · subst same
    simp
  · have other : id ≠ c := fun h => same h.symm
    simp [same, other, DB.usage]

theorem createConfirmation_spec {request : ActionRequest} {subject : Subject}
    {mode : ConfirmationMode} {prompt : String} {ttlSeconds : Int} {v : ConfirmationChallenge}
    (h : (s.createConfirmation o request subject mode prompt ttlSeconds).run db = .ok (v, db')) :
    let row := ConfirmationRow.issue s o request subject mode ttlSeconds
    (request.writable = true ∧ subject.encodable = true) ∧
      v = ⟨row.id, o.token, mode, row.expiresAt, prompt⟩ ∧ db.confirmation? row.id = none ∧
      ∀ c, db'.usage c = if c = row.id then ⟨some row, db.uses c⟩ else db.usage c := by
  simp only [Store.createConfirmation, run_bind, run_raiseIf, run_pure] at h
  obtain ⟨_, db, ⟨written, rfl⟩, _, db₁, insert, _, db₂, append, rfl, rfl⟩ := h
  obtain ⟨t, inserted, rfl⟩ : ∃ t, db.confirmations.insert?
      (ConfirmationRow.issue s o request subject mode ttlSeconds) = some t ∧
        db₁ = { db with confirmations := t } := by
    have insert := run_write.mp insert
    cases found : db.confirmations.insert?
        (ConfirmationRow.issue s o request subject mode ttlSeconds) with
    | none => simp [found, constrained] at insert
    | some t => exact ⟨t, rfl, (show _ ∧ _ by simpa [found, constrained, eq_comm] using insert).2⟩
  refine ⟨by simpa using written, rfl, (Table.insert?_rows inserted).2, fun c => ?_⟩
  rw [(run_appendAudit append).usage_foreign (by decide)]
  have row : DB.confirmation? { db with confirmations := t } c =
      if c = (ConfirmationRow.issue s o request subject mode ttlSeconds).id then
        some (ConfirmationRow.issue s o request subject mode ttlSeconds)
      else db.confirmation? c :=
    Table.find?_insert? inserted c
  rw [DB.usage, row]
  split <;> rfl

theorem pendingConfirmation_some {request : ActionRequest} {subject : Subject}
    {row : ConfirmationRow} (h : s.pendingConfirmation o db request subject = some row) :
    db.confirmation? row.id = some row ∧ row.Awaits s request subject := by
  have member := List.mem_of_mem_head? h
  simp only [mem_orderBy, List.mem_filter, decide_eq_true_eq] at member
  exact ⟨confirmation?_mem.mpr ⟨member.1, rfl⟩, member.2⟩

theorem consumeConfirmation_spec {request : ActionRequest} {subject : Subject} {token : String}
    {response : Option String} {v : Bool}
    (h : (s.consumeConfirmation o request subject token response).run db = .ok (v, db')) :
    (v = false ∧ (∀ c, db'.usage c = db.usage c)) ∨
    ∃ row, s.pendingConfirmation o db request subject = some row ∧
      confirmationRejectReason (some row) (s.hashlib.sha256 token.toList) request response o.now =
        .ok none ∧ v = true ∧
      ∀ c, db'.usage c = if c = row.id then
        ⟨some (row.use o.now), db.uses c + 1⟩ else db.usage c := by
  simp only [Store.consumeConfirmation, run_bind, run_raiseIf, run_read, run_lift] at h
  obtain ⟨_, _, ⟨-, rfl⟩, _, _, ⟨rfl, rfl⟩, reason, _, ⟨checked, rfl⟩, h⟩ := h
  rename_i db
  split at h
  · simp only [run_bind, run_pure] at h
    obtain ⟨_, _, append, rfl, rfl⟩ := h
    exact .inl ⟨rfl, fun c => (run_appendAudit append).usage_foreign (by decide) c⟩
  · rename_i row picked
    simp only [run_bind, run_useConfirmation, run_pure] at h
    obtain ⟨_, _, ⟨-, rfl⟩, _, _, append, rfl, rfl⟩ := h
    have current := (pendingConfirmation_some picked).1
    refine .inr ⟨row, picked, picked ▸ checked, rfl, fun c => ?_⟩
    rw [run_use (by decide) (namedBy_cons ..) append]
    by_cases same : c = row.id
    · simp [same, current]
    · simp [same]
  · simp at h

theorem cancelConfirmation_spec {confirmationId : String} {subject : Subject} {v : Bool}
    (h : (s.cancelConfirmation o confirmationId subject).run db = .ok (v, db')) :
    (v = false ∧ db' = db) ∨
    ∃ row, db.confirmation? confirmationId = some row ∧ row.usedAt = none ∧
      row.subjectName = subject.name ∧ row.subjectDevice = subject.device ∧ v = true ∧
      ∀ c, db'.usage c = if c = confirmationId then
        ⟨some (row.use o.now), db.uses c + 1⟩ else db.usage c := by
  simp only [Store.cancelConfirmation, run_bind, run_raiseIf, run_read] at h
  obtain ⟨_, _, ⟨-, rfl⟩, _, _, ⟨rfl, rfl⟩, h⟩ := h
  rename_i db
  split at h
  · exact .inl (by simpa using h)
  · rename_i row found
    simp only [run_bind, run_useConfirmation, run_pure] at h
    obtain ⟨_, _, ⟨-, rfl⟩, _, _, append, rfl, rfl⟩ := h
    have fits := List.find?_some found
    simp only [decide_eq_true_eq] at fits
    have current : db.confirmation? confirmationId = some row :=
      confirmation?_mem.mpr ⟨List.mem_of_find?_eq_some found, fits.1⟩
    refine .inr ⟨row, current, fits.2.2.2, fits.2.1, fits.2.2.1, rfl, fun c => ?_⟩
    rw [run_use (by decide) (namedBy_cons ..) append]
    by_cases same : c = confirmationId
    · simp [same, current]
    · simp [same]

end Spec

/-! What a confirmation operation leaves alone: the chain stays linked, the log only grows,
and no job changes. -/

structure ConfirmationFrame (s : Store) (start db : DB) : Prop where
  linked : Linked s start.auditEvents.rows → Linked s db.auditEvents.rows
  grows : start.auditEvents.rows <+: db.auditEvents.rows
  life : ∀ j, db.life j = start.life j

section ConfirmationFrame
variable {s : Store} {start : DB}

theorem ConfirmationFrame.refl (s : Store) (db : DB) : ConfirmationFrame s db db :=
  ⟨id, List.prefix_rfl, fun _ => rfl⟩

theorem ConfirmationFrame.of_confirmations {db : DB} (t : Table ConfirmationRow.id)
    (h : ConfirmationFrame s start db) :
    ConfirmationFrame s start { db with confirmations := t } := ⟨h.linked, h.grows, h.life⟩

theorem keeps_appendAudit_confirmation {o : Oracle} {eventType : String} {payload : Dict}
    (known : eventType ∈ requestEventTypes) :
    Keeps (ConfirmationFrame s start) (s.appendAudit o eventType payload) := by
  intro db u db' before h
  have appended := run_appendAudit h
  have foreign := requestEventTypes_jobState? eventType known
  exact ⟨fun link => appended.linked (List.mem_append_right _ known) (before.linked link),
    before.grows.trans appended.grows,
    fun j => (appended.life_foreign foreign j).trans (before.life j)⟩

theorem keeps_write_confirmations {v : DB → Option (Table ConfirmationRow.id)} :
    Keeps (ConfirmationFrame s start)
      (write fun db => constrained ((v db).map fun t => { db with confirmations := t })) := by
  intro db n db' before h
  have h := run_write.mp h
  cases found : v db with
  | none => simp [found, constrained] at h
  | some t =>
    obtain ⟨-, rfl⟩ : _ ∧ { db with confirmations := t } = db' := by
      simpa [found, constrained] using h
    exact before.of_confirmations t

theorem keeps_useConfirmation {id : String} {now : Timestamp} :
    Keeps (ConfirmationFrame s start) (useConfirmation id now) := by
  intro db n db' before h
  obtain ⟨-, rfl⟩ := run_useConfirmation.mp h
  exact before.of_confirmations _

variable {o : Oracle}

theorem createConfirmation_frame (request : ActionRequest) (subject : Subject)
    (mode : ConfirmationMode) (prompt : String) (ttlSeconds : Int) :
    Keeps (ConfirmationFrame s start)
      (s.createConfirmation o request subject mode prompt ttlSeconds) :=
  keeps_bind keeps_raiseIf fun _ => keeps_bind keeps_write_confirmations fun _ =>
    keeps_bind (keeps_appendAudit_confirmation (by decide)) fun _ => keeps_pure

theorem consumeConfirmation_frame (request : ActionRequest) (subject : Subject) (token : String)
    (response : Option String) :
    Keeps (ConfirmationFrame s start)
      (s.consumeConfirmation o request subject token response) := by
  refine keeps_bind keeps_raiseIf fun _ => keeps_bind keeps_read fun _ =>
    keeps_bind keeps_lift fun _ => ?_
  split
  · exact keeps_bind (keeps_appendAudit_confirmation (by decide)) fun _ => keeps_pure
  · exact keeps_bind keeps_useConfirmation fun _ =>
      keeps_bind (keeps_appendAudit_confirmation (by decide)) fun _ => keeps_pure
  · exact keeps_raise

theorem cancelConfirmation_frame (confirmationId : String) (subject : Subject) :
    Keeps (ConfirmationFrame s start) (s.cancelConfirmation o confirmationId subject) := by
  refine keeps_bind keeps_raiseIf fun _ => keeps_bind keeps_read fun _ => ?_
  split
  · exact keeps_pure
  · exact keeps_bind keeps_useConfirmation fun _ =>
      keeps_bind (keeps_appendAudit_confirmation (by decide)) fun _ => keeps_pure

theorem recordPolicyDenial_frame (request : ActionRequest) (subject : Subject)
    (phase : String) (reason : PyStr) :
    Keeps (ConfirmationFrame s start) (s.recordPolicyDenial o request subject phase reason) :=
  keeps_bind keeps_raiseIf fun _ => keeps_appendAudit_confirmation (by decide)

end ConfirmationFrame
end Deckhand
