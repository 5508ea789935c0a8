import Deckhand.Store.Challenge

namespace Deckhand
open Lib Lib.Txn StoreTxn

def AppendsOne (eventType : String) (db db' : DB) (said : Dict → Prop) : Prop :=
  ∃ r, db'.auditEvents.rows = db.auditEvents.rows ++ [r] ∧ r.eventType = eventType ∧ said r.payload

/-- Accepted or rejected, the attempt is in the log. -/
inductive Audited (db : DB) : Except StoreExn Bool × DB → Prop where
  | consumed (db' : DB) :
      AppendsOne "confirmation.consumed" db db' (fun _ => True) → Audited db (.ok true, db')
  | rejected (db' : DB) (reason : String) : db'.confirmations = db.confirmations →
      AppendsOne "confirmation.rejected" db db'
        (fun payload => payload.get? "reason" = some (.str reason)) →
      Audited db (.ok false, db')

theorem Audited.returns {db : DB} {result : Except StoreExn Bool × DB} (h : Audited db result) :
    ∃ v db', result = (.ok v, db') := by
  cases h with
  | consumed db' => exact ⟨true, db', rfl⟩
  | rejected db' => exact ⟨false, db', rfl⟩

/-- Where the typed answer is compared at all, both texts are ASCII. -/
def AnswerComparable (s : Store) (o : Oracle) (request : ActionRequest) (token : String)
    (response : Option String) (row : ConfirmationRow) : Prop :=
  row.tokenHash = s.hashlib.sha256 token.toList → o.now < row.expiresAt →
    row.control = request.context.control → ∀ expected ∈ row.expectedResponse,
      isAscii expected = true ∧ isAscii (response.getD "") = true

section
variable {s : Store} {o : Oracle} {db db' : DB} {request : ActionRequest} {subject : Subject}
  {token : String} {response : Option String} {row : ConfirmationRow}

theorem compareDigest_answers {a b : String} :
    (∃ same, compareDigest a b = .ok same) ↔ isAscii a = true ∧ isAscii b = true := by
  simp only [compareDigest_ok]
  constructor
  · rintro ⟨_, ha, hb, -⟩
    exact ⟨ha, hb⟩
  · rintro ⟨ha, hb⟩
    exact ⟨_, ha, hb, rfl⟩

theorem rejectReason_answers (hashed : isAscii row.tokenHash = true) :
    (∃ reason, confirmationRejectReason (some row) (s.hashlib.sha256 token.toList) request response
      o.now = .ok reason) ↔ AnswerComparable s o request token response row := by
  have compared : compareDigest row.tokenHash (s.hashlib.sha256 token.toList) =
      .ok (row.tokenHash == s.hashlib.sha256 token.toList) :=
    compareDigest_ok.mpr ⟨hashed, sha256_ascii .., rfl⟩
  simp only [confirmationRejectReason, compared, bind, Except.bind, pure, Except.pure,
    AnswerComparable]
  by_cases forged : row.tokenHash = s.hashlib.sha256 token.toList
  · by_cases dead : row.expiresAt ≤ o.now
    · simp [forged, dead, Int.not_lt.mpr dead]
    · by_cases control : row.control = request.context.control
      · simp only [forged, dead, control, Int.not_le.mp dead]
        cases typed : row.expectedResponse with
        | none => simp
        | some expected =>
          have answers := compareDigest_answers (a := expected) (b := response.getD "")
          cases result : compareDigest expected (response.getD "") with
          | error x => simpa [result] using answers
          | ok same =>
            have ascii := answers.mp ⟨same, result⟩
            cases same <;> simpa [result] using ascii
      · simp [forged, dead, control]
  · simp [forged]

/-- The request has a digest, and the subject can be looked for. -/
def Askable (request : ActionRequest) (subject : Subject) : Prop :=
  request.writable = true ∧ subject.encodable = true

theorem run_rejected {reason : String} (askable : Askable request subject)
    (ready : AuditReady s o db.auditEvents)
    (refused : confirmationRejectReason (s.pendingConfirmation o db request subject)
      (s.hashlib.sha256 token.toList) request response o.now = .ok (some reason)) :
    ∃ db', (s.consumeConfirmation o request subject token response).run db = .ok (false, db') ∧
      db'.confirmations = db.confirmations ∧ AppendsOne "confirmation.rejected" db db'
        (fun payload => payload.get? "reason" = some (.str reason)) := by
  obtain ⟨db', append⟩ := appendAudit_succeeds db ready "confirmation.rejected"
    [("confirmation_digest", .str (confirmationDigest s.hashlib request)),
      ("subject", subject.modelDump), ("reason", .str reason)]
  have appended := run_appendAudit append
  obtain ⟨r, rows, type, payload, -⟩ := appended.row
  refine ⟨db', ?_, appended.confirmations, r, rows, type, ?_⟩
  · simp only [Store.consumeConfirmation, run_bind, run_raiseIf, run_read, run_lift]
    refine ⟨(), db, ⟨by simp [askable.1, askable.2], rfl⟩, db, db, ⟨rfl, rfl⟩, some reason, db,
      ⟨refused, rfl⟩, ?_⟩
    simp only [run_bind, run_pure]
    exact ⟨(), db', append, trivial, rfl⟩
  · rw [payload]
    simp

theorem run_consumed (askable : Askable request subject) (ready : AuditReady s o db.auditEvents)
    (picked : s.pendingConfirmation o db request subject = some row)
    (accepted : confirmationRejectReason (some row) (s.hashlib.sha256 token.toList) request response
      o.now = .ok none) :
    ∃ db', (s.consumeConfirmation o request subject token response).run db = .ok (true, db') ∧
      AppendsOne "confirmation.consumed" db db' (fun _ => True) := by
  obtain ⟨db', append⟩ := appendAudit_succeeds (db.useConfirmation row.id o.now) ready
    "confirmation.consumed" [("confirmation_id", .str row.id),
      ("confirmation_digest", .str (confirmationDigest s.hashlib request))]
  obtain ⟨r, rows, type, -⟩ := (run_appendAudit append).row
  refine ⟨db', ?_, r, rows, type, trivial⟩
  simp only [Store.consumeConfirmation, run_bind, run_raiseIf, run_read, run_lift]
  refine ⟨(), db, ⟨by simp [askable.1, askable.2], rfl⟩, db, db, ⟨rfl, rfl⟩, none, db,
      ⟨by rw [picked]; exact accepted, rfl⟩, ?_⟩
  simp only [picked, run_bind, run_useConfirmation, run_pure]
  exact ⟨1, _, ⟨rfl, rfl⟩, (), db', append, trivial, rfl⟩

theorem run_verdict {v : Bool}
    (ended : (s.consumeConfirmation o request subject token response).run db = .ok (v, db')) :
    Askable request subject ∧
      ∃ reason, confirmationRejectReason (s.pendingConfirmation o db request subject)
        (s.hashlib.sha256 token.toList) request response o.now = .ok reason := by
  simp only [Store.consumeConfirmation, run_bind, run_raiseIf, run_read, run_lift] at ended
  obtain ⟨_, _, ⟨written, rfl⟩, _, _, ⟨rfl, rfl⟩, reason, _, ⟨verdict, -⟩, -⟩ := ended
  exact ⟨by simpa [Askable] using written, reason, verdict⟩

theorem UseStep.hashed {c : String} {op : StoreOp} {r : Except StoreExn op.Value} {u u' : Usage}
    (h : UseStep s o c op r u u') (before : ∀ row, u.row = some row →
      isAscii row.tokenHash = true) :
    ∀ row, u'.row = some row → isAscii row.tokenHash = true := by
  cases h with
  | same => exact before
  | issued =>
    rintro _ ⟨⟩
    exact sha256_ascii ..
  | consumed _ _ _ _ row =>
    rintro _ ⟨⟩
    exact before row rfl
  | cancelled _ row =>
    rintro _ ⟨⟩
    exact before row rfl

theorem trace_hashed {log : List StoreEvent} (run : Trace s.sem DB.empty log db) (c : String) :
    ∀ row, db.confirmation? c = some row → isAscii row.tokenHash = true :=
  run.stable (P := fun db => ∀ row, (db.usage c).row = some row → isAscii row.tokenHash = true)
    (fun _ _ valid before => ((run_step valid).uses c).hashed before)
    (by simp [DB.usage, DB.confirmation?, DB.empty])

end

/-- With a database that works, an attempt is in the audit log exactly when its digest and its
query can be made and no texts that `compare_digest` refuses are compared. -/
theorem attempt_audited_iff (s : Store) (o : Oracle) (log : List StoreEvent) (db : DB)
    (request : ActionRequest) (subject : Subject) (token : String) (response : Option String)
    (run : Trace s.sem DB.empty log db) (healthy : o.fault = none)
    (ready : AuditReady s o db.auditEvents) :
    Audited db ((StoreOp.consumeConfirmation request subject token response).run s o db) ↔
      Askable request subject ∧ ∀ row, s.pendingConfirmation o db request subject = some row →
        AnswerComparable s o request token response row := by
  have returns : ∀ {v db'}, (s.consumeConfirmation o request subject token response).run db =
      .ok (v, db') → (StoreOp.consumeConfirmation request subject token response).run s o db =
        (.ok v, db') := by
    intro v db' ended
    simp only [StoreOp.run, connect, healthy, atomically_none, ended]
  constructor
  · intro audited
    obtain ⟨v, db', ended⟩ := audited.returns
    obtain ⟨askable, reason, verdict⟩ := run_verdict (atomically_ok ended)
    refine ⟨askable, fun row picked => ?_⟩
    have hashed := trace_hashed run row.id row (pendingConfirmation_some picked).1
    rw [picked] at verdict
    exact (rejectReason_answers hashed).mp ⟨reason, verdict⟩
  · rintro ⟨askable, comparable⟩
    have answers : ∃ reason, confirmationRejectReason (s.pendingConfirmation o db request subject)
        (s.hashlib.sha256 token.toList) request response o.now = .ok reason := by
      cases picked : s.pendingConfirmation o db request subject with
      | none => exact ⟨_, rfl⟩
      | some row =>
        have hashed := trace_hashed run row.id row (pendingConfirmation_some picked).1
        exact (rejectReason_answers hashed).mpr (comparable row picked)
    obtain ⟨reason, verdict⟩ := answers
    cases reason with
    | some reason =>
      obtain ⟨db', ended, kept, appended⟩ := run_rejected askable ready verdict
      rw [returns ended]
      exact .rejected db' reason kept appended
    | none =>
      cases picked : s.pendingConfirmation o db request subject with
      | none =>
        rw [picked] at verdict
        cases verdict
      | some row =>
        rw [picked] at verdict
        obtain ⟨db', ended, appended⟩ := run_consumed askable ready picked verdict
        rw [returns ended]
        exact .consumed db' appended

namespace Sample

/-- A challenge that is answered with the target's id. -/
abbrev typedOp : StoreOp := .createConfirmation (request keyA) subject .typed "" 60

def typed : DB := (typedOp.run store (oracle 1 "a") DB.empty).2

theorem typed_trace : Trace store.sem DB.empty
    [⟨0, typedOp, DB.empty, oracle 1 "a",
      .ok ⟨"confirm_a", tokenAt 1, .typed, 61000000, ""⟩, typed⟩] typed := by
  have answer : (typedOp.run store (oracle 1 "a") DB.empty).1 =
      .ok ⟨"confirm_a", tokenAt 1, .typed, 61000000, ""⟩ := by decide +kernel
  exact .snoc [] _ .nil (Prod.ext answer rfl)

theorem typed_ready : AuditReady store (oracle 2 "b") typed.auditEvents :=
  linked_ready (trace_linked typed_trace) _

/-- The right token with an answer that is not ASCII. -/
abbrev answerOp : StoreOp := .consumeConfirmation (request keyA) subject (tokenAt 1) (some "älpha")

end Sample

open Sample in
theorem attempt_audited_iff_typed :
    Audited typed ((StoreOp.consumeConfirmation (request keyA) subject (tokenAt 1)
      (some "alpha")).run store (oracle 2 "b") typed) ↔
    Askable (request keyA) subject ∧
    ∀ row, store.pendingConfirmation (oracle 2 "b") typed (request keyA) subject = some row →
      AnswerComparable store (oracle 2 "b") (request keyA) (tokenAt 1) (some "alpha") row :=
  attempt_audited_iff store (oracle 2 "b") _ typed (request keyA) subject (tokenAt 1) (some "alpha")
    typed_trace rfl typed_ready

open Sample in
/-- It raises, and the attempt is nowhere in the log. -/
theorem attempt_unaudited : ¬ ∀ (s : Store) (o : Oracle) (log : List StoreEvent) (db : DB)
    (request : ActionRequest) (subject : Subject) (token : String) (response : Option String),
    Trace s.sem DB.empty log db → o.fault = none → AuditReady s o db.auditEvents →
    Audited db ((StoreOp.consumeConfirmation request subject token response).run s o db) := by
  intro audited
  obtain ⟨v, db', ended⟩ := (audited store (oracle 2 "b") _ typed (request keyA) subject (tokenAt 1)
    (some "älpha") typed_trace rfl typed_ready).returns
  have raised : (answerOp.run store (oracle 2 "b") typed).1.toBool = false := by decide +kernel
  rw [ended] at raised
  cases raised

end Deckhand
