import Deckhand.Store.History

namespace Deckhand
open Lib Lib.Txn StoreTxn

/-- What of a confirmation no call changes. -/
def ConfirmationRow.issued (r : ConfirmationRow) : ConfirmationRow := { r with usedAt := none }

theorem UseStep.issued_row {s : Store} {o : Oracle} {c : String} {op : StoreOp}
    {r : Except StoreExn op.Value} {u u' : Usage} (h : UseStep s o c op r u u')
    {row : ConfirmationRow} (here : ∃ now, u.row = some now ∧ now.issued = row.issued) :
    ∃ later, u'.row = some later ∧ later.issued = row.issued := by
  obtain ⟨now, hnow, same⟩ := here
  cases h with
  | same => exact ⟨now, hnow, same⟩
  | issued => cases hnow
  | consumed =>
    cases hnow
    exact ⟨_, rfl, same⟩
  | cancelled =>
    cases hnow
    exact ⟨_, rfl, same⟩

theorem trace_issued {s : Store} {start db : DB} {log : List StoreEvent}
    (run : Trace s.sem start log db) {c : String} {row : ConfirmationRow}
    (here : start.confirmation? c = some row) :
    ∃ later, db.confirmation? c = some later ∧ later.issued = row.issued :=
  run.stable (P := fun db => ∃ later, db.confirmation? c = some later ∧
      later.issued = row.issued)
    (fun _ _ valid before => ((run_step valid).uses c).issued_row before) ⟨row, here, rfl⟩

/-- Confirmation `c` is marked used, and no other one is touched. -/
def ConsumesExactly (c : String) (db db' : DB) : Prop :=
  (∃ row, db'.confirmation? c = some row ∧ row.usedAt.isSome = true) ∧
    ∀ other, other ≠ c → db'.usage other = db.usage other

section
variable {s : Store} {o : Oracle} {db db' : DB} {request : ActionRequest} {subject : Subject}
  {token : String} {response : Option String}

/-- With a database that works, the row that was picked is consumed if it is proved and its
texts can be compared. -/
theorem consumeConfirmation_succeeds {row : ConfirmationRow}
    (written : request.writable = true ∧ subject.encodable = true)
    (healthy : o.fault = none) (ready : AuditReady s o db.auditEvents)
    (picked : s.pendingConfirmation o db request subject = some row)
    (accepted : confirmationRejectReason (some row) (s.hashlib.sha256 token.toList) request
      response o.now = .ok none) :
    ∃ db', (StoreOp.consumeConfirmation request subject token response).run s o db =
      (.ok true, db') := by
  have ready : AuditReady s o (db.useConfirmation row.id o.now).auditEvents := ready
  obtain ⟨db', appended⟩ := appendAudit_succeeds _ ready
    "confirmation.consumed" [("confirmation_id", .str row.id),
      ("confirmation_digest", .str (confirmationDigest s.hashlib request))]
  have run : (s.consumeConfirmation o request subject token response).run db =
      .ok (true, db') := by
    simp only [Store.consumeConfirmation, run_bind, run_raiseIf, run_read, run_lift]
    refine ⟨(), db, ⟨by simp [written], rfl⟩, db, db, ⟨rfl, rfl⟩, none, db,
      ⟨by rw [picked]; exact accepted, rfl⟩, ?_⟩
    simp only [picked, run_bind, run_useConfirmation, run_pure]
    exact ⟨1, _, ⟨rfl, rfl⟩, (), db', appended, trivial, rfl⟩
  refine ⟨db', ?_⟩
  simp only [StoreOp.run, connect, healthy, atomically_none, run]

end

/-- Confirmation `c` comes first, newest before older, among the unused ones for the digest
and the subject. -/
def FirstInLine (s : Store) (o : Oracle) (db : DB) (request : ActionRequest) (subject : Subject)
    (c : String) : Prop :=
  ∃ row, s.pendingConfirmation o db request subject = some row ∧ row.id = c

/-- What a request for the same action must share with the one that was confirmed. -/
structure SameApproval (request request' : ActionRequest) : Prop where
  action : request'.actionId = request.actionId
  version : request'.actionVersion = request.actionVersion
  target : request'.target = request.target
  parameters : request'.parameters = request.parameters
  control : request'.context.control = request.context.control

section Honoured
variable {s : Store} {log : List StoreEvent} {db : DB} {request request' : ActionRequest}
  {subject : Subject} {mode : ConfirmationMode} {prompt : String} {ttlSeconds : Int}
  {o₁ o₂ : Oracle} {response : Option String}

theorem issued_unused (run : Trace s.sem DB.empty log db) {a b : List StoreEvent} {i : Nat}
    {db₁ db₁' : DB} {challenge : ConfirmationChallenge}
    (whole : log = a ++ ⟨i, .createConfirmation request subject mode prompt ttlSeconds, db₁, o₁,
      .ok challenge, db₁'⟩ :: b)
    (unused : db.uses challenge.id = 0) :
    (request.writable = true ∧ subject.encodable = true) ∧
    challenge = ⟨(ConfirmationRow.issue s o₁ request subject mode ttlSeconds).id, o₁.token, mode,
      (ConfirmationRow.issue s o₁ request subject mode ttlSeconds).expiresAt, prompt⟩ ∧
    db.confirmation? challenge.id =
      some (ConfirmationRow.issue s o₁ request subject mode ttlSeconds) := by
  have used := trace_used run challenge.id
  rw [whole] at run
  obtain ⟨-, created, later⟩ := run.split
  obtain ⟨written, answer, -, usage⟩ := createConfirmation_spec (atomically_ok created)
  have here := usage challenge.id
  rw [if_pos (congrArg ConfirmationChallenge.id answer)] at here
  obtain ⟨row, found, same⟩ := trace_issued later (congrArg Usage.row here)
  refine ⟨written, answer, found.trans (congrArg some ?_)⟩
  have fresh : row.usedAt = none := by
    have count : db.uses challenge.id = row.usedAt.isSome.toNat := used.used row found
    rw [unused] at count
    cases h : row.usedAt with
    | none => rfl
    | some t => simp [h] at count
  have kept : row.issued = row := by
    rw [ConfirmationRow.issued, ← fresh]
  exact kept.symm.trans same

theorem issue_proved (same : SameApproval request request')
    (live : o₂.now < o₁.now.addSeconds ttlSeconds)
    (answered : mode = .typed → response = some request.target.id) :
    (ConfirmationRow.issue s o₁ request subject mode ttlSeconds).Proved s o₂ request' o₁.token
      response := by
  refine ⟨rfl, live, same.control.symm, ?_⟩
  intro expected member
  by_cases typed : mode = .typed
  · obtain rfl : request.target.id = expected := by
      simpa [ConfirmationRow.issue, typed] using member
    rw [answered typed]
    rfl
  · simp [ConfirmationRow.issue, typed] at member

theorem issue_ascii :
    (∀ expected ∈ (ConfirmationRow.issue s o₁ request subject mode ttlSeconds).expectedResponse,
      isAscii expected = true) ↔ (mode = .typed → isAscii request.target.id = true) := by
  by_cases typed : mode = .typed <;> simp [ConfirmationRow.issue, typed]

theorem honoured_iff {o : Oracle} {db' : DB} {token : String} {r : Except StoreExn Bool}
    {issued : ConfirmationRow} (current : db.confirmation? issued.id = some issued)
    (fresh : issued.usedAt = none) (hashed : isAscii issued.tokenHash = true)
    (proved : issued.Proved s o request' token response)
    (written : request'.writable = true ∧ subject.encodable = true) (healthy : o.fault = none)
    (ready : AuditReady s o db.auditEvents)
    (valid : (StoreOp.consumeConfirmation request' subject token response).run s o db =
      (r, db')) :
    (r = .ok true ∧ ConsumesExactly issued.id db db') ↔
      FirstInLine s o db request' subject issued.id ∧
        ∀ expected ∈ issued.expectedResponse, isAscii expected = true := by
  have first : ∀ row, s.pendingConfirmation o db request' subject = some row →
      row.id = issued.id → row = issued := by
    intro row picked same
    have found := (pendingConfirmation_some picked).1
    rw [same, current] at found
    exact (Option.some.inj found).symm
  constructor
  · rintro ⟨rfl, ⟨row', used, marked⟩, -⟩
    rcases consumeConfirmation_spec (atomically_ok valid) with
      ⟨refused, _⟩ | ⟨row, picked, accepted, -, usage⟩
    · cases refused
    · have same : row.id = issued.id := by
        by_contra other
        have untouched := congrArg Usage.row (usage issued.id)
        rw [if_neg fun h => other h.symm] at untouched
        have kept : db'.confirmation? issued.id = some issued := untouched.trans current
        obtain rfl : issued = row' := Option.some.inj (kept.symm.trans used)
        simp [fresh] at marked
      obtain rfl := first row picked same
      exact ⟨⟨row, picked, rfl⟩, ((rejectReason_none hashed).mp accepted).2⟩
  · rintro ⟨⟨row, picked, same⟩, ascii⟩
    obtain rfl := first row picked same
    have accepted := (rejectReason_none hashed).mpr ⟨proved, ascii⟩
    obtain ⟨db'', run⟩ := consumeConfirmation_succeeds written healthy ready picked accepted
    obtain ⟨rfl, rfl⟩ := Prod.mk.inj (valid.symm.trans run)
    rcases consumeConfirmation_spec (atomically_ok valid) with
      ⟨refused, _⟩ | ⟨row', picked', _, _, usage⟩
    · cases refused
    · obtain rfl : row' = row := Option.some.inj (picked'.symm.trans picked)
      refine ⟨rfl, ⟨row'.use o.now, ?_, rfl⟩, fun other differs => ?_⟩
      · have here := congrArg Usage.row (usage row'.id)
        rwa [if_pos rfl] at here
      · rw [usage, if_neg differs]

end Honoured

/-- A live confirmation whose token is presented for the same action is honoured exactly when
it is the first in line and, for a typed one, the target id is ASCII. -/
theorem consume_honours_iff (s : Store) (a b : List StoreEvent) (i k : Nat)
    (request request' : ActionRequest) (subject : Subject) (mode : ConfirmationMode)
    (prompt : String) (ttlSeconds : Int) (challenge : ConfirmationChallenge)
    (response : Option String) (o₁ o₂ : Oracle) (db₁ db₁' db₂ db₂' : DB)
    (r : Except StoreExn Bool)
    (run : Trace s.sem DB.empty
      ((a ++ ⟨i, .createConfirmation request subject mode prompt ttlSeconds, db₁, o₁,
        .ok challenge, db₁'⟩ :: b) ++
        [⟨k, .consumeConfirmation request' subject challenge.token response, db₂, o₂, r, db₂'⟩])
      db₂')
    (same : SameApproval request request')
    (answered : mode = .typed → response = some request.target.id)
    (live : o₂.now < challenge.expiresAt) (unused : db₂.uses challenge.id = 0)
    (healthy : o₂.fault = none) (ready : AuditReady s o₂ db₂.auditEvents) :
    (r = .ok true ∧ ConsumesExactly challenge.id db₂ db₂') ↔
      FirstInLine s o₂ db₂ request' subject challenge.id ∧
        (mode = .typed → isAscii request.target.id = true) := by
  obtain ⟨before, consumed, -⟩ := run.snoc_inv
  obtain ⟨⟨writable, names⟩, rfl, current⟩ := issued_unused before rfl unused
  rw [← issue_ascii]
  have written : request'.writable = true := by
    rw [ActionRequest.writable, same.parameters]
    exact writable
  exact honoured_iff current rfl (sha256_ascii ..) (issue_proved same live answered)
    ⟨written, names⟩ healthy ready consumed

namespace Sample

/-- A challenge, and a newer one for the same action and subject. -/
def older : ConfirmationChallenge := ⟨"confirm_a", tokenAt 1, .confirm, 61000000, ""⟩

def newer : ConfirmationChallenge := ⟨"confirm_b", tokenAt 2, .confirm, 62000000, ""⟩

abbrev issueOp : StoreOp := .createConfirmation (request keyA) subject .confirm "" 60

abbrev presentOp (token : String) : StoreOp :=
  .consumeConfirmation (request keyA) subject token none

def challenged : DB := (issueOp.run store (oracle 1 "a") DB.empty).2

def challengedTwice : DB := (issueOp.run store (oracle 2 "b") challenged).2

def issueOlder : StoreEvent := ⟨0, issueOp, DB.empty, oracle 1 "a", .ok older, challenged⟩

def issueNewer : StoreEvent := ⟨0, issueOp, challenged, oracle 2 "b", .ok newer, challengedTwice⟩

theorem challengedTwice_trace :
    Trace store.sem DB.empty [issueOlder, issueNewer] challengedTwice := by
  have first : (issueOp.run store (oracle 1 "a") DB.empty).1 = .ok older := by decide +kernel
  have second : (issueOp.run store (oracle 2 "b") challenged).1 = .ok newer := by decide +kernel
  exact .snoc [issueOlder] issueNewer (.snoc [] issueOlder .nil (Prod.ext first rfl))
    (Prod.ext second rfl)

theorem challengedTwice_ready : AuditReady store (oracle 3 "c") challengedTwice.auditEvents :=
  linked_ready (trace_linked challengedTwice_trace) _

def consumed : DB := ((presentOp (tokenAt 2)).run store (oracle 3 "c") challengedTwice).2

def presentNewer : StoreEvent :=
  ⟨0, presentOp newer.token, challengedTwice, oracle 3 "c", .ok true, consumed⟩

theorem consumed_trace :
    Trace store.sem DB.empty [issueOlder, issueNewer, presentNewer] consumed := by
  have answer : ((presentOp (tokenAt 2)).run store (oracle 3 "c") challengedTwice).1 =
      .ok true := by
    decide +kernel
  exact .snoc [issueOlder, issueNewer] presentNewer challengedTwice_trace (Prod.ext answer rfl)

def refused : DB := ((presentOp (tokenAt 1)).run store (oracle 3 "c") challengedTwice).2

def presentOlder : StoreEvent :=
  ⟨0, presentOp older.token, challengedTwice, oracle 3 "c", .ok false, refused⟩

theorem refused_trace :
    Trace store.sem DB.empty [issueOlder, issueNewer, presentOlder] refused := by
  have answer : ((presentOp (tokenAt 1)).run store (oracle 3 "c") challengedTwice).1 =
      .ok false := by
    decide +kernel
  exact .snoc [issueOlder, issueNewer] presentOlder challengedTwice_trace (Prod.ext answer rfl)

end Sample

open Sample in
theorem consume_honours_iff_newer :
    ((.ok true : Except StoreExn Bool) = .ok true ∧
        ConsumesExactly newer.id challengedTwice consumed) ↔
      FirstInLine store (oracle 3 "c") challengedTwice (request keyA) subject newer.id ∧
        (ConfirmationMode.confirm = .typed → isAscii (request keyA).target.id = true) :=
  consume_honours_iff store [issueOlder] [] 0 0
    (request keyA) (request keyA) subject .confirm "" 60 newer none (oracle 2 "b") (oracle 3 "c")
    challenged challengedTwice challengedTwice consumed (.ok true) consumed_trace
    ⟨rfl, rfl, rfl, rfl, rfl⟩ (by decide) (by decide) (by decide +kernel) rfl
    challengedTwice_ready

open Sample in
/-- A challenge that is live and unused is refused once a newer one is outstanding. -/
theorem older_challenge_refused :
    ¬ ∀ (s : Store) (a b : List StoreEvent) (i k : Nat) (request request' : ActionRequest)
      (subject : Subject) (mode : ConfirmationMode) (prompt : String) (ttlSeconds : Int)
      (challenge : ConfirmationChallenge) (response : Option String) (o₁ o₂ : Oracle)
      (db₁ db₁' db₂ db₂' : DB) (r : Except StoreExn Bool),
      Trace s.sem DB.empty
        ((a ++ ⟨i, .createConfirmation request subject mode prompt ttlSeconds, db₁, o₁,
          .ok challenge, db₁'⟩ :: b) ++
          [⟨k, .consumeConfirmation request' subject challenge.token response, db₂, o₂, r,
            db₂'⟩]) db₂' →
      SameApproval request request' → (mode = .typed → response = some request.target.id) →
      o₂.now < challenge.expiresAt → db₂.uses challenge.id = 0 →
      o₂.fault = none → AuditReady s o₂ db₂.auditEvents →
      r = .ok true ∧ ConsumesExactly challenge.id db₂ db₂' := by
  intro honoured
  have answer := (honoured store [] [issueNewer] 0 0 (request keyA) (request keyA) subject .confirm
    "" 60 older none (oracle 1 "a") (oracle 3 "c") DB.empty challenged challengedTwice refused
      (.ok false)
    refused_trace ⟨rfl, rfl, rfl, rfl, rfl⟩ (by decide) (by decide) (by decide +kernel) rfl
    challengedTwice_ready).1
  cases answer

end Deckhand
