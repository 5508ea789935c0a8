import Deckhand.Feed
import Deckhand.Store.Progress

/-! The bounded catch-up, `event_source` with `once`: it polls a single time, so that it drains
the log where what is due fits into one batch. -/
namespace Deckhand
open Lib

def FeedPhase.isClosed : FeedPhase → Bool
  | .closed => true
  | _ => false

theorem isClosed_iff {phase : FeedPhase} : phase.isClosed = true ↔ phase = .closed := by
  cases phase <;> simp [FeedPhase.isClosed]

def FeedOp.steps : FeedOp → Bool
  | .poll | .deliver | .wake => true
  | _ => false

def FeedOp.answered : (op : FeedOp) → op.Ret → Bool
  | .disconnect, _ => false
  | .poll, .error _ => false
  | _, _ => true

def Attended (log : List FeedEvent) : Prop := (log.all fun e => e.op.answered e.ret) = true

/-- Every event that was due at the start is sent, in order and exactly once. -/
structure Served.Drained (a : Nat) (db : DB) (w : Served) : Prop where
  all : (beyond AuditRow.sequence a db.auditEvents.rows).Sublist w.feed.emitted
  once : (w.feed.emitted.map AuditRow.sequence).Pairwise (· < ·)

/-- The deliveries that the loop has before it, and the poll. -/
def Feed.left (f : Feed) : Nat :=
  match f.phase with
  | .polling => 101
  | .sending _ _ rest => rest.length + 1
  | _ => 0

/-- A feed that has polled sends one batch and no other. -/
structure Feed.Sends (batch : List AuditRow) (f : Feed) : Prop where
  phase : f.phase = .closed ∨ ∃ batch event rest, f.phase = .sending batch event rest
  whole : f.emitted ++ f.pending = batch

/-- Where a catch-up is that started at `a` when the database was `db`. -/
structure Served.CatchesUp (a : Nat) (db : DB) (w : Served) : Prop where
  grows : db.auditEvents.rows <+: w.db.auditEvents.rows
  stage : w.feed = .start a ∨ ∃ rows : List AuditRow, db.auditEvents.rows <+: rows ∧
    (rows.map AuditRow.sequence).Pairwise (· < ·) ∧
    w.feed.Sends ((beyond AuditRow.sequence a rows).take 100)

section Step
variable {s : Store} {a : Nat} {db : DB} {w w' : Served}

theorem forEach_once (batch rest : List AuditRow) (f : Feed) :
    ((FeedKind.eventSource true).forEach batch rest f).Sends (f.emitted ++ rest) ∧
      ((FeedKind.eventSource true).forEach batch rest f).left = rest.length := by
  obtain ⟨emitted, pending, -⟩ := forEach_frame (.eventSource true) batch rest f
  constructor
  · constructor
    · cases rest with
      | nil => exact .inl rfl
      | cons event rest => exact .inr ⟨batch, event, rest, rfl⟩
    · rw [emitted, pending]
  · cases rest with
    | nil => rfl
    | cons event rest => rfl

theorem catch_up_moves {batch : List AuditRow} {f f' : Feed} (sends : f.Sends batch)
    (moved : f.deliver (.eventSource true) = some f') : f'.Sends batch ∧ f'.left < f.left := by
  rcases deliver_cases moved with ⟨whole, event, rest, sending, rfl⟩ | ⟨pinging, -⟩
  · obtain ⟨next, left⟩ := forEach_once whole rest
      { f with sent := f.sent ++ [.event event], idle := 0 }
    have sent : Feed.emitted { f with sent := f.sent ++ [.event event], idle := 0 } =
        f.emitted ++ [event] := by
      simp [Feed.emitted, Chunk.event?]
    have pending : f.pending = event :: rest := by rw [Feed.pending, sending]
    have before : f.left = rest.length + 1 := by rw [Feed.left, sending]
    constructor
    · have split := sends.whole
      rw [pending, List.append_cons] at split
      rw [sent, split] at next
      exact next
    · rw [left, before]
      exact Nat.lt_succ_self _
  · rcases sends.phase with closed | ⟨batch, event, rest, sending⟩
    · simp [pinging] at closed
    · simp [pinging] at sending

theorem Feed.Sends.polled {f : Feed} {batch : List AuditRow} (sends : f.Sends batch) :
    f.phase ≠ .polling ∧ f.phase ≠ .sleeping := by
  rcases sends.phase with closed | ⟨whole, event, rest, sending⟩
  · simp [closed]
  · simp [sending]

theorem catch_up_step {op : FeedOp} {note : op.Note} {r : op.Ret}
    (h : op.run s (.eventSource true) note w = some (r, w')) (answered : op.answered r = true)
    (before : w.CatchesUp a db) :
    w'.CatchesUp a db ∧ w'.feed.left + (if op.steps then 1 else 0) ≤ w.feed.left := by
  cases op with
  | call op =>
    obtain ⟨-, rfl⟩ := Prod.mk.inj (Option.some.inj h)
    have step := run_step (Eq.refl (op.run s note w.db))
    exact ⟨⟨before.grows.trans step.grows, before.stage⟩, le_refl _⟩
  | poll =>
    obtain ⟨polling, same, ⟨x, rfl, -⟩ | ⟨-, taken⟩⟩ := poll_cases h
    · cases answered
    · rcases before.stage with start | ⟨rows, -, -, sends⟩
      · have cursor : w.feed.cursor = a := by
          rw [start]
          rfl
        have unsent : w.feed.emitted = [] := by
          rw [start]
          rfl
        have room : w.feed.left = 101 := by rw [Feed.left, polling]
        rw [cursor] at taken
        obtain ⟨next, left⟩ := forEach_once
          ((beyond AuditRow.sequence a w.db.auditEvents.rows).take 100)
          ((beyond AuditRow.sequence a w.db.auditEvents.rows).take 100) w.feed
        rw [unsent, List.nil_append, ← taken] at next
        rw [← taken, List.length_take] at left
        constructor
        · constructor
          · rw [same]
            exact before.grows
          · exact .inr ⟨_, before.grows, w.db.auditEvents.ordered, next⟩
        · rw [left, room]
          simp only [FeedOp.steps, if_true]
          omega
      · exact absurd polling sends.polled.1
  | deliver =>
    obtain ⟨f, moved, same⟩ := Option.map_eq_some_iff.mp h
    obtain ⟨-, rfl⟩ := Prod.mk.inj same
    rcases before.stage with start | ⟨rows, grows, ordered, sends⟩
    · rw [start] at moved
      cases moved
    · obtain ⟨next, less⟩ := catch_up_moves sends moved
      exact ⟨⟨before.grows, .inr ⟨rows, grows, ordered, next⟩⟩, less⟩
  | wake =>
    obtain ⟨f, woken, -⟩ := Option.map_eq_some_iff.mp h
    obtain ⟨sleeping, -⟩ := wake_cases woken
    rcases before.stage with start | ⟨rows, -, -, sends⟩
    · rw [start] at sleeping
      cases sleeping
    · exact absurd sleeping sends.polled.2
  | disconnect => cases answered

end Step

section Run
variable {s : Store} {a : Nat} {db : DB} {w : Served} {log : List FeedEvent}

theorem catch_up_run (run : Trace (feedSem s (.eventSource true)) ⟨db, .start a⟩ log w)
    (attended : Attended log) :
    w.CatchesUp a db ∧ w.feed.left + log.countP (fun e => e.op.steps) ≤ 101 := by
  induction run with
  | nil => exact ⟨⟨List.prefix_rfl, .inl rfl⟩, le_refl _⟩
  | snoc log e _ valid ih =>
    rw [Attended, List.all_append, Bool.and_eq_true, List.all_cons, List.all_nil,
      Bool.and_true] at attended
    obtain ⟨now, bound⟩ := ih attended.1
    obtain ⟨next, less⟩ := catch_up_step valid attended.2 now
    refine ⟨next, ?_⟩
    rw [List.countP_append, List.countP_singleton]
    omega

theorem catch_up_goes (o : Oracle) (unfailing : o.fault = none) (here : w.CatchesUp a db)
    (opened : w.feed.phase ≠ .closed) : ∃ (op : FeedOp) (note : op.Note) (r : op.Ret) (w' : Served),
      op.steps = true ∧ op.answered r = true ∧
        op.run s (.eventSource true) note w = some (r, w') := by
  rcases here.stage with start | ⟨rows, -, -, sends⟩
  · generalize read : (beyond AuditRow.sequence w.feed.cursor w.db.auditEvents.rows).take 100 =
      batch
    have answer : StoreOp.run s o (.listAuditEvents w.feed.cursor 100) w.db =
        (.ok batch, w.db) := by
      rw [← read]
      exact connect_ends unfailing rfl
    have polling : w.feed.phase = .polling := by
      rw [start]
      rfl
    have polled : w.poll s (.eventSource true) o = some (.ok batch,
        ⟨w.db, (FeedKind.eventSource true).forEach batch batch w.feed⟩) := by
      rw [Served.poll, polling]
      dsimp only
      rw [answer]
    exact ⟨.poll, o, .ok batch, _, rfl, rfl, polled⟩
  · rcases sends.phase with closed | ⟨batch, event, rest, sending⟩
    · exact absurd closed opened
    · obtain ⟨f, sent⟩ : ∃ f, w.feed.deliver (.eventSource true) = some f := by
        rw [Feed.deliver, sending]
        exact ⟨_, rfl⟩
      exact ⟨.deliver, (), (), _, rfl, rfl, Option.map_eq_some_iff.mpr ⟨f, sent, rfl⟩⟩

end Run

namespace Sample

def denials (n : Nat) : DB :=
  replayed (fun op o db => StoreOp.run store o op db) DB.empty
    (List.replicate n ⟨.recordPolicyDenial (request keyA) subject "plan" "no", oracle 1 "a"⟩)

def caughtUp (n : Nat) : Option (List FeedEvent × Served) :=
  attempt (FeedOp.run store (.eventSource true)) ⟨denials n, .start 0⟩
    (⟨.poll, oracle 2 "b"⟩ :: List.replicate (min n 100) ⟨.deliver, ()⟩)

/-- Whether the run was attended and came to its end, and how many events it sent of how
many that were due. -/
def caughtUpCounts (n : Nat) : Option (Bool × Bool × Nat × Nat) :=
  (caughtUp n).map fun run => (run.1.all fun e => e.op.answered e.ret, run.2.feed.phase.isClosed,
    run.2.feed.emitted.length, (beyond AuditRow.sequence 0 (denials n).auditEvents.rows).length)

theorem caughtUp_run {n sent due : Nat} (h : caughtUpCounts n = some (true, true, sent, due)) :
    ∃ log w, Trace (feedSem store (.eventSource true)) ⟨denials n, .start 0⟩ log w ∧
      Attended log ∧ w.feed.phase = .closed ∧ w.feed.emitted.length = sent ∧
      (beyond AuditRow.sequence 0 (denials n).auditEvents.rows).length = due := by
  obtain ⟨⟨log, w⟩, run, facts⟩ := Option.map_eq_some_iff.mp h
  obtain ⟨attended, rest⟩ := Prod.mk.inj facts
  obtain ⟨closed, counts⟩ := Prod.mk.inj rest
  obtain ⟨emitted, length⟩ := Prod.mk.inj counts
  exact ⟨log, w, attempt_trace run, attended, isClosed_iff.mp closed, emitted, length⟩

theorem caughtUp_over : caughtUpCounts 101 = some (true, true, 100, 101) := by decide +kernel

theorem caughtUp_whole : caughtUpCounts 3 = some (true, true, 3, 3) := by decide +kernel

end Sample

end Deckhand
