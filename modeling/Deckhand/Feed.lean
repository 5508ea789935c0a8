import Deckhand.Lib.Cursor
import Deckhand.Store.History

/-! The event feeds: the loops of `event_source` and `ws` over the audit log, beside the calls
that any process makes on the store. -/
namespace Deckhand
open Lib

/-- What a feed sends: an event, or the comment that keeps an idle connection open. -/
inductive Chunk where
  | event (row : AuditRow)
  | keepalive

def Chunk.event? : Chunk → Option AuditRow
  | .event row => some row
  | .keepalive => none

/-- Where the loop stands. While an event is sent, the rest of its batch waits. -/
inductive FeedPhase where
  | polling
  | sending (batch : List AuditRow) (event : AuditRow) (rest : List AuditRow)
  | pinging
  | sleeping
  | closed

structure Feed where
  cursor : Nat
  idle : Nat
  phase : FeedPhase
  sent : List Chunk

namespace Feed

def start (after : Nat) : Feed := ⟨after, 0, .polling, []⟩

def emitted (f : Feed) : List AuditRow := f.sent.filterMap Chunk.event?

def pending (f : Feed) : List AuditRow :=
  match f.phase with
  | .sending _ event rest => event :: rest
  | _ => []

def close (f : Feed) : Feed := { f with phase := .closed }

/-- The loop is past the batch of its last poll. -/
def Rests (f : Feed) : Prop := f.phase = .polling ∨ f.phase = .pinging ∨ f.phase = .sleeping

end Feed

inductive FeedKind where
  | eventSource (once : Bool)
  | ws
  deriving DecidableEq

/-- The part of `event_source` that follows the batch. -/
def eventSourceRest (once : Bool) (batch : List AuditRow) (f : Feed) : Feed :=
  if once then f.close
  else if batch.isEmpty then
    let idle := f.idle + 1
    { f with idle, phase := if idle % 15 = 0 then .pinging else .sleeping }
  else { f with phase := .sleeping }

def wsRest (f : Feed) : Feed := { f with phase := .sleeping }

def FeedKind.rest : FeedKind → List AuditRow → Feed → Feed
  | .eventSource once, batch, f => eventSourceRest once batch f
  | .ws, _, f => wsRest f

/-- The next event of the batch: the cursor moves before the event is sent. -/
def FeedKind.forEach (kind : FeedKind) (batch : List AuditRow) : List AuditRow → Feed → Feed
  | [], f => kind.rest batch f
  | event :: rest, f =>
    { f with cursor := event.sequence, phase := .sending batch event rest }

/-- A call that some process makes on the store, or a step of the feed: a poll, the client's
taking what is sent, the end of the wait, the client's going away. -/
inductive FeedOp where
  | call (op : StoreOp)
  | poll
  | deliver
  | wake
  | disconnect

abbrev FeedOp.Note : FeedOp → Type
  | .call _ | .poll => Oracle
  | _ => Unit

abbrev FeedOp.Ret : FeedOp → Type
  | .call op => Except StoreExn op.Value
  | .poll => Except StoreExn (List AuditRow)
  | _ => Unit

structure Served where
  db : DB
  feed : Feed

def Served.poll (s : Store) (kind : FeedKind) (o : Oracle) (w : Served) :
    Option (Except StoreExn (List AuditRow) × Served) :=
  match w.feed.phase with
  | .polling =>
    match StoreOp.run s o (.listAuditEvents w.feed.cursor 100) w.db with
    | (.ok batch, db) => some (.ok batch, ⟨db, kind.forEach batch batch w.feed⟩)
    | (.error x, db) => some (.error x, ⟨db, w.feed.close⟩)
  | _ => none

def Feed.deliver (kind : FeedKind) (f : Feed) : Option Feed :=
  match f.phase with
  | .sending batch event rest =>
    some (kind.forEach batch rest { f with sent := f.sent ++ [.event event], idle := 0 })
  | .pinging => some { f with sent := f.sent ++ [.keepalive], phase := .sleeping }
  | _ => none

def Feed.wake (f : Feed) : Option Feed :=
  match f.phase with
  | .sleeping => some { f with phase := .polling }
  | _ => none

def FeedOp.run (s : Store) (kind : FeedKind) :
    (op : FeedOp) → op.Note → Served → Option (op.Ret × Served)
  | .call op, o, w => some ((op.run s o w.db).1, { w with db := (op.run s o w.db).2 })
  | .poll, o, w => w.poll s kind o
  | .deliver, _, w => (w.feed.deliver kind).map fun f => ((), { w with feed := f })
  | .wake, _, w => w.feed.wake.map fun f => ((), { w with feed := f })
  | .disconnect, _, w => some ((), { w with feed := w.feed.close })

def feedSem (s : Store) (kind : FeedKind) : Semantics Served FeedOp.Note FeedOp.Ret :=
  fun op w note r w' => op.run s kind note w = some (r, w')

abbrev FeedEvent := Event Served FeedOp.Note FeedOp.Ret

/-- The audit log beyond the place where a feed started. -/
abbrev Served.due (a : Nat) (w : Served) : List AuditRow :=
  beyond AuditRow.sequence a w.db.auditEvents.rows

/-- What a feed that started at `a` has sent and what it is about to send continue one another
in the log, and its cursor is at the last event it took up. -/
structure Served.Follows (a : Nat) (w : Served) : Prop where
  initial : w.feed.emitted ++ w.feed.pending <+: w.due a
  cursor : w.feed.phase ≠ .closed →
    w.feed.cursor = reached AuditRow.sequence a (w.feed.emitted ++ w.feed.pending.take 1)

/-- Nothing that was sent is unsaid, and nothing that was read is dropped while the feed is
open. -/
def Feed.Keeps (f f' : Feed) : Prop :=
  f.emitted <+: f'.emitted ∧
    (f'.phase ≠ .closed → f.emitted ++ f.pending <+: f'.emitted ++ f'.pending)

section Parts
variable {kind : FeedKind} {f : Feed} {batch rest : List AuditRow}

@[simp] theorem emitted_start (a : Nat) : (Feed.start a).emitted = [] := rfl

@[simp] theorem pending_start (a : Nat) : (Feed.start a).pending = [] := rfl

@[simp] theorem emitted_close : f.close.emitted = f.emitted := rfl

@[simp] theorem pending_close : f.close.pending = [] := rfl

theorem Feed.Rests.pending (h : f.Rests) : f.pending = [] := by
  rcases h with h | h | h <;> rw [Feed.pending, h]

theorem Feed.Rests.opened (h : f.Rests) : f.phase ≠ .closed := by
  rcases h with h | h | h <;> simp [h]

theorem rest_frame (kind : FeedKind) (batch : List AuditRow) (f : Feed) :
    (kind.rest batch f).emitted = f.emitted ∧ (kind.rest batch f).pending = [] ∧
      (kind.rest batch f).cursor = f.cursor := by
  cases kind with
  | eventSource once =>
    unfold FeedKind.rest eventSourceRest
    dsimp only
    split
    · exact ⟨rfl, rfl, rfl⟩
    · split
      · refine ⟨rfl, ?_, rfl⟩
        by_cases often : (f.idle + 1) % 15 = 0 <;> simp [Feed.pending, often]
      · exact ⟨rfl, rfl, rfl⟩
  | ws => exact ⟨rfl, rfl, rfl⟩

theorem forEach_frame (kind : FeedKind) (batch rest : List AuditRow) (f : Feed) :
    (kind.forEach batch rest f).emitted = f.emitted ∧
      (kind.forEach batch rest f).pending = rest ∧
      ∀ a, f.cursor = reached AuditRow.sequence a f.emitted →
        (kind.forEach batch rest f).cursor =
          reached AuditRow.sequence a (f.emitted ++ rest.take 1) := by
  cases rest with
  | nil =>
    obtain ⟨emitted, pending, cursor⟩ := rest_frame kind batch f
    refine ⟨emitted, pending, fun a here => ?_⟩
    rw [List.take_nil, List.append_nil, ← here]
    exact cursor
  | cons event rest =>
    refine ⟨rfl, rfl, fun a _ => ?_⟩
    rw [List.take_succ_cons, List.take_zero, reached_concat]
    rfl

end Parts

section Step
variable {s : Store} {kind : FeedKind} {a : Nat} {w w' : Served}

theorem listAuditEvents_returns {o : Oracle} {db db' : DB} {cursor limit : Nat}
    {batch : List AuditRow}
    (h : StoreOp.run s o (.listAuditEvents cursor limit) db = (.ok batch, db')) :
    db' = db ∧ batch = (beyond AuditRow.sequence cursor db.auditEvents.rows).take
      (min limit 1000) := by
  have run := Txn.atomically_ok h
  simp only [Store.listAuditEvents, Txn.run_bind, Txn.run_read, Txn.run_pure] at run
  obtain ⟨_, _, ⟨rfl, rfl⟩, rfl, rfl⟩ := run
  exact ⟨rfl, rfl⟩

/-- A poll reads the log beyond the cursor, a hundred events at most, or it raises and the
feed ends. -/
theorem poll_cases {o : Oracle} {r : Except StoreExn (List AuditRow)}
    (h : w.poll s kind o = some (r, w')) :
    w.feed.phase = .polling ∧ w'.db = w.db ∧
      ((∃ x, r = .error x ∧ w'.feed = w.feed.close) ∨
        r = .ok ((beyond AuditRow.sequence w.feed.cursor w.db.auditEvents.rows).take 100) ∧
        w'.feed = kind.forEach
          ((beyond AuditRow.sequence w.feed.cursor w.db.auditEvents.rows).take 100)
          ((beyond AuditRow.sequence w.feed.cursor w.db.auditEvents.rows).take 100) w.feed) := by
  unfold Served.poll at h
  split at h
  · rename_i polling
    refine ⟨polling, ?_⟩
    split at h
    · rename_i batch db answered
      obtain ⟨rfl, rfl⟩ := Prod.mk.inj (Option.some.inj h)
      obtain ⟨rfl, rfl⟩ := listAuditEvents_returns answered
      exact ⟨rfl, .inr ⟨rfl, rfl⟩⟩
    · rename_i x db raised
      obtain ⟨rfl, rfl⟩ := Prod.mk.inj (Option.some.inj h)
      exact ⟨run_error raised, .inl ⟨x, rfl, rfl⟩⟩
  · cases h

theorem deliver_cases {f f' : Feed} (h : f.deliver kind = some f') :
    (∃ batch event rest, f.phase = .sending batch event rest ∧
      f' = kind.forEach batch rest { f with sent := f.sent ++ [.event event], idle := 0 }) ∨
    f.phase = .pinging ∧ f' = { f with sent := f.sent ++ [.keepalive], phase := .sleeping } := by
  unfold Feed.deliver at h
  split at h
  · rename_i batch event rest sending
    exact .inl ⟨batch, event, rest, sending, (Option.some.inj h).symm⟩
  · rename_i pinging
    exact .inr ⟨pinging, (Option.some.inj h).symm⟩
  · cases h

theorem wake_cases {f f' : Feed} (h : f.wake = some f') :
    f.phase = .sleeping ∧ f' = { f with phase := .polling } := by
  unfold Feed.wake at h
  split at h
  · rename_i sleeping
    exact ⟨sleeping, (Option.some.inj h).symm⟩
  · cases h

theorem feed_cases {op : FeedOp} {note : op.Note} {r : op.Ret}
    (h : op.run s kind note w = some (r, w')) :
    w'.feed = w.feed ∧ w.db.auditEvents.rows <+: w'.db.auditEvents.rows ∨
    w'.db = w.db ∧
      (w'.feed = w.feed.close ∨
        (w.feed.phase = .polling ∧ ∃ batch, w'.feed = kind.forEach batch batch w.feed ∧
          batch = (beyond AuditRow.sequence w.feed.cursor w.db.auditEvents.rows).take 100) ∨
        w.feed.deliver kind = some w'.feed ∨ w.feed.wake = some w'.feed) := by
  cases op with
  | call op =>
    obtain ⟨-, rfl⟩ := Prod.mk.inj (Option.some.inj h)
    have step := run_step (Eq.refl (op.run s note w.db))
    exact .inl ⟨rfl, step.grows⟩
  | poll =>
    obtain ⟨polling, db, ⟨x, -, closed⟩ | ⟨-, taken⟩⟩ := poll_cases h
    · exact .inr ⟨db, .inl closed⟩
    · exact .inr ⟨db, .inr (.inl ⟨polling, _, taken, rfl⟩)⟩
  | deliver =>
    obtain ⟨f, moved, same⟩ := Option.map_eq_some_iff.mp h
    obtain ⟨-, rfl⟩ := Prod.mk.inj same
    exact .inr ⟨rfl, .inr (.inr (.inl moved))⟩
  | wake =>
    obtain ⟨f, moved, same⟩ := Option.map_eq_some_iff.mp h
    obtain ⟨-, rfl⟩ := Prod.mk.inj same
    exact .inr ⟨rfl, .inr (.inr (.inr moved))⟩
  | disconnect =>
    obtain ⟨-, rfl⟩ := Prod.mk.inj (Option.some.inj h)
    exact .inr ⟨rfl, .inl rfl⟩

theorem polling_pending {f : Feed} (h : f.phase = .polling) : f.pending = [] :=
  Feed.Rests.pending (.inl h)

/-- A step of the feed alone that reads nothing: what was pending is sent or still pending. -/
structure Feed.Moves (a : Nat) (f f' : Feed) : Prop where
  opened : f.phase ≠ .closed
  read : f'.emitted ++ f'.pending = f.emitted ++ f.pending
  grows : f.emitted <+: f'.emitted
  cursor : f.cursor = reached AuditRow.sequence a (f.emitted ++ f.pending.take 1) →
    f'.cursor = reached AuditRow.sequence a (f'.emitted ++ f'.pending.take 1)

theorem deliver_moves {f f' : Feed} (h : f.deliver kind = some f') : f.Moves a f' := by
  rcases deliver_cases h with ⟨batch, event, rest, sending, rfl⟩ | ⟨pinging, rfl⟩
  · have pending : f.pending = event :: rest := by rw [Feed.pending, sending]
    generalize between : ({ f with sent := f.sent ++ [.event event], idle := 0 } : Feed) = g
    have sent : g.emitted = f.emitted ++ [event] := by
      subst between
      simp [Feed.emitted, Chunk.event?]
    have cursor : g.cursor = f.cursor := by
      subst between
      rfl
    obtain ⟨emitted, later, moved⟩ := forEach_frame kind batch rest g
    constructor
    · simp [sending]
    · rw [emitted, later, sent, pending, List.append_assoc]
      rfl
    · rw [emitted, sent]
      exact List.prefix_append ..
    · intro here
      rw [emitted, later]
      apply moved
      rw [cursor, here, pending, sent]
      rfl
  · have none : f.pending = [] := Feed.Rests.pending (.inr (.inl pinging))
    have sent : Feed.emitted { f with sent := f.sent ++ [.keepalive], phase := .sleeping } =
        f.emitted := by
      simp [Feed.emitted, Chunk.event?]
    constructor
    · simp [pinging]
    · rw [sent, none]
      rfl
    · rw [sent]
    · intro here
      rw [sent]
      rw [none] at here
      exact here

theorem wake_moves {f f' : Feed} (h : f.wake = some f') : f.Moves a f' := by
  obtain ⟨sleeping, rfl⟩ := wake_cases h
  have none : f.pending = [] := Feed.Rests.pending (.inr (.inr sleeping))
  constructor
  · simp [sleeping]
  · rw [none]
    rfl
  · exact List.prefix_rfl
  · intro here
    rw [none] at here
    exact here

theorem moves_follows (db : w'.db = w.db) (moves : w.feed.Moves a w'.feed)
    (before : w.Follows a) : w'.Follows a ∧ w.feed.Keeps w'.feed := by
  constructor
  · constructor
    · rw [moves.read, Served.due, db]
      exact before.initial
    · intro _
      apply moves.cursor
      exact before.cursor moves.opened
  · constructor
    · exact moves.grows
    · intro _
      rw [moves.read]

theorem close_follows (db : w'.db = w.db) (closed : w'.feed = w.feed.close)
    (before : w.Follows a) : w'.Follows a ∧ w.feed.Keeps w'.feed := by
  constructor
  · constructor
    · rw [closed, Served.due, db, emitted_close, pending_close, List.append_nil]
      exact (List.prefix_append ..).trans before.initial
    · intro opened
      rw [closed] at opened
      exact absurd rfl opened
  · constructor
    · rw [closed, emitted_close]
    · intro opened
      rw [closed] at opened
      exact absurd rfl opened

theorem Served.Follows.polls (before : w.Follows a) (polling : w.feed.phase = .polling) :
    w.feed.emitted <+: w.due a ∧ w.feed.cursor = reached AuditRow.sequence a w.feed.emitted := by
  have initial := before.initial
  have cursor := before.cursor (by simp [polling])
  rw [polling_pending polling, List.append_nil] at initial
  rw [polling_pending polling, List.take_nil, List.append_nil] at cursor
  exact ⟨initial, cursor⟩

theorem polled_follows {batch : List AuditRow} (db : w'.db = w.db)
    (polling : w.feed.phase = .polling) (taken : w'.feed = kind.forEach batch batch w.feed)
    (read : batch = (beyond AuditRow.sequence w.feed.cursor w.db.auditEvents.rows).take 100)
    (before : w.Follows a) : w'.Follows a ∧ w.feed.Keeps w'.feed := by
  obtain ⟨initial, cursor⟩ := before.polls polling
  obtain ⟨emitted, pending, moved⟩ := forEach_frame kind batch batch w.feed
  constructor
  · constructor
    · rw [taken, emitted, pending, Served.due, db, read, cursor]
      exact batch_initial w.db.auditEvents.ordered initial 100
    · intro _
      rw [taken, emitted, pending]
      exact moved a cursor
  · constructor
    · rw [taken, emitted]
    · intro _
      rw [taken, emitted, pending, polling_pending polling, List.append_nil]
      exact List.prefix_append ..

theorem feed_step {op : FeedOp} {note : op.Note} {r : op.Ret}
    (h : op.run s kind note w = some (r, w')) (before : w.Follows a) :
    w'.Follows a ∧ w.feed.Keeps w'.feed := by
  rcases feed_cases h with ⟨same, grows⟩ | ⟨db, closed | ⟨polling, batch, taken, read⟩ | moved |
    woken⟩
  · constructor
    · constructor
      · rw [same]
        exact before.initial.trans (beyond_grows grows)
      · rw [same]
        exact before.cursor
    · rw [same]
      exact ⟨List.prefix_rfl, fun _ => List.prefix_rfl⟩
  · exact close_follows db closed before
  · exact polled_follows db polling taken read before
  · exact moves_follows db (deliver_moves moved) before
  · exact moves_follows db (wake_moves woken) before

theorem feed_closed {op : FeedOp} {note : op.Note} {r : op.Ret}
    (h : op.run s kind note w = some (r, w')) (closed : w.feed.phase = .closed) :
    w'.feed.phase = .closed := by
  rcases feed_cases h with ⟨same, -⟩ | ⟨-, same | ⟨polling, -⟩ | moved | woken⟩
  · rw [same]
    exact closed
  · rw [same]
    rfl
  · simp [closed] at polling
  · exact absurd closed (deliver_moves (a := 0) moved).opened
  · exact absurd closed (wake_moves (a := 0) woken).opened

end Step

section Run
variable {s : Store} {kind : FeedKind} {a : Nat} {w w' : Served} {log : List FeedEvent}

theorem start_follows (db : DB) : Served.Follows a ⟨db, .start a⟩ := by
  constructor
  · exact List.nil_prefix
  · intro _
    rfl

theorem Feed.Keeps.trans {f g f' : Feed} (first : f.Keeps g) (second : g.Keeps f')
    (opens : f'.phase ≠ .closed → g.phase ≠ .closed) : f.Keeps f' := by
  constructor
  · exact first.1.trans second.1
  · intro opened
    exact (first.2 (opens opened)).trans (second.2 opened)

theorem run_follows (run : Trace (feedSem s kind) w log w') (before : w.Follows a) :
    w'.Follows a ∧ w.feed.Keeps w'.feed := by
  induction run with
  | nil => exact ⟨before, List.prefix_rfl, fun _ => List.prefix_rfl⟩
  | snoc log e _ valid ih =>
    obtain ⟨now, kept⟩ := ih
    obtain ⟨next, keeps⟩ := feed_step valid now
    refine ⟨next, kept.trans keeps fun opened closed => opened ?_⟩
    exact feed_closed valid closed

theorem short_poll {o : Oracle} {batch : List AuditRow} (before : w.Follows a)
    (h : w.poll s kind o = some (.ok batch, w')) (short : batch.length < 100) :
    w'.feed.emitted ++ w'.feed.pending = w.due a := by
  obtain ⟨polling, db, ⟨x, raised, -⟩ | ⟨answered, taken⟩⟩ := poll_cases h
  · cases raised
  · obtain ⟨initial, cursor⟩ := before.polls polling
    obtain ⟨emitted, pending, -⟩ := forEach_frame kind batch batch w.feed
    obtain rfl := Except.ok.inj answered
    rw [cursor] at short
    rw [taken, emitted, pending, cursor]
    exact batch_whole w.db.auditEvents.ordered initial short

end Run

namespace Sample

/-- Three denials before the first poll, and another between the two deliveries. -/
def feeding : List ((op : FeedOp) × op.Note) :=
  [⟨.call (.recordPolicyDenial (request keyA) subject "plan" "no"), oracle 1 "a"⟩,
    ⟨.call (.recordPolicyDenial (request keyB) subject "plan" "no"), oracle 2 "b"⟩,
    ⟨.call (.recordPolicyDenial (request keyC) subject "plan" "no"), oracle 3 "c"⟩,
    ⟨.poll, oracle 4 "d"⟩, ⟨.deliver, ()⟩,
    ⟨.call (.recordPolicyDenial (request keyD) subject "plan" "no"), oracle 5 "e"⟩,
    ⟨.deliver, ()⟩, ⟨.wake, ()⟩, ⟨.poll, oracle 6 "f"⟩, ⟨.deliver, ()⟩]

def fed : Option (List FeedEvent × Served) :=
  attempt (FeedOp.run store (.eventSource false)) ⟨DB.empty, .start 1⟩ feeding

end Sample

end Deckhand
