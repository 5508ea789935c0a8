import Deckhand.Feed
import Deckhand.Lib.EventStream
import Deckhand.Store.EventTypes

/-! The event feed as its clients read it: the text of each event, connections that break
anywhere, and clients that come back with the sequence of the last event they have. -/
namespace Deckhand
open Lib

/-- A member as `json.dumps` writes it by default, with a blank after the colon. -/
def spacedMember (key : String) (value : List Char) : List Char := quote key ++ ':' :: ' ' :: value

/-- `json.dumps(event)`, the columns in the table's order. -/
def AuditRow.dumped (r : AuditRow) : List Char :=
  '\x7b' :: [',', ' '].intercalate
    [spacedMember "sequence" (intText r.sequence), spacedMember "occurred_at" (quote r.occurredAt),
      spacedMember "event_type" (quote r.eventType),
      spacedMember "payload_json" (quote r.payloadJson),
      spacedMember "previous_hash" (quote r.previousHash),
      spacedMember "event_hash" (quote r.eventHash)] ++ ['\x7d']

def formatEvent (event : AuditRow) : List Char :=
  "id: ".toList ++ Nat.toDigits 10 event.sequence ++ "\nevent: ".toList ++
    event.eventType.toList ++ "\ndata: ".toList ++ event.dumped ++ "\n\n".toList

def Chunk.text : Chunk → List Char
  | .event row => formatEvent row
  | .keepalive => ": keepalive\n\n".toList

def Feed.text (f : Feed) : List Char := f.sent.flatMap Chunk.text

def AuditRow.message (r : AuditRow) : Message :=
  ⟨Nat.toDigits 10 r.sequence, r.eventType.toList, r.dumped⟩

def Chunk.part : Chunk → StreamPart
  | .event row => .message row.message
  | .keepalive => .comment " keepalive".toList

/-- The `after` of a client that started at `a` and has these messages. -/
def resume (a : Nat) (messages : List Message) : Nat :=
  reached (fun m => Nat.ofDigitChars 10 m.id 0) a messages

/-- A client's messages beside the store: between its connections other processes call the
store, and of what a connection was sent some first part arrives. -/
inductive Followed (s : Store) (a : Nat) : DB → List Message → Prop where
  | start : Followed s a DB.empty []
  | call {db : DB} {messages : List Message} (o : Oracle) (op : StoreOp) :
      Followed s a db messages → Followed s a (op.run s o db).2 messages
  | connection {db : DB} {messages : List Message} {once : Bool} {log : List FeedEvent}
      {w : Served} {arrived : List Char} : Followed s a db messages →
      Trace (feedSem s (.eventSource once)) ⟨db, .start (resume a messages)⟩ log w →
      arrived <+: w.feed.text → Followed s a w.db (messages ++ messagesOf arrived)

/-- What was read is sent: the client does not go away in the middle of a batch, and none is being
sent in the end. It may be the feed itself that ends, after its batch. -/
structure Drained (log : List FeedEvent) (w : Served) : Prop where
  stays : ∀ e ∈ log, e.op = .disconnect → e.pre.feed.pending = []
  through : w.feed.pending = []

section Text
variable {r : AuditRow} {l : List Char}

theorem printable_oneLine (h : Printable l) : OneLine l := by
  intro c member
  have shown := h c member
  constructor <;> rintro rfl <;> exact absurd shown (by decide)

theorem spacedMember_printable {key : String} (value : Printable l) :
    Printable (spacedMember key l) := by
  apply printable_append.mpr
  constructor
  · exact quote_printable key
  · exact printable_cons.mpr ⟨by decide, printable_cons.mpr ⟨by decide, value⟩⟩

theorem dumped_printable (r : AuditRow) : Printable r.dumped := by
  have comma : Printable [',', ' '] := by decide
  simp only [AuditRow.dumped, List.intercalate_cons_cons, List.intercalate_singleton,
    List.cons_append, printable_append, printable_cons, comma]
  refine ⟨by decide, ?_⟩
  simp only [spacedMember_printable (intText_printable _),
    spacedMember_printable (quote_printable _), true_and]
  decide

theorem eventTypes_printable :
    ∀ eventType ∈ eventTypes, Printable eventType.toList ∧ eventType.toList ≠ [] := by
  decide +kernel

theorem message_proper (typed : r.eventType ∈ eventTypes) : r.message.Proper := by
  obtain ⟨shown, named⟩ := eventTypes_printable r.eventType typed
  constructor
  · exact printable_oneLine (digits_printable r.sequence)
  · intro zero
    exact absurd (digits_printable r.sequence _ zero) (by decide)
  · exact printable_oneLine shown
  · exact named
  · exact printable_oneLine (dumped_printable r)

theorem written_text (id type data : List Char) :
    "id: ".toList ++ id ++ "\nevent: ".toList ++ type ++ "\ndata: ".toList ++ data ++
      "\n\n".toList = Message.text ⟨id, type, data⟩ := by
  have first : "id: ".toList = "id".toList ++ [colon, ' '] := by decide
  have second : "\nevent: ".toList = lineFeed :: "event".toList ++ [colon, ' '] := by decide
  have third : "\ndata: ".toList = lineFeed :: "data".toList ++ [colon, ' '] := by decide
  have ends : "\n\n".toList = [lineFeed, lineFeed] := by decide
  rw [first, second, third, ends, Message.text, fieldLine, fieldLine, fieldLine]
  simp only [List.append_assoc, List.cons_append, List.nil_append]

theorem comment_text :
    StreamPart.text (.comment " keepalive".toList) = ": keepalive\n\n".toList := by
  decide

theorem part_text (c : Chunk) : c.part.text = c.text := by
  cases c with
  | event row => exact (written_text _ _ _).symm
  | keepalive => exact comment_text

theorem resume_messages (a : Nat) (rows : List AuditRow) :
    resume a (rows.map AuditRow.message) = reached AuditRow.sequence a rows := by
  have same : (fun m : Message => Nat.ofDigitChars 10 m.id 0) ∘ AuditRow.message =
      AuditRow.sequence := by
    funext r
    exact Nat.ofDigitChars_ten_toDigits
  rw [resume, reached, reached, List.getLast?_map, Option.map_map, same]

theorem parts_text (sent : List Chunk) :
    (sent.map Chunk.part).flatMap StreamPart.text = sent.flatMap Chunk.text := by
  induction sent with
  | nil => rfl
  | cons c rest ih =>
    rw [List.map_cons, List.flatMap_cons, List.flatMap_cons, ih, part_text]

theorem parts_messages (sent : List Chunk) :
    (sent.map Chunk.part).filterMap StreamPart.message? =
      (sent.filterMap Chunk.event?).map AuditRow.message := by
  induction sent with
  | nil => rfl
  | cons c rest ih =>
    cases c with
    | event row =>
      change row.message :: (rest.map Chunk.part).filterMap StreamPart.message? = _
      rw [ih]
      rfl
    | keepalive => exact ih

end Text

section Run
variable {s : Store} {kind : FeedKind} {a : Nat} {w w' : Served} {log : List FeedEvent}
variable {arrived : List Char}

theorem parts_proper {f : Feed} (typed : ∀ r ∈ f.emitted, r.eventType ∈ eventTypes) :
    ∀ p ∈ f.sent.map Chunk.part, p.Proper := by
  intro p member
  obtain ⟨c, sent, rfl⟩ := List.mem_map.mp member
  cases c with
  | event row => exact message_proper (typed row (List.mem_filterMap.mpr ⟨_, sent, rfl⟩))
  | keepalive => exact printable_oneLine (by decide)

theorem messagesOf_text {f : Feed} (typed : ∀ r ∈ f.emitted, r.eventType ∈ eventTypes) :
    messagesOf f.text = f.emitted.map AuditRow.message := by
  rw [Feed.text, ← parts_text, messagesOf_parts (parts_proper typed), parts_messages]
  rfl

theorem messagesOf_arrived {f : Feed} (typed : ∀ r ∈ f.emitted, r.eventType ∈ eventTypes)
    (cut : arrived <+: f.text) : messagesOf arrived <+: f.emitted.map AuditRow.message := by
  rw [Feed.text, ← parts_text] at cut
  have first := messagesOf_cut (parts_proper typed) cut
  rwa [parts_messages] at first

theorem call_grows {o : Oracle} {db : DB} (op : StoreOp) :
    db.auditEvents.rows <+: (op.run s o db).2.auditEvents.rows :=
  (run_step (Eq.refl (op.run s o db))).grows

theorem feed_logged {op : FeedOp} {note : op.Note} {r : op.Ret}
    (h : op.run s kind note w = some (r, w')) :
    w.db.auditEvents.rows <+: w'.db.auditEvents.rows ∧ (w.db.Typed → w'.db.Typed) := by
  cases op with
  | call op =>
    obtain ⟨-, rfl⟩ := Prod.mk.inj (Option.some.inj h)
    exact ⟨call_grows op, fun typed => (typed_logged s).run typed⟩
  | poll =>
    obtain ⟨-, same, -⟩ := poll_cases h
    rw [same]
    exact ⟨List.prefix_rfl, id⟩
  | deliver | wake =>
    obtain ⟨f, -, same⟩ := Option.map_eq_some_iff.mp h
    obtain ⟨-, rfl⟩ := Prod.mk.inj same
    exact ⟨List.prefix_rfl, id⟩
  | disconnect =>
    obtain ⟨-, rfl⟩ := Prod.mk.inj (Option.some.inj h)
    exact ⟨List.prefix_rfl, id⟩

theorem trace_logged (run : Trace (feedSem s kind) w log w') :
    w.db.auditEvents.rows <+: w'.db.auditEvents.rows ∧ (w.db.Typed → w'.db.Typed) := by
  induction run with
  | nil => exact ⟨List.prefix_rfl, id⟩
  | snoc log e _ valid ih =>
    obtain ⟨grows, typed⟩ := feed_logged valid
    exact ⟨ih.1.trans grows, fun before => typed (ih.2 before)⟩

theorem Followed.typed {db : DB} {messages : List Message} (followed : Followed s a db messages) :
    db.Typed := by
  induction followed with
  | start => exact typed_empty
  | call o op _ ih => exact (typed_logged s).run ih
  | connection _ run _ ih => exact (trace_logged run).2 ih

theorem connection_due {db : DB} {rows : List AuditRow}
    (initial : rows <+: beyond AuditRow.sequence a db.auditEvents.rows)
    (run : Trace (feedSem s kind) ⟨db, .start (resume a (rows.map AuditRow.message))⟩ log w) :
    w.due a = rows ++ w.due (resume a (rows.map AuditRow.message)) ∧
      w.feed.emitted <+: w.due (resume a (rows.map AuditRow.message)) := by
  obtain ⟨grows, -⟩ := trace_logged run
  obtain ⟨follows, -⟩ := run_follows run (start_follows db)
  constructor
  · rw [resume_messages]
    exact beyond_split w.db.auditEvents.ordered (initial.trans (beyond_grows grows))
  · exact (List.prefix_append ..).trans follows.initial

/-- What arrives on it are the messages of some first rows of those, of all that were sent if
the text arrives whole. -/
theorem connection_rows {db : DB} {rows : List AuditRow} (typed : db.Typed)
    (initial : rows <+: beyond AuditRow.sequence a db.auditEvents.rows)
    (run : Trace (feedSem s kind) ⟨db, .start (resume a (rows.map AuditRow.message))⟩ log w)
    (cut : arrived <+: w.feed.text) : ∃ later, rows ++ later <+: w.due a ∧
      messagesOf arrived = later.map AuditRow.message ∧
      (arrived = w.feed.text → later = w.feed.emitted) := by
  obtain ⟨whole, sent⟩ := connection_due initial run
  have known : ∀ r ∈ w.feed.emitted, r.eventType ∈ eventTypes := by
    intro r member
    exact (trace_logged run).2 typed r (mem_beyond.mp (sent.subset member)).1
  have read := messagesOf_arrived known cut
  refine ⟨w.feed.emitted.take (messagesOf arrived).length, ?_, ?_, ?_⟩
  · rw [whole]
    exact (List.prefix_append_right_inj rows).mpr ((List.take_prefix ..).trans sent)
  · rw [List.map_take]
    exact List.prefix_iff_eq_take.mp read
  · intro all
    rw [all, messagesOf_text known, List.length_map, List.take_length]

/-- Unless the client goes away, a step drops nothing that was read: a feed ends only between
its batches. -/
theorem step_saves {op : FeedOp} {note : op.Note} {r : op.Ret}
    (h : op.run s kind note w = some (r, w'))
    (stays : op = .disconnect → w.feed.pending = []) :
    w.feed.emitted ++ w.feed.pending <+: w'.feed.emitted ++ w'.feed.pending := by
  cases op with
  | call op =>
    obtain ⟨-, rfl⟩ := Prod.mk.inj (Option.some.inj h)
    exact List.prefix_rfl
  | poll =>
    obtain ⟨polling, -, ⟨x, -, closed⟩ | ⟨-, taken⟩⟩ := poll_cases h
    · rw [closed, polling_pending polling, emitted_close, pending_close]
    · rw [taken, polling_pending polling, (forEach_frame ..).1, List.append_nil]
      exact List.prefix_append ..
  | deliver =>
    obtain ⟨f, moved, same⟩ := Option.map_eq_some_iff.mp h
    obtain ⟨-, rfl⟩ := Prod.mk.inj same
    rw [(deliver_moves (a := 0) moved).read]
  | wake =>
    obtain ⟨f, woken, same⟩ := Option.map_eq_some_iff.mp h
    obtain ⟨-, rfl⟩ := Prod.mk.inj same
    rw [(wake_moves (a := 0) woken).read]
  | disconnect =>
    obtain ⟨-, rfl⟩ := Prod.mk.inj (Option.some.inj h)
    rw [stays rfl, emitted_close, pending_close]

theorem Drained.saves (run : Trace (feedSem s kind) w log w') (drained : Drained log w') :
    w.feed.emitted ++ w.feed.pending <+: w'.feed.emitted := by
  obtain ⟨stays, through⟩ := drained
  suffices saved : w.feed.emitted ++ w.feed.pending <+: w'.feed.emitted ++ w'.feed.pending by
    rwa [through, List.append_nil] at saved
  clear through
  induction run with
  | nil => exact List.prefix_rfl
  | snoc log e _ valid ih =>
    refine (ih fun f member => stays f (by simp [member])).trans ?_
    exact step_saves valid (stays e (by simp))

theorem followed_rows {db : DB} {messages : List Message} (followed : Followed s a db messages) :
    ∃ rows, rows <+: beyond AuditRow.sequence a db.auditEvents.rows ∧
      messages = rows.map AuditRow.message := by
  induction followed with
  | start => exact ⟨[], List.nil_prefix, rfl⟩
  | call o op _ ih =>
    obtain ⟨rows, initial, same⟩ := ih
    exact ⟨rows, initial.trans (beyond_grows (call_grows op)), same⟩
  | connection before run cut ih =>
    obtain ⟨rows, initial, rfl⟩ := ih
    obtain ⟨later, continued, read, -⟩ := connection_rows before.typed initial run cut
    exact ⟨rows ++ later, continued, by rw [read, List.map_append]⟩

end Run

namespace Sample

/-- A connection that breaks after the first of two events, and another event after it. -/
def interrupted : Option (List FeedEvent × Served) :=
  attempt (FeedOp.run store (.eventSource false)) ⟨DB.empty, .start 1⟩
    [⟨.call (.recordPolicyDenial (request keyA) subject "plan" "no"), oracle 1 "a"⟩,
      ⟨.call (.recordPolicyDenial (request keyB) subject "plan" "no"), oracle 2 "b"⟩,
      ⟨.call (.recordPolicyDenial (request keyC) subject "plan" "no"), oracle 3 "c"⟩,
      ⟨.poll, oracle 4 "d"⟩, ⟨.deliver, ()⟩, ⟨.disconnect, ()⟩,
      ⟨.call (.recordPolicyDenial (request keyD) subject "plan" "no"), oracle 5 "e"⟩]

/-- The client comes back for what there is, and the feed ends after it. -/
def resumed (w : Served) : Option (List FeedEvent × Served) :=
  attempt (FeedOp.run store (.eventSource true)) ⟨w.db, .start 2⟩
    [⟨.poll, oracle 6 "f"⟩, ⟨.deliver, ()⟩, ⟨.deliver, ()⟩]

def reconnected : Option ((List FeedEvent × Served) × (List FeedEvent × Served)) :=
  interrupted.bind fun r => (resumed r.2).map fun r' => (r, r')

def shortPoll : FeedEvent → Bool
  | ⟨_, .poll, _, _, .ok batch, _⟩ => batch.length < 100
  | _ => false

theorem shortPoll_answered {e : FeedEvent} (h : shortPoll e = true) :
    ∃ batch, e.Answered .poll (.ok batch) ∧ batch.length < 100 := by
  unfold shortPoll at h
  split at h
  · exact ⟨_, .mk .., of_decide_eq_true h⟩
  · cases h

def FeedOp.leaves : FeedOp → Bool
  | .disconnect => true
  | _ => false

end Sample

end Deckhand
