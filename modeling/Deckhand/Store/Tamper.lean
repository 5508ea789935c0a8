import Deckhand.Store.History
import Deckhand.Sample

/-! Tamper evidence. Whoever writes the database file without the key can leave any table;
verification accepts exactly the initial segments of the appended log. -/
namespace Deckhand
open Lib

theorem intText_injective {i j : Int} (h : intText i = intText j) : i = j := by
  have digits : ∀ {n m : Nat}, Nat.toDigits 10 n = Nat.toDigits 10 m → n = m := by
    intro n m same
    rw [← Nat.ofDigitChars_ten_toDigits (n := n), same, Nat.ofDigitChars_ten_toDigits]
  have unsigned : ∀ n : Nat, '-' ∉ Nat.toDigits 10 n := by
    intro n member
    have := Nat.isDigit_of_mem_toDigits (by decide) (by decide) member
    exact absurd this (by decide)
  cases i with
  | ofNat n =>
    cases j with
    | ofNat m => exact congrArg _ (digits h)
    | negSucc m =>
      have minus : '-' ∈ intText (.negSucc m) := List.mem_cons_self
      rw [← h] at minus
      exact absurd minus (unsigned n)
  | negSucc n =>
    cases j with
    | ofNat m =>
      have minus : '-' ∈ intText (.negSucc n) := List.mem_cons_self
      rw [h] at minus
      exact absurd minus (unsigned m)
    | negSucc m =>
      have := digits (List.cons.inj h).2
      exact congrArg _ (Nat.succ.inj this)

theorem printable_clean {l : List Char} (h : Printable l) : '\x1f' ∉ l :=
  fun member => absurd (h _ member) (by decide)

theorem hex_clean {l : List Char} (h : l.all isHexDigit = true) : '\x1f' ∉ l :=
  fun member => absurd (List.all_eq_true.mp h _ member) (by decide)

def AuditRow.material (r : AuditRow) : List Char :=
  chainMaterial r.sequence r.previousHash r.occurredAt r.eventType r.payloadJson

/-- The fields of an appended event hold no separator. -/
structure AuditRow.Clean (r : AuditRow) : Prop where
  previousHash : '\x1f' ∉ r.previousHash.toList
  occurredAt : '\x1f' ∉ r.occurredAt.toList
  eventType : '\x1f' ∉ r.eventType.toList
  payloadJson : '\x1f' ∉ r.payloadJson.toList

/-- The joined text determines all five fields, even against fields that hold separators. -/
theorem material_injective {r : AuditRow} (clean : r.Clean) {sequence : Int}
    {previousHash occurredAt eventType payloadJson : String}
    (same : chainMaterial sequence previousHash occurredAt eventType payloadJson = r.material) :
    sequence = r.sequence ∧ previousHash = r.previousHash ∧ occurredAt = r.occurredAt ∧
      eventType = r.eventType ∧ payloadJson = r.payloadJson := by
  have separated : ∀ f ∈ [intText r.sequence, r.previousHash.toList, r.occurredAt.toList,
      r.eventType.toList, r.payloadJson.toList], '\x1f' ∉ f := by
    simp only [List.forall_mem_cons, List.not_mem_nil, false_imp_iff, implies_true, and_true]
    exact ⟨printable_clean (intText_printable _), clean.previousHash, clean.occurredAt,
      clean.eventType, clean.payloadJson⟩
  have fields : [intText sequence, previousHash.toList, occurredAt.toList, eventType.toList,
      payloadJson.toList] = [intText r.sequence, r.previousHash.toList, r.occurredAt.toList,
      r.eventType.toList, r.payloadJson.toList] :=
    intercalate_inj '\x1f' separated rfl (by simp) same
  simp only [List.cons.injEq, String.toList_inj, and_true] at fields
  exact ⟨intText_injective fields.1, fields.2⟩

section Verify
variable {s : Store}

theorem expectedHash_hex (r : AuditRow) : (s.expectedHash r).toList.all isHexDigit = true := by
  unfold Store.expectedHash Store.chainHash
  split
  · exact s.hashlib.hmacSha256Hex _ _
  · exact s.hashlib.sha256Hex _

theorem Linked.clean {rows : List AuditRow} (h : Linked s rows) : ∀ r ∈ rows, r.Clean := by
  intro r member
  refine ⟨?_, ?_, h.typed r member, printable_clean (dumps_printable _)⟩
  · rcases List.mem_cons.mp (h.chained.link_mem r member) with genesis | hash
    · rw [genesis]
      decide +kernel
    · obtain ⟨e, he, same⟩ := List.mem_map.mp hash
      rw [← same, h.chained.tagged e he]
      exact hex_clean (expectedHash_hex e)
  · obtain ⟨t, same⟩ := h.timed r member
    rw [same]
    exact printable_clean (isoformat_printable t)

/-- The tag verification computes for a row whose other columns are texts. -/
def Store.rawHash (s : Store) (r : RawAuditRow) : Cell :=
  match r.previousHash, r.occurredAt, r.eventType, r.payloadJson with
  | .text previousHash, .text occurredAt, .text eventType, .text payloadJson =>
    .text (s.chainHash r.sequence previousHash occurredAt eventType payloadJson)
  | _, _, _, _ => .undecodable

theorem verifyRows_sound {p : String} {rows : List RawAuditRow}
    (h : s.verifyRows p rows = .ok true) :
    Chained RawAuditRow.previousHash RawAuditRow.eventHash s.rawHash (.text p) rows ∧
    ∀ r ∈ rows, ∃ a b c d, r.previousHash = .text a ∧ r.occurredAt = .text b ∧
      r.eventType = .text c ∧ r.payloadJson = .text d := by
  induction rows generalizing p with
  | nil => exact ⟨trivial, by simp⟩
  | cons r rest ih =>
    unfold Store.verifyRows at h
    split at h
    · simp at h
    · rename_i linked
      have linked := not_not.mp linked
      split at h
      · rename_i occurredAt eventType payloadJson ho ht hp
        dsimp only at h
        split at h
        · rename_i eventHash hh
          split at h
          · rename_i compared
            have same := (compareDigest_true.mp compared).1
            obtain ⟨chained, texts⟩ := ih h
            refine ⟨⟨linked, ?_, hh ▸ chained⟩, ?_⟩
            · simp only [Store.rawHash, linked, ho, ht, hp, hh, same]
            · exact List.forall_mem_cons.mpr ⟨⟨p, _, _, _, linked, ho, ht, hp⟩, texts⟩
          · simp at h
          · simp at h
        · simp at h
      · simp at h

theorem verifyRows_complete {p : String} {rows : List AuditRow}
    (h : Chained AuditRow.previousHash AuditRow.eventHash s.expectedHash p rows) :
    s.verifyRows p (rows.map AuditRow.raw) = .ok true := by
  induction rows generalizing p with
  | nil => rfl
  | cons r rest ih =>
    obtain ⟨rfl, tagged, chained⟩ := h
    have expected : s.chainHash r.sequence r.previousHash r.occurredAt r.eventType r.payloadJson =
        r.eventHash := tagged.symm
    have ascii : isAscii r.eventHash = true := by
      refine List.all_eq_true.mpr fun c hc => decide_eq_true ?_
      rw [tagged] at hc
      exact hexDigit_ascii (List.all_eq_true.mp (expectedHash_hex r) c hc)
    have compared : compareDigest r.eventHash r.eventHash = .ok true :=
      compareDigest_true.mpr ⟨rfl, ascii⟩
    simp only [List.map_cons, Store.verifyRows, AuditRow.raw, expected, compared, ne_eq,
      not_true_eq_false, if_false]
    exact ih chained

theorem verifyAuditChain_initial {rows kept : List AuditRow} (linked : Linked s rows)
    (sub : kept <+: rows) : s.verifyAuditChain (kept.map AuditRow.raw) = .ok true := by
  have texts : (kept.map AuditRow.raw).any RawAuditRow.undecodable = false := by
    simp [RawAuditRow.undecodable, AuditRow.raw]
  rw [Store.verifyAuditChain, texts]
  exact verifyRows_complete (linked.chained.of_initial sub)

end Verify

section Honest
variable {s : Store} {log : List StoreEvent} {db : DB}

theorem trace_visited_linked (run : Trace s.sem DB.empty log db) :
    ∀ u ∈ visited DB.empty log, Linked s u.auditEvents.rows := by
  intro u visit
  rcases List.mem_cons.mp visit with rfl | member
  · exact .nil s
  · obtain ⟨e, among, rfl⟩ := List.mem_map.mp member
    obtain ⟨a, b, rfl⟩ := List.append_of_mem among
    obtain ⟨before, valid, -⟩ := run.split
    exact trace_linked (.snoc a e before valid)

theorem verifyAuditChain_run (linked : Linked s db.auditEvents.rows) {o : Oracle}
    (unfailing : o.fault = none) : StoreOp.verifyAuditChain.run s o db = (.ok true, db) := by
  have accepted := verifyAuditChain_initial linked List.prefix_rfl
  simp only [StoreOp.run, connect, Txn.atomically, unfailing, Txn.exec_none]
  have ran : s.verifyStoredChain.run db = .ok (true, db) := by
    simp only [Store.verifyStoredChain, Txn.run_bind, Txn.run_read]
    exact ⟨db, db, ⟨rfl, rfl⟩, by rw [accepted]; rfl⟩
  rw [ran]

end Honest

/-- A log that only the store wrote verifies in every state it goes through, and probing
whether it can be written writes nothing. -/
theorem honest_chain_verifies (s : Store) (log : List StoreEvent) (db : DB)
    (run : Trace s.sem DB.empty log db) :
    (∀ u ∈ visited DB.empty log, ∀ o : Oracle, o.fault = none →
      StoreOp.verifyAuditChain.run s o u = (.ok true, u)) ∧
    ∀ e ∈ log, e.op = .auditIsWritable → e.post.jobs = e.pre.jobs ∧
      e.post.confirmations = e.pre.confirmations ∧
      e.post.auditEvents.rows = e.pre.auditEvents.rows ∧
      e.post.auditEvents.counter = e.pre.auditEvents.counter := by
  constructor
  · intro u visit o unfailing
    exact verifyAuditChain_run (trace_visited_linked run u visit) unfailing
  · intro e member probe
    have valid : e.op.run s e.note e.pre = (e.ret, e.post) := run.valid member
    have kept : e.post = e.pre := by
      obtain ⟨caller, op, pre, o, r, post⟩ := e
      subst probe
      exact (congrArg Prod.snd valid).symm.trans (auditIsWritable_frame o pre)
    rw [kept]
    exact ⟨rfl, rfl, rfl, rfl⟩

/-- HMAC as an ideal function: a row of the table carries the tag of a text only if the store
computed the tag of that text for an event, and no tag is the genesis value. -/
structure IdealHmac (hashlib : Hashlib) (key : String) (appended : List AuditRow)
    (table : List RawAuditRow) : Prop where
  unforgeable : ∀ r ∈ table, ∀ message, r.eventHash = .text (hashlib.hmacSha256 key message) →
    ∃ e ∈ appended, e.material = message
  genesisUnused : ∀ e ∈ appended, e.eventHash ≠ genesisHash

section Ideal
variable {hashlib : Hashlib} {key : String} {rows : List AuditRow} {table : List RawAuditRow}

theorem verified_known (linked : Linked ⟨hashlib, some key⟩ rows)
    (ideal : IdealHmac hashlib key rows table)
    (verified : Store.verifyRows ⟨hashlib, some key⟩ genesisHash table = .ok true) :
    ∀ r ∈ table, r ∈ rows.map AuditRow.raw := by
  obtain ⟨chained, texts⟩ := verifyRows_sound verified
  intro r member
  obtain ⟨a, b, c, d, ha, hb, hc, hd⟩ := texts r member
  have tag := chained.tagged r member
  simp only [Store.rawHash, ha, hb, hc, hd] at tag
  obtain ⟨e, he, same⟩ := ideal.unforgeable r member _ tag
  obtain ⟨hseq, rfl, rfl, rfl, rfl⟩ := material_injective (linked.clean e he) same.symm
  refine List.mem_map.mpr ⟨e, he, ?_⟩
  have hash : r.eventHash = .text e.eventHash := by
    rw [tag, linked.chained.tagged e he, hseq]
    rfl
  cases r
  simp_all [AuditRow.raw]

theorem verified_initial (linked : Linked ⟨hashlib, some key⟩ rows)
    (unique : (rows.map AuditRow.eventHash).Nodup) (ideal : IdealHmac hashlib key rows table)
    (verified : Store.verifyAuditChain ⟨hashlib, some key⟩ table = .ok true) :
    table <+: rows.map AuditRow.raw := by
  have verified : Store.verifyRows ⟨hashlib, some key⟩ genesisHash table = .ok true := by
    unfold Store.verifyAuditChain at verified
    split at verified
    · cases verified
    · exact verified
  have honest := (verifyRows_sound (verifyRows_complete linked.chained)).1
  refine Chained.prefix_of_subset honest ?_ (verifyRows_sound verified).1
    (verified_known linked ideal verified)
  have tags : (rows.map AuditRow.raw).map RawAuditRow.eventHash =
      (rows.map AuditRow.eventHash).map Cell.text := by
    simp [AuditRow.raw]
  rw [tags, List.nodup_cons]
  refine ⟨?_, unique.map fun a b => Cell.text.inj⟩
  intro member
  obtain ⟨hash, hhash, same⟩ := List.mem_map.mp member
  obtain ⟨e, he, rfl⟩ := List.mem_map.mp hhash
  exact ideal.genesisUnused e he (Cell.text.inj same)

/-- With a hash that has no collisions, a table whose hashes are all from the log forges nothing,
whatever else its rows hold. -/
theorem ideal_of_hashes (injective : Function.Injective (hashlib.hmacSha256 key))
    (genesisUnused : ∀ message, hashlib.hmacSha256 key message ≠ genesisHash)
    (linked : Linked ⟨hashlib, some key⟩ rows)
    (known : ∀ r ∈ table, ∃ e ∈ rows, r.eventHash = .text e.eventHash) :
    IdealHmac hashlib key rows table := by
  have tagged : ∀ e ∈ rows, e.eventHash = hashlib.hmacSha256 key e.material :=
    linked.chained.tagged
  refine ⟨fun r member message tag => ?_, fun e member => tagged e member ▸ genesisUnused _⟩
  obtain ⟨e, he, hash⟩ := known r member
  have same : e.eventHash = hashlib.hmacSha256 key message := Cell.text.inj (hash.symm.trans tag)
  exact ⟨e, he, injective ((tagged e he).symm.trans same)⟩

end Ideal

/-- Verification vouches for the whole log exactly when the table is not a proper initial
segment of it: truncating the newest events goes unnoticed, and nothing else does. -/
theorem verify_vouches_iff (hashlib : Hashlib) (key : String) (log : List StoreEvent) (db : DB)
    (run : Trace (Store.sem ⟨hashlib, some key⟩) DB.empty log db) (table : List RawAuditRow)
    (ideal : IdealHmac hashlib key db.auditEvents.rows table) :
    (Store.verifyAuditChain ⟨hashlib, some key⟩ table = .ok true →
        table = db.auditEvents.rows.map AuditRow.raw) ↔
      ¬ (table <+: db.auditEvents.rows.map AuditRow.raw ∧
        table ≠ db.auditEvents.rows.map AuditRow.raw) := by
  have linked := trace_linked run
  constructor
  · rintro vouches ⟨sub, shorter⟩
    obtain ⟨kept, hkept, rfl⟩ : ∃ kept, kept <+: db.auditEvents.rows ∧
        kept.map AuditRow.raw = table := by
      refine ⟨db.auditEvents.rows.take table.length, List.take_prefix .., ?_⟩
      rw [List.map_take]
      exact (List.prefix_iff_eq_take.mp sub).symm
    exact shorter (vouches (verifyAuditChain_initial linked hkept))
  · intro whole verified
    have sub := verified_initial linked db.auditEvents.hashesUnique ideal verified
    exact not_not.mp fun shorter => whole ⟨sub, shorter⟩

namespace Sample

/-- A store whose keyed hash has no collisions, and a job submitted to it. -/
def idealStore : Store := ⟨idealHashlib, some "key"⟩

def submission : List ((_ : StoreOp) × Oracle) :=
  [⟨.createJob (request keyA) subject, oracle 1 "a"⟩]

def submitted : DB := replayed (fun op o db => op.run idealStore o db) DB.empty submission

theorem submitted_trace : Trace idealStore.sem DB.empty
    (replay (fun op o db => op.run idealStore o db) DB.empty submission) submitted :=
  replay_trace ..

theorem submitted_events : submitted.auditEvents.rows.map AuditRow.eventType = ["job.queued"] := by
  decide +kernel

theorem submitted_ideal {table : List RawAuditRow}
    (known : ∀ r ∈ table, ∃ e ∈ submitted.auditEvents.rows, r.eventHash = .text e.eventHash) :
    IdealHmac idealHashlib "key" submitted.auditEvents.rows table := by
  refine ideal_of_hashes (idealHashlib_injective "key") (fun message same => ?_)
    (trace_linked submitted_trace) known
  have zeros : unary message = List.replicate 64 '0' := String.ofList_injective same
  have zero : '0' ∈ unary message := zeros ▸ by decide
  rcases unary_letters message '0' zero with h | h <;> exact absurd h (by decide)

/-- The log with another type for its event, under the same hash. -/
def retyped : List RawAuditRow :=
  submitted.auditEvents.rows.map fun r => { r.raw with eventType := .text "job.failed" }

theorem retyped_hashes : ∀ r ∈ retyped, ∃ e ∈ submitted.auditEvents.rows,
    r.eventHash = .text e.eventHash := by
  intro r member
  obtain ⟨e, among, rfl⟩ := List.mem_map.mp member
  exact ⟨e, among, rfl⟩

theorem retyped_apart : retyped ≠ submitted.auditEvents.rows.map AuditRow.raw := by
  intro same
  have types := congrArg (List.map RawAuditRow.eventType) same
  have true_types : (submitted.auditEvents.rows.map AuditRow.raw).map RawAuditRow.eventType =
      (submitted.auditEvents.rows.map AuditRow.eventType).map Cell.text := by
    rw [List.map_map, List.map_map]
    rfl
  have new_types : retyped.map RawAuditRow.eventType =
      (submitted.auditEvents.rows.map AuditRow.eventType).map fun _ => .text "job.failed" := by
    rw [retyped, List.map_map, List.map_map]
    rfl
  rw [true_types, new_types, submitted_events] at types
  exact absurd types (by decide)

end Sample

namespace Sample

/-- Two submissions, one of which fails after its event is written, around a probe. -/
def probed : List ((_ : StoreOp) × Oracle) :=
  [⟨.createJob (request keyA) subject, oracle 1 "a"⟩,
    ⟨.createJob (request keyB) subject, failing 5 2 "b"⟩,
    ⟨.auditIsWritable, oracle 3 "c"⟩,
    ⟨.createJob (request keyB) subject, oracle 4 "d"⟩]

theorem probed_trace : Trace store.sem DB.empty
    (replay (fun op o db => op.run store o db) DB.empty probed)
    (replayed (fun op o db => op.run store o db) DB.empty probed) :=
  replay_trace ..

end Sample

open Sample in
theorem honest_chain_verifies_probed :
    (replay (fun op o db => op.run store o db) DB.empty probed).map
      (fun e => e.post.auditEvents.counter) = [1, 1, 1, 2] ∧
    ∀ u ∈ visited DB.empty (replay (fun op o db => op.run store o db) DB.empty probed),
      StoreOp.verifyAuditChain.run store (oracle 5 "e") u = (.ok true, u) :=
  ⟨by decide +kernel, fun u visit =>
    (honest_chain_verifies store _ _ probed_trace).1 u visit (oracle 5 "e") rfl⟩

open Sample in
theorem verify_vouches_iff_retyped : idealStore.verifyAuditChain retyped ≠ .ok true ∧
    ((idealStore.verifyAuditChain retyped = .ok true →
        retyped = submitted.auditEvents.rows.map AuditRow.raw) ↔
      ¬ (retyped <+: submitted.auditEvents.rows.map AuditRow.raw ∧
        retyped ≠ submitted.auditEvents.rows.map AuditRow.raw)) := by
  have vouches := verify_vouches_iff idealHashlib "key" _ submitted submitted_trace retyped
    (submitted_ideal retyped_hashes)
  refine ⟨fun verified => ?_, vouches⟩
  have long : retyped.length = (submitted.auditEvents.rows.map AuditRow.raw).length := by
    rw [retyped, List.length_map, List.length_map]
  exact retyped_apart (vouches.mpr (fun part => retyped_apart (part.1.eq_of_length long)) verified)

open Sample in
/-- The newest event deleted: the table is accepted and is not the log. -/
theorem truncated_log_accepted :
    ¬ ∀ (hashlib : Hashlib) (key : String) (log : List StoreEvent) (db : DB),
      Trace (Store.sem ⟨hashlib, some key⟩) DB.empty log db →
      ∀ table : List RawAuditRow, IdealHmac hashlib key db.auditEvents.rows table →
        Store.verifyAuditChain ⟨hashlib, some key⟩ table = .ok true →
        table = db.auditEvents.rows.map AuditRow.raw := by
  intro vouches
  have whole := vouches idealHashlib "key" _ submitted submitted_trace []
    (submitted_ideal (List.forall_mem_nil _)) rfl
  have one := congrArg List.length submitted_events
  have none := congrArg List.length whole
  simp only [List.length_map, List.length_nil] at one none
  exact absurd (none.trans one) (by decide)

end Deckhand
