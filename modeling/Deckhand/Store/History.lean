import Mathlib.Data.List.Chain
import Deckhand.Lib.Trace
import Deckhand.Store.Ops
import Deckhand.Sample

/-! The audit log determines the store: whatever calls were made and wherever they failed,
each job's events are the path its row took, and each confirmation's its use. -/
namespace Deckhand
open Lib

def Store.sem (s : Store) : Semantics DB (fun _ : StoreOp => Oracle)
    (fun op => Except StoreExn op.Value) :=
  fun op db o r db' => op.run s o db = (r, db')

abbrev StoreEvent := Event DB (fun _ : StoreOp => Oracle) fun op => Except StoreExn op.Value

namespace Life

/-- The events of a job are a path of the state machine from QUEUED to the row's state. -/
structure Recorded (l : Life) : Prop where
  absent : l.row = none → l.events = []
  starts : ∀ row, l.row = some row → l.events.head? = some .queued
  path : l.events.IsChain fun current target => target ∈ allowedTransitions current
  ends : ∀ row, l.row = some row → l.events.getLast? = some row.state

/-- Either no event and no change of state, or one event and it is the new state. -/
def Announced (l l' : Life) : Prop :=
  (l'.events = l.events ∧ l'.row.map JobRow.state = l.row.map JobRow.state) ∨
  ∃ state, l'.events = l.events ++ [state] ∧ l'.row.map JobRow.state = some state ∧
    l.row.map JobRow.state ≠ some state

/-- What a terminal row holds, the later row holds. -/
def Frozen (l l' : Life) : Prop :=
  ∀ row, l.row = some row → row.state ∈ terminalJobStates → ∃ row', l'.row = some row' ∧
    row'.state = row.state ∧ row'.result = row.result ∧ row'.error = row.error

theorem Recorded.empty : Recorded ⟨none, []⟩ :=
  ⟨fun _ => rfl, by simp, .nil, by simp⟩

theorem Recorded.rewrite {l : Life} {row row' : JobRow} (h : Recorded l) (here : l.row = some row)
    (state : row'.state = row.state) : Recorded ⟨some row', l.events⟩ := by
  refine ⟨by simp, fun _ _ => h.starts row here, h.path, ?_⟩
  rintro _ ⟨⟩
  exact state ▸ h.ends row here

theorem Recorded.move {l : Life} {row row' : JobRow} (h : Recorded l) (here : l.row = some row)
    (allowed : row'.state ∈ allowedTransitions row.state) :
    Recorded ⟨some row', l.events ++ [row'.state]⟩ := by
  have last := h.ends row here
  refine ⟨by simp, fun _ _ => ?_, ?_, ?_⟩
  · rw [List.head?_append, h.starts row here]
    rfl
  · refine List.isChain_append.mpr ⟨h.path, .singleton _, ?_⟩
    intro a ha b hb
    obtain rfl : row.state = a := Option.some.inj (last.symm.trans ha)
    obtain rfl : row'.state = b := by simpa using hb
    exact allowed
  · rintro _ ⟨⟩
    simp

theorem path_unqueued {events : List JobState} {current : JobState} (live : Live current)
    (path : (current :: events).IsChain fun current target => target ∈ allowedTransitions current) :
    .queued ∉ events := by
  induction events generalizing current with
  | nil => simp
  | cons target rest ih =>
    obtain ⟨allowed, later⟩ := List.isChain_cons_cons.mp path
    rw [List.mem_cons, not_or]
    refine ⟨?_, ih (live_closed current target live allowed) later⟩
    rintro rfl
    exact never_requeued current live allowed

theorem Recorded.queued_once {l : Life} {row : JobRow} (h : Recorded l) (here : l.row = some row) :
    l.events.count .queued = 1 := by
  obtain ⟨rest, whole⟩ := List.head?_eq_some_iff.mp (h.starts row here)
  have path := h.path
  rw [whole] at path ⊢
  rw [List.count_cons_self, List.count_eq_zero.mpr (path_unqueued (.inl rfl) path)]

end Life

section Step
variable {s : Store} {o : Oracle} {j : String} {op : StoreOp} {r : Except StoreExn op.Value}
  {l l' : Life}

/-- What a call did to a row: nothing, an insertion, a change of other columns in a state that
is not terminal, or a transition that the state machine allows. -/
theorem RowStep.kind (h : RowStep s o j op r l l') :
    l' = l ∨
    (l.row = none ∧ ∃ row, row.state = .queued ∧ l' = ⟨some row, l.events ++ [.queued]⟩) ∨
    (∃ row row', l.row = some row ∧ row'.state = row.state ∧ row.state ∉ terminalJobStates ∧
      l' = ⟨some row', l.events⟩) ∨
    ∃ row row', l.row = some row ∧ row'.state ∈ allowedTransitions row.state ∧
      l' = ⟨some row', l.events ++ [row'.state]⟩ := by
  cases h with
  | same => exact .inl rfl
  | created => exact .inr (.inl ⟨rfl, _, rfl, rfl⟩)
  | claimed _ _ _ seconds row events _ claimable =>
    refine .inr (.inr (.inr ⟨row, row.claim o _ seconds, rfl, ?_, rfl⟩))
    rw [claimable.1]
    exact (by decide : JobState.running ∈ allowedTransitions .queued)
  | renewed _ _ row events _ _ running =>
    refine .inr (.inr (.inl ⟨row, row.renew o _, rfl, rfl, ?_, rfl⟩))
    rcases running with h | h <;> rw [h] <;> decide
  | transitioned target result error _ _ row events _ _ _ allowed =>
    exact .inr (.inr (.inr ⟨row, _, rfl, allowed, rfl⟩))
  | lapsed _ row events _ lapsed =>
    refine .inr (.inr (.inr ⟨row, row.lapse o, rfl, ?_, rfl⟩))
    have allowed : ∀ current, current = .running ∨ current = .verifying →
        JobState.unknownOutcome ∈ allowedTransitions current := by
      rintro _ (rfl | rfl) <;> decide
    exact allowed row.state lapsed.1
  | expired _ _ row events _ stale =>
    refine .inr (.inr (.inr ⟨row, row.expire o, rfl, ?_, rfl⟩))
    rw [stale.1]
    exact (by decide : JobState.expired ∈ allowedTransitions .queued)
  | attempted _ _ _ row events _ unknown =>
    refine .inr (.inr (.inl ⟨row, row.attempt, rfl, rfl, ?_, rfl⟩))
    rw [unknown]
    decide

theorem RowStep.recorded (h : RowStep s o j op r l l') (before : l.Recorded) : l'.Recorded := by
  rcases h.kind with rfl | ⟨absent, row, queued, rfl⟩ | ⟨row, row', here, state, _, rfl⟩ |
    ⟨row, row', here, allowed, rfl⟩
  · exact before
  · rw [before.absent absent]
    exact ⟨by simp, by simp, .singleton _, by simp [queued]⟩
  · exact before.rewrite here state
  · exact before.move here allowed

theorem RowStep.announced (h : RowStep s o j op r l l') : l.Announced l' := by
  rcases h.kind with rfl | ⟨absent, row, queued, rfl⟩ | ⟨row, row', here, state, _, rfl⟩ |
    ⟨row, row', here, allowed, rfl⟩
  · exact .inl ⟨rfl, rfl⟩
  · exact .inr ⟨.queued, rfl, by simp [queued], by simp [absent]⟩
  · exact .inl ⟨rfl, by simp [here, state]⟩
  · refine .inr ⟨row'.state, rfl, rfl, fun same => ?_⟩
    have same : row.state = row'.state := by simpa [here] using same
    exact no_self_transition row'.state (same ▸ allowed)

theorem RowStep.frozen (h : RowStep s o j op r l l') : l.Frozen l' := by
  intro row here terminal
  rcases h.kind with rfl | ⟨absent, _⟩ | ⟨row', _, here', _, live, _⟩ |
    ⟨row', _, here', allowed, _⟩
  · exact ⟨row, here, rfl, rfl, rfl⟩
  · exact absurd (here.symm.trans absent) (by simp)
  · obtain rfl : row = row' := Option.some.inj (here.symm.trans here')
    exact absurd terminal live
  · obtain rfl : row = row' := Option.some.inj (here.symm.trans here')
    rw [(terminal_iff_no_transition row.state).mp terminal] at allowed
    cases allowed

theorem Life.Frozen.trans {m : Life} (first : l.Frozen m) (second : m.Frozen l') :
    l.Frozen l' := by
  intro row here terminal
  obtain ⟨row₁, here₁, state₁, result₁, error₁⟩ := first row here terminal
  obtain ⟨row₂, here₂, state₂, result₂, error₂⟩ := second row₁ here₁ (state₁ ▸ terminal)
  exact ⟨row₂, here₂, state₂.trans state₁, result₂.trans result₁, error₂.trans error₁⟩

/-- A confirmation is used exactly when one event says so. -/
structure Usage.Recorded (u : Usage) : Prop where
  absent : u.row = none → u.uses = 0
  used : ∀ row, u.row = some row → u.uses = row.usedAt.isSome.toNat

theorem UseStep.recorded {c : String} {u u' : Usage} (h : UseStep s o c op r u u')
    (before : u.Recorded) : u'.Recorded := by
  cases h with
  | same => exact before
  | issued =>
    refine ⟨by simp, ?_⟩
    rintro _ ⟨⟩
    exact before.absent rfl
  | consumed _ _ _ _ row uses _ awaits =>
    refine ⟨by simp, ?_⟩
    rintro _ ⟨⟩
    have unused := before.used row rfl
    rw [awaits.2.2.2] at unused
    exact congrArg (· + 1) unused
  | cancelled _ row uses _ free =>
    refine ⟨by simp, ?_⟩
    rintro _ ⟨⟩
    have unused := before.used row rfl
    rw [free] at unused
    exact congrArg (· + 1) unused

end Step

section Run
variable {s : Store} {log : List StoreEvent} {db : DB}

theorem trace_recorded (run : Trace s.sem DB.empty log db) (j : String) : (db.life j).Recorded :=
  run.stable (P := fun db => (db.life j).Recorded)
    (fun _ _ valid before => ((run_step valid).rows j).recorded before) .empty

theorem trace_used (run : Trace s.sem DB.empty log db) (c : String) : (db.usage c).Recorded :=
  run.stable (P := fun db => (db.usage c).Recorded)
    (fun _ _ valid before => ((run_step valid).uses c).recorded before)
    ⟨fun _ => rfl, by simp [DB.usage, DB.confirmation?, DB.empty]⟩

theorem trace_linked (run : Trace s.sem DB.empty log db) : Linked s db.auditEvents.rows :=
  run.stable (P := fun db => Linked s db.auditEvents.rows)
    (fun _ _ valid before => (run_step valid).linked before) (.nil s)

theorem trace_frozen {start : DB} (run : Trace s.sem start log db) (j : String) :
    (start.life j).Frozen (db.life j) :=
  run.stable (P := fun db => (start.life j).Frozen (db.life j))
    (fun _ _ valid before => before.trans ((run_step valid).rows j).frozen)
    fun row here _ => ⟨row, here, rfl, rfl, rfl⟩

end Run

/-- The audit log determines the store. -/
theorem audit_determines_store (s : Store) (log : List StoreEvent) (db : DB)
    (run : Trace s.sem DB.empty log db) :
    (∀ e ∈ log, ∀ x, e.ret = .error x → e.post = e.pre) ∧
    (∀ e ∈ log, ∀ j, (e.pre.life j).Announced (e.post.life j)) ∧
    (∀ j, (db.life j).Recorded) ∧
    (∀ a e b, log = a ++ e :: b → ∀ j, (e.post.life j).Frozen (db.life j)) ∧
    ∀ c row, db.confirmation? c = some row → (row.usedAt.isSome = true ↔ db.uses c = 1) := by
  refine ⟨?_, ?_, trace_recorded run, ?_, ?_⟩
  · intro e member x failed
    have valid : e.op.run s e.note e.pre = (e.ret, e.post) := run.valid member
    rw [failed] at valid
    exact run_error valid
  · exact fun e member j => ((run_step (run.valid member)).rows j).announced
  · rintro a e b rfl j
    exact trace_frozen run.split.2.2 j
  · intro c row here
    have used : db.uses c = row.usedAt.isSome.toNat := (trace_used run c).used row here
    rw [used]
    cases row.usedAt <;> simp

namespace Sample

/-- A job from submission to success, with a claim that fails in the middle and a transition
out of the terminal state, and a confirmation consumed once. -/
def lifecycle : List ((_ : StoreOp) × Oracle) :=
  [⟨.createJob (request keyA) subject, oracle 1 "a"⟩,
    ⟨.claimNextJob "w" 30 none, failing 2 2 "b"⟩,
    ⟨.claimNextJob "w" 30 none, oracle 3 "b"⟩,
    ⟨.transitionJob "job_a" .verifying (some []) none (some "b") none, oracle 4 "c"⟩,
    ⟨.transitionJob "job_a" .succeeded (some []) none (some "b") none, oracle 5 "d"⟩,
    ⟨.transitionJob "job_a" .failed none none none none, oracle 6 "e"⟩,
    ⟨.createConfirmation (request keyA) subject .typed "" 60, oracle 7 "f"⟩,
    ⟨.consumeConfirmation (request keyA) subject (tokenAt 7) (some "alpha"), oracle 8 "g"⟩,
    ⟨.consumeConfirmation (request keyA) subject (tokenAt 7) (some "alpha"), oracle 9 "h"⟩]

def lived : DB := replayed (fun op o db => op.run store o db) DB.empty lifecycle

theorem chainHash_digits (sequence : Nat) (previousHash occurredAt eventType payloadJson : String) :
    store.chainHash sequence previousHash occurredAt eventType payloadJson =
      String.ofList (Nat.toDigits 10 sequence) := by
  have digit : ∀ c ∈ Nat.toDigits 10 sequence, c.isDigit = true :=
    fun c hc => Nat.isDigit_of_mem_toDigits (by decide) (by decide) hc
  simp only [Store.chainHash, store, hashlib, digits, chainMaterial, List.intercalate_cons_cons,
    List.append_assoc]
  rw [show intText sequence = Nat.toDigits 10 sequence from rfl,
    List.takeWhile_append_of_pos digit, List.singleton_append,
    List.takeWhile_cons_of_neg (by decide), List.append_nil]

theorem linked_ready {t : AuditEvents} (linked : Linked store t.rows) (o : Oracle) :
    AuditReady store o t := by
  have hash : ∀ r ∈ t.rows, r.eventHash = String.ofList (Nat.toDigits 10 r.sequence) := by
    intro r hr
    rw [linked.chained.tagged r hr, Store.expectedHash, chainHash_digits]
  constructor
  · intro member
    obtain ⟨r, hr, same⟩ := List.mem_map.mp member
    have digits : 'p' ∈ Nat.toDigits 10 r.sequence := by
      rw [hash r hr] at same
      have chars := congrArg String.toList same
      rw [String.toList_ofList, String.toList_append] at chars
      rw [chars]
      exact List.mem_append_left _ (by decide)
    exact absurd (Nat.isDigit_of_mem_toDigits (by decide) (by decide) digits) (by decide)
  · intro occurredAt eventType payloadJson member
    obtain ⟨r, hr, same⟩ := List.mem_map.mp member
    rw [hash r hr, chainHash_digits] at same
    have sequence : r.sequence = t.counter + 1 := by
      rw [← Nat.ofDigitChars_ten_toDigits (n := r.sequence), String.ofList_injective same,
        Nat.ofDigitChars_ten_toDigits]
    have bounded := t.bounded r hr
    omega

theorem lived_trace : Trace store.sem DB.empty
    (replay (fun op o db => op.run store o db) DB.empty lifecycle) lived :=
  replay_trace ..

end Sample

open Sample in
theorem audit_determines_store_lifecycle :
    lived.jobEvents "job_a" = [.queued, .running, .verifying, .succeeded] ∧
      lived.uses "confirm_f" = 1 ∧ (lived.life "job_a").Recorded ∧
      ∀ c row, lived.confirmation? c = some row → (row.usedAt.isSome = true ↔ lived.uses c = 1) :=
  have determined := audit_determines_store store _ lived lived_trace
  ⟨by decide +kernel, by decide +kernel, determined.2.2.1 "job_a", determined.2.2.2.2⟩

end Deckhand
