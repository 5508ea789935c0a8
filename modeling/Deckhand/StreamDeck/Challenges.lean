import Deckhand.StreamDeck.LostResponses

namespace Deckhand.StreamDeck
open Lib

section
variable {V : Type} {js : Globals V}

def Body.intent (body : Body V) : String × Int × String × String × V :=
  (body.actionId, body.actionVersion, body.targetType, body.targetId, body.parameters)

/-- The execute requests that carry the challenge of an entry. -/
def carries (entry : Pending) : Output V → Bool
  | .execute _ post _ => post.body.confirmationToken = some entry.challenge.token ∧
      post.body.idempotencyKey = entry.idempotencyKey
  | _ => false

/-- The challenge of an entry that was armed at `e` is sent once, in time and for what was
planned. -/
structure Submitted (log : List (DeckEvent V)) (e : DeckEvent V) (s : ActionSettings)
    (entry : Pending) : Prop where
  once : (outputs log).countP (carries entry) ≤ 1
  timely : ∀ f ∈ log, ∀ x ∈ f.ret, carries entry x = true →
    e.note + armDelayMs ≤ f.note ∧ f.note ≤ e.note + pendingTtlMs
  planned : ∃ post, .plan s post ∈ outputs log ∧
    post.body.idempotencyKey = entry.idempotencyKey
  same : ∀ s₁ planned s₂ post confirmed, .plan s₁ planned ∈ outputs log →
    planned.body.idempotencyKey = entry.idempotencyKey →
    .execute s₂ post confirmed ∈ outputs log →
    carries entry (.execute s₂ post confirmed) = true → post.body.intent = planned.body.intent

def SubmittedOnce (log : List (DeckEvent V)) : Prop :=
  ∀ e ∈ log, ∀ s entry, .armed s entry ∈ e.ret → Submitted log e s entry

/-- A press that would confirm an entry finds no other press at it, and its settings ask for what
was planned. -/
def Confirmable (js : Globals V) (s : ActionSettings) (t : Int) (d : Deck V) : Prop :=
  ∀ entry ∈ d.pending (pendingKey s), armDelayMs ≤ t - entry.armedAt →
    t - entry.armedAt ≤ pendingTtlMs →
    (∀ x ∈ d.tasks, x.2.confirms.map Pending.idempotencyKey ≠ some entry.idempotencyKey) ∧
      ∀ x ∈ d.plans, x.2.idempotencyKey = entry.idempotencyKey →
        request js s none true entry.idempotencyKey = .ok x.2

/-- The identity token for a confirmed request comes before the entry is too old. -/
def InTime (task : Nat) (t : Int) (d : Deck V) : Prop :=
  ∀ entry ∈ d.tasks[task]?.bind fun x => x.2.confirms, t ≤ entry.armedAt + pendingTtlMs

def Deliberate (js : Globals V) (act : Act) (t : Int) (d : Deck V) : Prop :=
  match act with
  | .press s => Confirmable js s t d
  | .token task true => InTime task t d
  | _ => True

instance [DecidableEq V] (s : ActionSettings) (t : Int) (d : Deck V) :
    Decidable (Confirmable js s t d) :=
  inferInstanceAs (Decidable (∀ entry ∈ d.pending (pendingKey s), armDelayMs ≤ t - entry.armedAt →
    t - entry.armedAt ≤ pendingTtlMs →
    (∀ x ∈ d.tasks, x.2.confirms.map Pending.idempotencyKey ≠ some entry.idempotencyKey) ∧
      ∀ x ∈ d.plans, x.2.idempotencyKey = entry.idempotencyKey →
        request js s none true entry.idempotencyKey = .ok x.2))

instance (task : Nat) (t : Int) (d : Deck V) : Decidable (InTime task t d) :=
  inferInstanceAs (Decidable (∀ entry ∈ d.tasks[task]?.bind fun x => x.2.confirms,
    t ≤ entry.armedAt + pendingTtlMs))

instance [DecidableEq V] (act : Act) (t : Int) (d : Deck V) : Decidable (Deliberate js act t d) :=
  match act with
  | .press s => inferInstanceAs (Decidable (Confirmable js s t d))
  | .token task true => inferInstanceAs (Decidable (InTime task t d))
  | .token _ false => .isTrue trivial
  | .planAnswer _ _ => .isTrue trivial
  | .executeAnswer _ _ => .isTrue trivial
  | .drawn _ _ => .isTrue trivial

/-- The key that a press may yet put to use as that of a challenge. -/
def Phase.stake : Phase V → Option Nat
  | .planToken post => some post.body.idempotencyKey
  | .plan idempotencyKey => some idempotencyKey
  | phase => phase.confirms.map Pending.idempotencyKey

def confirmed (idempotencyKey : Nat) : Output V → Bool
  | .execute _ post _ =>
    post.body.confirmationToken.isSome ∧ post.body.idempotencyKey = idempotencyKey
  | _ => false

/-- What holds of each press that waits. -/
def Fits (out : List (Output V)) (d : Deck V) (s : ActionSettings) : Phase V → Prop
  | .planToken post => post.body.idempotencyKey < d.keys ∧
      ∀ x ∈ d.plans, x.2.idempotencyKey ≠ post.body.idempotencyKey
  | .plan idempotencyKey => (∃ body, (s, body) ∈ d.plans ∧ body.idempotencyKey = idempotencyKey) ∧
      ∀ s' entry, .armed s' entry ∈ out → entry.idempotencyKey ≠ idempotencyKey
  | .executeToken post none => post.body.confirmationToken = none
  | .executeToken post (some entry) =>
      post.body.idempotencyKey = entry.idempotencyKey ∧
      (∃ s', .armed s' entry ∈ out ∧ pendingKey s' = pendingKey s) ∧
      (∀ x ∈ d.plans, x.2.idempotencyKey = entry.idempotencyKey → post.body.intent = x.2.intent) ∧
      entry.armedAt + armDelayMs ≤ d.now ∧ out.countP (confirmed entry.idempotencyKey) = 0
  | .execute _ (some entry) => ∃ s', .armed s' entry ∈ out ∧ pendingKey s' = pendingKey s
  | _ => True

/-- What holds of the outputs so far and the deck. -/
structure Ledger (out : List (Output V)) (d : Deck V) : Prop where
  planned : ∀ s body, (s, body) ∈ d.plans ↔ ∃ post, .plan s post ∈ out ∧ post.body = body
  minted : ∀ x ∈ d.plans, x.2.idempotencyKey < d.keys
  armedPlanned : ∀ s entry, .armed s entry ∈ out →
    ∃ body, (s, body) ∈ d.plans ∧ body.idempotencyKey = entry.idempotencyKey
  armedOnce : ∀ s s' entry entry', .armed s entry ∈ out → .armed s' entry' ∈ out →
    entry.idempotencyKey = entry'.idempotencyKey → s = s' ∧ entry = entry'
  sent : ∀ k, (∀ s entry, .armed s entry ∈ out → entry.idempotencyKey ≠ k) →
    out.countP (confirmed k) = 0
  pending : ∀ m entry, d.pending m = some entry →
    (∃ s, .armed s entry ∈ out ∧ pendingKey s = m) ∧
      (out.countP (confirmed entry.idempotencyKey) = 0 ∨
        ∃ (i : Nat) (s : ActionSettings) (phase : Phase V), d.tasks[i]? = some (s, phase) ∧
          phase.confirms.map Pending.idempotencyKey = some entry.idempotencyKey)
  tasks : ∀ (i : Nat) s phase, d.tasks[i]? = some (s, phase) → Fits out d s phase
  alone : ∀ (i j : Nat) s s' (phase phase' : Phase V) k, d.tasks[i]? = some (s, phase) →
    d.tasks[j]? = some (s', phase') → phase.stake = some k → phase'.stake = some k → i = j

variable {task : Nat} {s r : ActionSettings} {t : Int} {d old d' : Deck V} {act : Act}
  {before : Option (Phase V)} {after : Phase V} {out outs : List (Output V)} {m : String} {k : Nat}

theorem Moves.plans_sub (moves : Moves js task s t old act before after out d')
    {x : ActionSettings × Body V} (member : x ∈ old.plans) : x ∈ d'.plans := by
  cases moves.move with
  | planning _ _ _ _ _ same => exact same ▸ member
  | confirming _ _ _ _ _ _ _ _ _ same => exact same ▸ member
  | planSent _ _ _ _ more => exact more ▸ List.mem_append_left _ member
  | arming _ _ _ _ _ _ _ _ _ same => exact same ▸ member
  | direct _ _ _ _ _ _ _ _ _ same => exact same ▸ member
  | sent _ _ _ _ _ same => exact same ▸ member
  | answered _ _ _ _ _ _ _ _ _ _ same => exact same ▸ member
  | rested _ _ _ _ _ _ _ _ _ same => exact same ▸ member

theorem Moves.plans_new (moves : Moves js task s t old act before after out d')
    {x : ActionSettings × Body V} (member : x ∈ d'.plans) : x ∈ old.plans ∨
      ∃ post, before = some (.planToken post) ∧ out = [.plan s post] ∧ x = (s, post.body) := by
  cases moves.move with
  | planning _ _ _ _ _ same => exact .inl (same ▸ member)
  | confirming _ _ _ _ _ _ _ _ _ same => exact .inl (same ▸ member)
  | planSent post _ _ _ more =>
    rw [more] at member
    rcases List.mem_append.mp member with earlier | this
    · exact .inl earlier
    · exact .inr ⟨post, rfl, rfl, List.mem_singleton.mp this⟩
  | arming _ _ _ _ _ _ _ _ _ same => exact .inl (same ▸ member)
  | direct _ _ _ _ _ _ _ _ _ same => exact .inl (same ▸ member)
  | sent _ _ _ _ _ same => exact .inl (same ▸ member)
  | answered _ _ _ _ _ _ _ _ _ _ same => exact .inl (same ▸ member)
  | rested _ _ _ _ _ _ _ _ _ same => exact .inl (same ▸ member)

theorem Moves.keys (moves : Moves js task s t old act before after out d') :
    old.keys ≤ d'.keys := by
  cases moves.move with
  | planning _ _ _ _ more => exact more ▸ Nat.le_succ _
  | confirming _ _ _ _ _ _ _ _ same => exact Nat.le_of_eq same.symm
  | planSent _ _ _ same => exact Nat.le_of_eq same.symm
  | arming _ _ _ _ _ _ _ _ same => exact Nat.le_of_eq same.symm
  | direct _ _ _ _ _ _ _ _ same => exact Nat.le_of_eq same.symm
  | sent _ _ _ _ same => exact Nat.le_of_eq same.symm
  | answered _ _ _ _ _ _ _ _ _ same => exact Nat.le_of_eq same.symm
  | rested _ _ _ _ _ _ _ _ more => exact more

theorem Moves.plan_out (moves : Moves js task s t old act before after out d') {post : Post V}
    (h : .plan r post ∈ out) : (r, post.body) ∈ d'.plans := by
  cases moves.move with
  | planSent _ _ _ _ more =>
    cases List.mem_singleton.mp h
    rw [more]
    exact List.mem_append_right _ (List.mem_singleton_self _)
  | rested _ _ _ pictures => simp at h
  | _ => simp at h

theorem Moves.armed_out (moves : Moves js task s t old act before after out d') {entry : Pending}
    (h : .armed r entry ∈ out) : r = s ∧ before = some (.plan entry.idempotencyKey) ∧
      entry.armedAt = t ∧ ∃ picture, out = [.armed s entry, .image picture] := by
  cases moves.move with
  | arming _ entry' picture _ _ _ now =>
    have this : (r, entry) = (s, entry') := by simpa using h
    cases this
    exact ⟨rfl, rfl, now, picture, rfl⟩
  | rested _ _ _ pictures => simp at h
  | _ => simp at h

theorem Moves.pending_new (moves : Moves js task s t old act before after out d')
    {entry : Pending} (there : d'.pending m = some entry) :
    old.pending m = some entry ∨ .armed s entry ∈ out ∧ m = pendingKey s := by
  cases moves.move with
  | planning _ _ _ fewer => exact .inl (fewer.kept there)
  | confirming _ _ _ _ _ _ _ same => exact .inl (same ▸ there)
  | planSent _ _ same => exact .inl (same ▸ there)
  | arming _ entry' _ _ _ _ _ set =>
    rw [set] at there
    by_cases here : m = pendingKey s
    · rw [if_pos here] at there
      cases there
      exact .inr ⟨List.mem_cons_self, here⟩
    · rw [if_neg here] at there
      exact .inl there
  | direct _ _ _ _ _ _ _ same => exact .inl (same ▸ there)
  | sent _ _ _ same => exact .inl (same ▸ there)
  | answered _ _ _ _ _ _ _ fewer => exact .inl (fewer.kept there)
  | rested _ _ _ _ _ _ fewer => exact .inl (fewer.kept there)

theorem Moves.left (moves : Moves js task s t old act before after out d') {phase : Phase V}
    {entry : Pending} (was : before = some phase) (confirms : phase.confirms = some entry) :
    after.confirms = some entry ∨ d'.pending (pendingKey s) = none := by
  cases moves.move with
  | planning => cases was
  | confirming => cases was
  | planSent => cases was; cases confirms
  | arming => cases was; cases confirms
  | direct => cases was; cases confirms
  | sent => cases was; exact .inl confirms
  | answered _ _ _ _ _ _ _ _ deleted =>
    cases was
    exact .inr (deleted (Option.isSome_iff_exists.mpr ⟨entry, confirms⟩))
  | rested _ _ _ _ _ _ _ deleted =>
    subst was
    exact .inr (deleted (Option.isSome_iff_exists.mpr ⟨entry, confirms⟩))

/-- A key that a press may put to use was its own, is new, or is that of an entry it confirms. -/
theorem Moves.stake (moves : Moves js task s t old act before after out d')
    (h : after.stake = some k) : (∃ phase, before = some phase ∧ phase.stake = some k) ∨
      before = none ∧ (k = old.keys ∨
        ∃ entry, act = .press s ∧ old.pending (pendingKey s) = some entry ∧
          armDelayMs ≤ t - entry.armedAt ∧ t - entry.armedAt ≤ pendingTtlMs ∧
          entry.idempotencyKey = k) := by
  cases moves.move with
  | planning post _ made =>
    cases Option.some.inj h
    exact .inr ⟨rfl, .inl (post_key made)⟩
  | confirming entry _ _ there late live =>
    exact .inr ⟨rfl, .inr ⟨entry, rfl, there, late, live, Option.some.inj h⟩⟩
  | planSent => exact .inl ⟨_, rfl, h⟩
  | arming => cases h
  | direct => cases h
  | sent => exact .inl ⟨_, rfl, h⟩
  | answered _ _ _ _ _ _ rests =>
    cases after with
    | drawing _ => cases h
    | alerting => cases h
    | ended => cases h
    | _ => cases rests
  | rested _ _ _ _ _ rests =>
    cases after with
    | drawing _ => cases h
    | alerting => cases h
    | ended => cases h
    | _ => cases rests

theorem Moves.confirmed_out (moves : Moves js task s t old act before after out d') (k : Nat) :
    out.countP (confirmed k) = 0 ∨ ∃ post entry, act = .token task true ∧
      before = some (.executeToken post entry) ∧
      after = .execute post.body.idempotencyKey entry ∧ out = [.execute s post entry] ∧
      post.body.confirmationToken.isSome = true ∧ post.body.idempotencyKey = k := by
  cases moves.move with
  | sent post entry =>
    by_cases this : confirmed k (.execute s post entry) = true
    · have both := of_decide_eq_true this
      exact .inr ⟨post, entry, rfl, rfl, rfl, rfl, both⟩
    · exact .inl (List.countP_eq_zero.mpr fun x member => List.mem_singleton.mp member ▸ this)
  | rested _ _ _ pictures =>
    apply Or.inl (List.countP_eq_zero.mpr _)
    intro x member
    obtain ⟨picture, -, rfl⟩ := List.mem_map.mp member
    nofun
  | _ => exact .inl rfl

theorem request_token {token : Option String} {dryRun : Bool} {body : Body V}
    (h : request js s token dryRun k = .ok body) : body.confirmationToken = token := by
  unfold request at h
  split at h
  · cases parameters : requestParameters js s with
    | error cause =>
      rw [parameters] at h
      cases h
    | ok value =>
      rw [parameters] at h
      cases h
      rfl
  · cases h

theorem request_intent {token token' : Option String} {dryRun dryRun' : Bool} {k' : Nat}
    {body body' : Body V} (h : request js s token dryRun k = .ok body)
    (h' : request js s token' dryRun' k' = .ok body') : body.intent = body'.intent := by
  obtain ⟨actionId, version, targetType, targetId, parameters, -⟩ := request_ok h
  obtain ⟨actionId', version', targetType', targetId', parameters', -⟩ := request_ok h'
  unfold Body.intent
  rw [Option.some.inj (actionId.symm.trans actionId'), version.trans version'.symm,
    Option.some.inj (targetType.symm.trans targetType'),
    Option.some.inj (targetId.symm.trans targetId'),
    Except.ok.inj (parameters.symm.trans parameters')]

theorem Moves.was_at (moves : Moves js task s t old act before after out d') {phase : Phase V}
    (was : before = some phase) : old.tasks[task]? = some (s, phase) := by
  rw [moves.was, was]
  rfl

namespace Ledger

theorem armed_minted (held : Ledger outs d) {entry : Pending} (armed : .armed r entry ∈ outs) :
    entry.idempotencyKey < d.keys := by
  obtain ⟨body, there, key⟩ := held.armedPlanned r entry armed
  exact key ▸ held.minted _ there

theorem confirms_armed (held : Ledger outs d) {i : Nat} {phase : Phase V} {entry : Pending}
    (was : d.tasks[i]? = some (r, phase)) (confirms : phase.confirms = some entry) :
    ∃ s', .armed s' entry ∈ outs ∧ pendingKey s' = pendingKey r := by
  have fits := held.tasks i r phase was
  cases phase with
  | executeToken post entry' =>
    cases confirms
    exact fits.2.1
  | execute _ entry' =>
    cases confirms
    exact fits
  | _ => cases confirms

theorem stake_minted (held : Ledger outs d) {i : Nat} {phase : Phase V}
    (was : d.tasks[i]? = some (r, phase)) (stake : phase.stake = some k) : k < d.keys := by
  have confirming : phase.confirms.map Pending.idempotencyKey = some k → k < d.keys := by
    intro confirms
    obtain ⟨entry, here, key⟩ := Option.map_eq_some_iff.mp confirms
    obtain ⟨s', armed, -⟩ := held.confirms_armed was here
    exact key ▸ held.armed_minted armed
  have fits := held.tasks i r phase was
  cases phase with
  | planToken post =>
    cases stake
    exact fits.1
  | plan idempotencyKey =>
    cases stake
    obtain ⟨body, there, key⟩ := fits.1
    exact key ▸ held.minted _ there
  | _ => exact confirming stake

theorem stake_confirms (held : Ledger outs d) {i : Nat} {phase : Phase V} {entry : Pending}
    (was : d.tasks[i]? = some (r, phase)) (armed : .armed s entry ∈ outs)
    (stake : phase.stake = some entry.idempotencyKey) :
    phase.confirms.map Pending.idempotencyKey = some entry.idempotencyKey := by
  have fits := held.tasks i r phase was
  cases phase with
  | planToken post =>
    obtain ⟨body, there, key⟩ := held.armedPlanned s entry armed
    exact absurd (key.trans (Option.some.inj stake).symm) (fits.2 _ there)
  | plan idempotencyKey => exact absurd (Option.some.inj stake).symm (fits.2 s entry armed)
  | _ => exact stake

theorem sends (held : Ledger outs old) (moves : Moves js task s t old act before after out d')
    (k : Nat) : out.countP (confirmed k) = 0 ∨ ∃ post entry, act = .token task true ∧
      before = some (.executeToken post (some entry)) ∧
      after = .execute post.body.idempotencyKey (some entry) ∧
      out = [.execute s post (some entry)] ∧ entry.idempotencyKey = k := by
  rcases moves.confirmed_out k with none | ⟨post, entry, this, was, now, sent, token, key⟩
  · exact .inl none
  · have fits := held.tasks task s _ (moves.was_at was)
    cases entry with
    | none =>
      rw [show post.body.confirmationToken = Option.none from fits] at token
      cases token
    | some entry => exact .inr ⟨post, entry, this, was, now, sent, fits.1.symm.trans key⟩

theorem planned_step (held : Ledger outs old)
    (moves : Moves js task s t old act before after out d') (body : Body V) :
    (r, body) ∈ d'.plans ↔ ∃ post, .plan r post ∈ outs ++ out ∧ post.body = body := by
  constructor
  · intro member
    rcases moves.plans_new member with earlier | ⟨post, -, sent, same⟩
    · obtain ⟨post, there, same⟩ := (held.planned r body).mp earlier
      exact ⟨post, List.mem_append_left _ there, same⟩
    · cases same
      exact ⟨post, List.mem_append_right _ (sent ▸ List.mem_singleton_self _), rfl⟩
  · rintro ⟨post, member, rfl⟩
    rcases List.mem_append.mp member with earlier | this
    · exact moves.plans_sub ((held.planned r post.body).mpr ⟨post, earlier, rfl⟩)
    · exact moves.plan_out this

theorem minted_step (held : Ledger outs old)
    (moves : Moves js task s t old act before after out d') {x : ActionSettings × Body V}
    (member : x ∈ d'.plans) : x.2.idempotencyKey < d'.keys := by
  apply Nat.lt_of_lt_of_le _ moves.keys
  rcases moves.plans_new member with earlier | ⟨post, was, -, rfl⟩
  · exact held.minted x earlier
  · exact (held.tasks task s _ (moves.was_at was)).1

theorem armedPlanned_step (held : Ledger outs old)
    (moves : Moves js task s t old act before after out d') {entry : Pending}
    (armed : .armed r entry ∈ outs ++ out) :
    ∃ body, (r, body) ∈ d'.plans ∧ body.idempotencyKey = entry.idempotencyKey := by
  rcases List.mem_append.mp armed with earlier | this
  · obtain ⟨body, there, key⟩ := held.armedPlanned r entry earlier
    exact ⟨body, moves.plans_sub there, key⟩
  · obtain ⟨rfl, was, -⟩ := moves.armed_out this
    obtain ⟨⟨body, there, key⟩, -⟩ := held.tasks task r _ (moves.was_at was)
    exact ⟨body, moves.plans_sub there, key⟩

theorem armedOnce_step (held : Ledger outs old)
    (moves : Moves js task s t old act before after out d') {s' : ActionSettings}
    {entry entry' : Pending} (armed : .armed r entry ∈ outs ++ out)
    (armed' : .armed s' entry' ∈ outs ++ out)
    (same : entry.idempotencyKey = entry'.idempotencyKey) : r = s' ∧ entry = entry' := by
  -- The key of a new entry is that of a plan, which no entry before it had.
  have fresh : ∀ {r r' : ActionSettings} {e e' : Pending}, .armed r e ∈ out →
      .armed r' e' ∈ outs → e'.idempotencyKey ≠ e.idempotencyKey := by
    intro r r' e e' now earlier
    obtain ⟨-, was, -⟩ := moves.armed_out now
    exact (held.tasks task s _ (moves.was_at was)).2 r' e' earlier
  rcases List.mem_append.mp armed with earlier | this
  · rcases List.mem_append.mp armed' with earlier' | this'
    · exact held.armedOnce r s' entry entry' earlier earlier' same
    · exact absurd same (fresh this' earlier)
  · rcases List.mem_append.mp armed' with earlier' | this'
    · exact absurd same.symm (fresh this earlier')
    · obtain ⟨rfl, -, -, picture, whole⟩ := moves.armed_out this
      rw [whole] at this'
      have one : s' = r ∧ entry' = entry := by simpa using this'
      exact ⟨one.1.symm, one.2.symm⟩

theorem plans_armed (held : Ledger outs old)
    (moves : Moves js task s t old act before after out d') {entry : Pending}
    (armed : .armed r entry ∈ outs) {x : ActionSettings × Body V} (member : x ∈ d'.plans)
    (key : x.2.idempotencyKey = entry.idempotencyKey) : x ∈ old.plans := by
  rcases moves.plans_new member with earlier | ⟨post, was, -, rfl⟩
  · exact earlier
  · obtain ⟨body, there, key'⟩ := held.armedPlanned r entry armed
    exact absurd (key'.trans key.symm) ((held.tasks task s _ (moves.was_at was)).2 _ there)

theorem sent_step (held : Ledger outs old)
    (moves : Moves js task s t old act before after out d')
    (unarmed : ∀ s entry, .armed s entry ∈ outs ++ out → entry.idempotencyKey ≠ k) :
    (outs ++ out).countP (confirmed k) = 0 := by
  rw [List.countP_append,
    held.sent k fun s entry there => unarmed s entry (List.mem_append_left _ there), Nat.zero_add]
  rcases held.sends moves k with none | ⟨post, entry, -, was, -, -, key⟩
  · exact none
  · obtain ⟨s', armed, -⟩ := held.confirms_armed (moves.was_at was) rfl
    exact absurd key (unarmed s' entry (List.mem_append_left _ armed))

/-- A press that confirmed an entry before the step confirms it after, or nothing is in the
place of the entry. -/
theorem confirming_step (held : Ledger outs old)
    (moves : Moves js task s t old act before after out d') {entry : Pending}
    (armed : .armed r entry ∈ outs) {i : Nat} {s' : ActionSettings} {phase : Phase V}
    (was : old.tasks[i]? = some (s', phase))
    (confirms : phase.confirms.map Pending.idempotencyKey = some entry.idempotencyKey) :
    d'.pending (pendingKey r) = none ∨
      ∃ (j : Nat) (s₁ : ActionSettings) (phase₁ : Phase V), d'.tasks[j]? = some (s₁, phase₁) ∧
        phase₁.confirms.map Pending.idempotencyKey = some entry.idempotencyKey := by
  by_cases same : i = task
  · subst same
    rw [moves.was] at was
    obtain ⟨phase', was', this⟩ := Option.map_eq_some_iff.mp was
    cases this
    obtain ⟨entry', here, key⟩ := Option.map_eq_some_iff.mp confirms
    rcases moves.left was' here with still | deleted
    · refine .inr ⟨i, s, after, ?_, ?_⟩
      · rw [moves.tasks, if_pos rfl]
      · rw [still]
        exact congrArg some key
    · obtain ⟨home, armed', place⟩ := held.confirms_armed (moves.was_at was') here
      obtain ⟨rfl, -⟩ := held.armedOnce _ _ _ _ armed armed' key.symm
      rw [place]
      exact .inl deleted
  · refine .inr ⟨i, s', phase, ?_, confirms⟩
    rw [moves.tasks, if_neg same]
    exact was

theorem pending_step (held : Ledger outs old)
    (moves : Moves js task s t old act before after out d') {entry : Pending}
    (there : d'.pending m = some entry) :
    (∃ s, .armed s entry ∈ outs ++ out ∧ pendingKey s = m) ∧
      ((outs ++ out).countP (confirmed entry.idempotencyKey) = 0 ∨
        ∃ (i : Nat) (s : ActionSettings) (phase : Phase V), d'.tasks[i]? = some (s, phase) ∧
          phase.confirms.map Pending.idempotencyKey = some entry.idempotencyKey) := by
  rw [List.countP_append]
  rcases moves.pending_new there with earlier | ⟨armed, rfl⟩
  · obtain ⟨⟨home, armed, rfl⟩, unsent⟩ := held.pending m entry earlier
    refine ⟨⟨home, List.mem_append_left _ armed, rfl⟩, ?_⟩
    rcases unsent with none | ⟨i, s', phase, was, confirms⟩
    · rcases held.sends moves entry.idempotencyKey with none' | ⟨post, entry', -, -, now, -, key⟩
      · rw [none, none']
        exact .inl rfl
      · refine .inr ⟨task, s, after, ?_, ?_⟩
        · rw [moves.tasks, if_pos rfl]
        · rw [now]
          exact congrArg some key
    · rcases held.confirming_step moves armed was confirms with gone | still
      · exact absurd (there.symm.trans gone) nofun
      · exact .inr still
  · obtain ⟨-, was, -, picture, whole⟩ := moves.armed_out armed
    refine ⟨⟨s, List.mem_append_right _ armed, rfl⟩, .inl ?_⟩
    rw [held.sent _ (held.tasks task s _ (moves.was_at was)).2, whole]
    rfl

theorem fits_moved (held : Ledger outs old)
    (moves : Moves js task s t old act before after out d') (deliberate : Deliberate js act t old) :
    Fits (outs ++ out) d' s after := by
  have was := moves.was
  cases moves.move with
  | planning post _ made _ more same =>
    constructor
    · rw [post_key made, more]
      exact Nat.lt_succ_self _
    · intro x member key
      rw [same] at member
      have below := held.minted x member
      rw [key, post_key made] at below
      exact Nat.lt_irrefl _ below
  | confirming entry post _ there late live made _ _ same =>
    obtain ⟨alone, asked⟩ := deliberate entry there late live
    obtain ⟨⟨home, armed, place⟩, unsent⟩ := held.pending (pendingKey s) entry there
    refine ⟨post_key made, ⟨home, List.mem_append_left _ armed, place⟩, ?_, ?_, ?_⟩
    · intro x member key
      rw [same] at member
      exact request_intent (post_ok made) (asked x member key)
    · rw [moves.later]
      have waited : armDelayMs ≤ t - entry.armedAt := late
      omega
    · rw [List.append_nil]
      rcases unsent with none | ⟨i, s', phase, other, confirms⟩
      · exact none
      · exact absurd confirms (alone _ (List.mem_of_getElem? other))
  | planSent post _ _ _ more =>
    refine ⟨⟨post.body, ?_, rfl⟩, ?_⟩
    · rw [more]
      exact List.mem_append_right _ (List.mem_singleton_self _)
    · intro s' entry armed key
      have earlier : .armed s' entry ∈ outs := by simpa using armed
      obtain ⟨body, there, key'⟩ := held.armedPlanned s' entry earlier
      exact (held.tasks task s _ was).2 _ there (key'.trans key)
  | arming => trivial
  | direct plan idempotencyKey post _ _ _ made => exact request_token (post_ok made)
  | sent post entry =>
    cases entry with
    | none => trivial
    | some entry =>
      obtain ⟨home, armed, place⟩ := held.confirms_armed was rfl
      exact ⟨home, List.mem_append_left _ armed, place⟩
  | answered _ _ _ _ _ _ rests =>
    cases after with
    | drawing _ => trivial
    | alerting => trivial
    | ended => trivial
    | _ => cases rests
  | rested _ _ _ _ _ rests =>
    cases after with
    | drawing _ => trivial
    | alerting => trivial
    | ended => trivial
    | _ => cases rests

theorem fits_others (held : Ledger outs old)
    (moves : Moves js task s t old act before after out d') {j : Nat} (apart : j ≠ task)
    {phase : Phase V} (there : old.tasks[j]? = some (r, phase)) : Fits (outs ++ out) d' r
    phase := by
  have fits := held.tasks j r phase there
  -- No other press has a stake in the key.
  have lone : ∀ {x : Nat} {phase' : Phase V}, before = some phase' → phase.stake = some x →
      phase'.stake ≠ some x := by
    intro x phase' was stake stake'
    exact apart (held.alone j task r s phase phase' x there (moves.was_at was) stake stake')
  cases phase with
  | planToken post =>
    refine ⟨Nat.lt_of_lt_of_le fits.1 moves.keys, ?_⟩
    intro x member key
    rcases moves.plans_new member with earlier | ⟨post', was, -, rfl⟩
    · exact fits.2 x earlier key
    · exact lone was rfl (congrArg some key)
  | plan idempotencyKey =>
    obtain ⟨⟨body, planned, key⟩, unarmed⟩ := fits
    refine ⟨⟨body, moves.plans_sub planned, key⟩, ?_⟩
    intro s' entry armed same
    rcases List.mem_append.mp armed with earlier | this
    · exact unarmed s' entry earlier same
    · obtain ⟨-, was, -⟩ := moves.armed_out this
      exact lone was rfl (congrArg some same)
  | executeToken post entry =>
    cases entry with
    | none => exact fits
    | some entry =>
      obtain ⟨key, ⟨home, armed, place⟩, same, waited, unsent⟩ := fits
      refine ⟨key, ⟨home, List.mem_append_left _ armed, place⟩, ?_, ?_, ?_⟩
      · intro x member key'
        exact same x (held.plans_armed moves armed member key') key'
      · have clock := moves.clock
        rw [moves.later]
        omega
      · rw [List.countP_append, unsent, Nat.zero_add]
        rcases held.sends moves entry.idempotencyKey with none |
          ⟨post', entry', -, was, -, -, same'⟩
        · exact none
        · exact absurd (congrArg some same') (lone was rfl)
  | execute _ entry =>
    cases entry with
    | none => trivial
    | some entry =>
      obtain ⟨home, armed, place⟩ := fits
      exact ⟨home, List.mem_append_left _ armed, place⟩
  | _ => trivial

theorem alone_step (held : Ledger outs old)
    (moves : Moves js task s t old act before after out d') (deliberate : Deliberate js act t old)
    {i j : Nat} {s₁ s₂ : ActionSettings} {phase₁ phase₂ : Phase V}
    (here : d'.tasks[i]? = some (s₁, phase₁)) (there : d'.tasks[j]? = some (s₂, phase₂))
    (stake₁ : phase₁.stake = some k) (stake₂ : phase₂.stake = some k) : i = j := by
  -- A press that comes to a key finds no other press with a stake in it.
  have joins : ∀ {n : Nat} {s' : ActionSettings} {phase : Phase V}, n ≠ task →
      old.tasks[n]? = some (s', phase) → phase.stake = some k → after.stake ≠ some k := by
    intro n s' phase apart was stake now
    rcases moves.stake now with ⟨phase', was', stake'⟩ |
      ⟨-, rfl | ⟨entry, rfl, held', late, live, rfl⟩⟩
    · exact apart (held.alone n task s' s _ _ k was (moves.was_at was') stake stake')
    · exact Nat.lt_irrefl _ (held.stake_minted was stake)
    · obtain ⟨⟨home, armed, -⟩, -⟩ := held.pending _ entry held'
      exact (deliberate entry held' late live).1 _ (List.mem_of_getElem? was)
        (held.stake_confirms was armed stake)
  rw [moves.tasks] at here there
  by_cases first : i = task
  · by_cases second : j = task
    · exact first.trans second.symm
    · rw [if_pos first] at here
      rw [if_neg second] at there
      cases here
      exact absurd stake₁ (joins second there stake₂)
  · rw [if_neg first] at here
    by_cases second : j = task
    · rw [if_pos second] at there
      cases there
      exact absurd stake₂ (joins first here stake₁)
    · rw [if_neg second] at there
      exact held.alone i j s₁ s₂ _ _ k here there stake₁ stake₂

theorem step (held : Ledger outs old)
    (moves : Moves js task s t old act before after out d')
    (deliberate : Deliberate js act t old) : Ledger (outs ++ out) d' where
  planned _ body := held.planned_step moves body
  minted _ member := held.minted_step moves member
  armedPlanned _ _ armed := held.armedPlanned_step moves armed
  armedOnce _ _ _ _ armed armed' same := held.armedOnce_step moves armed armed' same
  sent _ unarmed := held.sent_step moves unarmed
  pending _ _ there := held.pending_step moves there
  tasks i s' phase there := by
    rw [moves.tasks] at there
    by_cases same : i = task
    · rw [if_pos same] at there
      cases there
      exact held.fits_moved moves deliberate
    · rw [if_neg same] at there
      exact held.fits_others moves same there
  alone _ _ _ _ _ _ _ here there stake₁ stake₂ :=
    held.alone_step moves deliberate here there stake₁ stake₂

theorem start : Ledger [] (Deck.start : Deck V) where
  planned s body := by
    constructor
    · intro member
      cases member
    · rintro ⟨post, member, -⟩
      cases member
  minted x member := by cases member
  armedPlanned s entry armed := by cases armed
  armedOnce s s' entry entry' armed := by cases armed
  sent k unarmed := rfl
  pending m entry there := by cases there
  tasks i s phase there := by cases there
  alone i j s s' phase phase' k here := by cases here

end Ledger

theorem Deliberate.token {post : Post V} {entry : Pending}
    (deliberate : Deliberate js (.token task true) t d)
    (was : d.tasks[task]? = some (s, .executeToken post (some entry))) :
    t ≤ entry.armedAt + pendingTtlMs := by
  apply deliberate entry
  rw [was]
  rfl

/-- What holds of a run. -/
structure Sound (log : List (DeckEvent V)) (d : Deck V) : Prop where
  ledger : Ledger (outputs log) d
  once : ∀ k, (outputs log).countP (confirmed k) ≤ 1
  armedAt : ∀ e ∈ log, ∀ s entry, .armed s entry ∈ e.ret → entry.armedAt = e.note
  sends : ∀ e ∈ log, ∀ s post entry, .execute s post entry ∈ e.ret →
    post.body.confirmationToken.isSome = true → ∃ s' armed, .armed s' armed ∈ outputs log ∧
      armed.idempotencyKey = post.body.idempotencyKey ∧ armed.armedAt + armDelayMs ≤ e.note ∧
      e.note ≤ armed.armedAt + pendingTtlMs ∧
      ∀ x ∈ d.plans, x.2.idempotencyKey = post.body.idempotencyKey → post.body.intent = x.2.intent

theorem Ledger.once_step (held : Ledger outs old)
    (moves : Moves js task s t old act before after out d')
    (once : outs.countP (confirmed k) ≤ 1) : (outs ++ out).countP (confirmed k) ≤ 1 := by
  rw [List.countP_append]
  rcases held.sends moves k with none | ⟨post, entry, -, was, -, whole, rfl⟩
  · rw [none]
    exact once
  · have unsent := (held.tasks task s _ (moves.was_at was)).2.2.2.2
    rw [unsent, Nat.zero_add, whole]
    exact List.countP_le_length

theorem Ledger.sends_step (held : Ledger outs old)
    (moves : Moves js task s t old act before after out d')
    (deliberate : Deliberate js act t old) {post : Post V} {entry : Option Pending}
    (sent : .execute r post entry ∈ out) (token : post.body.confirmationToken.isSome = true) :
    ∃ s' armed, .armed s' armed ∈ outs ++ out ∧
      armed.idempotencyKey = post.body.idempotencyKey ∧ armed.armedAt + armDelayMs ≤ t ∧
      t ≤ armed.armedAt + pendingTtlMs ∧
      ∀ x ∈ d'.plans, x.2.idempotencyKey = post.body.idempotencyKey →
        post.body.intent = x.2.intent := by
  rcases held.sends moves post.body.idempotencyKey with
    none | ⟨post', armed, rfl, was, -, whole, key⟩
  · have carried : confirmed post.body.idempotencyKey (.execute r post entry) = true :=
      decide_eq_true ⟨token, rfl⟩
    exact absurd carried (List.countP_eq_zero.mp none _ sent)
  · obtain ⟨-, ⟨home, there, -⟩, same, waited, -⟩ := held.tasks task s _ (moves.was_at was)
    rw [whole] at sent
    cases List.mem_singleton.mp sent
    refine ⟨home, armed, List.mem_append_left _ there, key, ?_,
      deliberate.token (moves.was_at was), ?_⟩
    · have clock := moves.clock
      omega
    · intro x member key'
      have key'' := key'.trans key.symm
      exact same x (held.plans_armed moves there member key'') key''

theorem run_sound {log : List (DeckEvent V)} {d : Deck V}
    (run : Trace (sem js) Deck.start log d)
    (deliberate : ∀ e ∈ log, Deliberate js e.op e.note e.pre) : Sound log d := by
  induction run with
  | nil =>
    refine ⟨Ledger.start, fun _ => Nat.zero_le 1, ?_, ?_⟩
    · intro e member
      cases member
    · intro e member
      cases member
  | snoc log e _ valid ih =>
    have held := ih fun e' earlier => deliberate e' (List.mem_append_left _ earlier)
    have fair := deliberate e (List.mem_append_right _ (List.mem_singleton_self e))
    obtain ⟨task, s, before, after, moves⟩ := step_moves valid
    constructor
    · rw [outputs_snoc]
      exact held.ledger.step moves fair
    · intro k
      rw [outputs_snoc]
      exact held.ledger.once_step moves (held.once k)
    · intro e' member s' entry armed
      rcases List.mem_append.mp member with earlier | this
      · exact held.armedAt e' earlier s' entry armed
      · cases List.mem_singleton.mp this
        exact (moves.armed_out armed).2.2.1
    · intro e' member s' post entry sent token
      rw [outputs_snoc]
      rcases List.mem_append.mp member with earlier | this
      · obtain ⟨home, armed, there, key, waited, live, same⟩ :=
          held.sends e' earlier s' post entry sent token
        refine ⟨home, armed, List.mem_append_left _ there, key, waited, live, ?_⟩
        intro x planned key'
        exact same x (held.ledger.plans_armed moves there planned (key'.trans key.symm)) key'
      · cases List.mem_singleton.mp this
        exact held.ledger.sends_step moves fair sent token

theorem carries_confirmed {entry : Pending} {x : Output V} (h : carries entry x = true) :
    confirmed entry.idempotencyKey x = true := by
  cases x with
  | execute s post _ =>
    obtain ⟨token, key⟩ := of_decide_eq_true h
    exact decide_eq_true ⟨token ▸ rfl, key⟩
  | _ => cases h

theorem mem_outputs {log : List (DeckEvent V)} {x : Output V} :
    x ∈ outputs log ↔ ∃ e ∈ log, x ∈ e.ret := List.mem_flatMap

theorem Sound.carried {log : List (DeckEvent V)} {d : Deck V} (sound : Sound log d)
    {entry : Pending} (armed : .armed s entry ∈ outputs log) {f : DeckEvent V} (member : f ∈ log)
    {post : Post V} {held : Option Pending} (sent : .execute r post held ∈ f.ret)
    (carried : carries entry (.execute r post held) = true) :
    entry.armedAt + armDelayMs ≤ f.note ∧ f.note ≤ entry.armedAt + pendingTtlMs ∧
      ∀ x ∈ d.plans, x.2.idempotencyKey = entry.idempotencyKey →
        post.body.intent = x.2.intent := by
  obtain ⟨token, key⟩ := of_decide_eq_true carried
  obtain ⟨home, entry', there, key', waited, live, same⟩ :=
    sound.sends f member r post held sent (token ▸ rfl)
  obtain ⟨-, rfl⟩ := sound.ledger.armedOnce _ _ _ _ there armed (key'.trans key)
  exact ⟨waited, live, fun x planned same' => same x planned (same'.trans key.symm)⟩

/-- While presses are deliberate, an armed challenge is submitted once, in time, and for what was
planned. -/
theorem challenge_submitted_once {log : List (DeckEvent V)} {d : Deck V}
    (run : Trace (sem js) Deck.start log d)
    (deliberate : ∀ e ∈ log, Deliberate js e.op e.note e.pre) : SubmittedOnce log := by
  have sound := run_sound run deliberate
  intro e member s entry armed
  have there : .armed s entry ∈ outputs log := mem_outputs.mpr ⟨e, member, armed⟩
  have since := sound.armedAt e member s entry armed
  constructor
  · apply Nat.le_trans _ (sound.once entry.idempotencyKey)
    exact List.countP_mono_left fun x _ => carries_confirmed
  · intro f later x put carried
    cases x with
    | execute r post held =>
      obtain ⟨waited, live, -⟩ := sound.carried there later put carried
      rw [since] at waited live
      exact ⟨waited, live⟩
    | _ => cases carried
  · obtain ⟨body, planned, key⟩ := sound.ledger.armedPlanned s entry there
    obtain ⟨post, sent, rfl⟩ := (sound.ledger.planned s body).mp planned
    exact ⟨post, sent, key⟩
  · intro s₁ planned s₂ post held sent key executed carried
    obtain ⟨f, later, put⟩ := mem_outputs.mp executed
    obtain ⟨-, -, same⟩ := sound.carried there later put carried
    exact same (s₁, planned.body) ((sound.ledger.planned s₁ _).mpr ⟨planned, sent, rfl⟩) key

end

namespace Trial

/-- A plan press, a press within the arming delay, and the press that confirms. -/
def confirming : List ((_ : Act) × Int) :=
  planned 0 0 ++ [⟨.press lamp, 300⟩, ⟨.drawn 1 true, 300⟩, ⟨.press lamp, 1000⟩,
    ⟨.token 2 true, 1100⟩, ⟨.executeAnswer 2 .denied, 2000⟩]

end Trial

open Trial in
theorem challenge_submitted_once_confirming : ∃ log d, play confirming = some (log, d) ∧
    SubmittedOnce log := by
  have fair : (play confirming).map
      (fun r => decide (∀ e ∈ r.1, Deliberate node e.op e.note e.pre)) = some true := by
    decide +kernel
  obtain ⟨⟨log, d⟩, run, deliberate⟩ := Option.map_eq_some_iff.mp fair
  exact ⟨log, d, run, challenge_submitted_once (play_trace run) (of_decide_eq_true deliberate)⟩

open Trial in
/-- A press while the confirmed request is in flight sends its challenge again. -/
theorem challenge_submitted_twice : ∃ log d, Trace (sem node) Deck.start log d ∧
    ¬ SubmittedOnce log := by
  have run : ∃ log d, play insisted = some (log, d) ∧
      (log[2]?.map fun e => e.ret) =
        some [.armed lamp (lampEntry 0 0), .image ⟨.danger, "CONFIRM?", "office"⟩] ∧
      (outputs log).countP (carries (lampEntry 0 0)) = 2 :=
    ⟨_, _, rfl, rfl, rfl⟩
  obtain ⟨log, d, played, armed, twice⟩ := run
  refine ⟨log, d, play_trace played, ?_⟩
  intro submitted
  obtain ⟨e, there, put⟩ := Option.map_eq_some_iff.mp armed
  have once := (submitted e (List.mem_of_getElem? there) lamp (lampEntry 0 0)
    (put ▸ List.mem_cons_self)).once
  omega

end Deckhand.StreamDeck
