import Deckhand.StreamDeck.TypedAction

namespace Deckhand.StreamDeck
open Lib

section
variable {V : Type} {js : Globals V}

theorem request_ok {s : ActionSettings} {token : Option String} {dryRun : Bool} {k : Nat}
    {body : Body V} (h : request js s token dryRun k = .ok body) :
    s.actionId = some body.actionId ∧ body.actionVersion = s.actionVersion.getD 1 ∧
      s.targetType = some body.targetType ∧ s.targetId = some body.targetId ∧
      requestParameters js s = .ok body.parameters ∧ body.idempotencyKey = k := by
  unfold request at h
  have whole : ∀ {setting : Option String} {text : String}, given setting = some text →
      setting = some text := fun h => (Option.filter_eq_some_iff.mp h).1
  split at h
  · rename_i actionId targetType targetId hid htype htarget
    cases parameters : requestParameters js s with
    | error cause =>
      rw [parameters] at h
      cases h
    | ok value =>
      rw [parameters] at h
      cases h
      exact ⟨whole hid, rfl, whole htype, whole htarget, rfl, rfl⟩
  · cases h

theorem post_ok {s : ActionSettings} {token : Option String} {dryRun : Bool} {k : Nat}
    {ready : Post V} (h : post js s token dryRun k = .ok ready) :
    request js s token dryRun k = .ok ready.body := by
  unfold post at h
  cases body : request js s token dryRun k with
  | error cause =>
    rw [body] at h
    cases h
  | ok value =>
    rw [body] at h
    cases base : normalizedBrokerUrl js s.brokerUrl with
    | error cause =>
      rw [base] at h
      cases h
    | ok url =>
      rw [base] at h
      cases h
      rfl

theorem post_key {s : ActionSettings} {token : Option String} {dryRun : Bool} {k : Nat}
    {ready : Post V} (h : post js s token dryRun k = .ok ready) : ready.body.idempotencyKey = k :=
  (request_ok (post_ok h)).2.2.2.2.2

/-- The press waits for nothing but the key's image. -/
def Phase.resting : Phase V → Bool
  | .drawing _ => true
  | .alerting => true
  | .ended => true
  | _ => false

/-- The entry that a press is about to confirm, or has sent. -/
def Phase.confirms : Phase V → Option Pending
  | .executeToken _ entry => entry
  | .execute _ entry => entry
  | _ => none

def Fewer (d d' : Deck V) : Prop := ∀ k, d'.pending k = d.pending k ∨ d'.pending k = none

/-- A plan that leads to more than an image. -/
def Plan.takenUp (plan : Plan) : Bool :=
  plan.executable && plan.confirmation.all fun c => c.mode == .confirm

/-- What a step at press `task`, with settings `s`, does: the phase it was in, if the press is
not new, the one it is in now, and what is put out. -/
inductive Move (js : Globals V) (task : Nat) (s : ActionSettings) (d : Deck V) :
    Act → Option (Phase V) → Phase V → List (Output V) → Deck V → Prop where
  | planning (post : Post V) (d' : Deck V) :
      StreamDeck.post js s none true d.keys = .ok post → Fewer d d' → d'.keys = d.keys + 1 →
      d'.plans = d.plans → d'.unanswered = d.unanswered →
      Move js task s d (.press s) none (.planToken post) [] d'
  | confirming (entry : Pending) (post : Post V) (d' : Deck V) :
      d.pending (pendingKey s) = some entry → armDelayMs ≤ d.now - entry.armedAt →
      d.now - entry.armedAt ≤ pendingTtlMs →
      StreamDeck.post js s (some entry.challenge.token) false entry.idempotencyKey = .ok post →
      d'.pending = d.pending → d'.keys = d.keys → d'.plans = d.plans →
      d'.unanswered = d.unanswered →
      Move js task s d (.press s) none (.executeToken post (some entry)) [] d'
  | planSent (post : Post V) (d' : Deck V) :
      d'.pending = d.pending → d'.keys = d.keys → d'.plans = d.plans ++ [(s, post.body)] →
      d'.unanswered = d.unanswered →
      Move js task s d (.token task true) (some (.planToken post))
        (.plan post.body.idempotencyKey) [.plan s post] d'
  | arming (plan : Plan) (entry : Pending) (picture : Picture) (d' : Deck V) :
      plan.takenUp = true → plan.confirmation = some entry.challenge → entry.armedAt = d.now →
      (∀ k, d'.pending k = if k = pendingKey s then some entry else d.pending k) →
      d'.keys = d.keys → d'.plans = d.plans → d'.unanswered = d.unanswered →
      Move js task s d (.planAnswer task (.ok plan)) (some (.plan entry.idempotencyKey))
        (.drawing false) [.armed s entry, .image picture] d'
  | direct (plan : Plan) (idempotencyKey : Nat) (post : Post V) (d' : Deck V) :
      plan.takenUp = true → plan.confirmation = none →
      StreamDeck.post js s none false idempotencyKey = .ok post →
      d'.pending = d.pending → d'.keys = d.keys → d'.plans = d.plans →
      d'.unanswered = d.unanswered →
      Move js task s d (.planAnswer task (.ok plan)) (some (.plan idempotencyKey))
        (.executeToken post none) [] d'
  | sent (post : Post V) (entry : Option Pending) (d' : Deck V) :
      d'.pending = d.pending → d'.keys = d.keys → d'.plans = d.plans →
      d'.unanswered = d.unanswered ++ [(s, post.body.idempotencyKey)] →
      Move js task s d (.token task true) (some (.executeToken post entry))
        (.execute post.body.idempotencyKey entry) [.execute s post entry] d'
  | answered (act : Act) (idempotencyKey : Nat) (entry : Option Pending) (after : Phase V)
      (picture : Picture) (d' : Deck V) :
      after.resting = true → Fewer d d' → (entry.isSome = true → d'.pending (pendingKey s) = none) →
      d'.keys = d.keys → d'.plans = d.plans →
      d'.unanswered = d.unanswered.filter (fun x => x.2 ≠ idempotencyKey) →
      Move js task s d act (some (.execute idempotencyKey entry)) after
        [.answered idempotencyKey, .image picture] d'
  | rested (act : Act) (before : Option (Phase V)) (after : Phase V) (pictures : List Picture)
      (d' : Deck V) :
      after.resting = true → Fewer d d' →
      ((before.bind Phase.confirms).isSome = true → d'.pending (pendingKey s) = none) →
      d.keys ≤ d'.keys → d'.plans = d.plans → d'.unanswered = d.unanswered →
      Move js task s d act before after (pictures.map .image) d'

/-- One press is in another phase, and the others where they were. -/
structure Moves (js : Globals V) (task : Nat) (s : ActionSettings) (t : Int) (old : Deck V)
    (act : Act) (before : Option (Phase V)) (after : Phase V) (out : List (Output V))
    (d' : Deck V) : Prop where
  clock : old.now ≤ t
  later : d'.now = t
  was : old.tasks[task]? = before.map fun phase => (s, phase)
  tasks : ∀ j, d'.tasks[j]? = if j = task then some (s, after) else old.tasks[j]?
  move : Move js task s { old with now := t } act before after out d'

theorem Fewer.refl (d : Deck V) : Fewer d d := fun _ => .inl rfl

theorem fewer_delete (d : Deck V) (key : String) : Fewer d (d.delete key) := by
  intro k
  by_cases same : k = key
  · exact .inr (if_pos same)
  · exact .inl (if_neg same)

theorem delete_self (d : Deck V) (key : String) : (d.delete key).pending key = none :=
  if_pos rfl

/-- What a part of the handler does to the deck it finds. -/
def Does (js : Globals V) (task : Nat) (s : ActionSettings) (d : Deck V) (act : Act)
    (before : Option (Phase V)) (r : List (Output V) × Deck V) : Prop :=
  ∃ after, r.2.tasks = d.tasks.set task (s, after) ∧ r.2.now = d.now ∧
    Move js task s d act before after r.1 r.2

variable {task : Nat} {s : ActionSettings} {d : Deck V} {act : Act} {before : Option (Phase V)}

theorem fail_does (cause : Cause) : Does js task s d act before (fail task s d cause) :=
  ⟨.ended, rfl, rfl, .rested act before .ended [_] _ rfl (fewer_delete d (pendingKey s))
    (fun _ => delete_self d (pendingKey s)) (Nat.le_refl _) rfl rfl⟩

theorem draw_does (alert : Bool) (picture : Picture)
    (apart : (before.bind Phase.confirms).isSome = false) :
    Does js task s d act before (draw task s d alert picture) := by
  refine ⟨.drawing alert, rfl, rfl, .rested act before _ [picture] _ rfl (.refl d) ?_
    (Nat.le_refl _) rfl rfl⟩
  intro confirms
  rw [apart] at confirms
  cases confirms

theorem beginPlan_does (fresh : Deck V) (fewer : Fewer d fresh) (tasks : fresh.tasks = d.tasks)
    (now : fresh.now = d.now) (keys : fresh.keys = d.keys) (plans : fresh.plans = d.plans)
    (unanswered : fresh.unanswered = d.unanswered) :
    Does js task s d (.press s) none (beginPlan js task s fresh) := by
  unfold beginPlan
  cases made : post js s none true fresh.keys with
  | ok ready =>
    refine ⟨.planToken ready, ?_, now, .planning ready _ (keys ▸ made) fewer ?_ plans unanswered⟩
    · rw [← tasks]
      rfl
    · exact congrArg (· + 1) keys
  | error cause =>
    refine ⟨.ended, ?_, now, .rested _ _ _ [_] _ rfl ?_ nofun ?_ plans unanswered⟩
    · rw [← tasks]
      rfl
    · intro k
      rcases fewer_delete fresh (pendingKey s) k with same | gone
      · rcases fewer k with same' | gone'
        · exact .inl (same.trans same')
        · exact .inr (same.trans gone')
      · exact .inr gone
    · exact keys ▸ Nat.le_succ fresh.keys

theorem onKeyDown_does : Does js task s d (.press s) none (onKeyDown js task s d) := by
  unfold onKeyDown
  cases held : d.pending (pendingKey s) with
  | none => exact beginPlan_does d (.refl d) rfl rfl rfl rfl rfl
  | some existing =>
    dsimp only
    by_cases expired : pendingTtlMs < d.now - existing.armedAt
    · rw [if_pos expired]
      exact beginPlan_does _ (fewer_delete d (pendingKey s)) rfl rfl rfl rfl rfl
    · rw [if_neg expired]
      by_cases early : d.now - existing.armedAt < armDelayMs
      · rw [if_pos early]
        exact draw_does _ _ rfl
      · rw [if_neg early]
        unfold beginExecute
        cases made : post js s (some existing.challenge.token) false existing.idempotencyKey with
        | ok ready =>
          exact ⟨.executeToken ready (some existing), rfl, rfl, .confirming existing ready _ held
            (Int.not_lt.mp early) (Int.not_lt.mp expired) made rfl rfl rfl rfl⟩
        | error cause => exact fail_does cause

theorem afterPlan_does (idempotencyKey : Nat) (plan : Plan) :
    Does js task s d (.planAnswer task (.ok plan)) (some (.plan idempotencyKey))
      (afterPlan js task s d idempotencyKey plan) := by
  unfold afterPlan
  by_cases refused : plan.executable = false
  · rw [if_pos refused]
    exact draw_does _ _ rfl
  · rw [if_neg refused]
    have executable : plan.executable = true := by simpa using refused
    cases asked : plan.confirmation with
    | none =>
      have taken : plan.takenUp = true := by
        simp [Plan.takenUp, executable, asked]
      unfold beginExecute
      cases made : post js s none false idempotencyKey with
      | ok ready =>
        exact ⟨.executeToken ready none, rfl, rfl, .direct plan idempotencyKey ready _ taken asked
          made rfl rfl rfl rfl⟩
      | error cause => exact fail_does cause
    | some confirmation =>
      dsimp only
      by_cases unsupported : confirmation.mode ≠ .confirm
      · rw [if_pos unsupported]
        exact draw_does _ _ rfl
      · rw [if_neg unsupported]
        have taken : plan.takenUp = true := by
          simp [Plan.takenUp, executable, asked, not_not.mp unsupported]
        exact ⟨.drawing false, rfl, rfl, .arming plan ⟨confirmation, idempotencyKey, d.now⟩ _ _
          taken asked rfl (fun _ => rfl) rfl rfl rfl⟩

theorem receive_does (idempotencyKey : Nat) (entry : Option Pending) (r : ExecuteAnswer) :
    Does js task s d act (some (.execute idempotencyKey entry))
      (receive task s d idempotencyKey entry r) := by
  cases r with
  | job state =>
    refine ⟨.drawing false, ?_, ?_, .answered act idempotencyKey entry _ _ _ rfl ?_ ?_ ?_ ?_ ?_⟩
    · cases entry <;> rfl
    · cases entry <;> rfl
    · cases entry with
      | none => exact .refl d
      | some entry => exact fewer_delete d (pendingKey s)
    · cases entry with
      | none => nofun
      | some entry => exact fun _ => delete_self d (pendingKey s)
    · cases entry <;> rfl
    · cases entry <;> rfl
    · cases entry <;> rfl
  | denied =>
    exact ⟨.ended, rfl, rfl, .answered act idempotencyKey entry _ _ _ rfl
      (fewer_delete d (pendingKey s)) (fun _ => delete_self d (pendingKey s)) rfl rfl rfl⟩
  | failed => exact fail_does .other

theorem Does.moves {t : Int} {old : Deck V} {phase : Phase V} {r : List (Output V) × Deck V}
    (does : Does js task s { old with now := t } act (some phase) r) (clock : old.now ≤ t)
    (was : old.tasks[task]? = some (s, phase)) :
    ∃ after, Moves js task s t old act (some phase) after r.1 r.2 := by
  obtain ⟨after, tasks, now, move⟩ := does
  refine ⟨after, clock, now, was, ?_, move⟩
  intro j
  have bound := (List.getElem?_eq_some_iff.mp was).1
  rw [tasks, List.getElem?_set]
  by_cases same : j = task
  · rw [if_pos same, if_pos same.symm, if_pos bound]
  · rw [if_neg same, if_neg fun h => same h.symm]

theorem Move.press_tasks {after : Phase V} {out : List (Output V)} {d' : Deck V}
    (move : Move js task s d (.press s) none after out d')
    (tasks : List (ActionSettings × Phase V)) :
    Move js task s { d with tasks := tasks } (.press s) none after out d' := by
  cases move with
  | planning ready _ made fewer keys plans unanswered =>
    exact .planning ready _ made fewer keys plans unanswered
  | confirming entry ready _ held late live made pending keys plans unanswered =>
    exact .confirming entry ready _ held late live made pending keys plans unanswered
  | rested _ _ _ pictures _ rests fewer deleted keys plans unanswered =>
    exact .rested _ _ _ pictures _ rests fewer deleted keys plans unanswered

theorem press_moves {t : Int} {old : Deck V} {r : List (Output V) × Deck V}
    (does : Does js old.tasks.length s { old with now := t, tasks := old.tasks ++ [(s, .ended)] }
      (.press s) none r) (clock : old.now ≤ t) :
    ∃ after, Moves js old.tasks.length s t old (.press s) none after r.1 r.2 := by
  obtain ⟨after, tasks, now, move⟩ := does
  refine ⟨after, clock, now, List.getElem?_eq_none (Nat.le_refl _), ?_,
    move.press_tasks old.tasks⟩
  intro j
  rw [tasks, List.getElem?_set, List.length_append, List.length_singleton]
  by_cases same : j = old.tasks.length
  · rw [if_pos same, if_pos same.symm, if_pos (Nat.lt_succ_self _)]
  · rw [if_neg same, if_neg fun h => same h.symm]
    rcases Nat.lt_or_gt_of_ne same with below | above
    · exact List.getElem?_append_left below
    · have outside : old.tasks.length + 1 ≤ j := above
      rw [List.getElem?_eq_none (by simpa using outside), List.getElem?_eq_none (by omega)]

theorem sendPlan_does (ready : Post V) :
    Does js task s d (.token task true) (some (.planToken ready)) (sendPlan task s d ready) :=
  ⟨_, rfl, rfl, .planSent ready _ rfl rfl rfl rfl⟩

theorem sendExecute_does (ready : Post V) (entry : Option Pending) :
    Does js task s d (.token task true) (some (.executeToken ready entry))
      (sendExecute task s d ready entry) :=
  ⟨_, rfl, rfl, .sent ready entry _ rfl rfl rfl rfl⟩

theorem shown_does {phase : Phase V} (apart : phase.confirms = none) {after : Phase V}
    (rests : after.resting = true) :
    Does js task s d act (some phase) ([], d.enter task s after) := by
  refine ⟨after, rfl, rfl, .rested act _ after [] _ rests (.refl d) ?_ (Nat.le_refl _) rfl rfl⟩
  intro confirms
  rw [Option.bind_some, apart] at confirms
  cases confirms

theorem Does.step {t : Int} {old d' : Deck V} {phase : Phase V} {r : List (Output V) × Deck V}
    {out : List (Output V)} (does : Does js task s { old with now := t } act (some phase) r)
    (clock : old.now ≤ t) (was : old.tasks[task]? = some (s, phase))
    (h : some r = some (out, d')) :
    ∃ task s before after, Moves js task s t old act before after out d' := by
  obtain ⟨after, moves⟩ := does.moves clock was
  rw [Option.some.inj h] at moves
  exact ⟨task, s, _, after, moves⟩

theorem step_moves {t : Int} {old d' : Deck V} {out : List (Output V)}
    (h : step js t act old = some (out, d')) :
    ∃ task s before after, Moves js task s t old act before after out d' := by
  unfold step at h
  split at h
  · cases h
  · rename_i clock
    have clock := Int.not_lt.mp clock
    cases act with
    | press s =>
      obtain ⟨after, moves⟩ :=
        press_moves (r := onKeyDown js old.tasks.length s _) onKeyDown_does clock
      have same := Option.some.inj h
      rw [same] at moves
      exact ⟨_, s, none, after, moves⟩
    | token task arrived =>
      dsimp only at h
      split at h
      · rename_i s ready was
        cases arrived with
        | true => exact (sendPlan_does ready).step clock was h
        | false => exact (fail_does .other).step clock was h
      · rename_i s ready entry was
        cases arrived with
        | true => exact (sendExecute_does ready entry).step clock was h
        | false => exact (fail_does .other).step clock was h
      · cases h
    | planAnswer task answer =>
      dsimp only at h
      split at h
      · rename_i s idempotencyKey was
        cases answer with
        | ok plan => exact (afterPlan_does idempotencyKey plan).step clock was h
        | error cause => exact (fail_does cause).step clock was h
      · cases h
    | executeAnswer task answer =>
      dsimp only at h
      split at h
      · rename_i s idempotencyKey entry was
        exact (receive_does idempotencyKey entry answer).step clock was h
      · cases h
    | drawn task shown =>
      dsimp only at h
      split at h
      · rename_i s alert was
        cases shown with
        | true => exact (shown_does rfl (by cases alert <;> rfl)).step clock was h
        | false => exact (fail_does .other).step clock was h
      · rename_i s was
        cases shown with
        | true => exact (shown_does rfl rfl).step clock was h
        | false => exact (fail_does .other).step clock was h
      · cases h

end
end Deckhand.StreamDeck
