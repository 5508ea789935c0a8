import Deckhand.Status

/-! The isolation of the status domains: when the summary returns a status value for every name,
and what the entry of a domain depends on. -/
namespace Deckhand
open Lib Lib.Prog

section Outcome
variable {F : Type}

/-- The kind of the error has the `value` that is asked of it. -/
def AdapterError.coded (e : AdapterError) : Bool := e.kind.value.isSome

/-- What a provider raises that the guard and the aggregator do not make an entry of: a
cancellation, what is no `Exception`, an adapter's error whose kind has no hash or no value. -/
def AdapterExn.spoils : AdapterExn → Bool
  | .cancelledError => true
  | .baseException _ => true
  | .adapterError e => !(e.coded && e.recordable)
  | _ => false

/-- The answers that the aggregator has no place for: what a provider raises of these, and a value
of another type that does not copy into a status value or raise an adapter's error. -/
def StatusOp.spoils : (op : StatusOp F) → op.Ret → Bool
  | .observe, .error x => x.spoils
  | .modelCopy .., .ok (.status _) => false
  | .modelCopy .., .error (.adapterError e) => !e.coded
  | .modelCopy .., _ => true
  | _, _ => false

/-- Whether a program was given an answer that spoils its end. -/
def spoiling : Ghost (@StatusOp.Ret F) Bool where
  possible op r := ∃ p g note g', op.run p g note = some (r, g')
  move spoilt op r := spoilt || op.spoils r

/-- What the guard's own steps answer where no wait is cancelled. -/
def GuardOp.Answers : (step : GuardOp) → step.Ret → Prop
  | .enterCircuit, r => r = .ok () ∨
    ∃ e, r = .error (.adapterError e) ∧ e.coded = true ∧ e.recordable = true
  | .sleep, r | .acquireSlot, r => r = .ok () ∨ r = .error .timeoutError
  | .factory _, _ => False
  | .takeToken, r => ∃ granted, r = .ok granted
  | .recordFailure e, r => r = if e.recordable then .ok () else .error unhashable
  | .recordSuccess, r | .recordCancellation, r | .releaseSlot, r => r = .ok ()

theorem step_answers {step : GuardOp} {p : ResiliencePolicy} {g g' : GuardState}
    {note : StatusNote F} {r : step.Ret}
    (h : (StatusOp.guard step).run p g note = some (r, g')) : step.Answers r := by
  obtain ⟨noted, given, run⟩ := Option.bind_eq_some_iff.mp h
  cases step with
  | enterCircuit =>
    have answer := congrArg Prod.fst (Option.some.inj run)
    cases entered : (g.enterCircuit p noted).1 with
    | ok => exact .inl (by simpa [entered, Except.mapError, eq_comm] using answer)
    | error e =>
      obtain ⟨message, state, rfl, -⟩ := enterCircuit_error _ _ entered
      exact .inr ⟨_, by simpa [entered, Except.mapError, eq_comm] using answer, rfl, rfl⟩
  | takeToken => exact ⟨_, (congrArg Prod.fst (Option.some.inj run)).symm⟩
  | sleep =>
    cases note with
    | wait finished =>
      cases finished with
      | true =>
        obtain rfl := Option.some.inj given
        exact .inl (congrArg Prod.fst (Option.some.inj run)).symm
      | false =>
        obtain rfl := Option.some.inj given
        exact .inr (congrArg Prod.fst (Option.some.inj run)).symm
    | _ => cases given
  | acquireSlot =>
    cases note with
    | wait finished =>
      cases finished with
      | true =>
        obtain rfl := Option.some.inj given
        simp only [if_true, GuardOp.run] at run
        split at run
        · cases run
        · exact .inl (congrArg Prod.fst (Option.some.inj run)).symm
      | false =>
        obtain rfl := Option.some.inj given
        exact .inr (congrArg Prod.fst (Option.some.inj run)).symm
    | _ => cases given
  | factory op => cases note <;> cases given
  | recordSuccess => exact (congrArg Prod.fst (Option.some.inj run)).symm
  | recordFailure error =>
    have same := recordFailure_isSome (p := p) g noted error
    change _ = if _ then _ else _
    rw [← same]
    simp only [GuardOp.run] at run
    split at run
    · rename_i g'' recorded
      simpa [recorded, eq_comm] using congrArg Prod.fst (Option.some.inj run)
    · rename_i raised
      simpa [raised, eq_comm] using congrArg Prod.fst (Option.some.inj run)
  | recordCancellation => exact (congrArg Prod.fst (Option.some.inj run)).symm
  | releaseSlot => exact (congrArg Prod.fst (Option.some.inj run)).symm

section Call
variable {α : Type} {spoilt : Bool} {progress : Progress}

theorem during_wp {step : GuardOp} {Q : Bool → Except (Progress × AdapterExn) step.Value → Prop}
    (h : ∀ r, step.Answers r → Q spoilt (r.mapError fun x => (progress, x))) :
    wp spoiling Q spoilt ((statusSteps (F := F)).during progress step) := by
  refine wp_invoke fun r possible => ?_
  obtain ⟨p, g, note, g', run⟩ := possible
  have same : (spoiling : Ghost (@StatusOp.Ret F) Bool).move spoilt (.guard step) r = spoilt := by
    change (spoilt || false) = spoilt
    exact Bool.or_false spoilt
  rw [same]
  exact h r (step_answers run)

/-- The call is spoilt exactly if it ends with what spoils it. -/
def Tainted (spoilt : Bool) : Except (Progress × AdapterExn) α → Prop
  | .ok _ => spoilt = false
  | .error x => spoilt = x.2.spoils

theorem acquireRateToken_wp (rounds : Nat) :
    wp spoiling Tainted false ((statusSteps (F := F)).acquireRateToken rounds) := by
  induction rounds with
  | zero =>
    exact rfl
  | succ rounds ih =>
    refine wp_bind (during_wp fun r answers => ?_)
    obtain ⟨granted, rfl⟩ := answers
    cases granted with
    | true => exact rfl
    | false =>
      refine wp_bind (during_wp fun r answers => ?_)
      rcases answers with rfl | rfl
      · exact ih
      · exact rfl

theorem body_wp (rounds : Nat) :
    wp spoiling Tainted false ((statusSteps (F := F)).body observeStatus rounds) := by
  refine wp_bind (during_wp fun r answers => ?_)
  rcases answers with rfl | ⟨e, rfl, coded, recordable⟩
  · refine wp_bind (wp_mono (acquireRateToken_wp rounds) fun spoilt r ended => ?_)
    cases r with
    | error x => exact ended
    | ok _ =>
      obtain rfl : spoilt = false := ended
      refine wp_bind (during_wp fun r answers => ?_)
      rcases answers with rfl | rfl
      · refine wp_bind (wp_invoke fun r _ => ?_)
        cases r with
        | error x => simp [Except.mapError, onward, Tainted, spoiling, StatusOp.spoils]
        | ok value =>
          refine wp_bind (during_wp fun r answers => ?_)
          obtain rfl := answers
          rfl
      · exact rfl
  · simp [Except.mapError, onward, Tainted, AdapterExn.spoils, coded, recordable]

/-- How a call of the guard ends: with the value of the operation, or with an adapter's error that
the aggregator can make an entry of, or spoilt. -/
def Guarded.Ends (spoilt : Bool) : Except AdapterExn α → Prop
  | .ok _ => spoilt = false
  | .error x => spoilt = false ↔ ∃ e, x = .adapterError e ∧ e.coded = true

def Handled (spoilt : Bool) (r : Except (Progress × AdapterExn) α) : Prop :=
  Guarded.Ends spoilt (r.mapError Prod.snd)

theorem handle_wp (unknown : Bool) {x : Progress × AdapterExn} (h : spoilt = x.2.spoils) :
    wp spoiling (Handled (α := α)) spoilt ((statusSteps (F := F)).handle unknown x) := by
  obtain ⟨progress, x⟩ := x
  subst h
  cases x with
  | timeoutError =>
    refine wp_bind (during_wp fun r answers => ?_)
    have recordable : (if progress.operationStarted && unknown then
        AdapterError.unknownOutcome "plugin operation timed out" []
      else ResilienceGuard.operationTimedOut).recordable = true := by split <;> rfl
    obtain rfl := answers.trans (if_pos recordable)
    refine iff_of_true rfl ⟨_, rfl, ?_⟩
    split <;> rfl
  | cancelledError =>
    refine wp_bind (during_wp fun r answers => ?_)
    obtain rfl := answers
    exact iff_of_false (by simp [AdapterExn.spoils]) (by simp)
  | adapterError e =>
    refine wp_bind (during_wp fun r answers => ?_)
    cases recordable : e.recordable with
    | true =>
      obtain rfl := answers.trans (if_pos recordable)
      change AdapterExn.spoils (.adapterError e) = false ↔ _
      simp [AdapterExn.spoils, recordable]
    | false =>
      obtain rfl := answers.trans (if_neg (by simp [recordable]))
      exact iff_of_false (by simp [AdapterExn.spoils, recordable]) (by simp [unhashable])
  | other message =>
    refine wp_bind (during_wp fun r answers => ?_)
    obtain rfl := answers.trans (if_pos rfl)
    exact iff_of_true rfl ⟨_, rfl, rfl⟩
  | baseException message => exact iff_of_false (by simp [AdapterExn.spoils]) (by simp)

theorem releaseSlot_wp {Q : Bool → Except AdapterExn α → Prop} {end_ : Except AdapterExn α}
    (h : Q spoilt end_) : wp spoiling Q spoilt
      ((statusSteps (F := F)).releaseSlot >>= fun _ => (.ret end_ : Observing F α)) := by
  refine wp_bind (wp_invoke fun r possible => ?_)
  obtain ⟨p, g, note, g', run⟩ := possible
  obtain rfl : r = .ok () := step_answers run
  have same : (spoiling : Ghost (@StatusOp.Ret F) Bool).move spoilt (.guard .releaseSlot) (.ok ()) =
      spoilt := Bool.or_false spoilt
  rw [same]
  exact h

theorem finish_wp {r : Except (Progress × AdapterExn) (Observed F)} (h : Handled spoilt r) :
    wp spoiling Guarded.Ends spoilt ((statusSteps (F := F)).finish r) := by
  cases r with
  | ok value => exact releaseSlot_wp h
  | error x =>
    obtain ⟨progress, x⟩ := x
    rw [GuardSteps.finish]
    by_cases acquired : progress.slotAcquired = true
    · rw [if_pos acquired]
      exact releaseSlot_wp h
    · rw [if_neg acquired]
      exact h

theorem call_wp (unknown : Bool) (rounds : Nat) : wp spoiling Guarded.Ends false
    ((statusSteps (F := F)).call observeStatus unknown rounds) := by
  refine wp_bind (wp_attempt (wp_tryCatch ?_))
  refine wp_mono (body_wp rounds) fun spoilt r ended => ?_
  cases r with
  | ok value => exact finish_wp ended
  | error x =>
    refine wp_mono (handle_wp unknown ended) fun spoilt r handled => ?_
    exact finish_wp handled

end Call

def Observed.isStatus : Observed F → Bool
  | .status _ => true
  | .foreign _ => false

/-- An observation that is not spoilt ends with a status value or with an adapter's error. -/
def Yielded (spoilt : Bool) : Except AdapterExn (Observed F) → Prop
  | .ok value => spoilt = false ↔ value.isStatus = true
  | .error x => spoilt = false ↔ ∃ e, x = .adapterError e ∧ e.coded = true

theorem observe_wp (number : Rat → Json) (rounds : Nat) :
    wp spoiling Yielded false (ResilientStatusProvider.observe (F := F) number rounds) := by
  refine wp_bind (wp_mono (call_wp false rounds) fun spoilt r ended => ?_)
  cases r with
  | error x => exact ended
  | ok value =>
    obtain rfl : spoilt = false := ended
    refine wp_bind (wp_invoke fun snapshot _ => ?_)
    cases value with
    | status value => exact iff_of_true rfl rfl
    | foreign value =>
      refine wp_invoke fun r _ => ?_
      cases r with
      | ok value => cases value <;> simp [Yielded, spoiling, StatusOp.spoils, Observed.isStatus]
      | error x => cases x <;> simp [Yielded, spoiling, StatusOp.spoils]

/-- A domain whose observation is not spoilt has a status value, and no other has. -/
def Summed (spoilt : Bool) (r : Except AdapterExn (Observed F)) : Prop :=
  spoilt = false ↔ ∃ value, r = .ok (.status value)

theorem domain_wp (number : Rat → Json) (rounds : Nat) : wp spoiling Summed false
    (StatusAggregator.domain (F := F) (some (ResilientStatusProvider.observe number rounds))) := by
  refine wp_tryCatch (wp_mono (observe_wp number rounds) fun spoilt r ended => ?_)
  cases r with
  | ok value =>
    cases value with
    | status value => exact iff_of_true (ended.mpr rfl) ⟨value, rfl⟩
    | foreign value =>
      refine iff_of_false (fun fine => ?_) (by simp)
      cases ended.mp fine
  | error x =>
    cases x with
    | adapterError e =>
      cases code : e.kind.value with
      | some errorCode =>
        obtain rfl := ended.mpr ⟨e, rfl, by simp [AdapterError.coded, code]⟩
        simp only [caught, code]
        refine wp_bind (wp_invoke fun now _ => ?_)
        exact iff_of_true rfl ⟨_, rfl⟩
      | none =>
        simp only [caught, code]
        refine iff_of_false (fun fine => ?_) (by simp)
        obtain ⟨_, same, coded⟩ := ended.mp fine
        cases same
        simp [AdapterError.coded, code] at coded
    | _ =>
      refine iff_of_false (fun fine => ?_) (by simp)
      obtain ⟨e, none, -⟩ := ended.mp fine
      cases none

end Outcome

theorem mapM_paired {α β : Type} {f : α → Option (α × β)} {P : α → β → Prop}
    (paired : ∀ a x, f a = some x ↔ x.1 = a ∧ P a x.2) {l : List α} {out : List (α × β)} :
    l.mapM f = some out ↔ out.map Prod.fst = l ∧ ∀ x ∈ out, P x.1 x.2 := by
  induction l generalizing out with
  | nil =>
    rw [List.mapM_nil, List.map_eq_nil_iff]
    constructor
    · intro empty
      obtain rfl := Option.some.inj empty
      exact ⟨rfl, fun x member => by cases member⟩
    · rintro ⟨rfl, -⟩
      rfl
  | cons a l ih =>
    rw [List.mapM_cons]
    constructor
    · intro h
      obtain ⟨x, here, rest⟩ := Option.bind_eq_some_iff.mp h
      obtain ⟨xs, there, same⟩ := Option.bind_eq_some_iff.mp rest
      obtain rfl := Option.some.inj same
      obtain ⟨key, own⟩ := (paired a x).mp here
      obtain ⟨keys, all⟩ := ih.mp there
      refine ⟨by rw [List.map_cons, key, keys], ?_⟩
      intro y member
      rcases List.mem_cons.mp member with rfl | member
      · rw [key]
        exact own
      · exact all y member
    · rintro ⟨keys, all⟩
      cases out with
      | nil => cases keys
      | cons x xs =>
        obtain ⟨rfl, rest⟩ := List.cons.inj keys
        have here := (paired x.1 x).mpr ⟨rfl, all x List.mem_cons_self⟩
        have there := ih.mpr ⟨rest, fun y member => all y (List.mem_cons_of_mem _ member)⟩
        rw [here, Option.bind_eq_bind, Option.bind_some, there]
        rfl

theorem exists_paired {α β : Type} {P : α → β → Prop} {l : List α} (values : ∀ a ∈ l, ∃ b, P a b) :
    ∃ out : List (α × β), out.map Prod.fst = l ∧ ∀ x ∈ out, P x.1 x.2 := by
  induction l with
  | nil => exact ⟨[], rfl, fun x member => by cases member⟩
  | cons a l ih =>
    obtain ⟨b, own⟩ := values a List.mem_cons_self
    obtain ⟨out, keys, all⟩ := ih fun a member => values a (List.mem_cons_of_mem _ member)
    refine ⟨(a, b) :: out, by rw [List.map_cons, keys], ?_⟩
    intro x member
    rcases List.mem_cons.mp member with rfl | member
    · exact own
    · exact all x member

section Run
variable {F : Type}

def Prog.isEnded {Op : Type} {Ret : Op → Type} {ε α : Type} : Prog Ret ε α → Bool
  | .ret _ => true
  | .call .. => false

def StatusAct.about (name : String) : StatusAct F → Bool
  | .step n _ => n = name
  | .others .. => false

/-- The step gives an observation an answer that spoils it. -/
def StatusAct.spoils (act : StatusAct F) (h : Hub F) : Bool :=
  match act with
  | .step name (.outcome r) =>
    match h.tasks name with
    | .call .observe _ => StatusOp.spoils .observe r
    | .call (.modelCopy value snapshot) _ => StatusOp.spoils (.modelCopy value snapshot) r
    | _ => false
  | _ => false

/-- No provider raises a cancellation, what is no `Exception`, or an adapter's error whose kind has
no hash or no value; and what is no status value copies into one or raises an adapter's error. -/
def Behaved (log : List (StatusEvent F)) : Prop := ∀ e ∈ log, e.op.spoils e.pre = false

def spoiltBy (name : String) (log : List (StatusEvent F)) : Bool :=
  log.any fun e => e.op.about name && e.op.spoils e.pre

def Hub.Done (c : StatusRegistry) (h : Hub F) : Prop :=
  ∀ name ∈ c.names, Prog.isEnded (h.tasks name) = true

/-- The summary returned a status value for every name. -/
def Hub.Summarized (c : StatusRegistry) (h : Hub F) : Prop :=
  ∃ entries, h.summary c = some (.ok entries) ∧ entries.map Prod.fst = c.names ∧
    ∀ x ∈ entries, x.2.isStatus = true

def Hub.entry (c : StatusRegistry) (h : Hub F) (name : String) : Option (Observed F) :=
  match h.summary c with
  | some (.ok entries) => (entries.find? fun x => x.1 = name).map Prod.snd
  | _ => none

def StatusAct.plugin (c : StatusRegistry) : StatusAct F → Option String
  | .step name _ => c.plugin? name
  | .others plugin _ => some plugin

/-- What a run has of one plugin: what its providers did, and what became of its guard. -/
def actsOn (c : StatusRegistry) (plugin : String) (log : List (StatusEvent F)) :
    List (StatusAct F) :=
  (log.map Event.op).filter fun act => act.plugin c = some plugin

section
variable {c : StatusRegistry} {act : StatusAct F} {h h' : Hub F} {name : String}

theorem mem_names : name ∈ c.names ↔ ∃ plugin, c.plugin? name = some plugin := by
  rw [StatusRegistry.names, List.mem_insertionSort, List.mem_map]
  constructor
  · rintro ⟨x, member, rfl⟩
    cases found : c.providers.find? fun y => y.1 = x.1 with
    | none => simpa using List.find?_eq_none.mp found x member
    | some y => exact ⟨y.2, by rw [StatusRegistry.plugin?, found, Option.map_some]⟩
  · rintro ⟨plugin, found⟩
    obtain ⟨x, here, -⟩ := Option.map_eq_some_iff.mp found
    exact ⟨x, List.mem_of_find?_eq_some here, by simpa using List.find?_some here⟩

theorem act_cases (run : act.run c h = some h') :
    (∃ plugin guard, act = .others plugin guard ∧
      h' = { h with guards := Function.update h.guards plugin guard }) ∨
    ∃ name note plugin op k r guard, act = .step name note ∧ c.plugin? name = some plugin ∧
      h.tasks name = .call op k ∧
      op.run (c.policy plugin) (h.guards plugin) note = some (r, guard) ∧
      h' = ⟨Function.update h.guards plugin guard, Function.update h.tasks name (k r),
        h.raised.or (raisedBy (k r))⟩ := by
  cases act with
  | others plugin guard => exact .inl ⟨plugin, guard, rfl, (Option.some.inj run).symm⟩
  | step name note =>
    unfold StatusAct.run at run
    dsimp only at run
    split at run
    · rename_i plugin op k found task
      obtain ⟨⟨r, guard⟩, answer, rfl⟩ := Option.map_eq_some_iff.mp run
      exact .inr ⟨name, note, plugin, op, k, r, guard, rfl, found, task, answer, rfl⟩
    · cases run

theorem spoils_answer {op : StatusOp F} {k : op.Ret → Observation F} {p : ResiliencePolicy}
    {g g' : GuardState} {note : StatusNote F} {r : op.Ret} (task : h.tasks name = .call op k)
    (run : op.run p g note = some (r, g')) :
    (StatusAct.step name note).spoils h = op.spoils r := by
  cases op with
  | guard step => cases note <;> simp [StatusAct.spoils, StatusOp.spoils, task]
  | observe =>
    cases note with
    | outcome r' =>
      obtain rfl := congrArg Prod.fst (Option.some.inj run)
      simp [StatusAct.spoils, task]
    | _ => cases run
  | snapshot => cases note <;> simp [StatusAct.spoils, StatusOp.spoils, task]
  | modelCopy value snapshot =>
    cases note with
    | outcome r' =>
      obtain rfl := congrArg Prod.fst (Option.some.inj run)
      simp [StatusAct.spoils, task]
    | _ => cases run
  | datetimeNow => cases note <;> simp [StatusAct.spoils, StatusOp.spoils, task]

/-- Where the observations are after a run, and that an exception is kept if one raised it. -/
structure Hub.Gathers (c : StatusRegistry) (log : List (StatusEvent F)) (h : Hub F) : Prop where
  tasks : ∀ name, wp spoiling Summed (spoiltBy name log) (h.tasks name)
  raised : h.raised = none ↔ ∀ name ∈ c.names, raisedBy (h.tasks name) = none

variable {log : List (StatusEvent F)}

theorem spoiltBy_snoc (e : StatusEvent F) : spoiltBy name (log ++ [e]) =
    (spoiltBy name log || (e.op.about name && e.op.spoils e.pre)) := by
  rw [spoiltBy, List.any_append, List.any_cons, List.any_nil, Bool.or_false, spoiltBy]

theorem start_gathers (guards : String → GuardState) :
    (Hub.start (F := F) c guards).Gathers c [] := by
  constructor
  · intro name
    exact domain_wp c.number (c.rounds name)
  · exact iff_of_true rfl fun name _ => rfl

theorem gathers_step {e : StatusEvent F} (here : e.pre.Gathers c log)
    (run : e.op.run c e.pre = some e.post) : e.post.Gathers c (log ++ [e]) := by
  rcases act_cases run with ⟨plugin, guard, act, post⟩ |
    ⟨name, note, plugin, op, k, r, guard, act, found, task, answer, post⟩
  · rw [post]
    refine ⟨fun n => ?_, here.raised⟩
    rw [spoiltBy_snoc, act]
    change wp spoiling Summed (spoiltBy n log || false) (e.pre.tasks n)
    rw [Bool.or_false]
    exact here.tasks n
  · have spoils := spoils_answer task answer
    rw [← act] at spoils
    rw [post]
    constructor
    · intro n
      rw [spoiltBy_snoc, spoils, act]
      by_cases same : n = name
      · subst same
        have before := here.tasks n
        rw [task] at before
        have after := before r ⟨_, _, _, _, answer⟩
        simpa [StatusAct.about, spoiling] using after
      · simpa [StatusAct.about, Ne.symm same, Function.update_of_ne same] using here.tasks n
    · have waiting : raisedBy (e.pre.tasks name) = none := by rw [task]; rfl
      have member : name ∈ c.names := mem_names.mpr ⟨plugin, found⟩
      rw [Option.or_eq_none_iff, here.raised]
      constructor
      · rintro ⟨others, own⟩ n among
        by_cases same : n = name
        · subst same
          simpa using own
        · simpa [Function.update_of_ne same] using others n among
      · intro all
        refine ⟨fun n among => ?_, by simpa using all name member⟩
        by_cases same : n = name
        · rw [same]
          exact waiting
        · simpa [Function.update_of_ne same] using all n among

theorem run_gathers {guards : String → GuardState}
    (run : Trace (statusSem c) (Hub.start c guards) log h) : h.Gathers c log := by
  induction run with
  | nil => exact start_gathers guards
  | snoc log e _ valid ih => exact gathers_step ih valid

theorem valued_iff {x : String × Observed F} :
    h.valued name = some x ↔ x.1 = name ∧ h.tasks name = .ret (.ok x.2) := by
  obtain ⟨key, value⟩ := x
  unfold Hub.valued
  split
  · rename_i value' task
    rw [task, Option.some.injEq, Prod.mk.injEq]
    constructor
    · rintro ⟨rfl, rfl⟩
      exact ⟨rfl, rfl⟩
    · rintro ⟨rfl, same⟩
      exact ⟨rfl, by simpa using same⟩
  · rename_i other
    exact iff_of_false (by simp) fun h => other value h.2

theorem summary_iff {entries : List (String × Observed F)} :
    h.summary c = some (.ok entries) ↔ h.raised = none ∧ entries.map Prod.fst = c.names ∧
      ∀ x ∈ entries, h.tasks x.1 = .ret (.ok x.2) := by
  unfold Hub.summary
  cases raised : h.raised with
  | some x => simp
  | none =>
    rw [← mapM_paired (P := fun name value => h.tasks name = .ret (.ok value))
      fun name x => valued_iff]
    simp

/-- The summary gives each name a status value exactly if no step spoilt an observation. -/
theorem summarized_iff (gathers : h.Gathers c log) (done : h.Done c)
    (known : ∀ e ∈ log, e.op.spoils e.pre = true → ∃ name ∈ c.names, e.op.about name = true) :
    h.Summarized c ↔ Behaved log := by
  constructor
  · rintro ⟨entries, summary, keys, status⟩ e member
    by_contra spoils
    rw [Bool.not_eq_false] at spoils
    obtain ⟨name, named, about⟩ := known e member spoils
    obtain ⟨-, -, tasks⟩ := summary_iff.mp summary
    rw [← keys] at named
    obtain ⟨x, among, rfl⟩ := List.mem_map.mp named
    have summed := gathers.tasks x.1
    rw [tasks x among] at summed
    have fine : spoiltBy x.1 log = false := by
      refine summed.mpr ?_
      cases kind : x.2 with
      | status value => exact ⟨value, rfl⟩
      | foreign value =>
        have own := status x among
        rw [kind] at own
        cases own
    rw [spoiltBy, List.any_eq_false] at fine
    exact fine e member (by rw [about, spoils]; rfl)
  · intro behaved
    have valued : ∀ name ∈ c.names, ∃ value, h.tasks name = .ret (.ok (.status value)) := by
      intro name member
      have summed := gathers.tasks name
      have fine : spoiltBy name log = false := by
        rw [spoiltBy, List.any_eq_false]
        intro e among
        rw [behaved e among, Bool.and_false]
        exact Bool.false_ne_true
      cases task : h.tasks name with
      | call op k =>
        have ended := done name member
        rw [task] at ended
        cases ended
      | ret r =>
        rw [task] at summed
        obtain ⟨value, rfl⟩ := summed.mp fine
        exact ⟨value, rfl⟩
    have calm : h.raised = none := by
      rw [gathers.raised]
      intro name member
      obtain ⟨value, task⟩ := valued name member
      rw [task]
      rfl
    obtain ⟨entries, keys, tasks⟩ := exists_paired (l := c.names)
      (P := fun name value => h.tasks name = .ret (.ok value) ∧ value.isStatus = true)
      fun name member => (valued name member).imp' .status fun value task => ⟨task, rfl⟩
    exact ⟨entries, summary_iff.mpr ⟨calm, keys, fun x among => (tasks x among).1⟩, keys,
      fun x among => (tasks x among).2⟩

theorem spoils_known (run : act.run c h = some h') (spoils : act.spoils h = true) :
    ∃ name ∈ c.names, act.about name = true := by
  rcases act_cases run with ⟨plugin, guard, rfl, -⟩ |
    ⟨name, note, plugin, op, k, r, guard, rfl, found, -⟩
  · cases spoils
  · exact ⟨name, mem_names.mpr ⟨plugin, found⟩, by simp [StatusAct.about]⟩

end

/-- Two states agree on a plugin: on its guard and on the observations of its providers. -/
structure Hub.Agree (c : StatusRegistry) (plugin : String) (h g : Hub F) : Prop where
  guards : h.guards plugin = g.guards plugin
  tasks : ∀ name, c.plugin? name = some plugin → h.tasks name = g.tasks name

def Hub.follow (c : StatusRegistry) (h : Hub F) (acts : List (StatusAct F)) : Option (Hub F) :=
  acts.foldlM (fun h act => act.run c h) h

section Unwinding
variable {c : StatusRegistry} {plugin : String} {act : StatusAct F} {h h' g : Hub F}
  {log log' : List (StatusEvent F)}

theorem elsewhere (run : act.run c h = some h') (other : act.plugin c ≠ some plugin) :
    h'.Agree c plugin h := by
  rcases act_cases run with ⟨p, guard, rfl, rfl⟩ |
    ⟨name, note, p, op, k, r, guard, rfl, found, task, answer, rfl⟩
  · have apart : plugin ≠ p := fun same => other (by rw [same]; rfl)
    exact ⟨Function.update_of_ne apart _ _, fun n _ => rfl⟩
  · have apart : plugin ≠ p := fun same => other (by rw [same]; exact found)
    refine ⟨Function.update_of_ne apart _ _, fun n of => Function.update_of_ne ?_ _ _⟩
    rintro rfl
    exact apart (Option.some.inj (of.symm.trans found))

theorem on_plugin (run : act.run c h = some h') (own : act.plugin c = some plugin)
    (same : h.Agree c plugin g) : ∃ g', act.run c g = some g' ∧ h'.Agree c plugin g' := by
  rcases act_cases run with ⟨p, guard, rfl, rfl⟩ |
    ⟨name, note, p, op, k, r, guard, rfl, found, task, answer, rfl⟩
  · obtain rfl : p = plugin := Option.some.inj own
    refine ⟨_, rfl, ?_, same.tasks⟩
    dsimp only
    rw [Function.update_self, Function.update_self]
  · obtain rfl : p = plugin := Option.some.inj (found.symm.trans own)
    rw [same.guards] at answer
    rw [same.tasks name found] at task
    refine ⟨⟨Function.update g.guards p guard, Function.update g.tasks name (k r),
      g.raised.or (raisedBy (k r))⟩, ?_, ?_, fun n of => ?_⟩
    · simp only [StatusAct.run, found, task, answer, Option.map_some]
    · dsimp only
      rw [Function.update_self, Function.update_self]
    · by_cases own : n = name
      · subst own
        dsimp only
        rw [Function.update_self, Function.update_self]
      · dsimp only
        rw [Function.update_of_ne own, Function.update_of_ne own]
        exact same.tasks n of

theorem actsOn_snoc (e : StatusEvent F) : actsOn c plugin (log ++ [e]) =
    actsOn c plugin log ++ if e.op.plugin c = some plugin then [e.op] else [] := by
  rw [actsOn, List.map_append, List.filter_append, List.map_singleton, List.filter_singleton,
      actsOn]
  by_cases own : e.op.plugin c = some plugin <;> simp [own]

theorem run_follows_plugin {start : Hub F} (plugin : String)
    (run : Trace (statusSem c) start log h) :
    ∃ g, start.follow c (actsOn c plugin log) = some g ∧ h.Agree c plugin g := by
  induction run with
  | nil => exact ⟨start, rfl, rfl, fun _ _ => rfl⟩
  | snoc log e _ valid ih =>
    obtain ⟨g, follows, same⟩ := ih
    rw [actsOn_snoc]
    by_cases own : e.op.plugin c = some plugin
    · obtain ⟨g', run, next⟩ := on_plugin valid own same
      refine ⟨g', ?_, next⟩
      rw [if_pos own, Hub.follow, List.foldlM_append]
      change (start.follow c (actsOn c plugin log)).bind _ = _
      rw [follows, Option.bind_some, List.foldlM_cons, run]
      rfl
    · have away := elsewhere valid own
      refine ⟨g, ?_, away.guards.trans same.guards, fun n of => ?_⟩
      · rw [if_neg own, List.append_nil]
        exact follows
      · exact (away.tasks n of).trans (same.tasks n of)

theorem runs_agree {start h₁ h₂ : Hub F} (run : Trace (statusSem c) start log h₁)
    (run' : Trace (statusSem c) start log' h₂)
    (same : actsOn c plugin log = actsOn c plugin log') : h₁.Agree c plugin h₂ := by
  obtain ⟨g, follows, agree⟩ := run_follows_plugin plugin run
  obtain ⟨g', follows', agree'⟩ := run_follows_plugin plugin run'
  rw [same, follows'] at follows
  obtain rfl := Option.some.inj follows
  exact ⟨agree.guards.trans agree'.guards.symm,
    fun n of => (agree.tasks n of).trans (agree'.tasks n of).symm⟩

end Unwinding

section Entry
variable {c : StatusRegistry} {name : String} {h : Hub F}

theorem entry_of_summary {entries : List (String × Observed F)} {value : Observed F}
    (summary : h.summary c = some (.ok entries)) (member : name ∈ c.names)
    (task : h.tasks name = .ret (.ok value)) : h.entry c name = some value := by
  obtain ⟨-, keys, tasks⟩ := summary_iff.mp summary
  rw [← keys] at member
  obtain ⟨x, among, key⟩ := List.mem_map.mp member
  cases found : entries.find? fun x => x.1 = name with
  | none => simpa [key] using List.find?_eq_none.mp found x among
  | some y =>
    have keyed : y.1 = name := by simpa using List.find?_some found
    have own := tasks y (List.mem_of_find?_eq_some found)
    rw [keyed, task] at own
    have same : value = y.2 := Except.ok.inj (Prog.ret.inj own)
    rw [Hub.entry, summary]
    dsimp only
    rw [found, Option.map_some, same]

theorem Hub.Summarized.entry (here : h.Summarized c) (member : name ∈ c.names) :
    ∃ value, h.tasks name = .ret (.ok value) ∧ h.entry c name = some value := by
  obtain ⟨entries, summary, keys, -⟩ := here
  obtain ⟨-, -, tasks⟩ := summary_iff.mp summary
  have named := member
  rw [← keys] at named
  obtain ⟨x, among, rfl⟩ := List.mem_map.mp named
  exact ⟨x.2, tasks x among, entry_of_summary summary member (tasks x among)⟩

end Entry
end Run

namespace Sample

theorem domains_distinct : ([("a", "pa"), ("b", "pb")].map Prod.fst).Nodup := by decide

/-- Two plugins with one domain each. -/
def domains : StatusRegistry where
  providers := [("a", "pa"), ("b", "pb")]
  distinct := domains_distinct
  policy _ := ⟨8, 20, 20, 5, 30⟩
  rounds _ := 1
  number _ := .null

def queried (name : String) (r : Except AdapterExn (Observed Unit)) : List (StatusAct Unit) :=
  [.step name (.clock 1), .step name (.clock 1), .step name (.wait true), .step name (.outcome r),
    .step name (.clock 2), .step name (.clock 2), .step name (.clock 2)]

def fine : Except AdapterExn (Observed Unit) := .ok (.status ⟨"healthy", 0, 30, []⟩)

/-- The provider of `a` returns a value without a `model_copy`. -/
def wrongType : List (StatusAct Unit) :=
  queried "a" (.ok (.foreign ())) ++
    .step "a" (.outcome (.error (.other "AttributeError"))) :: queried "b" fine

def rightTypes : List (StatusAct Unit) := queried "a" fine ++ queried "b" fine

def observedBy (acts : List (StatusAct Unit)) : Option (List (StatusEvent Unit) × Hub Unit) :=
  attempt (fun act _ h => (act.run domains h).map fun h' => ((), h'))
    (.start domains fun _ => (domains.policy "").start 0) (acts.map fun act => ⟨act, ()⟩)

/-- Whether all observations have ended, whether one raised, and whether `b` has an entry. -/
def domainFacts (run : List (StatusEvent Unit) × Hub Unit) : Bool × Bool × Bool :=
  (domains.names.all fun name => Prog.isEnded (run.2.tasks name), run.2.raised.isSome,
    (run.2.entry domains "b").isSome)

theorem observed_run {acts : List (StatusAct Unit)} {raised entry : Bool}
    (h : (observedBy acts).map domainFacts = some (true, raised, entry)) :
    ∃ log hub, Trace (statusSem domains) (.start domains fun _ => (domains.policy "").start 0)
      log hub ∧ hub.Done domains ∧ log.map Event.op = acts ∧ hub.raised.isSome = raised ∧
      (hub.entry domains "b").isSome = entry := by
  obtain ⟨⟨log, hub⟩, run, facts⟩ := Option.map_eq_some_iff.mp h
  obtain ⟨done, rest⟩ := Prod.mk.inj facts
  obtain ⟨raised, entry⟩ := Prod.mk.inj rest
  refine ⟨log, hub, ?_, List.all_eq_true.mp done, ?_, raised, entry⟩
  · have trace := attempt_trace run
    clear run done raised entry facts rest
    induction trace with
    | nil => exact .nil
    | snoc log e _ valid ih =>
      obtain ⟨h', step, same⟩ := Option.map_eq_some_iff.mp valid
      obtain ⟨-, rfl⟩ := Prod.mk.inj same
      exact .snoc log e ih step
  · have ops := attempt_ops run
    rw [List.map_map] at ops
    exact ops.trans (List.map_id acts)

end Sample

end Deckhand
