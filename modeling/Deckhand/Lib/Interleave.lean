import Deckhand.Lib.Prog
import Mathlib.Algebra.BigOperators.Group.Finset.Piecewise

/-! Any number of programs on one shared state, one call at a time. Programs may be
started at any moment and may stop for good between any two of their calls.

The result used downstream is `Run`: the log is a trace of the calls, and every call in
it is the next call of a program that has seen exactly its own earlier answers. -/
namespace Deckhand.Lib

section
variable {σ Op Start : Type} {Note Ret : Op → Type} {ε α : Type}

/-- A started program is kept with what it was started from; `none` once it crashed. -/
structure Config (σ Start : Type) {Op : Type} (Note Ret : Op → Type) (ε α : Type) where
  state : σ
  log : List (Event σ Note Ret)
  procs : List (Start × Option (Prog Ret ε α))

def Config.initial (s : σ) : Config σ Start Note Ret ε α := ⟨s, [], []⟩

def Config.started (c : Config σ Start Note Ret ε α) (i : Nat) : Option Start :=
  c.procs[i]?.map Prod.fst

/-- The program with number `i` ended with `r`. -/
def Config.Ended (c : Config σ Start Note Ret ε α) (i : Nat) (r : Except ε α) : Prop :=
  ∃ st, c.procs[i]? = some (st, some (.ret r))

inductive Step (sem : Semantics σ Note Ret) (code : Start → Prog Ret ε α) :
    Config σ Start Note Ret ε α → Config σ Start Note Ret ε α → Prop where
  | spawn (c : Config σ Start Note Ret ε α) (st : Start) :
      Step sem code c { c with procs := c.procs ++ [(st, some (code st))] }
  | call (c : Config σ Start Note Ret ε α) (i : Nat) (st : Start) (op : Op)
      (k : Ret op → Prog Ret ε α) (note : Note op) (r : Ret op) (post : σ) :
      c.procs[i]? = some (st, some (.call op k)) → sem op c.state note r post →
      Step sem code c
        ⟨post, c.log ++ [⟨i, op, c.state, note, r, post⟩], c.procs.set i (st, some (k r))⟩
  | crash (c : Config σ Start Note Ret ε α) (i : Nat) (st : Start) (p : Option (Prog Ret ε α)) :
      c.procs[i]? = some (st, p) → Step sem code c { c with procs := c.procs.set i (st, none) }

inductive Reachable (sem : Semantics σ Note Ret) (code : Start → Prog Ret ε α) (s : σ) :
    Config σ Start Note Ret ε α → Prop where
  | start : Reachable sem code s (.initial s)
  | step {c d : Config σ Start Note Ret ε α} :
      Reachable sem code s c → Step sem code c d → Reachable sem code s d

theorem Reachable.mono {sem sem' : Semantics σ Note Ret} {code : Start → Prog Ret ε α} {s : σ}
    {c : Config σ Start Note Ret ε α}
    (wider : ∀ op s note r t, sem op s note r t → sem' op s note r t)
    (h : Reachable sem code s c) : Reachable sem' code s c := by
  induction h with
  | start => exact .start
  | step _ step ih =>
    refine .step ih ?_
    cases step with
    | spawn st => exact .spawn _ st
    | call i st op k note r post stands answers =>
      exact .call _ i st op k note r post stands (wider op _ note r post answers)
    | crash i st p there => exact .crash _ i st p there

def localOf (i : Nat) (log : List (Event σ Note Ret)) : List (Event σ Note Ret) :=
  log.filter fun e => e.caller == i

@[simp] theorem localOf_nil (i : Nat) : localOf i ([] : List (Event σ Note Ret)) = [] := rfl

@[simp] theorem localOf_append (i : Nat) (a b : List (Event σ Note Ret)) :
    localOf i (a ++ b) = localOf i a ++ localOf i b := List.filter_append ..

theorem localOf_snoc_self (log : List (Event σ Note Ret)) (e : Event σ Note Ret) :
    localOf e.caller (log ++ [e]) = localOf e.caller log ++ [e] := by
  simp [localOf]

theorem localOf_snoc_other {i : Nat} (log : List (Event σ Note Ret)) {e : Event σ Note Ret}
    (other : e.caller ≠ i) : localOf i (log ++ [e]) = localOf i log := by
  simp [localOf, other]

theorem localOf_sublist (i : Nat) (log : List (Event σ Note Ret)) :
    (localOf i log).Sublist log := List.filter_sublist

theorem mem_of_localOf {i : Nat} {log : List (Event σ Note Ret)} {e : Event σ Note Ret}
    (h : e ∈ localOf i log) : e ∈ log ∧ e.caller = i := by
  simpa [localOf] using h

/-- A caller's event has its place in the whole log, with the caller's earlier events before it. -/
theorem localOf_split {i : Nat} {log xs ys : List (Event σ Note Ret)} {e : Event σ Note Ret}
    (h : localOf i log = xs ++ e :: ys) : ∃ a b, log = a ++ e :: b ∧ localOf i a = xs := by
  obtain ⟨a, rest, rfl, first, later⟩ := List.filter_eq_append_iff.mp h
  obtain ⟨skipped, b, rfl, others, -, -⟩ := List.filter_eq_cons_iff.mp later
  refine ⟨a ++ skipped, b, by simp, ?_⟩
  rw [localOf_append, localOf, first, localOf, List.filter_eq_nil_iff.mpr others, List.append_nil]

theorem countP_callers (counted : Event σ Note Ret → Bool) {n : Nat}
    {log : List (Event σ Note Ret)} (callers : ∀ e ∈ log, e.caller < n) :
    log.countP counted = ∑ i ∈ Finset.range n, (localOf i log).countP counted := by
  induction log with
  | nil => simp
  | cons e log ih =>
    have rest := ih fun d member => callers d (List.mem_cons_of_mem _ member)
    have mine : ∀ i, (localOf i (e :: log)).countP counted =
        (localOf i log).countP counted + if i = e.caller then [e].countP counted else 0 := by
      intro i
      by_cases own : i = e.caller
      · subst own
        rw [if_pos rfl, localOf, List.filter_cons_of_pos (by simp), List.countP_cons,
          List.countP_singleton]
        rfl
      · rw [if_neg own, localOf, List.filter_cons_of_neg (by simpa using Ne.symm own)]
        rfl
    rw [Finset.sum_congr rfl fun i _ => mine i, Finset.sum_add_distrib, ← rest,
      Finset.sum_ite_eq', if_pos (Finset.mem_range.mpr (callers e List.mem_cons_self)),
      List.countP_cons, List.countP_singleton]

/-- Every event of the log is the next call of the program its caller was started from,
after exactly the answers that caller had received before. -/
def Origin (code : Start → Prog Ret ε α) (started : Nat → Option Start)
    (log : List (Event σ Note Ret)) : Prop :=
  ∀ a e b, log = a ++ e :: b →
    ∃ st, started e.caller = some st ∧ (code st).Calls (localOf e.caller a) e.op

structure Run (sem : Semantics σ Note Ret) (code : Start → Prog Ret ε α) (s : σ)
    (started : Nat → Option Start) (log : List (Event σ Note Ret)) (t : σ) : Prop where
  trace : Trace sem s log t
  origin : Origin code started log

variable {sem : Semantics σ Note Ret} {code : Start → Prog Ret ε α} {s t : σ}
  {started : Nat → Option Start}

theorem Origin.left {a b : List (Event σ Note Ret)} (h : Origin code started (a ++ b)) :
    Origin code started a := by
  intro x e y whole
  exact h x e (y ++ b) (by rw [whole]; simp)

theorem Run.until {a b : List (Event σ Note Ret)} {e : Event σ Note Ret}
    (h : Run sem code s started (a ++ e :: b) t) : Run sem code s started a e.pre :=
  ⟨h.trace.split.1, h.origin.left⟩

theorem Run.through {a b : List (Event σ Note Ret)} {e : Event σ Note Ret}
    (h : Run sem code s started (a ++ e :: b) t) : Run sem code s started (a ++ [e]) e.post := by
  obtain ⟨before, valid, -⟩ := h.trace.split
  have whole : a ++ e :: b = (a ++ [e]) ++ b := by simp
  exact ⟨.snoc a e before valid, (whole ▸ h.origin).left⟩

theorem Run.visit {log : List (Event σ Note Ret)} {u : σ} (h : Run sem code s started log t)
    (visit : u ∈ visited s log) : ∃ a b, log = a ++ b ∧ Run sem code s started a u := by
  rcases List.mem_cons.mp visit with rfl | member
  · exact ⟨[], log, rfl, .nil, fun a e b whole => by simp at whole⟩
  · obtain ⟨e, among, rfl⟩ := List.mem_map.mp member
    obtain ⟨a, b, rfl⟩ := List.append_of_mem among
    exact ⟨a ++ [e], b, by simp, h.through⟩

theorem Run.valid {a b : List (Event σ Note Ret)} {e : Event σ Note Ret}
    (h : Run sem code s started (a ++ e :: b) t) : e.Valid sem := h.trace.split.2.1

theorem Run.calls {a b : List (Event σ Note Ret)} {e : Event σ Note Ret}
    (h : Run sem code s started (a ++ e :: b) t) :
    ∃ st, started e.caller = some st ∧ (code st).Calls (localOf e.caller a) e.op :=
  h.origin a e b rfl

/-- The induction along a run: a property of the log and the state that holds at the
start and that every event keeps, given where the event comes from. -/
theorem Run.induction {P : List (Event σ Note Ret) → σ → Prop} (start : P [] s)
    (keep : ∀ log e, Run sem code s started log e.pre → e.Valid sem →
      (∃ st, started e.caller = some st ∧ (code st).Calls (localOf e.caller log) e.op) →
      P log e.pre → P (log ++ [e]) e.post)
    {log : List (Event σ Note Ret)} (h : Run sem code s started log t) : P log t := by
  obtain ⟨trace, origin⟩ := h
  induction trace with
  | nil => exact start
  | snoc log e before valid ih =>
    exact keep log e ⟨before, origin.left⟩ valid (origin log e [] rfl) (ih origin.left)

/-- Where the program of a live process stands: after the answers it has received. -/
def Position (code : Start → Prog Ret ε α) (c : Config σ Start Note Ret ε α) : Prop :=
  ∀ i st p, c.procs[i]? = some (st, some p) → (code st).Steps (localOf i c.log) p

theorem reachable_callers {c : Config σ Start Note Ret ε α} (h : Reachable sem code s c) :
    ∀ e ∈ c.log, e.caller < c.procs.length := by
  induction h with
  | start => intro e he; cases he
  | step _ step ih =>
    intro e he
    cases step with
    | spawn => exact Nat.lt_of_lt_of_le (ih e he) (by simp)
    | call i st op k note r post here =>
      rw [List.length_set]
      rcases List.mem_append.mp he with he | he
      · exact ih e he
      · obtain rfl : e = _ := List.mem_singleton.mp he
        exact (List.getElem?_eq_some_iff.mp here).1
    | crash => simpa using ih e he

theorem localOf_fresh {i : Nat} {log : List (Event σ Note Ret)}
    (h : ∀ e ∈ log, e.caller < i) : localOf i log = [] := by
  refine List.filter_eq_nil_iff.mpr fun e he => ?_
  have := h e he
  simp; omega

theorem reachable_position {c : Config σ Start Note Ret ε α} (h : Reachable sem code s c) :
    Position code c := by
  induction h with
  | start => intro i st p hp; simp [Config.initial] at hp
  | @step c d before step ih =>
    cases step with
    | spawn st' =>
      intro i st p hp
      by_cases old : i < c.procs.length
      · exact ih i st p (by simpa [List.getElem?_append_left old] using hp)
      · rw [List.getElem?_append_right (by omega), List.getElem?_singleton] at hp
        split at hp
        · rename_i at_end
          obtain ⟨rfl, rfl⟩ : st' = st ∧ code st' = p := by simpa using hp
          obtain rfl : i = c.procs.length := by omega
          rw [show localOf c.procs.length c.log = [] from
            localOf_fresh (reachable_callers before)]
          exact .nil _
        · cases hp
    | call i st op k note r post here _ =>
      intro j st' p hp
      by_cases same : i = j
      · subst same
        rw [List.getElem?_set_self (List.getElem?_eq_some_iff.mp here).1] at hp
        obtain ⟨rfl, rfl⟩ : st = st' ∧ k r = p := by simpa using hp
        have whole := localOf_snoc_self c.log (⟨i, op, c.state, note, r, post⟩ : Event σ Note Ret)
        rw [whole]
        exact (ih i st _ here).snoc _ r (.mk ..)
      · rw [List.getElem?_set_ne same] at hp
        rw [localOf_snoc_other c.log same]
        exact ih j st' p hp
    | crash i st p here =>
      intro j st' q hq
      by_cases same : i = j
      · subst same
        rw [List.getElem?_set_self (List.getElem?_eq_some_iff.mp here).1] at hq
        simp at hq
      · rw [List.getElem?_set_ne same] at hq
        exact ih j st' q hq

theorem step_started {c d : Config σ Start Note Ret ε α} (h : Step sem code c d) {i : Nat}
    {st : Start} (at_c : c.started i = some st) : d.started i = some st := by
  obtain ⟨p, hp⟩ : ∃ p, c.procs[i]? = some (st, p) := by
    simpa [Config.started, Option.map_eq_some_iff] using at_c
  have bound := (List.getElem?_eq_some_iff.mp hp).1
  cases h with
  | spawn => simp [Config.started, List.getElem?_append_left bound, hp]
  | call j st' op k note r post here =>
    by_cases same : j = i
    · subst same
      simp_all [Config.started]
    · simp [Config.started, List.getElem?_set_ne same, hp]
  | crash j st' p here =>
    by_cases same : j = i
    · subst same
      simp_all [Config.started]
    · simp [Config.started, List.getElem?_set_ne same, hp]

theorem reachable_run {c : Config σ Start Note Ret ε α} (h : Reachable sem code s c) :
    Run sem code s c.started c.log c.state := by
  induction h with
  | start => exact ⟨.nil, fun a e b whole => by simp [Config.initial] at whole⟩
  | @step c d before step ih =>
    have started : ∀ {i st}, c.started i = some st → d.started i = some st := step_started step
    have old : ∀ a e b, c.log = a ++ e :: b →
        ∃ st, d.started e.caller = some st ∧ (code st).Calls (localOf e.caller a) e.op := by
      intro a e b whole
      obtain ⟨st, hst, calls⟩ := ih.origin a e b whole
      exact ⟨st, started hst, calls⟩
    cases step with
    | spawn => exact ⟨ih.trace, old⟩
    | crash => exact ⟨ih.trace, old⟩
    | call i st op k note r post here sound =>
      refine ⟨.snoc c.log ⟨i, op, c.state, note, r, post⟩ ih.trace sound, ?_⟩
      intro a e b whole
      rcases List.eq_nil_or_concat b with rfl | ⟨b', last, rfl⟩
      · obtain ⟨rfl, he⟩ := List.append_inj' whole rfl
        obtain rfl := List.head_eq_of_cons_eq he
        refine ⟨st, started ?_, k, reachable_position before i st _ here⟩
        simp [Config.started, here]
      · have whole' : c.log ++ [(⟨i, op, c.state, note, r, post⟩ : Event σ Note Ret)] =
            (a ++ e :: b') ++ [last] := by simpa using whole
        exact old a e b' (List.append_inj' whole' rfl).1

theorem reachable_returns {c : Config σ Start Note Ret ε α} (h : Reachable sem code s c)
    {i : Nat} {st : Start} {r : Except ε α} (started : c.started i = some st)
    (ended : c.Ended i r) : (code st).Returns (localOf i c.log) r := by
  obtain ⟨st', hp⟩ := ended
  obtain rfl : st' = st := by simpa [Config.started, hp] using started
  exact reachable_position h i st' _ hp

/-- One move of a run that is played out: a program is started, is answered, or crashes. -/
inductive Act (σ Start : Type) {Op : Type} (Note Ret : Op → Type) where
  | spawn (st : Start)
  | call (i : Nat) (respond : (op : Op) → σ → Option (Note op × Ret op × σ))
  | crash (i : Nat)

def Act.Sound (sem : Semantics σ Note Ret) : Act σ Start Note Ret → Prop
  | .call _ respond => ∀ op s note r t, respond op s = some (note, r, t) → sem op s note r t
  | _ => True

def Config.act (code : Start → Prog Ret ε α) (c : Config σ Start Note Ret ε α) :
    Act σ Start Note Ret → Option (Config σ Start Note Ret ε α)
  | .spawn st => some { c with procs := c.procs ++ [(st, some (code st))] }
  | .call i respond =>
    match c.procs[i]? with
    | some (st, some (.call op k)) =>
      (respond op c.state).map fun (note, r, post) =>
        ⟨post, c.log ++ [⟨i, op, c.state, note, r, post⟩], c.procs.set i (st, some (k r))⟩
    | _ => none
  | .crash i =>
    match c.procs[i]? with
    | some (st, _) => some { c with procs := c.procs.set i (st, none) }
    | none => none

def Config.play (code : Start → Prog Ret ε α) (c : Config σ Start Note Ret ε α) :
    List (Act σ Start Note Ret) → Option (Config σ Start Note Ret ε α)
  | [] => some c
  | a :: rest => (c.act code a).bind fun d => d.play code rest

theorem Config.act_step {c d : Config σ Start Note Ret ε α} {a : Act σ Start Note Ret}
    (sound : a.Sound sem) (h : c.act code a = some d) : Step sem code c d := by
  cases a with
  | spawn st =>
    cases Option.some.inj h
    exact .spawn c st
  | call i respond =>
    simp only [Config.act] at h
    split at h
    · rename_i st op k here
      obtain ⟨⟨note, r, post⟩, answer, rfl⟩ := Option.map_eq_some_iff.mp h
      exact .call c i st op k note r post here (sound op _ _ _ _ answer)
    · cases h
  | crash i =>
    simp only [Config.act] at h
    split at h
    · rename_i st p here
      cases Option.some.inj h
      exact .crash c i st p here
    · cases h

def Act.spawned : Act σ Start Note Ret → Option Start
  | .spawn st => some st
  | _ => none

theorem Config.act_starts {c d : Config σ Start Note Ret ε α} {a : Act σ Start Note Ret}
    (h : c.act code a = some d) :
    d.procs.map Prod.fst = c.procs.map Prod.fst ++ a.spawned.toList := by
  have set : ∀ (i : Nat) (st : Start) (p q : Option (Prog Ret ε α)), c.procs[i]? = some (st, p) →
      (c.procs.set i (st, q)).map Prod.fst = c.procs.map Prod.fst := by
    intro i st p q here
    have at_i : (c.procs.map Prod.fst)[i]? = some st := by rw [List.getElem?_map, here]; rfl
    obtain ⟨bound, rfl⟩ := List.getElem?_eq_some_iff.mp at_i
    rw [List.map_set, List.set_getElem_self]
  cases a with
  | spawn st =>
    cases Option.some.inj h
    simp [Act.spawned]
  | call i respond =>
    simp only [Config.act] at h
    split at h
    · rename_i st op k here
      obtain ⟨⟨note, r, post⟩, -, rfl⟩ := Option.map_eq_some_iff.mp h
      simp [Act.spawned, set i st _ _ here]
    · cases h
  | crash i =>
    simp only [Config.act] at h
    split at h
    · rename_i st p here
      cases Option.some.inj h
      simp [Act.spawned, set i st p none here]
    · cases h

theorem Config.play_starts {c d : Config σ Start Note Ret ε α} {acts : List (Act σ Start Note Ret)}
    (h : c.play code acts = some d) :
    d.procs.map Prod.fst = c.procs.map Prod.fst ++ acts.filterMap Act.spawned := by
  induction acts generalizing c with
  | nil =>
    cases Option.some.inj h
    simp
  | cons a rest ih =>
    obtain ⟨middle, first, later⟩ := Option.bind_eq_some_iff.mp h
    rw [ih later, Config.act_starts first, List.append_assoc]
    cases spawned : a.spawned <;> simp [spawned]

theorem Config.play_reachable {c d : Config σ Start Note Ret ε α}
    {acts : List (Act σ Start Note Ret)} (sound : ∀ a ∈ acts, a.Sound sem)
    (before : Reachable sem code s c) (h : c.play code acts = some d) :
    Reachable sem code s d := by
  induction acts generalizing c with
  | nil =>
    cases Option.some.inj h
    exact before
  | cons a rest ih =>
    obtain ⟨middle, first, later⟩ := Option.bind_eq_some_iff.mp h
    exact ih (fun b hb => sound b (by simp [hb]))
      (before.step (Config.act_step (sound a (by simp)) first)) later

end
end Deckhand.Lib
