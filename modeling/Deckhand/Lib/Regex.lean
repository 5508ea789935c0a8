import Mathlib.Tactic.Common

/-! Regular expressions matched by backtracking, with the ways to match in the order in which they
are tried, and the search for matches that do not overlap. -/
namespace Deckhand.Lib

/-- Between two characters of a text: those before, the nearest first, and those after. -/
structure Place where
  before : List Char
  after : List Char
  deriving DecidableEq

/-- From one place to the other the text has these characters. -/
structure Place.Reads (p : Place) (w : List Char) (q : Place) : Prop where
  after : p.after = w ++ q.after
  before : q.before = w.reverse ++ p.before

inductive Regex where
  | empty
  | set (accepts : Char → Bool)
  | seq (r r' : Regex)
  | alt (r r' : Regex)
  | many (r : Regex) (least : Nat) (most : Option Nat)
  | notAhead (accepts : Char → Bool)
  | notBehind (accepts : Char → Bool)
  | boundary (word : Char → Bool)
  | start

/-- At least and at most so many steps, as many as possible first; a step that reads nothing is
none. -/
def repeated (step : Place → List Place) : Nat → Nat → Place → List Place
  | 0, least, p => if least = 0 then [p] else []
  | most + 1, least, p =>
    ((step p).filter fun q => q.after.length < p.after.length).flatMap
      (repeated step most (least - 1)) ++ if least = 0 then [p] else []

namespace Regex

def ways : Regex → Place → List Place
  | .empty, p => [p]
  | .set accepts, p =>
    match p.after with
    | c :: after => if accepts c then [⟨c :: p.before, after⟩] else []
    | [] => []
  | .seq r r', p => (r.ways p).flatMap r'.ways
  | .alt r r', p => r.ways p ++ r'.ways p
  | .many r least most, p => repeated r.ways (most.getD p.after.length) least p
  | .notAhead accepts, p => if p.after.head?.any accepts then [] else [p]
  | .notBehind accepts, p => if p.before.head?.any accepts then [] else [p]
  | .boundary word, p => if p.before.head?.any word != p.after.head?.any word then [p] else []
  | .start, p => if p.before = [] then [p] else []

/-- The first match that starts at a place and is not empty. -/
def matchAt (r : Regex) (p : Place) : Option Place :=
  (r.ways p).find? fun q => q.after.length < p.after.length

def search (r : Regex) : Nat → Place → List (Place × Place)
  | 0, _ => []
  | fuel + 1, p =>
    match r.matchAt p with
    | some q => (p, q) :: search r fuel q
    | none =>
      match p.after with
      | c :: after => search r fuel ⟨c :: p.before, after⟩
      | [] => []

def matches_ (r : Regex) (text : List Char) : List (Place × Place) :=
  r.search (text.length + 1) ⟨[], text⟩

def group (m : Place × Place) : List Char := m.1.after.take (m.1.after.length - m.2.after.length)

/-- `finditer`, and `group(0)` of each match. -/
def finditer (r : Regex) (text : List Char) : List (List Char) := (r.matches_ text).map group

def word (letter : Char → Char → Bool) : List Char → Regex
  | [] => .empty
  | c :: rest => .seq (.set (letter c)) (word letter rest)

end Regex

section Reading
variable {p q s : Place} {w v : List Char}

theorem reads_refl (p : Place) : p.Reads [] p := ⟨rfl, rfl⟩

theorem Place.Reads.trans (first : p.Reads w q) (rest : q.Reads v s) : p.Reads (w ++ v) s := by
  constructor
  · rw [first.after, rest.after, List.append_assoc]
  · rw [rest.before, first.before, List.reverse_append, List.append_assoc]

theorem Place.Reads.length (reads : p.Reads w q) :
    p.after.length = w.length + q.after.length := by
  rw [reads.after, List.length_append]

theorem reads_unique (first : p.Reads w q) (second : p.Reads w s) : q = s := by
  obtain ⟨before, after⟩ := q
  obtain ⟨before', after'⟩ := s
  have same := List.append_cancel_left (first.after.symm.trans second.after)
  have same' := first.before.trans second.before.symm
  dsimp only at same same'
  rw [same, same']

theorem group_reads (reads : p.Reads w q) : Regex.group (p, q) = w := by
  have size : p.after.length - q.after.length = w.length := by
    rw [reads.length]
    omega
  rw [Regex.group, size, reads.after, List.take_left]

theorem reads_split (reads : p.Reads (w ++ v) q) : ∃ s, p.Reads w s ∧ s.Reads v q := by
  refine ⟨⟨w.reverse ++ p.before, v ++ q.after⟩, ⟨?_, rfl⟩, ⟨rfl, ?_⟩⟩
  · rw [reads.after, List.append_assoc]
  · rw [reads.before, List.reverse_append, List.append_assoc]

theorem reads_between {v : List Char} (first : p.Reads w q) (second : p.Reads v s)
    (near : s.after.length ≤ q.after.length) : ∃ u, v = w ++ u ∧ q.Reads u s := by
  have long : w.length ≤ v.length := by
    have := first.length
    have := second.length
    omega
  have part : w <+: v := by
    have shorter : w <+: p.after := by
      rw [first.after]
      exact List.prefix_append _ _
    have longer : v <+: p.after := by
      rw [second.after]
      exact List.prefix_append _ _
    exact List.prefix_of_prefix_length_le shorter longer long
  obtain ⟨u, rfl⟩ := part
  obtain ⟨t, reads, rest⟩ := reads_split second
  rw [reads_unique first reads]
  exact ⟨u, rfl, rest⟩

end Reading

inductive Steps (step : Place → List Place) : Nat → Place → Place → Prop
  | zero (p : Place) : Steps step 0 p p
  | succ {p q s : Place} {n : Nat} (first : q ∈ step p) (forward : q.after.length < p.after.length)
      (rest : Steps step n q s) : Steps step (n + 1) p s

section Ways
variable {r r' : Regex} {accepts : Char → Bool} {p q : Place} {least most : Nat} {w : List Char}

theorem mem_repeated {step : Place → List Place} : q ∈ repeated step most least p ↔
    ∃ n, least ≤ n ∧ n ≤ most ∧ Steps step n p q := by
  induction most generalizing least p with
  | zero =>
    rw [repeated]
    constructor
    · intro member
      split at member
      · rename_i none
        rw [List.mem_singleton] at member
        exact ⟨0, by omega, Nat.le_refl 0, member ▸ .zero q⟩
      · cases member
    · rintro ⟨n, low, high, steps⟩
      obtain rfl := Nat.le_zero.mp high
      cases steps
      rw [if_pos (by omega)]
      exact List.mem_singleton_self q
  | succ most ih =>
    rw [repeated, List.mem_append, List.mem_flatMap]
    constructor
    · rintro (⟨t, first, rest⟩ | member)
      · obtain ⟨first, forward⟩ := List.mem_filter.mp first
        obtain ⟨n, low, high, steps⟩ := ih.mp rest
        exact ⟨n + 1, by omega, by omega, .succ first (of_decide_eq_true forward) steps⟩
      · split at member
        · rw [List.mem_singleton] at member
          exact ⟨0, by omega, by omega, member ▸ .zero q⟩
        · cases member
    · rintro ⟨n, low, high, steps⟩
      cases steps with
      | zero =>
        right
        rw [if_pos (by omega)]
        exact List.mem_singleton_self q
      | @succ _ t _ n first forward rest =>
        left
        exact ⟨t, List.mem_filter.mpr ⟨first, decide_eq_true forward⟩,
          ih.mpr ⟨n, by omega, by omega, rest⟩⟩

theorem mem_set : q ∈ (Regex.set accepts).ways p ↔ ∃ c, accepts c = true ∧ p.Reads [c] q := by
  obtain ⟨before, after⟩ := p
  constructor
  · intro member
    cases after with
    | nil => cases member
    | cons c after =>
      rw [Regex.ways] at member
      dsimp only at member
      split at member
      · rename_i accepted
        rw [List.mem_singleton.mp member]
        exact ⟨c, accepted, rfl, rfl⟩
      · cases member
  · rintro ⟨c, accepted, reads⟩
    obtain rfl : after = c :: q.after := reads.after
    have same : q = ⟨c :: before, q.after⟩ :=
      reads_unique reads ⟨rfl, rfl⟩
    rw [same]
    simp [Regex.ways, accepted]

theorem mem_seq : q ∈ (Regex.seq r r').ways p ↔ ∃ s ∈ r.ways p, q ∈ r'.ways s := List.mem_flatMap

theorem mem_many : q ∈ (Regex.many r least (some most)).ways p ↔
    ∃ n, least ≤ n ∧ n ≤ most ∧ Steps r.ways n p q := mem_repeated

theorem mem_notAhead :
    q ∈ (Regex.notAhead accepts).ways p ↔ q = p ∧ ∀ c ∈ p.after.head?, accepts c = false := by
  rw [Regex.ways]
  cases p.after.head? with
  | none => simp
  | some c => cases here : accepts c <;> simp [here]

theorem mem_notBehind :
    q ∈ (Regex.notBehind accepts).ways p ↔ q = p ∧ ∀ c ∈ p.before.head?, accepts c = false := by
  rw [Regex.ways]
  cases p.before.head? with
  | none => simp
  | some c => cases here : accepts c <;> simp [here]

theorem steps_set {n : Nat} : Steps (Regex.set accepts).ways n p q ↔
    ∃ w, w.length = n ∧ w.all accepts = true ∧ p.Reads w q := by
  constructor
  · intro steps
    induction steps with
    | zero p => exact ⟨[], rfl, rfl, reads_refl p⟩
    | succ first forward rest ih =>
      obtain ⟨c, accepted, reads⟩ := mem_set.mp first
      obtain ⟨w, size, all, later⟩ := ih
      exact ⟨c :: w, by rw [List.length_cons, size], by rw [List.all_cons, accepted, all]; rfl,
        reads.trans later⟩
  · rintro ⟨w, rfl, all, reads⟩
    induction w generalizing p with
    | nil =>
      obtain rfl := reads_unique reads (reads_refl p)
      exact .zero q
    | cons c w ih =>
      rw [List.all_cons, Bool.and_eq_true] at all
      obtain ⟨s, first, rest⟩ := reads_split (show p.Reads ([c] ++ w) q from reads)
      refine .succ (mem_set.mpr ⟨c, all.1, first⟩) ?_ (ih all.2 rest)
      rw [first.length, List.length_singleton]
      omega

theorem mem_many_set : q ∈ (Regex.many (.set accepts) least (some most)).ways p ↔
    ∃ w, least ≤ w.length ∧ w.length ≤ most ∧ w.all accepts = true ∧ p.Reads w q := by
  rw [mem_many]
  constructor
  · rintro ⟨n, low, high, steps⟩
    obtain ⟨w, rfl, all, reads⟩ := steps_set.mp steps
    exact ⟨w, low, high, all, reads⟩
  · rintro ⟨w, low, high, all, reads⟩
    exact ⟨w.length, low, high, steps_set.mpr ⟨w, rfl, all, reads⟩⟩

end Ways

section Search
variable {r : Regex} {p q s t : Place} {fuel : Nat} {w : List Char}

theorem matchAt_forward (found : r.matchAt p = some q) :
    q ∈ r.ways p ∧ q.after.length < p.after.length :=
  ⟨List.mem_of_find?_eq_some found, by simpa using List.find?_some found⟩

theorem search_sound (reads : ∀ {p q}, q ∈ r.ways p → ∃ w, p.Reads w q)
    (found : (s, t) ∈ r.search fuel p) : r.matchAt s = some t ∧ ∃ w, p.Reads w s := by
  induction fuel generalizing p with
  | zero => cases found
  | succ fuel ih =>
    rw [Regex.search] at found
    split at found
    · rename_i q here
      rcases List.mem_cons.mp found with same | found
      · obtain ⟨rfl, rfl⟩ := Prod.mk.inj same
        exact ⟨here, [], reads_refl _⟩
      · obtain ⟨w, first⟩ := reads (matchAt_forward here).1
        obtain ⟨matched, v, rest⟩ := ih found
        exact ⟨matched, w ++ v, first.trans rest⟩
    · split at found
      · rename_i c after here
        obtain ⟨matched, v, rest⟩ := ih found
        have first : p.Reads [c] ⟨c :: p.before, after⟩ := ⟨here, rfl⟩
        exact ⟨matched, [c] ++ v, first.trans rest⟩
      · cases found

theorem search_complete (reads : ∀ {p q}, q ∈ r.ways p → ∃ w, p.Reads w q)
    (matched : r.matchAt s = some t) (way : p.Reads w s) (enough : p.after.length < fuel)
    (apart : ∀ {s' t' w'}, s'.Reads w' s → w' ≠ [] → r.matchAt s' = some t' →
      s.after.length ≤ t'.after.length) : (s, t) ∈ r.search fuel p := by
  induction fuel generalizing p w with
  | zero => omega
  | succ fuel ih =>
    rw [Regex.search]
    by_cases here : w = []
    · subst here
      obtain rfl := reads_unique way (reads_refl p)
      rw [matched]
      exact List.mem_cons_self
    cases found : r.matchAt p with
    | some q =>
      obtain ⟨member, forward⟩ := matchAt_forward found
      obtain ⟨v, first⟩ := reads member
      obtain ⟨u, -, rest⟩ := reads_between first way (apart way here found)
      exact List.mem_cons_of_mem _ (ih rest (by omega))
    | none =>
      obtain ⟨c, v, rfl⟩ := List.exists_cons_of_ne_nil here
      obtain ⟨q, first, rest⟩ := reads_split (show p.Reads ([c] ++ v) s from way)
      have after : p.after = c :: q.after := first.after
      have same : q = ⟨c :: p.before, q.after⟩ := reads_unique first ⟨after, rfl⟩
      rw [after]
      dsimp only
      rw [← same]
      refine ih rest ?_
      rw [after, List.length_cons] at enough
      omega

end Search
end Deckhand.Lib
