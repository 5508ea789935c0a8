import Deckhand.Lib.Canonical

/-! A weight of JSON values that writing keeps and the JSON mode lowers wherever it changes
anything: so what is written tells whether it did. -/
namespace Deckhand.Lib

def marks (s : PyStr) : Nat := s.countP fun c => c.val ≠ 0xfffd

/-- The weight of a key is that of what is written of it. -/
def keyWeight (k : PyStr) : Nat := marks (join k)

mutual
/-- A float that is not finite weighs more than the null that the JSON mode puts in its place. -/
def Json.weight : Json → Nat
  | .float .nan => 2
  | .float (.infinity _) => 2
  | .arr items => weightItems items
  | .obj members => weightMembers members
  | _ => 1

def weightItems : List Json → Nat
  | [] => 0
  | j :: rest => j.weight + weightItems rest

def weightMembers : List (PyStr × Json) → Nat
  | [] => 0
  | (k, j) :: rest => keyWeight k + j.weight + weightMembers rest
end

section Keys

theorem surrogate_marks {c : CodePoint} (surrogate : isSurrogate c = true) :
    marks [c] = 1 := by
  have bound : 0xd800 ≤ c.val ∧ c.val < 0xe000 := by simpa [isSurrogate] using surrogate
  have other : c.val ≠ 0xfffd := by omega
  simp [marks, other]

theorem replaced_marks : marks (List.replicate 3 0xfffd) = 0 := by
  rw [marks, List.countP_eq_zero]
  intro c member
  rw [List.eq_of_mem_replicate member]
  simp

theorem marks_append (s t : PyStr) : marks (s ++ t) = marks s + marks t := List.countP_append

theorem marks_cons (c : CodePoint) (s : PyStr) : marks (c :: s) = marks [c] + marks s :=
  marks_append [c] s

theorem lossy_cons (c : CodePoint) (s : PyStr) :
    lossy (c :: s) = (if isSurrogate c then List.replicate 3 0xfffd else [c]) ++ lossy s := by
  rw [lossy, List.flatMap_cons, lossy]

theorem lossy_marks (s : PyStr) : marks (lossy s) ≤ marks (join s) ∧
    (marks (lossy s) = marks (join s) → encodable s = true) := by
  have alone : ∀ c : CodePoint,
      marks (if isSurrogate c then List.replicate 3 0xfffd else [c]) ≤ marks [c] ∧
      (marks (if isSurrogate c then List.replicate 3 0xfffd else [c]) = marks [c] →
        isSurrogate c = false) := by
    intro c
    by_cases surrogate : isSurrogate c = true
    · rw [if_pos surrogate, replaced_marks, surrogate_marks surrogate]
      simp
    · rw [if_neg surrogate]
      exact ⟨Nat.le_refl _, fun _ => by simpa using surrogate⟩
  induction s using join.induct with
  | case1 => exact ⟨Nat.le_refl _, fun _ => rfl⟩
  | case2 c =>
    obtain ⟨less, same⟩ := alone c
    rw [lossy_cons, show lossy [] = [] from rfl, List.append_nil, join]
    exact ⟨less, fun h => by simp [encodable, same h]⟩
  | case3 c d rest together ih =>
    obtain ⟨less, -⟩ := ih
    obtain ⟨high, low⟩ := Bool.and_eq_true .. |>.mp together
    have first := high_surrogate high
    have second : isSurrogate d = true := by
      simp only [isLow, isSurrogate, Bool.and_eq_true, decide_eq_true_eq] at low ⊢
      omega
    have joined : marks [pair c d] = 1 := by
      have other : (pair c d).val ≠ 0xfffd := by
        rw [pair_val]
        omega
      simp [marks, other]
    rw [lossy_cons, lossy_cons, if_pos first, if_pos second, join, if_pos together, marks_append,
      marks_append, replaced_marks, marks_cons, joined]
    omega
  | case4 c d rest apart ih =>
    obtain ⟨less, same⟩ := ih
    obtain ⟨less', same'⟩ := alone c
    rw [lossy_cons, join, if_neg apart, marks_append, marks_cons c (join (d :: rest))]
    refine ⟨by omega, fun h => ?_⟩
    have later := encodable_iff.mp (same (by omega))
    exact encodable_iff.mpr (List.forall_mem_cons.mpr ⟨same' (by omega), later⟩)

theorem lossy_keyWeight (k : PyStr) : keyWeight (lossy k) ≤ keyWeight k ∧
    (keyWeight (lossy k) = keyWeight k → encodable k = true) := by
  have plain : join (lossy k) = lossy k := join_of_joined (scalar_joined (lossy_encodable k))
  rw [keyWeight, plain, keyWeight]
  exact lossy_marks k

end Keys

section Weights

theorem weightMembers_perm {ms ns : List (PyStr × Json)} (perm : ms.Perm ns) :
    weightMembers ms = weightMembers ns := by
  induction perm with
  | nil => rfl
  | cons m _ ih => rw [weightMembers, weightMembers, ih]
  | swap m n rest =>
    simp only [weightMembers]
    omega
  | trans _ _ first second => exact first.trans second

theorem weightMembers_sublist {ms ns : List (PyStr × Json)} (part : ms.Sublist ns) :
    weightMembers ms ≤ weightMembers ns := by
  induction part with
  | slnil => exact Nat.le_refl _
  | cons m _ ih => exact ih.trans (Nat.le_add_left ..)
  | cons_cons m _ ih => exact Nat.add_le_add_left ih _

theorem weightMembers_ofPairs (ms : List (PyStr × Json)) :
    weightMembers (ofPairs ms) ≤ weightMembers ms := by
  obtain ⟨kept, perm, part⟩ := ofPairs_subperm ms
  rw [← weightMembers_perm perm]
  exact weightMembers_sublist part

mutual
theorem weight_sorted : ∀ j : Json, j.sorted.weight = j.weight
  | .null => rfl
  | .bool _ => rfl
  | .int _ => rfl
  | .float _ => rfl
  | .str _ => rfl
  | .arr items => weight_sortedItems items
  | .obj ms => (weightMembers_perm (sortKeys_perm _)).trans (weight_sortedMembers ms)

theorem weight_sortedItems : ∀ items : List Json,
    weightItems (sortedItems items) = weightItems items
  | [] => rfl
  | j :: rest => by
    rw [sortedItems, weightItems, weightItems, weight_sorted j, weight_sortedItems rest]

theorem weight_sortedMembers : ∀ ms : List (PyStr × Json),
    weightMembers (sortedMembers ms) = weightMembers ms
  | [] => rfl
  | (k, j) :: rest => by
    rw [sortedMembers, weightMembers, weightMembers, weight_sorted j, weight_sortedMembers rest]
end

mutual
theorem weight_joined : ∀ j : Json, j.joined.weight = j.weight
  | .null => rfl
  | .bool _ => rfl
  | .int _ => rfl
  | .float _ => rfl
  | .str _ => rfl
  | .arr items => weight_joinedItems items
  | .obj ms => weight_joinedMembers ms

theorem weight_joinedItems : ∀ items : List Json,
    weightItems (joinedItems items) = weightItems items
  | [] => rfl
  | j :: rest => by
    rw [joinedItems, weightItems, weightItems, weight_joined j, weight_joinedItems rest]

theorem weight_joinedMembers : ∀ ms : List (PyStr × Json),
    weightMembers (joinedMembers ms) = weightMembers ms
  | [] => rfl
  | (k, j) :: rest => by
    have key : keyWeight (join k) = keyWeight k := congrArg marks (join_join k)
    rw [joinedMembers, weightMembers, weightMembers, key, weight_joined j,
      weight_joinedMembers rest]
end

theorem weight_written (j : Json) : j.written.weight = j.weight :=
  (weight_joined j.sorted).trans (weight_sorted j)

mutual
theorem weight_jsonMode : ∀ j : Json, j.jsonMode.weight ≤ j.weight
  | .null => Nat.le_refl _
  | .bool _ => Nat.le_refl _
  | .int _ => Nat.le_refl _
  | .float (.finite _ _) => Nat.le_refl _
  | .float .nan => Nat.le_succ 1
  | .float (.infinity _) => Nat.le_succ 1
  | .str _ => Nat.le_refl _
  | .arr items => weight_jsonModeItems items
  | .obj ms => (weightMembers_ofPairs _).trans (weight_jsonModeMembers ms)

theorem weight_jsonModeItems : ∀ items : List Json,
    weightItems (jsonModeItems items) ≤ weightItems items
  | [] => Nat.le_refl _
  | j :: rest => Nat.add_le_add (weight_jsonMode j) (weight_jsonModeItems rest)

theorem weight_jsonModeMembers : ∀ ms : List (PyStr × Json),
    weightMembers (jsonModeMembers ms) ≤ weightMembers ms
  | [] => Nat.le_refl _
  | (k, j) :: rest => Nat.add_le_add
      (Nat.add_le_add (lossy_keyWeight k).1 (weight_jsonMode j)) (weight_jsonModeMembers rest)
end

mutual
theorem standard_of_weight : ∀ {j : Json}, j.jsonMode.weight = j.weight → j.standard = true
  | .null, _ => rfl
  | .bool _, _ => rfl
  | .int _, _ => rfl
  | .float (.finite _ _), _ => rfl
  | .float .nan, same => nomatch same
  | .float (.infinity _), same => nomatch same
  | .str _, _ => rfl
  | .arr items, same => every_arr.mpr (standardItems_of_weight items same)
  | .obj ms, same => by
    refine every_obj.mpr (standardMembers_of_weight ms ?_)
    have fewer := weightMembers_ofPairs (jsonModeMembers ms)
    have lighter := weight_jsonModeMembers ms
    have whole : weightMembers (ofPairs (jsonModeMembers ms)) = weightMembers ms := same
    omega

theorem standardItems_of_weight : ∀ items : List Json,
    weightItems (jsonModeItems items) = weightItems items → ∀ j ∈ items, j.standard = true
  | [], _ => List.forall_mem_nil _
  | j :: rest, same => by
    have first := weight_jsonMode j
    have others := weight_jsonModeItems rest
    have whole : j.jsonMode.weight + weightItems (jsonModeItems rest) =
      j.weight + weightItems rest := same
    exact List.forall_mem_cons.mpr
      ⟨standard_of_weight (by omega), standardItems_of_weight rest (by omega)⟩

theorem standardMembers_of_weight : ∀ ms : List (PyStr × Json),
    weightMembers (jsonModeMembers ms) = weightMembers ms →
    ∀ m ∈ ms, encodable m.1 = true ∧ m.2.standard = true
  | [], _ => List.forall_mem_nil _
  | (k, j) :: rest, same => by
    obtain ⟨name, plain⟩ := lossy_keyWeight k
    have first := weight_jsonMode j
    have others := weight_jsonModeMembers rest
    have whole : keyWeight (lossy k) + j.jsonMode.weight + weightMembers (jsonModeMembers rest) =
      keyWeight k + j.weight + weightMembers rest := same
    have key : keyWeight (lossy k) = keyWeight k := by omega
    have value : j.jsonMode.weight = j.weight := by omega
    exact List.forall_mem_cons.mpr ⟨⟨plain key, standard_of_weight value⟩,
      standardMembers_of_weight rest (by omega)⟩
end

theorem written_jsonMode_iff {j : Json} (distinct : j.Distinct) :
    j.jsonMode.written = j.written ↔ j.standard = true := by
  constructor
  · intro same
    apply standard_of_weight
    rw [← weight_written j.jsonMode, same, weight_written]
  · intro standard
    rw [jsonMode_of_standard standard distinct]

end Weights

end Deckhand.Lib
