import Deckhand.Lib.PyWrite

/-! What was written is read just if it keeps within the reader's limits: no integer has too many
digits, and lists and objects are not nested too deep. -/
namespace Deckhand.Lib

section Sequences
variable {α : Type} {close : CodePoint} {item : Scanner α}

def Taken (item : Scanner α) (text : PyStr) : Prop :=
  ∃ x, ∀ after, Stops after → item (text ++ after) = .ok (x, after)

def Refused (item : Scanner α) (text : PyStr) : Prop :=
  ∀ after, Stops after → ∃ e, item (text ++ after) = .error e

theorem readSequence_refused {texts : List PyStr} (n : Nat) (tail : PyStr)
    (each : ∀ t ∈ texts, Taken item t ∨ Refused item t) (one : ∃ t ∈ texts, Refused item t)
    (starts : ∀ t ∈ texts, ∃ c rest, t = c :: rest ∧ isSpace c = false)
    (closing : isSpace close = false ∧ extendsNumber close = false ∧ close ≠ codePoint ',') :
    ∃ e, readSequence close item n (comma.intercalate texts ++ close :: tail) = .error e := by
  induction texts generalizing n with
  | nil =>
    obtain ⟨t, none, -⟩ := one
    cases none
  | cons t texts ih =>
    cases n with
    | zero => exact ⟨_, rfl⟩
    | succ n =>
      have stop : Stops (codePoint ',' :: (comma.intercalate texts ++ close :: tail)) :=
        stops_cons (by decide)
      have whole : ∃ after, Stops after ∧ comma.intercalate (t :: texts) ++ close :: tail =
          t ++ after ∧ (texts ≠ [] →
            after = codePoint ',' :: (comma.intercalate texts ++ close :: tail)) := by
        cases texts with
        | nil =>
          exact ⟨close :: tail, stops_cons closing.2.1, by simp [List.intercalate],
            fun some_text => absurd rfl some_text⟩
        | cons u texts =>
          exact ⟨_, stop, by simp [List.intercalate_cons_cons, comma], fun _ => rfl⟩
      obtain ⟨after, stops, split, more⟩ := whole
      rw [split, readSequence]
      rcases each t List.mem_cons_self with ⟨x, taken⟩ | refused
      · by_cases here : Refused item t
        · obtain ⟨e, failed⟩ := here after stops
          exact ⟨e, by rw [failed]; rfl⟩
        · have later : ∃ u ∈ texts, Refused item u := by
            obtain ⟨u, member, refused⟩ := one
            rcases List.mem_cons.mp member with rfl | member
            · exact absurd refused here
            · exact ⟨u, member, refused⟩
          have some_text : texts ≠ [] := by
            rintro rfl
            obtain ⟨u, none, -⟩ := later
            cases none
          obtain ⟨e, failed⟩ := ih n
            (fun u member => each u (List.mem_cons_of_mem _ member)) later
            (fun u member => starts u (List.mem_cons_of_mem _ member))
          obtain ⟨u, others, rfl⟩ := List.exists_cons_of_ne_nil some_text
          obtain ⟨c, cs, rfl, solid⟩ := starts u (by simp)
          have kept : skipSpace (comma.intercalate ((c :: cs) :: others) ++ close :: tail) =
              comma.intercalate ((c :: cs) :: others) ++ close :: tail := by
            cases others with
            | nil =>
              simp only [List.intercalate, List.intersperse, List.flatten_cons, List.cons_append]
              exact skipSpace_cons solid
            | cons u us =>
              simp only [List.intercalate_cons_cons, List.cons_append]
              exact skipSpace_cons solid
          have other : ¬ codePoint ',' = close := fun h => closing.2.2 h.symm
          refine ⟨e, ?_⟩
          rw [more some_text] at stops ⊢
          rw [taken _ stops, ok_bind]
          simp only [skipSpace_cons (show isSpace (codePoint ',') = false by decide), if_neg other,
            if_true, kept, failed]
          rfl
      · obtain ⟨e, failed⟩ := refused after stops
        exact ⟨e, by rw [failed]; rfl⟩

theorem readBracket_refused {texts : List PyStr} (tail : PyStr)
    (each : ∀ t ∈ texts, Taken item t ∨ Refused item t) (one : ∃ t ∈ texts, Refused item t)
    (starts : ∀ t ∈ texts, ∃ c rest, t = c :: rest ∧ isSpace c = false ∧ c ≠ close)
    (closing : isSpace close = false ∧ extendsNumber close = false ∧ close ≠ codePoint ',') :
    ∃ e, readBracket close item (comma.intercalate texts ++ close :: tail) = .error e := by
  have solid : ∀ t ∈ texts, ∃ c rest, t = c :: rest ∧ isSpace c = false := by
    intro t member
    obtain ⟨c, rest, whole, space, -⟩ := starts t member
    exact ⟨c, rest, whole, space⟩
  have failed : ∀ n, ∃ e,
      readSequence close item n (comma.intercalate texts ++ close :: tail) = .error e :=
    fun n => readSequence_refused n tail each one solid closing
  cases texts with
  | nil =>
    obtain ⟨t, none, -⟩ := one
    cases none
  | cons t texts =>
    obtain ⟨c, cs, rfl, space, other⟩ := starts t List.mem_cons_self
    obtain ⟨more, whole⟩ : ∃ more,
        comma.intercalate ((c :: cs) :: texts) ++ close :: tail = c :: more := by
      cases texts with
      | nil => exact ⟨cs ++ close :: tail, by simp [List.intercalate]⟩
      | cons u us => exact ⟨_, by simp only [List.intercalate_cons_cons, List.cons_append]; rfl⟩
    obtain ⟨e, refused⟩ := failed (more.length + 1)
    rw [whole] at refused ⊢
    refine ⟨e, ?_⟩
    simp only [readBracket, skipSpace_cons space, if_neg other]
    exact refused

end Sequences

section Limits
variable {escape : CodePoint → PyStr} {text : PyStr → Prop} {tail : PyStr}
  {hook : List (PyStr × PyJson) → List (PyStr × PyJson)}

theorem readNumber_digits {i : Int} (many : digitsFit i = false) (stops : Stops tail) :
    readNumber .default ((intText i).map codePoint ++ tail) = .error .digits := by
  have long : ∀ digits : PyStr, digits.length = (Nat.toDigits 10 i.natAbs).length →
      ∃ limit ∈ Decoder.default.maxStrDigits, limit < digits.length := by
    intro digits length
    refine ⟨maxStrDigits, rfl, ?_⟩
    rw [length]
    by_contra few
    rw [digitsFit_iff.mpr (Nat.le_of_not_lt few)] at many
    cases many
  cases i with
  | ofNat n =>
    have unsigned : readMinus ((Nat.toDigits 10 n).map codePoint ++ tail) =
        ([], (Nat.toDigits 10 n).map codePoint ++ tail) := by
      obtain ⟨c, rest, whole, first, -⟩ := toDigits_cons n
      have plain : c ≠ codePoint '-' := by
        rintro rfl
        exact absurd first (by decide)
      rw [whole, List.cons_append, readMinus, if_neg plain]
    have refused := long ((Nat.toDigits 10 n).map codePoint) (List.length_map ..)
    simp only [intText, readNumber, unsigned, readWhole_digits stops.undigit,
      readFraction_stops stops, readExponent_stops stops, if_pos refused]
    rfl
  | negSucc n =>
    have signed : readMinus ((intText (.negSucc n)).map codePoint ++ tail) =
        ([codePoint '-'], (Nat.toDigits 10 (n + 1)).map codePoint ++ tail) := rfl
    have refused := long ((Nat.toDigits 10 (n + 1)).map codePoint) (List.length_map ..)
    simp only [readNumber, signed, readWhole_digits stops.undigit,
      readFraction_stops stops, readExponent_stops stops, if_pos refused]
    rfl

theorem scanOnce_digits {i : Int} (many : digitsFit i = false) (n : Nat) :
    Refused (scanOnce .default n) ((intText i).map codePoint) := by
  intro tail stops
  have read := readNumber_digits many stops
  refine ⟨.digits, ?_⟩
  cases i with
  | ofNat m =>
    obtain ⟨c, rest, whole, first, -⟩ := toDigits_cons m
    change scanOnce .default n ((Nat.toDigits 10 m).map codePoint ++ tail) = _
    change readNumber .default ((Nat.toDigits 10 m).map codePoint ++ tail) = _ at read
    rw [whole, List.cons_append] at read ⊢
    exact (scanOnce_number first false n).trans read
  | negSucc m =>
    obtain ⟨c, rest, whole, first, -⟩ := toDigits_cons (m + 1)
    have signed : (intText (.negSucc m)).map codePoint = codePoint '-' :: c :: rest := by
      rw [← whole]
      rfl
    rw [signed, List.cons_append, List.cons_append] at read ⊢
    exact (scanOnce_number first true n).trans read

mutual
theorem bounded_proper : ∀ {v : PyJson}, v.Proper ⟨none, hook⟩ text → v.bounded = true →
    v.Proper Decoder.default.plain text
  | .null, _, _ => trivial
  | .bool _, _, _ => trivial
  | .int _, _, bounded => fits_default bounded
  | .float _, readable, _ => readable
  | .str _, kind, _ => kind
  | .arr _, proper, bounded => boundedItems_proper proper bounded
  | .obj _, proper, bounded => ⟨rfl, boundedMembers_proper proper.2 bounded⟩

theorem boundedItems_proper : ∀ {items : List PyJson}, ProperItems ⟨none, hook⟩ text items →
    boundedItems items = true → ProperItems Decoder.default.plain text items
  | [], _, _ => trivial
  | _ :: _, proper, bounded => by
    rw [boundedItems, Bool.and_eq_true] at bounded
    exact ⟨bounded_proper proper.1 bounded.1, boundedItems_proper proper.2 bounded.2⟩

theorem boundedMembers_proper : ∀ {ms : List (PyStr × PyJson)},
    ProperMembers ⟨none, hook⟩ text ms → boundedMembers ms = true →
    ProperMembers Decoder.default.plain text ms
  | [], _, _ => trivial
  | (_, _) :: _, proper, bounded => by
    rw [boundedMembers, Bool.and_eq_true] at bounded
    exact ⟨proper.1, bounded_proper proper.2.1 bounded.1,
      boundedMembers_proper proper.2.2 bounded.2⟩
end

theorem scanOnce_taken (reads : Reads escape text) {v : PyJson}
    (proper : v.Proper ⟨none, hook⟩ text)
    {n : Nat} (within : v.bounded = true ∧ v.depth ≤ n) :
    Taken (scanOnce .default n) (v.write escape) :=
  ⟨_, scanOnce_write reads v (bounded_proper proper within.1) n within.2⟩

theorem readMember_refused (reads : Reads escape text) {α : Type} {item : Scanner α}
    {k value : PyStr} (key : text k) (starts : ∃ c rest, value = c :: rest ∧ isSpace c = false)
    (refused : Refused item value) : Refused (readMember item) (member escape k value) := by
  intro after stops
  obtain ⟨e, failed⟩ := refused after stops
  obtain ⟨c, rest, rfl, solid⟩ := starts
  have opened : member escape k (c :: rest) ++ after = codePoint '"' ::
      (k.flatMap escape ++ codePoint '"' :: (codePoint ':' :: (c :: rest ++ after))) := by
    simp [member, quoted]
  have kept : skipSpace (c :: rest ++ after) = c :: rest ++ after := skipSpace_cons solid
  refine ⟨e, ?_⟩
  rw [opened, readMember, if_pos rfl, reads k key, demand, ok_bind]
  simp only [skipSpace_cons (show isSpace (codePoint ':') = false by decide), if_true, kept, failed]
  rfl

theorem readMember_taken (reads : Reads escape text) {α : Type} {item : Scanner α}
    {k value : PyStr} (key : text k) (starts : ∃ c rest, value = c :: rest ∧ isSpace c = false)
    (taken : Taken item value) : Taken (readMember item) (member escape k value) := by
  obtain ⟨x, read⟩ := taken
  exact ⟨(k, x), fun after stops => readMember_member reads key starts (read after stops)⟩

theorem items_beyond {items : List PyJson} {n : Nat}
    (beyond : ¬ (boundedItems items = true ∧ depthItems items ≤ n)) :
    ∃ v ∈ items, ¬ (v.bounded = true ∧ v.depth ≤ n) := by
  induction items with
  | nil => exact absurd ⟨rfl, Nat.zero_le n⟩ beyond
  | cons v rest ih =>
    by_cases within : v.bounded = true ∧ v.depth ≤ n
    · have later : ¬ (boundedItems rest = true ∧ depthItems rest ≤ n) := by
        intro later
        apply beyond
        rw [boundedItems, depthItems, Bool.and_eq_true, Nat.max_le]
        exact ⟨⟨within.1, later.1⟩, within.2, later.2⟩
      obtain ⟨u, member, past⟩ := ih later
      exact ⟨u, List.mem_cons_of_mem v member, past⟩
    · exact ⟨v, List.mem_cons_self, within⟩

theorem members_beyond {members : List (PyStr × PyJson)} {n : Nat}
    (beyond : ¬ (boundedMembers members = true ∧ depthMembers members ≤ n)) :
    ∃ m ∈ members, ¬ (m.2.bounded = true ∧ m.2.depth ≤ n) := by
  induction members with
  | nil => exact absurd ⟨rfl, Nat.zero_le n⟩ beyond
  | cons m rest ih =>
    obtain ⟨k, v⟩ := m
    by_cases within : v.bounded = true ∧ v.depth ≤ n
    · have later : ¬ (boundedMembers rest = true ∧ depthMembers rest ≤ n) := by
        intro later
        apply beyond
        rw [boundedMembers, depthMembers, Bool.and_eq_true, Nat.max_le]
        exact ⟨⟨within.1, later.1⟩, within.2, later.2⟩
      obtain ⟨m, member, past⟩ := ih later
      exact ⟨m, List.mem_cons_of_mem (k, v) member, past⟩
    · exact ⟨(k, v), List.mem_cons_self, within⟩

mutual
theorem scanOnce_refused (reads : Reads escape text) : ∀ v : PyJson, v.Proper ⟨none, hook⟩ text →
    ∀ n, ¬ (v.bounded = true ∧ v.depth ≤ n) → Refused (scanOnce .default n) (v.write escape)
  | .null, _, n, beyond => absurd ⟨rfl, Nat.zero_le n⟩ beyond
  | .bool _, _, n, beyond => absurd ⟨rfl, Nat.zero_le n⟩ beyond
  | .float _, _, n, beyond => absurd ⟨rfl, Nat.zero_le n⟩ beyond
  | .str _, _, n, beyond => absurd ⟨rfl, Nat.zero_le n⟩ beyond
  | .int i, _, n, beyond => by
    simp only [PyJson.write]
    apply scanOnce_digits
    by_contra fits
    exact beyond ⟨Bool.not_eq_false _ ▸ fits, Nat.zero_le n⟩
  | .arr items, proper, n, beyond => by
    intro tail stops
    have opened : (PyJson.arr items).write escape ++ tail = codePoint '[' ::
        (comma.intercalate (writeItems escape items) ++ codePoint ']' :: tail) := by
      simp [PyJson.write]
    rw [opened]
    cases n with
    | zero => exact ⟨.recursion, if_pos (.inl rfl)⟩
    | succ n =>
      have refused := scanOnce_refusedItems reads items proper n
      obtain ⟨v, member, past⟩ := items_beyond (n := n)
        (by simpa [PyJson.bounded, PyJson.depth] using beyond)
      have each : ∀ t ∈ writeItems escape items,
          Taken (scanOnce .default n) t ∨ Refused (scanOnce .default n) t := by
        rw [writeItems_map, List.forall_mem_map]
        intro u here
        by_cases within : u.bounded = true ∧ u.depth ≤ n
        · exact .inl (scanOnce_taken reads (properItems_iff.mp proper u here) within)
        · exact .inr (refused u here within)
      have one : ∃ t ∈ writeItems escape items, Refused (scanOnce .default n) t := by
        rw [writeItems_map]
        exact ⟨_, List.mem_map_of_mem member, refused v member past⟩
      obtain ⟨e, failed⟩ := readBracket_refused tail each one
        (writeItems_starts items proper) (by decide)
      refine ⟨e, ?_⟩
      rw [scanOnce, if_pos rfl, failed]
      rfl
  | .obj members, proper, n, beyond => by
    intro tail stops
    have opened : (PyJson.obj members).write escape ++ tail = codePoint '\x7b' ::
        (comma.intercalate (writeMembers escape members) ++ codePoint '\x7d' :: tail) := by
      simp [PyJson.write]
    rw [opened]
    cases n with
    | zero => exact ⟨.recursion, if_pos (.inr rfl)⟩
    | succ n =>
      have refused := scanOnce_refusedMembers reads members proper.2 n
      have starts : ∀ m ∈ members, ∃ c rest, m.2.write escape = c :: rest ∧ isSpace c = false := by
        intro m here
        obtain ⟨c, rest, whole, solid, -⟩ :=
          write_starts escape m.2 (properMembers_iff.mp proper.2 m here).2
        exact ⟨c, rest, whole, solid⟩
      obtain ⟨m, member, past⟩ := members_beyond (n := n)
        (by simpa [PyJson.bounded, PyJson.depth] using beyond)
      have each : ∀ t ∈ writeMembers escape members,
          Taken (readMember (scanOnce .default n)) t ∨
            Refused (readMember (scanOnce .default n)) t := by
        rw [writeMembers_map, List.forall_mem_map]
        intro u here
        obtain ⟨key, value⟩ := properMembers_iff.mp proper.2 u here
        by_cases within : u.2.bounded = true ∧ u.2.depth ≤ n
        · exact .inl (readMember_taken reads key (starts u here)
            (scanOnce_taken reads value within))
        · exact .inr (readMember_refused reads key (starts u here) (refused u here within))
      have one : ∃ t ∈ writeMembers escape members,
          Refused (readMember (scanOnce .default n)) t := by
        rw [writeMembers_map]
        exact ⟨_, List.mem_map_of_mem member, readMember_refused reads
          (properMembers_iff.mp proper.2 m member).1 (starts m member) (refused m member past)⟩
      obtain ⟨e, failed⟩ := readBracket_refused tail each one
        (writeMembers_starts members) (by decide)
      refine ⟨e, ?_⟩
      rw [scanOnce, if_neg (by decide), if_pos rfl, failed]
      rfl

theorem scanOnce_refusedItems (reads : Reads escape text) : ∀ items : List PyJson,
    ProperItems ⟨none, hook⟩ text items → ∀ n, ∀ v ∈ items, ¬ (v.bounded = true ∧ v.depth ≤ n) →
      Refused (scanOnce .default n) (v.write escape)
  | [], _, _ => List.forall_mem_nil _
  | v :: rest, proper, n => List.forall_mem_cons.mpr
      ⟨scanOnce_refused reads v proper.1 n, scanOnce_refusedItems reads rest proper.2 n⟩

theorem scanOnce_refusedMembers (reads : Reads escape text) : ∀ members : List (PyStr × PyJson),
    ProperMembers ⟨none, hook⟩ text members → ∀ n, ∀ m ∈ members,
      ¬ (m.2.bounded = true ∧ m.2.depth ≤ n) → Refused (scanOnce .default n) (m.2.write escape)
  | [], _, _ => List.forall_mem_nil _
  | (_, v) :: rest, proper, n => List.forall_mem_cons.mpr
      ⟨scanOnce_refused reads v proper.2.1 n, scanOnce_refusedMembers reads rest proper.2.2 n⟩
end

theorem loadBytes_iff (reads : Reads escape text) {members : List (PyStr × PyJson)}
    (proper : (PyJson.obj members).Proper ⟨none, hook⟩ text) {depth : Nat} :
    (∃ v, PyJson.loadBytes depth (encodeUtf8 ((PyJson.obj members).write escape)) = .ok v) ↔
      boundedMembers members = true ∧ (PyJson.obj members).depth ≤ depth := by
  constructor
  · rintro ⟨v, read⟩
    by_contra beyond
    obtain ⟨e, refused⟩ := scanOnce_refused reads _ proper depth beyond [] stops_nil
    obtain ⟨c, rest, whole, solid, -⟩ := write_starts escape _ proper
    have kept : skipSpace ((PyJson.obj members).write escape) =
        (PyJson.obj members).write escape := by
      rw [whole]
      exact skipSpace_cons solid
    rw [List.append_nil] at refused
    rw [PyJson.loadBytes, decodeText_write, demand, ok_bind, PyJson.loads, Decoder.loads, kept,
      refused] at read
    cases read
  · rintro ⟨bounded, shallow⟩
    exact ⟨_, loadBytes_hooked reads (bounded_proper proper bounded) shallow⟩

end Limits
end Deckhand.Lib
