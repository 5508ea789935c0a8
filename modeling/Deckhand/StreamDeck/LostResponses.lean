import Deckhand.Store.Schema
import Deckhand.StreamDeck.Presses

namespace Deckhand.StreamDeck
open Lib

section
variable {V : Type} {js : Globals V}

def outputs (log : List (DeckEvent V)) : List (Output V) := log.flatMap Event.ret

theorem outputs_snoc (log : List (DeckEvent V)) (e : DeckEvent V) :
    outputs (log ++ [e]) = outputs log ++ e.ret := by
  simp [outputs]

def starting : ActionSettings × Phase V → Option (ActionSettings × Nat)
  | (s, .executeToken post _) => some (s, post.body.idempotencyKey)
  | _ => none

/-- The execute requests that are made ready, or were sent and got no response. -/
def Deck.underway (d : Deck V) : List (ActionSettings × Nat) :=
  d.tasks.filterMap starting ++ d.unanswered

/-- A plan to be executed at once comes when no execute request for its settings is underway and
nothing is armed in their place of the pending map. One to be confirmed comes when no execute
request for any settings of that place is. -/
def Settled (plan : Plan) (s : ActionSettings) (d : Deck V) : Prop :=
  if plan.confirmation = none then
    (∀ x ∈ d.underway, x.1 ≠ s) ∧ d.pending (pendingKey s) = none
  else ∀ x ∈ d.underway, pendingKey x.1 ≠ pendingKey s

instance (plan : Plan) (s : ActionSettings) (d : Deck V) : Decidable (Settled plan s d) :=
  inferInstanceAs (Decidable (if plan.confirmation = none then
    (∀ x ∈ d.underway, x.1 ≠ s) ∧ d.pending (pendingKey s) = none
  else ∀ x ∈ d.underway, pendingKey x.1 ≠ pendingKey s))

def takesUp (act : Act) (d : Deck V) : Option (Plan × ActionSettings) :=
  match act with
  | .planAnswer task (.ok plan) =>
    match d.tasks[task]? with
    | some (s, .plan _) => if plan.takenUp then some (plan, s) else none
    | _ => none
  | _ => none

def Orderly (act : Act) (d : Deck V) : Prop := ∀ x ∈ takesUp act d, Settled x.1 x.2 d

instance (act : Act) (d : Deck V) : Decidable (Orderly act d) :=
  inferInstanceAs (Decidable (∀ x ∈ takesUp act d, Settled x.1 x.2 d))

/-- After an execute request for some settings, those for the same settings carry its key until
a response to that key was received. -/
def KeyKept (out : List (Output V)) : Prop :=
  ∀ a b c s post post' entry entry',
    out = a ++ .execute s post entry :: (b ++ .execute s post' entry' :: c) →
    .answered post.body.idempotencyKey ∉ b →
    post'.body.idempotencyKey = post.body.idempotencyKey

/-- Whatever is in the table of jobs, and whatever texts the keys stand for, the execute requests
for the same settings that follow one without a response lead to one job. -/
def OneJob (out : List (Output V)) : Prop :=
  ∀ a b s post entry, out = a ++ .execute s post entry :: b →
    .answered post.body.idempotencyKey ∉ b →
    ∀ (jobs : Jobs) (text : Nat → String) (row row' : JobRow), row ∈ jobs.rows →
      row' ∈ jobs.rows → row.idempotencyKey = text post.body.idempotencyKey →
      (∃ post' entry', .execute s post' entry' ∈ b ∧
        row'.idempotencyKey = text post'.body.idempotencyKey) → row' = row

/-- What is underway for the same settings has one key, and so has what is armed for them. -/
structure OneKey (d : Deck V) : Prop where
  one : ∀ s k k', (s, k) ∈ d.underway → (s, k') ∈ d.underway → k = k'
  armed : ∀ s entry k, d.pending (pendingKey s) = some entry → (s, k) ∈ d.underway →
    k = entry.idempotencyKey

variable {task : Nat} {s r : ActionSettings} {t : Int} {d old d' : Deck V} {act : Act}
  {before : Option (Phase V)} {after : Phase V} {out : List (Output V)} {m : String} {k : Nat}

theorem starting_some {x : ActionSettings × Phase V} (h : starting x = some (r, k)) :
    ∃ post entry, x = (r, .executeToken post entry) ∧ post.body.idempotencyKey = k := by
  unfold starting at h
  split at h
  · rename_i post entry
    cases Option.some.inj h
    exact ⟨post, entry, rfl, rfl⟩
  · cases h

theorem underway_starting {i : Nat} {post : Post V} {entry : Option Pending}
    (there : d.tasks[i]? = some (r, .executeToken post entry)) :
    (r, post.body.idempotencyKey) ∈ d.underway :=
  List.mem_append_left _ (List.mem_filterMap.mpr ⟨_, List.mem_of_getElem? there, rfl⟩)

theorem underway_unanswered (member : (r, k) ∈ d.unanswered) : (r, k) ∈ d.underway :=
  List.mem_append_right _ member

theorem Settled.direct {plan : Plan} (settled : Settled plan s d)
    (asked : plan.confirmation = none) :
    (∀ x ∈ d.underway, x.1 ≠ s) ∧ d.pending (pendingKey s) = none := by
  unfold Settled at settled
  rw [if_pos asked] at settled
  exact settled

theorem Settled.apart {plan : Plan} (settled : Settled plan s d)
    (asked : plan.confirmation ≠ none) : ∀ x ∈ d.underway, pendingKey x.1 ≠ pendingKey s := by
  unfold Settled at settled
  rw [if_neg asked] at settled
  exact settled

theorem Orderly.settled {plan : Plan} (orderly : Orderly (.planAnswer task (.ok plan)) d)
    (was : d.tasks[task]? = some (s, .plan k)) (taken : plan.takenUp = true) :
    Settled plan s d := by
  apply orderly (plan, s)
  simp [takesUp, was, taken]

theorem Fewer.kept {entry : Pending} (fewer : Fewer old d') (there : d'.pending m = some entry) :
    old.pending m = some entry := by
  rcases fewer m with same | gone
  · rw [← same, there]
  · rw [gone] at there
    cases there

theorem Moves.unanswered (moves : Moves js task s t old act before after out d')
    (member : (r, k) ∈ d'.unanswered) : (r, k) ∈ old.underway := by
  have was := moves.was
  cases moves.move with
  | planning _ _ _ _ _ _ same => exact underway_unanswered (same ▸ member)
  | confirming _ _ _ _ _ _ _ _ _ _ same => exact underway_unanswered (same ▸ member)
  | planSent _ _ _ _ _ same => exact underway_unanswered (same ▸ member)
  | arming _ _ _ _ _ _ _ _ _ _ same => exact underway_unanswered (same ▸ member)
  | direct _ _ _ _ _ _ _ _ _ _ same => exact underway_unanswered (same ▸ member)
  | sent post entry _ _ _ _ more =>
    rw [more] at member
    rcases List.mem_append.mp member with earlier | this
    · exact underway_unanswered earlier
    · cases List.mem_singleton.mp this
      exact underway_starting was
  | answered _ _ _ _ _ _ _ _ _ _ _ fewer =>
    rw [fewer] at member
    exact underway_unanswered (List.mem_filter.mp member).1
  | rested _ _ _ _ _ _ _ _ _ _ same => exact underway_unanswered (same ▸ member)

theorem Moves.underway (moves : Moves js task s t old act before after out d')
    (h : (r, k) ∈ d'.underway) : (r, k) ∈ old.underway ∨
      r = s ∧ ∃ post entry, after = .executeToken post entry ∧ post.body.idempotencyKey = k := by
  rcases List.mem_append.mp h with member | member
  · obtain ⟨x, there, made⟩ := List.mem_filterMap.mp member
    obtain ⟨post, entry, rfl, key⟩ := starting_some made
    obtain ⟨i, here⟩ := List.mem_iff_getElem?.mp there
    rw [moves.tasks] at here
    by_cases same : i = task
    · rw [if_pos same] at here
      cases here
      exact .inr ⟨rfl, post, entry, rfl, key⟩
    · rw [if_neg same] at here
      exact .inl (key ▸ underway_starting here)
  · exact .inl (moves.unanswered member)

theorem Moves.underway_before (moves : Moves js task s t old act before after out d')
    (apart : ∀ post entry, after ≠ .executeToken post entry) (h : (r, k) ∈ d'.underway) :
    (r, k) ∈ old.underway := by
  rcases moves.underway h with earlier | ⟨-, post, entry, same, -⟩
  · exact earlier
  · exact absurd same (apart post entry)

theorem resting_apart (rests : after.resting = true) (post : Post V) (entry : Option Pending) :
    after ≠ .executeToken post entry := by
  rintro rfl
  cases rests

theorem Moves.oneKey_one (moves : Moves js task s t old act before after out d')
    (orderly : Orderly act old) (held : OneKey old) {k' : Nat} (h : (r, k) ∈ d'.underway)
    (h' : (r, k') ∈ d'.underway) : k = k' := by
  -- The new request has the key of those before it: they are of the entry that it confirms.
  have joins : ∀ {x : Nat} {post : Post V} {entry : Option Pending},
      after = .executeToken post entry → r = s → (r, x) ∈ old.underway →
      x = post.body.idempotencyKey := by
    rintro x post entry rfl rfl earlier
    have was := moves.was
    cases moves.move with
    | confirming entry _ _ there _ _ made =>
      rw [post_key made]
      exact held.armed r entry x there earlier
    | direct plan idempotencyKey _ _ taken asked =>
      exact absurd rfl (((orderly.settled was taken).direct asked).1 _ earlier)
    | answered _ _ _ _ _ _ rests => cases rests
    | rested _ _ _ _ _ rests => cases rests
  rcases moves.underway h with earlier | ⟨here, post, entry, same, key⟩
  · rcases moves.underway h' with earlier' | ⟨here', post', entry', same', key'⟩
    · exact held.one r k k' earlier earlier'
    · exact (joins same' here' earlier).trans key'
  · rcases moves.underway h' with earlier' | ⟨-, post', entry', same', key'⟩
    · exact key.symm.trans (joins same here earlier').symm
    · cases same.symm.trans same'
      exact key.symm.trans key'

theorem Moves.oneKey_armed (moves : Moves js task s t old act before after out d')
    (orderly : Orderly act old) (held : OneKey old) {entry : Pending}
    (there : d'.pending (pendingKey r) = some entry) (h : (r, k) ∈ d'.underway) :
    k = entry.idempotencyKey := by
  have was := moves.was
  cases moves.move with
  | planning _ _ _ fewer =>
    exact held.armed r entry k (fewer.kept there) (moves.underway_before nofun h)
  | confirming entry' post _ there' _ _ made same =>
    rw [same] at there
    rcases moves.underway h with earlier | ⟨rfl, post', _, this, key⟩
    · exact held.armed r entry k there earlier
    · cases this
      cases there.symm.trans there'
      rw [← key, post_key made]
  | planSent _ _ same =>
    exact held.armed r entry k (same ▸ there) (moves.underway_before nofun h)
  | arming plan entry' _ _ taken asked _ set =>
    have earlier := moves.underway_before nofun h
    rw [set] at there
    by_cases here : pendingKey r = pendingKey s
    · have confirmed : plan.confirmation ≠ none := by
        rw [asked]
        nofun
      exact absurd here ((orderly.settled was taken).apart confirmed (r, k) earlier)
    · rw [if_neg here] at there
      exact held.armed r entry k there earlier
  | direct plan idempotencyKey _ _ taken asked _ same =>
    rw [same] at there
    rcases moves.underway h with earlier | ⟨rfl, -⟩
    · exact held.armed r entry k there earlier
    · exact absurd (there.symm.trans ((orderly.settled was taken).direct asked).2) nofun
  | sent _ _ _ same =>
    exact held.armed r entry k (same ▸ there) (moves.underway_before nofun h)
  | answered _ _ _ _ _ _ rests fewer =>
    exact held.armed r entry k (fewer.kept there) (moves.underway_before (resting_apart rests) h)
  | rested _ _ _ _ _ rests fewer =>
    exact held.armed r entry k (fewer.kept there) (moves.underway_before (resting_apart rests) h)

theorem Moves.oneKey (moves : Moves js task s t old act before after out d')
    (orderly : Orderly act old) (held : OneKey old) : OneKey d' :=
  ⟨fun _ _ _ h h' => moves.oneKey_one orderly held h h',
    fun _ _ _ there h => moves.oneKey_armed orderly held there h⟩

theorem start_oneKey : OneKey (Deck.start : Deck V) := by
  constructor
  · intro s k k' member
    cases member
  · intro s entry k there
    cases there

/-- What has no response after one more output. -/
def await (unanswered : List (ActionSettings × Nat)) : Output V → List (ActionSettings × Nat)
  | .execute s post _ => unanswered ++ [(s, post.body.idempotencyKey)]
  | .answered idempotencyKey => unanswered.filter fun x => x.2 ≠ idempotencyKey
  | _ => unanswered

theorem await_pictures (pictures : List Picture) (unanswered : List (ActionSettings × Nat)) :
    ((pictures.map .image : List (Output V))).foldl await unanswered = unanswered := by
  induction pictures with
  | nil => rfl
  | cons picture pictures ih => exact ih

theorem await_stays {x : ActionSettings × Nat} {unanswered : List (ActionSettings × Nat)}
    (member : x ∈ unanswered) (quiet : .answered x.2 ∉ out) : x ∈ out.foldl await unanswered := by
  induction out generalizing unanswered with
  | nil => exact member
  | cons y out ih =>
    apply ih _ fun later => quiet (List.mem_cons_of_mem _ later)
    cases y with
    | plan _ _ => exact member
    | armed _ _ => exact member
    | execute _ _ _ => exact List.mem_append_left _ member
    | answered idempotencyKey =>
      refine List.mem_filter.mpr ⟨member, decide_eq_true ?_⟩
      intro same
      apply quiet
      rw [same]
      exact List.mem_cons_self
    | image _ => exact member

theorem await_sent (a : List (Output V)) {b : List (Output V)} {post : Post V}
    {entry : Option Pending} (quiet : .answered post.body.idempotencyKey ∉ b) :
    (s, post.body.idempotencyKey) ∈ (a ++ .execute s post entry :: b).foldl await [] := by
  rw [List.foldl_append, List.foldl_cons]
  exact await_stays (List.mem_append_right _ (List.mem_singleton_self _)) quiet

theorem Moves.awaits (moves : Moves js task s t old act before after out d') :
    d'.unanswered = out.foldl await old.unanswered := by
  cases moves.move with
  | planning _ _ _ _ _ _ same => exact same
  | confirming _ _ _ _ _ _ _ _ _ _ same => exact same
  | planSent _ _ _ _ _ same => exact same
  | arming _ _ _ _ _ _ _ _ _ _ same => exact same
  | direct _ _ _ _ _ _ _ _ _ _ same => exact same
  | sent _ _ _ _ _ _ more => exact more
  | answered _ _ _ _ _ _ _ _ _ _ _ fewer => exact fewer
  | rested _ _ _ pictures _ _ _ _ _ _ same =>
    rw [await_pictures]
    exact same

theorem Moves.executes (moves : Moves js task s t old act before after out d') {post : Post V}
    {entry : Option Pending} (h : .execute r post entry ∈ out) :
    out = [.execute r post entry] ∧ (r, post.body.idempotencyKey) ∈ old.underway := by
  have was := moves.was
  cases moves.move with
  | sent _ _ _ _ _ _ _ =>
    cases List.mem_singleton.mp h
    exact ⟨rfl, underway_starting was⟩
  | rested _ _ _ pictures => simp at h
  | _ => simp at h

theorem KeyKept.snoc {l : List (Output V)} {x : Output V} (kept : KeyKept l)
    (fits : ∀ s post entry k, x = .execute s post entry → (s, k) ∈ l.foldl await [] →
      post.body.idempotencyKey = k) : KeyKept (l ++ [x]) := by
  intro a b c s post post' entry entry' whole quiet
  induction c using List.reverseRecOn with
  | nil =>
    have last : l ++ [x] = (a ++ .execute s post entry :: b) ++ [.execute s post' entry'] := by
      rw [whole]
      simp
    obtain ⟨rfl, this⟩ := List.append_inj' last rfl
    exact fits s post' entry' _ (List.singleton_inj.mp this) (await_sent a quiet)
  | append_singleton c y _ =>
    have last : l ++ [x] =
        (a ++ .execute s post entry :: (b ++ .execute s post' entry' :: c)) ++ [y] := by
      rw [whole]
      simp
    exact kept a b c s post post' entry entry' (List.append_inj' last rfl).1 quiet

theorem KeyKept.append {l : List (Output V)} (kept : KeyKept l)
    (none : ∀ s post entry, .execute s post entry ∉ out) : KeyKept (l ++ out) := by
  induction out generalizing l with
  | nil =>
    rw [List.append_nil]
    exact kept
  | cons x out ih =>
    rw [← List.singleton_append, ← List.append_assoc]
    apply ih _ fun s post entry later => none s post entry (List.mem_cons_of_mem _ later)
    apply kept.snoc
    rintro s post entry k rfl
    exact absurd List.mem_cons_self (none s post entry)

theorem Moves.keyKept {l : List (Output V)}
    (moves : Moves js task s t old act before after out d') (held : OneKey old)
    (awaited : old.unanswered = l.foldl await []) (kept : KeyKept l) : KeyKept (l ++ out) := by
  by_cases sends : ∃ r post entry, .execute r post entry ∈ out
  · obtain ⟨r, post, entry, member⟩ := sends
    obtain ⟨rfl, ready⟩ := moves.executes member
    apply kept.snoc
    intro s' post' entry' k same earlier
    cases same
    rw [← awaited] at earlier
    exact held.one r _ k ready (underway_unanswered earlier)
  · apply kept.append
    intro r post entry member
    exact sends ⟨r, post, entry, member⟩

theorem run_keyKept {log : List (DeckEvent V)} {d : Deck V}
    (run : Trace (sem js) Deck.start log d) (orderly : ∀ e ∈ log, Orderly e.op e.pre) :
    OneKey d ∧ d.unanswered = (outputs log).foldl await [] ∧ KeyKept (outputs log) := by
  induction run with
  | nil =>
    refine ⟨start_oneKey, rfl, ?_⟩
    intro a b c s post post' entry entry' whole
    simp [outputs] at whole
  | snoc log e _ valid ih =>
    obtain ⟨held, awaited, kept⟩ := ih fun e' earlier => orderly e' (List.mem_append_left _ earlier)
    obtain ⟨task, s, before, after, moves⟩ := step_moves valid
    have settled := orderly e (List.mem_append_right _ (List.mem_singleton_self e))
    rw [outputs_snoc]
    refine ⟨moves.oneKey settled held, ?_, moves.keyKept held awaited kept⟩
    rw [moves.awaits, awaited, List.foldl_append]

theorem KeyKept.oneJob {l : List (Output V)} (kept : KeyKept l) : OneJob l := by
  intro a b s post entry whole quiet jobs text row row' member member' key other
  obtain ⟨post', entry', later, key'⟩ := other
  obtain ⟨b₁, b₂, rfl⟩ := List.append_of_mem later
  have same := kept a b₁ b₂ s post post' entry entry' whole
    fun earlier => quiet (List.mem_append_left _ earlier)
  apply Jobs.key_unique member' member
  rw [key', key, same]

/-- While every plan is taken up with nothing underway, a lost response is retried with the key
of the request it belongs to. -/
theorem lost_response_kept {log : List (DeckEvent V)} {d : Deck V}
    (run : Trace (sem js) Deck.start log d) (orderly : ∀ e ∈ log, Orderly e.op e.pre) :
    KeyKept (outputs log) ∧ OneJob (outputs log) :=
  have kept := (run_keyKept run orderly).2.2
  ⟨kept, kept.oneJob⟩

end

namespace Trial

/-- JavaScript as far as the samples use it. -/
def node : Globals Unit where
  parse text := if text = "\x7b\x7d" then some () else none
  isObject _ := true
  emptyObject := ()
  url text := if text = "http://broker" then some ("http:", "http://broker/") else none

def lamp : ActionSettings where
  brokerUrl := some "http://broker"
  identityUrl := none
  actionId := some "light.off"
  actionVersion := none
  targetType := some "room"
  targetId := some "office"
  parameters := none

def asking : Plan := ⟨true, some ⟨"token", .confirm⟩, none⟩

def play (calls : List ((_ : Act) × Int)) : Option (List (DeckEvent Unit) × Deck Unit) :=
  attempt (fun act t d => step node t act d) Deck.start calls

theorem play_trace {calls : List ((_ : Act) × Int)} {log : List (DeckEvent Unit)} {d : Deck Unit}
    (h : play calls = some (log, d)) : Trace (sem node) Deck.start log d :=
  attempt_trace h

/-- A press that ends with an armed entry. -/
def planned (task : Nat) (t : Int) : List ((_ : Act) × Int) :=
  [⟨.press lamp, t⟩, ⟨.token task true, t⟩, ⟨.planAnswer task (.ok asking), t⟩,
    ⟨.drawn task true, t⟩]

/-- The key is pressed again before the response to a confirmed request is lost. -/
def insisted : List ((_ : Act) × Int) :=
  planned 0 0 ++ [⟨.press lamp, 1000⟩, ⟨.token 1 true, 1000⟩, ⟨.press lamp, 2000⟩,
    ⟨.token 2 true, 2000⟩, ⟨.executeAnswer 1 .failed, 16000⟩]

/-- The key is pressed again after it. -/
def replanned : List ((_ : Act) × Int) :=
  planned 0 0 ++ [⟨.press lamp, 1000⟩, ⟨.token 1 true, 1000⟩, ⟨.executeAnswer 1 .failed, 16000⟩] ++
    planned 2 17000 ++ [⟨.press lamp, 18000⟩, ⟨.token 3 true, 18000⟩]

def lampPost (idempotencyKey : Nat) (dryRun : Bool) (token : Option String) : Post Unit :=
  ⟨"http://broker", ⟨"light.off", 1, "room", "office", (), idempotencyKey, dryRun, token⟩⟩

def lampEntry (idempotencyKey : Nat) (t : Int) : Pending := ⟨⟨"token", .confirm⟩, idempotencyKey, t⟩

end Trial

open Trial in
theorem lost_response_kept_insisted : ∃ log d, play insisted = some (log, d) ∧
    KeyKept (outputs log) ∧ OneJob (outputs log) := by
  have settled : (play insisted).map (fun r => decide (∀ e ∈ r.1, Orderly e.op e.pre)) =
      some true := by
    decide +kernel
  obtain ⟨⟨log, d⟩, run, orderly⟩ := Option.map_eq_some_iff.mp settled
  exact ⟨log, d, run, lost_response_kept (play_trace run) (of_decide_eq_true orderly)⟩

open Trial in
/-- After OFFLINE the same intent goes out with a second key. -/
theorem lost_response_replanned : ∃ log d, Trace (sem node) Deck.start log d ∧
    ¬ KeyKept (outputs log) := by
  have run : ∃ log d, play replanned = some (log, d) ∧ outputs log =
      [.plan lamp (lampPost 0 true none), .armed lamp (lampEntry 0 0),
        .image ⟨.danger, "CONFIRM?", "office"⟩] ++
      .execute lamp (lampPost 0 false (some "token")) (some (lampEntry 0 0)) ::
      ([.image ⟨.offline, "OFFLINE", ""⟩, .plan lamp (lampPost 1 true none),
        .armed lamp (lampEntry 1 17000), .image ⟨.danger, "CONFIRM?", "office"⟩] ++
      .execute lamp (lampPost 1 false (some "token")) (some (lampEntry 1 17000)) :: []) :=
    ⟨_, _, rfl, rfl⟩
  obtain ⟨log, d, played, whole⟩ := run
  refine ⟨log, d, play_trace played, ?_⟩
  intro kept
  have quiet : .answered 0 ∉ ([.image ⟨.offline, "OFFLINE", ""⟩, .plan lamp (lampPost 1 true none),
      .armed lamp (lampEntry 1 17000), .image ⟨.danger, "CONFIRM?", "office"⟩] :
      List (Output Unit)) := by
    simp
  exact absurd (kept _ _ _ _ _ _ _ _ whole quiet) (by decide)

end Deckhand.StreamDeck
