import Deckhand.StreamDeck.StatusAction

/-! The refresh timers of the status tiles: which of them run after any interleaving of the
events of the keys with the ends of their refreshes. -/
namespace Deckhand.StreamDeck
open Lib

def latest {ε β : Type} (f : ε → Option β) (log : List ε) : Option β := log.reverse.findSome? f

section Latest
variable {ε β : Type} {f : ε → Option β} {log : List ε}

theorem latest_snoc (e : ε) : latest f (log ++ [e]) = (f e).or (latest f log) := by
  rw [latest, List.reverse_append, List.reverse_singleton, List.singleton_append,
    List.findSome?_cons]
  cases f e <;> rfl

theorem latest_none (h : latest f log = none) {e : ε} (member : e ∈ log) : f e = none :=
  List.findSome?_eq_none_iff.mp h e (List.mem_reverse.mpr member)

theorem latest_some {b : β} (h : latest f log = some b) : ∃ e ∈ log, f e = some b := by
  obtain ⟨e, member, value⟩ := List.exists_of_findSome?_eq_some h
  exact ⟨e, List.mem_reverse.mp member, value⟩

end Latest

def TileAct.turn (key : String) : TileAct → Option Bool
  | .willAppear k _ => if k = key then some true else none
  | .willDisappear k => if k = key then some false else none
  | _ => none

/-- The settings that the event brings for the key. -/
def TileAct.received (key : String) : TileAct → Option StatusSettings
  | .willAppear k settings | .didReceiveSettings k settings =>
    if k = key then some settings else none
  | _ => none

/-- The settings of the key's refresh that ends here without an error, where it was begun for an
appearance or for new settings. -/
def TileAct.completed (key : String) (act : TileAct) (d : Tiles) : Option StatusSettings :=
  match act with
  | .drawn task true => do
    let refresh ← d.refreshes[task]?
    if refresh.key = key ∧ refresh.starts = true ∧ refresh.phase ≠ .ended then
      some refresh.settings
    else none
  | _ => none

/-- A refresh of the key that ends, with its settings, or the key's going. -/
def TileAct.ending (key : String) (act : TileAct) (d : Tiles) : Option (Option StatusSettings) :=
  match act.turn key with
  | some false => some none
  | _ => (act.completed key d).map some

namespace Tiles

def running (d : Tiles) (key : String) : List Interval := d.intervals.filter fun i => i.key = key

def Finished (d : Tiles) : Prop := ∀ r ∈ d.refreshes, r.phase = .ended

structure Consistent (d : Tiles) : Prop where
  fresh : ∀ i ∈ d.intervals, i.handle < d.handles
  apart : ∀ i ∈ d.intervals, ∀ j ∈ d.intervals, i.handle = j.handle → i.key = j.key
  mapped : ∀ i ∈ d.intervals, d.timers i.key = some i.handle
  backed : ∀ key handle, d.timers key = some handle →
    ∃ i ∈ d.intervals, i.key = key ∧ i.handle = handle

section
variable {d : Tiles} {key k : String}

theorem mem_clear {handle : Option Nat} {i : Interval} :
    i ∈ (d.clearInterval handle).intervals ↔ i ∈ d.intervals ∧ some i.handle ≠ handle := by
  simp [clearInterval]

theorem Consistent.cleared (here : d.Consistent) {i : Interval} (member : i ∈ d.intervals) :
    some i.handle ≠ d.timers key ↔ i.key ≠ key := by
  constructor
  · rintro other rfl
    exact other (here.mapped i member).symm
  · intro other same
    obtain ⟨j, running, keyed, handle⟩ := here.backed key i.handle same.symm
    have := here.apart i member j running handle.symm
    exact other (this.trans keyed)

theorem Consistent.clear (here : d.Consistent) (key : String) :
    (∀ i, i ∈ (d.clearInterval (d.timers key)).intervals ↔ i ∈ d.intervals ∧ i.key ≠ key) ∧
      ∀ k, (d.clearInterval (d.timers key)).running k = if k = key then [] else d.running k := by
  have kept : ∀ i, i ∈ (d.clearInterval (d.timers key)).intervals ↔
      i ∈ d.intervals ∧ i.key ≠ key := by
    intro i
    rw [mem_clear]
    exact and_congr_right fun member => here.cleared member
  refine ⟨kept, fun k => ?_⟩
  by_cases same : k = key
  · subst same
    rw [if_pos rfl, running, List.filter_eq_nil_iff]
    intro i member
    simpa using ((kept i).mp member).2
  · rw [if_neg same, running, clearInterval, List.filter_filter, running]
    refine List.filter_congr fun i member => ?_
    by_cases keyed : i.key = k
    · have left := (here.cleared member).mpr (show i.key ≠ key from keyed ▸ same)
      simp [keyed, left]
    · simp [keyed]

theorem Consistent.disappears (here : d.Consistent) (key : String) :
    (d.onWillDisappear key).Consistent ∧
      ∀ k, (d.onWillDisappear key).running k = if k = key then [] else d.running k := by
  obtain ⟨kept, running⟩ := here.clear key
  refine ⟨⟨?_, ?_, ?_, ?_⟩, running⟩
  · intro i hi
    exact here.fresh i ((kept i).mp hi).1
  · intro i hi j hj
    exact here.apart i ((kept i).mp hi).1 j ((kept j).mp hj).1
  · intro i hi
    obtain ⟨member, other⟩ := (kept i).mp hi
    exact (if_neg other).trans (here.mapped i member)
  · intro k handle known
    by_cases same : k = key
    · cases (if_pos same).symm.trans known
    · obtain ⟨i, member, keyed, handled⟩ := here.backed k handle ((if_neg same).symm.trans known)
      exact ⟨i, (kept i).mpr ⟨member, keyed ▸ same⟩, keyed, handled⟩

theorem Consistent.starts (here : d.Consistent) (key : String) (settings : StatusSettings) :
    (d.startTimer key settings).Consistent ∧
      ∀ k, (d.startTimer key settings).running k =
        if k = key then [⟨d.handles, key, settings⟩] else d.running k := by
  obtain ⟨kept, running⟩ := here.clear key
  have now : ∀ i, i ∈ (d.startTimer key settings).intervals ↔
      (i ∈ d.intervals ∧ i.key ≠ key) ∨ i = ⟨d.handles, key, settings⟩ := by
    intro i
    rw [← kept i]
    simp [startTimer, setTimer, setInterval, clearInterval]
  refine ⟨⟨?_, ?_, ?_, ?_⟩, fun k => ?_⟩
  · intro i hi
    rcases (now i).mp hi with ⟨member, -⟩ | rfl
    · exact Nat.lt_succ_of_lt (here.fresh i member)
    · exact Nat.lt_succ_self _
  · intro i hi j hj handles
    rcases (now i).mp hi with ⟨old, -⟩ | rfl <;> rcases (now j).mp hj with ⟨old', -⟩ | rfl
    · exact here.apart i old j old' handles
    · exact absurd handles (Nat.ne_of_lt (here.fresh i old))
    · exact absurd handles.symm (Nat.ne_of_lt (here.fresh j old'))
    · rfl
  · intro i hi
    rcases (now i).mp hi with ⟨member, other⟩ | rfl
    · exact (if_neg other).trans (here.mapped i member)
    · exact if_pos rfl
  · intro k handle known
    by_cases same : k = key
    · obtain rfl := Option.some.inj ((if_pos same).symm.trans known)
      exact ⟨_, (now _).mpr (.inr rfl), same.symm, rfl⟩
    · obtain ⟨i, member, keyed, handled⟩ := here.backed k handle ((if_neg same).symm.trans known)
      exact ⟨i, (now i).mpr (.inl ⟨member, keyed ▸ same⟩), keyed, handled⟩
  · have split : (d.startTimer key settings).running k =
        (d.clearInterval (d.timers key)).running k ++
          if key = k then [⟨d.handles, key, settings⟩] else [] := by
      simp only [Tiles.running, startTimer, setTimer, setInterval, clearInterval,
        List.filter_append, List.filter_cons, List.filter_nil, decide_eq_true_eq]
    rw [split, running]
    by_cases same : k = key
    · rw [if_pos same, if_pos same.symm, if_pos same, List.nil_append]
    · rw [if_neg same, if_neg (Ne.symm same), if_neg same, List.append_nil]

theorem Consistent.refreshes (here : d.Consistent) (refreshes : List Refresh) :
    { d with refreshes }.Consistent := ⟨here.fresh, here.apart, here.mapped, here.backed⟩

end
end Tiles

section Step
variable {dateParse : String → Option Int} {now : Int} {act : TileAct} {d d' : Tiles}
  {out : List (String × Picture)} {key : String}

theorem beginRefresh_tiles (settings : StatusSettings) (starts : Bool) :
    ∃ refreshes, (d.beginRefresh key settings starts).2 = { d with refreshes } := by
  unfold Tiles.beginRefresh
  cases given settings.domain with
  | none => exact ⟨_, rfl⟩
  | some domain => exact ⟨_, rfl⟩

theorem ending_drawn {task : Nat} {refresh : Refresh} (found : d.refreshes[task]? = some refresh)
    (waits : refresh.phase ≠ .ended) (key : String) : (TileAct.drawn task true).ending key d =
      if refresh.starts = true ∧ refresh.key = key then some (some refresh.settings) else none := by
  simp only [TileAct.ending, TileAct.turn, TileAct.completed, found, Option.bind_eq_bind,
    Option.bind_some, waits, ne_eq, not_false_eq_true, and_true, and_comm (a := refresh.key = key)]
  split <;> rfl

theorem finish_cases {task : Nat} {refresh : Refresh} (found : d.refreshes[task]? = some refresh)
    (waits : refresh.phase ≠ .ended) :
    ((∃ refreshes, d.finish task refresh = { d with refreshes }) ∧
      ∀ key, (TileAct.drawn task true).ending key d = none) ∨
    ∃ refreshes key settings, d.finish task refresh = { d with refreshes }.startTimer key settings ∧
      ∀ k, (TileAct.drawn task true).ending k d = if k = key then
        some (some settings) else none := by
  cases starts : refresh.starts with
  | false =>
    refine .inl ⟨⟨_, if_neg (by simp [starts])⟩, fun key => ?_⟩
    rw [ending_drawn found waits, if_neg (by simp [starts])]
  | true =>
    refine .inr ⟨_, refresh.key, refresh.settings, if_pos starts, fun key => ?_⟩
    rw [ending_drawn found waits]
    simp [starts, eq_comm]

theorem drawn_cases {task : Nat} {shown : Bool}
    (h : tileStep dateParse now (.drawn task shown) d = some (out, d')) :
    ∃ refresh, d.refreshes[task]? = some refresh ∧ refresh.phase ≠ .ended ∧
      (shown = true ∧ d' = d.finish task refresh ∨
        shown = false ∧ ∃ refreshes, d' = { d with refreshes }) := by
  unfold tileStep at h
  dsimp only at h
  split at h
  · rename_i refresh found
    refine ⟨refresh, found, ?_⟩
    cases waits : refresh.phase <;> cases shown <;> rw [waits] at h <;> dsimp only at h
    case drawing.true | offline.true | config.true =>
      exact ⟨by simp, .inl ⟨rfl, (congrArg Prod.snd (Option.some.inj h)).symm⟩⟩
    case drawing.false | offline.false | config.false =>
      exact ⟨by simp, .inr ⟨rfl, _, (congrArg Prod.snd (Option.some.inj h)).symm⟩⟩
    all_goals cases h
  · cases h

/-- A step that ends no refresh and takes no key away changes only the refreshes. One that takes
a key away ends its timer, and one that ends a refresh for a timer starts it. -/
theorem tile_cases (h : tileStep dateParse now act d = some (out, d')) :
    ((∃ refreshes, d' = { d with refreshes }) ∧ ∀ key, act.ending key d = none) ∨
    (∃ key, act = .willDisappear key ∧ d' = d.onWillDisappear key) ∨
    ∃ refreshes key settings, d' = { d with refreshes }.startTimer key settings ∧
      ∀ k, act.ending k d = if k = key then some (some settings) else none := by
  cases act with
  | willAppear key settings =>
    obtain rfl := congrArg Prod.snd (Option.some.inj h)
    refine .inl ⟨beginRefresh_tiles settings true, fun k => ?_⟩
    by_cases same : key = k <;> simp [TileAct.ending, TileAct.turn, TileAct.completed, same]
  | didReceiveSettings key settings =>
    obtain rfl := congrArg Prod.snd (Option.some.inj h)
    exact .inl ⟨beginRefresh_tiles settings true, fun k => rfl⟩
  | keyDown key settings =>
    obtain rfl := congrArg Prod.snd (Option.some.inj h)
    exact .inl ⟨beginRefresh_tiles settings false, fun k => rfl⟩
  | willDisappear key =>
    obtain rfl := congrArg Prod.snd (Option.some.inj h)
    exact .inr (.inl ⟨key, rfl, rfl⟩)
  | interval handle =>
    unfold tileStep at h
    dsimp only at h
    split at h
    · rename_i i found
      obtain rfl := congrArg Prod.snd (Option.some.inj h)
      exact .inl ⟨beginRefresh_tiles i.settings false, fun k => rfl⟩
    · cases h
  | statusAnswer task value =>
    unfold tileStep at h
    dsimp only at h
    split at h
    · split at h
      · cases value with
        | some value =>
          obtain rfl := congrArg Prod.snd (Option.some.inj h)
          exact .inl ⟨⟨_, rfl⟩, fun k => rfl⟩
        | none =>
          obtain rfl := congrArg Prod.snd (Option.some.inj h)
          exact .inl ⟨⟨_, rfl⟩, fun k => rfl⟩
      · cases h
    · cases h
  | drawn task shown =>
    obtain ⟨refresh, found, waits, ⟨rfl, rfl⟩ | ⟨rfl, moved⟩⟩ := drawn_cases h
    · rcases finish_cases found waits with quiet | started
      · exact .inl quiet
      · exact .inr (.inr started)
    · exact .inl ⟨moved, fun k => rfl⟩

theorem ending_turn (gone : act.turn key = some false) : act.ending key d = some none := by
  rw [TileAct.ending, gone]

theorem tile_step (h : tileStep dateParse now act d = some (out, d')) (here : d.Consistent) :
    d'.Consistent ∧ ∀ key, (d'.running key).map Interval.settings =
      match act.ending key d with
      | some left => left.toList
      | none => (d.running key).map Interval.settings := by
  rcases tile_cases h with ⟨⟨refreshes, rfl⟩, quiet⟩ | ⟨key, rfl, rfl⟩ |
    ⟨refreshes, key, settings, rfl, ends⟩
  · refine ⟨here.refreshes refreshes, fun key => ?_⟩
    rw [quiet key]
    rfl
  · obtain ⟨next, running⟩ := here.disappears key
    refine ⟨next, fun k => ?_⟩
    rw [running k]
    by_cases same : k = key
    · rw [if_pos same, ending_turn (by simp [TileAct.turn, same])]
      rfl
    · have stays : (TileAct.willDisappear key).ending k d = none := by
        simp [TileAct.ending, TileAct.turn, TileAct.completed, Ne.symm same]
      rw [if_neg same, stays]
  · obtain ⟨next, running⟩ := (here.refreshes refreshes).starts key settings
    refine ⟨next, fun k => ?_⟩
    rw [running k, ends k]
    by_cases same : k = key
    · rw [if_pos same, if_pos same]
      rfl
    · rw [if_neg same, if_neg same]
      rfl

end Step

/-- Of the ends of the key's refreshes and the key's goings, the last one. -/
def lastEnding (key : String) (log : List TileEvent) : Option (Option StatusSettings) :=
  latest (fun e => e.op.ending key e.pre) log

def lastTurn (key : String) (log : List TileEvent) : Option Bool :=
  latest (fun e => e.op.turn key) log

/-- The settings most recently received for the key. -/
def lastReceived (key : String) (log : List TileEvent) : Option StatusSettings :=
  latest (fun e => e.op.received key) log

/-- A key on the deck has one timer, with the settings most recently received for it, and a key
that went has none. -/
def TimerKept (key : String) (log : List TileEvent) (d : Tiles) : Prop :=
  match lastTurn key log with
  | none => True
  | some true => ∃ settings, lastReceived key log = some settings ∧
      (d.running key).map Interval.settings = [settings]
  | some false => d.running key = []

/-- The last refresh of a key on the deck that ended without an error ended after the key last
went, and was one with the settings most recently received. None ended after a key went that
has not come back. -/
def Timely (key : String) (log : List TileEvent) : Prop :=
  match lastTurn key log with
  | none => True
  | some true => ∃ settings, lastReceived key log = some settings ∧
      lastEnding key log = some (some settings)
  | some false => lastEnding key log = some none

section Run
variable {dateParse : String → Option Int} {log : List TileEvent} {d : Tiles} {key : String}

theorem start_consistent : Tiles.start.Consistent where
  fresh := fun i hi => by cases hi
  apart := fun i hi => by cases hi
  mapped := fun i hi => by cases hi
  backed := fun k handle known => by cases known

theorem tiles_run (run : Trace (tileSem dateParse) .start log d) :
    d.Consistent ∧ ∀ key, (d.running key).map Interval.settings =
      ((lastEnding key log).getD none).toList := by
  induction run with
  | nil => exact ⟨start_consistent, fun key => rfl⟩
  | snoc log e _ valid ih =>
    obtain ⟨next, running⟩ := tile_step valid ih.1
    refine ⟨next, fun key => ?_⟩
    rw [running key, lastEnding, latest_snoc]
    cases e.op.ending key e.pre with
    | none =>
      rw [ih.2 key, Option.none_or]
      rfl
    | some left => rfl

theorem gone_ends (gone : lastTurn key log = some false) : lastEnding key log ≠ none := by
  intro none
  obtain ⟨e, member, turn⟩ := latest_some gone
  have ends := latest_none none member
  rw [ending_turn turn] at ends
  cases ends

end Run

/-- After any interleaving a key has the timers that it should have exactly if its refreshes
ended in time. -/
theorem timers_kept_iff (dateParse : String → Option Int) (log : List TileEvent) (d : Tiles)
    (run : Trace (tileSem dateParse) .start log d) (key : String) :
    TimerKept key log d ↔ Timely key log := by
  have running := (tiles_run run).2 key
  unfold TimerKept Timely
  cases turn : lastTurn key log with
  | none => rfl
  | some came =>
    cases came with
    | true =>
      refine exists_congr fun settings => and_congr_right fun _ => ?_
      rw [running]
      cases lastEnding key log with
      | none => simp
      | some left => cases left <;> simp
    | false =>
      have ended := gone_ends turn
      dsimp only
      rw [← List.map_eq_nil_iff (f := Interval.settings), running]
      cases ends : lastEnding key log with
      | none => exact absurd ends ended
      | some left => cases left <;> simp

namespace Trial

def tile : StatusSettings := ⟨some "https://broker", none, some "home", none⟩

/-- What the events of a key and the ends of its refreshes make of an empty deck. -/
def tiled (acts : List TileAct) : Option (List TileEvent × Tiles) :=
  attempt (fun act now d => tileStep (fun _ => none) now act d) .start
    (acts.map fun act => ⟨act, 0⟩)

/-- The key goes while the broker is asked for its status. -/
def orphaned : List TileAct :=
  [.willAppear "key" tile, .willDisappear "key", .statusAnswer 0 (some ⟨"ok", "now", 60⟩),
    .drawn 0 true]

def refreshed : List TileAct :=
  [.willAppear "key" tile, .statusAnswer 0 (some ⟨"ok", "now", 60⟩), .drawn 0 true]

/-- Whether the key came or went last, how many of its timers run, and how many refreshes still
wait. -/
def tileCounts (run : List TileEvent × Tiles) : Option Bool × Nat × Nat :=
  (lastTurn "key" run.1, (run.2.running "key").length,
    (run.2.refreshes.filter fun r => r.phase ≠ .ended).length)

end Trial

/-- A key that went while its refresh waited has a timer when all handlers have finished. -/
theorem timer_orphaned : ∃ log d, Trace (tileSem fun _ => none) .start log d ∧ d.Finished ∧
    ¬ TimerKept "key" log d := by
  have counts : (Trial.tiled Trial.orphaned).map Trial.tileCounts =
      some (some false, 1, 0) := by decide
  obtain ⟨⟨log, d⟩, run, facts⟩ := Option.map_eq_some_iff.mp counts
  obtain ⟨turn, rest⟩ := Prod.mk.inj facts
  obtain ⟨timers, waiting⟩ := Prod.mk.inj rest
  refine ⟨log, d, attempt_trace run, ?_, ?_⟩
  · intro r member
    by_contra waits
    have left := List.filter_eq_nil_iff.mp (List.eq_nil_of_length_eq_zero waiting) r member
    exact left (by simpa using waits)
  · intro kept
    rw [TimerKept, turn] at kept
    have none : d.running "key" = [] := kept
    rw [none] at timers
    cases timers

theorem timers_kept_iff_refreshed : ∃ log d, Trace (tileSem fun _ => none) .start log d ∧
    (TimerKept "key" log d ↔ Timely "key" log) ∧ (d.running "key").length = 1 := by
  have counts : (Trial.tiled Trial.refreshed).map Trial.tileCounts =
      some (some true, 1, 0) := by decide
  obtain ⟨⟨log, d⟩, run, facts⟩ := Option.map_eq_some_iff.mp counts
  obtain ⟨-, rest⟩ := Prod.mk.inj facts
  obtain ⟨timers, -⟩ := Prod.mk.inj rest
  exact ⟨log, d, attempt_trace run,
    timers_kept_iff (fun _ => none) log d (attempt_trace run) "key", timers⟩

end Deckhand.StreamDeck
