import Deckhand.System
import Deckhand.Sample

namespace Deckhand
open Lib

/-- A turn: a process is started, or the call it stands at is answered, or it crashes. -/
inductive Turn where
  | start (client : Client)
  | store (i : Nat) (o : Oracle)
  | adapter (i : Nat) (reply : (op : AdapterOp) → List GuardEvent × Except AdapterExn op.Value)
  | policy (i : Nat) (inventory : Inventory)
  | crash (i : Nat)

def answerStore (rt : Runtime) (o : Oracle) :
    (op : Op) → DB → Option (op.Note × op.Ret × DB)
  | .store op, db => some (o, op.run rt.store o db)
  | _, _ => none

def answerAdapter
    (reply : (op : AdapterOp) → List GuardEvent × Except AdapterExn op.Value) :
    (op : Op) → DB → Option (op.Note × op.Ret × DB)
  | .adapter _ op, db => some ((reply op).1, (reply op).2, db)
  | _, _ => none

def answerPolicy (inventory : Inventory) : (op : Op) → DB → Option (op.Note × op.Ret × DB)
  | .decide input, db => some (inventory, .ok (Rego.decision inventory input), db)
  | _, _ => none

def Turn.act (rt : Runtime) : Turn → Act DB Client Op.Note Op.Ret
  | .start client => .spawn client
  | .store i o => .call i (answerStore rt o)
  | .adapter i reply => .call i (answerAdapter reply)
  | .policy i inventory => .call i (answerPolicy inventory)
  | .crash i => .crash i

def Turn.client : Turn → Option Client
  | .start client => some client
  | _ => none

/-- The environment admits what the turn answers. -/
def Turn.Allowed (env : Environment) : Turn → Prop
  | .adapter _ reply => ∀ name op, env.adapts name op (reply op).1 (reply op).2
  | .policy _ inventory =>
    ∀ input, env.decides input inventory (.ok (Rego.decision inventory input))
  | _ => True

def Runtime.played (rt : Runtime) (turns : List Turn) : Option BrokerConfig :=
  Config.play rt.code (.initial .empty) (turns.map (Turn.act rt))

section
variable {rt : Runtime} {env : Environment} {turns : List Turn} {c : BrokerConfig}

theorem turn_sound {turn : Turn} (allowed : turn.Allowed env) :
    (turn.act rt).Sound (rt.sem env) := by
  cases turn with
  | start client => trivial
  | crash i => trivial
  | store i o =>
    intro op db note r db' answer
    cases op with
    | store op =>
      obtain ⟨rfl, pair⟩ := Prod.mk.inj (Option.some.inj answer)
      exact pair
    | adapter name op => cases answer
    | decide input => cases answer
  | adapter i reply =>
    intro op db note r db' answer
    cases op with
    | store op => cases answer
    | adapter name op =>
      cases answer
      exact ⟨allowed name op, rfl⟩
    | decide input => cases answer
  | policy i inventory =>
    intro op db note r db' answer
    cases op with
    | store op => cases answer
    | adapter name op => cases answer
    | decide input =>
      cases answer
      exact ⟨allowed input, rfl⟩

theorem played_reachable (allowed : ∀ turn ∈ turns, turn.Allowed env)
    (h : rt.played turns = some c) : rt.Reachable env c := by
  refine Config.play_reachable (fun a member => ?_) .start h
  obtain ⟨turn, here, rfl⟩ := List.mem_map.mp member
  exact turn_sound (allowed turn here)

theorem played_started (h : rt.played turns = some c) (i : Nat) :
    c.started i = (turns.filterMap Turn.client)[i]? := by
  have starts := Config.play_starts h
  have clients : (turns.map (Turn.act rt)).filterMap Act.spawned =
      turns.filterMap Turn.client := by
    rw [List.filterMap_map]
    refine List.filterMap_congr fun turn _ => ?_
    cases turn <;> rfl
  rw [clients] at starts
  rw [Config.started, ← List.getElem?_map, starts]
  rfl

theorem allowed_any (turns : List Turn) : ∀ turn ∈ turns, turn.Allowed .any := by
  intro turn _
  cases turn <;> simp [Turn.Allowed, Environment.any]

end

def Config.endOf (c : BrokerConfig) (i : Nat) : Option (Except Exn Answer) :=
  match c.procs[i]? with
  | some (_, some (.ret r)) => some r
  | _ => none

theorem endOf_ended {c : BrokerConfig} {i : Nat} {r : Except Exn Answer}
    (h : Config.endOf c i = some r) : c.Ended i r := by
  unfold Config.endOf at h
  split at h
  · rename_i st r' here
    cases Option.some.inj h
    exact ⟨st, here⟩
  · cases h

def Client.isReconciler : Client → Bool
  | .reconciler _ => true
  | _ => false

def Client.isCanceller : Client → Bool
  | .canceller .. => true
  | _ => false

def Op.dropsResult : Op → Bool
  | .store (.transitionJob _ _ none ..) => true
  | _ => false

namespace Sample

def catalog (confirmation : ConfirmationMode) : Catalog where
  actions := [ensureActive confirmation]
  iterErrors _ _ := []
  distinct := by simp

/-- A broker with one adapter and one action, which needs the given confirmation. -/
def runtime (confirmation : ConfirmationMode) : Runtime where
  store := store
  catalog := catalog confirmation
  adapters := ⟨["dh-core.fake"], List.nodup_singleton _⟩
  protectedPairs := []
  protectedTypes := ["physical_estop"]
  allowMutations := true
  environment := "test"
  confirmationTtlSeconds := 60

def inventory : Inventory where
  operators := ["operator"]
  managedDevices := ["deck"]
  allowedTargets := [("test.resource.ensure_active", ["alpha"])]

/-- A worker takes its job from claim to success. -/
def finished : List Turn :=
  [.start (.createJob (request keyA) subject), .store 0 (oracle 1 "a"),
    .start (.worker "w"), .store 1 (oracle 2 "b"), .store 1 (oracle 3 "c"),
    .adapter 1 fun op => ([], healthy op), .store 1 (oracle 4 "d"), .store 1 (oracle 5 "e"),
    .adapter 1 fun op => ([], healthy op), .adapter 1 fun op => ([], healthy op),
    .store 1 (oracle 6 "f")]

end Sample
end Deckhand
