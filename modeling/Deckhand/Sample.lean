import Deckhand.Store.Schema
import Deckhand.Adapters
import Deckhand.Catalog

/-! The actions, requests and subjects of the repository's tests, and a small hash in place
of SHA-256, for runs on concrete inputs. -/
namespace Deckhand.Sample
open Lib

/-- The number a text starts with: different for the texts of different events, whose
sequence comes first, and for the tokens used here. -/
def digits (message : List Char) : String := String.ofList (message.takeWhile Char.isDigit)

theorem digits_hex (message : List Char) : (digits message).toList.all isHexDigit = true := by
  rw [digits, String.toList_ofList, List.all_eq_true]
  intro c hc
  have digit := List.all_eq_true.mp (List.all_takeWhile (p := Char.isDigit) (l := message)) c hc
  simp only [Char.isDigit, ge_iff_le, Bool.and_eq_true, decide_eq_true_eq] at digit
  simp only [isHexDigit, Bool.or_eq_true, Bool.and_eq_true, decide_eq_true_eq]
  exact .inl digit

def hashlib : Hashlib where
  sha256 message := digits message
  hmacSha256 _ message := digits message
  sha256Hex := digits_hex
  hmacSha256Hex _ := digits_hex

def store : Store := ⟨hashlib, some "key"⟩

/-- A text with its characters in unary: no two texts share it. -/
def unary : List Char → List Char
  | [] => []
  | c :: rest => List.replicate c.toNat 'a' ++ 'b' :: unary rest

theorem unary_injective : Function.Injective unary := by
  have block : ∀ {n m : Nat} {x y : List Char},
      List.replicate n 'a' ++ 'b' :: x = List.replicate m 'a' ++ 'b' :: y → n = m ∧ x = y := by
    intro n
    induction n with
    | zero =>
      intro m x y same
      cases m with
      | zero => exact ⟨rfl, (List.cons.inj same).2⟩
      | succ m => exact absurd (List.cons.inj same).1 (by decide)
    | succ n ih =>
      intro m x y same
      cases m with
      | zero => exact absurd (List.cons.inj same).1 (by decide)
      | succ m =>
        obtain ⟨rfl, rest⟩ := ih (List.cons.inj same).2
        exact ⟨rfl, rest⟩
  intro l
  induction l with
  | nil =>
    intro m same
    cases m with
    | nil => rfl
    | cons d rest => exact absurd same (by simp [unary])
  | cons c rest ih =>
    intro m same
    cases m with
    | nil => exact absurd same (by simp [unary])
    | cons d rest' =>
      obtain ⟨codes, tails⟩ := block same
      rw [ih tails, Char.toNat_inj.mp codes]

theorem unary_letters (message : List Char) : ∀ c ∈ unary message, c = 'a' ∨ c = 'b' := by
  induction message with
  | nil => simp [unary]
  | cons d rest ih =>
    intro c hc
    rcases List.mem_append.mp hc with hc | hc
    · exact .inl (List.eq_of_mem_replicate hc)
    · rcases List.mem_cons.mp hc with rfl | hc
      · exact .inr rfl
      · exact ih c hc

theorem unary_hex (message : List Char) :
    (String.ofList (unary message)).toList.all isHexDigit = true := by
  rw [String.toList_ofList, List.all_eq_true]
  intro c hc
  rcases unary_letters message c hc with rfl | rfl <;> decide

def idealHashlib : Hashlib where
  sha256 message := String.ofList (unary message)
  hmacSha256 _ message := String.ofList (unary message)
  sha256Hex := unary_hex
  hmacSha256Hex _ := unary_hex

theorem idealHashlib_injective (key : String) : Function.Injective (idealHashlib.hmacSha256 key) :=
  fun _ _ same => unary_injective (String.ofList_injective same)

def subject : Subject := ⟨"operator", "deck", "tailscale"⟩

/-- `test.resource.ensure_active`, with the given confirmation. -/
def ensureActive (confirmation : ConfirmationMode) : ActionDefinition where
  id := "test.resource.ensure_active"
  version := 1
  title := "Ensure resource active"
  description := "Ensure a test resource is active."
  riskClass := .reversible
  plugin := "dh-core"
  adapter := "dh-core.fake"
  targetTypes := ["resource"]
  parameterSchema := .obj []
  policyAction := "test.resource.ensure_active"
  confirmation := confirmation
  timeoutSeconds := 30
  idempotency := "key"
  mutation := true
  mutationMatchesRisk := by simp
  timeoutPositive := by decide
  timeoutBounded := by decide

abbrev keyA : String := "9b2f64d1-6c0e-4f7a-9d55-1c2e8a70b30a"

abbrev keyB : String := "9b2f64d1-6c0e-4f7a-9d55-1c2e8a70b30b"

abbrev keyC : String := "9b2f64d1-6c0e-4f7a-9d55-1c2e8a70b30c"

abbrev keyD : String := "9b2f64d1-6c0e-4f7a-9d55-1c2e8a70b30d"

def request (key : String) : ActionRequest where
  actionId := "test.resource.ensure_active"
  actionVersion := 1
  target := ⟨"resource", "alpha"⟩
  parameters := []
  context := ⟨none, none, "stream-deck", some "key-1"⟩
  idempotencyKey := key
  dryRun := false
  confirmationToken := none
  confirmationResponse := none

def execution (reference : String) : AdapterExecution :=
  if h : reference.length ≤ 512 then ⟨some reference, [], fun _ same => Option.some.inj same ▸ h⟩
  else ⟨none, [], AdapterExecution.unreferenced⟩

theorem healthy_nonempty : 1 ≤ "healthy".length := by decide

theorem healthy_bounded : "healthy".length ≤ 128 := by decide

def healthy : (op : AdapterOp) → Except AdapterExn op.Value
  | .plan .. => .ok ⟨["observe"], by simp⟩
  | .execute .. => .ok (execution "fake")
  | .observe .. => .ok ⟨"healthy", "now", [], healthy_nonempty, healthy_bounded⟩
  | .verify .. => .ok ⟨true, []⟩
  | .cancel .. => .ok ⟨.cancelled, []⟩

def doubtful : (op : AdapterOp) → Except AdapterExn op.Value :=
  fun _ => .error (.adapterError { message := "no answer", reconciliationRequired := true })

/-- As long as `token_urlsafe` makes them. -/
def tokenAt (seconds : Nat) : String := toString (10 ^ 42 + seconds)

/-- The outside of a call: a time in seconds and a fresh identifier. -/
def oracle (seconds : Nat) (uuid : String) : Oracle where
  now := seconds * 1000000
  uuid := uuid
  token := tokenAt seconds
  auditNow n := seconds * 1000000 + n
  pendingUuid n := uuid ++ toString n
  rank _ := 0
  fault := none

def failing (statement : Nat) (seconds : Nat) (uuid : String) : Oracle :=
  { oracle seconds uuid with fault := some (statement, .sqliteError "disk I/O error") }

end Deckhand.Sample
