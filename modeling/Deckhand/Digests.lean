import Deckhand.Models

namespace Deckhand
open Lib

def isHexDigit (c : Char) : Bool := ('0' ≤ c && c ≤ '9') || ('a' ≤ c && c ≤ 'f')

/-- `hexdigest` of the hash functions, over the characters of a text that is encoded as
UTF-8. -/
structure Hashlib where
  sha256 : List Char → String
  hmacSha256 : String → List Char → String
  sha256Hex : ∀ message, (sha256 message).toList.all isHexDigit = true
  hmacSha256Hex : ∀ key message, (hmacSha256 key message).toList.all isHexDigit = true

def requestPayload (request : ActionRequest) : Dict :=
  [("action_id", .str request.actionId), ("action_version", .int request.actionVersion),
    ("target", request.target.modelDump), ("parameters", .obj request.parameters.jsonMode),
    ("context", request.context.modelDump), ("idempotency_key", .str request.idempotencyKey),
    ("dry_run", .bool request.dryRun)]

def requestDigest (hashlib : Hashlib) (request : ActionRequest) : String :=
  hashlib.sha256 (Json.text (.obj (requestPayload request)))

/-- Only what a confirmation approves; not the context, the key or the proofs. -/
def confirmationPayload (request : ActionRequest) : Dict :=
  [("action_id", .str request.actionId), ("action_version", .int request.actionVersion),
    ("target", request.target.modelDump), ("parameters", .obj request.parameters)]

def confirmationDigest (hashlib : Hashlib) (request : ActionRequest) : String :=
  hashlib.sha256 (Json.text (.obj (confirmationPayload request)))

theorem hexDigit_ascii {c : Char} (h : isHexDigit c = true) : c.toNat < 128 := by
  have bound : c.val ≤ 'f'.val := by
    rcases Bool.or_eq_true .. |>.mp h with digit | letter
    · have := of_decide_eq_true (Bool.and_eq_true .. |>.mp digit).2
      exact Nat.le_trans this (by decide)
    · exact of_decide_eq_true (Bool.and_eq_true .. |>.mp letter).2
  exact Nat.lt_of_le_of_lt (m := 102) bound (by decide)

end Deckhand
