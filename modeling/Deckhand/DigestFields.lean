import Deckhand.Digests
import Deckhand.Lib.Canonical
import Deckhand.Sample

namespace Deckhand
open Lib

/-- The fields that say what is done, and to what, are the same. -/
def SameAction (r s : ActionRequest) : Prop :=
  r.actionId = s.actionId ∧ r.actionVersion = s.actionVersion ∧ r.target.type = s.target.type ∧
    r.target.id = s.target.id

/-- The fields besides that a client chooses for each submission. -/
def SameSubmission (r s : ActionRequest) : Prop :=
  r.context = s.context ∧ r.idempotencyKey = s.idempotencyKey ∧ r.dryRun = s.dryRun

def SameParameters (r s : ActionRequest) : Prop :=
  Json.Same (.obj r.parameters) (.obj s.parameters)

/-- `json.dumps` writes one text of both, with their keys sorted. -/
def WrittenAlike (d e : Dict) : Prop := (Json.obj d).written = (Json.obj e).written

/-- The parameters are not the same, but are written alike. -/
def TextsMeet (r s : ActionRequest) : Prop :=
  WrittenAlike r.parameters s.parameters ∧ ¬ SameParameters r s

/-- The parameters are written alike in JSON mode and are not the same, or the other way round. -/
def ModesStray (r s : ActionRequest) : Prop :=
  ¬ (WrittenAlike r.parameters.jsonMode s.parameters.jsonMode ↔ SameParameters r s)

section Fields

@[simp] theorem written_str (s : String) : (Json.str s).written = .str s :=
  congrArg Json.str (join_pyStr s)

@[simp] theorem written_int (i : Int) : (Json.int i).written = .int i := rfl

@[simp] theorem written_bool (b : Bool) : (Json.bool b).written = .bool b := rfl

theorem written_textOrNull {a b : Option String} :
    (textOrNull a).written = (textOrNull b).written ↔ a = b := by
  cases a with
  | none =>
    cases b with
    | none => exact iff_of_true rfl rfl
    | some t => exact iff_of_false (fun h => nomatch h) (by simp)
  | some s =>
    cases b with
    | none => exact iff_of_false (fun h => nomatch h) (by simp)
    | some t =>
      change (Json.str s).written = (Json.str t).written ↔ _
      simp

theorem written_target {t u : Target} :
    t.modelDump.written = u.modelDump.written ↔ t.type = u.type ∧ t.id = u.id := by
  unfold Target.modelDump
  rw [written_obj_iff]
  · simp
  · rfl
  · simp

theorem written_context {c d : RequestContext} :
    c.modelDump.written = d.modelDump.written ↔ c = d := by
  unfold RequestContext.modelDump
  rw [written_obj_iff]
  · obtain ⟨profile, frontmostApp, client, control⟩ := c
    obtain ⟨profile', frontmostApp', client', control'⟩ := d
    simp [written_textOrNull]
  · rfl
  · simp

variable {r s : ActionRequest}

theorem confirmationPayload_written :
    WrittenAlike (confirmationPayload r) (confirmationPayload s) ↔
      SameAction r s ∧ WrittenAlike r.parameters s.parameters := by
  unfold confirmationPayload SameAction WrittenAlike
  rw [written_obj_iff]
  · simp only [List.map_cons, List.map_nil, List.cons.injEq, written_str, written_int,
      Json.str.injEq,
      Json.int.injEq, pyStr_inj, Int.natCast_inj, written_target, and_true]
    tauto
  · rfl
  · simp

theorem requestPayload_written :
    WrittenAlike (requestPayload r) (requestPayload s) ↔ SameAction r s ∧ SameSubmission r s ∧
      WrittenAlike r.parameters.jsonMode s.parameters.jsonMode := by
  unfold requestPayload SameAction SameSubmission WrittenAlike
  rw [written_obj_iff]
  · simp only [List.map_cons, List.map_nil, List.cons.injEq, written_str, written_int, written_bool,
      Json.str.injEq, Json.int.injEq, Json.bool.injEq, pyStr_inj, Int.natCast_inj, written_target,
      written_context, and_true]
    tauto
  · rfl
  · simp

end Fields

section Digests
variable {hashlib : Hashlib} {r s : ActionRequest}

theorem confirmationDigest_eq_iff (collisionFree : Function.Injective hashlib.sha256) :
    confirmationDigest hashlib r = confirmationDigest hashlib s ↔
      SameAction r s ∧ WrittenAlike r.parameters s.parameters := by
  rw [confirmationDigest, confirmationDigest, collisionFree.eq_iff, text_eq_iff]
  exact confirmationPayload_written

theorem requestDigest_eq_iff (collisionFree : Function.Injective hashlib.sha256) :
    requestDigest hashlib r = requestDigest hashlib s ↔ SameAction r s ∧ SameSubmission r s ∧
      WrittenAlike r.parameters.jsonMode s.parameters.jsonMode := by
  rw [requestDigest, requestDigest, collisionFree.eq_iff, text_eq_iff]
  exact requestPayload_written

/-- Both requests have their digests, and each digest is the same for them just if the fields it
is meant to cover are. -/
def DigestsBind (hashlib : Hashlib) (r s : ActionRequest) : Prop :=
  (r.writable = true ∧ s.writable = true) ∧
  (confirmationDigest hashlib r = confirmationDigest hashlib s ↔
    SameAction r s ∧ SameParameters r s) ∧
  (requestDigest hashlib r = requestDigest hashlib s ↔
    SameAction r s ∧ SameParameters r s ∧ SameSubmission r s)

theorem alike_iff_same (distinct : (Json.obj r.parameters).Distinct)
    (lasting : (Json.obj r.parameters).lasting = true ∧ (Json.obj s.parameters).lasting = true) :
    WrittenAlike r.parameters s.parameters ↔ SameParameters r s := by
  unfold WrittenAlike SameParameters
  rw [Json.written, Json.written, joined_of_lasting (sorted_every lasting.1),
    joined_of_lasting (sorted_every lasting.2), sorted_eq_iff distinct]

theorem plain_apart (hr : (Json.obj r.parameters).Distinct) (hs : (Json.obj s.parameters).Distinct)
    (standard : (Json.obj r.parameters).standard = true ∧ (Json.obj s.parameters).standard = true)
    (lasting : (Json.obj r.parameters).lasting = true ∧ (Json.obj s.parameters).lasting = true) :
    ¬ TextsMeet r s ∧ ¬ ModesStray r s := by
  have same := alike_iff_same hr lasting
  refine ⟨fun meet => meet.2 (same.mp meet.1), fun stray => stray ?_⟩
  rw [dict_jsonMode_of_standard standard.1 hr, dict_jsonMode_of_standard standard.2 hs, same]

end Digests

namespace Sample

theorem ideal_collisionFree : Function.Injective idealHashlib.sha256 :=
  fun _ _ same => unary_injective (String.ofList_injective same)

def paramRequest (parameters : Dict) : ActionRequest :=
  { request keyA with parameters := parameters }

def levelRequest (level : Json) : ActionRequest := paramRequest [("level", level)]

theorem half_wellFormed : FloatRepr "0.5".toList :=
  .mk false true 0 ['5'] [] (by simp) (by decide)

def nestedParameters : Dict :=
  [("steps", .arr [.int 1, .bool true, .float (.finite "0.5" half_wellFormed)]),
    ("at", .obj [("x", .int 1), ("y", .str "north")])]

/-- The same parameters, their keys in another order. -/
def reorderedParameters : Dict :=
  [("at", .obj [("y", .str "north"), ("x", .int 1)]),
    ("steps", .arr [.int 1, .bool true, .float (.finite "0.5" half_wellFormed)])]

theorem level_distinct {level : Json} (distinct : level.Distinct) :
    (Json.obj (levelRequest level).parameters).Distinct :=
  ⟨List.nodup_singleton _, distinct, trivial⟩

theorem one_fits : digitsFit 1 = true := digitsFit_iff.mpr (by decide)

theorem nested_writable : (paramRequest nestedParameters).writable = true ∧
    (paramRequest reorderedParameters).writable = true := by
  unfold ActionRequest.writable Json.writable paramRequest nestedParameters reorderedParameters
  simp [Json.every, everyItem, everyMember, Json.leafDigits, one_fits]

theorem nested_distinct : (Json.obj nestedParameters).Distinct ∧
    (Json.obj reorderedParameters).Distinct := by
  unfold nestedParameters reorderedParameters
  simp [Json.Distinct, DistinctItems, DistinctMembers]

def paired : PyStr := [0xd83d, 0xde00]

def astral : PyStr := "😀"

end Sample

open Sample in
theorem level_apart {x y : Json} (apart : ¬ Json.Same x y) :
    ¬ SameParameters (levelRequest x) (levelRequest y) := by
  unfold SameParameters levelRequest paramRequest
  rw [same_obj]
  · intro same
    cases same with
    | cons value rest => exact apart value
  · rfl
  · exact List.nodup_singleton _

end Deckhand
