import Deckhand.Wasm.Rpc

/-! What the lifecycle operations answer, with Python's own values in it: what each model admits,
and that it admits again what was dumped of it. -/
namespace Deckhand
open Lib

/-- How pydantic reads a datetime, as the text that it is dumped to. -/
structure Moments where
  read : PyJson → Option PyStr
  dumped : ∀ v t, read v = some t → read (.str t) = some t

def Moments.Moment (moments : Moments) : Type := { t : PyStr // moments.read (.str t) = some t }

def Moments.moment? (moments : Moments) (v : PyJson) : Option moments.Moment :=
  (moments.read v).pmap (fun t h => ⟨t, h⟩) (moments.dumped v)

inductive AdapterHealthState where
  | healthy | degraded | unavailable
  deriving DecidableEq, Repr

def AdapterHealthState.value : AdapterHealthState → String
  | .healthy => "healthy"
  | .degraded => "degraded"
  | .unavailable => "unavailable"

def AdapterHealthState.all : List AdapterHealthState := [.healthy, .degraded, .unavailable]

def CancellationDisposition.all : List CancellationDisposition :=
  [.cancelled, .notSupported, .alreadyTerminal, .unknown]

/-- A text for a field with a bound: what is no Unicode text is no text for it. -/
def textField (bound : Nat) (v : PyJson) : Option { s : PyStr // s.length ≤ bound } :=
  v.str?.bind fun s =>
    if h : s.length ≤ bound ∧ encodable s = true then some ⟨s, h.1⟩ else none

/-- The items have no bound, and any text is one of them. -/
def textValues : PyJson → Option (List PyStr)
  | .arr items => items.mapM PyJson.str?
  | _ => none

def detailsField (d : PyDict) : Option PyDict :=
  withDefault [] PyJson.members? (pyGet d "details")

structure PyHealth (moments : Moments) where
  state : AdapterHealthState
  checkedAt : moments.Moment
  details : PyDict

structure PyPlan where
  steps : List PyStr
  nonempty : steps ≠ []

/-- `AdapterExecution`, with Python's own values in it. -/
structure PyExecution where
  reference : Option { s : PyStr // s.length ≤ 512 }
  details : PyDict

structure PyObservation (moments : Moments) where
  state : { s : PyStr // s.length ≤ 128 }
  observedAt : moments.Moment
  details : PyDict
  stated : state.1 ≠ []

structure PyVerification where
  satisfied : Bool
  details : PyDict

structure PyCancellation where
  disposition : CancellationDisposition
  details : PyDict

section Validation
variable {moments : Moments}

/-- `now` is what the default factory of the time makes. -/
def PyHealth.modelValidate (now : moments.Moment) (d : PyDict) : Option (PyHealth moments) := do
  onlyFields ["state", "checked_at", "details"] d
  let state ← (pyGet d "state").bind (enumValue AdapterHealthState.all AdapterHealthState.value)
  let checkedAt ← withDefault now moments.moment? (pyGet d "checked_at")
  let details ← detailsField d
  return { state, checkedAt, details }

def PyPlan.modelValidate (d : PyDict) : Option PyPlan := do
  onlyFields ["steps"] d
  let steps ← (pyGet d "steps").bind textValues
  if nonempty : steps ≠ [] then some { steps, nonempty } else none

def PyExecution.modelValidate (d : PyDict) : Option PyExecution := do
  onlyFields ["reference", "details"] d
  let reference ← withDefault none (optionally (textField 512)) (pyGet d "reference")
  let details ← detailsField d
  return { reference, details }

def PyObservation.modelValidate (now : moments.Moment) (d : PyDict) :
    Option (PyObservation moments) := do
  onlyFields ["state", "observed_at", "details"] d
  let state ← (pyGet d "state").bind (textField 128)
  let observedAt ← withDefault now moments.moment? (pyGet d "observed_at")
  let details ← detailsField d
  if stated : state.1 ≠ [] then some { state, observedAt, details, stated } else none

def PyVerification.modelValidate (pydantic : Pydantic) (d : PyDict) : Option PyVerification := do
  onlyFields ["satisfied", "details"] d
  let satisfied ← (pyGet d "satisfied").bind pydantic.bool
  let details ← detailsField d
  return { satisfied, details }

def PyCancellation.modelValidate (d : PyDict) : Option PyCancellation := do
  onlyFields ["disposition", "details"] d
  let disposition ← (pyGet d "disposition").bind
    (enumValue CancellationDisposition.all CancellationDisposition.value)
  let details ← detailsField d
  return { disposition, details }

def PyHealth.members (x : PyHealth moments) : PyDict :=
  [(pyStr "state", strJson x.state.value), (pyStr "checked_at", .str x.checkedAt.1),
    (pyStr "details", .obj x.details)]

def PyPlan.members (x : PyPlan) : PyDict := [(pyStr "steps", .arr (x.steps.map .str))]

def PyExecution.members (x : PyExecution) : PyDict :=
  [(pyStr "reference", x.reference.elim .null fun s => .str s.1), (pyStr "details", .obj x.details)]

def PyObservation.members (x : PyObservation moments) : PyDict :=
  [(pyStr "state", .str x.state.1), (pyStr "observed_at", .str x.observedAt.1),
    (pyStr "details", .obj x.details)]

def PyVerification.members (x : PyVerification) : PyDict :=
  [(pyStr "satisfied", .bool x.satisfied), (pyStr "details", .obj x.details)]

def PyCancellation.members (x : PyCancellation) : PyDict :=
  [(pyStr "disposition", strJson x.disposition.value), (pyStr "details", .obj x.details)]

/-- What JSON mode leaves of a model. -/
def PyHealth.json (py : Builtins) (x : PyHealth moments) : PyHealth moments :=
  { x with details := jsonMembers py x.details }

def PyExecution.json (py : Builtins) (x : PyExecution) : PyExecution :=
  { x with details := jsonMembers py x.details }

def PyObservation.json (py : Builtins) (x : PyObservation moments) : PyObservation moments :=
  { x with details := jsonMembers py x.details }

def PyVerification.json (py : Builtins) (x : PyVerification) : PyVerification :=
  { x with details := jsonMembers py x.details }

def PyCancellation.json (py : Builtins) (x : PyCancellation) : PyCancellation :=
  { x with details := jsonMembers py x.details }

end Validation

/-- A model of an answer: what it makes of a dict at a time, what it is dumped to, and what of it
is left in JSON mode. What was dumped is a dict, and is validated, whenever that is, as what was
left. -/
structure ResultModel (moments : Moments) (α : Type) where
  validate : moments.Moment → PyDict → Option α
  members : α → PyDict
  json : Builtins → α → α
  proper : ∀ now d x, ProperDict d → validate now d = some x → ProperDict (members x)
  round : ∀ py now later d x, validate now d = some x →
    validate later (jsonMembers py (members x)) = some (json py x)

section Valid
variable {moments : Moments} {α : Type} {model : ResultModel moments α}

abbrev ResultModel.Valid (model : ResultModel moments α) : Type :=
  { x : α // ∃ now, ∃ raw : PyObject, model.validate now raw.members = some x }

def ResultModel.read (model : ResultModel moments α) (now : moments.Moment) (raw : PyObject) :
    Option model.Valid :=
  (model.validate now raw.members).pmap (fun x h => ⟨x, h⟩) fun _ valid => ⟨now, raw, valid⟩

/-- `model_dump` -/
def ResultModel.Valid.dump (x : model.Valid) : PyObject where
  members := model.members x.1
  proper := by
    obtain ⟨now, raw, valid⟩ := x.2
    exact model.proper now raw.members x.1 raw.proper valid

theorem ResultModel.Valid.again (x : model.Valid) (py : Builtins) (later : moments.Moment) :
    model.validate later (jsonMembers py x.dump.members) = some (model.json py x.1) := by
  obtain ⟨now, raw, valid⟩ := x.2
  exact model.round py now later raw.members x.1 valid

end Valid

section Fields
variable {moments : Moments} {d details : PyDict}

theorem moment?_text (t : moments.Moment) : moments.moment? (.str t.1) = some t := by
  have read := t.2
  simp only [Moments.moment?, read]
  rfl

theorem health_dump (state : AdapterHealthState) :
    enumValue AdapterHealthState.all AdapterHealthState.value (strJson state.value) =
      some state := by
  apply enumValue_dump
  · decide
  · cases state <;> decide

theorem disposition_dump (disposition : CancellationDisposition) :
    enumValue CancellationDisposition.all CancellationDisposition.value
      (strJson disposition.value) = some disposition := by
  apply enumValue_dump
  · decide
  · cases disposition <;> decide

theorem textField_again {bound : Nat} {v : PyJson} {s : { s : PyStr // s.length ≤ bound }}
    (read : textField bound v = some s) : textField bound (.str s.1) = some s := by
  simp only [textField, Option.bind_eq_some_iff] at read
  obtain ⟨t, -, admitted⟩ := read
  split at admitted
  · rename_i fits
    cases admitted
    simp only [textField, PyJson.str?, Option.bind_some, fits, and_self, dite_true]
  · cases admitted

theorem textValues_again {v : PyJson} {steps : List PyStr} (read : textValues v = some steps) :
    textValues (.arr (steps.map .str)) = some steps := by
  cases v with
  | arr items =>
    simp only [textValues] at read ⊢
    induction items generalizing steps with
    | nil =>
      cases read
      rfl
    | cons v items ih =>
      simp only [List.mapM_cons, Option.bind_eq_bind, Option.bind_eq_some_iff, Option.pure_def,
        Option.some.injEq] at read
      obtain ⟨s, first, rest, more, rfl⟩ := read
      simp only [List.map_cons, List.mapM_cons, PyJson.str?, ih more, Option.bind_eq_bind,
        Option.bind_some, Option.pure_def]
  | null => cases read
  | bool b => cases read
  | int i => cases read
  | float literal => cases read
  | str s => cases read
  | obj members => cases read

theorem pyGet_member {key : String} {v : PyJson} (found : pyGet d key = some v) :
    (pyStr key, v) ∈ d := by
  obtain ⟨m, among, rfl⟩ := Option.map_eq_some_iff.mp found
  have named : m.1 = pyStr key := by simpa using List.find?_some among
  rw [← named]
  exact List.mem_of_find?_eq_some among

theorem details_proper (proper : ProperDict d) (read : detailsField d = some details) :
    ProperDict details := by
  unfold detailsField at read
  cases found : pyGet d "details" with
  | none =>
    rw [found] at read
    cases read
    exact ⟨rfl, trivial⟩
  | some v =>
    rw [found] at read
    have inside := (properMembers_iff.mp proper.2 _ (pyGet_member found)).2
    cases v with
    | obj members =>
      cases read
      exact inside
    | null => cases read
    | bool b => cases read
    | int i => cases read
    | float literal => cases read
    | str s => cases read
    | arr items => cases read

theorem texts_proper (texts : List PyStr) :
    ProperItems ⟨none, ofPairs⟩ (fun _ => True) (texts.map .str) := by
  induction texts with
  | nil => trivial
  | cons s texts ih => exact ⟨trivial, ih⟩

theorem jsonMode_texts (py : Builtins) (texts : List PyStr) :
    jsonMode py (.arr (texts.map .str)) = .arr (texts.map .str) := by
  have items : hookedItems ofPairs (jsonTexts py (texts.map .str)) = texts.map .str := by
    rw [jsonItems_map, List.map_map]
    rfl
  exact congrArg PyJson.arr items

end Fields

section Models
variable {moments : Moments}

theorem healthFields {now : moments.Moment} {d : PyDict} {x : PyHealth moments}
    (valid : PyHealth.modelValidate now d = some x) : detailsField d = some x.details := by
  simp only [PyHealth.modelValidate, Option.bind_eq_bind, Option.bind_eq_some_iff,
    Option.pure_def, Option.some.injEq] at valid
  obtain ⟨-, -, state, -, checkedAt, -, details, kept, rfl⟩ := valid
  exact kept

def healthModel : ResultModel moments (PyHealth moments) where
  validate := PyHealth.modelValidate
  members := PyHealth.members
  json := PyHealth.json
  proper _ d x proper valid := by
    apply properDict_named ["state", "checked_at", "details"] (by decide) rfl
    exact ⟨trivial, trivial, trivial, trivial, trivial, details_proper proper (healthFields valid),
      trivial⟩
  round py _ _ d x valid := by
    have dumped : jsonMembers py x.members = (x.json py).members :=
      (jsonMembers_named ["state", "checked_at", "details"] (by decide) rfl).trans rfl
    have only : onlyFields ["state", "checked_at", "details"] ((x.json py).members) =
      some () := rfl
    have state : pyGet ((x.json py).members) "state" = some (strJson x.state.value) := rfl
    have checkedAt : pyGet ((x.json py).members) "checked_at" =
      some (.str x.checkedAt.1) := rfl
    have details : pyGet ((x.json py).members) "details" =
      some (.obj (jsonMembers py x.details)) := rfl
    rw [dumped]
    simp only [PyHealth.modelValidate, only, state, checkedAt, details, detailsField, withDefault,
      Option.bind_eq_bind, Option.bind_some, health_dump, moment?_text, PyJson.members?,
      Option.pure_def]
    rfl

def planModel : ResultModel moments PyPlan where
  validate _ := PyPlan.modelValidate
  members := PyPlan.members
  json _ x := x
  proper _ d x _ _ := by
    apply properDict_named ["steps"] (by decide) rfl
    exact ⟨trivial, texts_proper x.steps, trivial⟩
  round py _ _ d x valid := by
    simp only [PyPlan.modelValidate, Option.bind_eq_bind, Option.bind_eq_some_iff] at valid
    obtain ⟨-, -, steps, ⟨v, -, read⟩, made⟩ := valid
    split at made
    · rename_i nonempty
      cases made
      have dumped : jsonMembers py (PyPlan.members ⟨steps, nonempty⟩) =
          PyPlan.members ⟨steps, nonempty⟩ := by
        rw [jsonMembers_named ["steps"] (by decide) rfl]
        simp only [PyPlan.members, List.map_cons, List.map_nil, jsonMode_texts]
      have only : onlyFields ["steps"] (PyPlan.members ⟨steps, nonempty⟩) = some () := rfl
      have field : pyGet (PyPlan.members ⟨steps, nonempty⟩) "steps" =
        some (.arr (steps.map .str)) := rfl
      rw [dumped, PyPlan.modelValidate, only, field]
      simp only [Option.bind_eq_bind, Option.bind_some, textValues_again read, nonempty, ne_eq,
        not_false_eq_true, dite_true]
    · cases made

theorem modelValidate_fields {d : PyDict} {x : PyExecution}
    (valid : PyExecution.modelValidate d = some x) :
    withDefault none (optionally (textField 512)) (pyGet d "reference") = some x.reference ∧
      detailsField d = some x.details := by
  simp only [PyExecution.modelValidate, Option.bind_eq_bind, Option.bind_eq_some_iff,
    Option.pure_def, Option.some.injEq] at valid
  obtain ⟨_, -, reference, read, details, kept, rfl⟩ := valid
  exact ⟨read, kept⟩

def executionResult : ResultModel moments PyExecution where
  validate _ := PyExecution.modelValidate
  members := PyExecution.members
  json := PyExecution.json
  proper _ d x proper valid := by
    apply properDict_named ["reference", "details"] (by decide) rfl
    refine ⟨trivial, ?_, trivial, details_proper proper (modelValidate_fields valid).2, trivial⟩
    cases x.reference <;> trivial
  round py _ _ d x valid := by
    have dumped : jsonMembers py x.members = (x.json py).members := by
      rw [jsonMembers_named ["reference", "details"] (by decide) rfl]
      obtain ⟨reference, details⟩ := x
      cases reference <;> rfl
    obtain ⟨read, -⟩ := modelValidate_fields valid
    have only : onlyFields ["reference", "details"] ((x.json py).members) = some () := rfl
    have details : pyGet ((x.json py).members) "details" =
      some (.obj (jsonMembers py x.details)) := rfl
    have reference : pyGet ((x.json py).members) "reference" =
        some (x.reference.elim .null fun s => .str s.1) := rfl
    have again : optionally (textField 512)
        (x.reference.elim .null fun s => .str s.1) = some x.reference := by
      cases held : x.reference with
      | none => rfl
      | some s =>
        rw [held] at read
        cases found : pyGet d "reference" with
        | none =>
          rw [found] at read
          cases read
        | some v =>
          rw [found] at read
          have text : (textField 512 v).map some = some (some s) := by
            cases v <;> first | exact read | cases read
          obtain ⟨t, admitted, same⟩ := Option.map_eq_some_iff.mp text
          cases same
          exact congrArg (Option.map some) (textField_again admitted)
    rw [dumped]
    simp only [PyExecution.modelValidate, only, reference, details, detailsField, withDefault,
      again, Option.bind_eq_bind, Option.bind_some, PyJson.members?, Option.pure_def]
    rfl

theorem observationFields {now : moments.Moment} {d : PyDict} {x : PyObservation moments}
    (valid : PyObservation.modelValidate now d = some x) :
    textField 128 (.str x.state.1) = some x.state ∧ detailsField d = some x.details := by
  simp only [PyObservation.modelValidate, Option.bind_eq_bind, Option.bind_eq_some_iff] at valid
  obtain ⟨-, -, state, ⟨v, -, read⟩, observedAt, -, details, kept, made⟩ := valid
  split at made
  · cases made
    exact ⟨textField_again read, kept⟩
  · cases made

def observationModel : ResultModel moments (PyObservation moments) where
  validate := PyObservation.modelValidate
  members := PyObservation.members
  json := PyObservation.json
  proper _ d x proper valid := by
    apply properDict_named ["state", "observed_at", "details"] (by decide) rfl
    exact ⟨trivial, trivial, trivial, trivial, trivial,
      details_proper proper (observationFields valid).2, trivial⟩
  round py _ _ d x valid := by
    have dumped : jsonMembers py x.members = (x.json py).members :=
      (jsonMembers_named ["state", "observed_at", "details"] (by decide) rfl).trans rfl
    have text := (observationFields valid).1
    have stated := x.stated
    have only : onlyFields ["state", "observed_at", "details"] ((x.json py).members) =
      some () := rfl
    have state : pyGet ((x.json py).members) "state" = some (.str x.state.1) := rfl
    have observedAt : pyGet ((x.json py).members) "observed_at" =
      some (.str x.observedAt.1) := rfl
    have details : pyGet ((x.json py).members) "details" =
      some (.obj (jsonMembers py x.details)) := rfl
    rw [dumped]
    simp only [PyObservation.modelValidate, only, state, observedAt, details, detailsField,
      withDefault, Option.bind_eq_bind, Option.bind_some, text, moment?_text, PyJson.members?,
      stated, ne_eq, not_false_eq_true, dite_true]
    rfl

theorem verificationFields {pydantic : Pydantic} {d : PyDict} {x : PyVerification}
    (valid : PyVerification.modelValidate pydantic d = some x) :
    detailsField d = some x.details := by
  simp only [PyVerification.modelValidate, Option.bind_eq_bind, Option.bind_eq_some_iff,
    Option.pure_def, Option.some.injEq] at valid
  obtain ⟨-, -, satisfied, -, details, kept, rfl⟩ := valid
  exact kept

def verificationModel (pydantic : Pydantic) : ResultModel moments PyVerification where
  validate _ := PyVerification.modelValidate pydantic
  members := PyVerification.members
  json := PyVerification.json
  proper _ d x proper valid := by
    apply properDict_named ["satisfied", "details"] (by decide) rfl
    exact ⟨trivial, trivial, trivial, details_proper proper (verificationFields valid), trivial⟩
  round py _ _ d x valid := by
    have dumped : jsonMembers py x.members = (x.json py).members :=
      (jsonMembers_named ["satisfied", "details"] (by decide) rfl).trans rfl
    have only : onlyFields ["satisfied", "details"] ((x.json py).members) = some () := rfl
    have satisfied : pyGet ((x.json py).members) "satisfied" = some (.bool x.satisfied) := rfl
    have details : pyGet ((x.json py).members) "details" =
      some (.obj (jsonMembers py x.details)) := rfl
    rw [dumped]
    simp only [PyVerification.modelValidate, only, satisfied, details, detailsField, withDefault,
      Option.bind_eq_bind, Option.bind_some, pydantic.bool_bool, PyJson.members?, Option.pure_def]
    rfl

theorem cancellationFields {d : PyDict} {x : PyCancellation}
    (valid : PyCancellation.modelValidate d = some x) : detailsField d = some x.details := by
  simp only [PyCancellation.modelValidate, Option.bind_eq_bind, Option.bind_eq_some_iff,
    Option.pure_def, Option.some.injEq] at valid
  obtain ⟨-, -, disposition, -, details, kept, rfl⟩ := valid
  exact kept

def cancellationModel : ResultModel moments PyCancellation where
  validate _ := PyCancellation.modelValidate
  members := PyCancellation.members
  json := PyCancellation.json
  proper _ d x proper valid := by
    apply properDict_named ["disposition", "details"] (by decide) rfl
    exact ⟨trivial, trivial, trivial, details_proper proper (cancellationFields valid), trivial⟩
  round py _ _ d x valid := by
    have dumped : jsonMembers py x.members = (x.json py).members :=
      (jsonMembers_named ["disposition", "details"] (by decide) rfl).trans rfl
    have only : onlyFields ["disposition", "details"] ((x.json py).members) = some () := rfl
    have disposition : pyGet ((x.json py).members) "disposition" =
      some (strJson x.disposition.value) := rfl
    have details : pyGet ((x.json py).members) "details" =
      some (.obj (jsonMembers py x.details)) := rfl
    rw [dumped]
    simp only [PyCancellation.modelValidate, only, disposition, details, detailsField, withDefault,
      Option.bind_eq_bind, Option.bind_some, disposition_dump, PyJson.members?, Option.pure_def]
    rfl

end Models

abbrev Lifecycle.Result (moments : Moments) : Lifecycle → Type
  | .health => PyHealth moments
  | .call (.plan ..) => PyPlan
  | .call (.execute ..) => PyExecution
  | .call (.observe ..) => PyObservation moments
  | .call (.verify ..) => PyVerification
  | .call (.cancel ..) => PyCancellation

def Lifecycle.model {moments : Moments} (pydantic : Pydantic) :
    (l : Lifecycle) → ResultModel moments (l.Result moments)
  | .health => healthModel
  | .call (.plan ..) => planModel
  | .call (.execute ..) => executionResult
  | .call (.observe ..) => observationModel
  | .call (.verify ..) => verificationModel pydantic
  | .call (.cancel ..) => cancellationModel

def textMoments : Moments := ⟨PyJson.str?, fun _ _ _ => rfl⟩

end Deckhand
