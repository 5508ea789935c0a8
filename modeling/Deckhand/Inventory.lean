import Deckhand.Lib.Checks
import Deckhand.Mediation

namespace Deckhand
open Lib

inductive InventoryExn where
  | inventoryError (message : String)
  | unicodeDecodeError
  | valueError
  | recursionError
  deriving DecidableEq

structure ProtectedInventory where
  protectedPairs : List (PyStr × PyStr) := []
  protectedTypes : List PyStr := []
  deriving DecidableEq

-- named here, so that every membership of a pair is decided by one term
local instance lawful_pairs : LawfulBEq (PyStr × PyStr) := inferInstance

def ProtectedInventory.isProtected (inventory : ProtectedInventory) (target : Target) : Bool :=
  decide (pyStr target.type ∈ inventory.protectedTypes) ||
    decide ((pyStr target.type, pyStr target.id) ∈ inventory.protectedPairs)

/-- What comes of reading the file. -/
inductive FileText where
  | osError
  | unicodeDecodeError
  | text (s : String)

structure InventoryPath where
  suffix : String
  readText : FileText

/-- Why a parser fails: `invalid` is what it raises of a text that is not of its format. -/
inductive ParseExn where
  | invalid
  | valueError
  | recursionError
  deriving DecidableEq

/-- The parsers of the two formats, and `str` of the values that `Formats.str` leaves to it. -/
structure Formats where
  safeLoad : String → Except ParseExn Json
  loads : String → Except ParseExn Json
  repr : Json → PyStr

section Load
variable (formats : Formats)

/-- `str(value)` -/
def Formats.str : Json → Except InventoryExn PyStr
  | .str s => .ok s
  | .int n => if digitsFit n then .ok (toString n) else .error .valueError
  | .bool true => .ok "True"
  | .bool false => .ok "False"
  | .null => .ok "None"
  | value => .ok (formats.repr value)

def mapping (v : Json) (message : String) : Except InventoryExn Dict :=
  match v with
  | .obj members => .ok members
  | _ => .error (.inventoryError message)

def items (v : Json) (message : String) : Except InventoryExn (List Json) :=
  match v with
  | .arr xs => .ok xs
  | _ => .error (.inventoryError message)

def typeName : Json → Except InventoryExn PyStr
  | .str s => .ok s
  | _ => .error (.inventoryError "'protected.types' must be a list of strings")

def protectedTarget (entry : Json) : Except InventoryExn (PyStr × PyStr) := do
  let message := "each protected target needs a 'type' and 'id'"
  let members ← mapping entry message
  let type ← demand (Dict.get? members "type") (.inventoryError message)
  let id ← demand (Dict.get? members "id") (.inventoryError message)
  return (← formats.str type, ← formats.str id)

def coerceEntries (raw : Json) : Except InventoryExn ProtectedInventory :=
  match raw with
  | .null => .ok {}
  | raw => do
    let root ← mapping raw "protected inventory root must be a mapping"
    let entries ← mapping ((Dict.get? root "protected").getD (.obj []))
      "'protected' must be a mapping of types and targets"
    let types ← items ((Dict.get? entries "types").getD (.arr []))
      "'protected.types' must be a list of strings"
    let types ← types.mapM typeName
    let targets ← items ((Dict.get? entries "targets").getD (.arr []))
      "'protected.targets' must be a list"
    let pairs ← targets.mapM (protectedTarget formats)
    return ⟨pairs, types⟩

def ParseExn.raised : ParseExn → InventoryExn
  | .invalid => .inventoryError "protected inventory is not valid YAML/JSON"
  | .valueError => .valueError
  | .recursionError => .recursionError

/-- The text is read as YAML or as JSON, by the suffix of the path. -/
def parsed (path : InventoryPath) (text : String) : Except ParseExn Json :=
  if path.suffix = ".yaml" ∨ path.suffix = ".yml" then formats.safeLoad text else formats.loads text

def loadProtectedInventory : Option InventoryPath → Except InventoryExn ProtectedInventory
  | none => .ok {}
  | some path =>
    match path.readText with
    | .osError => .error (.inventoryError "protected inventory unavailable")
    | .unicodeDecodeError => .error .unicodeDecodeError
    | .text text => do
      let raw ← (parsed formats path text).mapError ParseExn.raised
      coerceEntries formats raw

/-- The document lists the target's type, or the target itself. -/
def Lists (raw : Json) (target : Target) : Prop :=
  ∃ root entries, raw = .obj root ∧ Dict.get? root "protected" = some (.obj entries) ∧
    ((∃ types, Dict.get? entries "types" = some (.arr types) ∧ .str (pyStr target.type) ∈ types) ∨
      ∃ targets entry type id, Dict.get? entries "targets" = some (.arr targets) ∧
        .obj entry ∈ targets ∧ Dict.get? entry "type" = some type ∧
        Dict.get? entry "id" = some id ∧ formats.str type = .ok (pyStr target.type) ∧
        formats.str id = .ok (pyStr target.id))

def FileLists (path : Option InventoryPath) (target : Target) : Prop :=
  ∃ file text raw, path = some file ∧ file.readText = .text text ∧
    parsed formats file text = .ok raw ∧ Lists formats raw target

variable {formats : Formats} {raw : Json} {inventory : ProtectedInventory} {message : String}

theorem mapping_ok {v : Json} {members : Dict} :
    mapping v message = .ok members ↔ v = .obj members := by
  cases v <;> simp [mapping]

theorem items_ok {v : Json} {xs : List Json} : items v message = .ok xs ↔ v = .arr xs := by
  cases v <;> simp [items]

theorem typeName_ok {v : Json} {s : PyStr} : typeName v = .ok s ↔ v = .str s := by
  cases v <;> simp [typeName]

theorem protectedTarget_ok {entry : Json} {type id : PyStr} :
    protectedTarget formats entry = .ok (type, id) ↔ ∃ members t i, entry = .obj members ∧
      Dict.get? members "type" = some t ∧ Dict.get? members "id" = some i ∧
      formats.str t = .ok type ∧ formats.str i = .ok id := by
  simp only [protectedTarget, bind_ok, mapping_ok, demand_ok, pure_ok, Prod.mk.injEq]
  constructor
  · rintro ⟨members, here, t, ht, i, hi, _, named, _, numbered, rfl, rfl⟩
    exact ⟨members, t, i, here, ht, hi, named, numbered⟩
  · rintro ⟨members, t, i, here, ht, hi, named, numbered⟩
    exact ⟨members, here, t, ht, i, hi, type, named, id, numbered, rfl, rfl⟩

theorem listed_items {entries : Dict} {key : String} {xs : List Json} {P : Json → Prop}
    (read : items ((Dict.get? entries key).getD (.arr [])) message = .ok xs) :
    (∃ x ∈ xs, P x) ↔ ∃ ys, Dict.get? entries key = some (.arr ys) ∧ ∃ x ∈ ys, P x := by
  have read := items_ok.mp read
  cases found : Dict.get? entries key with
  | none =>
    rw [found] at read
    cases read
    simp
  | some v =>
    rw [found] at read
    obtain rfl : v = .arr xs := read
    simp

theorem coerceEntries_protects (loaded : coerceEntries formats raw = .ok inventory)
    (target : Target) : inventory.isProtected target = true ↔ Lists formats raw target := by
  unfold coerceEntries at loaded
  split at loaded
  · cases loaded
    simp [ProtectedInventory.isProtected, Lists]
  · simp only [bind_ok, pure_ok] at loaded
    obtain ⟨root, is_root, entries, is_entries, types, has_types, names, all_names, targets,
      has_targets, pairs, all_pairs, rfl⟩ := loaded
    obtain rfl := mapping_ok.mp is_root
    have by_type : pyStr target.type ∈ names ↔
        ∃ ts, Dict.get? entries "types" = some (.arr ts) ∧ .str (pyStr target.type) ∈ ts := by
      rw [mem_mapM all_names]
      have listed := listed_items (P := fun x => typeName x = .ok (pyStr target.type)) has_types
      rw [listed]
      simp only [typeName_ok, exists_eq_right]
    have by_pair : (pyStr target.type, pyStr target.id) ∈ pairs ↔
        ∃ ts, Dict.get? entries "targets" = some (.arr ts) ∧
          ∃ x ∈ ts, protectedTarget formats x = .ok (pyStr target.type, pyStr target.id) := by
      rw [mem_mapM all_pairs]
      exact listed_items has_targets
    -- only a mapping that is there has entries
    have given : ∀ {key : String} {v : Json}, Dict.get? entries key = some v →
        Dict.get? root "protected" = some (.obj entries) := by
      intro key v found
      have whole := mapping_ok.mp is_entries
      cases here : Dict.get? root "protected" with
      | none =>
        rw [here] at whole
        cases whole
        cases found
      | some w =>
        rw [here] at whole
        exact congrArg some whole
    simp only [ProtectedInventory.isProtected, Bool.or_eq_true, decide_eq_true_eq, by_type, by_pair]
    constructor
    · rintro (⟨ts, found, member⟩ | ⟨ts, found, x, member, pair⟩)
      · exact ⟨root, entries, rfl, given found, .inl ⟨ts, found, member⟩⟩
      · obtain ⟨entry, t, i, rfl, ht, hi, same⟩ := protectedTarget_ok.mp pair
        exact ⟨root, entries, rfl, given found, .inr ⟨ts, entry, t, i, found, member, ht, hi, same⟩⟩
    · rintro ⟨root', entries', same, found, listed⟩
      cases same
      have whole := mapping_ok.mp is_entries
      rw [found] at whole
      cases whole
      rcases listed with ⟨ts, found, member⟩ | ⟨ts, entry, t, i, found, member, ht, hi, same⟩
      · exact .inl ⟨ts, found, member⟩
      · exact .inr ⟨ts, found, _, member, protectedTarget_ok.mpr ⟨entry, t, i, rfl, ht, hi, same⟩⟩

theorem loaded_protects {path : Option InventoryPath}
    (loaded : loadProtectedInventory formats path = .ok inventory) (target : Target) :
    inventory.isProtected target = true ↔ FileLists formats path target := by
  cases path with
  | none =>
    cases loaded
    simp [ProtectedInventory.isProtected, FileLists]
  | some file =>
    simp only [loadProtectedInventory] at loaded
    split at loaded
    · cases loaded
    · cases loaded
    · rename_i text readable
      obtain ⟨raw, valid, loaded⟩ := bind_ok.mp loaded
      rw [coerceEntries_protects loaded]
      constructor
      · intro listed
        exact ⟨file, text, raw, rfl, readable, mapError_ok.mp valid, listed⟩
      · rintro ⟨file', text', raw', same, readable', valid', listed⟩
        cases same
        cases readable.symm.trans readable'
        cases (mapError_ok.mp valid).symm.trans valid'
        exact listed

end Load

/-- What the broker holds to be protected is what the inventory that was loaded says. -/
def Runtime.Fences (rt : Runtime) (inventory : ProtectedInventory) : Prop :=
  ∀ target, rt.isProtected target = inventory.isProtected target

/-- In no run is an adapter asked to do anything about a job that changes a target which the
protected inventory's file lists. -/
theorem protected_untouched (formats : Formats) (path : Option InventoryPath)
    (inventory : ProtectedInventory) (rt : Runtime) (c : BrokerConfig)
    (loaded : loadProtectedInventory formats path = .ok inventory) (fences : rt.Fences inventory)
    (h : rt.Reachable .governed c) (fronted : Fronted c.started) :
    ∀ e ∈ c.log, ∀ name op action request, e.op = .adapter name op →
      op.work = some (action, request) → action.mutation = true →
      ¬ FileLists formats path request.target := by
  intro e member name op action request asks work mutation listed
  obtain ⟨a, b, whole⟩ := List.append_of_mem member
  have run := reachable_run h
  rw [whole] at run
  obtain ⟨x, i, y, j, actionId, submitted, subject, -, -, -, rfl, granted⟩ :=
    work_granted run fronted asks work
  have open_target := (granted.cleared mutation).unprotected
  have guarded : inventory.isProtected submitted.target = true :=
    (loaded_protects loaded submitted.target).mpr listed
  rw [fences, guarded] at open_target
  cases open_target

namespace Sample

/-- A YAML file that protects every emergency stop, and machine 100 by its number. -/
def fencedFile : Json :=
  .obj [("protected", .obj [("types", .arr [.str "physical_estop"]),
    ("targets", .arr [.obj [("type", .str "pve_vm"), ("id", .int 100)]])])]

def fencedFormats : Formats :=
  ⟨fun _ => .ok fencedFile, fun _ => .error .invalid, fun _ => []⟩

def fencedPath : InventoryPath := ⟨".yaml", .text "protected"⟩

def fenced : ProtectedInventory := ⟨[(pyStr "pve_vm", pyStr "100")], [pyStr "physical_estop"]⟩

def fencedRuntime : Runtime := { runtime .confirm with protectedPairs := [("pve_vm", "100")] }

theorem fenced_fences : fencedRuntime.Fences fenced := by
  intro target
  simp [Runtime.isProtected, ProtectedInventory.isProtected, fencedRuntime, runtime, fenced]

end Sample

open Sample in
theorem protected_untouched_fenced : ∃ c, fencedRuntime.played mediated = some c ∧
    c.log.length = 11 ∧ FileLists fencedFormats (some fencedPath) ⟨"pve_vm", "100"⟩ ∧
    ∀ e ∈ c.log, ∀ name op action request, e.op = .adapter name op →
      op.work = some (action, request) → action.mutation = true →
      ¬ FileLists fencedFormats (some fencedPath) request.target := by
  have outcome : (fencedRuntime.played mediated).map (fun c => c.log.length) = some 11 := by
    decide +kernel
  obtain ⟨c, played, length⟩ := Option.map_eq_some_iff.mp outcome
  have loaded : loadProtectedInventory fencedFormats (some fencedPath) = .ok fenced := by
    decide +kernel
  exact ⟨c, played, length, (loaded_protects loaded _).mp (by decide),
    protected_untouched fencedFormats (some fencedPath) fenced fencedRuntime c loaded fenced_fences
      (played_reachable (allowed_governed mediated) played) (mediated_fronted played)⟩

end Deckhand
