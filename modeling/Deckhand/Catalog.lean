import Deckhand.Models

namespace Deckhand
open Lib

/-- `iterErrors` is the JSON schema validator: its messages for a value, in path order. -/
structure Catalog where
  actions : List ActionDefinition
  iterErrors : Json → Dict → List String
  distinct : (actions.map fun a => (a.id, a.version)).Nodup

structure CatalogError where
  message : String
  deriving DecidableEq, Repr

namespace Catalog

def get (c : Catalog) (actionId : String) (version : Nat) : Except CatalogError ActionDefinition :=
  match c.actions.find? fun a => a.id = actionId ∧ a.version = version with
  | some action => .ok action
  | none => .error ⟨"unknown action " ++ actionId ++ "@" ++ toString version⟩

def validateRequest (c : Catalog) (request : ActionRequest) :
    Except CatalogError ActionDefinition := do
  let action ← c.get request.actionId request.actionVersion
  if request.target.type ∉ action.targetTypes then
    throw ⟨"target type '" ++ request.target.type ++ "' is not allowed"⟩
  let errors := c.iterErrors action.parameterSchema request.parameters
  if errors ≠ [] then throw ⟨"invalid parameters: " ++ "; ".intercalate errors⟩
  return action

theorem validateRequest_get {c : Catalog} {request : ActionRequest} {action : ActionDefinition}
    (valid : c.validateRequest request = .ok action) :
    c.get request.actionId request.actionVersion = .ok action := by
  unfold validateRequest at valid
  cases found : c.get request.actionId request.actionVersion with
  | error x =>
    rw [found] at valid
    cases valid
  | ok a =>
    rw [found] at valid
    simp only [bind, Except.bind, pure, Except.pure, throw, throwThe, MonadExceptOf.throw] at valid
    split at valid
    · cases valid
    · split at valid
      · cases valid
      · exact valid

end Catalog
end Deckhand
