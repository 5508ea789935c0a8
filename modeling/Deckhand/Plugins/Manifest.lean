import Deckhand.Models

namespace Deckhand
open Lib

def pluginApiVersion : Int := 1

structure PluginPermissions where
  mutation : Bool

/-- `name.startswith(f"{plugin_id}.")` -/
def Namespaced (pluginId name : String) : Prop := (pluginId ++ ".").toList <+: name.toList

instance (pluginId name : String) : Decidable (Namespaced pluginId name) :=
  inferInstanceAs (Decidable (_ <+: _))

/-- The validators of the adapter names are fields. -/
structure PluginManifest where
  id : String
  version : String
  apiVersion : Int
  adapters : List String
  actions : List String
  permissions : PluginPermissions
  configSchema : Json
  namespaced : ∀ name ∈ adapters, Namespaced id name
  unique : adapters.Nodup

end Deckhand
