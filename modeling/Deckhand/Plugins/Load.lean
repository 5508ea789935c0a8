import Deckhand.Plugins.Artifact
import Deckhand.Resilience
import Mathlib.Data.List.Dedup

namespace Deckhand
open Lib

inductive PluginSource where
  | builtin | python | wasm
  deriving DecidableEq

inductive RuntimeMode where
  | inProcess | wasm
  deriving DecidableEq

structure WasmConnection where
  gang : GanglionConnection
  socket : Option WasmHostConnection

/-- Wasm settings are there in wasm mode and in no other. -/
structure PluginRuntime where
  policy : ResiliencePolicy
  mode : RuntimeMode
  wasm : Option WasmConnection
  isolation : mode = .wasm ↔ wasm.isSome = true

structure PluginActivation where
  enabled : Bool
  config : Dict
  runtime : PluginRuntime

structure PluginConfiguration where
  plugins : List (String × PluginActivation)
  distinct : (plugins.map Prod.fst).Nodup

/-- `^sha256:[a-f0-9]{64}$` -/
def digestPattern (s : String) : Bool :=
  "sha256:".toList.isPrefixOf s.toList && (s.toList.drop 7).length = 64 &&
    (s.toList.drop 7).all isHexDigit

abbrev Sha256Digest := { s : String // digestPattern s = true }

structure PluginLockEntry where
  id : String
  version : String
  source : PluginSource
  digest : Option Sha256Digest

structure PluginLock where
  plugins : List PluginLockEntry

/-- What a load raises: `PluginError`, or something else that a plugin raised. -/
inductive LoadExn where
  | plugin (message : String)
  | other
  deriving DecidableEq

/-- The quoted form of a text without quotes in it. -/
def pyRepr (s : String) : String := "'" ++ s ++ "'"

def PluginLock.byId (lock : PluginLock) : Except LoadExn (List PluginLockEntry) := do
  refuse (¬ (lock.plugins.map PluginLockEntry.id).Nodup)
    (.plugin "plugin lock contains duplicate IDs")
  return lock.plugins

/-- An object of a plugin's own; `complete` is whether it has every method of its protocol. -/
structure PluginObject where
  complete : Bool

inductive PluginAdapter where
  | own (object : PluginObject)
  | wasmHost (socket : WasmHostConnection)
  | ganglion (connection : WasmConnection)

def PluginAdapter.complete : PluginAdapter → Bool
  | .own object => object.complete
  | _ => true

inductive PluginStatus where
  | own (object : PluginObject)
  | wasmHost (socket : WasmHostConnection)
  | ganglion (connection : WasmConnection)

def PluginStatus.complete : PluginStatus → Bool
  | .own object => object.complete
  | _ => true

structure PluginContribution (α σ : Type) where
  adapters : List (String × α)
  statusProviders : List (String × σ)
  actions : List ActionDefinition
  adaptersDistinct : (adapters.map Prod.fst).Nodup
  statusDistinct : (statusProviders.map Prod.fst).Nodup

structure DeckhandPlugin where
  manifest : Except LoadExn PluginManifest
  build : Dict → Except LoadExn (PluginContribution PluginObject PluginObject)

/-- `load` hands over nothing when the object is no plugin. -/
structure EntryPoint where
  distribution : Option String
  load : Except LoadExn (Option DeckhandPlugin)

structure PluginManager where
  builtinFactories : List (String × Except LoadExn DeckhandPlugin)
  externalEntryPoints : List (String × EntryPoint)

structure WasmDescription where
  manifest : PluginManifest
  adapters : List String
  statusProviders : List String
  actions : List ActionDefinition

/-- What a load finds outside the broker: files, hosts, components, and a validator of JSON
schemas. -/
structure PluginWorld where
  py : Builtins
  files : Files
  crypto : Cryptography
  answer : String → WasmHostConnection → Option HostHandshake
  describe : WasmConnection → Option WasmDescription
  iterErrors : Json → Dict → List String

structure ResilienceGuard where
  pluginId : String
  policy : ResiliencePolicy

structure ResilientAdapter where
  adapter : PluginAdapter
  guard : ResilienceGuard

structure ResilientStatusProvider where
  provider : PluginStatus
  guard : ResilienceGuard

structure LoadedPlugins where
  manifests : List PluginManifest
  adapters : List (String × ResilientAdapter)
  status : List (String × ResilientStatusProvider)
  actions : List ActionDefinition
  resilience : List (String × ResilienceGuard)

def LoadedPlugins.empty : LoadedPlugins := ⟨[], [], [], [], []⟩

def distinctNames (names : List String) : List String := names.reverse.dedup.reverse

theorem distinctNames_nodup (names : List String) : (distinctNames names).Nodup :=
  List.nodup_reverse.mpr (List.nodup_dedup _)

@[simp] theorem mem_distinctNames {name : String} {names : List String} :
    name ∈ distinctNames names ↔ name ∈ names := by
  simp [distinctNames]

def descriptionIsMutationCapable (description : WasmDescription) : Bool :=
  description.manifest.permissions.mutation || description.actions.any ActionDefinition.mutation

def forNames {α : Type} (names : List String) (a : α) : List (String × α) :=
  names.map fun name => (name, a)

@[simp] theorem forNames_keys {α : Type} (names : List String) (a : α) :
    (forNames names a).map Prod.fst = names := by
  simp [forNames, Function.comp_def]

def wasmContribution (connection : WasmConnection) (description : WasmDescription) :
    PluginContribution PluginAdapter PluginStatus where
  adapters := forNames (distinctNames description.adapters) (.ganglion connection)
  statusProviders := forNames (distinctNames description.statusProviders) (.ganglion connection)
  actions := description.actions
  adaptersDistinct := by simp [distinctNames_nodup]
  statusDistinct := by simp [distinctNames_nodup]

def hostContribution (socket : WasmHostConnection) (handshake : HostHandshake) :
    PluginContribution PluginAdapter PluginStatus where
  adapters := forNames handshake.manifest.adapters (.wasmHost socket)
  statusProviders := forNames (distinctNames handshake.statusProviders) (.wasmHost socket)
  actions := handshake.actions
  adaptersDistinct := by simp [handshake.manifest.unique]
  statusDistinct := by simp [distinctNames_nodup]

def ownContribution (built : PluginContribution PluginObject PluginObject) :
    PluginContribution PluginAdapter PluginStatus where
  adapters := built.adapters.map fun a => (a.1, .own a.2)
  statusProviders := built.statusProviders.map fun s => (s.1, .own s.2)
  actions := built.actions
  adaptersDistinct := by simpa [Function.comp_def] using built.adaptersDistinct
  statusDistinct := by simpa [Function.comp_def] using built.statusDistinct

abbrev Described := PluginManifest × PluginContribution PluginAdapter PluginStatus

section
variable (manager : PluginManager) (world : PluginWorld)

def wasmOutOfProcess (pluginId : String) (socket : WasmHostConnection) (digest : Sha256Digest) :
    Except LoadExn Described := do
  let handshake ← (handshakeWith world.files world.crypto socket world.py world.answer pluginId
    digest.1).mapError fun _ =>
      .plugin ("wasm plugin " ++ pyRepr pluginId ++ " failed secure out-of-process handshake")
  return (handshake.manifest, hostContribution socket handshake)

def wasmInProcess (pluginId : String) (connection : WasmConnection) : Except LoadExn Described := do
  let description ← demand (world.describe connection)
    (.plugin ("wasm plugin " ++ pyRepr pluginId ++ " failed to describe"))
  refuse (descriptionIsMutationCapable description = true)
    (.plugin ("mutation-capable wasm plugin " ++
    pyRepr pluginId ++ " requires the out-of-process host; " ++
    "the in-process CLI transport is a read-only/dev convenience only"))
  return (description.manifest, wasmContribution connection description)

/-- `_wasm` -/
def loadWasm (allowWasm : Bool) (pluginId : String) (activation : PluginActivation)
    (entry : PluginLockEntry) : Except LoadExn Described := do
  let named := "wasm plugin " ++ pyRepr pluginId
  refuse (allowWasm = false) (.plugin (named ++ " requires DECKHAND_ALLOW_WASM_PLUGINS=true"))
  refuse (activation.runtime.mode ≠ .wasm) (.plugin (named ++ " requires wasm runtime settings"))
  let connection ← demand activation.runtime.wasm
    (.plugin (named ++ " requires wasm runtime settings"))
  refuse (activation.config.isEmpty = false)
    (.plugin (named ++ " configuration is declared in its signed manifest"))
  let digest ← demand entry.digest (.plugin (named ++ " requires an artifact digest"))
  match connection.socket with
  | some socket => wasmOutOfProcess world pluginId socket digest
  | none => wasmInProcess world pluginId connection

/-- `_instantiate`, for an entry that is not wasm. -/
def instantiate (allowExternal : Bool) (entry : PluginLockEntry) : Except LoadExn DeckhandPlugin :=
  match entry.source with
  | .builtin => do
    let factory ← demand (manager.builtinFactories.lookup entry.id)
      (.plugin ("locked builtin plugin " ++ pyRepr entry.id ++ " is unavailable"))
    factory
  | _ => do
    refuse (allowExternal = false) (.plugin ("external plugin " ++ pyRepr entry.id ++
      " requires DECKHAND_ALLOW_EXTERNAL_PLUGINS=true"))
    let point ← demand (manager.externalEntryPoints.lookup entry.id)
      (.plugin ("locked Python plugin " ++ pyRepr entry.id ++ " is not installed"))
    refuse (∃ version ∈ point.distribution, version ≠ entry.version)
      (.plugin ("installed distribution for " ++ pyRepr entry.id ++ " is " ++
        point.distribution.getD "" ++ ", but the lock requires " ++ entry.version))
    let loaded ← point.load
    demand loaded (.plugin ("entry point " ++ pyRepr entry.id ++
      " does not implement DeckhandPlugin"))

def validateManifest (expectedId : String) (manifest : PluginManifest) (entry : PluginLockEntry) :
    Except LoadExn Unit := do
  refuse (manifest.id ≠ expectedId) (.plugin ("plugin manifest ID " ++ pyRepr manifest.id ++
    " does not match " ++ pyRepr expectedId))
  refuse (manifest.version ≠ entry.version)
    (.plugin ("plugin " ++ pyRepr expectedId ++ " version " ++
    manifest.version ++ " does not match lock " ++ entry.version))
  refuse (manifest.apiVersion ≠ pluginApiVersion) (.plugin ("plugin " ++ pyRepr expectedId ++
    " requires unsupported API " ++ toString manifest.apiVersion))

def addAdapters (guard : ResilienceGuard) :
    List (String × PluginAdapter) → List (String × ResilientAdapter) →
      Except LoadExn (List (String × ResilientAdapter))
  | [], registered => .ok registered
  | (name, adapter) :: rest, registered => do
    refuse (name ∈ registered.map Prod.fst)
      (.plugin ("adapter " ++ pyRepr name ++ " is contributed more than once"))
    refuse (adapter.complete = false) (.plugin ("adapter " ++ pyRepr name ++
      " does not implement the complete lifecycle contract"))
    addAdapters guard rest (registered ++ [(name, ⟨adapter, guard⟩)])

def addStatusProviders (guard : ResilienceGuard) :
    List (String × PluginStatus) → List (String × ResilientStatusProvider) →
      Except LoadExn (List (String × ResilientStatusProvider))
  | [], registered => .ok registered
  | (name, provider) :: rest, registered => do
    refuse (name ∈ registered.map Prod.fst)
      (.plugin ("status provider " ++ pyRepr name ++ " is contributed more than once"))
    refuse (provider.complete = false)
      (.plugin ("status provider " ++ pyRepr name ++ " does not implement observe"))
    addStatusProviders guard rest (registered ++ [(name, ⟨provider, guard⟩)])

def checkActions (pluginId : String) (adapters : List String) :
    List ActionDefinition → Except LoadExn Unit
  | [] => .ok ()
  | action :: rest => do
    refuse (action.plugin ≠ pluginId)
      (.plugin ("action " ++ pyRepr action.id ++ " declares the wrong plugin"))
    refuse (action.adapter ∉ adapters)
      (.plugin ("action " ++ pyRepr action.id ++ " references an unowned adapter"))
    checkActions pluginId adapters rest

/-- `sorted(a - b)`, as it is printed. -/
def undeclared (contributed declared : List String) : String :=
  "[" ++ ", ".intercalate (((contributed.filter fun a => a ∉ declared).dedup.insertionSort
    fun a b => a ≤ b).map pyRepr) ++ "]"

/-- `_merge`, and what `load` adds after it. -/
def mergePlugin (pluginId : String) (described : Described) (guard : ResilienceGuard)
    (loaded : LoadedPlugins) : Except LoadExn LoadedPlugins := do
  let manifest := described.1
  let contribution := described.2
  let names := contribution.adapters.map Prod.fst
  let actionIds := contribution.actions.map ActionDefinition.id
  refuse (¬ (names ⊆ manifest.adapters ∧ manifest.adapters ⊆ names))
    (.plugin ("plugin " ++ pyRepr pluginId ++ " adapter contribution differs from manifest"))
  refuse (¬ actionIds ⊆ manifest.actions) (.plugin ("plugin " ++ pyRepr pluginId ++
    " contributed undeclared actions: " ++ undeclared actionIds manifest.actions))
  checkActions pluginId names contribution.actions
  let adapters ← addAdapters guard contribution.adapters loaded.adapters
  let status ← addStatusProviders guard contribution.statusProviders loaded.status
  refuse (∃ id ∈ actionIds, id ∈ loaded.actions.map ActionDefinition.id)
    (.plugin ("plugin " ++ pyRepr pluginId ++ " contributes a duplicate action ID"))
  return {
    manifests := loaded.manifests ++ [manifest]
    adapters := adapters
    status := status
    actions := loaded.actions ++ contribution.actions
    resilience := loaded.resilience ++ [(pluginId, guard)] }

/-- A plugin that is not wasm: its manifest, and what it contributes once its manifest and its
configuration are valid. -/
def loadOwn (allowExternal : Bool) (pluginId : String) (activation : PluginActivation)
    (entry : PluginLockEntry) : Except LoadExn Described := do
  refuse (activation.runtime.mode ≠ .inProcess) (.plugin ("plugin " ++ pyRepr pluginId ++
    " lock source does not permit isolated runtime"))
  let plugin ← instantiate manager allowExternal entry
  let manifest ← plugin.manifest
  validateManifest pluginId manifest entry
  let errors := world.iterErrors manifest.configSchema activation.config
  refuse (errors ≠ [])
    (.plugin ("invalid configuration for " ++ pluginId ++ ": " ++ "; ".intercalate errors))
  let built ← plugin.build activation.config
  return (manifest, ownContribution built)

def describePlugin (allowExternal allowWasm : Bool) (pluginId : String)
    (activation : PluginActivation) (entry : PluginLockEntry) : Except LoadExn Described :=
  match entry.source with
  | .wasm => do
    let described ← loadWasm world allowWasm pluginId activation entry
    validateManifest pluginId described.1 entry
    return described
  | _ => loadOwn manager world allowExternal pluginId activation entry

def loadPlugin (allowExternal allowWasm : Bool) (locked : List PluginLockEntry)
    (pluginId : String) (activation : PluginActivation) (loaded : LoadedPlugins) :
    Except LoadExn LoadedPlugins := do
  let entry ← demand (locked.find? fun entry => entry.id = pluginId)
    (.plugin ("enabled plugin " ++ pyRepr pluginId ++ " is not version-locked"))
  let described ← describePlugin manager world allowExternal allowWasm pluginId activation entry
  mergePlugin pluginId described ⟨pluginId, activation.runtime.policy⟩ loaded

def loadPlugins (allowExternal allowWasm : Bool) (locked : List PluginLockEntry) :
    List (String × PluginActivation) → LoadedPlugins → Except LoadExn LoadedPlugins
  | [], loaded => .ok loaded
  | (pluginId, activation) :: rest, loaded =>
    if activation.enabled then do
      let loaded ← loadPlugin manager world allowExternal allowWasm locked pluginId activation
        loaded
      loadPlugins allowExternal allowWasm locked rest loaded
    else loadPlugins allowExternal allowWasm locked rest loaded

def PluginConfiguration.sorted (configuration : PluginConfiguration) :
    List (String × PluginActivation) :=
  configuration.plugins.insertionSort fun a b => a.1 ≤ b.1

/-- `PluginManager.load` -/
def PluginManager.load (configuration : PluginConfiguration) (lock : PluginLock)
    (allowExternal allowWasm : Bool) : Except LoadExn LoadedPlugins := do
  let locked ← lock.byId
  loadPlugins manager world allowExternal allowWasm locked configuration.sorted .empty

end

section Builtin

def defaultConfigSchema : Json :=
  .obj [("$schema", .str "https://json-schema.org/draft/2020-12/schema"), ("type", .str "object"),
    ("additionalProperties", .bool false), ("properties", .obj [])]

/-- `CorePlugin` -/
def corePlugin : DeckhandPlugin where
  manifest := .ok {
    id := "dh-core"
    version := "0.5.0"
    apiVersion := pluginApiVersion
    adapters := ["dh-core.fake", "dh-core.disabled"]
    actions := []
    permissions := ⟨false⟩
    configSchema := defaultConfigSchema
    namespaced := by decide
    unique := by decide }
  build _ := .ok ⟨[("dh-core.fake", ⟨true⟩), ("dh-core.disabled", ⟨true⟩)], [], [], by decide,
    by decide⟩

/-- `BUILTIN_PLUGIN_FACTORIES`, and nothing installed. -/
def builtinManager : PluginManager := ⟨[("dh-core", .ok corePlugin)], []⟩

def defaultPluginRuntime : PluginRuntime where
  policy := ⟨8, 20, 20, 5, 30⟩
  mode := .inProcess
  wasm := none
  isolation := by decide

end Builtin

end Deckhand
