import Deckhand.Catalog
import Deckhand.Plugins.Hosts
import Deckhand.Sample

/-! The catalogue that the broker starts with: the actions of the plugins, and those of its
directory. -/
namespace Deckhand
open Lib

inductive ExtensionExn where
  | plugin (message : String)
  | catalog (error : CatalogError)
  | adapter (error : AdapterError)
  | other

/-- The files of the directory in the order of their names, each with the action it holds. -/
abbrev CatalogFiles := List (Except ExtensionExn ActionDefinition)

def readFiles : CatalogFiles → Except ExtensionExn (List ActionDefinition)
  | [] => .ok []
  | file :: rest => do
    let action ← file
    let more ← readFiles rest
    return action :: more

def Catalog.ofActions (iterErrors : Json → Dict → List String) (actions : List ActionDefinition) :
    Except ExtensionExn Catalog :=
  if distinct : (actions.map fun a => (a.id, a.version)).Nodup then
    .ok ⟨actions, iterErrors, distinct⟩
  else .error (.catalog ⟨"duplicate action ID/version"⟩)

/-- `Catalog.from_path` -/
def Catalog.fromPath (iterErrors : Json → Dict → List String) (files : CatalogFiles)
    (additional : List ActionDefinition) : Except ExtensionExn Catalog := do
  let read ← readFiles files
  Catalog.ofActions iterErrors (additional ++ read)

def Catalog.listActions (catalog : Catalog) : List ActionDefinition :=
  catalog.actions.insertionSort fun a b => a.id < b.id ∨ (a.id = b.id ∧ a.version ≤ b.version)

def checkCatalog (loaded : LoadedPlugins) : List ActionDefinition → Except ExtensionExn Unit
  | [] => .ok ()
  | action :: rest => do
    refuse (action.plugin ∉ loaded.manifests.map PluginManifest.id)
      (.plugin ("action " ++ pyRepr action.id ++ " requires disabled or missing plugin " ++
        pyRepr action.plugin))
    refuse (action.adapter ∉ loaded.adapters.map Prod.fst)
      (.adapter { message := "adapter " ++ pyRepr action.adapter ++ " is not registered" })
    checkCatalog loaded rest

def loadCatalog (iterErrors : Json → Dict → List String) (files : CatalogFiles)
    (loaded : LoadedPlugins) : Except ExtensionExn Catalog := do
  let catalog ← Catalog.fromPath iterErrors files loaded.actions
  checkCatalog loaded catalog.listActions
  return catalog

section
variable {iterErrors : Json → Dict → List String} {files : CatalogFiles}

theorem readFiles_mem {read : List ActionDefinition} (ok : readFiles files = .ok read) :
    ∀ a, a ∈ read ↔ .ok a ∈ files := by
  induction files generalizing read with
  | nil =>
    cases ok
    simp
  | cons file rest ih =>
    rw [readFiles] at ok
    obtain ⟨action, opened, ok⟩ := bind_ok.mp ok
    obtain ⟨more, later, ok⟩ := bind_ok.mp ok
    cases pure_ok.mp ok
    intro a
    rw [opened, List.mem_cons, List.mem_cons, ih later, Except.ok.injEq]

theorem loadCatalog_actions {loaded : LoadedPlugins} {catalog : Catalog}
    (ok : loadCatalog iterErrors files loaded = .ok catalog) :
    ∀ a, a ∈ catalog.actions ↔ a ∈ loaded.actions ∨ .ok a ∈ files := by
  obtain ⟨made, built, ok⟩ := bind_ok.mp ok
  obtain ⟨-, same⟩ := check_bind.mp ok
  cases pure_ok.mp same
  obtain ⟨read, opened, built⟩ := bind_ok.mp built
  unfold Catalog.ofActions at built
  split at built
  · cases built
    intro a
    rw [List.mem_append, readFiles_mem opened]
  · cases built

end

/-- No mutation of the catalogue is executed in the broker's process, exactly when none of the
directory's is bound to the adapter of an embedded component. -/
theorem embedded_mutations_iff (manager : PluginManager) (world : PluginWorld)
    (configuration : PluginConfiguration) (lock : PluginLock) (allowExternal allowWasm : Bool)
    (files : CatalogFiles) (loaded : LoadedPlugins) (catalog : Catalog)
    (loads : manager.load world configuration lock allowExternal allowWasm = .ok loaded)
    (reads : loadCatalog world.iterErrors files loaded = .ok catalog) :
    (∀ a ∈ catalog.actions, a.mutation = true → ∀ connection guard,
      (a.adapter, ⟨.ganglion connection, guard⟩) ∉ loaded.adapters) ↔
    ∀ a, .ok a ∈ files → a.mutation = true →
      ∀ connection, ¬ EmbeddedIn world configuration.plugins connection a.adapter := by
  have hosted := PluginManager.load_hosted loads
  have members := loadCatalog_actions reads
  constructor
  · intro never a file mutation connection embedded
    obtain ⟨guard, registered⟩ := (hosted.embedded _ _).mp embedded
    exact never a ((members a).mpr (.inr file)) mutation connection guard registered
  · intro directory a member mutation connection guard registered
    rcases (members a).mp member with contributed | file
    · rw [hosted.readOnly a contributed connection guard registered] at mutation
      cases mutation
    · exact directory a file mutation connection ((hosted.embedded _ _).mpr ⟨guard, registered⟩)

/-- What a start of the broker loads: its plugins and its catalogue. -/
def startup (manager : PluginManager) (world : PluginWorld) (configuration : PluginConfiguration)
    (lock : PluginLock) (allowExternal allowWasm : Bool) (files : CatalogFiles) :
    Option (LoadedPlugins × Catalog) := do
  let loaded ← (manager.load world configuration lock allowExternal allowWasm).toOption
  let catalog ← (loadCatalog world.iterErrors files loaded).toOption
  return (loaded, catalog)

theorem toOption_ok {ε α : Type} {r : Except ε α} {a : α} : r.toOption = some a ↔ r = .ok a := by
  cases r <;> simp [Except.toOption]

theorem startup_ok (manager : PluginManager) (world : PluginWorld)
    (configuration : PluginConfiguration) (lock : PluginLock) (allowExternal allowWasm : Bool)
    (files : CatalogFiles)
    (started : (startup manager world configuration lock allowExternal allowWasm files).isSome =
      true) :
    ∃ loaded catalog, manager.load world configuration lock allowExternal allowWasm = .ok loaded ∧
      loadCatalog world.iterErrors files loaded = .ok catalog := by
  obtain ⟨⟨loaded, catalog⟩, same⟩ := Option.isSome_iff_exists.mp started
  simp only [startup, Option.bind_eq_bind, Option.bind_eq_some_iff, toOption_ok] at same
  obtain ⟨l, loads, c, reads, same⟩ := same
  cases same
  exact ⟨_, _, loads, reads⟩

def readerMutation : ActionDefinition :=
  { Sample.ensureActive .confirm with plugin := "dh-reader", adapter := "dh-reader.sensor" }

theorem reader_embedded :
    EmbeddedIn readerWorld readerConfiguration.plugins readerConnection readerMutation.adapter :=
  ⟨_, List.mem_singleton.mpr rfl, rfl, rfl, rfl, readerDescription, rfl, by simp [readerDescription,
    readerMutation]⟩

theorem sensor_embedded :
    EmbeddedIn sensorWorld sensorConfiguration.plugins readerConnection "dh-sensor.gauge" :=
  ⟨_, List.mem_cons_self, rfl, rfl, rfl, _, rfl, List.mem_singleton.mpr rfl⟩

/-- With a component in the process, and a mutating action of another adapter. -/
theorem embedded_mutations_iff_sensor : ∃ loaded catalog,
    loadCatalog sensorWorld.iterErrors [.ok (Sample.ensureActive .confirm)] loaded = .ok catalog ∧
    (∃ guard, ("dh-sensor.gauge", ⟨.ganglion readerConnection, guard⟩) ∈ loaded.adapters) ∧
    ((∀ a ∈ catalog.actions, a.mutation = true → ∀ connection guard,
      (a.adapter, ⟨.ganglion connection, guard⟩) ∉ loaded.adapters) ↔
    ∀ a, .ok a ∈ ([.ok (Sample.ensureActive .confirm)] : CatalogFiles) → a.mutation = true →
      ∀ connection, ¬ EmbeddedIn sensorWorld sensorConfiguration.plugins connection a.adapter) := by
  obtain ⟨loaded, catalog, loads, reads⟩ := startup_ok builtinManager sensorWorld
    sensorConfiguration sensorLock false true [.ok (Sample.ensureActive .confirm)]
    (by decide +kernel)
  exact ⟨loaded, catalog, reads,
    ((PluginManager.load_hosted loads).embedded _ _).mp sensor_embedded,
    embedded_mutations_iff builtinManager sensorWorld sensorConfiguration sensorLock
      false true _ loaded catalog loads reads⟩

/-- The directory binds a mutating action to the adapter of a component that only reads. -/
theorem embedded_mutation : ∃ loaded catalog,
    builtinManager.load readerWorld readerConfiguration (readerLock zeroDigest) false true =
      .ok loaded ∧
    loadCatalog readerWorld.iterErrors [.ok readerMutation] loaded = .ok catalog ∧
    ∃ a ∈ catalog.actions, a.mutation = true ∧ ∃ connection guard,
      (a.adapter, ⟨.ganglion connection, guard⟩) ∈ loaded.adapters := by
  obtain ⟨loaded, catalog, loads, reads⟩ :=
    startup_ok builtinManager readerWorld readerConfiguration
    (readerLock zeroDigest) false true [.ok readerMutation] (by decide +kernel)
  have member := (loadCatalog_actions reads readerMutation).mpr (.inr (by simp))
  exact ⟨loaded, catalog, loads, reads, readerMutation, member, rfl, readerConnection,
    ((PluginManager.load_hosted loads).embedded _ _).mp reader_embedded⟩

end Deckhand
