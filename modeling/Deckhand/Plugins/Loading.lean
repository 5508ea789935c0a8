import Deckhand.Plugins.Load

namespace Deckhand
open Lib

/-- The plugins that were loaded so far, under the keys that were enabled so far. -/
structure WellLoaded (locked : List PluginLockEntry) (allowExternal allowWasm : Bool)
    (enabled : List String) (loaded : LoadedPlugins) : Prop where
  manifests : loaded.manifests.map PluginManifest.id = enabled
  guards : loaded.resilience.map Prod.fst = enabled
  entries : ∀ m ∈ loaded.manifests, ∃ entry ∈ locked, entry.id = m.id ∧ m.version = entry.version ∧
    m.apiVersion = pluginApiVersion ∧ (entry.source = .python → allowExternal = true) ∧
    (entry.source = .wasm → allowWasm = true)
  names : (loaded.adapters.map Prod.fst).Nodup
  adapters : ∀ name r, (name, r) ∈ loaded.adapters → ∃ m ∈ loaded.manifests,
    name ∈ m.adapters ∧ r.guard.pluginId = m.id ∧ (m.id, r.guard) ∈ loaded.resilience
  declared : ∀ m ∈ loaded.manifests, ∀ name ∈ m.adapters,
    ∃ r, (name, r) ∈ loaded.adapters ∧ r.guard.pluginId = m.id
  actions : ∀ a ∈ loaded.actions, ∃ m ∈ loaded.manifests,
    a.plugin = m.id ∧ a.id ∈ m.actions ∧ a.adapter ∈ m.adapters
  actionIds : ∀ a ∈ loaded.actions, ∀ b ∈ loaded.actions, a.id = b.id → a.plugin = b.plugin

section Merge
variable {guard : ResilienceGuard}

theorem addAdapters_ok {contributed : List (String × PluginAdapter)}
    {registered out : List (String × ResilientAdapter)}
    (added : addAdapters guard contributed registered = .ok out) :
    out = registered ++ contributed.map (fun a => (a.1, ⟨a.2, guard⟩)) ∧
      ((registered.map Prod.fst).Nodup → (out.map Prod.fst).Nodup) := by
  induction contributed generalizing registered with
  | nil =>
    cases added
    simp
  | cons a rest ih =>
    obtain ⟨name, adapter⟩ := a
    simp only [addAdapters, refuse_bind] at added
    obtain ⟨fresh, -, added⟩ := added
    obtain ⟨rfl, distinct⟩ := ih added
    refine ⟨by simp, fun before => distinct ?_⟩
    rw [List.map_append, List.nodup_append]
    refine ⟨before, by simp, ?_⟩
    intro x member y last same
    simp only [List.map_cons, List.map_nil, List.mem_singleton] at last
    rw [same, last] at member
    exact fresh member

theorem checkActions_ok {pluginId : String} {adapters : List String}
    {actions : List ActionDefinition} (checked : checkActions pluginId adapters actions = .ok ()) :
    ∀ a ∈ actions, a.plugin = pluginId ∧ a.adapter ∈ adapters := by
  induction actions with
  | nil => simp
  | cons action rest ih =>
    simp only [checkActions, refuse_bind, ne_eq, not_not] at checked
    obtain ⟨plugin, adapter, checked⟩ := checked
    exact List.forall_mem_cons.mpr ⟨⟨plugin, adapter⟩, ih checked⟩

/-- What a merge leaves behind. -/
structure Merged (pluginId : String) (described : Described) (guard : ResilienceGuard)
    (loaded after : LoadedPlugins) : Prop where
  manifests : after.manifests = loaded.manifests ++ [described.1]
  adapters : after.adapters = loaded.adapters ++
    described.2.adapters.map fun a => (a.1, ⟨a.2, guard⟩)
  actions : after.actions = loaded.actions ++ described.2.actions
  resilience : after.resilience = loaded.resilience ++ [(pluginId, guard)]
  distinct : (loaded.adapters.map Prod.fst).Nodup → (after.adapters.map Prod.fst).Nodup
  names : ∀ name, name ∈ described.2.adapters.map Prod.fst ↔ name ∈ described.1.adapters
  owned : ∀ a ∈ described.2.actions, a.plugin = pluginId ∧ a.id ∈ described.1.actions ∧
    a.adapter ∈ described.1.adapters
  fresh : ∀ a ∈ described.2.actions, ∀ b ∈ loaded.actions, a.id ≠ b.id

theorem mergePlugin_ok {pluginId : String} {described : Described} {loaded after : LoadedPlugins}
    (merged : mergePlugin pluginId described guard loaded = .ok after) :
    Merged pluginId described guard loaded after := by
  simp only [mergePlugin, refuse_bind, not_not] at merged
  obtain ⟨⟨within, whole⟩, declared, merged⟩ := merged
  obtain ⟨checked, merged⟩ := check_bind.mp merged
  obtain ⟨adapters, added, merged⟩ := bind_ok.mp merged
  obtain ⟨status, -, merged⟩ := bind_ok.mp merged
  obtain ⟨fresh, same⟩ := refuse_bind.mp merged
  cases pure_ok.mp same
  obtain ⟨appended, distinct⟩ := addAdapters_ok added
  have owned := checkActions_ok checked
  refine ⟨rfl, appended, rfl, rfl, distinct, fun name => ⟨fun h => within h, fun h => whole h⟩, ?_,
      ?_⟩
  · intro a member
    obtain ⟨plugin, adapter⟩ := owned a member
    exact ⟨plugin, declared (List.mem_map_of_mem member), within adapter⟩
  · intro a member b known sameId
    apply fresh
    exact ⟨a.id, List.mem_map_of_mem member, sameId ▸ List.mem_map_of_mem known⟩

end Merge

section Step
variable {manager : PluginManager} {world : PluginWorld} {allowExternal allowWasm : Bool}
  {locked : List PluginLockEntry} {enabled : List String} {loaded after : LoadedPlugins}

theorem validateManifest_ok {expectedId : String} {manifest : PluginManifest}
    {entry : PluginLockEntry} (valid : validateManifest expectedId manifest entry = .ok ()) :
    manifest.id = expectedId ∧ manifest.version = entry.version ∧
      manifest.apiVersion = pluginApiVersion := by
  simp only [validateManifest, refuse_bind, refuse_ok, ne_eq, not_not] at valid
  exact valid

theorem instantiate_external {entry : PluginLockEntry} {plugin : DeckhandPlugin}
    (made : instantiate manager allowExternal entry = .ok plugin)
    (python : entry.source = .python) :
    allowExternal = true := by
  simp only [instantiate, python, refuse_bind] at made
  simpa using made.1

theorem describePlugin_ok {pluginId : String} {activation : PluginActivation}
    {entry : PluginLockEntry} {described : Described}
    (ok : describePlugin manager world allowExternal allowWasm pluginId activation entry =
      .ok described) :
    (described.1.id = pluginId ∧ described.1.version = entry.version ∧
      described.1.apiVersion = pluginApiVersion) ∧
      (entry.source = .python → allowExternal = true) ∧
        (entry.source = .wasm → allowWasm = true) := by
  have own : loadOwn manager world allowExternal pluginId activation entry = .ok described →
      (described.1.id = pluginId ∧ described.1.version = entry.version ∧
        described.1.apiVersion = pluginApiVersion) ∧
        (entry.source = .python → allowExternal = true) := by
    intro made
    obtain ⟨-, made⟩ := refuse_bind.mp made
    obtain ⟨plugin, instantiated, made⟩ := bind_ok.mp made
    obtain ⟨manifest, -, made⟩ := bind_ok.mp made
    obtain ⟨valid, made⟩ := check_bind.mp made
    obtain ⟨-, made⟩ := refuse_bind.mp made
    obtain ⟨built, -, made⟩ := bind_ok.mp made
    cases pure_ok.mp made
    exact ⟨validateManifest_ok valid, instantiate_external instantiated⟩
  cases source : entry.source with
  | wasm =>
    simp only [describePlugin, source, bind_ok] at ok
    obtain ⟨given, made, _, valid, same⟩ := ok
    cases pure_ok.mp same
    have allowed := (refuse_bind.mp made).1
    refine ⟨validateManifest_ok valid, fun python => absurd python (by decide), fun _ => ?_⟩
    simpa using allowed
  | builtin =>
    simp only [describePlugin, source] at ok
    exact ⟨(own ok).1, fun python => absurd python (by decide), fun wasm => absurd wasm (by decide)⟩
  | python =>
    simp only [describePlugin, source] at ok
    exact ⟨(own ok).1, fun _ => (own ok).2 source, fun wasm => absurd wasm (by decide)⟩

theorem loadPlugin_wellLoaded {pluginId : String} {activation : PluginActivation}
    (well : WellLoaded locked allowExternal allowWasm enabled loaded)
    (ok : loadPlugin manager world allowExternal allowWasm locked pluginId activation loaded =
      .ok after) :
    WellLoaded locked allowExternal allowWasm (enabled ++ [pluginId]) after := by
  obtain ⟨entry, found, ok⟩ := bind_ok.mp ok
  obtain ⟨described, made, ok⟩ := bind_ok.mp ok
  have found := demand_ok.mp found
  obtain ⟨⟨id, version, api⟩, external, wasm⟩ := describePlugin_ok made
  have merged := mergePlugin_ok ok
  have entryId : entry.id = pluginId := by simpa using List.find?_some found
  have old : ∀ m ∈ loaded.manifests, m ∈ after.manifests := by
    intro m member
    rw [merged.manifests]
    exact List.mem_append_left _ member
  have new : described.1 ∈ after.manifests := by simp [merged.manifests]
  constructor
  · rw [merged.manifests, List.map_append, well.manifests, List.map_singleton, id]
  · rw [merged.resilience, List.map_append, well.guards, List.map_singleton]
  · rw [merged.manifests]
    intro m member
    rcases List.mem_append.mp member with member | member
    · exact well.entries m member
    · cases List.mem_singleton.mp member
      exact ⟨entry, List.mem_of_find?_eq_some found, entryId.trans id.symm, version, api, external,
        wasm⟩
  · exact merged.distinct well.names
  · rw [merged.adapters, merged.resilience]
    intro name r member
    rcases List.mem_append.mp member with member | member
    · obtain ⟨m, among, declared, own, guard⟩ := well.adapters name r member
      exact ⟨m, old m among, declared, own, List.mem_append_left _ guard⟩
    · obtain ⟨a, among, same⟩ := List.mem_map.mp member
      cases same
      refine ⟨described.1, new, (merged.names _).mp (List.mem_map_of_mem among), id.symm, ?_⟩
      simp [id]
  · rw [merged.manifests, merged.adapters]
    intro m member name declared
    rcases List.mem_append.mp member with member | member
    · obtain ⟨r, among, own⟩ := well.declared m member name declared
      exact ⟨r, List.mem_append_left _ among, own⟩
    · cases List.mem_singleton.mp member
      obtain ⟨a, among, rfl⟩ := List.mem_map.mp ((merged.names name).mpr declared)
      exact ⟨_, List.mem_append_right _ (List.mem_map_of_mem among), id.symm⟩
  · rw [merged.actions]
    intro a member
    rcases List.mem_append.mp member with member | member
    · obtain ⟨m, among, holds⟩ := well.actions a member
      exact ⟨m, old m among, holds⟩
    · obtain ⟨plugin, declared, adapter⟩ := merged.owned a member
      exact ⟨described.1, new, plugin.trans id.symm, declared, adapter⟩
  · rw [merged.actions]
    intro a ha b hb same
    rcases List.mem_append.mp ha with ha | ha <;> rcases List.mem_append.mp hb with hb | hb
    · exact well.actionIds a ha b hb same
    · exact absurd same.symm (merged.fresh b hb a ha)
    · exact absurd same (merged.fresh a ha b hb)
    · rw [(merged.owned a ha).1, (merged.owned b hb).1]

def enabledKeys (plugins : List (String × PluginActivation)) : List String :=
  (plugins.filter fun p => p.2.enabled).map Prod.fst

theorem loadPlugins_wellLoaded {plugins : List (String × PluginActivation)}
    (well : WellLoaded locked allowExternal allowWasm enabled loaded)
    (ok : loadPlugins manager world allowExternal allowWasm locked plugins loaded = .ok after) :
    WellLoaded locked allowExternal allowWasm (enabled ++ enabledKeys plugins) after := by
  induction plugins generalizing enabled loaded with
  | nil =>
    cases ok
    simpa [enabledKeys] using well
  | cons p rest ih =>
    obtain ⟨pluginId, activation⟩ := p
    by_cases on : activation.enabled = true
    · have keys : enabled ++ enabledKeys ((pluginId, activation) :: rest) =
          enabled ++ [pluginId] ++ enabledKeys rest := by
        simp [enabledKeys, on]
      rw [loadPlugins, if_pos on] at ok
      obtain ⟨next, loadedOne, ok⟩ := bind_ok.mp ok
      rw [keys]
      exact ih (loadPlugin_wellLoaded well loadedOne) ok
    · have keys : enabledKeys ((pluginId, activation) :: rest) = enabledKeys rest := by
        simp [enabledKeys, on]
      rw [loadPlugins, if_neg on] at ok
      rw [keys]
      exact ih well ok

theorem empty_wellLoaded : WellLoaded locked allowExternal allowWasm [] .empty := by
  constructor <;> simp [LoadedPlugins.empty]

end Step

/-- What is promised of a load that returns. -/
structure LoadingInvariant (configuration : PluginConfiguration) (lock : PluginLock)
    (allowExternal allowWasm : Bool) (loaded : LoadedPlugins) : Prop where
  once : (loaded.manifests.map PluginManifest.id).Nodup
  enabled : ∀ id, id ∈ loaded.manifests.map PluginManifest.id ↔
    ∃ activation, (id, activation) ∈ configuration.plugins ∧ activation.enabled = true
  locked : ∀ m ∈ loaded.manifests, ∃ entry ∈ lock.plugins,
    (entry.id = m.id ∧ ∀ other ∈ lock.plugins, other.id = m.id → other = entry) ∧
      m.version = entry.version ∧ m.apiVersion = pluginApiVersion ∧
      (entry.source = .python → allowExternal = true) ∧ (entry.source = .wasm → allowWasm = true)
  adapters : ∀ name r, (name, r) ∈ loaded.adapters → ∃ m ∈ loaded.manifests,
    (name ∈ m.adapters ∧ ∀ other ∈ loaded.manifests, name ∈ other.adapters → other = m) ∧
      Namespaced m.id name ∧ r.guard.pluginId = m.id ∧
      ∀ guard, (m.id, guard) ∈ loaded.resilience ↔ guard = r.guard
  actions : ∀ a ∈ loaded.actions, ∃ m ∈ loaded.manifests, a.plugin = m.id ∧ a.id ∈ m.actions ∧
    a.adapter ∈ m.adapters ∧ ∃ r, (a.adapter, r) ∈ loaded.adapters ∧ r.guard.pluginId = m.id
  actionIds : ∀ a ∈ loaded.actions, ∀ b ∈ loaded.actions, a.id = b.id → a.plugin = b.plugin

theorem enabledKeys_sorted (configuration : PluginConfiguration) :
    (enabledKeys configuration.sorted).Nodup ∧ ∀ id, id ∈ enabledKeys configuration.sorted ↔
      ∃ activation, (id, activation) ∈ configuration.plugins ∧ activation.enabled = true := by
  have perm : configuration.sorted.Perm configuration.plugins := List.perm_insertionSort _ _
  constructor
  · have distinct := (perm.map Prod.fst).nodup_iff.mpr configuration.distinct
    exact distinct.sublist (List.filter_sublist.map _)
  · intro id
    simp [enabledKeys, perm.mem_iff]

theorem PluginManager.load_ok {manager : PluginManager} {world : PluginWorld}
    {configuration : PluginConfiguration} {lock : PluginLock} {allowExternal allowWasm : Bool}
    {loaded : LoadedPlugins}
    (ok : manager.load world configuration lock allowExternal allowWasm = .ok loaded) :
    (lock.plugins.map PluginLockEntry.id).Nodup ∧
      WellLoaded lock.plugins allowExternal allowWasm (enabledKeys configuration.sorted)
        loaded := by
  obtain ⟨locked, unique, ok⟩ := bind_ok.mp ok
  obtain ⟨distinct, same⟩ := refuse_bind.mp unique
  cases pure_ok.mp same
  exact ⟨not_not.mp distinct, loadPlugins_wellLoaded empty_wellLoaded ok⟩

def bareWorld : PluginWorld where
  py := asciiOnly
  files := ⟨fun _ => none, fun _ => none, fun _ => none⟩
  crypto := ⟨fun _ => "", fun _ => none, fun _ => none, fun _ _ _ => false⟩
  answer _ _ := none
  describe _ := none
  iterErrors _ _ := []

def sensorManifest : PluginManifest where
  id := "dh-sensor"
  version := "1.2.0"
  apiVersion := pluginApiVersion
  adapters := ["dh-sensor.gauge"]
  actions := ["dh-sensor.read"]
  permissions := ⟨false⟩
  configSchema := defaultConfigSchema
  namespaced := by decide
  unique := by decide

def readGauge : ActionDefinition where
  id := "dh-sensor.read"
  version := 1
  title := "Read gauge"
  description := "Read a gauge."
  riskClass := .read
  plugin := "dh-sensor"
  adapter := "dh-sensor.gauge"
  targetTypes := ["gauge"]
  parameterSchema := .obj []
  policyAction := "dh-sensor.read"
  confirmation := .none
  timeoutSeconds := 10
  idempotency := "key"
  mutation := false
  mutationMatchesRisk := by simp
  timeoutPositive := by decide
  timeoutBounded := by decide

def sensorWorld : PluginWorld :=
  { bareWorld with
    describe := fun _ => some ⟨sensorManifest, ["dh-sensor.gauge"], [], [readGauge]⟩ }

def sensorConfiguration : PluginConfiguration where
  plugins := [("dh-sensor", ⟨true, [], {
      policy := defaultPluginRuntime.policy
      mode := .wasm
      wasm := some ⟨gang, none⟩
      isolation := by decide }⟩),
    ("dh-core", ⟨true, [], defaultPluginRuntime⟩), ("dh-idle", ⟨false, [], defaultPluginRuntime⟩)]
  distinct := by decide

def sensorLock : PluginLock :=
  ⟨[⟨"dh-core", "0.5.0", .builtin, none⟩,
    ⟨"dh-sensor", "1.2.0", .wasm,
      some ⟨"sha256:" ++ String.ofList
        (List.replicate 64 '0'), by simp [digestPattern, isHexDigit]⟩⟩]⟩

end Deckhand
