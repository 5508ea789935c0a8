import Deckhand.Plugins.Loading

/-! Where the components of wasm plugins run: which adapters are embedded in the broker, and
which digests the lock pins. -/
namespace Deckhand
open Lib

section Described
variable {manager : PluginManager} {world : PluginWorld} {allowExternal allowWasm : Bool}
  {pluginId : String} {activation : PluginActivation} {entry : PluginLockEntry}
  {described : Described}

/-- What a plugin is described by: itself, the host behind its socket, or its component. -/
inductive DescribedBy (world : PluginWorld) (pluginId : String) (activation : PluginActivation)
    (entry : PluginLockEntry) : Described → Prop where
  | own (manifest : PluginManifest) (built : PluginContribution PluginObject PluginObject) :
      activation.runtime.wasm = none →
      DescribedBy world pluginId activation entry (manifest, ownContribution built)
  | host (connection : WasmConnection) (socket : WasmHostConnection) (digest : Sha256Digest)
      (handshake : HostHandshake) : activation.runtime.wasm = some connection →
      connection.socket = some socket → entry.digest = some digest →
      handshakeWith world.files world.crypto socket world.py world.answer pluginId digest.1 =
        .ok handshake →
      DescribedBy world pluginId activation entry
        (handshake.manifest, hostContribution socket handshake)
  | component (connection : WasmConnection) (description : WasmDescription) :
      activation.runtime.wasm = some connection → connection.socket = none →
      world.describe connection = some description →
      descriptionIsMutationCapable description = false →
      DescribedBy world pluginId activation entry
        (description.manifest, wasmContribution connection description)

theorem loadWasm_describedBy
    (ok : loadWasm world allowWasm pluginId activation entry = .ok described) :
    DescribedBy world pluginId activation entry described := by
  obtain ⟨-, ok⟩ := refuse_bind.mp ok
  obtain ⟨-, ok⟩ := refuse_bind.mp ok
  obtain ⟨connection, settings, ok⟩ := bind_ok.mp ok
  obtain ⟨-, ok⟩ := refuse_bind.mp ok
  obtain ⟨digest, pinned, ok⟩ := bind_ok.mp ok
  have settings := demand_ok.mp settings
  have pinned := demand_ok.mp pinned
  cases transport : connection.socket with
  | some socket =>
    rw [transport] at ok
    obtain ⟨handshake, shaken, ok⟩ := bind_ok.mp ok
    cases pure_ok.mp ok
    cases met : handshakeWith world.files world.crypto socket world.py world.answer pluginId
        digest.1 with
    | error x =>
      rw [met] at shaken
      cases shaken
    | ok given =>
      rw [met] at shaken
      cases shaken
      exact .host connection socket digest handshake settings transport pinned met
  | none =>
    rw [transport] at ok
    obtain ⟨description, answered, ok⟩ := bind_ok.mp ok
    obtain ⟨readOnly, ok⟩ := refuse_bind.mp ok
    cases pure_ok.mp ok
    exact .component connection description settings transport (demand_ok.mp answered)
      (by simpa using readOnly)

theorem describePlugin_describedBy
    (ok : describePlugin manager world allowExternal allowWasm pluginId activation entry =
      .ok described) : DescribedBy world pluginId activation entry described := by
  have own : loadOwn manager world allowExternal pluginId activation entry = .ok described →
      DescribedBy world pluginId activation entry described := by
    intro made
    obtain ⟨mode, made⟩ := refuse_bind.mp made
    obtain ⟨plugin, -, made⟩ := bind_ok.mp made
    obtain ⟨manifest, -, made⟩ := bind_ok.mp made
    obtain ⟨-, made⟩ := check_bind.mp made
    obtain ⟨-, made⟩ := refuse_bind.mp made
    obtain ⟨built, -, made⟩ := bind_ok.mp made
    cases pure_ok.mp made
    apply DescribedBy.own
    have inProcess := not_not.mp mode
    have absent := activation.runtime.isolation
    rw [inProcess] at absent
    simpa using absent
  cases source : entry.source with
  | wasm =>
    simp only [describePlugin, source, bind_ok] at ok
    obtain ⟨given, made, _, -, same⟩ := ok
    cases pure_ok.mp same
    exact loadWasm_describedBy made
  | builtin =>
    simp only [describePlugin, source] at ok
    exact own ok
  | python =>
    simp only [describePlugin, source] at ok
    exact own ok

end Described

/-- A component that one of the plugins embeds in the broker has an adapter of this name. -/
def EmbeddedIn (world : PluginWorld) (plugins : List (String × PluginActivation))
    (connection : WasmConnection) (name : String) : Prop :=
  ∃ p ∈ plugins, p.2.enabled = true ∧ p.2.runtime.wasm = some connection ∧
    connection.socket = none ∧ ∃ description, world.describe connection = some description ∧
      name ∈ description.adapters

/-- The adapters that are embedded so far, and that none of them has a mutating action. -/
structure Hosted (world : PluginWorld) (plugins : List (String × PluginActivation))
    (loaded : LoadedPlugins) : Prop where
  embedded : ∀ name connection, EmbeddedIn world plugins connection name ↔
    ∃ guard, (name, ⟨.ganglion connection, guard⟩) ∈ loaded.adapters
  readOnly : ∀ a ∈ loaded.actions, ∀ connection guard,
    (a.adapter, ⟨.ganglion connection, guard⟩) ∈ loaded.adapters → a.mutation = false

section Run
variable {manager : PluginManager} {world : PluginWorld} {allowExternal allowWasm : Bool}
  {locked : List PluginLockEntry} {enabled : List String} {pluginId : String}
  {activation : PluginActivation} {before : List (String × PluginActivation)}
  {loaded after : LoadedPlugins}

theorem mem_forNames {α : Type} {names : List String} {name : String} {a b : α} :
    (name, b) ∈ forNames names a ↔ name ∈ names ∧ b = a := by
  simp [forNames, eq_comm]

theorem embeddedIn_append {p : String × PluginActivation} {connection : WasmConnection}
    {name : String} : EmbeddedIn world (before ++ [p]) connection name ↔
      EmbeddedIn world before connection name ∨ EmbeddedIn world [p] connection name := by
  simp [EmbeddedIn, or_and_right, exists_or]

theorem describedBy_embedded {entry : PluginLockEntry} {described : Described}
    (given : DescribedBy world pluginId activation entry described) (on : activation.enabled = true)
    (name : String) (connection : WasmConnection) :
    EmbeddedIn world [(pluginId, activation)] connection name ↔
      (name, PluginAdapter.ganglion connection) ∈ described.2.adapters := by
  cases given with
  | own manifest built absent => simp [EmbeddedIn, absent, ownContribution]
  | host c socket digest handshake settings transport pinned met =>
    simp only [EmbeddedIn, List.mem_singleton, exists_eq_left, settings, Option.some.injEq,
      hostContribution, mem_forNames, reduceCtorEq, and_false, iff_false]
    rintro ⟨-, rfl, none, -⟩
    rw [transport] at none
    cases none
  | component c description settings transport answered readOnly =>
    simp only [EmbeddedIn, List.mem_singleton, exists_eq_left, settings, Option.some.injEq,
      wasmContribution, mem_forNames, mem_distinctNames, PluginAdapter.ganglion.injEq]
    constructor
    · rintro ⟨-, rfl, -, d, same, member⟩
      rw [answered] at same
      cases same
      exact ⟨member, rfl⟩
    · rintro ⟨member, rfl⟩
      exact ⟨on, rfl, transport, description, answered, member⟩

theorem describedBy_readOnly {entry : PluginLockEntry} {described : Described}
    (given : DescribedBy world pluginId activation entry described) {name : String}
    {connection : WasmConnection}
    (embedded : (name, PluginAdapter.ganglion connection) ∈ described.2.adapters) :
    ∀ a ∈ described.2.actions, a.mutation = false := by
  cases given with
  | own manifest built absent => simp [ownContribution] at embedded
  | host c socket digest handshake settings transport pinned met =>
    simp [hostContribution, mem_forNames] at embedded
  | component c description settings transport answered readOnly =>
    intro a member
    simp only [descriptionIsMutationCapable, Bool.or_eq_false_iff, List.any_eq_false,
      Bool.not_eq_true] at readOnly
    exact readOnly.2 a member

theorem loadPlugin_hosted (well : WellLoaded locked allowExternal allowWasm enabled loaded)
    (hosted : Hosted world before loaded) (on : activation.enabled = true)
    (ok : loadPlugin manager world allowExternal allowWasm locked pluginId activation loaded =
      .ok after) : Hosted world (before ++ [(pluginId, activation)]) after := by
  have distinct := (loadPlugin_wellLoaded well ok).names
  obtain ⟨entry, -, ok⟩ := bind_ok.mp ok
  obtain ⟨described, made, ok⟩ := bind_ok.mp ok
  have given := describePlugin_describedBy made
  have merged := mergePlugin_ok ok
  have contributed : ∀ name (r : ResilientAdapter),
      (name, r) ∈ described.2.adapters.map (fun a => (a.1, (⟨a.2, ⟨pluginId,
        activation.runtime.policy⟩⟩ : ResilientAdapter))) ↔
      (name, r.adapter) ∈ described.2.adapters ∧
        r.guard = ⟨pluginId, activation.runtime.policy⟩ := by
    intro name r
    obtain ⟨adapter, guard⟩ := r
    simp only [List.mem_map, Prod.mk.injEq, ResilientAdapter.mk.injEq]
    constructor
    · rintro ⟨a, among, rfl, rfl, rfl⟩
      exact ⟨among, rfl⟩
    · rintro ⟨among, rfl⟩
      exact ⟨_, among, rfl, rfl, rfl⟩
  have once : ∀ {name} {r r' : ResilientAdapter}, (name, r) ∈ after.adapters →
      (name, r') ∈ after.adapters → r = r' := by
    intro name r r' one two
    have same : (name, r) = (name, r') := List.inj_on_of_nodup_map distinct one two rfl
    exact (Prod.mk.inj same).2
  rw [merged.adapters] at once
  constructor
  · intro name connection
    rw [embeddedIn_append, hosted.embedded, describedBy_embedded given on, merged.adapters]
    simp only [List.mem_append, exists_or, contributed]
    simp
  · rw [merged.actions, merged.adapters]
    intro a member connection guard resolves
    rcases List.mem_append.mp member with member | member
    · obtain ⟨m, among, -, -, adapter⟩ := well.actions a member
      obtain ⟨r, registered, -⟩ := well.declared m among _ adapter
      cases once (List.mem_append_left _ registered) resolves
      exact hosted.readOnly a member connection guard registered
    · have named := (merged.names _).mpr (merged.owned a member).2.2
      obtain ⟨⟨name, own⟩, among, same⟩ := List.mem_map.mp named
      have registered : (a.adapter, (⟨own, ⟨pluginId, activation.runtime.policy⟩⟩ :
          ResilientAdapter)) ∈ described.2.adapters.map (fun a => (a.1, (⟨a.2, ⟨pluginId,
            activation.runtime.policy⟩⟩ : ResilientAdapter))) := by
        rw [← same]
        exact List.mem_map_of_mem among
      cases once (List.mem_append_right _ registered) resolves
      exact describedBy_readOnly given ((contributed _ _).mp registered).1 a member

theorem loadPlugins_hosted {plugins : List (String × PluginActivation)}
    (well : WellLoaded locked allowExternal allowWasm enabled loaded)
    (hosted : Hosted world before loaded)
    (ok : loadPlugins manager world allowExternal allowWasm locked plugins loaded = .ok after) :
    Hosted world (before ++ plugins) after := by
  induction plugins generalizing before enabled loaded with
  | nil =>
    cases ok
    rwa [List.append_nil]
  | cons p rest ih =>
    obtain ⟨pluginId, activation⟩ := p
    rw [List.append_cons]
    by_cases on : activation.enabled = true
    · rw [loadPlugins, if_pos on] at ok
      obtain ⟨next, loadedOne, ok⟩ := bind_ok.mp ok
      exact ih (loadPlugin_wellLoaded well loadedOne) (loadPlugin_hosted well hosted on loadedOne)
        ok
    · rw [loadPlugins, if_neg on] at ok
      apply ih well _ ok
      refine ⟨fun name connection => ?_, hosted.readOnly⟩
      rw [embeddedIn_append, ← hosted.embedded]
      simp [EmbeddedIn, on]

theorem embeddedIn_perm {plugins plugins' : List (String × PluginActivation)}
    (perm : plugins.Perm plugins') {connection : WasmConnection} {name : String} :
    EmbeddedIn world plugins connection name ↔ EmbeddedIn world plugins' connection name := by
  simp only [EmbeddedIn, perm.mem_iff]

theorem PluginManager.load_hosted {configuration : PluginConfiguration} {lock : PluginLock}
    (ok : manager.load world configuration lock allowExternal allowWasm = .ok loaded) :
    Hosted world configuration.plugins loaded := by
  obtain ⟨locked, -, ok⟩ := bind_ok.mp ok
  have nothing : Hosted world [] .empty := by
    constructor <;> simp [EmbeddedIn, LoadedPlugins.empty]
  have hosted := loadPlugins_hosted empty_wellLoaded nothing ok
  rw [List.nil_append] at hosted
  refine ⟨fun name connection => ?_, hosted.readOnly⟩
  rw [← hosted.embedded]
  exact embeddedIn_perm (List.perm_insertionSort _ _).symm

end Run

def readerConnection : WasmConnection := ⟨gang, none⟩

def readerManifest : PluginManifest where
  id := "dh-reader"
  version := "1.0.0"
  apiVersion := pluginApiVersion
  adapters := ["dh-reader.sensor"]
  actions := []
  permissions := ⟨false⟩
  configSchema := defaultConfigSchema
  namespaced := by decide
  unique := by decide

def readerDescription : WasmDescription := ⟨readerManifest, ["dh-reader.sensor"], [], []⟩

def readerWorld : PluginWorld := { bareWorld with describe := fun _ => some readerDescription }

def readerRuntime : PluginRuntime where
  policy := defaultPluginRuntime.policy
  mode := .wasm
  wasm := some readerConnection
  isolation := by decide

def readerConfiguration : PluginConfiguration where
  plugins := [("dh-reader", ⟨true, [], readerRuntime⟩)]
  distinct := by decide

def readerLock (digest : Sha256Digest) : PluginLock :=
  ⟨[⟨"dh-reader", "1.0.0", .wasm, some digest⟩]⟩

def repeatedDigit (digit : Char) (hex : isHexDigit digit = true) : Sha256Digest :=
  ⟨"sha256:" ++ String.ofList (List.replicate 64 digit), by
    simp [digestPattern, hex]⟩

def zeroDigest : Sha256Digest := repeatedDigit '0' (by decide)

def oneDigest : Sha256Digest := repeatedDigit '1' (by decide)

section Pinned
variable {manager : PluginManager} {world : PluginWorld} {allowExternal allowWasm : Bool}
  {locked : List PluginLockEntry} {pluginId : String} {activation : PluginActivation}
  {entry : PluginLockEntry} {loaded after : LoadedPlugins}

def PluginLockEntry.withDigest (pluginId : String) (digest : Sha256Digest)
    (entry : PluginLockEntry) : PluginLockEntry :=
  if entry.id = pluginId then { entry with digest := some digest } else entry

def PluginLock.withDigest (lock : PluginLock) (pluginId : String) (digest : Sha256Digest) :
    PluginLock := ⟨lock.plugins.map (PluginLockEntry.withDigest pluginId digest)⟩

@[simp] theorem withDigest_id {digest : Sha256Digest} :
    (entry.withDigest pluginId digest).id = entry.id := by
  unfold PluginLockEntry.withDigest
  split <;> rfl

@[simp] theorem withDigest_ids {digest : Sha256Digest} :
    (locked.map (PluginLockEntry.withDigest pluginId digest)).map PluginLockEntry.id =
      locked.map PluginLockEntry.id := by
  rw [List.map_map]
  apply List.map_congr_left
  intro entry _
  exact withDigest_id

theorem find_withDigest {digest : Sha256Digest} (id : String) :
    (locked.map (PluginLockEntry.withDigest pluginId digest)).find? (fun entry => entry.id = id) =
      (locked.find? fun entry => entry.id = id).map
        (PluginLockEntry.withDigest pluginId digest) := by
  simp only [List.find?_map, Function.comp_def, withDigest_id]

theorem describePlugin_digest {connection : WasmConnection} {digest : Sha256Digest}
    (settings : activation.runtime.wasm = some connection) (embedded : connection.socket = none)
    (wasm : entry.source = .wasm) (pinned : entry.digest.isSome = true) :
    describePlugin manager world allowExternal allowWasm pluginId activation
        { entry with digest := some digest } =
      describePlugin manager world allowExternal allowWasm pluginId activation entry := by
  obtain ⟨old, pinned⟩ := Option.isSome_iff_exists.mp pinned
  simp only [describePlugin, wasm, loadWasm, settings, pinned, demand, ok_bind, embedded,
    validateManifest]

theorem describePlugin_wasm {described : Described} (wasm : entry.source = .wasm)
    (ok : describePlugin manager world allowExternal allowWasm pluginId activation entry =
      .ok described) :
    activation.runtime.wasm.isSome = true ∧ entry.digest.isSome = true := by
  simp only [describePlugin, wasm, bind_ok] at ok
  obtain ⟨_, made, -⟩ := ok
  obtain ⟨-, made⟩ := refuse_bind.mp made
  obtain ⟨-, made⟩ := refuse_bind.mp made
  obtain ⟨connection, settings, made⟩ := bind_ok.mp made
  obtain ⟨-, made⟩ := refuse_bind.mp made
  obtain ⟨digest, pinned, -⟩ := bind_ok.mp made
  constructor
  · rw [demand_ok.mp settings, Option.isSome_some]
  · rw [demand_ok.mp pinned, Option.isSome_some]

theorem loadPlugin_entry
    (ok : loadPlugin manager world allowExternal allowWasm locked pluginId activation loaded =
      .ok after) : ∃ entry described, locked.find? (fun entry => entry.id = pluginId) = some entry ∧
        describePlugin manager world allowExternal allowWasm pluginId activation entry =
          .ok described := by
  obtain ⟨entry, found, ok⟩ := bind_ok.mp ok
  obtain ⟨described, made, -⟩ := bind_ok.mp ok
  exact ⟨entry, described, demand_ok.mp found, made⟩

theorem loadPlugins_each {plugins : List (String × PluginActivation)}
    (ok : loadPlugins manager world allowExternal allowWasm locked plugins loaded = .ok after)
    (configured : (pluginId, activation) ∈ plugins) (on : activation.enabled = true) :
    ∃ entry described, locked.find? (fun entry => entry.id = pluginId) = some entry ∧
      describePlugin manager world allowExternal allowWasm pluginId activation entry =
        .ok described := by
  induction plugins generalizing loaded with
  | nil => cases configured
  | cons p rest ih =>
    obtain ⟨id, other⟩ := p
    rw [loadPlugins] at ok
    split at ok
    case isTrue =>
      obtain ⟨next, loadedOne, ok⟩ := bind_ok.mp ok
      rcases List.mem_cons.mp configured with same | later
      · cases same
        exact loadPlugin_entry loadedOne
      · exact ih ok later
    case isFalse off =>
      apply ih ok
      rcases List.mem_cons.mp configured with same | later
      · cases same
        exact absurd on off
      · exact later

theorem loadPlugins_digest {plugins : List (String × PluginActivation)} {digest : Sha256Digest}
    (found : locked.find? (fun entry => entry.id = pluginId) = some entry)
    (wasm : entry.source = .wasm) (pinned : entry.digest.isSome = true)
    (embedded : ∀ p ∈ plugins, p.1 = pluginId → ∃ connection,
      p.2.runtime.wasm = some connection ∧ connection.socket = none) :
    loadPlugins manager world allowExternal allowWasm
        (locked.map (PluginLockEntry.withDigest pluginId digest)) plugins loaded =
      loadPlugins manager world allowExternal allowWasm locked plugins loaded := by
  induction plugins generalizing loaded with
  | nil => rfl
  | cons p rest ih =>
    obtain ⟨id, activation⟩ := p
    have turn : loadPlugin manager world allowExternal allowWasm
        (locked.map (PluginLockEntry.withDigest pluginId digest)) id activation loaded =
        loadPlugin manager world allowExternal allowWasm locked id activation loaded := by
      rw [loadPlugin, loadPlugin, find_withDigest]
      by_cases same : id = pluginId
      · obtain ⟨connection, settings, socketless⟩ := embedded _ List.mem_cons_self same
        have entryId : entry.id = pluginId := by simpa using List.find?_some found
        subst same
        simp only [found, Option.map_some, PluginLockEntry.withDigest, if_pos entryId, demand,
          ok_bind, describePlugin_digest settings socketless wasm pinned]
      · cases other : locked.find? fun entry => entry.id = id with
        | none => rfl
        | some kept =>
          have keptId : kept.id = id := by simpa using List.find?_some other
          have unchanged : kept.withDigest pluginId digest = kept :=
            if_neg fun h => same (keptId.symm.trans h)
          rw [Option.map_some, unchanged]
    have later := fun loaded => @ih loaded fun p member => embedded p (.tail _ member)
    simp only [loadPlugins, turn, later]

theorem describePlugin_socket {connection : WasmConnection} {socket : WasmHostConnection}
    {described : Described} (settings : activation.runtime.wasm = some connection)
    (transport : connection.socket = some socket)
    (ok : describePlugin manager world allowExternal allowWasm pluginId activation entry =
      .ok described) : ∃ digest, entry.digest = some digest ∧
        artifactDigest world.files world.crypto socket.artifactPath socket.maxArtifactBytes =
          .ok digest.1 := by
  cases describePlugin_describedBy ok with
  | own manifest built absent =>
    rw [settings] at absent
    cases absent
  | host c s digest handshake own behind pinned met =>
    rw [settings] at own
    cases own
    rw [transport] at behind
    cases behind
    exact ⟨digest, pinned, (handshake_digest met).1⟩
  | component c description own embedded answered readOnly =>
    rw [settings] at own
    cases own
    rw [transport] at embedded
    cases embedded

theorem PluginManager.load_each {configuration : PluginConfiguration} {lock : PluginLock}
    (ok : manager.load world configuration lock allowExternal allowWasm = .ok loaded)
    (configured : (pluginId, activation) ∈ configuration.plugins) (on : activation.enabled = true) :
    ∃ entry described, lock.plugins.find? (fun entry => entry.id = pluginId) = some entry ∧
      describePlugin manager world allowExternal allowWasm pluginId activation entry =
        .ok described := by
  obtain ⟨locked, unique, ok⟩ := bind_ok.mp ok
  obtain ⟨-, same⟩ := refuse_bind.mp unique
  cases pure_ok.mp same
  exact loadPlugins_each ok ((List.perm_insertionSort _ _).mem_iff.mpr configured) on

theorem PluginManager.load_entry {configuration : PluginConfiguration} {lock : PluginLock}
    (ok : manager.load world configuration lock allowExternal allowWasm = .ok loaded)
    (configured : (pluginId, activation) ∈ configuration.plugins) (on : activation.enabled = true)
    (among : entry ∈ lock.plugins) (named : entry.id = pluginId) :
    lock.plugins.find? (fun entry => entry.id = pluginId) = some entry ∧ ∃ described,
      describePlugin manager world allowExternal allowWasm pluginId activation entry =
        .ok described := by
  obtain ⟨found, described, first, made⟩ := PluginManager.load_each ok configured on
  have unique := (PluginManager.load_ok ok).1
  have foundId : found.id = pluginId := by simpa using List.find?_some first
  cases List.inj_on_of_nodup_map unique (List.mem_of_find?_eq_some first) among
    (foundId.trans named.symm)
  exact ⟨first, described, made⟩

theorem withDigest_mem {lock : PluginLock} {digest : Sha256Digest} (among : entry ∈ lock.plugins)
    (named : entry.id = pluginId) :
    { entry with digest := some digest } ∈ (lock.withDigest pluginId digest).plugins := by
  have changed : entry.withDigest pluginId digest = { entry with digest := some digest } :=
    if_pos named
  rw [← changed]
  exact List.mem_map_of_mem among

theorem PluginManager.load_digest {configuration : PluginConfiguration} {lock : PluginLock}
    {connection : WasmConnection} (digest : Sha256Digest)
    (ok : manager.load world configuration lock allowExternal allowWasm = .ok loaded)
    (configured : (pluginId, activation) ∈ configuration.plugins) (on : activation.enabled = true)
    (among : entry ∈ lock.plugins) (named : entry.id = pluginId) (wasm : entry.source = .wasm)
    (settings : activation.runtime.wasm = some connection) (embedded : connection.socket = none) :
    manager.load world configuration (lock.withDigest pluginId digest) allowExternal allowWasm =
      .ok loaded := by
  obtain ⟨found, described, made⟩ := PluginManager.load_entry ok configured on among named
  have pinned := (describePlugin_wasm wasm made).2
  obtain ⟨locked, unique, ok⟩ := bind_ok.mp ok
  obtain ⟨distinct, same⟩ := refuse_bind.mp unique
  cases pure_ok.mp same
  have only : ∀ p ∈ configuration.sorted, p.1 = pluginId → ∃ connection,
      p.2.runtime.wasm = some connection ∧ connection.socket = none := by
    intro p member same
    have kept : p ∈ configuration.plugins := (List.perm_insertionSort _ _).mem_iff.mp member
    cases List.inj_on_of_nodup_map configuration.distinct kept configured same
    exact ⟨connection, settings, embedded⟩
  apply bind_ok.mpr
  refine ⟨(lock.withDigest pluginId digest).plugins, refuse_bind.mpr ⟨?_, rfl⟩, ?_⟩
  · rw [PluginLock.withDigest, withDigest_ids]
    exact distinct
  · exact (loadPlugins_digest found wasm pinned only).trans ok

end Pinned

/-- The digest of the lock is enforced exactly for the plugins behind a socket. There it is that of
the artifact whose signature was verified. -/
theorem digest_enforced_iff (manager : PluginManager) (world : PluginWorld)
    (configuration : PluginConfiguration) (lock : PluginLock) (allowExternal allowWasm : Bool)
    (loaded : LoadedPlugins) (pluginId : String) (activation : PluginActivation)
    (entry : PluginLockEntry)
    (ok : manager.load world configuration lock allowExternal allowWasm = .ok loaded)
    (configured : (pluginId, activation) ∈ configuration.plugins) (on : activation.enabled = true)
    (among : entry ∈ lock.plugins) (named : entry.id = pluginId) (wasm : entry.source = .wasm) :
    ((∀ digest loaded', manager.load world configuration (lock.withDigest pluginId digest)
        allowExternal allowWasm = .ok loaded' → entry.digest = some digest) ↔
      ∃ connection socket, activation.runtime.wasm = some connection ∧
        connection.socket = some socket) ∧
    ∀ connection socket, activation.runtime.wasm = some connection →
      connection.socket = some socket → ∃ digest, entry.digest = some digest ∧
        artifactDigest world.files world.crypto socket.artifactPath socket.maxArtifactBytes =
          .ok digest.1 := by
  obtain ⟨found, described, made⟩ := PluginManager.load_entry ok configured on among named
  refine ⟨⟨fun enforced => ?_, ?_⟩, fun connection socket settings transport =>
    describePlugin_socket settings transport made⟩
  · cases describePlugin_describedBy made with
    | own manifest built absent =>
      have present := (describePlugin_wasm wasm made).1
      rw [absent] at present
      cases present
    | host connection socket digest handshake settings transport pinned met =>
      exact ⟨connection, socket, settings, transport⟩
    | component connection description settings embedded answered readOnly =>
      exfalso
      have every := fun digest => enforced digest loaded
        (PluginManager.load_digest digest ok configured on among named wasm settings embedded)
      have same := (every zeroDigest).symm.trans (every oneDigest)
      exact absurd same (by decide)
  · rintro ⟨connection, socket, settings, transport⟩ digest loaded' ok'
    obtain ⟨old, pinned, verified⟩ := describePlugin_socket settings transport made
    obtain ⟨-, other, made'⟩ := PluginManager.load_entry ok' configured on
      (withDigest_mem among named) named
    obtain ⟨new, changed, verified'⟩ := describePlugin_socket settings transport made'
    cases changed
    rw [verified] at verified'
    rw [pinned, Subtype.ext (Except.ok.inj verified')]

theorem readerLock_loads (digest : Sha256Digest) : ∃ loaded, builtinManager.load readerWorld
    readerConfiguration (readerLock digest) false true = .ok loaded := by
  have unpinned :
      builtinManager.load readerWorld readerConfiguration (readerLock digest) false true =
      builtinManager.load readerWorld readerConfiguration (readerLock zeroDigest) false true := rfl
  rw [unpinned]
  exact toBool_ok (by decide +kernel)

theorem digest_enforced_iff_reader : ∃ loaded,
    builtinManager.load readerWorld readerConfiguration (readerLock zeroDigest) false true =
      .ok loaded ∧
    ¬ ∀ digest loaded', builtinManager.load readerWorld readerConfiguration
      ((readerLock zeroDigest).withDigest "dh-reader" digest) false true = .ok loaded' →
        some zeroDigest = some digest := by
  obtain ⟨loaded, ok⟩ := readerLock_loads zeroDigest
  refine ⟨loaded, ok, fun enforced => ?_⟩
  obtain ⟨connection, socket, settings, transport⟩ :=
    (digest_enforced_iff builtinManager readerWorld
    readerConfiguration (readerLock zeroDigest) false true loaded "dh-reader"
    ⟨true, [], readerRuntime⟩ ⟨"dh-reader", "1.0.0", .wasm, some zeroDigest⟩ ok (by
      simp [readerConfiguration]) rfl (by simp [readerLock]) rfl rfl).1.mp enforced
  cases settings
  cases transport

/-- One component, loaded under two digests. -/
theorem digest_unenforced : zeroDigest ≠ oneDigest ∧
    (∃ loaded, builtinManager.load readerWorld readerConfiguration (readerLock zeroDigest) false
      true = .ok loaded) ∧
    ∃ loaded, builtinManager.load readerWorld readerConfiguration (readerLock oneDigest) false
      true = .ok loaded :=
  ⟨by decide, readerLock_loads _, readerLock_loads _⟩

end Deckhand
