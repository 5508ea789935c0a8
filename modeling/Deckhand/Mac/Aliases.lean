import Deckhand.Mac.Executor

/-! What a request to the macOS agent can bring about: its target only selects an entry of the
inventory, and before anything is done. -/
namespace Deckhand
open Lib MacExecutor

/-- What an alias stands for. -/
inductive Entry where
  | text (value : String)
  | command (value : AppCommand)
  deriving DecidableEq

/-- The entry of the inventory that an action takes its target for: `some none` where the alias
is not there, and none where the action looks no target up. -/
def resolve (inventory : MacInventory) : LocalAction → String → Option (Option Entry)
  | .appEnsureRunning, t => some ((inventory.apps.lookup t).map .text)
  | .browserSessionOpen, t => some ((inventory.browserSessions.lookup t).map .text)
  | .shortcutRun, t => some ((inventory.shortcuts.lookup t).map .text)
  | .audioOutputSelect, t => some ((inventory.audioOutputs.lookup t).map .text)
  | .audioInputSelect, t => some ((inventory.audioInputs.lookup t).map .text)
  | .focusSet, t => some ((inventory.focusModes.lookup t).map .text)
  | .pomodoroStart, t => some ((inventory.pomodoroRoutines.lookup t).map .text)
  | .displayModeApply, t => some ((inventory.displayModes.lookup t).map .text)
  | .workspaceOpen, t => some ((inventory.workspaces.lookup t).map .text)
  | .obsSceneSet, t => some ((inventory.obs.scenes.lookup t).map .text)
  | .obsSourceToggle, t => some ((inventory.obs.sources.lookup t).map .text)
  | .inputSelect, t => some ((inventory.inputSources.lookup t).map .text)
  | .appCommand, t => some ((inventory.appCommands.lookup t).map .command)
  | _, _ => none

section Routing

def SameLocalAction (r s : LocalActionRequest) : Prop := r.actionId = s.actionId

/-- The same answer, to another target. -/
def retarget (s : LocalActionRequest) (x : LocalActionResult) : LocalActionResult :=
  { x with target := s.target }

/-- The target shows in nothing but the answer. -/
abbrev Blind (h : LocalActionRequest → Mac LocalActionResult) : Prop :=
  Retargets SameLocalAction retarget h

theorem blind_ok (state : String) (verified : Bool) (details : List (String × String)) :
    Blind fun r => pure (ok r state verified details) := by
  apply Retargets.value
  intro r s same
  have action : s.actionId = r.actionId := Eq.symm same
  unfold ok retarget
  rw [action]

/-- The target is looked up first, and shows in nothing but what is found and the answer. -/
def LooksUp {V : Type} (h : LocalActionRequest → Mac LocalActionResult)
    (mapping : List (String × V)) : Prop :=
  ∃ g : V → LocalActionRequest → Mac LocalActionResult, (∀ v, Blind (g v)) ∧
    ∀ r, h r = lookup mapping r.target >>= fun v => g v r

theorem LooksUp.unknown {V : Type} {h : LocalActionRequest → Mac LocalActionResult}
    {mapping : List (String × V)} (looks : LooksUp h mapping) {r : LocalActionRequest}
    (absent : mapping.lookup r.target = none) :
    h r = .ret (.error (.localActionError ("unknown local target alias '" ++ r.target ++
      "'"))) := by
  obtain ⟨g, -, shape⟩ := looks
  rw [shape, lookup, absent]
  rfl

theorem LooksUp.calls {V : Type} {h : LocalActionRequest → Mac LocalActionResult}
    {mapping : List (String × V)} (looks : LooksUp h mapping) {r s : LocalActionRequest}
    (same : SameLocalAction r s) (entry : mapping.lookup r.target = mapping.lookup s.target)
    (host : Host MacOp MacOp.Reply) : (h s).calls host = (h r).calls host := by
  cases found : mapping.lookup r.target with
  | none => rw [looks.unknown found, looks.unknown (entry.symm.trans found)]; rfl
  | some v =>
    obtain ⟨g, blind, shape⟩ := looks
    rw [shape, shape, lookup, lookup, ← entry, found]
    exact (blind v).calls same host

/-- How an action comes to its target. -/
inductive Routed (inventory : MacInventory) (action : LocalAction)
    (h : LocalActionRequest → Mac LocalActionResult) : Prop where
  | untargeted : (∀ t, resolve inventory action t = none) → Blind h →
      Routed inventory action h
  | texts (mapping : List (String × String)) :
      (∀ t, resolve inventory action t = some ((mapping.lookup t).map .text)) →
      LooksUp h mapping → Routed inventory action h
  | commands (mapping : List (String × AppCommand)) :
      (∀ t, resolve inventory action t = some ((mapping.lookup t).map .command)) →
      LooksUp h mapping → Routed inventory action h

end Routing

section Handlers

theorem runAliased_looks (mapping : List (String × String)) (arguments : String → List String)
    (state : String) (verified : Bool) (details : String → List (String × String)) :
    LooksUp (fun r => runAliased r mapping arguments state verified details) mapping := by
  refine ⟨fun v r => run (arguments v) >>= fun _ => pure (ok r state verified (details v)), ?_,
    fun _ => rfl⟩
  intro v
  apply Retargets.bind
  exact fun _ => blind_ok state verified (details v)

theorem audioSelect_looks (mapping : List (String × String)) (output : Bool) :
    LooksUp (fun r => audioSelect r mapping output) mapping := by
  refine ⟨fun device r => setAudioDevice device output >>= fun _ =>
    pure (ok r "selected" true [("device", device)]), ?_, fun _ => rfl⟩
  intro device
  apply Retargets.bind
  exact fun _ => blind_ok _ _ _

variable (inventory : MacInventory)

theorem appEnsureRunning_looks : LooksUp (appEnsureRunning inventory) inventory.apps := by
  refine ⟨fun bundleId r => run ["/usr/bin/open", "-b", bundleId] >>= fun _ =>
    applicationRunning bundleId >>= fun running =>
      pure (ok r (bif running then "running" else "unknown") running [("bundle_id", bundleId)]),
    ?_, fun _ => rfl⟩
  intro bundleId
  apply Retargets.bind
  intro _
  apply Retargets.bind
  exact fun running => blind_ok _ _ _

theorem workspaceOpen_looks : LooksUp (workspaceOpen inventory) inventory.workspaces := by
  refine ⟨fun path r => Prog.invoke (.expanduser path) id >>= fun expanded =>
    run ["/usr/bin/open", expanded] >>= fun _ =>
      pure (ok r "requested" false [("path", expanded)]), ?_, fun _ => rfl⟩
  intro path
  apply Retargets.bind
  intro expanded
  apply Retargets.bind
  exact fun _ => blind_ok _ _ _

theorem obsSceneSet_looks : LooksUp (obsSceneSet inventory) inventory.obs.scenes := by
  refine ⟨fun scene r => asLocalError (ObsClient.setScene scene) >>= fun _ =>
    pure (ok r "set" true [("scene", scene)]), ?_, fun _ => rfl⟩
  intro scene
  apply Retargets.bind
  exact fun _ => blind_ok _ _ _

theorem obsSourceToggle_looks : LooksUp (obsSourceToggle inventory) inventory.obs.sources := by
  refine ⟨fun source r => asLocalError (ObsClient.toggleSource source) >>= fun visible =>
    pure (ok r (bif visible then "visible" else "hidden") true [("source", source)]), ?_,
    fun _ => rfl⟩
  intro source
  apply Retargets.bind
  exact fun visible => blind_ok _ _ _

theorem appCommand_looks : LooksUp (appCommand inventory) inventory.appCommands := by
  refine ⟨fun command r => Prog.raiseIf (isBundleId command.bundleId = false)
      (.localActionError "invalid bundle identifier") >>= fun _ =>
    osascript ("tell application id \"" ++ command.bundleId ++ "\" to activate") >>= fun _ =>
    osascript ("tell application \"System Events\" to tell " ++
      "(first process whose frontmost is true) to " ++ command.keystroke) >>= fun _ =>
    pure (ok r "requested" false [("bundle_id", command.bundleId)]), ?_, fun _ => rfl⟩
  intro command
  apply Retargets.bind
  intro _
  apply Retargets.bind
  intro _
  apply Retargets.bind
  exact fun _ => blind_ok _ _ _

theorem micSet_blind (muted : Bool) : Blind fun r => micSet r muted := by
  apply Retargets.bind
  intro _
  apply Retargets.bind
  exact fun state => blind_ok _ _ _

theorem micToggle_blind : Blind micToggle := by
  apply Retargets.bind
  exact fun current => micSet_blind _

theorem micState_blind : Blind micState := by
  apply Retargets.bind
  exact fun state => blind_ok _ _ _

theorem audioState_blind : Blind audioState := by
  apply Retargets.bind
  intro found
  cases found with
  | none => exact blind_ok _ _ _
  | some tool =>
    apply Retargets.bind
    intro out
    apply Retargets.bind
    exact fun inp => blind_ok _ _ _

theorem focusClear_blind : Blind (focusClear inventory) := by
  apply Retargets.bind
  intro shortcut
  apply Retargets.bind
  exact fun _ => blind_ok _ _ _

theorem pomodoroStop_blind : Blind (pomodoroStop inventory) := by
  unfold pomodoroStop
  cases inventory.pomodoroRoutines.lookup "_stop" with
  | none => exact blind_ok _ _ _
  | some shortcut =>
    apply Retargets.bind
    exact fun _ => blind_ok _ _ _

theorem displayState_blind : Blind displayState := by
  apply Retargets.bind
  exact fun count => blind_ok _ _ _

theorem sleepInhibitOn_blind : Blind sleepInhibitOn := by
  apply Retargets.bind
  intro active
  cases active with
  | some process => exact blind_ok _ _ _
  | none =>
    apply Retargets.bind
    intro process
    apply Retargets.bind
    exact fun _ => blind_ok _ _ _

theorem sleepInhibitOff_blind : Blind sleepInhibitOff := by
  apply Retargets.bind
  intro active
  cases active with
  | none => exact blind_ok _ _ _
  | some process =>
    apply Retargets.bind
    intro _
    apply Retargets.bind
    exact fun _ => blind_ok _ _ _

theorem sleepInhibitState_blind : Blind sleepInhibitState := by
  apply Retargets.bind
  exact fun active => blind_ok _ _ _

theorem obsRecordStart_blind : Blind obsRecordStart := by
  apply Retargets.bind
  exact fun state => blind_ok _ _ _

theorem obsRecordStop_blind : Blind obsRecordStop := by
  apply Retargets.bind
  exact fun state => blind_ok _ _ _

theorem obsRecordState_blind : Blind obsRecordState := by
  apply Retargets.catch
  · apply Retargets.bind
    exact fun state => blind_ok _ _ _
  · intro x
    cases x with
    | obsError message => exact blind_ok _ _ _
    | localActionError message => exact Retargets.throw _
    | other message => exact Retargets.throw _

theorem obsReplaySave_blind : Blind obsReplaySave := by
  apply Retargets.bind
  exact fun _ => blind_ok _ _ _

theorem inputState_blind : Blind inputState := by
  apply Retargets.bind
  intro name
  by_cases empty : strip name = ""
  · simp only [empty, if_true]
    exact blind_ok _ _ _
  · simp only [empty, if_false]
    exact blind_ok _ _ _

theorem resetModifiers_blind : Blind resetModifiers := by
  apply Retargets.bind
  exact fun _ => blind_ok _ _ _

end Handlers

section Execute
variable {inventory : MacInventory}

theorem handler_routed (inventory : MacInventory) (action : LocalAction) :
    ∃ h, handlers.lookup action = some h ∧ Routed inventory action (h inventory) := by
  have text : ∀ {action : LocalAction} {h : Handler} (mapping : List (String × String)),
      handlers.lookup action = some h → LooksUp (h inventory) mapping →
      (∀ t, resolve inventory action t = some ((mapping.lookup t).map .text)) →
      ∃ h, handlers.lookup action = some h ∧ Routed inventory action (h inventory) :=
    fun mapping here looks entries => ⟨_, here, .texts mapping entries looks⟩
  have blind : ∀ {action : LocalAction} {h : Handler}, handlers.lookup action = some h →
      Blind (h inventory) → (∀ t, resolve inventory action t = none) →
      ∃ h, handlers.lookup action = some h ∧ Routed inventory action (h inventory) :=
    fun here whole entries => ⟨_, here, .untargeted entries whole⟩
  cases action with
  | appEnsureRunning => exact text _ rfl (appEnsureRunning_looks inventory) fun _ => rfl
  | browserSessionOpen => exact text _ rfl (runAliased_looks ..) fun _ => rfl
  | shortcutRun => exact text _ rfl (runAliased_looks ..) fun _ => rfl
  | micMute => exact blind rfl (micSet_blind true) fun _ => rfl
  | micUnmute => exact blind rfl (micSet_blind false) fun _ => rfl
  | micToggle => exact blind rfl micToggle_blind fun _ => rfl
  | micState => exact blind rfl micState_blind fun _ => rfl
  | audioOutputSelect => exact text _ rfl (audioSelect_looks ..) fun _ => rfl
  | audioInputSelect => exact text _ rfl (audioSelect_looks ..) fun _ => rfl
  | audioState => exact blind rfl audioState_blind fun _ => rfl
  | focusSet => exact text _ rfl (runAliased_looks ..) fun _ => rfl
  | focusClear => exact blind rfl (focusClear_blind inventory) fun _ => rfl
  | focusState => exact blind rfl (blind_ok _ _ _) fun _ => rfl
  | pomodoroStart => exact text _ rfl (runAliased_looks ..) fun _ => rfl
  | pomodoroStop => exact blind rfl (pomodoroStop_blind inventory) fun _ => rfl
  | pomodoroState => exact blind rfl (blind_ok _ _ _) fun _ => rfl
  | displayModeApply => exact text _ rfl (runAliased_looks ..) fun _ => rfl
  | displayState => exact blind rfl displayState_blind fun _ => rfl
  | sleepInhibitOn => exact blind rfl sleepInhibitOn_blind fun _ => rfl
  | sleepInhibitOff => exact blind rfl sleepInhibitOff_blind fun _ => rfl
  | sleepInhibitState => exact blind rfl sleepInhibitState_blind fun _ => rfl
  | workspaceOpen => exact text _ rfl (workspaceOpen_looks inventory) fun _ => rfl
  | obsSceneSet => exact text _ rfl (obsSceneSet_looks inventory) fun _ => rfl
  | obsRecordStart => exact blind rfl obsRecordStart_blind fun _ => rfl
  | obsRecordStop => exact blind rfl obsRecordStop_blind fun _ => rfl
  | obsRecordState => exact blind rfl obsRecordState_blind fun _ => rfl
  | obsSourceToggle => exact text _ rfl (obsSourceToggle_looks inventory) fun _ => rfl
  | obsReplaySave => exact blind rfl obsReplaySave_blind fun _ => rfl
  | inputSelect => exact text _ rfl (runAliased_looks ..) fun _ => rfl
  | inputState => exact blind rfl inputState_blind fun _ => rfl
  | resetModifiers => exact blind rfl resetModifiers_blind fun _ => rfl
  | appCommand => exact ⟨_, rfl, .commands inventory.appCommands (fun _ => rfl)
      (appCommand_looks inventory)⟩

/-- The sentinel stands where a target is required. -/
def Untargeted (r : LocalActionRequest) : Prop :=
  actionRequiresTarget r.actionId = true ∧ r.target = "_"

theorem execute_untargeted {r : LocalActionRequest} (untargeted : Untargeted r) :
    execute inventory r = .ret (.error (.localActionError
      ("action " ++ r.actionId.value ++ " requires a target alias"))) := by
  obtain ⟨h, here, -⟩ := handler_routed inventory r.actionId
  have refused : actionRequiresTarget r.actionId = true ∧ r.target = "_" := untargeted
  unfold execute Prog.raiseIf
  dsimp only
  rw [here, if_pos refused]
  rfl

theorem execute_handler {r : LocalActionRequest} (targeted : ¬ Untargeted r) {h : Handler}
    (here : handlers.lookup r.actionId = some h) : execute inventory r = h inventory r := by
  have admitted : ¬ (actionRequiresTarget r.actionId = true ∧ r.target = "_") := targeted
  unfold execute Prog.raiseIf
  dsimp only
  rw [here, if_neg admitted]
  rfl

theorem Routed.calls {r s : LocalActionRequest} {h : LocalActionRequest → Mac LocalActionResult}
    (routed : Routed inventory r.actionId h) (same : SameLocalAction r s)
    (entry : resolve inventory r.actionId r.target = resolve inventory r.actionId s.target)
    (host : Host MacOp MacOp.Reply) : (h s).calls host = (h r).calls host := by
  cases routed with
  | untargeted _ blind => exact blind.calls same host
  | texts mapping entries looks =>
    rw [entries, entries] at entry
    have found := Option.map_injective (fun _ _ => Entry.text.inj) (Option.some.inj entry)
    exact looks.calls same found host
  | commands mapping entries looks =>
    rw [entries, entries] at entry
    have found := Option.map_injective (fun _ _ => Entry.command.inj) (Option.some.inj entry)
    exact looks.calls same found host

theorem execute_unknown {r : LocalActionRequest}
    (unknown : resolve inventory r.actionId r.target = some none) :
    ∃ message, execute inventory r = .ret (.error (.localActionError message)) := by
  by_cases untargeted : Untargeted r
  · exact ⟨_, execute_untargeted untargeted⟩
  · obtain ⟨h, here, routed⟩ := handler_routed inventory r.actionId
    rw [execute_handler untargeted here]
    cases routed with
    | untargeted entries _ =>
      rw [entries] at unknown
      cases unknown
    | texts mapping entries looks =>
      rw [entries] at unknown
      exact ⟨_, looks.unknown (Option.map_eq_none_iff.mp (Option.some.inj unknown))⟩
    | commands mapping entries looks =>
      rw [entries] at unknown
      exact ⟨_, looks.unknown (Option.map_eq_none_iff.mp (Option.some.inj unknown))⟩

/-- Requests for one action whose targets stand for the same ask the same of the machine,
whatever it answers, if the sentinel is the target of both or of neither; and a target that is
looked up and not there raises before anything is asked. -/
theorem execute_follows_inventory (inventory : MacInventory) (host : Host MacOp MacOp.Reply) :
    (∀ r s : LocalActionRequest, r.actionId = s.actionId →
      resolve inventory r.actionId r.target = resolve inventory s.actionId s.target →
      (actionRequiresTarget r.actionId = true → (r.target = "_" ↔ s.target = "_")) →
      (execute inventory r).calls host = (execute inventory s).calls host) ∧
    ∀ r : LocalActionRequest, resolve inventory r.actionId r.target = some none →
      (execute inventory r).calls host = [] ∧
      ∃ message, ((execute inventory r).play host []).2 = .error (.localActionError message) := by
  constructor
  · intro r s same entry sentinel
    by_cases untargeted : Untargeted r
    · have other : Untargeted s :=
        ⟨same ▸ untargeted.1, (sentinel untargeted.1).mp untargeted.2⟩
      rw [execute_untargeted untargeted, execute_untargeted other]
      rfl
    · have other : ¬ Untargeted s := fun h =>
        untargeted ⟨same ▸ h.1, (sentinel (same ▸ h.1)).mpr h.2⟩
      obtain ⟨h, here, routed⟩ := handler_routed inventory r.actionId
      rw [execute_handler untargeted here, execute_handler other (same ▸ here)]
      rw [← same] at entry
      exact (routed.calls same entry host).symm
  · intro r unknown
    obtain ⟨message, raises⟩ := execute_unknown unknown
    rw [raises]
    exact ⟨rfl, message, rfl⟩

end Execute

namespace Sample

/-- An inventory that has the sentinel for an alias, of an application that has another. -/
def twoNames : MacInventory where
  apps := [("_", "com.apple.Terminal"), ("terminal", "com.apple.Terminal")]
  shortcuts := [("lights", "Lights On"), ("lamps", "Lights On")]

def quietHost : Host MacOp MacOp.Reply
  | _, .subprocess _ => .ok ⟨0, "", ""⟩
  | _, .obsRequest .. => .ok (.obj [])
  | _, .which _ => none
  | _, .expanduser path => .ok path
  | _, .caffeinateProcess => none
  | _, .keepCaffeinate _ => ()
  | _, .createSubprocess _ => .ok 0
  | _, .returncode _ => none
  | _, .terminate _ => .ok ()

def ensureRunning (target : String) (shaped : isAlias target = true) : LocalActionRequest :=
  ⟨.appEnsureRunning, target, shaped⟩

def runNamed (target : String) (shaped : isAlias target = true) : LocalActionRequest :=
  ⟨.shortcutRun, target, shaped⟩

end Sample

open Sample in
theorem execute_follows_inventory_shortcuts :
    (execute twoNames (runNamed "lights" (by decide))).calls quietHost =
      (execute twoNames (runNamed "lamps" (by decide))).calls quietHost ∧
    (execute twoNames (runNamed "heating" (by decide))).calls quietHost = [] :=
  have follows := execute_follows_inventory twoNames quietHost
  ⟨follows.1 (runNamed "lights" (by decide)) (runNamed "lamps" (by decide)) rfl (by decide)
      fun _ => by decide,
    (follows.2 (runNamed "heating" (by decide)) (by decide)).1⟩

open Sample in
/-- The sentinel is refused even where the inventory has it for an alias. -/
theorem sentinel_not_followed :
    resolve twoNames .appEnsureRunning "_" = resolve twoNames .appEnsureRunning "terminal" ∧
    (execute twoNames (ensureRunning "_" (by decide))).calls quietHost = [] ∧
    (execute twoNames (ensureRunning "terminal" (by decide))).calls quietHost =
      [.subprocess ["/usr/bin/open", "-b", "com.apple.Terminal"],
        .subprocess ["/usr/bin/osascript", "-e",
          "application id \"com.apple.Terminal\" is running"]] ∧
    (execute twoNames (ensureRunning "_" (by decide))).calls quietHost ≠
      (execute twoNames (ensureRunning "terminal" (by decide))).calls quietHost := by
  refine ⟨by decide, rfl, rfl, ?_⟩
  intro same
  exact absurd (congrArg List.length same) (by decide)

end Deckhand
