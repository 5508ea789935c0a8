import Deckhand.Plugins.Artifact

namespace Deckhand
open Lib

section
variable (files : Files) (connection : WasmHostConnection)

def checkDirectory (path : PathParts) : Except HostFault Unit := do
  let metadata ← demand (files.lstat path) .osError
  refuse (metadata.symlink = true ∨ metadata.directory = false)
    (violation "host socket directories must not be symlinks")
  refuse (metadata.sharedWrite = true)
    (violation "host socket directories cannot be group/world writable")

/-- The loop; the parent of the root is the root itself, and no round is the last of its own
accord. -/
def walkUp (root : PathParts) : Nat → PathParts → Option (Except HostFault Unit)
  | 0, _ => none
  | rounds + 1, current =>
    match checkDirectory files current with
    | .error x => some (.error x)
    | .ok _ => if current = root then some (.ok ()) else walkUp root rounds current.dropLast

def locateSocket : Except HostFault Unit := do
  let socketRoot ← demand (files.resolve connection.socketRoot) .osError
  let socketPath ← demand (files.resolve connection.socketPath) .osError
  refuse (socketRoot ≠ connection.socketRoot ∨ socketPath ≠ connection.socketPath)
    (violation "host socket path cannot contain symlinks")
  refuse (¬ socketRoot <+: socketPath)
    (violation "host socket is outside the configured socket root")

def checkSocket : Except HostFault Unit := do
  let metadata ← demand (files.lstat connection.socketPath) .osError
  refuse (metadata.symlink = true ∨ metadata.socket = false)
    (violation "host endpoint must be a Unix socket")
  refuse (metadata.uid ≠ connection.expectedUid) (violation "host socket has an unexpected owner")
  refuse (metadata.mode &&& 0o002 ≠ 0) (violation "host socket cannot be world writable")

/-- `_validate_socket_path`, as far as it comes in so many rounds of its loop. -/
def validateSocketPath (rounds : Nat) : Option (Except HostFault Unit) :=
  match locateSocket files connection with
  | .error x => some (.error x)
  | .ok _ =>
    match walkUp files connection.socketRoot rounds connection.socketPath.dropLast with
    | none => none
    | some (.error x) => some (.error x)
    | some (.ok _) => some (checkSocket files connection)

/-- A real directory that only its owner writes. -/
def SafeDirectory (path : PathParts) : Prop :=
  ∃ m, files.lstat path = some m ∧ m.kind = .directory ∧ m.sharedWrite = false

/-- What is promised of a path that is returned on. -/
structure SocketInside : Prop where
  inside : connection.socketRoot <+: connection.socketPath
  strictly : connection.socketPath ≠ connection.socketRoot
  socket : ∃ m, files.lstat connection.socketPath = some m ∧ m.kind = .socket ∧
    m.uid = connection.expectedUid
  directories : ∀ d, connection.socketRoot <+: d → d <+: connection.socketPath →
    d ≠ connection.socketPath → SafeDirectory files d

/-- The walk starts above the socket root, and nothing on its way up stops it. -/
structure StartsAbove : Prop where
  same : connection.socketPath = connection.socketRoot
  below : connection.socketPath ≠ []
  resolved : files.resolve connection.socketPath = some connection.socketPath
  safe : ∀ d, d <+: connection.socketPath → d ≠ connection.socketPath → SafeDirectory files d

end

section Walk
variable {files : Files} {connection : WasmHostConnection} {root current : PathParts} {rounds : Nat}

theorem checkDirectory_iff {path : PathParts} :
    checkDirectory files path = .ok () ↔ SafeDirectory files path := by
  simp only [checkDirectory, SafeDirectory, bind_ok, demand_ok, refuse_ok]
  constructor
  · rintro ⟨m, found, _, kind, shared⟩
    refine ⟨m, found, ?_, by simpa using shared⟩
    simpa [Metadata.directory] using (not_or.mp kind).2
  · rintro ⟨m, found, kind, shared⟩
    refine ⟨m, found, (), ?_, by simpa using shared⟩
    simp [Metadata.symlink, Metadata.directory, kind]

theorem prefix_dropLast {d path : PathParts} (within : d <+: path) (other : d ≠ path) :
    d <+: path.dropLast := by
  obtain ⟨rest, rfl⟩ := within
  have nonempty : rest ≠ [] := by
    rintro rfl
    exact other (List.append_nil d).symm
  rw [List.dropLast_append_of_ne_nil nonempty]
  exact List.prefix_append _ _

theorem dropLast_within (path : PathParts) : path.dropLast <+: path := List.dropLast_prefix path

theorem walkUp_succ : walkUp files root (rounds + 1) current =
    match checkDirectory files current with
    | .error x => some (.error x)
    | .ok _ =>
      if current = root then some (.ok ()) else walkUp files root rounds current.dropLast :=
  rfl

theorem walkUp_returns (below : root <+: current) :
    ∃ rounds result, walkUp files root rounds current = some result := by
  generalize size : current.length = n
  induction n generalizing current with
  | zero =>
    obtain rfl := List.length_eq_zero_iff.mp size
    obtain rfl := List.prefix_nil.mp below
    refine ⟨1, ?_⟩
    rw [walkUp_succ]
    cases checkDirectory files [] <;> simp
  | succ n ih =>
    by_cases here : current = root
    · refine ⟨1, ?_⟩
      rw [walkUp_succ]
      cases checkDirectory files current <;> simp [here]
    · obtain ⟨rounds, result, walked⟩ := @ih current.dropLast
        (prefix_dropLast below (Ne.symm here)) (by simp [size])
      refine ⟨rounds + 1, ?_⟩
      rw [walkUp_succ]
      cases checkDirectory files current with
      | error x => exact ⟨_, rfl⟩
      | ok _ => exact ⟨result, by rw [← walked]; exact if_neg here⟩

theorem walkUp_safe (walked : walkUp files root rounds current = some (.ok ()))
    (below : root <+: current) {d : PathParts} (above : root <+: d) (within : d <+: current) :
    SafeDirectory files d := by
  induction rounds generalizing current with
  | zero => cases walked
  | succ rounds ih =>
    rw [walkUp_succ] at walked
    cases checked : checkDirectory files current with
    | error x =>
      rw [checked] at walked
      cases walked
    | ok _ =>
      rw [checked] at walked
      have safe := checkDirectory_iff.mp checked
      dsimp only at walked
      split at walked
      case isTrue here =>
        subst here
        rwa [within.eq_of_length_le above.length_le]
      case isFalse other =>
        by_cases last : d = current
        · rwa [last]
        · exact ih walked (prefix_dropLast below (Ne.symm other)) (prefix_dropLast within last)

theorem walkUp_stops (above : current.length < root.length) :
    (∃ rounds result, walkUp files root rounds current = some result) ↔
      ∃ d, d <+: current ∧ ¬ SafeDirectory files d := by
  have other : current ≠ root := by
    rintro rfl
    exact Nat.lt_irrefl _ above
  constructor
  · rintro ⟨rounds, result, walked⟩
    induction rounds generalizing current with
    | zero => cases walked
    | succ rounds ih =>
      by_cases safe : SafeDirectory files current
      · rw [walkUp_succ, checkDirectory_iff.mpr safe] at walked
        have shorter : current.dropLast.length < root.length := by
          rw [List.length_dropLast]
          omega
        obtain ⟨d, within, stops⟩ := ih shorter (fun same => by rw [same] at shorter; omega)
          ((if_neg other).symm.trans walked)
        exact ⟨d, within.trans (dropLast_within current), stops⟩
      · exact ⟨current, List.prefix_rfl, safe⟩
  · rintro ⟨d, within, stops⟩
    generalize size : current.length = n
    induction n generalizing current with
    | zero =>
      obtain rfl := List.length_eq_zero_iff.mp size
      obtain rfl := List.prefix_nil.mp within
      refine ⟨1, ?_⟩
      rw [walkUp_succ]
      cases checked : checkDirectory files [] with
      | error x => exact ⟨_, rfl⟩
      | ok _ => exact absurd (checkDirectory_iff.mp checked) stops
    | succ n ih =>
      cases checked : checkDirectory files current with
      | error x =>
        refine ⟨1, .error x, ?_⟩
        rw [walkUp_succ, checked]
      | ok _ =>
        have safe := checkDirectory_iff.mp checked
        have last : d ≠ current := by
          rintro rfl
          exact stops safe
        have shorter : current.dropLast.length = n := by
          rw [List.length_dropLast]
          omega
        obtain ⟨rounds, result, walked⟩ := @ih current.dropLast (by omega)
          (fun same => by rw [same] at shorter; omega) (prefix_dropLast within last) shorter
        refine ⟨rounds + 1, result, ?_⟩
        rw [walkUp_succ, checked, ← walked]
        exact if_neg other

theorem locateSocket_iff : locateSocket files connection = .ok () ↔
    files.resolve connection.socketRoot = some connection.socketRoot ∧
      files.resolve connection.socketPath = some connection.socketPath ∧
      connection.socketRoot <+: connection.socketPath := by
  simp only [locateSocket, bind_ok, demand_ok, refuse_ok, not_or, not_not]
  constructor
  · rintro ⟨_, root, _, path, _, ⟨rfl, rfl⟩, inside⟩
    exact ⟨root, path, inside⟩
  · rintro ⟨root, path, inside⟩
    exact ⟨_, root, _, path, (), ⟨rfl, rfl⟩, inside⟩

theorem checkSocket_ok (checked : checkSocket files connection = .ok ()) :
    ∃ m, files.lstat connection.socketPath = some m ∧ m.kind = .socket ∧
      m.uid = connection.expectedUid := by
  simp only [checkSocket, bind_ok, demand_ok, refuse_ok] at checked
  obtain ⟨m, found, _, kind, _, owner, -⟩ := checked
  refine ⟨m, found, ?_, not_not.mp owner⟩
  simpa [Metadata.socket] using (not_or.mp kind).2

theorem validateSocketPath_returns (located : locateSocket files connection = .ok ()) :
    (∃ rounds result, validateSocketPath files connection rounds = some result) ↔
      ∃ rounds result, walkUp files connection.socketRoot rounds connection.socketPath.dropLast =
        some result := by
  constructor
  · rintro ⟨rounds, result, returned⟩
    rw [validateSocketPath, located] at returned
    cases walked : walkUp files connection.socketRoot rounds connection.socketPath.dropLast with
    | none =>
      rw [walked] at returned
      cases returned
    | some r => exact ⟨rounds, r, walked⟩
  · rintro ⟨rounds, result, walked⟩
    refine ⟨rounds, ?_⟩
    rw [validateSocketPath, located, walked]
    cases result with
    | error x => exact ⟨_, rfl⟩
    | ok _ => exact ⟨_, rfl⟩

theorem validateSocketPath_ok (returned : validateSocketPath files connection rounds =
    some (.ok ())) : locateSocket files connection = .ok () ∧
      walkUp files connection.socketRoot rounds connection.socketPath.dropLast = some (.ok ()) ∧
      checkSocket files connection = .ok () := by
  unfold validateSocketPath at returned
  split at returned
  · cases Option.some.inj returned
  · rename_i located
    split at returned
    · cases returned
    · cases Option.some.inj returned
    · rename_i walked
      exact ⟨located, walked, Option.some.inj returned⟩

theorem inside_below (inside : connection.socketRoot <+: connection.socketPath)
    (strictly : connection.socketPath ≠ connection.socketRoot) :
    connection.socketRoot <+: connection.socketPath.dropLast :=
  prefix_dropLast inside (Ne.symm strictly)

/-- Where both paths are the root of the file system, what should be a socket is a directory. -/
theorem root_refused (same : connection.socketPath = connection.socketRoot)
    (top : connection.socketPath = []) :
    validateSocketPath files connection rounds ≠ some (.ok ()) := by
  intro returned
  obtain ⟨-, walked, checked⟩ := validateSocketPath_ok returned
  rw [← same, top] at walked
  have safe := walkUp_safe walked List.prefix_rfl List.prefix_rfl List.prefix_rfl
  obtain ⟨m, found, directory, -⟩ := safe
  obtain ⟨m', found', socket, -⟩ := checkSocket_ok checked
  rw [top] at found'
  have alike : m = m' := Option.some.inj (found.symm.trans found')
  rw [alike, socket] at directory
  cases directory

theorem above_shorter (same : connection.socketPath = connection.socketRoot)
    (below : connection.socketPath ≠ []) :
    connection.socketPath.dropLast.length < connection.socketRoot.length := by
  rw [List.length_dropLast, ← same]
  have := List.length_pos_iff.mpr below
  omega

theorem above_not_ok {current : PathParts}
    (above : current.length < connection.socketRoot.length) :
    walkUp files connection.socketRoot rounds current ≠ some (.ok ()) := by
  induction rounds generalizing current with
  | zero => exact nofun
  | succ rounds ih =>
    rw [walkUp_succ]
    cases checkDirectory files current with
    | error x => exact nofun
    | ok _ =>
      have other : current ≠ connection.socketRoot := by
        rintro rfl
        exact Nat.lt_irrefl _ above
      dsimp only
      rw [if_neg other]
      apply ih
      rw [List.length_dropLast]
      omega

theorem validateSocketPath_inside
    (returned : validateSocketPath files connection rounds = some (.ok ())) :
    SocketInside files connection := by
  obtain ⟨located, walked, checked⟩ := validateSocketPath_ok returned
  obtain ⟨-, -, inside⟩ := locateSocket_iff.mp located
  have strictly : connection.socketPath ≠ connection.socketRoot := by
    intro same
    by_cases top : connection.socketPath = []
    · exact root_refused same top returned
    · exact above_not_ok (above_shorter same top) walked
  refine ⟨inside, strictly, checkSocket_ok checked, fun d above within last => ?_⟩
  exact walkUp_safe walked (inside_below inside strictly) above (prefix_dropLast within last)

end Walk

/-- The validation comes to an end, and returns on nothing but a socket inside its root, exactly
when the walk does not start above the socket root. -/
theorem socket_path_validated_iff (files : Files) (connection : WasmHostConnection) :
    ((∃ rounds result, validateSocketPath files connection rounds = some result) ∧
      ∀ rounds, validateSocketPath files connection rounds = some (.ok ()) →
        SocketInside files connection) ↔ ¬ StartsAbove files connection := by
  constructor
  · rintro ⟨returns, -⟩ start
    have located : locateSocket files connection = .ok () := by
      refine locateSocket_iff.mpr ⟨start.same ▸ start.resolved, start.resolved, ?_⟩
      rw [start.same]
    have walked := (validateSocketPath_returns located).mp returns
    obtain ⟨d, within, stops⟩ := (walkUp_stops (above_shorter start.same start.below)).mp walked
    apply stops
    apply start.safe d (within.trans (dropLast_within _))
    rintro rfl
    have shorter := within.length_le
    rw [List.length_dropLast] at shorter
    have := List.length_pos_iff.mpr start.below
    omega
  · intro inside
    refine ⟨?_, fun rounds => validateSocketPath_inside⟩
    cases located : locateSocket files connection with
    | error x => exact ⟨0, .error x, by rw [validateSocketPath, located]⟩
    | ok _ =>
      apply (validateSocketPath_returns located).mpr
      obtain ⟨-, resolved, within⟩ := locateSocket_iff.mp located
      by_cases same : connection.socketPath = connection.socketRoot
      · by_cases top : connection.socketPath = []
        · apply walkUp_returns
          rw [← same, top]
          exact List.prefix_rfl
        · apply (walkUp_stops (above_shorter same top)).mpr
          by_contra never
          simp only [not_exists, not_and, not_not] at never
          exact inside ⟨same, top, resolved, fun d within last =>
            never d (prefix_dropLast within last)⟩
      · exact walkUp_returns (inside_below within same)

def openFiles : Files where
  resolve path := some path
  lstat path := some ⟨if path.length = 4 then .socket else .directory, 0, 0o755, 0⟩
  read _ := none

def rootedConnection : WasmHostConnection where
  socketPath := ["run", "deckhand", "plugins", "reader.sock"]
  socketRoot := ["run", "deckhand", "plugins", "reader.sock"]
  expectedUid := 0
  artifactPath := []
  signaturePath := []
  publicKeyPath := []
  trustRoot := []
  trustOwnerUid := 0
  artifactOwnerUid := 0
  maxArtifactBytes := 134217728

theorem walk_endless : ¬ ∃ rounds result,
    validateSocketPath openFiles rootedConnection rounds = some result := by
  rintro ⟨rounds, result, returned⟩
  have safe : ∀ path : PathParts, path.length < 4 → SafeDirectory openFiles path := by
    intro path short
    refine ⟨⟨.directory, 0, 0o755, 0⟩, ?_, rfl, by decide⟩
    have other : path.length ≠ 4 := by omega
    simp only [openFiles, if_neg other]
  have walks : ∀ (n : Nat) (current : PathParts), current.length < 4 →
      walkUp openFiles rootedConnection.socketRoot n current = none := by
    intro n
    induction n with
    | zero => exact fun _ _ => rfl
    | succ n ih =>
      intro current short
      rw [walkUp_succ, checkDirectory_iff.mpr (safe current short)]
      have other : current ≠ rootedConnection.socketRoot := by
        rintro rfl
        exact absurd short (by decide)
      dsimp only
      rw [if_neg other]
      apply ih
      rw [List.length_dropLast]
      omega
  have located : locateSocket openFiles rootedConnection = .ok () :=
    locateSocket_iff.mpr ⟨rfl, rfl, List.prefix_rfl⟩
  rw [validateSocketPath, located, walks rounds _ (by decide)] at returned
  cases returned

end Deckhand
