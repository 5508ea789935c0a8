import Deckhand.Identity
import Deckhand.Mac.Executor
import Deckhand.Mediation

/-! The door of the broker: which subject a request's headers make, and what that says about the
work that the adapters are given. -/
namespace Deckhand
open Lib

structure IdentityHeaders where
  xDeckhandIdentity : Option String := none
  tailscaleUserLogin : Option String := none
  tailscaleAppCapabilities : Option String := none
  xDeckhandSubject : Option String := none
  xDeckhandDevice : Option String := none
  xDeckhandChannel : Option String := none
  xDeckhandProxyAssertion : Option String := none

/-- `raised` is an exception that is no answer to the client. -/
inductive DoorExn where
  | http (status : Nat) (detail : String)
  | raised (x : IdentityExn)
  | unreadable
  | typeError
  | headerError
  | validationError
  deriving DecidableEq

inductive ReadExn where
  | osError
  | unicodeError
  deriving DecidableEq, Repr

structure Door where
  identityPublicKey : Option PublicKey := none
  allowLegacyProxyAssertion : Bool := false
  trustedProxy : Bool := false
  proxyAssertionFile : Option String := none
  tailscaleAppCapability : String := "coollyninja.com/cap/deckhand"

/-- What a request finds: the time, the files, the reader of encoded headers, and how deep the
JSON reader goes. -/
structure Surroundings where
  now : Int
  readText : String → Except ReadExn String
  decodeHeader : String → Option PyStr
  jsonDepth : Nat
  nests : 0 < jsonDepth

def IdentityClaims.toSubject (claims : IdentityClaims) : Subject :=
  { name := claims.subject, device := claims.device, channel := claims.channel }

def present (header : Option String) : Option String := header.filter fun text => text ≠ ""

/-- `v[key]` of a dict. -/
def PyJson.member? (v : PyJson) (key : String) : Option PyJson :=
  v.members?.bind fun members => pyGet members key

/-- `v[0]` of a list. A string's first character is a string, and has no members. -/
def PyJson.first? : PyJson → Option PyJson
  | .arr (item :: _) => some item
  | _ => none

namespace Door
variable (door : Door) (here : Surroundings) (headers : IdentityHeaders)

def subjectFromIdentityToken (token : String) : Except DoorExn Subject := do
  let key ← demand door.identityPublicKey (.http 503 "identity verification unavailable")
  match verifyToken here.jsonDepth fromisoformat key (pyStr token) (utc here.now) with
  | .ok claims => .ok claims.toSubject
  | .error (.identityError _) => .error (.http 401 "invalid identity token")
  | .error (.unknownChannel _) => .error (.http 401 "invalid identity token")
  | .error x => .error (.raised x)

def tailscaleDevice (capabilities : String) : Except DoorExn PyStr := do
  let decoded ← demand (here.decodeHeader capabilities) .headerError
  let required := DoorExn.http 401 "Deckhand app capability required"
  -- a ValueError is caught, a RecursionError is not
  let capabilities ← (PyJson.loads here.jsonDepth decoded).mapError fun e =>
    if e.isValueError then required else .raised .recursionError
  let device ← demand (do
    let grants ← PyJson.member? capabilities door.tailscaleAppCapability
    let grant ← PyJson.first? grants
    PyJson.member? grant "device") required
  demand (device.str?.filter fun s => s ≠ []) (.http 401 "device identity required")

def expectedAssertion (path : String) : Except DoorExn String :=
  match here.readText path with
  | .ok text => .ok (strip text)
  | .error .osError => .error (.http 503 "proxy assertion unavailable")
  | .error .unicodeError => .error .unreadable

/-- The headers that a trusted ingress has set, taken at their word. -/
def assertedSubject : Except DoorExn Subject := do
  if headers.xDeckhandChannel = some "tailscale" then
    let required := DoorExn.http 401 "Tailscale identity required"
    let login ← demand (present headers.tailscaleUserLogin) required
    let capabilities ← demand (present headers.tailscaleAppCapabilities) required
    let device ← door.tailscaleDevice here capabilities
    return { name := pyStr login, device, channel := pyStr "tailscale" }
  let required := DoorExn.http 401 "authenticated identity required"
  refuse (headers.xDeckhandChannel ≠ some "mgmt-mtls") required
  let subject ← demand (present headers.xDeckhandSubject) required
  let device ← demand (present headers.xDeckhandDevice) required
  return { name := pyStr subject, device := pyStr device, channel := pyStr "mgmt-mtls" }

def subjectFromLegacyHeaders : Except DoorExn Subject := do
  refuse (door.trustedProxy = false) (.http 503 "trusted ingress unavailable")
  let path ← demand door.proxyAssertionFile (.http 503 "trusted ingress unavailable")
  let expected ← expectedAssertion here path
  let required := DoorExn.http 401 "trusted proxy assertion required"
  let assertion ← demand (present headers.xDeckhandProxyAssertion) required
  let matched ← (compareDigest assertion expected).mapError fun _ => .typeError
  refuse (matched = false) required
  door.assertedSubject here headers

def authenticatedSubject : Except DoorExn Subject :=
  match headers.xDeckhandIdentity with
  | some token => door.subjectFromIdentityToken here token
  | none => do
    refuse (door.identityPublicKey.isSome = true ∧ door.allowLegacyProxyAssertion = false)
      (.http 401 "signed identity token required")
    refuse (door.allowLegacyProxyAssertion = false)
      (.http 503 "identity verification unavailable")
    door.subjectFromLegacyHeaders here headers

end Door

def tokenText (token : PyStr) : String := String.ofList (token.map fun c => Char.ofNat c.val)

theorem tokenText_b64u (raw : List UInt8) :
    pyStr (tokenText (b64uEncode raw)) = b64uEncode raw := by
  have scalar : ((b64uEncode raw).all fun c => !isSurrogate c) = true := by
    rw [List.all_eq_true, b64uEncode_digits]
    intro c member
    have plain := (digits_plain _ c member).2
    simp only [isSurrogate, Bool.not_eq_true', Bool.and_eq_false_iff, decide_eq_false_iff_not]
    omega
  exact scalarText_ok (if_pos scalar)

/-- The app capabilities of the header grant the device to Deckhand. -/
inductive GrantsDevice (door : Door) (here : Surroundings) (capabilities : String)
    (device : PyStr) : Prop where
  | mk (decoded : PyStr) (read grants grant : PyJson) :
      here.decodeHeader capabilities = some decoded →
      PyJson.loads here.jsonDepth decoded = .ok read →
      PyJson.member? read door.tailscaleAppCapability = some grants →
      PyJson.first? grants = some grant → PyJson.member? grant "device" = some (.str device) →
      GrantsDevice door here capabilities device

/-- The subject is the one that the headers of a trusted ingress name. -/
inductive Named (door : Door) (here : Surroundings) (headers : IdentityHeaders) :
    Subject → Prop where
  | tailscale (login capabilities : String) (device : PyStr) :
      headers.xDeckhandChannel = some "tailscale" → headers.tailscaleUserLogin = some login →
      headers.tailscaleAppCapabilities = some capabilities →
      GrantsDevice door here capabilities device →
      login ≠ "" → device ≠ [] →
      Named door here headers { name := pyStr login, device, channel := pyStr "tailscale" }
  | mgmt (name device : String) : headers.xDeckhandChannel = some "mgmt-mtls" →
      headers.xDeckhandSubject = some name → headers.xDeckhandDevice = some device →
      name ≠ "" → device ≠ "" →
      Named door here headers
        { name := pyStr name, device := pyStr device, channel := pyStr "mgmt-mtls" }

/-- Why a request's subject was let in: an issuer had signed for it in the token of the request, or
the request carries the assertion that the ingress shares with the broker, and its headers name the
subject. -/
inductive Endorsed (door : Door) (signed : List UInt8 → Prop) (here : Surroundings)
    (headers : IdentityHeaders) (subject : Subject) : Prop where
  | token (text : String) (envelope : Envelope) (issuedAt expiresAt : Int) (nonce : PyStr) :
      headers.xDeckhandIdentity = some text →
      readEnvelope here.jsonDepth (pyStr text) = .ok envelope →
      envelope.subject = .str subject.name → envelope.device = .str subject.device →
      envelope.channel = .str subject.channel →
      signed (canonicalClaims subject.name subject.device subject.channel issuedAt expiresAt
        nonce) →
      subject.channel ∈ allowedChannels → expiresAt - issuedAt ≤ 330000000 →
      issuedAt - 30000000 ≤ here.now → here.now ≤ expiresAt + 30000000 →
      Endorsed door signed here headers subject
  | assertion (path secret : String) : headers.xDeckhandIdentity = none →
      door.allowLegacyProxyAssertion = true → door.trustedProxy = true →
      door.proxyAssertionFile = some path → here.readText path = .ok secret →
      headers.xDeckhandProxyAssertion = some (strip secret) → strip secret ≠ "" →
      Named door here headers subject → Endorsed door signed here headers subject

section Admission
variable {door : Door} {here : Surroundings} {headers : IdentityHeaders} {subject : Subject}

theorem present_ok {header : Option String} {text : String} (h : present header = some text) :
    header = some text ∧ text ≠ "" := by
  obtain ⟨there, nonempty⟩ := Option.filter_eq_some_iff.mp h
  exact ⟨there, by simpa using nonempty⟩

theorem tailscaleDevice_ok {capabilities : String} {device : PyStr}
    (h : door.tailscaleDevice here capabilities = .ok device) :
    GrantsDevice door here capabilities device ∧ device ≠ [] := by
  simp only [Door.tailscaleDevice, bind_ok, demand_ok, mapError_ok] at h
  obtain ⟨decoded, there, read, loaded, found, granted, named⟩ := h
  obtain ⟨grants, among, granted⟩ := Option.bind_eq_some_iff.mp granted
  obtain ⟨grant, first, granted⟩ := Option.bind_eq_some_iff.mp granted
  obtain ⟨text, nonempty⟩ := Option.filter_eq_some_iff.mp named
  have same : found = .str device := by
    cases found <;> simp_all [PyJson.str?]
  exact ⟨.mk decoded read grants grant there loaded among first (same ▸ granted),
    by simpa using nonempty⟩

theorem assertedSubject_ok (h : door.assertedSubject here headers = .ok subject) :
    Named door here headers subject := by
  unfold Door.assertedSubject at h
  split at h
  · rename_i channel
    obtain ⟨login, there, h⟩ := bind_ok.mp h
    obtain ⟨capabilities, there', h⟩ := bind_ok.mp h
    obtain ⟨device, named, h⟩ := bind_ok.mp h
    cases h
    obtain ⟨login, nonempty⟩ := present_ok (demand_ok.mp there)
    obtain ⟨grants, named⟩ := tailscaleDevice_ok named
    exact .tailscale _ capabilities device channel login (present_ok (demand_ok.mp there')).1 grants
      nonempty named
  · rw [refuse_bind] at h
    obtain ⟨channel, h⟩ := h
    obtain ⟨name, there, h⟩ := bind_ok.mp h
    obtain ⟨device, there', h⟩ := bind_ok.mp h
    cases h
    obtain ⟨name, nonempty⟩ := present_ok (demand_ok.mp there)
    obtain ⟨device, nonempty'⟩ := present_ok (demand_ok.mp there')
    exact .mgmt _ _ (not_not.mp channel) name device nonempty nonempty'

theorem expectedAssertion_ok {path expected : String}
    (h : Door.expectedAssertion here path = .ok expected) :
    ∃ secret, here.readText path = .ok secret ∧ expected = strip secret := by
  unfold Door.expectedAssertion at h
  split at h
  · rename_i secret read
    exact ⟨secret, read, (Except.ok.inj h).symm⟩
  · cases h
  · cases h

theorem legacy_endorsed {signed : List UInt8 → Prop} (unsigned : headers.xDeckhandIdentity = none)
    (allowed : door.allowLegacyProxyAssertion = true)
    (h : door.subjectFromLegacyHeaders here headers = .ok subject) :
    Endorsed door signed here headers subject := by
  simp only [Door.subjectFromLegacyHeaders, bind_ok, demand_ok, mapError_ok] at h
  obtain ⟨_, trusted, path, file, expected, read, assertion, carried, matched, compared, _, equal,
    h⟩ := h
  obtain ⟨secret, text, rfl⟩ := expectedAssertion_ok read
  obtain ⟨carried, nonempty⟩ := present_ok carried
  obtain rfl : matched = true := by simpa using refuse_ok.mp equal
  obtain ⟨rfl, -⟩ := compareDigest_true.mp compared
  exact .assertion path secret unsigned allowed (by simpa using refuse_ok.mp trusted) file text
    carried nonempty (assertedSubject_ok h)

theorem identityToken_ok {key : PublicKey} {token : String} {claims : IdentityClaims}
    (trusted : door.identityPublicKey = some key)
    (verified : verifyToken here.jsonDepth fromisoformat key (pyStr token) (utc here.now) =
      .ok claims) :
    door.subjectFromIdentityToken here token = .ok claims.toSubject := by
  simp only [Door.subjectFromIdentityToken, trusted, demand, ok_bind, verified]

theorem token_endorsed {signed : List UInt8 → Prop} {token : String}
    (carried : headers.xDeckhandIdentity = some token)
    (only : ∀ key, door.identityPublicKey = some key →
      ∀ signature material, key.verify signature material = true → signed material)
    (h : door.subjectFromIdentityToken here token = .ok subject) :
    Endorsed door signed here headers subject := by
  simp only [Door.subjectFromIdentityToken, bind_ok, demand_ok] at h
  obtain ⟨key, trusted, h⟩ := h
  split at h
  · rename_i claims verified
    cases h
    have accepted := verifyToken_ok verified
    obtain ⟨envelope, read, name, device, channel, -, verifies⟩ := accepted.envelope
    exact .token token envelope claims.issuedAt.instant claims.expiresAt.instant claims.nonce
      carried
      read name device channel (only key trusted envelope.signature _ verifies) accepted.channel
      accepted.lifetime (by simpa [utc, Aware.instant] using accepted.early)
      (by simpa [utc, Aware.instant] using accepted.late)
  · cases h
  · cases h
  · cases h

theorem authenticated_endorsed {signed : List UInt8 → Prop}
    (only : ∀ key, door.identityPublicKey = some key →
      ∀ signature material, key.verify signature material = true → signed material)
    (h : door.authenticatedSubject here headers = .ok subject) :
    Endorsed door signed here headers subject := by
  unfold Door.authenticatedSubject at h
  split at h
  · rename_i carried
    exact token_endorsed carried only h
  · rename_i unsigned
    rw [refuse_bind, refuse_bind] at h
    obtain ⟨-, allowed, h⟩ := h
    exact legacy_endorsed unsigned (by simpa using allowed) h

end Admission

def Client.asker : Client → Option Subject
  | .canceller _ subject => some subject
  | .plan _ _ subject => some subject
  | .execute _ _ subject => some subject
  | .cancelConfirmation _ subject => some subject
  | _ => none

/-- Jobs come in through the API, and requests to the API through the door. -/
structure Identified (door : Door) (arrival : Nat → Surroundings × IdentityHeaders)
    (started : Nat → Option Client) : Prop where
  fronted : Fronted started
  asked : ∀ i client subject, started i = some client → client.asker = some subject →
    door.authenticatedSubject (arrival i).1 (arrival i).2 = .ok subject

theorem Canceller.Viewed.owned {σ : Type} {jobId : String} {subject : Subject}
    {es : List (Event σ Op.Note Op.Ret)} {job : JobView} {request : ActionRequest}
    (h : Canceller.Viewed jobId subject es job request) : ∃ c ∈ es, ∃ owner,
      c.Answered (.store (.getJobContext jobId)) (.ok (request, owner)) ∧
        owner.name = subject.name ∧ owner.device = subject.device := by
  cases h with
  | first g c _ _ owned =>
    obtain ⟨owner, context⟩ := owned.context
    exact ⟨c, by simp, owner, context⟩
  | again g c t g' queued _ _ message owned =>
    obtain ⟨owner, context⟩ := owned.context
    exact ⟨c, by simp, owner, context⟩

section Run
variable {rt : Runtime} {env : Environment} {started : Nat → Option Client} {log : BrokerLog}
  {db : DB}

theorem context_owner (run : rt.Run env started log db) {g : BrokerEvent} (member : g ∈ log)
    {j : String} {request : ActionRequest} {owner : Subject}
    (context : g.Answered (.store (.getJobContext j)) (.ok (request, owner))) {row : JobRow}
    (here : db.job? j = some row) : row.subject = owner := by
  obtain ⟨row₀, found, -, owned⟩ := answered_context (run.trace.valid member) context
  obtain ⟨row', now, same⟩ := seen_persists run.trace member found
  obtain rfl : row' = row := Option.some.inj (now.symm.trans here)
  simp only [JobRow.identity, Prod.mk.injEq] at same
  rw [same.2.2.2.2.1, owned]

theorem cancel_owned {a b : BrokerLog} {e : BrokerEvent} {name j : String}
    {action : ActionDefinition} {request : ActionRequest} {x : Option AdapterExecution}
    {row : JobRow} (run : rt.Run env started (a ++ e :: b) db)
    (asks : e.op = .adapter name (.cancel action request x))
    (here : e.pre.job? j = some row) (same : row.request = request) :
    ∃ jobId asker, started e.caller = some (.canceller jobId asker) ∧
      row.subject.name = asker.name ∧ row.subject.device = asker.device := by
  obtain ⟨client, origin, site⟩ := run_site run
  obtain ⟨jobId, asker, brief, rfl, briefed, rfl, -⟩ := site_cancel (asks ▸ site)
  obtain ⟨g, member, owner, context, name, device⟩ := briefed.viewed.owned
  have among := (mem_of_localOf member).1
  obtain rfl := job_of_context run.until among context here same
  rw [context_owner run.until among context here]
  exact ⟨jobId, asker, origin, name, device⟩

end Run

/-- In every run, what an adapter is asked to do about a job goes back to a request of somebody who
was endorsed at that time; and it is cancelled only for somebody endorsed as the same name and
device. -/
theorem endorsed_before_worked (door : Door) (signed : List UInt8 → Prop)
    (only : ∀ key, door.identityPublicKey = some key →
      ∀ signature material, key.verify signature material = true → signed material)
    (arrival : Nat → Surroundings × IdentityHeaders) (rt : Runtime) (c : BrokerConfig)
    (h : rt.Reachable .governed c) (identified : Identified door arrival c.started) :
    ∀ a e b name op action request, c.log = a ++ e :: b → e.op = .adapter name op →
      op.work = some (action, request) →
      ∃ x i y j actionId submitted subject, a = x ++ i :: y ∧
        c.started i.caller = some (.execute actionId submitted subject) ∧ Inserts j i ∧
        request = submitted.modelDumpJson ∧
        Granted rt action submitted subject (localOf i.caller x) ∧
        Endorsed door signed (arrival i.caller).1 (arrival i.caller).2 subject ∧
        ∀ execution, op = .cancel action request execution → ∃ jobId asker,
          c.started e.caller = some (.canceller jobId asker) ∧
          Endorsed door signed (arrival e.caller).1 (arrival e.caller).2 asker ∧
          asker.name = subject.name ∧ asker.device = subject.device := by
  intro a e b name op action request whole asks work
  have run := reachable_run h
  rw [whole] at run
  obtain ⟨x, i, y, j, actionId, submitted, subject, rfl, origin, inserts, same, granted⟩ :=
    work_granted run identified.fronted asks work
  refine ⟨x, i, y, j, actionId, submitted, subject, rfl, origin, inserts, same, granted,
    authenticated_endorsed only (identified.asked _ _ _ origin rfl), ?_⟩
  rintro execution rfl
  -- the job's row at the cancellation is the one that the request inserted
  have before := run.until
  obtain ⟨client, origin', site⟩ := run_site before
  obtain rfl := Option.some.inj (origin.symm.trans origin')
  obtain ⟨row, now⟩ := Option.isSome_iff_exists.mp inserts.2
  have queued : row.request = submitted.modelDumpJson ∧ row.subject = subject := by
    obtain ⟨_, _, move⟩ := moved_row before.valid j
    rw [inserts.1, now] at move
    cases move with
    | created o request' subject' events answered =>
      rcases site_create (answered.op_eq ▸ site) with client | ⟨_, client⟩
      · cases client
      · cases client
        exact ⟨rfl, rfl⟩
  obtain ⟨row', later, kept⟩ := row_persists before.trace.split.2.2 now
  have submitted' : row'.request = request :=
    ((same_identity kept).2.2.trans queued.1).trans same.symm
  obtain ⟨jobId, asker, cancels, name', device⟩ := cancel_owned run asks later submitted'
  simp only [JobRow.identity, Prod.mk.injEq] at kept
  have owner : row'.subject = subject := kept.2.2.2.2.1.trans queued.2
  rw [owner] at name' device
  exact ⟨jobId, asker, cancels, authenticated_endorsed only (identified.asked _ _ _ cancels rfl),
    name'.symm, device.symm⟩

namespace Sample

def operatorToken : String := tokenText (rawToken (pyStr "operator"))

theorem operatorToken_raw : pyStr operatorToken = rawToken (pyStr "operator") :=
  tokenText_b64u _

/-- A door for tokens only, with a key that was used once. -/
def signedDoor : Door where
  identityPublicKey := some (signedOnce (materialFor (pyStr "operator")))

def arrived (_ : Nat) : Surroundings × IdentityHeaders :=
  (⟨midnight, fun _ => .error .osError, fun _ => none, 1000, by decide⟩,
    { xDeckhandIdentity := some operatorToken })

theorem operatorToken_verified :
    verifyToken 1000 fromisoformat (signedOnce (materialFor (pyStr "operator")))
      (pyStr operatorToken) (utc midnight) = .ok (claimsFor (pyStr "operator")) := by
  rw [operatorToken_raw]
  exact rawToken_accepted (by decide) rfl

theorem arrived_subject (i : Nat) :
    signedDoor.authenticatedSubject (arrived i).1 (arrived i).2 = .ok subject := by
  have named : (claimsFor (pyStr "operator")).toSubject = subject := by decide +kernel
  have admitted : signedDoor.subjectFromIdentityToken (arrived i).1 operatorToken =
      .ok (claimsFor (pyStr "operator")).toSubject := identityToken_ok rfl operatorToken_verified
  exact admitted.trans (congrArg Except.ok named)

/-- The worker has executed the approved job, and its owner has it cancelled. -/
def withdrawn : List Turn :=
  mediated ++ [.start (.canceller "job_e" subject), .store 3 (oracle 11 "h"),
    .store 3 (oracle 12 "i"), .adapter 3 fun op => ([], healthy op)]

theorem withdrawn_identified {rt : Runtime} {c : BrokerConfig} (h : rt.played withdrawn = some c) :
    Identified signedDoor arrived c.started := by
  have clients : ∀ i client, c.started i = some client →
      client ∈ withdrawn.filterMap Turn.client := by
    intro i client origin
    rw [played_started h] at origin
    exact List.mem_of_getElem? origin
  constructor
  · intro i request subject origin
    have member := clients i _ origin
    simp [withdrawn, mediated, approved, Turn.client] at member
  · intro i client asker origin asks
    have member := clients i _ origin
    simp only [withdrawn, mediated, approved, Turn.client, List.filterMap_append,
      List.filterMap_cons, List.filterMap_nil, List.mem_append, List.mem_cons] at member
    have operator : asker = subject := by
      rcases member with ((rfl | rfl | none) | (rfl | none)) | (rfl | none)
      · exact (Option.some.inj asks).symm
      · exact (Option.some.inj asks).symm
      · cases none
      · cases asks
      · cases none
      · exact (Option.some.inj asks).symm
      · cases none
    exact operator ▸ arrived_subject i

end Sample

open Sample in
theorem endorsed_before_worked_withdrawn : ∃ c,
    (runtime .confirm).played withdrawn = some c ∧ c.log.length = 14 ∧
    ∀ a e b name op action request, c.log = a ++ e :: b → e.op = .adapter name op →
      op.work = some (action, request) →
      ∃ i ∈ a, ∃ actionId submitted,
        c.started i.caller = some (.execute actionId submitted subject) ∧
        Endorsed signedDoor (fun material => material = materialFor (pyStr "operator"))
          (arrived i.caller).1 (arrived i.caller).2 subject := by
  have outcome : ((runtime .confirm).played withdrawn).map (fun c => c.log.length) = some 14 := by
    decide +kernel
  obtain ⟨c, played, length⟩ := Option.map_eq_some_iff.mp outcome
  have only : ∀ key, signedDoor.identityPublicKey = some key → ∀ signature material,
      key.verify signature material = true → material = materialFor (pyStr "operator") := by
    rintro _ ⟨⟩ signature material verified
    exact of_decide_eq_true (Bool.and_eq_true_iff.mp verified).2
  have identified := withdrawn_identified played
  refine ⟨c, played, length, fun a e b name op action request whole asks work => ?_⟩
  obtain ⟨x, i, y, j, actionId, submitted, asker, rfl, origin, -, -, -, endorsed, -⟩ :=
    endorsed_before_worked signedDoor (fun material => material = materialFor (pyStr "operator"))
      only arrived (runtime .confirm) c (played_reachable (allowed_governed withdrawn) played)
        identified
      a e b name op action request whole asks work
  have operator : asker = subject := by
    have asked := identified.asked _ _ _ origin rfl
    rw [arrived_subject] at asked
    exact (Except.ok.inj asked).symm
  subst operator
  exact ⟨i, by simp, actionId, submitted, origin, endorsed⟩

end Deckhand
