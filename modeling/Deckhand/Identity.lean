import Deckhand.Lib.Base64
import Deckhand.Lib.Calendar
import Deckhand.Lib.Checks
import Deckhand.Lib.IsoFormat
import Deckhand.Lib.PyWrite

namespace Deckhand
open Lib

def identityDomain : List UInt8 := encodeUtf8 (pyStr "deckhand-identity-v1")

def allowedChannels : List PyStr := [pyStr "tailscale", pyStr "mgmt-mtls", pyStr "mcp"]

def maxTtlSeconds : Int := 300

def maxClockSkewSeconds : Int := 30

inductive IdentityExn where
  | identityError (message : String)
  | unknownChannel (channel : PyStr)
  | overflowError
  | recursionError
  deriving DecidableEq

/-- An aware datetime: what its clock shows, and how far that clock is ahead of UTC. -/
structure Aware where
  wall : Int
  offset : Int
  deriving DecidableEq

def Aware.instant (d : Aware) : Int := d.wall - d.offset

def utc (t : Int) : Aware := ⟨t, 0⟩

/-- `d + timedelta(seconds=s)` -/
def Aware.plus (d : Aware) (seconds : Int) : Except IdentityExn Aware := do
  let wall := Timestamp.addSeconds d.wall seconds
  refuse (¬ Timestamp.InRange wall) .overflowError
  return { d with wall }

/-- `d.astimezone(UTC)` -/
def Aware.astimezone (d : Aware) : Except IdentityExn Int := do
  refuse (¬ Timestamp.InRange d.instant) .overflowError
  return d.instant

structure PrivateKey where
  sign : List UInt8 → List UInt8

structure PublicKey where
  verify : List UInt8 → List UInt8 → Bool

/-- A pair of keys: what the one signs the other verifies. -/
structure KeyPair where
  privateKey : PrivateKey
  publicKey : PublicKey
  correct : ∀ material, publicKey.verify (privateKey.sign material) material = true

structure IdentityClaims where
  subject : PyStr
  device : PyStr
  channel : PyStr
  issuedAt : Aware
  expiresAt : Aware
  nonce : PyStr
  deriving DecidableEq

/-- `datetime.isoformat` of a UTC datetime. -/
def isoText (t : Int) : PyStr := pyStr (Timestamp.isoformat t)

/-- `json.dumps(d, sort_keys=True, separators=(",", ":"))` of a dict of strings. -/
def dumpsSorted (members : List (PyStr × PyStr)) : PyStr :=
  let sorted := members.insertionSort fun a b => a.1 ≤ b.1
  (PyJson.obj (sorted.map fun m => (m.1, .str m.2))).write escapeAscii

def strObject (members : List (PyStr × PyStr)) : PyJson :=
  .obj (members.map fun m => (m.1, .str m.2))

/-- `json.dumps(d, separators=(",", ":"))` -/
def dumpsCompact (members : List (PyStr × PyStr)) : PyStr := (strObject members).write escapeAscii

/-- The bytes that are signed, for instants in UTC. -/
def canonicalClaims (subject device channel : PyStr) (issuedAt expiresAt : Int) (nonce : PyStr) :
    List UInt8 :=
  identityDomain ++ 0x1f :: encodeUtf8 (dumpsSorted
    [(pyStr "subject", subject), (pyStr "device", device), (pyStr "channel", channel),
      (pyStr "issued_at", isoText issuedAt), (pyStr "expires_at", isoText expiresAt),
      (pyStr "nonce", nonce)])

/-- The claims and the signature, in the order in which both issuers write them. -/
def envelopeMembers (subject device channel : PyStr) (issuedAt expiresAt : Int)
    (nonce signature : PyStr) : List (PyStr × PyStr) :=
  [(pyStr "subject", subject), (pyStr "device", device), (pyStr "channel", channel),
    (pyStr "issued_at", isoText issuedAt), (pyStr "expires_at", isoText expiresAt),
    (pyStr "nonce", nonce), (pyStr "sig", signature)]

def mintToken (privateKey : PrivateKey) (subject device channel nonce : PyStr) (ttlSeconds : Int)
    (now : Int) : Except IdentityExn PyStr := do
  refuse (channel ∉ allowedChannels) (.unknownChannel channel)
  refuse (subject = [] ∨ device = [] ∨ nonce = [])
    (.identityError "subject, device, and nonce are required")
  refuse (ttlSeconds ≤ 0 ∨ maxTtlSeconds < ttlSeconds)
    (.identityError "ttl_seconds must be in (0, 300]")
  let expiresAt ← (utc now).plus ttlSeconds
  let material := canonicalClaims subject device channel now expiresAt.wall nonce
  let signature := privateKey.sign material
  return b64uEncode (encodeUtf8 (dumpsCompact
    (envelopeMembers subject device channel now expiresAt.wall nonce (b64uEncode signature))))

/-- What the token says, before anything of it is believed. -/
structure Envelope where
  subject : PyJson
  device : PyJson
  channel : PyJson
  issuedAt : PyJson
  expiresAt : PyJson
  nonce : PyJson
  signature : List UInt8

/-- `json.loads` of the decoded token, in which objects and lists nest up to `depth` deep. -/
def loadToken (depth : Nat) (token : PyStr) : Except IdentityExn PyJson :=
  let undecodable := IdentityExn.identityError "identity token is not decodable"
  match (b64uDecode token).map (PyJson.loadBytes depth) with
  | none => .error undecodable
  | some (.ok envelope) => .ok envelope
  -- only a ValueError is caught
  | some (.error e) => .error (if e.isValueError then undecodable else .recursionError)

def readEnvelope (depth : Nat) (token : PyStr) : Except IdentityExn Envelope := do
  let envelope ← loadToken depth token
  let members ← demand envelope.members? (.identityError "identity token envelope malformed")
  let missing := IdentityExn.identityError "identity token missing required fields"
  let subject ← demand (pyGet members "subject") missing
  let device ← demand (pyGet members "device") missing
  let channel ← demand (pyGet members "channel") missing
  let issuedAt ← demand (pyGet members "issued_at") missing
  let expiresAt ← demand (pyGet members "expires_at") missing
  let nonce ← demand (pyGet members "nonce") missing
  let signature ← demand (((pyGet members "sig").bind PyJson.str?).bind b64uDecode) missing
  return { subject, device, channel, issuedAt, expiresAt, nonce, signature }

def nonemptyText (v : PyJson) : Except IdentityExn PyStr :=
  demand (v.str?.filter fun s => s ≠ [])
    (.identityError "identity token fields must be non-empty strings")

/-- `fromisoformat` gives what the clock shows and the offset, if the text has one. -/
def awareTime (fromisoformat : PyStr → Option (Int × Option Int)) (v : PyJson) :
    Except IdentityExn (Int × Option Int) :=
  demand (v.str?.bind fromisoformat) (.identityError "identity token timestamps malformed")

/-- A token that passed every check that comes before its signature and its window. -/
structure Unverified where
  subject : PyStr
  device : PyStr
  channel : PyStr
  issuedAt : Aware
  expiresAt : Aware
  nonce : PyStr
  signature : List UInt8
  deriving DecidableEq

def Unverified.claims (u : Unverified) : IdentityClaims :=
  ⟨u.subject, u.device, u.channel, u.issuedAt, u.expiresAt, u.nonce⟩

def readToken (depth : Nat) (fromisoformat : PyStr → Option (Int × Option Int)) (token : PyStr) :
    Except IdentityExn Unverified := do
  let envelope ← readEnvelope depth token
  let subject ← nonemptyText envelope.subject
  let device ← nonemptyText envelope.device
  let channel ← nonemptyText envelope.channel
  let nonce ← nonemptyText envelope.nonce
  refuse (channel ∉ allowedChannels) (.identityError "identity token names an unknown channel")
  let issued ← awareTime fromisoformat envelope.issuedAt
  let expires ← awareTime fromisoformat envelope.expiresAt
  let naive := IdentityExn.identityError "identity token timestamps must be timezone-aware"
  let issuedOffset ← demand issued.2 naive
  let expiresOffset ← demand expires.2 naive
  return { subject, device, channel, issuedAt := ⟨issued.1, issuedOffset⟩,
           expiresAt := ⟨expires.1, expiresOffset⟩, nonce, signature := envelope.signature }

/-- The signature, and the window around the current time. -/
def checkToken (publicKey : PublicKey) (u : Unverified) (now : Aware) :
    Except IdentityExn IdentityClaims := do
  let issuedUtc ← u.issuedAt.astimezone
  let expiresUtc ← u.expiresAt.astimezone
  let material := canonicalClaims u.subject u.device u.channel issuedUtc expiresUtc u.nonce
  refuse (publicKey.verify u.signature material = false)
    (.identityError "identity token signature invalid")
  let current ← now.astimezone
  let earliest ← u.issuedAt.plus (- maxClockSkewSeconds)
  refuse (current < earliest.instant) (.identityError "identity token not yet valid")
  let latest ← u.expiresAt.plus maxClockSkewSeconds
  refuse (latest.instant < current) (.identityError "identity token expired")
  refuse ((maxTtlSeconds + maxClockSkewSeconds) * 1000000 < u.expiresAt.instant -
      u.issuedAt.instant)
    (.identityError "identity token lifetime exceeds policy")
  return u.claims

def verifyToken (depth : Nat) (fromisoformat : PyStr → Option (Int × Option Int))
    (publicKey : PublicKey) (token : PyStr) (now : Aware) : Except IdentityExn IdentityClaims := do
  let u ← readToken depth fromisoformat token
  checkToken publicKey u now

/-- The fields of a signed identity in the order in which they are written. -/
def signedFields (subject device channel : PyStr) (issuedAt expiresAt : Int) (nonce : PyStr) :
    List (PyStr × PyStr) :=
  [(pyStr "channel", channel), (pyStr "device", device), (pyStr "expires_at", isoText expiresAt),
    (pyStr "issued_at", isoText issuedAt), (pyStr "nonce", nonce), (pyStr "subject", subject)]

theorem canonicalClaims_text (subject device channel : PyStr) (issuedAt expiresAt : Int)
    (nonce : PyStr) : canonicalClaims subject device channel issuedAt expiresAt nonce =
      identityDomain ++ 0x1f :: encodeUtf8 (codePoint '\x7b' :: (comma.intercalate
        ((signedFields subject device channel issuedAt expiresAt nonce).map textMember) ++
          [codePoint '\x7d'])) := by
  have sorted : dumpsSorted [(pyStr "subject", subject), (pyStr "device", device),
      (pyStr "channel", channel), (pyStr "issued_at", isoText issuedAt),
      (pyStr "expires_at", isoText expiresAt), (pyStr "nonce", nonce)] =
      (PyJson.obj ((signedFields subject device channel issuedAt expiresAt nonce).map
        fun m => (m.1, .str m.2))).write escapeAscii := rfl
  rw [canonicalClaims, sorted, PyJson.write, writeMembers_text]
  rfl

theorem isoText_joined (t : Int) : join (isoText t) = isoText t :=
  join_of_joined (pyStr_joined _)

theorem isoText_injective {s t : Int} (hs : Timestamp.InRange s) (ht : Timestamp.InRange t)
    (same : isoText s = isoText t) : s = t :=
  isoformat_injective hs ht (pyStr_injective same)

/-- Two identities are signed alike exactly when their texts agree once surrogates are joined
and their instants are the same. -/
theorem canonicalClaims_iff {subject device channel nonce : PyStr} {issuedAt expiresAt : Int}
    {subject' device' channel' nonce' : PyStr} {issuedAt' expiresAt' : Int}
    (issued : Timestamp.InRange issuedAt) (expires : Timestamp.InRange expiresAt)
    (issued' : Timestamp.InRange issuedAt') (expires' : Timestamp.InRange expiresAt') :
    canonicalClaims subject device channel issuedAt expiresAt nonce =
        canonicalClaims subject' device' channel' issuedAt' expiresAt' nonce' ↔
      join subject = join subject' ∧ join device = join device' ∧ join channel = join channel' ∧
        issuedAt = issuedAt' ∧ expiresAt = expiresAt' ∧ join nonce = join nonce' := by
  have keys : (signedFields subject device channel issuedAt expiresAt nonce).map Prod.fst =
      (signedFields subject' device' channel' issuedAt' expiresAt' nonce').map Prod.fst := by
    simp only [signedFields, List.map_cons, List.map_nil]
  have texts := texts_iff keys [codePoint '\x7d']
  simp only [signedFields, List.map_cons, List.map_nil, List.cons.injEq, isoText_joined, and_true]
    at texts
  rw [canonicalClaims_text, canonicalClaims_text]
  constructor
  · intro same
    have written := encodeUtf8_injective (List.cons.inj (List.append_cancel_left same)).2
    obtain ⟨channel, device, expiry, issue, nonce, subject⟩ := texts.mp (List.cons.inj written).2
    exact ⟨subject, device, channel, isoText_injective issued issued' issue,
      isoText_injective expires expires' expiry, nonce⟩
  · rintro ⟨subject, device, channel, rfl, rfl, nonce⟩
    have written := texts.mpr ⟨channel, device, rfl, rfl, nonce, subject⟩
    exact congrArg (fun text => identityDomain ++ 0x1f :: encodeUtf8 (codePoint '\x7b' :: text))
      written

def IdentityClaims.material (c : IdentityClaims) : List UInt8 :=
  canonicalClaims c.subject c.device c.channel c.issuedAt.instant c.expiresAt.instant c.nonce

/-- What acceptance means, in the order in which it is checked. -/
structure Accepted (depth : Nat) (publicKey : PublicKey) (token : PyStr) (now : Int)
    (claims : IdentityClaims) : Prop where
  envelope : ∃ e, readEnvelope depth token = .ok e ∧ e.subject = .str claims.subject ∧
    e.device = .str claims.device ∧ e.channel = .str claims.channel ∧
    e.nonce = .str claims.nonce ∧ publicKey.verify e.signature claims.material = true
  channel : claims.channel ∈ allowedChannels
  issued : Timestamp.InRange claims.issuedAt.instant
  expires : Timestamp.InRange claims.expiresAt.instant
  early : claims.issuedAt.instant - 30000000 ≤ now
  late : now ≤ claims.expiresAt.instant + 30000000
  lifetime : claims.expiresAt.instant - claims.issuedAt.instant ≤ 330000000

theorem nonemptyText_ok {v : PyJson} {s : PyStr} (h : nonemptyText v = .ok s) :
    v = .str s ∧ s ≠ [] := by
  obtain ⟨text, nonempty⟩ := Option.filter_eq_some_iff.mp (demand_ok.mp h)
  cases v <;> simp_all [PyJson.str?]

theorem astimezone_ok {d : Aware} {t : Int} (h : d.astimezone = .ok t) :
    t = d.instant ∧ Timestamp.InRange d.instant := by
  simp only [Aware.astimezone, bind_ok, refuse_ok, not_not, pure_ok] at h
  obtain ⟨-, range, same⟩ := h
  exact ⟨same.symm, range⟩

theorem plus_ok {d e : Aware} {seconds : Int} (h : d.plus seconds = .ok e) :
    e.instant = d.instant + seconds * 1000000 := by
  simp only [Aware.plus, bind_ok, refuse_ok, pure_ok] at h
  obtain ⟨-, -, rfl⟩ := h
  simp only [Aware.instant, Timestamp.addSeconds]
  omega

theorem readToken_ok {depth : Nat} {fromisoformat : PyStr → Option (Int × Option Int)}
    {token : PyStr} {u : Unverified} (h : readToken depth fromisoformat token = .ok u) :
    u.channel ∈ allowedChannels ∧ ∃ e, readEnvelope depth token = .ok e ∧
      e.subject = .str u.subject ∧ e.device = .str u.device ∧ e.channel = .str u.channel ∧
      e.nonce = .str u.nonce ∧ e.signature = u.signature := by
  simp only [readToken, bind_ok, refuse_ok, demand_ok, pure_ok] at h
  obtain ⟨e, read, subject, hs, device, hd, channel, hc, nonce, hn, -, allowed, issued, -, expires,
    -, issuedOffset, -, expiresOffset, -, rfl⟩ := h
  exact ⟨not_not.mp allowed, e, read, (nonemptyText_ok hs).1, (nonemptyText_ok hd).1,
    (nonemptyText_ok hc).1, (nonemptyText_ok hn).1, rfl⟩

theorem checkToken_ok {publicKey : PublicKey} {u : Unverified} {now : Aware}
    {claims : IdentityClaims} (h : checkToken publicKey u now = .ok claims) :
    claims = u.claims ∧ Timestamp.InRange u.issuedAt.instant ∧
      Timestamp.InRange u.expiresAt.instant ∧
      publicKey.verify u.signature u.claims.material = true ∧
      u.issuedAt.instant - 30000000 ≤ now.instant ∧ now.instant ≤ u.expiresAt.instant + 30000000 ∧
      u.expiresAt.instant - u.issuedAt.instant ≤ 330000000 := by
  simp only [checkToken, bind_ok, refuse_ok, pure_ok] at h
  obtain ⟨issuedUtc, issuedZone, expiresUtc, expiresZone, -, verified, current, currentZone,
    earliest, shifted, -, early, latest, shifted', -, late, -, lifetime, rfl⟩ := h
  obtain ⟨rfl, issuedRange⟩ := astimezone_ok issuedZone
  obtain ⟨rfl, expiresRange⟩ := astimezone_ok expiresZone
  obtain ⟨rfl, -⟩ := astimezone_ok currentZone
  have start := plus_ok shifted
  have finish := plus_ok shifted'
  simp only [maxClockSkewSeconds] at start finish
  simp only [maxTtlSeconds, maxClockSkewSeconds] at lifetime
  refine ⟨rfl, issuedRange, expiresRange, ?_, by omega, by omega, by omega⟩
  simpa [IdentityClaims.material, Unverified.claims] using verified

theorem verifyToken_ok {depth : Nat} {fromisoformat : PyStr → Option (Int × Option Int)}
    {publicKey : PublicKey} {token : PyStr} {now : Aware} {claims : IdentityClaims}
    (h : verifyToken depth fromisoformat publicKey token now = .ok claims) :
    Accepted depth publicKey token now.instant claims := by
  obtain ⟨u, read, checked⟩ := bind_ok.mp h
  obtain ⟨allowed, e, envelope, subject, device, channel, nonce, signature⟩ := readToken_ok read
  obtain ⟨rfl, issued, expires, verified, early, late, lifetime⟩ := checkToken_ok checked
  rw [← signature] at verified
  exact ⟨⟨e, envelope, subject, device, channel, nonce, verified⟩, allowed, issued, expires, early,
    late, lifetime⟩

theorem plus_utc {t seconds : Int} (range : Timestamp.InRange (t + seconds * 1000000)) :
    (utc t).plus seconds = .ok (utc (t + seconds * 1000000)) := by
  simp only [Aware.plus, bind_ok, refuse_ok, pure_ok, not_not]
  exact ⟨(), range, rfl⟩

theorem astimezone_utc {t : Int} (range : Timestamp.InRange t) :
    Aware.astimezone ⟨t, 0⟩ = .ok t := by
  simp only [Aware.astimezone, bind_ok, refuse_ok, pure_ok, not_not]
  simpa [Aware.instant] using range

theorem readToken_read {depth : Nat} {fromisoformat : PyStr → Option (Int × Option Int)}
    {token subject device channel nonce issued expires : PyStr} {signature : List UInt8} {t x : Int}
    (read : readEnvelope depth token = .ok ⟨.str subject, .str device, .str channel, .str issued,
      .str expires, .str nonce, signature⟩)
    (nonempty : subject ≠ [] ∧ device ≠ [] ∧ nonce ≠ []) (allowed : channel ∈ allowedChannels)
    (parsed : fromisoformat issued = some (t, some 0) ∧
      fromisoformat expires = some (x, some 0)) :
    readToken depth fromisoformat token =
      .ok ⟨subject, device, channel, utc t, utc x, nonce, signature⟩ := by
  obtain ⟨hs, hd, hn⟩ := nonempty
  have hc : channel ≠ [] := by
    rintro rfl
    exact absurd allowed (by decide)
  have text : ∀ {s : PyStr}, s ≠ [] → nonemptyText (.str s) = .ok s := by
    intro s full
    simp [nonemptyText, PyJson.str?, full]
  have times : awareTime fromisoformat (.str issued) = .ok (t, some 0) ∧
      awareTime fromisoformat (.str expires) = .ok (x, some 0) := by
    simp only [awareTime, PyJson.str?, Option.bind_some, parsed, demand, and_self]
  simp only [readToken, read, ok_bind, text hs, text hd, text hc, text hn, times, demand,
    refuse_bind, not_not, allowed, true_and]
  rfl

theorem verifyToken_read {depth : Nat} {fromisoformat : PyStr → Option (Int × Option Int)}
    {publicKey : PublicKey}
    {token subject device channel nonce issued expires : PyStr} {signature : List UInt8}
    {t x now : Int} {claims : IdentityClaims}
    (read : readEnvelope depth token = .ok ⟨.str subject, .str device, .str channel, .str issued,
      .str expires, .str nonce, signature⟩)
    (nonempty : subject ≠ [] ∧ device ≠ [] ∧ nonce ≠ []) (allowed : channel ∈ allowedChannels)
    (parsed : fromisoformat issued = some (t, some 0) ∧ fromisoformat expires = some (x, some 0))
    (start : Timestamp.InRange t ∧ Timestamp.InRange (t - 30000000))
    (finish : Timestamp.InRange x ∧ Timestamp.InRange (x + 30000000))
    (verified : publicKey.verify signature
      (canonicalClaims subject device channel t x nonce) = true) :
    verifyToken depth fromisoformat publicKey token (utc now) = .ok claims ↔
      t - 30000000 ≤ now ∧ now ≤ x + 30000000 ∧ x - t ≤ 330000000 ∧
        claims = ⟨subject, device, channel, utc t, utc x, nonce⟩ := by
  rw [verifyToken, readToken_read read nonempty allowed parsed, ok_bind]
  constructor
  · intro accepted
    obtain ⟨rfl, -, -, -, begun, unexpired, short⟩ := checkToken_ok accepted
    simp only [Aware.instant, utc] at begun unexpired short
    exact ⟨by omega, by omega, by omega, rfl⟩
  · rintro ⟨begun, unexpired, short, rfl⟩
    have current : Timestamp.InRange now := by
      obtain ⟨-, earliest⟩ := start
      obtain ⟨-, latest⟩ := finish
      unfold Timestamp.InRange at earliest latest ⊢
      omega
    simp only [checkToken, bind_ok, refuse_ok, pure_ok]
    refine ⟨t, astimezone_utc start.1, x, astimezone_utc finish.1, (), by simpa using verified,
      now, astimezone_utc current, utc (t - 30000000), plus_utc start.2, (), ?_,
      utc (x + 30000000), plus_utc finish.2, (), ?_, (), ?_, rfl⟩
    · simp only [Aware.instant, utc]
      omega
    · simp only [Aware.instant, utc]
      omega
    · simp only [Aware.instant, utc, maxTtlSeconds, maxClockSkewSeconds]
      omega

section Written
variable {escape : CodePoint → PyStr} {text : PyStr → Prop}
  {subject device channel nonce signature : PyStr} {issuedAt expiresAt : Int} {depth : Nat}

theorem strObject_depth (members : List (PyStr × PyStr)) : (strObject members).depth = 1 := by
  have flat : depthMembers (members.map fun m => (m.1, .str m.2)) = 0 := by
    induction members with
    | nil => rfl
    | cons m members ih =>
      rw [List.map_cons, depthMembers, ih]
      rfl
  rw [strObject, PyJson.depth, flat]

theorem loadBytes_object (reads : Reads escape text) {members : List (PyStr × PyStr)}
    (distinct : (members.map Prod.fst).Nodup) (texts : ∀ m ∈ members, text m.1 ∧ text m.2)
    (nests : 1 ≤ depth) :
    PyJson.loadBytes depth (encodeUtf8 ((strObject members).write escape)) =
      .ok (strObject members) := by
  have proper : (strObject members).Proper .default text := by
    constructor
    · apply ofPairs_distinct
      rw [List.map_map]
      exact distinct
    · clear distinct
      induction members with
      | nil => trivial
      | cons m members ih =>
        obtain ⟨key, value⟩ := texts m (by simp)
        exact ⟨key, value, ih fun x hx => texts x (by simp [hx])⟩
  exact loadBytes_write reads proper (by rwa [← strObject, strObject_depth])

theorem envelope_distinct : ((envelopeMembers subject device channel issuedAt expiresAt nonce
    signature).map Prod.fst).Nodup := by
  have keys : (envelopeMembers subject device channel issuedAt expiresAt nonce signature).map
      Prod.fst = ["subject", "device", "channel", "issued_at", "expires_at", "nonce", "sig"].map
        pyStr := by
    simp only [envelopeMembers, List.map_cons, List.map_nil]
  rw [keys, List.nodup_map_iff pyStr_injective]
  decide

theorem readEnvelope_written (reads : Reads escape text) (names : ∀ s : String, text (pyStr s))
    (texts : text subject ∧ text device ∧ text channel ∧ text nonce ∧ text signature)
    {raw : List UInt8} (signed : b64uDecode signature = some raw) (nests : 1 ≤ depth) :
    readEnvelope depth (b64uEncode (encodeUtf8 ((strObject (envelopeMembers subject device channel
        issuedAt expiresAt nonce signature)).write escape))) =
      .ok ⟨.str subject, .str device, .str channel, .str (isoText issuedAt),
        .str (isoText expiresAt), .str nonce, raw⟩ := by
  obtain ⟨hs, hd, hc, hn, hx⟩ := texts
  have loaded : PyJson.loadBytes depth (encodeUtf8 ((strObject (envelopeMembers subject device
      channel issuedAt expiresAt nonce signature)).write escape)) = .ok (strObject (envelopeMembers
        subject device channel issuedAt expiresAt nonce signature)) := by
    apply loadBytes_object reads envelope_distinct _ nests
    simp only [envelopeMembers, List.mem_cons, List.not_mem_nil, or_false, forall_eq_or_imp,
      forall_eq]
    exact ⟨⟨names _, hs⟩, ⟨names _, hd⟩, ⟨names _, hc⟩, ⟨names _, names _⟩, ⟨names _, names _⟩,
      ⟨names _, hn⟩, names _, hx⟩
  have signature_read : ((some (PyJson.str signature)).bind PyJson.str?).bind b64uDecode =
      some raw := signed
  simp only [readEnvelope, loadToken, b64u_round, Option.map_some, loaded, ok_bind]
  change (demand (((some (PyJson.str signature)).bind PyJson.str?).bind b64uDecode) _ >>= _) = _
  rw [signature_read]
  rfl

end Written

/-- A text that no other text is written like: nothing above U+FFFF, which is written as two
escapes, and no two surrogates that are written like it. -/
def PlainText (s : PyStr) : Prop := Joined s ∧ ∀ c ∈ s, c.val < 0x10000

theorem plainText_pyStr (s : String) (small : ∀ c ∈ s.toList, c.toNat < 0x10000) :
    PlainText (pyStr s) := by
  refine ⟨pyStr_joined s, fun c member => ?_⟩
  obtain ⟨d, hd, rfl⟩ := List.mem_map.mp member
  exact small d hd

theorem join_plain {s t : PyStr} (plain : ∀ c ∈ t, c.val < 0x10000) (same : join s = t) :
    s = t := by
  induction s using join.induct generalizing t with
  | case1 => exact same
  | case2 c => exact same
  | case3 c d rest together ih =>
    rw [join, if_pos together] at same
    have value := pair_val c d
    have small := plain (pair c d) (same ▸ List.mem_cons_self)
    omega
  | case4 c d rest apart ih =>
    rw [join, if_neg apart] at same
    subst same
    exact congrArg (c :: ·) (ih (fun x hx => plain x (by simp [hx])) rfl)

/-- The text with each code point above U+FFFF split into surrogates. -/
def split (s : PyStr) : PyStr :=
  s.flatMap fun c =>
    if c.val < 0x10000 then [c] else [Fin.ofNat _ (highOf c), Fin.ofNat _ (lowOf c)]

theorem split_small (s : PyStr) : ∀ c ∈ split s, c.val < 0x10000 := by
  intro c member
  obtain ⟨d, -, part⟩ := List.mem_flatMap.mp member
  obtain ⟨high, low⟩ := And.intro (highOf_lt d) (lowOf_lt d)
  split at part
  · rename_i small
    rw [List.mem_singleton.mp part]
    exact small
  · simp only [List.mem_cons, List.not_mem_nil, or_false] at part
    rcases part with rfl | rfl
    · exact (Nat.mod_le _ _).trans_lt (by omega)
    · exact (Nat.mod_le _ _).trans_lt (by omega)

theorem split_join (s : PyStr) : join (split s) = join s := by
  have written : (split s).flatMap escapeAscii = s.flatMap escapeAscii := by
    rw [split, List.flatMap_assoc]
    refine List.flatMap_congr fun c _ => ?_
    by_cases small : c.val < 0x10000
    · simp [small]
    · obtain ⟨high, low⟩ := And.intro (highOf_lt c) (lowOf_lt c)
      have first : (Fin.ofNat 0x110000 (highOf c)).val = highOf c := Nat.mod_eq_of_lt (by omega)
      have second : (Fin.ofNat 0x110000 (lowOf c)).val = lowOf c := Nat.mod_eq_of_lt (by omega)
      have surrogate : ∀ d : CodePoint, 0xd800 ≤ d.val ∧ d.val < 0xe000 → isSurrogate d = true := by
        intro d range
        simpa [isSurrogate] using range
      simp only [if_neg small, List.flatMap_cons, List.flatMap_nil, List.append_nil]
      rw [escapeAscii_surrogate (surrogate _ (by omega)),
        escapeAscii_surrogate (surrogate _ (by omega)), escapeAscii_large (by omega), first, second]
  have read := readString_ascii (split s) []
  rw [written, readString_ascii] at read
  exact (Prod.mk.inj (Option.some.inj read)).1.symm

theorem plainText_iff {s : PyStr} : PlainText s ↔ ∀ t, join t = join s → t = s := by
  constructor
  · rintro ⟨joined, small⟩ t same
    exact join_plain small (same.trans (join_of_joined joined))
  · intro only
    constructor
    · apply join_eq_iff.mp
      exact only (join s) (join_of_joined (join_joined s))
    · have same := only (split s) (split_join s)
      rw [← same]
      exact split_small s

/-- The signed bytes are those of the returned identity and of no other. -/
def Unambiguous (claims : IdentityClaims) : Prop :=
  ∀ subject device channel issuedAt expiresAt nonce,
    Timestamp.InRange issuedAt → Timestamp.InRange expiresAt →
    canonicalClaims subject device channel issuedAt expiresAt nonce = claims.material →
    subject = claims.subject ∧ device = claims.device ∧ channel = claims.channel ∧
      issuedAt = claims.issuedAt.instant ∧ expiresAt = claims.expiresAt.instant ∧
      nonce = claims.nonce

theorem unambiguous_iff {claims : IdentityClaims} (channel : claims.channel ∈ allowedChannels)
    (issued : Timestamp.InRange claims.issuedAt.instant)
    (expires : Timestamp.InRange claims.expiresAt.instant) :
    Unambiguous claims ↔
      PlainText claims.subject ∧ PlainText claims.device ∧ PlainText claims.nonce := by
  constructor
  · intro only
    have alike : ∀ subject device nonce, join subject = join claims.subject →
        join device = join claims.device → join nonce = join claims.nonce →
        subject = claims.subject ∧ device = claims.device ∧ nonce = claims.nonce := by
      intro subject device nonce hs hd hn
      have same : canonicalClaims subject device claims.channel claims.issuedAt.instant
          claims.expiresAt.instant nonce = claims.material :=
        (canonicalClaims_iff issued expires issued expires).mpr ⟨hs, hd, rfl, rfl, rfl, hn⟩
      obtain ⟨hs, hd, -, -, -, hn⟩ :=
        only subject device claims.channel _ _ nonce issued expires same
      exact ⟨hs, hd, hn⟩
    refine ⟨plainText_iff.mpr fun t same => ?_, plainText_iff.mpr fun t same => ?_,
      plainText_iff.mpr fun t same => ?_⟩
    · exact (alike t claims.device claims.nonce same rfl rfl).1
    · exact (alike claims.subject t claims.nonce rfl same rfl).2.1
    · exact (alike claims.subject claims.device t rfl rfl same).2.2
  · rintro ⟨hs, hd, hn⟩ subject device channel' issuedAt expiresAt nonce issued' expires' same
    have ascii : ∀ c ∈ allowedChannels, PlainText c := by
      intro c member
      simp only [allowedChannels, List.mem_cons, List.not_mem_nil, or_false] at member
      have small : (["tailscale", "mgmt-mtls", "mcp"].all fun s =>
          s.toList.all fun d => d.toNat < 0x10000) = true := by decide
      have plain : ∀ s ∈ ["tailscale", "mgmt-mtls", "mcp"], PlainText (pyStr s) := by
        intro s there
        apply plainText_pyStr s
        intro d hd
        exact of_decide_eq_true (List.all_eq_true.mp (List.all_eq_true.mp small s there) d hd)
      rcases member with rfl | rfl | rfl
      · exact plain "tailscale" (by simp)
      · exact plain "mgmt-mtls" (by simp)
      · exact plain "mcp" (by simp)
    obtain ⟨js, jd, jc, rfl, rfl, jn⟩ :=
      (canonicalClaims_iff issued' expires' issued expires).mp same
    exact ⟨plainText_iff.mp hs _ js, plainText_iff.mp hd _ jd,
      plainText_iff.mp (ascii _ channel) _ jc,
      rfl, rfl, plainText_iff.mp hn _ jn⟩

/-- The subject, the device and the nonce in the token are plain texts. -/
def TokenPlain (depth : Nat) (token : PyStr) : Prop :=
  ∀ e, readEnvelope depth token = .ok e → ∀ v ∈ [e.subject, e.device, e.nonce],
    ∀ s, v.str? = some s → PlainText s

/-- An accepted token is fresh and signed by the holder of the key, and it was signed for no
other identity exactly when its texts are plain. -/
theorem verified_identity (depth : Nat) (fromisoformat : PyStr → Option (Int × Option Int))
    (publicKey : PublicKey) (signed : List UInt8 → Prop)
    (unforgeable : ∀ signature material, publicKey.verify signature material = true →
      signed material)
    (token : PyStr) (now : Aware) (claims : IdentityClaims)
    (accepted : verifyToken depth fromisoformat publicKey token now = .ok claims) :
    signed claims.material ∧ claims.channel ∈ allowedChannels ∧
      claims.issuedAt.instant - 30000000 ≤ now.instant ∧
      now.instant ≤ claims.issuedAt.instant + 360000000 ∧
      (Unambiguous claims ↔ TokenPlain depth token) := by
  have checked := verifyToken_ok accepted
  obtain ⟨e, read, subject, device, -, nonce, verified⟩ := checked.envelope
  have late := checked.late
  have lifetime := checked.lifetime
  refine ⟨unforgeable _ _ verified, checked.channel, checked.early, by omega, ?_⟩
  rw [unambiguous_iff checked.channel checked.issued checked.expires]
  constructor
  · rintro ⟨hs, hd, hn⟩ e' read' v member s text
    obtain rfl : e = e' := Except.ok.inj (read.symm.trans read')
    rw [subject, device, nonce] at member
    simp only [List.mem_cons, List.not_mem_nil, or_false] at member
    rcases member with rfl | rfl | rfl
    · exact Option.some.inj text ▸ hs
    · exact Option.some.inj text ▸ hd
    · exact Option.some.inj text ▸ hn
  · intro plain
    have each := plain e read
    rw [subject, device, nonce] at each
    exact ⟨each (.str claims.subject) (by simp) _ rfl, each (.str claims.device) (by simp) _ rfl,
      each (.str claims.nonce) (by simp) _ rfl⟩

def midnight : Int := 1786665600000000

def minuteLater : Int := midnight + 60000000

def signedOnce (material : List UInt8) : PublicKey :=
  ⟨fun signature m => decide (signature = [1]) && decide (m = material)⟩

def materialFor (subject : PyStr) : List UInt8 :=
  canonicalClaims subject (pyStr "deck") (pyStr "tailscale") midnight minuteLater (pyStr "n1")

def rawToken (subject : PyStr) : PyStr :=
  b64uEncode (encodeUtf8 ((strObject (envelopeMembers subject (pyStr "deck") (pyStr "tailscale")
    midnight minuteLater (pyStr "n1") (pyStr "AQ"))).write escapeControl))

def claimsFor (subject : PyStr) : IdentityClaims :=
  ⟨subject, pyStr "deck", pyStr "tailscale", utc midnight, utc minuteLater, pyStr "n1"⟩

theorem rawToken_accepted {subject : PyStr} (nonempty : subject ≠ []) {material : List UInt8}
    (signed : materialFor subject = material) :
    verifyToken 1000 fromisoformat (signedOnce material) (rawToken subject) (utc midnight) =
      .ok (claimsFor subject) := by
  have read : readEnvelope 1000 (rawToken subject) = .ok ⟨.str subject, .str (pyStr "deck"),
      .str (pyStr "tailscale"), .str (isoText midnight), .str (isoText minuteLater),
      .str (pyStr "n1"), [1]⟩ :=
    readEnvelope_written reads_control (fun _ => trivial)
      ⟨trivial, trivial, trivial, trivial, trivial⟩ (by decide) (by decide)
  have verified : (signedOnce material).verify [1] (materialFor subject) = true := by
    simp [signedOnce, signed]
  refine (verifyToken_read read ⟨nonempty, by decide, by decide⟩ (by decide)
    ⟨fromisoformat_isoformat (by decide), fromisoformat_isoformat (by decide)⟩
    ⟨by decide, by decide⟩ ⟨by decide, by decide⟩ verified).mpr ?_
  exact ⟨by decide, by decide, by decide, rfl⟩

theorem verified_identity_alice :
    (claimsFor (pyStr "alice")).material = materialFor (pyStr "alice") ∧
      (Unambiguous (claimsFor (pyStr "alice")) ↔ TokenPlain 1000 (rawToken (pyStr "alice"))) := by
  have only : ∀ signature material,
      (signedOnce (materialFor (pyStr "alice"))).verify signature material = true →
        material = materialFor (pyStr "alice") := by
    intro signature material verified
    exact of_decide_eq_true (Bool.and_eq_true_iff.mp verified).2
  have checked := verified_identity 1000 fromisoformat
    (signedOnce (materialFor (pyStr "alice"))) (fun material =>
      material = materialFor (pyStr "alice"))
    only (rawToken (pyStr "alice")) (utc midnight) (claimsFor (pyStr "alice"))
    (rawToken_accepted (by decide) rfl)
  exact ⟨checked.1, checked.2.2.2.2⟩

def grin : PyStr := [Fin.ofNat _ 0x1f600]

def surrogates : PyStr := [Fin.ofNat _ 0xd83d, Fin.ofNat _ 0xde00]

/-- Only the identity of one code point was signed, and the one of two surrogates is accepted. -/
theorem signed_for_another :
    (∀ signature material, (signedOnce (materialFor grin)).verify signature material = true →
      material = materialFor grin) ∧
    verifyToken 1000 fromisoformat (signedOnce (materialFor grin)) (rawToken surrogates)
      (utc midnight) = .ok (claimsFor surrogates) ∧
    (claimsFor surrogates).subject ≠ grin ∧ ¬ Unambiguous (claimsFor surrogates) := by
  have alike : materialFor surrogates = materialFor grin :=
    (canonicalClaims_iff (by decide) (by decide) (by decide) (by decide)).mpr
      ⟨by decide, rfl, rfl, rfl, rfl, rfl⟩
  have other : surrogates ≠ grin := by decide
  refine ⟨?_, rawToken_accepted (by decide) alike, other, ?_⟩
  · intro signature material verified
    exact of_decide_eq_true (Bool.and_eq_true_iff.mp verified).2
  · intro only
    have same := only grin (pyStr "deck") (pyStr "tailscale") midnight minuteLater (pyStr "n1")
      (by decide) (by decide) alike.symm
    exact other same.1.symm

end Deckhand
