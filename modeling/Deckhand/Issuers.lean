import Deckhand.Identity

namespace Deckhand
open Lib

def issuerDomain : List UInt8 := encodeUtf8 (pyStr "deckhand-identity-v1")

structure IssuerSettings where
  subject : PyStr
  device : PyStr
  channel : PyStr
  tokenTtlSeconds : Int

structure Issued where
  token : PyStr
  expiresAt : PyStr

/-- `nonce` is the fresh `uuid4().hex`. -/
def mint (key : PrivateKey) (settings : IssuerSettings) (now : Int) (nonce : PyStr) :
    Except IdentityExn Issued := do
  let expires ← (utc now).plus settings.tokenTtlSeconds
  let claims := [(pyStr "subject", settings.subject), (pyStr "device", settings.device),
    (pyStr "channel", settings.channel), (pyStr "issued_at", isoText now),
    (pyStr "expires_at", isoText expires.wall), (pyStr "nonce", nonce)]
  let body := encodeUtf8 (dumpsSorted claims)
  let signature := key.sign (issuerDomain ++ 0x1f :: body)
  let envelope := claims ++ [(pyStr "sig", b64uEncode signature)]
  return { token := b64uEncode (encodeUtf8 (dumpsCompact envelope)),
           expiresAt := isoText expires.wall }

theorem mint_mintToken {key : PrivateKey} {subject device channel nonce : PyStr} {ttl now : Int}
    {token : PyStr} (minted : mintToken key subject device channel nonce ttl now = .ok token) :
    mint key ⟨subject, device, channel, ttl⟩ now nonce =
      .ok ⟨token, isoText (now + ttl * 1000000)⟩ := by
  simp only [mintToken, bind_ok, refuse_ok, pure_ok] at minted
  obtain ⟨-, -, -, -, -, -, expires, shifted, rfl⟩ := minted
  have until_then : expires = utc (now + ttl * 1000000) := by
    simp only [Aware.plus, bind_ok, refuse_ok, pure_ok] at shifted
    obtain ⟨-, -, rfl⟩ := shifted
    rfl
  simp only [mint, shifted, ok_bind]
  subst until_then
  rfl

section Agreement
variable {pair : KeyPair} {subject device nonce channel : PyStr} {ttl t u : Int} {depth : Nat}

/-- What both issuers write at `t`. -/
def mintedToken (pair : KeyPair) (subject device channel nonce : PyStr) (ttl t : Int) : PyStr :=
  b64uEncode (encodeUtf8 (dumpsCompact (envelopeMembers subject device channel t (t + ttl * 1000000)
    nonce (b64uEncode (pair.privateKey.sign
      (canonicalClaims subject device channel t (t + ttl * 1000000) nonce))))))

theorem mintToken_ok (pair : KeyPair) (allowed : channel ∈ allowedChannels)
    (nonempty : subject ≠ [] ∧ device ≠ [] ∧ nonce ≠ []) (life : 1 ≤ ttl ∧ ttl ≤ 300)
    (range : Timestamp.InRange (t + ttl * 1000000)) :
    mintToken pair.privateKey subject device channel nonce ttl t =
      .ok (mintedToken pair subject device channel nonce ttl t) := by
  obtain ⟨hs, hd, hn⟩ := nonempty
  have bounds : ¬ (ttl ≤ 0 ∨ maxTtlSeconds < ttl) := by
    simp only [maxTtlSeconds]
    omega
  simp only [mintToken, refuse_bind, not_not, plus_utc range, ok_bind, pure_ok, hs, hd, hn, bounds,
    or_self, not_false_eq_true, true_and]
  exact ⟨allowed, rfl⟩

theorem mintedToken_read (texts : Joined subject ∧ Joined device ∧ Joined channel ∧ Joined nonce)
    (nests : 1 ≤ depth) :
    readEnvelope depth (mintedToken pair subject device channel nonce ttl t) =
      .ok ⟨.str subject, .str device, .str channel, .str (isoText t),
        .str (isoText (t + ttl * 1000000)), .str nonce, pair.privateKey.sign
          (canonicalClaims subject device channel t (t + ttl * 1000000) nonce)⟩ := by
  obtain ⟨hs, hd, hc, hn⟩ := texts
  exact readEnvelope_written reads_ascii pyStr_joined ⟨hs, hd, hc, hn, b64uEncode_joined _⟩
    (b64u_round _) nests

theorem mintedToken_verified (allowed : channel ∈ allowedChannels)
    (texts : Joined subject ∧ Joined device ∧ Joined nonce)
    (nonempty : subject ≠ [] ∧ device ≠ [] ∧ nonce ≠ []) (life : 1 ≤ ttl ∧ ttl ≤ 300)
    (start : Timestamp.InRange (t - 30000000))
    (finish : Timestamp.InRange (t + ttl * 1000000 + 30000000)) (nests : 1 ≤ depth)
    {claims : IdentityClaims} :
    verifyToken depth fromisoformat pair.publicKey
        (mintedToken pair subject device channel nonce ttl t) (utc u) = .ok claims ↔
      t - 30000000 ≤ u ∧ u ≤ t + ttl * 1000000 + 30000000 ∧
        claims = ⟨subject, device, channel, utc t, utc (t + ttl * 1000000), nonce⟩ := by
  obtain ⟨hs, hd, hn⟩ := texts
  have hc : Joined channel := by
    simp only [allowedChannels, List.mem_cons, List.not_mem_nil, or_false] at allowed
    rcases allowed with rfl | rfl | rfl <;> exact pyStr_joined _
  have minted : Timestamp.InRange t := by
    unfold Timestamp.InRange at start finish ⊢
    omega
  have expired : Timestamp.InRange (t + ttl * 1000000) := by
    unfold Timestamp.InRange at start finish ⊢
    omega
  rw [verifyToken_read (mintedToken_read ⟨hs, hd, hc, hn⟩ nests) nonempty allowed
    ⟨fromisoformat_isoformat minted, fromisoformat_isoformat expired⟩ ⟨minted, start⟩
    ⟨expired, finish⟩ (pair.correct _)]
  have short : t + ttl * 1000000 - t ≤ 330000000 := by omega
  simp only [short, true_and]

end Agreement

theorem issuers_agree (pair : KeyPair) (subject device nonce : String) (channel : PyStr)
    (ttl t u : Int) (depth : Nat) (nonempty : subject ≠ "" ∧ device ≠ "" ∧ nonce ≠ "")
    (allowed : channel ∈ allowedChannels) (life : 1 ≤ ttl ∧ ttl ≤ 300)
    (start : Timestamp.InRange (t - 30000000))
    (finish : Timestamp.InRange (t + ttl * 1000000 + 30000000)) (nests : 1 ≤ depth) :
    ∃ token, mintToken pair.privateKey (pyStr subject) (pyStr device) channel (pyStr nonce) ttl t =
        .ok token ∧
      mint pair.privateKey ⟨pyStr subject, pyStr device, channel, ttl⟩ t (pyStr nonce) =
        .ok ⟨token, isoText (t + ttl * 1000000)⟩ ∧
      ∀ claims, verifyToken depth fromisoformat pair.publicKey token (utc u) = .ok claims ↔
        t - 30000000 ≤ u ∧ u ≤ t + ttl * 1000000 + 30000000 ∧
          claims = ⟨pyStr subject, pyStr device, channel, utc t, utc (t + ttl * 1000000),
            pyStr nonce⟩ := by
  have expired : Timestamp.InRange (t + ttl * 1000000) := by
    unfold Timestamp.InRange at start finish ⊢
    omega
  have full : ∀ s : String, s ≠ "" → pyStr s ≠ [] :=
    fun s some_text empty => some_text (pyStr_injective empty)
  obtain ⟨hs, hd, hn⟩ := nonempty
  have texts := And.intro (full _ hs) (And.intro (full _ hd) (full _ hn))
  have minted := mintToken_ok pair allowed texts life expired
  refine ⟨_, minted, mint_mintToken minted, fun claims => ?_⟩
  exact mintedToken_verified allowed ⟨pyStr_joined _, pyStr_joined _, pyStr_joined _⟩ texts life
    start finish nests

def plainPair : KeyPair where
  privateKey := ⟨fun material => material⟩
  publicKey := ⟨fun signature material => decide (signature = material)⟩
  correct := fun _ => decide_eq_true rfl

theorem issuers_agree_alice : ∃ token,
    mintToken plainPair.privateKey (pyStr "alice") (pyStr "deck") (pyStr "mcp") (pyStr "n1") 60
      midnight = .ok token ∧
    mint plainPair.privateKey ⟨pyStr "alice", pyStr "deck", pyStr "mcp", 60⟩ midnight (pyStr "n1") =
      .ok ⟨token, isoText (midnight + 60 * 1000000)⟩ ∧
    ∀ claims, verifyToken 1000 fromisoformat plainPair.publicKey token
        (utc (midnight + 90000000)) = .ok claims ↔
      midnight - 30000000 ≤ midnight + 90000000 ∧
        midnight + 90000000 ≤ midnight + 60 * 1000000 + 30000000 ∧
        claims = ⟨pyStr "alice", pyStr "deck", pyStr "mcp", utc midnight,
          utc (midnight + 60 * 1000000), pyStr "n1"⟩ :=
  issuers_agree plainPair "alice" "deck" "n1" (pyStr "mcp") 60 midnight (midnight + 90000000)
    1000 (by decide) (by decide) (by decide) (by decide) (by decide) (by decide)

end Deckhand
