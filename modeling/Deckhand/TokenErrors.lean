import Deckhand.Identity

namespace Deckhand
open Lib

section
variable {depth : Nat} {fromisoformat : PyStr → Option (Int × Option Int)}
  {publicKey : PublicKey} {token : PyStr}

/-- Nothing but `IdentityError` is raised. -/
def Ordinary {α : Type} (r : Except IdentityExn α) : Prop :=
  ∀ x, r = .error x → ∃ message, x = .identityError message

theorem ordinary_ok {α : Type} (a : α) : Ordinary (.ok a : Except IdentityExn α) := by
  intro x raised
  cases raised

theorem ordinary_error {α : Type} {x : IdentityExn} :
    Ordinary (.error x : Except IdentityExn α) ↔ ∃ message, x = .identityError message := by
  constructor
  · intro ordinary
    exact ordinary x rfl
  · intro named y raised
    cases raised
    exact named

theorem ordinary_demand {α β : Type} {v : Option α} {message : String}
    {f : α → Except IdentityExn β} (rest : ∀ a, Ordinary (f a)) :
    Ordinary (demand v (.identityError message) >>= f) := by
  cases v with
  | some a => exact rest a
  | none => exact ordinary_error.mpr ⟨message, rfl⟩

theorem ordinary_refuse {β : Type} {c : Prop} [Decidable c] {message : String}
    {f : Unit → Except IdentityExn β} :
    Ordinary (refuse c (.identityError message) >>= f) ↔ (¬ c → Ordinary (f ())) := by
  by_cases h : c
  · have raised : (refuse c (.identityError message) >>= f) = .error (.identityError message) := by
      rw [refuse, if_pos h]
      rfl
    rw [raised]
    exact iff_of_true (ordinary_error.mpr ⟨message, rfl⟩) fun n => absurd h n
  · have passed : (refuse c (.identityError message) >>= f) = f () := by
      rw [refuse, if_neg h]
      rfl
    rw [passed]
    exact ⟨fun h _ => h, fun rest => rest h⟩

theorem ordinary_range {β : Type} {t : Int} {f : Unit → Except IdentityExn β} :
    Ordinary (refuse (¬ Timestamp.InRange t) .overflowError >>= f) ↔
      Timestamp.InRange t ∧ Ordinary (f ()) := by
  by_cases range : Timestamp.InRange t
  · have passed : (refuse (¬ Timestamp.InRange t) IdentityExn.overflowError >>= f) = f () := by
      rw [refuse, if_neg (not_not.mpr range)]
      rfl
    rw [passed]
    exact ⟨fun h => ⟨range, h⟩, And.right⟩
  · have raised : (refuse (¬ Timestamp.InRange t) IdentityExn.overflowError >>= f) =
        .error .overflowError := by
      rw [refuse, if_pos range]
      rfl
    rw [raised, ordinary_error]
    simp [range]

theorem ordinary_astimezone {β : Type} {d : Aware} {f : Int → Except IdentityExn β} :
    Ordinary (d.astimezone >>= f) ↔ Timestamp.InRange d.instant ∧ Ordinary (f d.instant) := by
  rw [Aware.astimezone, bind_assoc, ordinary_range, pure_bind]

theorem ordinary_plus {β : Type} {d : Aware} {seconds : Int} {f : Aware → Except IdentityExn β} :
    Ordinary (d.plus seconds >>= f) ↔ Timestamp.InRange (Timestamp.addSeconds d.wall seconds) ∧
      Ordinary (f { d with wall := Timestamp.addSeconds d.wall seconds }) := by
  rw [Aware.plus, bind_assoc, ordinary_range, pure_bind]

/-- The token's bytes do not nest deeper than the interpreter reads. -/
def Shallow (depth : Nat) (token : PyStr) : Prop :=
  ∀ raw, b64uDecode token = some raw → PyJson.loadBytes depth raw ≠ .error .recursion

theorem loadToken_ordinary : Ordinary (loadToken depth token) ↔ Shallow depth token := by
  unfold loadToken Shallow
  cases decoded : b64uDecode token with
  | none => exact iff_of_true (ordinary_error.mpr ⟨_, rfl⟩) fun raw h => nomatch h
  | some raw =>
    have only :
        (∀ bytes, some raw = some bytes → PyJson.loadBytes depth bytes ≠ .error .recursion) ↔
        PyJson.loadBytes depth raw ≠ .error .recursion :=
      ⟨fun all => all raw rfl, fun h bytes same => Option.some.inj same ▸ h⟩
    rw [only, Option.map_some]
    cases loaded : PyJson.loadBytes depth raw with
    | ok envelope => simp [ordinary_ok]
    | error e => cases e <;> simp [ordinary_error, LoadError.isValueError]

theorem ordinary_bind {α β : Type} {r : Except IdentityExn α} {f : α → Except IdentityExn β}
    (first : Ordinary r) (rest : ∀ a, Ordinary (f a)) : Ordinary (r >>= f) := by
  intro x raised
  rcases bind_error.mp raised with failed | ⟨a, went, failed⟩
  · exact first x failed
  · exact rest a x failed

theorem readEnvelope_ordinary (shallow : Shallow depth token) :
    Ordinary (readEnvelope depth token) := by
  unfold readEnvelope
  apply ordinary_bind (loadToken_ordinary.mpr shallow)
  intro envelope
  apply ordinary_demand
  intro members
  repeat' (apply ordinary_demand; intro _)
  exact ordinary_ok _

theorem nonemptyText_ordinary {β : Type} {v : PyJson} {f : PyStr → Except IdentityExn β}
    (rest : ∀ s, Ordinary (f s)) : Ordinary (nonemptyText v >>= f) := ordinary_demand rest

theorem readToken_ordinary (shallow : Shallow depth token) :
    Ordinary (readToken depth fromisoformat token) := by
  unfold readToken
  apply ordinary_bind (readEnvelope_ordinary shallow)
  intro envelope
  repeat' (apply nonemptyText_ordinary; intro _)
  apply ordinary_refuse.mpr
  intro allowed
  repeat' (apply ordinary_demand; intro _)
  exact ordinary_ok _

/-- The times of a token stay in the range of datetimes wherever they are computed with. -/
structure InTime (publicKey : PublicKey) (now : Aware) (u : Unverified) : Prop where
  issued : Timestamp.InRange u.issuedAt.instant
  expires : Timestamp.InRange u.expiresAt.instant
  signed : publicKey.verify u.signature u.claims.material = true → Timestamp.InRange now.instant ∧
    Timestamp.InRange (u.issuedAt.wall - 30000000) ∧
    (u.issuedAt.instant - 30000000 ≤ now.instant → Timestamp.InRange (u.expiresAt.wall + 30000000))

theorem checkToken_ordinary {u : Unverified} {now : Aware} :
    Ordinary (checkToken publicKey u now) ↔ InTime publicKey now u := by
  have early : Timestamp.addSeconds u.issuedAt.wall (- maxClockSkewSeconds) =
      u.issuedAt.wall - 30000000 := by
    change (u.issuedAt.wall : Int) + (-30) * 1000000 = u.issuedAt.wall - 30000000
    omega
  have late : Timestamp.addSeconds u.expiresAt.wall maxClockSkewSeconds =
      u.expiresAt.wall + 30000000 := by
    change (u.expiresAt.wall : Int) + 30 * 1000000 = u.expiresAt.wall + 30000000
    omega
  have begun : ¬ now.instant < (⟨u.issuedAt.wall - 30000000, u.issuedAt.offset⟩ : Aware).instant ↔
      u.issuedAt.instant - 30000000 ≤ now.instant := by
    simp only [Aware.instant]
    omega
  simp only [checkToken, ordinary_astimezone, ordinary_refuse, ordinary_plus, early, late, begun,
    Bool.not_eq_false]
  constructor
  · rintro ⟨issued, expires, rest⟩
    refine ⟨issued, expires, fun verified => ?_⟩
    obtain ⟨current, earliest, rest⟩ := rest verified
    exact ⟨current, earliest, fun started => (rest started).1⟩
  · rintro ⟨issued, expires, signed⟩
    refine ⟨issued, expires, fun verified => ?_⟩
    obtain ⟨current, earliest, latest⟩ := signed verified
    exact ⟨current, earliest, fun started => ⟨latest started, fun _ _ => ordinary_ok _⟩⟩

theorem readToken_deep (deep : ¬ Shallow depth token) :
    ¬ Ordinary (readToken depth fromisoformat token) := by
  intro ordinary
  apply deep
  intro raw decoded loaded
  have raised : readToken depth fromisoformat token = .error .recursionError := by
    simp only [readToken, readEnvelope, loadToken, decoded, Option.map_some, loaded]
    rfl
  rw [raised] at ordinary
  obtain ⟨message, same⟩ := ordinary_error.mp ordinary
  cases same

/-- Nothing but `IdentityError` is raised, exactly when the token is not nested too deeply for the
interpreter and its times stay in the range of datetimes. -/
theorem verify_token_total_iff (depth : Nat) (fromisoformat : PyStr → Option (Int × Option Int))
    (publicKey : PublicKey) (token : PyStr) (now : Aware) :
    ((∃ claims, verifyToken depth fromisoformat publicKey token now = .ok claims) ∨
      ∃ message, verifyToken depth fromisoformat publicKey token now =
        .error (.identityError message)) ↔
    Shallow depth token ∧
      ∀ u, readToken depth fromisoformat token = .ok u → InTime publicKey now u := by
  have ends : ∀ r : Except IdentityExn IdentityClaims,
      ((∃ claims, r = .ok claims) ∨ ∃ message, r = .error (.identityError message)) ↔
        Ordinary r := by
    intro r
    cases r with
    | ok claims => simp [ordinary_ok]
    | error x => simp [ordinary_error]
  rw [ends, verifyToken]
  cases read : readToken depth fromisoformat token with
  | error x =>
    have shallow : Ordinary (.error x : Except IdentityExn Unverified) ↔ Shallow depth token := by
      rw [← read]
      exact ⟨fun ordinary => not_not.mp fun deep => readToken_deep deep ordinary,
        readToken_ordinary⟩
    rw [ordinary_error] at shallow
    change Ordinary (.error x) ↔ _
    rw [ordinary_error, shallow]
    simp
  | ok u =>
    have shallow : Shallow depth token := by
      by_contra deep
      exact readToken_deep deep (read ▸ ordinary_ok u)
    rw [ok_bind, checkToken_ordinary]
    simp [shallow]

end

/-- An unsigned token that was issued before the first datetime of UTC. -/
def dawnToken : PyStr :=
  b64uEncode (encodeUtf8 ((strObject [(pyStr "subject", pyStr "a"), (pyStr "device", pyStr "d"),
    (pyStr "channel", pyStr "mcp"), (pyStr "issued_at", pyStr "0001-01-01T00:00:00+14:00"),
    (pyStr "expires_at", pyStr "0001-01-01T00:01:00+14:00"), (pyStr "nonce", pyStr "n"),
    (pyStr "sig", [])]).write escapeControl))

/-- Nobody's signature is needed for it to raise. -/
theorem dawnToken_raises : verifyToken 1000 fromisoformat ⟨fun _ _ => false⟩ dawnToken
    (utc midnight) = .error .overflowError := by decide +kernel

end Deckhand
