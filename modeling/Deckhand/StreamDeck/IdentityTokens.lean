import Deckhand.Door
import Deckhand.Issuers

/-! The plugin's identity tokens: the issuer mints them, the provider keeps one until shortly
before it expires, and the broker's door verifies them. -/
namespace Deckhand.StreamDeck
open Lib

structure CachedToken where
  token : String
  expiresAt : Int

inductive TokenError where
  | identityError (message : String)
  | raised

/-- What becomes of a call to the issuer: no answer within three seconds, an error status, a body
that is no JSON, or the members of one. -/
inductive IssuerReply where
  | unreachable (cause : String)
  | status (code : Nat)
  | unreadable
  | body (token expiresAt : Option String)

/-- `waiting` are the calls of `token` that wait for the issuer, with the instants they began. -/
structure IdentityProvider where
  cached : Option CachedToken := none
  waiting : List Int := []

inductive TokenAct where
  | call
  | reply (waiter : Nat) (reply : IssuerReply)

/-- A call goes to the issuer, or it ends. -/
inductive TokenOutcome where
  | asked
  | ended (result : Except TokenError String)

/-- `Date.now()`, in milliseconds. -/
def dateNow (t : Int) : Int := t / 1000

namespace IdentityProvider
variable (dateParse : String → Option Int) (t : Int) (p : IdentityProvider)

def token : IdentityProvider × TokenOutcome :=
  match p.cached.filter fun c => c.expiresAt - 10000 > dateNow t with
  | some c => (p, .ended (.ok c.token))
  | none => ({ p with waiting := p.waiting ++ [t] }, .asked)

/-- `Date.parse(body.expires_at) || now + 30_000` -/
def expiry (began : Int) (expiresAt : Option String) : Int :=
  ((expiresAt.bind dateParse).filter fun ms => ms ≠ 0).getD (dateNow began + 30000)

/-- The rest of a call that began at `began`. -/
def resume (began : Int) (reply : IssuerReply) : IdentityProvider × Except TokenError String :=
  match reply with
  | .unreachable cause => (p, .error (.identityError ("identity issuer unreachable: " ++ cause)))
  | .status code => (p, .error (.identityError ("identity issuer returned " ++ toString code)))
  | .unreadable => (p, .error .raised)
  | .body token expiresAt =>
    match token.filter fun text => text ≠ "" with
    | none => (p, .error (.identityError "identity issuer returned no token"))
    | some token => ({ p with cached := some ⟨token, expiry dateParse began expiresAt⟩ }, .ok token)

def step (act : TokenAct) : Option (IdentityProvider × TokenOutcome) :=
  match act with
  | .call => some (p.token t)
  | .reply waiter reply =>
    match p.waiting[waiter]? with
    | none => none
    | some began =>
      let (q, result) := { p with waiting := p.waiting.eraseIdx waiter }.resume dateParse began
        reply
      some (q, .ended result)

end IdentityProvider

/-- What the issuer may have answered by `t` to a call that began at `began`. -/
inductive IssuerAnswers (key : PrivateKey) (settings : IssuerSettings) (began t : Int) :
    IssuerReply → Prop where
  | unreachable (cause : String) : IssuerAnswers key settings began t (.unreachable cause)
  | status (code : Nat) : IssuerAnswers key settings began t (.status code)
  | unreadable : IssuerAnswers key settings began t .unreadable
  | minted (m : Int) (nonce token expiresAt : String) : began ≤ m → m ≤ t →
      t ≤ began + 3000000 → nonce ≠ "" →
      mint key settings m (pyStr nonce) = .ok ⟨pyStr token, pyStr expiresAt⟩ →
      IssuerAnswers key settings began t (.body (some token) (some expiresAt))

structure TokenEvent where
  instant : Int
  act : TokenAct
  outcome : TokenOutcome

/-- What the provider has come to after the events of `log`: any number of calls, interleaved with
what the issuer answers them. -/
inductive Provided (dateParse : String → Option Int) (key : PrivateKey)
    (settings : IssuerSettings) : List TokenEvent → IdentityProvider → Prop where
  | start : Provided dateParse key settings [] {}
  | step {log : List TokenEvent} {p q : IdentityProvider} {outcome : TokenOutcome} (t : Int)
      (act : TokenAct) : Provided dateParse key settings log p → (∀ e ∈ log, e.instant ≤ t) →
      (∀ waiter reply began, act = .reply waiter reply → p.waiting[waiter]? = some began →
        IssuerAnswers key settings began t reply) →
      p.step dateParse t act = some (q, outcome) →
      Provided dateParse key settings (log ++ [⟨t, act, outcome⟩]) q

/-- `Date.parse` knows the times that the issuer writes, or takes them for no times. -/
def ReadsTimes (dateParse : String → Option Int) : Prop :=
  ∀ x, Timestamp.InRange x → dateParse (Timestamp.isoformat x) = none ∨
    dateParse (Timestamp.isoformat x) = some (x / 1000)

/-- An issuer that is set up for the subject. Its names come from environment variables, whose
undecodable bytes Python reads as low surrogates only. -/
structure IssuesFor (settings : IssuerSettings) (subject : Subject) : Prop where
  name : settings.subject = subject.name
  device : settings.device = subject.device
  channel : settings.channel = subject.channel
  allowed : subject.channel ∈ allowedChannels
  joined : Joined subject.name ∧ Joined subject.device
  nonempty : subject.name ≠ [] ∧ subject.device ≠ []
  life : 10 ≤ settings.tokenTtlSeconds ∧ settings.tokenTtlSeconds ≤ 300

/-- The token that was minted at `m`. -/
def mintedFor (pair : KeyPair) (subject : Subject) (ttl m : Int) (nonce : String) : PyStr :=
  mintedToken pair subject.name subject.device subject.channel (pyStr nonce) ttl m

section Token
variable {pair : KeyPair} {settings : IssuerSettings} {subject : Subject} {m u : Int}
  {nonce token expiresAt : String}

theorem mint_minted (issues : IssuesFor settings subject) (fresh : nonce ≠ "")
    (minted : mint pair.privateKey settings m (pyStr nonce) = .ok ⟨pyStr token, pyStr expiresAt⟩) :
    pyStr token = mintedFor pair subject settings.tokenTtlSeconds m nonce ∧
      expiresAt = Timestamp.isoformat (m + settings.tokenTtlSeconds * 1000000) ∧
      Timestamp.InRange (m + settings.tokenTtlSeconds * 1000000) := by
  have once : pyStr nonce ≠ [] := fun empty => fresh (pyStr_injective empty)
  have range : Timestamp.InRange (m + settings.tokenTtlSeconds * 1000000) := by
    simp only [mint, Aware.plus, bind_ok, refuse_ok, not_not] at minted
    obtain ⟨_, ⟨_, range, -⟩, -⟩ := minted
    exact range
  have known := mint_mintToken (mintToken_ok pair issues.allowed
    ⟨issues.nonempty.1, issues.nonempty.2, once⟩
    ⟨le_trans (by decide) issues.life.1, issues.life.2⟩ range)
  rw [← issues.name, ← issues.device, ← issues.channel] at known
  have same := Except.ok.inj (minted.symm.trans known)
  rw [issues.name, issues.device, issues.channel] at same
  injection same with text time
  exact ⟨text, pyStr_injective time, range⟩

theorem minted_admitted (issues : IssuesFor settings subject) (fresh : nonce ≠ "")
    (held : pyStr token = mintedFor pair subject settings.tokenTtlSeconds m nonce)
    (start : Timestamp.InRange (m - 30000000))
    (finish : Timestamp.InRange (m + settings.tokenTtlSeconds * 1000000 + 30000000))
    {door : Door} {here : Surroundings} (trusts : door.identityPublicKey = some pair.publicKey)
    (early : m - 30000000 ≤ here.now)
    (late : here.now ≤ m + settings.tokenTtlSeconds * 1000000 + 30000000) :
    door.authenticatedSubject here { xDeckhandIdentity := some token } = .ok subject := by
  have once : pyStr nonce ≠ [] := fun empty => fresh (pyStr_injective empty)
  have verified : verifyToken here.jsonDepth fromisoformat pair.publicKey (pyStr token)
      (utc here.now) = .ok ⟨subject.name, subject.device, subject.channel, utc m,
        utc (m + settings.tokenTtlSeconds * 1000000), pyStr nonce⟩ := by
    rw [held]
    exact (mintedToken_verified issues.allowed
      ⟨issues.joined.1, issues.joined.2, pyStr_joined _⟩
      ⟨issues.nonempty.1, issues.nonempty.2, once⟩
      ⟨le_trans (by decide) issues.life.1, issues.life.2⟩ start finish here.nests).mpr
      ⟨early, late, rfl⟩
  exact identityToken_ok trusts verified

end Token

def TokenEvent.Fresh (e : TokenEvent) : Prop :=
  ∃ waiter reply token, e.act = .reply waiter reply ∧ e.outcome = .ended (.ok token)

/-- The events lie far enough from where the calendar ends. -/
def InEra (log : List TokenEvent) : Prop :=
  ∀ e ∈ log, Timestamp.InRange (e.instant - 30000000) ∧ Timestamp.InRange (e.instant + 330000000)

/-- The issuer minted the token at `m`, between two of the events. -/
structure Minted (pair : KeyPair) (subject : Subject) (ttl : Int) (log : List TokenEvent)
    (token : String) (m : Int) : Prop where
  source : ∃ nonce, nonce ≠ "" ∧ pyStr token = mintedFor pair subject ttl m nonce
  after : ∃ e ∈ log, e.instant ≤ m
  before : ∃ e ∈ log, m ≤ e.instant

/-- Why a kept token may be handed out for as long as it is kept: it lives at least so long or it
was minted not long ago; and for how long no other will be asked for. -/
structure Stored (pair : KeyPair) (subject : Subject) (ttl : Int) (log : List TokenEvent)
    (c : CachedToken) : Prop where
  minted : ∃ m, Minted pair subject ttl log c.token m ∧
    (c.expiresAt ≤ (m + ttl * 1000000) / 1000 ∨ c.expiresAt ≤ m / 1000 + 30000)
  lasting : ∀ e ∈ log, e.Fresh → e.instant + (min ttl 30 - 3) * 1000000 < c.expiresAt * 1000 + 1000

structure Keeping (pair : KeyPair) (subject : Subject) (ttl : Int) (log : List TokenEvent)
    (p : IdentityProvider) : Prop where
  waiting : ∀ began ∈ p.waiting, ∃ e ∈ log, e.instant = began
  cached : ∀ c, p.cached = some c → Stored pair subject ttl log c
  fresh : ∀ e ∈ log, e.Fresh → p.cached.isSome = true

section Provider
variable {pair : KeyPair} {settings : IssuerSettings} {subject : Subject}
  {dateParse : String → Option Int} {log a b : List TokenEvent} {p q : IdentityProvider}
  {e : TokenEvent} {t : Int}

theorem provided_split (run : Provided dateParse pair.privateKey settings (a ++ e :: b) q) :
    ∃ p p', Provided dateParse pair.privateKey settings a p ∧ (∀ x ∈ a, x.instant ≤ e.instant) ∧
      (∀ waiter reply began, e.act = .reply waiter reply → p.waiting[waiter]? = some began →
        IssuerAnswers pair.privateKey settings began e.instant reply) ∧
      p.step dateParse e.instant e.act = some (p', e.outcome) := by
  generalize whole : a ++ e :: b = log at run
  induction run generalizing b with
  | start => simp at whole
  | @step log p q outcome t act before ordered answers stepped ih =>
    rcases List.eq_nil_or_concat b with rfl | ⟨b', last, rfl⟩
    · obtain ⟨rfl, same⟩ := List.append_inj' whole rfl
      obtain rfl := List.head_eq_of_cons_eq same
      exact ⟨p, q, before, ordered, answers, stepped⟩
    · have shorter : (a ++ e :: b') ++ [last] = log ++ [⟨t, act, outcome⟩] := by
        simpa using whole
      exact ih (List.append_inj' shorter rfl).1

theorem Minted.more {ttl m : Int} {token : String} (minted : Minted pair subject ttl log token m)
    (e : TokenEvent) : Minted pair subject ttl (log ++ [e]) token m := by
  obtain ⟨source, ⟨x, member, earlier⟩, y, among, later⟩ := minted
  exact ⟨source, ⟨x, by simp [member], earlier⟩, y, by simp [among], later⟩

theorem Stored.more {c : CachedToken} {ttl : Int} (stored : Stored pair subject ttl log c)
    (lasting : e.Fresh → e.instant + (min ttl 30 - 3) * 1000000 < c.expiresAt * 1000 + 1000) :
    Stored pair subject ttl (log ++ [e]) c := by
  obtain ⟨⟨m, minted, kept⟩, lasts⟩ := stored
  refine ⟨⟨m, minted.more e, kept⟩, ?_⟩
  intro f held fresh
  rcases List.mem_append.mp held with old | new
  · exact lasts f old fresh
  · obtain rfl := List.mem_singleton.mp new
    exact lasting fresh

theorem Keeping.quiet {ttl : Int} (keeping : Keeping pair subject ttl log p) (stale : ¬ e.Fresh)
    (cached : q.cached = p.cached)
    (waiting : ∀ began ∈ q.waiting, began ∈ p.waiting ∨ began = e.instant) :
    Keeping pair subject ttl (log ++ [e]) q := by
  constructor
  · intro began waits
    rcases waiting began waits with old | rfl
    · obtain ⟨x, member, same⟩ := keeping.waiting began old
      exact ⟨x, by simp [member], same⟩
    · exact ⟨e, by simp, rfl⟩
  · intro c held
    exact (keeping.cached c (cached ▸ held)).more fun fresh => absurd fresh stale
  · intro x member fresh
    rw [cached]
    rcases List.mem_append.mp member with old | new
    · exact keeping.fresh x old fresh
    · exact absurd (List.mem_singleton.mp new ▸ fresh) stale

theorem expiry_cases (reads : ReadsTimes dateParse) {x : Int} (range : Timestamp.InRange x)
    (began : Int) : IdentityProvider.expiry dateParse began (some (Timestamp.isoformat x)) =
        x / 1000 ∨
      IdentityProvider.expiry dateParse began (some (Timestamp.isoformat x)) =
        dateNow began + 30000 := by
  rcases reads x range with unread | read
  · right
    simp [IdentityProvider.expiry, unread]
  · by_cases zero : x / 1000 = 0
    · right
      simp [IdentityProvider.expiry, read, zero, Option.filter]
    · left
      simp [IdentityProvider.expiry, read, zero, Option.filter]

theorem Keeping.refreshed {ttl t began m : Int} {act : TokenAct} {outcome : TokenOutcome}
    {token : String} {expiresAt : Int} (keeping : Keeping pair subject ttl log p)
    (ordered : ∀ x ∈ log, x.instant ≤ t) (prompt : t ≤ began + 3000000)
    (waiting : ∀ x ∈ q.waiting, x ∈ p.waiting ∨ x = t) (cached : q.cached = some ⟨token, expiresAt⟩)
    (minted : Minted pair subject ttl (log ++ [⟨t, act, outcome⟩]) token m) (after : began ≤ m)
    (expires : expiresAt = (m + ttl * 1000000) / 1000 ∨ expiresAt = dateNow began + 30000) :
    Keeping pair subject ttl (log ++ [⟨t, act, outcome⟩]) q := by
  constructor
  · intro x waits
    rcases waiting x waits with old | rfl
    · obtain ⟨e, member, same⟩ := keeping.waiting x old
      exact ⟨e, by simp [member], same⟩
    · exact ⟨_, List.mem_append_right _ List.mem_cons_self, rfl⟩
  · intro c held
    obtain rfl := Option.some.inj (cached.symm.trans held)
    refine ⟨⟨m, minted, ?_⟩, ?_⟩
    · rcases expires with same | same
      · exact .inl same.le
      · refine .inr (same.le.trans ?_)
        simp only [dateNow]
        omega
    · intro e member fresh
      have past : e.instant ≤ t := by
        rcases List.mem_append.mp member with old | new
        · exact ordered e old
        · exact (congrArg TokenEvent.instant (List.mem_singleton.mp new)).le
      dsimp only
      rcases expires with same | same
      · omega
      · simp only [dateNow] at same
        omega
  · intro e member fresh
    rw [cached]
    rfl

theorem keeping_step (issues : IssuesFor settings subject) (reads : ReadsTimes dateParse)
    (keeping : Keeping pair subject settings.tokenTtlSeconds log p)
    (ordered : ∀ x ∈ log, x.instant ≤ e.instant)
    (answers : ∀ waiter reply began, e.act = .reply waiter reply →
      p.waiting[waiter]? = some began →
        IssuerAnswers pair.privateKey settings began e.instant reply)
    (stepped : p.step dateParse e.instant e.act = some (q, e.outcome)) :
    Keeping pair subject settings.tokenTtlSeconds (log ++ [e]) q := by
  obtain ⟨t, act, outcome⟩ := e
  dsimp only at ordered answers stepped
  cases act with
  | call =>
    have stale : ¬ TokenEvent.Fresh ⟨t, .call, outcome⟩ := by
      rintro ⟨waiter, reply, token, brings, -⟩
      cases brings
    have called : p.token t = (q, outcome) := Option.some.inj stepped
    unfold IdentityProvider.token at called
    split at called
    · cases called
      exact keeping.quiet stale rfl fun began waits => .inl waits
    · cases called
      exact keeping.quiet stale rfl fun began waits => by simpa using waits
  | reply waiter reply =>
    simp only [IdentityProvider.step] at stepped
    cases found : p.waiting[waiter]? with
    | none =>
      rw [found] at stepped
      cases stepped
    | some began =>
      rw [found] at stepped
      have answered := answers waiter reply began rfl found
      have fewer : ∀ x ∈ p.waiting.eraseIdx waiter, x ∈ p.waiting ∨ x = t :=
        fun x waits => .inl (List.mem_of_mem_eraseIdx waits)
      have failed : ∀ x, outcome = .ended (.error x) →
          ¬ TokenEvent.Fresh ⟨t, .reply waiter reply, outcome⟩ := by
        rintro x rfl ⟨_, _, token, -, brings⟩
        cases brings
      cases answered with
      | unreachable cause =>
        cases stepped
        exact keeping.quiet (failed _ rfl) rfl fewer
      | status code =>
        cases stepped
        exact keeping.quiet (failed _ rfl) rfl fewer
      | unreadable =>
        cases stepped
        exact keeping.quiet (failed _ rfl) rfl fewer
      | minted m nonce token expiresAt after before prompt fresh minted =>
        obtain ⟨held, rfl, range⟩ := mint_minted issues fresh minted
        simp only [IdentityProvider.resume] at stepped
        split at stepped
        · cases stepped
          exact keeping.quiet (failed _ rfl) rfl fewer
        · rename_i given there
          obtain rfl := Option.some.inj (Option.filter_eq_some_iff.mp there).1
          cases stepped
          obtain ⟨x, member, same⟩ := keeping.waiting began (List.mem_of_getElem? found)
          exact keeping.refreshed ordered prompt fewer rfl
            ⟨⟨nonce, fresh, held⟩, ⟨x, by simp [member], same ▸ after⟩, _,
              List.mem_append_right _ List.mem_cons_self, before⟩ after
            (expiry_cases reads range began)

theorem provided_keeping (issues : IssuesFor settings subject) (reads : ReadsTimes dateParse)
    (run : Provided dateParse pair.privateKey settings log p) :
    Keeping pair subject settings.tokenTtlSeconds log p := by
  induction run with
  | start => exact ⟨by simp, by simp, by simp⟩
  | step t act _ ordered answers stepped ih =>
    exact keeping_step (e := ⟨t, act, _⟩) issues reads ih ordered answers stepped

theorem handed_minted {token : String} (issues : IssuesFor settings subject)
    (reads : ReadsTimes dateParse)
    (run : Provided dateParse pair.privateKey settings (a ++ e :: b) q)
    (handed : e.outcome = .ended (.ok token)) :
    ∃ m, Minted pair subject settings.tokenTtlSeconds (a ++ [e]) token m ∧ m ≤ e.instant ∧
      e.instant + 20000000 ≤ m + settings.tokenTtlSeconds * 1000000 + 30000000 := by
  obtain ⟨p, p', before, ordered, answers, stepped⟩ := provided_split run
  have keeping := provided_keeping issues reads before
  have life := issues.life.1
  obtain ⟨t, act, outcome⟩ := e
  dsimp only at ordered answers stepped handed ⊢
  subst handed
  cases act with
  | call =>
    have called : p.token t = (p', .ended (.ok token)) := Option.some.inj stepped
    unfold IdentityProvider.token at called
    split at called
    · rename_i c there
      obtain ⟨held, valid⟩ := Option.filter_eq_some_iff.mp there
      cases called
      obtain ⟨⟨m, minted, kept⟩, -⟩ := keeping.cached c held
      obtain ⟨y, among, later⟩ := minted.before
      refine ⟨m, minted.more _, later.trans (ordered y among), ?_⟩
      simp only [dateNow, gt_iff_lt, decide_eq_true_eq] at valid
      rcases kept with kept | kept <;> omega
    · cases called
  | reply waiter reply =>
    simp only [IdentityProvider.step] at stepped
    cases found : p.waiting[waiter]? with
    | none =>
      rw [found] at stepped
      cases stepped
    | some began =>
      rw [found] at stepped
      cases answers waiter reply began rfl found with
      | unreachable cause => cases stepped
      | status code => cases stepped
      | unreadable => cases stepped
      | minted m nonce text expiresAt after sooner prompt fresh minted =>
        have held := (mint_minted issues fresh minted).1
        simp only [IdentityProvider.resume] at stepped
        split at stepped
        · cases stepped
        · rename_i given there
          obtain rfl := Option.some.inj (Option.filter_eq_some_iff.mp there).1
          cases stepped
          obtain ⟨x, member, same⟩ := keeping.waiting began (List.mem_of_getElem? found)
          refine ⟨m, ⟨⟨nonce, fresh, held⟩, ⟨x, by simp [member], same ▸ after⟩, _,
            List.mem_append_right _ List.mem_cons_self, sooner⟩, sooner, ?_⟩
          omega

theorem step_body {waiter : Nat} {token : String} {began : Int} {expiresAt : Option String}
    (nonempty : token ≠ "") (found : p.waiting[waiter]? = some began) :
    p.step dateParse t (.reply waiter (.body (some token) expiresAt)) =
      some (⟨some ⟨token, IdentityProvider.expiry dateParse began expiresAt⟩,
        p.waiting.eraseIdx waiter⟩, .ended (.ok token)) := by
  simp [IdentityProvider.step, IdentityProvider.resume, Option.filter, nonempty, found]

theorem asked_due {act : TokenAct} {c : CachedToken}
    (stepped : p.step dateParse t act = some (q, .asked)) (held : p.cached = some c) :
    c.expiresAt - 10000 ≤ dateNow t := by
  cases act with
  | call =>
    have called : p.token t = (q, .asked) := Option.some.inj stepped
    unfold IdentityProvider.token at called
    split at called
    · cases called
    · rename_i stale
      rw [held, Option.filter_eq_none_iff] at stale
      simpa using stale c rfl
  | reply waiter reply =>
    simp only [IdentityProvider.step] at stepped
    split at stepped
    · cases stepped
    · cases stepped

end Provider

/-- However calls and answers interleave, each token that the provider hands out lets its bearer
in at the broker's door for twenty seconds and longer, as the subject that the issuer is set up for;
and after a token has come the issuer is left alone for a while. -/
theorem tokens_admitted (pair : KeyPair) (settings : IssuerSettings) (subject : Subject)
    (dateParse : String → Option Int) (log : List TokenEvent) (p : IdentityProvider)
    (issues : IssuesFor settings subject) (reads : ReadsTimes dateParse) (era : InEra log)
    (run : Provided dateParse pair.privateKey settings log p) :
    (∀ e ∈ log, ∀ token, e.outcome = .ended (.ok token) → ∀ (door : Door) (here : Surroundings),
      door.identityPublicKey = some pair.publicKey → e.instant - 30000000 ≤ here.now →
      here.now ≤ e.instant + 20000000 →
        door.authenticatedSubject here { xDeckhandIdentity := some token } = .ok subject) ∧
    ∀ a x b y c, log = a ++ x :: b ++ y :: c → x.Fresh → y.outcome = .asked →
      x.instant + (min settings.tokenTtlSeconds 30 - 13) * 1000000 < y.instant + 1000 := by
  constructor
  · intro e member token handed door here trusts early late
    obtain ⟨a, b, rfl⟩ := List.append_of_mem member
    obtain ⟨m, ⟨⟨nonce, fresh, held⟩, ⟨x, among, earlier⟩, -⟩, past, lasts⟩ :=
      handed_minted issues reads run handed
    have whole : a ++ e :: b = (a ++ [e]) ++ b := by simp
    have first := (era x (whole ▸ List.mem_append_left b among)).1
    have last := (era e member).2
    have life := issues.life
    refine minted_admitted issues fresh held ?_ ?_ trusts (by omega) (by omega)
    · unfold Timestamp.InRange at first last ⊢
      omega
    · unfold Timestamp.InRange at first last ⊢
      omega
  · intro a x b y c whole fresh asked
    subst whole
    obtain ⟨q, q', before, ordered, -, stepped⟩ := provided_split run
    have keeping := provided_keeping issues reads before
    obtain ⟨c, held⟩ := Option.isSome_iff_exists.mp (keeping.fresh x (by simp) fresh)
    have lasts := (keeping.cached c held).lasting x (by simp) fresh
    have due := asked_due (asked ▸ stepped) held
    simp only [dateNow] at due
    omega

def isoMillis (text : String) : Option Int := (fromisoformat (pyStr text)).map fun r => r.1 / 1000

theorem isoMillis_reads : ReadsTimes isoMillis := by
  intro x range
  right
  rw [isoMillis, fromisoformat_isoformat range]
  rfl

def deckIssuer : IssuerSettings :=
  ⟨pyStr "operator", pyStr "deck", pyStr "tailscale", 60⟩

theorem deckIssuer_issues : IssuesFor deckIssuer Sample.subject where
  name := rfl
  device := rfl
  channel := rfl
  allowed := by decide
  joined := by decide
  nonempty := by decide
  life := by decide

def deckToken : String :=
  tokenText (mintedFor plainPair Sample.subject 60 (midnight + 500000) "n1")

theorem deckToken_minted : pyStr deckToken =
    mintedFor plainPair Sample.subject 60 (midnight + 500000) "n1" := tokenText_b64u _

theorem deckToken_nonempty : deckToken ≠ "" := by
  intro empty
  obtain ⟨e, read⟩ : ∃ e, readEnvelope 1000 (pyStr deckToken) = .ok e := by
    rw [deckToken_minted, mintedFor]
    exact ⟨_, mintedToken_read ⟨pyStr_joined _, pyStr_joined _, pyStr_joined _, pyStr_joined _⟩
      (by decide)⟩
  rw [empty] at read
  cases read

def deckCache : CachedToken := ⟨deckToken, (midnight + 60500000) / 1000⟩

def deckAnswer : IssuerReply :=
  .body (some deckToken) (some (Timestamp.isoformat (midnight + 60500000)))

def deckCalls : List TokenEvent :=
  [⟨midnight, .call, .asked⟩,
    ⟨midnight + 1000000, .reply 0 deckAnswer, .ended (.ok deckToken)⟩,
    ⟨midnight + 10000000, .call, .ended (.ok deckToken)⟩]

theorem deckToken_issued : mint plainPair.privateKey deckIssuer (midnight + 500000) (pyStr "n1") =
    .ok ⟨pyStr deckToken, pyStr (Timestamp.isoformat (midnight + 60500000))⟩ := by
  rw [deckToken_minted]
  exact mint_mintToken (mintToken_ok plainPair (by decide) (by decide) (by decide) (by decide))

theorem deckCalls_provided :
    Provided isoMillis plainPair.privateKey deckIssuer deckCalls ⟨some deckCache, []⟩ := by
  have read : isoMillis (Timestamp.isoformat (midnight + 60500000)) =
      some ((midnight + 60500000) / 1000) := by
    rw [isoMillis, fromisoformat_isoformat (by decide)]
    rfl
  have kept : (midnight + 10000000) / 1000 < (midnight + 60500000) / 1000 - 10000 := by decide
  have recent : (midnight + 60500000) / 1000 ≠ 0 := by decide
  have asked : Provided isoMillis plainPair.privateKey deckIssuer [⟨midnight, .call, .asked⟩]
      ⟨none, [midnight]⟩ :=
    .step midnight .call .start (by simp) (by simp) rfl
  have brought : Provided isoMillis plainPair.privateKey deckIssuer
      [⟨midnight, .call, .asked⟩,
        ⟨midnight + 1000000, .reply 0 deckAnswer, .ended (.ok deckToken)⟩]
      ⟨some deckCache, []⟩ := by
    refine asked.step (midnight + 1000000) (.reply 0 deckAnswer) (by simp) ?_ ?_
    · intro waiter reply began same waits
      cases same
      cases waits
      exact .minted (midnight + 500000) "n1" deckToken _ (by decide) (by decide) (by decide)
        (by decide) deckToken_issued
    · have expires : IdentityProvider.expiry isoMillis midnight
          (some (Timestamp.isoformat (midnight + 60500000))) = (midnight + 60500000) / 1000 := by
        simp [IdentityProvider.expiry, read, Option.filter, recent]
      rw [deckAnswer, step_body deckToken_nonempty rfl, expires]
      rfl
  refine brought.step (midnight + 10000000) .call (by simp) (by simp) ?_
  simp [IdentityProvider.step, IdentityProvider.token, Option.filter, deckCache, dateNow, kept]

/-- Thirty seconds after midnight the token that was kept is still good. -/
theorem tokens_admitted_deck : ∃ log p,
    Provided isoMillis plainPair.privateKey deckIssuer log p ∧ log.length = 3 ∧
    Door.authenticatedSubject { identityPublicKey := some plainPair.publicKey }
      ⟨midnight + 30000000, fun _ => .error .osError, fun _ => none, 1000, by decide⟩
      { xDeckhandIdentity := some deckToken } = .ok Sample.subject ∧
    ∀ a x b y c, log = a ++ x :: b ++ y :: c → x.Fresh → y.outcome = .asked →
      x.instant + 17000000 < y.instant + 1000 := by
  have era : InEra deckCalls := by
    intro e member
    simp only [deckCalls, List.mem_cons, List.not_mem_nil, or_false] at member
    rcases member with rfl | rfl | rfl <;> decide
  obtain ⟨admitted, left⟩ := tokens_admitted plainPair deckIssuer Sample.subject isoMillis deckCalls
    ⟨some deckCache, []⟩ deckIssuer_issues isoMillis_reads era deckCalls_provided
  refine ⟨deckCalls, _, deckCalls_provided, rfl, ?_, left⟩
  exact admitted ⟨midnight + 10000000, .call, .ended (.ok deckToken)⟩ (by simp [deckCalls])
    deckToken rfl _ _ rfl (by decide) (by decide)

end Deckhand.StreamDeck
