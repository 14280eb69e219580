import Mathlib.Tactic.SplitIfs
import ServiceKit.Credentials.Chain

namespace ServiceKit.CredentialsConfig
variable {w : CredentialWorld} {c : CredentialsConfig} {sources : List CredentialSource} {source : CredentialSource}
  {keys : AccessKeys} {given : Credentials} {role : String}

/-! ### The first source with an answer -/

/-- A source is the first one of a chain that has anything to go by, and what it has are keys. -/
def Leads (w : CredentialWorld) (c : CredentialsConfig) (sources : List CredentialSource)
    (source : CredentialSource) (keys : AccessKeys) : Prop :=
  ∃ before after, sources = before ++ source :: after ∧ (∀ earlier ∈ before, ask w c earlier = .notLoaded) ∧
    ask w c source = .found keys

theorem leads_cons_iff {first : CredentialSource} :
    Leads w c (first :: sources) source keys ↔
      (source = first ∧ ask w c first = .found keys) ∨
        (ask w c first = .notLoaded ∧ Leads w c sources source keys) := by
  constructor
  · rintro ⟨before, after, split, silent, found⟩
    cases before with
    | nil =>
      obtain ⟨rfl, -⟩ := List.cons.inj split
      exact Or.inl ⟨rfl, found⟩
    | cons head before =>
      obtain ⟨rfl, rest⟩ := List.cons.inj split
      obtain ⟨here, later⟩ := List.forall_mem_cons.mp silent
      exact Or.inr ⟨here, before, after, rest, later, found⟩
  · rintro (⟨rfl, found⟩ | ⟨here, before, after, rfl, silent, found⟩)
    · exact ⟨[], sources, rfl, by simp, found⟩
    · exact ⟨first :: before, after, rfl, List.forall_mem_cons.mpr ⟨here, silent⟩, found⟩

theorem search_eq_some_iff :
    search w c sources = some given ↔
      ∃ source, Leads w c sources source given.keys ∧ given.origin = originOf w c source := by
  induction sources with
  | nil => simp [search, Leads]
  | cons first rest ih =>
    simp only [search, leads_cons_iff]
    cases answer : ask w c first with
    | found keys =>
      constructor
      · rintro ⟨⟩
        exact ⟨first, Or.inl ⟨rfl, rfl⟩, rfl⟩
      · rintro ⟨source, ⟨rfl, same⟩ | ⟨silent, -⟩, origin⟩
        · cases same
          rw [← origin]
        · cases silent
    | notLoaded => simpa using ih
    | failed => simp

/-! ### Which sources there are -/

/-- The file with a token: the configured one, else the one that a variable names. -/
def tokenFile? (env : Variables) (c : CredentialsConfig) : Option String :=
  c.webIdentityTokenFile.or (given? env "AWS_WEB_IDENTITY_TOKEN_FILE")

/-- A configured role is the one that a token is exchanged for. -/
theorem webIdentity?_of_role (configured : c.roleArn = some role) (env : Variables) (now : Int) :
    ∃ session, c.webIdentity? env now = (c.tokenFile? env).map fun file => ⟨file, role, session⟩ := by
  refine ⟨((c.roleSessionName.or (given? env "AWS_ROLE_SESSION_NAME")).getD (defaultSessionName now)), ?_⟩
  simp only [webIdentity?, configured, Option.some_or]
  change (c.tokenFile? env).bind _ = _
  cases c.tokenFile? env <;> rfl

theorem webIdentity_mem_iff (configured : c.roleArn = some role) (env : Variables)
    (chain : c.sources env = .ok sources) : .webIdentity ∈ sources ↔ (c.tokenFile? env).isSome := by
  obtain ⟨session, identity⟩ := webIdentity?_of_role configured env 0
  unfold CredentialsConfig.sources at chain
  split at chain
  · cases chain
  · cases chain
    rw [identity, Option.isSome_map]
    cases (c.tokenFile? env).isSome <;> cases c.hasStaticKeys <;> cases c.allowInstanceMetadata <;> simp

/-! ### Whose the credentials are -/

/-- Credentials of a role: the answer to assuming it with what the chain gives, or to exchanging a token for it. -/
inductive OfRole (w : CredentialWorld) (c : CredentialsConfig) (role : String) : Credentials → Prop
  | assumed {sources source base keys} (chain : c.sources w.env = .ok sources)
      (leads : Leads w c sources source base) (answer : w.assumeRole base role (c.sessionName w.now) = .ok keys) :
      OfRole w c role ⟨keys, .assumed role⟩
  | exchanged {token session keys} (answer : w.exchange ⟨token, role, session⟩ = .found keys) :
      OfRole w c role ⟨keys, .webIdentity role⟩

/-- What a source hands out on its own belongs to no role. -/
theorem not_ofRole_link : ¬ OfRole w c role ⟨keys, .link source⟩ :=
  nofun

theorem originOf_of_ne (other : source ≠ .webIdentity) : originOf w c source = .link source := by
  cases source <;> first | rfl | exact absurd rfl other

/-- What the source with the token gives are credentials of the configured role. -/
theorem ofRole_of_webIdentity (configured : c.roleArn = some role) (found : ask w c .webIdentity = .found keys) :
    OfRole w c role ⟨keys, originOf w c .webIdentity⟩ := by
  obtain ⟨session, identity⟩ := webIdentity?_of_role configured w.env w.now
  dsimp only [ask, originOf] at found ⊢
  rw [identity] at found ⊢
  cases file : c.tokenFile? w.env with
  | none =>
    rw [file] at found
    cases found
  | some token =>
    rw [file] at found
    exact .exchanged found

/-- With a role configured, there are credentials exactly if the chain gives some and, where no token is in play, the
role can be assumed with them. -/
theorem credentials_eq_some_iff (configured : c.roleArn = some role) :
    c.credentials w = .ok (some given) ↔
      ∃ sources first, c.sources w.env = .ok sources ∧ search w c sources = some first ∧
        if .webIdentity ∈ sources then given = first
        else w.assumeRole first.keys role (c.sessionName w.now) = .ok given.keys ∧ given.origin = .assumed role := by
  unfold credentials
  cases c.sources w.env with
  | error e => simp
  | ok sources =>
    simp only [configured, Except.ok.injEq, exists_and_left, exists_eq_left']
    cases search w c sources with
    | none => simp
    | some first =>
      simp only [Option.some.injEq, exists_eq_left']
      split_ifs
      · exact ⟨fun same => (Option.some.inj same).symm, fun same => congrArg some same.symm⟩
      · cases w.assumeRole first.keys role (c.sessionName w.now) with
        | error fault => simp
        | ok keys =>
          constructor
          · rintro ⟨⟩
            exact ⟨rfl, rfl⟩
          · rintro ⟨same, origin⟩
            cases same
            rw [← origin]

/-- Credentials that are handed out with a role configured are the role's, unless a token is in play and the first
source with an answer is another one than that of the token: then they are that source's own. -/
theorem role_in_use_iff (configured : c.roleArn = some role) (handedOut : c.credentials w = .ok (some given)) :
    ∃ sources source base, c.sources w.env = .ok sources ∧ Leads w c sources source base ∧
      (.webIdentity ∈ sources ↔ (c.tokenFile? w.env).isSome) ∧
      (OfRole w c role given ↔ (.webIdentity ∈ sources → source = .webIdentity)) ∧
      (¬ OfRole w c role given → given = ⟨base, .link source⟩) := by
  obtain ⟨sources, first, chain, found, outcome⟩ := (credentials_eq_some_iff configured).mp handedOut
  obtain ⟨source, leads, origin⟩ := search_eq_some_iff.mp found
  refine ⟨sources, source, first.keys, chain, leads, webIdentity_mem_iff configured w.env chain, ?_⟩
  split_ifs at outcome with token
  · subst outcome
    obtain ⟨keys, owner⟩ := given
    obtain rfl : owner = originOf w c source := origin
    by_cases same : source = .webIdentity
    · subst same
      obtain ⟨-, -, -, -, answer⟩ := leads
      have ofRole := ofRole_of_webIdentity configured answer
      exact ⟨⟨fun _ _ => rfl, fun _ => ofRole⟩, fun other => absurd ofRole other⟩
    · rw [originOf_of_ne same]
      exact ⟨⟨fun ofRole => absurd ofRole not_ofRole_link, fun all => absurd (all token) same⟩, fun _ => rfl⟩
  · obtain ⟨answer, assumed⟩ := outcome
    obtain ⟨keys, owner⟩ := given
    obtain rfl : owner = .assumed role := assumed
    have ofRole : OfRole w c role ⟨keys, .assumed role⟩ := .assumed chain leads answer
    exact ⟨⟨fun _ present => absurd present token, fun _ => ofRole⟩, fun other => absurd ofRole other⟩

/-- A service that reads its token, and a role that can be assumed with any keys. -/
def tokenWorld : CredentialWorld :=
  { CredentialWorld.offline (fun _ => none) ⟨[]⟩ 0 with
    exchange := fun identity => .found ⟨"T", identity.roleArn, some identity.tokenFile⟩
    assumeRole := fun base role _ => .ok ⟨base.accessKey, role, none⟩ }

def tokenConfig : CredentialsConfig :=
  { roleArn := some "arn", webIdentityTokenFile := some "/token" }

/-- Nothing but the token is there, and the role is in use by it. -/
theorem role_in_use_tokenConfig :
    tokenConfig.roleArn = some "arn" ∧
      tokenConfig.credentials tokenWorld = .ok (some ⟨⟨"T", "arn", some "/token"⟩, .webIdentity "arn"⟩) ∧
      OfRole tokenWorld tokenConfig "arn" ⟨⟨"T", "arn", some "/token"⟩, .webIdentity "arn"⟩ := by
  have handedOut : tokenConfig.credentials tokenWorld =
      .ok (some ⟨⟨"T", "arn", some "/token"⟩, .webIdentity "arn"⟩) := rfl
  obtain ⟨sources, source, base, -, -, -, -, own⟩ := role_in_use_iff rfl handedOut
  exact ⟨rfl, handedOut, Classical.byContradiction fun other => nomatch own other⟩

/-- A token file that a variable names puts the role of a configuration with static keys out of use: the keys are handed
out as they are, in a world in which the role can be assumed with them. -/
theorem static_keys_despite_role :
    let c : CredentialsConfig := { accessKey := some "A", secretKey := some "S", roleArn := some "arn" }
    let env : Variables := fun name => if name = "AWS_WEB_IDENTITY_TOKEN_FILE" then some "/token" else none
    c.credentials { tokenWorld with env } = .ok (some ⟨⟨"A", "S", none⟩, .link .static⟩) ∧
      ¬ OfRole { tokenWorld with env } c "arn" ⟨⟨"A", "S", none⟩, .link .static⟩ ∧
      c.credentials tokenWorld = .ok (some ⟨⟨"A", "arn", none⟩, .assumed "arn"⟩) :=
  ⟨rfl, not_ofRole_link, rfl⟩

end ServiceKit.CredentialsConfig
