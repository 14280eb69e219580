import Mathlib.Order.BooleanAlgebra.Set
import ServiceKit.Credentials.Rotation
import ServiceKit.Proofs.Outcome

namespace ServiceKit

namespace Traced
variable {ε α β : Type} {x : Traced ε α}

theorem bind_of_ok (f : α → Traced ε β) {a : α} (ran : x.result = .ok a) : x >>= f = (f a).after x.calls := by
  change x.bind f = _
  rw [bind, ran]
  rfl

theorem bind_of_error (f : α → Traced ε β) {e : ε} (failed : x.result = .error e) :
    x >>= f = ⟨x.calls, .error e⟩ := by
  change x.bind f = _
  rw [bind, failed]

end Traced

namespace AccountCall

/-- The active keys of an account after a request. What is answered with an error has no effect, and an
answer without a key has made none. -/
def effect (active : Set String) : AccountCall → Set String
  | createAccessKey _ _ (.ok (some key)) => insert key.accessKeyId active
  | deleteAccessKey _ id _ (.ok ()) => active \ {id}
  | _ => active

def activeAfter (active : Set String) (calls : List AccountCall) : Set String :=
  calls.foldl effect active

/-- The error that a rotation ends with at an answer, if it has to end there. -/
def failure? : AccountCall → Option CredentialsError
  | getUser _ (.error fault) => some (.service .getUser fault)
  | getUser _ (.ok none) => some .noUser
  | createAccessKey _ _ (.error fault) => some (.service .createAccessKey fault)
  | createAccessKey _ _ (.ok none) => some .noKey
  | callerIdentity _ (.error fault) => some (.keyNotAccepted fault)
  | deleteAccessKey _ _ _ (.error fault) => some (.service .deleteAccessKey fault)
  | _ => none

/-- The key that a request made. -/
def made? : AccountCall → Option RotatedKey
  | createAccessKey _ _ (.ok made) => made
  | _ => none

/-- The key that a request asks to delete, whatever the answer. -/
def deleted? : AccountCall → Option String
  | deleteAccessKey _ id _ _ => some id
  | _ => none

/-- Calls that ask who the sender is, all signed alike. -/
def Polls (signer : Option AccessKeys) (calls : List AccountCall) : Prop :=
  ∀ call ∈ calls, ∃ answer, call = callerIdentity signer answer

theorem polls_harmless {signer : Option AccessKeys} {calls : List AccountCall} (polls : Polls signer calls) :
    ∀ call ∈ calls, call.made? = none ∧ call.deleted? = none := by
  intro call member
  obtain ⟨answer, rfl⟩ := polls call member
  exact ⟨rfl, rfl⟩

/-- Whatever stands behind a stretch without a call, a split at that call comes behind it too. -/
theorem prefix_of_split {first before rest : List AccountCall} {call : AccountCall}
    (second : List AccountCall) (split : first ++ second = before ++ call :: rest) (missing : call ∉ first) :
    first <+: before := by
  rcases List.append_eq_append_iff.mp split with ⟨gap, same, -⟩ | ⟨gap, same, later⟩
  · exact ⟨gap, same.symm⟩
  · cases gap with
    | nil => exact ⟨[], by simpa using same⟩
    | cons head more =>
      obtain ⟨rfl, -⟩ := List.cons.inj later
      exact absurd (by simp [same]) missing

theorem activeAfter_append (active : Set String) (calls more : List AccountCall) :
    activeAfter active (calls ++ more) = activeAfter (activeAfter active calls) more :=
  List.foldl_append

/-- Asking changes nothing. -/
theorem activeAfter_polls {signer : Option AccessKeys} {calls : List AccountCall}
    (polls : Polls signer calls) (active : Set String) : activeAfter active calls = active := by
  induction calls with
  | nil => rfl
  | cons call rest ih =>
    obtain ⟨⟨answer, rfl⟩, later⟩ := List.forall_mem_cons.mp polls
    exact ih later

end AccountCall

open AccountCall

namespace CredentialsConfig
variable {w : CredentialWorld} {s : AccountServices} {watch : Stopwatch} {wait : Duration}

/-- Keys that a new key is proved with: itself, or those of a role that was assumed with it. -/
def ProvedWith (w : CredentialWorld) (key : RotatedKey) (keys : AccessKeys) : Prop :=
  let new : AccessKeys := ⟨key.accessKeyId, key.secretAccessKey, none⟩
  keys = new ∨ ∃ role session, w.assumeRole new role session = .ok keys

/-- A configuration with a key pair signs with it, or with the keys of a role assumed with it. -/
theorem signer_of_keys {c : CredentialsConfig} {access secret : String}
    (hasAccess : c.accessKey = some access) (hasSecret : c.secretKey = some secret) :
    ∃ signer, c.signer w = .ok signer ∧ ∀ keys ∈ signer, keys = ⟨access, secret, c.sessionToken⟩ ∨
      ∃ role session, w.assumeRole ⟨access, secret, c.sessionToken⟩ role session = .ok keys := by
  obtain ⟨others, sources⟩ : ∃ others, c.sources w.env = .ok (.static :: others) :=
    ⟨_, by simp [CredentialsConfig.sources, checkKeys, hasStaticKeys, hasAccess, hasSecret]; rfl⟩
  have first : search w c (.static :: others) =
      some ⟨⟨access, secret, c.sessionToken⟩, .link .static⟩ := by
    simp [search, ask, staticKeys, hasAccess, hasSecret, originOf]
  simp only [signer, credentials, sources, first, Except.map]
  refine ⟨_, rfl, ?_⟩
  cases c.roleArn with
  | none => simp
  | some role =>
    dsimp only
    split_ifs
    · simp
    · cases assumed : w.assumeRole ⟨access, secret, c.sessionToken⟩ role (c.sessionName w.now) with
      | error fault => simp
      | ok keys => simpa using Or.inr ⟨role, _, assumed⟩

/-- How waiting for a new key ends: with the request that was accepted, or with the last refusal. -/
theorem verify_cases (s : AccountServices) (watch : Stopwatch) (wait : Duration)
    (signer : Option AccessKeys) (elapsed n : Nat) :
    ∃ before answer, Polls signer before ∧ (∀ identity, answer = .ok identity → signer.isSome) ∧
      (verify s watch wait signer elapsed n).calls = before ++ [.callerIdentity signer answer] ∧
      (verify s watch wait signer elapsed n).result =
        match answer with
        | .ok _ => .ok ()
        | .error fault => .error (.keyNotAccepted fault) := by
  fun_induction verify s watch wait signer elapsed n with
  | case1 elapsed n asked identity accepted =>
    have sent : signer.isSome := by
      cases signer with
      | none => cases accepted
      | some keys => rfl
    exact ⟨[], .ok identity, by simp [Polls], fun _ _ => sent, by rw [← accepted]; rfl, rfl⟩
  | case2 elapsed n asked fault refused goesOn ih =>
    obtain ⟨before, answer, polls, sent, calls, result⟩ := ih
    refine ⟨.callerIdentity signer (.error fault) :: before, answer, ?_, sent, ?_, ?_⟩
    · exact List.forall_mem_cons.mpr ⟨⟨_, rfl⟩, polls⟩
    · rw [Traced.calls_after, calls, ← refused]
      rfl
    · rw [Traced.result_after, result]
  | case3 elapsed n asked fault refused stops =>
    exact ⟨[], .error fault, by simp [Polls], by simp, by rw [← refused]; rfl, rfl⟩

/-- How a rotation goes on once there is a new key. -/
inductive Finish (watch : Stopwatch) (wait : Duration) (signer : Option AccessKeys) (old user : String) :
    List AccountCall → Except (Stop CredentialsError) Unit → Prop where
  | unbegun {crash : Crash} (tooLong : Stopwatch.limit ≤ watch.start.total + wait.total) :
      Finish watch wait signer old user [] (.error (.crash crash))
  | refused {before} (polls : Polls signer before) (fault : ServiceFault) :
      Finish watch wait signer old user (before ++ [.callerIdentity signer (.error fault)])
        (.error (.error (.keyNotAccepted fault)))
  | undeleted {before} (polls : Polls signer before) (sent : signer.isSome) (identity : CallerIdentity)
      (fault : ServiceFault) :
      Finish watch wait signer old user
        (before ++ [.callerIdentity signer (.ok identity), .deleteAccessKey signer old user (.error fault)])
        (.error (.error (.service .deleteAccessKey fault)))
  | deleted {before} (polls : Polls signer before) (sent : signer.isSome) (identity : CallerIdentity) :
      Finish watch wait signer old user
        (before ++ [.callerIdentity signer (.ok identity), .deleteAccessKey signer old user (.ok ())])
        (.ok ())

theorem finishRotation_finish {c : CredentialsConfig} {signer : Option AccessKeys}
    (signs : c.signer w = .ok signer) (old user : String) :
    Finish watch wait signer old user (c.finishRotation w s watch wait old user).calls
      (c.finishRotation w s watch wait old user).result := by
  obtain ⟨before, answer, polls, sent, calls, result⟩ := verify_cases s watch wait signer 0 0
  unfold finishRotation
  rw [signs]
  dsimp only
  split_ifs with inRange
  · cases answer with
    | error fault =>
      have failed : ((verify s watch wait signer 0 0).mapError Stop.error).result =
          .error (.error (.keyNotAccepted fault)) := by rw [Traced.result_mapError, result]; rfl
      rw [Traced.bind_of_error _ failed, Traced.calls_mapError, calls]
      exact .refused polls fault
    | ok identity =>
      have accepted : ((verify s watch wait signer 0 0).mapError
          (Stop.error : CredentialsError → Stop CredentialsError)).result = .ok () := by
        rw [Traced.result_mapError, result]
        rfl
      have sentDelete : (sendDelete s signer old user).calls =
          [.deleteAccessKey signer old user (sendDelete s signer old user).result] := rfl
      rw [Traced.bind_of_ok _ accepted, Traced.calls_after, Traced.result_after, Traced.calls_mapError,
        Traced.calls_mapError, Traced.result_mapError, calls, List.append_assoc, sentDelete]
      cases (sendDelete s signer old user).result with
      | error fault => exact .undeleted polls (sent identity rfl) identity fault
      | ok _ => exact .deleted polls (sent identity rfl) identity
  · exact .unbegun (by omega)

/-- How the first part of a rotation goes: it ends with the request that failed, or with a key. -/
inductive Start (s : AccountServices) (signer : Option AccessKeys) :
    List AccountCall → Except CredentialsError RotatedKey → Prop where
  | failed (calls : List AccountCall) {call : AccountCall} {e : CredentialsError}
      (blamed : call.failure? = some e)
      (harmless : ∀ other ∈ calls ++ [call], other.made? = none ∧ other.deleted? = none)
      (unchanged : ∀ active, activeAfter active (calls ++ [call]) = active) :
      Start s signer (calls ++ [call]) (.error e)
  | made {keys : AccessKeys} {user : String} {key : RotatedKey}
      (answered : s.createAccessKey keys user = .ok (some key)) :
      Start s signer [.getUser signer (.ok (some user)), .createAccessKey signer user (.ok (some key))]
        (.ok key)

theorem createKey_start (s : AccountServices) (signer : Option AccessKeys) :
    Start s signer (createKey s signer).calls (createKey s signer).result := by
  have askedUser : (sendUser s signer).calls = [.getUser signer (sendUser s signer).result] := rfl
  unfold createKey
  cases asked : (sendUser s signer).result with
  | error fault =>
    rw [asked] at askedUser
    rw [Traced.bind_of_error _ (by rw [Traced.result_mapError, asked]; rfl), Traced.calls_mapError, askedUser]
    exact .failed [] rfl (by simp [made?, deleted?]) fun _ => rfl
  | ok found =>
    rw [asked] at askedUser
    rw [Traced.bind_of_ok _ (by rw [Traced.result_mapError, asked]; rfl), Traced.calls_after,
      Traced.result_after, Traced.calls_mapError, askedUser]
    cases found with
    | none => exact .failed [] rfl (by simp [made?, deleted?]) fun _ => rfl
    | some user =>
      have askedKey : (sendCreate s signer user).calls =
          [.createAccessKey signer user (sendCreate s signer user).result] := rfl
      dsimp only
      cases created : (sendCreate s signer user).result with
      | error fault =>
        rw [created] at askedKey
        rw [Traced.bind_of_error _ (by rw [Traced.result_mapError, created]; rfl), Traced.calls_mapError,
          askedKey]
        exact .failed [_] rfl (by simp [made?, deleted?]) fun _ => rfl
      | ok key =>
        rw [created] at askedKey
        rw [Traced.bind_of_ok _ (by rw [Traced.result_mapError, created]; rfl), Traced.calls_after,
          Traced.result_after, Traced.calls_mapError, askedKey]
        cases key with
        | none => exact .failed [_] rfl (by simp [made?, deleted?]) fun _ => rfl
        | some key =>
          cases signer with
          | none => cases created
          | some keys => exact .made created

/-- How a rotation goes as a whole. -/
inductive Course (w : CredentialWorld) (s : AccountServices) (watch : Stopwatch) (wait : Duration)
    (c : CredentialsConfig) : Rotation → Prop where
  | keyless (missing : c.accessKey = none ∨ c.secretKey = none) :
      Course w s watch wait c ⟨[], c, .error (.error .noKeysToRotate)⟩
  | unmade {signer calls e} (start : Start s signer calls (.error e)) :
      Course w s watch wait c ⟨calls, c, .error (.error e)⟩
  | settled {signer new calls more result} {old : String} {key : RotatedKey}
      (hasOld : c.accessKey = some old) (proves : ∀ keys ∈ new, ProvedWith w key keys)
      (start : Start s signer calls (.ok key)) (finish : Finish watch wait new old key.userName more result) :
      Course w s watch wait c (settle s signer c key (calls ++ more) result)

theorem rotate_course (c : CredentialsConfig) : Course w s watch wait c (c.rotate w s watch wait) := by
  unfold rotate
  split
  · rename_i old secret hasOld hasSecret
    obtain ⟨signer, signs, -⟩ := signer_of_keys hasOld hasSecret
    have start := createKey_start s signer
    rw [signs]
    dsimp only
    cases made : (createKey s signer).result with
    | error e =>
      rw [made] at start
      exact .unmade start
    | ok key =>
      rw [made] at start
      obtain ⟨new, signsNew, proves⟩ : ∃ new, (c.withKey key).signer w = .ok new ∧
          ∀ keys ∈ new, ProvedWith w key keys := signer_of_keys rfl rfl
      exact .settled hasOld proves start (finishRotation_finish signsNew old key.userName)
  · rename_i missing
    refine .keyless ?_
    cases hasOld : c.accessKey with
    | none => exact Or.inl rfl
    | some old =>
      cases hasSecret : c.secretKey with
      | none => exact Or.inr rfl
      | some secret => exact absurd hasSecret (missing old secret hasOld)

/-- A rotation that went through: the new key stands in place of the old one, in the configuration and in
the account, and all else is as it was. -/
structure Replaced (c : CredentialsConfig) (active : Set String) (r : Rotation) (key : RotatedKey) :
    Prop where
  config : r.config = { c with accessKey := some key.accessKeyId, secretKey := some key.secretAccessKey,
                               sessionToken := none }
  made : ∃ call ∈ r.calls, call.made? = some key
  account : ∃ old, c.accessKey = some old ∧
    activeAfter active r.calls = insert key.accessKeyId (active \ {old})

/-- A rotation that came to nothing: the configuration and the account are as they were, but for a new
key that a last request could not delete. The error is that of the request before. -/
structure Withdrawn (c : CredentialsConfig) (active : Set String) (r : Rotation) (e : CredentialsError) :
    Prop where
  config : r.config = c
  held : ∀ old ∈ c.accessKey, old ∈ activeAfter active r.calls
  blamed : (c.accessKey = none ∨ c.secretKey = none) ∧ r.calls = [] ∧ e = .noKeysToRotate ∨
    ∃ before call cleanup, r.calls = before ++ call :: cleanup ∧ call.failure? = some e ∧
      ((∀ other ∈ r.calls, other.made? = none) ∧ cleanup = [] ∧ activeAfter active r.calls = active ∨
        ∃ maker ∈ before, ∃ key signer answer, maker.made? = some key ∧
          cleanup = [.deleteAccessKey signer key.accessKeyId key.userName answer] ∧
          activeAfter active r.calls =
            match answer with
            | .ok () => active
            | .error _ => insert key.accessKeyId active)

variable {c : CredentialsConfig} {active : Set String} {signer new : Option AccessKeys} {old user : String}

/-- Finishing deletes the old key at most, and that only if it goes through. -/
theorem Finish.active_eq {calls : List AccountCall} {result : Except (Stop CredentialsError) Unit}
    (finish : Finish watch wait new old user calls result) (active : Set String) :
    activeAfter active calls =
      match result with
      | .ok () => active \ {old}
      | .error _ => active := by
  cases finish with
  | unbegun tooLong => rfl
  | refused polls fault => rw [activeAfter_append, activeAfter_polls polls]; rfl
  | undeleted polls sent identity fault => rw [activeAfter_append, activeAfter_polls polls]; rfl
  | deleted polls sent identity => rw [activeAfter_append, activeAfter_polls polls]; rfl

/-- A deletion stands behind an accepted request of the new key. -/
theorem Finish.split_at_deletion {calls : List AccountCall} {result : Except (Stop CredentialsError) Unit}
    (finish : Finish watch wait new old user calls result) :
    (∀ call ∈ calls, call.deleted? = none) ∨
      ∃ before deletion keys identity, calls = before ++ [.callerIdentity new (.ok identity), deletion] ∧
        (∀ call ∈ before, call.deleted? = none) ∧ new = some keys := by
  cases finish with
  | unbegun tooLong => exact Or.inl (by simp)
  | refused polls fault =>
    refine Or.inl fun call member => ?_
    rcases List.mem_append.mp member with early | last
    · exact (polls_harmless polls call early).2
    · rw [List.mem_singleton.mp last]
      rfl
  | undeleted polls sent identity fault =>
    obtain ⟨keys, rfl⟩ := Option.isSome_iff_exists.mp sent
    exact Or.inr ⟨_, _, keys, identity, rfl, fun call member => (polls_harmless polls call member).2, rfl⟩
  | deleted polls sent identity =>
    obtain ⟨keys, rfl⟩ := Option.isSome_iff_exists.mp sent
    exact Or.inr ⟨_, _, keys, identity, rfl, fun call member => (polls_harmless polls call member).2, rfl⟩

/-- Finishing fails with the error of its last request. -/
theorem Finish.blames {calls : List AccountCall} {e : CredentialsError}
    (finish : Finish watch wait new old user calls (.error (.error e))) :
    ∃ before call, calls = before ++ [call] ∧ call.failure? = some e := by
  cases finish with
  | refused polls fault => exact ⟨_, _, rfl, rfl⟩
  | undeleted polls sent identity fault =>
    exact ⟨_ ++ [.callerIdentity new (.ok identity)], _, by rw [List.append_assoc]; rfl, rfl⟩

/-- The old key is deleted only behind an accepted request that is signed with a new key. -/
def DeletesProven (w : CredentialWorld) (c : CredentialsConfig) (calls : List AccountCall) : Prop :=
  ∀ old ∈ c.accessKey, ∀ before call rest, calls = before ++ call :: rest → call.deleted? = some old →
    ∃ key keys identity, (∃ maker ∈ before, maker.made? = some key) ∧ ProvedWith w key keys ∧
      .callerIdentity (some keys) (.ok identity) ∈ before

theorem deletesProven_of_harmless {calls : List AccountCall}
    (harmless : ∀ call ∈ calls, call.deleted? = none) : DeletesProven w c calls := by
  intro old _ before call rest split deletes
  have missing := harmless call (by simp [split])
  rw [missing] at deletes
  cases deletes

/-- The calls of a rotation that made a key, with the requests to delete that key again. -/
theorem deletesProven_of_finish {key : RotatedKey} {more : List AccountCall}
    {result : Except (Stop CredentialsError) Unit} (cleanup : List AccountCall)
    (hasOld : c.accessKey = some old) (proves : ∀ keys ∈ new, ProvedWith w key keys)
    (finish : Finish watch wait new old key.userName more result)
    (other : ∀ call ∈ cleanup, call.deleted? ≠ some old) :
    DeletesProven w c (.getUser signer (.ok (some user)) ::
      .createAccessKey signer user (.ok (some key)) :: (more ++ cleanup)) := by
  intro gone isOld before call rest split deletes
  obtain rfl : old = gone := Option.some.inj (hasOld.symm.trans isOld)
  rcases finish.split_at_deletion with harmless | ⟨polls, deletion, keys, identity, rfl, harmless, rfl⟩
  · have silent : ∀ call ∈ AccountCall.getUser signer (.ok (some user)) ::
        .createAccessKey signer user (.ok (some key)) :: (more ++ cleanup), call.deleted? ≠ some old := by
      simp only [List.forall_mem_cons, List.forall_mem_append]
      exact ⟨nofun, nofun, fun call member => by simp [harmless call member], other⟩
    exact absurd deletes (silent call (by simp [split]))
  · -- no request up to the accepted one deletes anything, so these all stand before the deletion
    have silent : ∀ call ∈ AccountCall.getUser signer (.ok (some user)) ::
        .createAccessKey signer user (.ok (some key)) ::
        (polls ++ [.callerIdentity (some keys) (.ok identity)]), call.deleted? ≠ some old := by
      simp only [List.forall_mem_cons, List.forall_mem_append]
      exact ⟨nofun, nofun, fun call member => by simp [harmless call member], nofun, by simp⟩
    have early := prefix_of_split (deletion :: cleanup) (by simpa using split)
      fun member => silent call member deletes
    exact ⟨key, keys, identity, ⟨.createAccessKey signer user (.ok (some key)), early.subset (by simp), rfl⟩,
      proves keys rfl, early.subset (by simp)⟩

/-- The new key takes the old one's place once the old one is deleted. -/
theorem replaced_of_finish {key : RotatedKey} {more : List AccountCall} (hasOld : c.accessKey = some old)
    (distinct : key.accessKeyId ≠ old) (finish : Finish watch wait new old key.userName more (.ok ())) :
    Replaced c active
      ⟨.getUser signer (.ok (some user)) :: .createAccessKey signer user (.ok (some key)) :: more,
        c.withKey key, .ok key⟩ key := by
  refine ⟨rfl, ⟨.createAccessKey signer user (.ok (some key)), by simp, rfl⟩, old, hasOld, ?_⟩
  change activeAfter (insert key.accessKeyId active) more = _
  rw [finish.active_eq]
  exact (Set.insert_sdiff_singleton_comm distinct active).symm

/-- The new key is deleted again if finishing fails, unless that fails too. -/
theorem withdrawn_of_finish {key : RotatedKey} {more : List AccountCall} {e : CredentialsError}
    {answer : Except ServiceFault Unit} (held : ∀ old ∈ c.accessKey, old ∈ active)
    (isNew : key.accessKeyId ∉ active)
    (finish : Finish watch wait new old key.userName more (.error (.error e))) :
    Withdrawn c active
      ⟨.getUser signer (.ok (some user)) :: .createAccessKey signer user (.ok (some key)) ::
        (more ++ [.deleteAccessKey signer key.accessKeyId key.userName answer]), c, .error (.error e)⟩ e := by
  have left : activeAfter active (.getUser signer (.ok (some user)) ::
      .createAccessKey signer user (.ok (some key)) ::
        (more ++ [.deleteAccessKey signer key.accessKeyId key.userName answer])) =
      match answer with
      | .ok () => active
      | .error _ => insert key.accessKeyId active := by
    change activeAfter (insert key.accessKeyId active) (more ++ _) = _
    rw [activeAfter_append, finish.active_eq]
    cases answer with
    | ok _ => exact Set.insert_sdiff_self_of_notMem isNew
    | error fault => rfl
  obtain ⟨before, call, rfl, blamed⟩ := finish.blames
  refine ⟨rfl, fun old isOld => ?_, Or.inr ⟨.getUser signer (.ok (some user)) ::
    .createAccessKey signer user (.ok (some key)) :: before, call,
    [.deleteAccessKey signer key.accessKeyId key.userName answer], by simp, blamed, Or.inr ?_⟩⟩
  · rw [left]
    cases answer with
    | ok _ => exact held old isOld
    | error fault => exact Set.mem_insert_of_mem _ (held old isOld)
  · exact ⟨.createAccessKey signer user (.ok (some key)), by simp, key, signer, answer, rfl, rfl, left⟩

/-- Key rotation is all or nothing, for a service that makes no key that exists already. The clock alone
can stop it halfway, and only if it cannot show the end of the wait. -/
theorem rotate_all_or_nothing (c : CredentialsConfig) (active : Set String)
    (held : ∀ old ∈ c.accessKey, old ∈ active)
    (fresh : ∀ keys user key, s.createAccessKey keys user = .ok (some key) → key.accessKeyId ∉ active) :
    let r := c.rotate w s watch wait
    (∀ key, r.result = .ok key → Replaced c active r key) ∧
      (∀ e, r.result = .error (.error e) → Withdrawn c active r e) ∧
      (∀ crash, r.result = .error (.crash crash) → Stopwatch.limit ≤ watch.start.total + wait.total) ∧
      DeletesProven w c r.calls := by
  intro r
  have course : Course w s watch wait c r := rotate_course c
  generalize r = r at course
  cases course with
  | keyless missing =>
    refine ⟨by simp, ?_, by simp, deletesProven_of_harmless (by simp)⟩
    rintro e ⟨⟩
    exact ⟨rfl, held, Or.inl ⟨missing, rfl, rfl⟩⟩
  | unmade start =>
    refine ⟨by simp, ?_, by simp, ?_⟩
    · rintro e ⟨⟩
      cases start with
      | failed calls blamed harmless unchanged =>
        refine ⟨rfl, fun old isOld => by simpa [unchanged] using held old isOld, Or.inr ?_⟩
        exact ⟨calls, _, [], rfl, blamed, Or.inl ⟨fun call member => (harmless call member).1, rfl,
          unchanged active⟩⟩
    · cases start with
      | failed calls blamed harmless unchanged =>
        exact deletesProven_of_harmless fun call member => (harmless call member).2
  | @settled signer new calls more result old key hasOld proves start finish =>
    cases start with
    | @made keys user _ answered =>
      have isNew : key.accessKeyId ∉ active := fresh keys user key answered
      have isHeld : old ∈ active := held old hasOld
      have distinct : key.accessKeyId ≠ old := fun same => isNew (same ▸ isHeld)
      cases result with
      | ok _ =>
        refine ⟨?_, nofun, nofun, ?_⟩
        · rintro _ ⟨⟩
          exact replaced_of_finish hasOld distinct finish
        · simpa [settle] using deletesProven_of_finish [] hasOld proves finish (by simp)
      | error stop =>
        cases stop with
        | crash crash =>
          refine ⟨nofun, nofun, fun _ _ => ?_, ?_⟩
          · cases finish with
            | unbegun tooLong => exact tooLong
          · simpa [settle] using deletesProven_of_finish [] hasOld proves finish (by simp)
        | error e =>
          refine ⟨nofun, ?_, nofun, ?_⟩
          · rintro _ ⟨⟩
            exact withdrawn_of_finish held isNew finish
          · exact deletesProven_of_finish _ hasOld proves finish
              (by simpa [sendDelete, send, deleted?] using distinct)

/-- An account in which a new key is accepted from the second question on, and some keys cannot be deleted. -/
def slowAccount (stuck : List String) : AccountServices where
  getUser _ := .ok (some "keel")
  createAccessKey _ _ := .ok (some ⟨"AKIANEW", "new-secret", "keel"⟩)
  deleteAccessKey _ id _ := if id ∈ stuck then .error .refused else .ok ()
  callerIdentity _ n := if n = 0 then .error .refused else .ok {}

theorem finishRotation_slowAccount (stuck : List String) {c : CredentialsConfig} {keys : AccessKeys}
    (signs : c.signer w = .ok (some keys)) (old user : String) :
    (c.finishRotation w (slowAccount stuck) {} defaultWait old user).result =
      if old ∈ stuck then .error (.error (.service .deleteAccessKey .refused)) else .ok () := by
  have inRange : ({} : Stopwatch).start.total + defaultWait.total < Stopwatch.limit := by decide
  have again : ({} : Stopwatch).afterPause 0 0 < defaultWait.total := by decide
  have asked : ∀ n, (sendIdentity (slowAccount stuck) (some keys) n).result =
      if n = 0 then .error .refused else .ok {} := fun n => rfl
  have accepted : (verify (slowAccount stuck) {} defaultWait (some keys) 0 0).result = .ok () := by
    rw [verify]
    simp only [asked, ↓reduceIte, again]
    rw [verify, asked]
    rfl
  unfold finishRotation
  rw [signs]
  dsimp only
  rw [if_pos inRange, Traced.bind_of_ok _ (by rw [Traced.result_mapError, accepted]; rfl),
    Traced.result_after, Traced.result_mapError]
  change Except.mapError _ (if old ∈ stuck then _ else _) = _
  split_ifs <;> rfl

/-- A rotation that goes through, and one that fails and leaves the new key behind. -/
theorem rotate_slowAccount :
    let c : CredentialsConfig :=
      { accessKey := some "AKIAOLD", secretKey := some "old-secret", sessionToken := some "old-token" }
    let w := CredentialWorld.offline (fun _ => none) ⟨[]⟩ 0
    let rotated stuck := c.rotate w (slowAccount stuck) {} defaultWait
    let key : RotatedKey := ⟨"AKIANEW", "new-secret", "keel"⟩
    let e : CredentialsError := .service .deleteAccessKey .refused
    ((rotated []).result = .ok key ∧ Replaced c {"AKIAOLD"} (rotated []) key) ∧
      (rotated ["AKIAOLD", "AKIANEW"]).result = .error (.error e) ∧
      Withdrawn c {"AKIAOLD"} (rotated ["AKIAOLD", "AKIANEW"]) e := by
  intro c w rotated key e
  have result : ∀ stuck, (rotated stuck).result =
      if "AKIAOLD" ∈ stuck then .error (.error e) else .ok key := by
    intro stuck
    have signs : (c.withKey key).signer w = .ok (some ⟨"AKIANEW", "new-secret", none⟩) := rfl
    change (settle (slowAccount stuck) _ c key _ (finishRotation w (slowAccount stuck) {} defaultWait
      "AKIAOLD" "keel" (c.withKey key)).result).result = _
    rw [finishRotation_slowAccount stuck signs]
    split_ifs <;> rfl
  have all := fun stuck => @rotate_all_or_nothing w (slowAccount stuck) {} defaultWait c {"AKIAOLD"}
    (by simp [c]) (by rintro keys user key ⟨⟩; simp)
  have through := result []
  have stuck := result ["AKIAOLD", "AKIANEW"]
  exact ⟨⟨through, (all []).1 key through⟩, stuck, (all _).2.1 e stuck⟩

end CredentialsConfig

end ServiceKit
