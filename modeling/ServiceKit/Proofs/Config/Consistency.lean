import ServiceKit.Config.Load
import ServiceKit.Proofs.Config.Listener
import ServiceKit.Proofs.Config.Shared
import ServiceKit.Proofs.Value.Entries

namespace ServiceKit

theorem Stanza.strings_ok {s : Stanza} {key : String} {texts : List String} (ran : s.strings key = .ok texts) :
    ∃ entries, texts = Value.tidy entries := by
  obtain ⟨found, atKey, rfl⟩ := Outcome.map_ok ran
  rcases read_ok atKey with ⟨-, rfl⟩ | ⟨v, texts, -, read, rfl⟩
  · exact ⟨[], rfl⟩
  · exact Value.readStrings_ok read

namespace Listener

/-- The rules that the settings of a listener keep between them. What serves a listener relies on them
and does not look again. -/
structure Consistent (l : Listener) : Prop where
  located : l.kind = .unix → l.address.isSome
  minVersion : ∀ version, l.tls.minVersion = some version → version ∈ tlsVersions
  maxVersion : ∀ version, l.tls.maxVersion = some version → version ∈ tlsVersions
  clientCerts : ¬(l.tls.requireClientCert ∧ l.tls.disableClientCerts)
  proxies : l.proxy.behavior = some .allowAuthorized ∨ l.proxy.behavior = some .denyUnauthorized →
    l.proxy.authorized ≠ []
  origins : "*" ∈ l.cors.origins → l.cors.origins = ["*"]
  hopSkips : l.forwarded.hopSkips < 2 ^ 63
  purposes : ∀ purpose ∈ l.purpose,
    purpose ≠ "" ∧ Text.trim purpose = purpose ∧ ∀ c ∈ purpose.toList, c.isUpper = false

variable {s : Stanza}

theorem readPurpose_ok {purposes : List String} (ran : readPurpose s = .ok purposes) :
    ∀ purpose ∈ purposes,
      purpose ≠ "" ∧ Text.trim purpose = purpose ∧ ∀ c ∈ purpose.toList, c.isUpper = false := by
  obtain ⟨texts, atKey, rfl⟩ := Outcome.map_ok ran
  obtain ⟨entries, rfl⟩ := Stanza.strings_ok atKey
  intro purpose member
  obtain ⟨entry, inEntries, rfl⟩ := List.mem_map.mp member
  obtain ⟨nonempty, trimmed⟩ := Value.tidy_of_mem inEntries
  refine ⟨fun none => nonempty (Text.toLower_eq_empty.mp none), ?_, fun c => Text.not_isUpper_of_mem_toLower⟩
  rw [Text.trim_toLower, trimmed]

theorem readTlsVersion_ok {key version : String} (ran : readTlsVersion s key = .ok (some version)) :
    version ∈ tlsVersions := by
  unfold readTlsVersion at ran
  cases found : s.lowercase key with
  | none =>
    rw [found] at ran
    cases ran
  | some text =>
    rw [found] at ran
    dsimp only at ran
    split_ifs at ran with known
    cases ran
    simpa using known

theorem readTls_ok {tls : TlsSettings} (ran : readTls s = .ok tls) :
    readTlsVersion s "tls_min_version" = .ok tls.minVersion ∧
      readTlsVersion s "tls_max_version" = .ok tls.maxVersion ∧
      ¬(tls.requireClientCert ∧ tls.disableClientCerts) := by
  unfold readTls at ran
  obtain ⟨disable, -, ran⟩ := Outcome.bind_ok ran
  obtain ⟨minVersion, atMin, ran⟩ := Outcome.bind_ok ran
  obtain ⟨maxVersion, atMax, ran⟩ := Outcome.bind_ok ran
  obtain ⟨suites, -, ran⟩ := Outcome.bind_ok ran
  obtain ⟨required, -, ran⟩ := Outcome.bind_ok ran
  obtain ⟨disabled, -, ran⟩ := Outcome.bind_ok ran
  dsimp only at ran
  split_ifs at ran with both
  · cases ran
  · cases ran
    exact ⟨atMin, atMax, by simpa using both⟩

/-- A behavior that goes by addresses has some. -/
theorem readProxy_ok {proxy : ProxySettings} (ran : readProxy s = .ok proxy)
    (needed : proxy.behavior.any (·.needsAddresses)) : proxy.authorized ≠ [] := by
  unfold readProxy at ran
  obtain ⟨behavior, -, ran⟩ := Outcome.bind_ok ran
  obtain ⟨authorized, -, ran⟩ := Outcome.bind_ok ran
  dsimp only at ran
  split_ifs at ran with lost
  · cases ran
  · cases ran
    simpa [needed] using lost

/-- A wildcard among the origins stands alone. -/
theorem readCors_ok {cors : CorsSettings} (ran : readCors s = .ok cors) (wildcard : "*" ∈ cors.origins) :
    cors.origins = ["*"] := by
  unfold readCors at ran
  obtain ⟨enabled, -, ran⟩ := Outcome.bind_ok ran
  obtain ⟨origins, -, ran⟩ := Outcome.bind_ok ran
  obtain ⟨headers, -, ran⟩ := Outcome.bind_ok ran
  dsimp only at ran
  split_ifs at ran with mixed
  · cases ran
  · cases ran
    have few : origins.length ≤ 1 := by simpa [wildcard] using mixed
    obtain ⟨origin, rfl⟩ := List.length_eq_one_iff.mp (Nat.le_antisymm few (List.length_pos_of_mem wildcard))
    rw [List.mem_singleton.mp wildcard]

theorem ReadFrom.consistent {label : Option String} {l : Listener} (read : ReadFrom label s l) : Consistent l := by
  obtain ⟨minVersion, maxVersion, clientCerts⟩ := readTls_ok read.tls
  have hops := readHopSkips_le (readForwarded_ok read.forwarded).2.1
  refine {
    located := read.located
    minVersion := fun version set => readTlsVersion_ok (set ▸ minVersion)
    maxVersion := fun version set => readTlsVersion_ok (set ▸ maxVersion)
    clientCerts := clientCerts
    proxies := fun behavior => readProxy_ok read.proxy ?_
    origins := readCors_ok read.cors
    hopSkips := Nat.lt_of_le_of_lt hops (by decide)
    purposes := readPurpose_ok read.purpose }
  rcases behavior with set | set <;> rw [set] <;> rfl

end Listener

namespace SharedConfig

/-- The configurations that come of documents: the empty one, those that documents are accepted as, and
what they are merged into, in any order. -/
inductive Obtained : SharedConfig → Prop where
  | empty : Obtained {}
  | parsed {text : String} {c : SharedConfig} (accepted : (parse text).result = .ok c) : Obtained c
  | merged {a b : SharedConfig} (first : Obtained a) (later : Obtained b) : Obtained (a.merge b)

theorem obtained_of_loadFile {fs : FileSystem} {path : String} {c : SharedConfig}
    (ran : (loadFile fs path).result = .ok c) : Obtained c := by
  unfold loadFile at ran
  cases content : fs.readText path with
  | error fault =>
    rw [content] at ran
    cases ran
  | ok text =>
    rw [content] at ran
    dsimp only at ran
    split at ran
    · exact .parsed ran
    · exact .parsed ran
    · exact .parsed ran

theorem obtained_of_loadAll {fs : FileSystem} {paths : List String} {start c : SharedConfig}
    (obtained : Obtained start) (ran : (loadAll fs start paths).result = .ok c) : Obtained c := by
  induction paths generalizing start with
  | nil =>
    cases ran
    exact obtained
  | cons path rest ih =>
    obtain ⟨next, atFile, ran⟩ := Checked.bind_ok ran
    exact ih (.merged obtained (obtained_of_loadFile atFile)) ran

/-- What a directory is loaded as comes of its documents. -/
theorem obtained_of_loadDir {fs : FileSystem} {dir : String} {c : SharedConfig}
    (ran : (loadDir fs dir).result = .ok c) : Obtained c := by
  unfold loadDir at ran
  dsimp only at ran
  split at ran
  · cases ran
  · split at ran
    · cases ran
    · exact obtained_of_loadAll .empty ran
    · cases ran

/-- Every listener of a configuration was read from a stanza, whatever was merged. -/
theorem Obtained.exists_readFrom {c : SharedConfig} (obtained : Obtained c) :
    ∀ l ∈ c.listeners, ∃ label s, Listener.ReadFrom label s l := by
  induction obtained with
  | empty => exact fun l member => absurd member List.not_mem_nil
  | parsed accepted =>
    intro l member
    obtain ⟨body, -, ran⟩ := parse_ok accepted
    obtain ⟨top, whole⟩ := ofBody_ok ran
    exact Listener.readFrom_of_mem whole.listeners member
  | merged _ _ first later =>
    intro l member
    rcases List.mem_append.mp member with inFirst | inLater
    · exact first l inFirst
    · exact later l inLater

/-- Every listener of a configuration keeps the rules between its settings, whatever was merged. -/
theorem Obtained.consistent_listeners {c : SharedConfig} (obtained : Obtained c) :
    ∀ l ∈ c.listeners, l.Consistent := by
  induction obtained with
  | empty => exact fun l member => absurd member List.not_mem_nil
  | parsed accepted =>
    intro l member
    obtain ⟨body, -, ran⟩ := parse_ok accepted
    obtain ⟨top, whole⟩ := ofBody_ok ran
    obtain ⟨label, s, read⟩ := Listener.readFrom_of_mem whole.listeners member
    exact read.consistent
  | merged _ _ first later =>
    intro l member
    rcases List.mem_append.mp member with inFirst | inLater
    · exact first l inFirst
    · exact later l inLater

/-- A socket for requests with as many hops as there can be. -/
def socketFile : String :=
  "listener \"unix\" \x7b\n  address = \"/run/s\"\n  purpose = \" Proxy, ,API\"\n" ++
    "  tls_min_version = \"TLS12\"\n  x_forwarded_for_hop_skips = \"9223372036854775807\"\n\x7d\n"

/-- A listener that is open to all origins. -/
def openFile : String :=
  "listener \"tcp\" \x7b\n  purpose = [true, \"Web \"]\n  cors_allowed_origins = [\" * \", \"\"]\n\x7d\n"

theorem consistent_socketFile_openFile :
    ∃ a b, (parse socketFile).result = .ok a ∧ (parse openFile).result = .ok b ∧
      (a.merge b).listeners.map (fun l => (l.purpose, l.tls.minVersion, l.cors.origins, l.forwarded.hopSkips)) =
        [(["proxy", "api"], some "tls12", [], 2 ^ 63 - 1), (["true", "web"], none, ["*"], 0)] ∧
      Obtained (a.merge b) ∧ ∀ l ∈ (a.merge b).listeners, l.Consistent := by
  have read : ((parse socketFile).result.toOption.bind fun a => (parse openFile).result.toOption.map fun b =>
      (a.merge b).listeners.map fun l => (l.purpose, l.tls.minVersion, l.cors.origins, l.forwarded.hopSkips)) =
      some [(["proxy", "api"], some "tls12", [], 2 ^ 63 - 1), (["true", "web"], none, ["*"], 0)] := by
    decide +kernel
  obtain ⟨a, found, rest⟩ := Option.bind_eq_some_iff.mp read
  obtain ⟨b, found', shown⟩ := Option.map_eq_some_iff.mp rest
  have ran := Outcome.ok_of_toOption found
  have ran' := Outcome.ok_of_toOption found'
  have obtained : Obtained (a.merge b) := .merged (.parsed ran) (.parsed ran')
  exact ⟨a, b, ran, ran', shown, obtained, obtained.consistent_listeners⟩

end SharedConfig

end ServiceKit
