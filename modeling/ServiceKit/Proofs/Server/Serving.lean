import ServiceKit.Proofs.Config.Consistency
import ServiceKit.Proofs.Server.Ending

namespace ServiceKit

/-- A failure for want of a setting that the listener should have had. -/
def ServeError.Wanting : ServeError → Prop
  | .noCertificate _ | .noSocketPath => True
  | _ => False

namespace Server
variable {l : Listener} {host : Host} {fs : FileSystem} {now : Int} {config : SharedConfig} {server : Server}
  {fault : ServeError} {ended : List (Nat × TaskEnd)} {s : RunState}

/-! ### What a listener's task can return -/

/-- Both files are named that a certificate takes. -/
def Certified (l : Listener) : Prop :=
  l.tls.certFile.isSome ∧ l.tls.keyFile.isSome

/-- What the task of a listener on a port can return. Its settings alone decide about its address and whether there is
a certificate to ask for; the system may refuse everything else, and serving may fail at any time. -/
inductive TcpReturns (l : Listener) : Except ServeError Unit → Prop
  | unread (wrong : SocketAddress.parse? (l.address.getD defaultAddress) = none) :
      TcpReturns l (.error (.address (l.address.getD defaultAddress)))
  | uncertified {a : SocketAddress} (read : SocketAddress.parse? (l.address.getD defaultAddress) = some a)
      (secure : l.tls.disable = false) (lacking : ¬ Certified l) :
      TcpReturns l (.error (.noCertificate (if l.randomPort then { a with port := 0 } else a)))
  | refused {a : SocketAddress} (read : SocketAddress.parse? (l.address.getD defaultAddress) = some a)
      (secure : l.tls.disable = false) (certified : Certified l) (reason : String) :
      TcpReturns l (.error (.certificate reason))
  | broken {a : SocketAddress} (read : SocketAddress.parse? (l.address.getD defaultAddress) = some a)
      (equipped : l.tls.disable = false → Certified l) (fault : OsFault) :
      TcpReturns l (.error (if l.tls.disable then .bindFailed fault else .tlsFailed fault))
  | served {a : SocketAddress} (read : SocketAddress.parse? (l.address.getD defaultAddress) = some a)
      (equipped : l.tls.disable = false → Certified l) : TcpReturns l (.ok ())

/-- What the task of a listener on a socket can return. -/
inductive UnixReturns (l : Listener) : Except ServeError Unit → Prop
  | unplaced (lacking : l.address = none) : UnixReturns l (.error .noSocketPath)
  | unread {path : String} {e : SettingError} (placed : l.address = some path)
      (wrong : SocketOptions.ofSettings l.socket = .error e) : UnixReturns l (.error (.socket e))
  | unbound {path : String} {options : SocketOptions} (placed : l.address = some path)
      (read : SocketOptions.ofSettings l.socket = .ok options) (e : SettingError) :
      UnixReturns l (.error (.socket e))
  | broken {path : String} {options : SocketOptions} (placed : l.address = some path)
      (read : SocketOptions.ofSettings l.socket = .ok options) (fault : OsFault) :
      UnixReturns l (.error (.socketFailed fault))
  | served {path : String} {options : SocketOptions} (placed : l.address = some path)
      (read : SocketOptions.ofSettings l.socket = .ok options) : UnixReturns l (.ok ())

/-- What the task of a listener can return, whatever the system does. -/
def Returns (l : Listener) (result : Except ServeError Unit) : Prop :=
  match l.kind with
  | .tcp => TcpReturns l result
  | .unix => UnixReturns l result

theorem startTcp_returns (host : Host) (l : Listener) : TcpReturns l (startTcp host l).outcome := by
  unfold startTcp
  dsimp only
  split
  · exact .unread ‹_›
  · rename_i a read
    cases plain : l.tls.disable with
    | true =>
      have equipped : l.tls.disable = false → Certified l := fun secure => by simp [plain] at secure
      have broken := fun fault => TcpReturns.broken read equipped fault
      simp only [plain, if_true] at broken ⊢
      split
      · exact broken _
      · exact .served read equipped
    | false =>
      rw [if_neg Bool.false_ne_true]
      split
      · rename_i cert key named keyed
        have certified : Certified l := by simp [Certified, named, keyed]
        have broken := fun fault => TcpReturns.broken read (fun _ => certified) fault
        simp only [plain, Bool.false_eq_true, if_false] at broken
        split
        · exact .refused read plain certified _
        · split
          · exact broken _
          · exact .served read fun _ => certified
      · rename_i lacking
        refine .uncertified read plain fun certified => ?_
        obtain ⟨cert, named⟩ := Option.isSome_iff_exists.mp certified.1
        obtain ⟨key, keyed⟩ := Option.isSome_iff_exists.mp certified.2
        exact lacking cert key named keyed

theorem startUnix_returns (host : Host) (l : Listener) : UnixReturns l (startUnix host l).2.outcome := by
  unfold startUnix
  split
  · exact .unplaced ‹_›
  · rename_i path placed
    split
    · exact .unread placed ‹_›
    · rename_i options read
      dsimp only
      split
      · exact .unbound placed read _
      · exact .served placed read

/-- On every system a task returns one of these. -/
theorem start_returns (host : Host) (l : Listener) : Returns l (start host l).2.outcome := by
  unfold Returns start
  cases l.kind with
  | tcp => exact startTcp_returns host l
  | unix => exact startUnix_returns host l

/-- A task fails for want of a setting exactly where the listener is on a socket without a path, or on a port, with an
address that can be read, and is to use a certificate of which a file is not named. -/
theorem exists_wanting_iff :
    (∃ fault, Returns l (.error fault) ∧ fault.Wanting) ↔
      l.kind = .unix ∧ l.address = none ∨
      l.kind = .tcp ∧ (SocketAddress.parse? (l.address.getD defaultAddress)).isSome ∧ l.tls.disable = false ∧
        ¬ Certified l := by
  unfold Returns
  constructor
  · rintro ⟨fault, returns, wanting⟩
    cases kind : l.kind with
    | tcp =>
      rw [kind] at returns
      cases returns with
      | uncertified read secure lacking => exact Or.inr ⟨rfl, by simp [read], secure, lacking⟩
      | broken =>
        split_ifs at wanting <;> cases wanting
      | unread | refused => cases wanting
    | unix =>
      rw [kind] at returns
      cases returns with
      | unplaced lacking => exact Or.inl ⟨rfl, lacking⟩
      | unread | unbound | broken => cases wanting
  · rintro (⟨unix, lacking⟩ | ⟨tcp, read, secure, lacking⟩)
    · rw [unix]
      exact ⟨_, .unplaced lacking, trivial⟩
    · rw [tcp]
      obtain ⟨a, read⟩ := Option.isSome_iff_exists.mp read
      exact ⟨_, .uncertified read secure lacking, trivial⟩

/-! ### What building a server makes sure of -/

/-- The settings are there without which a listener's task cannot go on. -/
structure Ready (l : Listener) : Prop where
  placed : l.kind = .unix → l.address.isSome
  certified : l.kind = .tcp → l.tls.disable = false → Certified l

theorem Ready.not_wanting (ready : Ready l) (returns : Returns l (.error fault)) : ¬ fault.Wanting := by
  intro wanting
  rcases exists_wanting_iff.mp ⟨fault, returns, wanting⟩ with ⟨unix, unplaced⟩ | ⟨tcp, -, secure, lacking⟩
  · simpa [unplaced] using ready.placed unix
  · exact lacking (ready.certified tcp secure)

theorem certified_of_checkTls {index : Nat} (passed : checkTls fs index l = .ok ()) (tcp : l.kind = .tcp)
    (secure : l.tls.disable = false) : Certified l := by
  unfold checkTls at passed
  rw [if_neg (by simp [Listener.isTcp, tcp, secure])] at passed
  split at passed
  · rename_i cert key named keyed
    simp [Certified, named, keyed]
  · cases passed

theorem ready_of_build (obtained : config.Obtained) (built : build fs now config = .ok server) :
    ∀ l ∈ config.listeners, Ready l := by
  intro l member
  -- The path is looked for where the stanza is read, the certificate where the server is built.
  obtain ⟨label, stanza, read⟩ := obtained.exists_readFrom l member
  obtain ⟨index, passed⟩ := checked_of_build built l member
  exact ⟨read.located, certified_of_checkTls passed⟩

/-- The configuration that a path leads to comes of documents. -/
theorem obtained_of_loadConfig {path : String} (loaded : loadConfig fs path = .ok config) : config.Obtained := by
  have ran := Outcome.mapError_ok loaded
  split at ran
  · exact SharedConfig.obtained_of_loadDir ran
  · exact SharedConfig.obtained_of_loadFile ran

/-! ### Runs of a server -/

/-- An end that the task of a listener can come to: it returns, or it panics. -/
def TaskEnd.Of (l : Listener) : TaskEnd → Prop
  | returned result => Returns l result
  | panicked => True

/-- Each of the ends is one that the task of the listener with its number can come to. -/
def CanEnd (server : Server) (ended : List (Nat × TaskEnd)) : Prop :=
  ∀ e ∈ ended, ∃ served, server.listeners[e.1]? = some served ∧ e.2.Of served.1

/-- The failure that a run returns is one of its tasks'. -/
theorem RunState.Reached.exists_failed {pidFile : Option String} {listeners : Nat}
    (reached : Reached pidFile listeners ended s) (returned : s.returned = some (.error fault)) :
    ∃ e ∈ ended, e.2.outcome = .error fault := by
  obtain ⟨noted, tracks⟩ := tracks_of_reached reached
  obtain ⟨-, -, result, -⟩ := tracks.ending _ returned
  rw [tracks.result, eq_comm, verdict_eq_error_iff] at result
  obtain ⟨before, first, after, rfl, -, fails⟩ := result
  have member : first ∈ ended.map Prod.snd := by simp [tracks.queue]
  obtain ⟨e, e_mem, rfl⟩ := List.mem_map.mp member
  exact ⟨e, e_mem, fails⟩

theorem exists_start_of_startAll {ls : List Listener} {index : Nat} {task : Task}
    (started : (startAll host ls).2[index]? = some task) :
    ∃ host l, ls[index]? = some l ∧ task = (start host l).2 := by
  induction ls generalizing host index with
  | nil => simp [startAll] at started
  | cons l rest ih =>
    cases index with
    | zero =>
      obtain rfl := Option.some.inj started
      exact ⟨host, l, rfl, rfl⟩
    | succ index => exact ih started

/-- The tasks of a server end as they can, on every host. -/
theorem canEnd_ends (host : Host) (same : server.listeners.map Prod.fst = config.listeners) :
    CanEnd server (ends (startAll host config.listeners).2) := by
  intro e member
  obtain ⟨numbered, sorted, rfl⟩ := List.mem_map.mp member
  have started := List.mem_zipIdx_iff_getElem?.mp (List.mem_mergeSort.mp sorted)
  obtain ⟨host', l, atIndex, task⟩ := exists_start_of_startAll started
  rw [← same, List.getElem?_map, Option.map_eq_some_iff] at atIndex
  obtain ⟨served, found, rfl⟩ := atIndex
  refine ⟨served, found, ?_⟩
  rw [task]
  exact start_returns host' served.1

theorem not_wanting_of_canEnd (ready : ∀ served ∈ server.listeners, Ready served.1)
    (possible : CanEnd server ended) : ∀ e ∈ ended, e.2.outcome = .error fault → ¬ fault.Wanting := by
  intro e member failed
  obtain ⟨served, found, possible⟩ := possible e member
  obtain ⟨index, e⟩ := e
  cases e with
  | returned result =>
    have returns : Returns served.1 result := possible
    rw [show result = .error fault from failed] at returns
    exact (ready served (List.mem_of_getElem? found)).not_wanting returns
  | panicked =>
    cases failed
    exact id

theorem exists_of_writePidFile {pid : Nat} (failed : writePidFile fs pid config = .error fault) :
    ∃ path refusal, fault = .pidFile path refusal := by
  unfold writePidFile at failed
  split at failed
  · cases failed
  · rename_i path _
    cases written : writeFile fs path (Bytes.ofString (toString pid)) with
    | ok files =>
      rw [written] at failed
      cases failed
    | error refusal =>
      rw [written] at failed
      cases failed
      exact ⟨path, refusal, rfl⟩

/-- A server that was built from documents never fails for want of a certificate or of a path to a socket: no task of
its listeners can, whatever the system does, and so no run returns such a failure, in whichever order the tasks end. -/
theorem nothing_wanting_of_built (obtained : config.Obtained) (built : build fs now config = .ok server) :
    server.listeners.map Prod.fst = config.listeners ∧
    (∀ l ∈ config.listeners, ∀ fault, Returns l (.error fault) → ¬ fault.Wanting) ∧
    (∀ ended s, RunState.Reached server.config.pidFile server.listeners.length ended s → CanEnd server ended →
      ∀ fault, s.returned = some (.error fault) → ¬ fault.Wanting) ∧
    ∀ host pid fault, (run host pid server.config).2 = .error fault → ¬ fault.Wanting := by
  have ready := ready_of_build obtained built
  have same := listeners_of_build built
  obtain ⟨rfl, -⟩ := build_ok built
  have serving : ∀ served ∈ server.listeners, Ready served.1 := fun served member =>
    ready _ (same ▸ List.mem_map_of_mem member)
  have runs : ∀ ended s, RunState.Reached server.config.pidFile server.listeners.length ended s →
      CanEnd server ended → ∀ fault, s.returned = some (.error fault) → ¬ fault.Wanting := by
    intro ended s reached possible fault returned
    obtain ⟨e, member, failed⟩ := reached.exists_failed returned
    exact not_wanting_of_canEnd serving possible e member failed
  refine ⟨same, fun l member fault => (ready l member).not_wanting, runs, fun host pid fault failed => ?_⟩
  -- Before its tasks start a run can fail only with its process number.
  cases written : writePidFile host.sockets.files pid server.config with
  | error e =>
    rw [run, written] at failed
    cases failed
    obtain ⟨path, refusal, rfl⟩ := exists_of_writePidFile written
    exact id
  | ok files =>
    obtain ⟨s, reached, returned⟩ := returned_of_run built written
    exact runs _ s reached (canEnd_ends _ same) fault (returned.trans (congrArg some failed))

/-- Files for two listeners, one on a port with a certificate and one on a socket, each in a document of its own. -/
def certifiedDir : FileSystem :=
  ⟨[(["etc"], .dir), (["cert.pem"], .file []), (["key.pem"], .file []),
    (["etc", "a.hcl"], .file (.ofString
      "listener \"tcp\" \x7b\n  tls_cert_file = \"/cert.pem\"\n  tls_key_file = \"/key.pem\"\n\x7d\n")),
    (["etc", "b.hcl"], .file (.ofString "listener \"unix\" \x7b\n  address = \"/run/s\"\n\x7d\n"))]⟩

/-- Both documents are read, and a server is built of them together. -/
theorem nothing_wanting_certifiedDir :
    ∃ a b server, loadConfig certifiedDir "/etc/a.hcl" = .ok a ∧ loadConfig certifiedDir "/etc/b.hcl" = .ok b ∧
      build certifiedDir 0 (a.merge b) = .ok server ∧ (a.merge b).Obtained ∧
      (a.merge b).listeners.map (fun l => (l.isTcp, l.tls.disable, l.address)) =
        [(true, false, none), (false, false, some "/run/s")] ∧
      (∀ l ∈ (a.merge b).listeners, ∀ fault, Returns l (.error fault) → ¬ fault.Wanting) ∧
      ∀ host pid fault, (run host pid server.config).2 = .error fault → ¬ fault.Wanting := by
  have read : ((loadConfig certifiedDir "/etc/a.hcl").toOption.bind fun a =>
      (loadConfig certifiedDir "/etc/b.hcl").toOption.bind fun b =>
        (build certifiedDir 0 (a.merge b)).toOption.map fun _ =>
          (a.merge b).listeners.map fun l => (l.isTcp, l.tls.disable, l.address)) =
      some [(true, false, none), (false, false, some "/run/s")] := by
    decide +kernel
  obtain ⟨a, found, read⟩ := Option.bind_eq_some_iff.mp read
  obtain ⟨b, found', read⟩ := Option.bind_eq_some_iff.mp read
  obtain ⟨server, found'', shown⟩ := Option.map_eq_some_iff.mp read
  have loaded := Outcome.ok_of_toOption found
  have loaded' := Outcome.ok_of_toOption found'
  have built := Outcome.ok_of_toOption found''
  have obtained : (a.merge b).Obtained :=
    .merged (obtained_of_loadConfig loaded) (obtained_of_loadConfig loaded')
  obtain ⟨-, tasks, -, runs⟩ := nothing_wanting_of_built obtained built
  exact ⟨a, b, server, loaded, loaded', built, obtained, shown, tasks, runs⟩

end Server

end ServiceKit
