import ServiceKit.Config.Load
import ServiceKit.Proofs.Config.Answers
import ServiceKit.Proofs.Config.Blame
import ServiceKit.Proofs.Value.Seconds

namespace ServiceKit

open Outcome (Answers SameCrash done)

namespace Stanza

/-- The value under a key is a number of seconds that no duration can hold. -/
def Overlong (s : Stanza) (key : String) : Prop :=
  ∃ v, s.get? key = some v ∧ v.Overlong

theorem duration_eq_crash_iff (s : Stanza) (key : String) (c : Crash) :
    s.duration key = .error (.crash c) ↔ c = .secondsOutOfRange ∧ s.Overlong key := by
  unfold duration Overlong
  cases s.get? key with
  | none => simp
  | some v =>
    have atValue := Value.readDuration_eq_crash_iff v c
    dsimp only
    cases read : Value.readDuration v with
    | ok d =>
      rw [read] at atValue
      simpa using atValue
    | error stop =>
      rw [read] at atValue
      cases stop with
      | error fault => simpa [Stop.map] using atValue
      | crash reason => simpa [Stop.map] using atValue

/-- A step of reading a stanza, for its error alone: a duration, or something that cannot crash. -/
inductive Step where
  | duration (s : Stanza) (key : String)
  | other (outcome : Read Unit) (answers : Answers outcome)

namespace Step
variable {α β : Type}

def of (x : Read α) (answers : Answers x) : Step :=
  other (done x) (answers.map _)

def run : Step → Read Unit
  | duration s key => done (s.duration key)
  | other outcome _ => outcome

/-- The steps that follow a result. Without a result there are none. -/
def after (x : Read α) (course : α → List Step) : List Step :=
  match x with
  | .ok a => course a
  | .error _ => []

theorem sameCrash_after {x : Read α} {f : α → Read β} {course : α → List Step} (answers : Answers x)
    (rest : ∀ a, SameCrash (f a) (forM (course a) run)) : SameCrash (x >>= f) (forM (after x course) run) := by
  cases x with
  | ok a => exact rest a
  | error stop => exact .of_answers answers.fail (.ok ())

/-- The steps come upon an overlong duration, before one of them fails. -/
def Overrun (steps : List Step) : Prop :=
  ∃ before s key after, steps = before ++ duration s key :: after ∧ (∀ step ∈ before, step.run = .ok ()) ∧
    s.Overlong key

theorem forM_run_eq_crash_iff (steps : List Step) (c : Crash) :
    forM steps run = .error (.crash c) ↔ c = .secondsOutOfRange ∧ Overrun steps := by
  rw [Outcome.forM_eq_error_iff]
  constructor
  · rintro ⟨before, step, after, split, passed, crashed⟩
    cases step with
    | duration s key =>
      obtain ⟨reason, overlong⟩ := (s.duration_eq_crash_iff key c).mp (Outcome.done_eq_error crashed)
      exact ⟨reason, before, s, key, after, split, passed, overlong⟩
    | other outcome answers => exact absurd crashed (answers c)
  · rintro ⟨reason, before, s, key, after, split, passed, overlong⟩
    refine ⟨before, duration s key, after, split, passed, ?_⟩
    exact congrArg done ((s.duration_eq_crash_iff key c).mpr ⟨reason, overlong⟩)

end Step

end Stanza

open Stanza (Step)

namespace Listener

def timeoutKeys : List String :=
  ["http_read_timeout", "http_read_header_timeout", "http_write_timeout", "http_idle_timeout"]

/-- The steps of reading a listener, up to its last duration. -/
def course (label : Option String) (s : Stanza) : List Step :=
  .of (readKind label s) (readKind_answers s label) ::
  .of (readPurpose s) (readPurpose_answers s) ::
  .of (readRequestSize s) (readRequestSize_answers s) ::
  .duration s "max_request_duration" ::
  .of (s.flag "require_request_header") (s.flag_answers _) ::
  .of (readTls s) (readTls_answers s) ::
  timeoutKeys.map (.duration s)

theorem done_readTimeouts (s : Stanza) :
    done (readTimeouts s) = forM (timeoutKeys.map (.duration s)) Step.run := by
  unfold readTimeouts timeoutKeys
  simp only [List.map_cons, List.map_nil, List.forM_cons, List.forM_nil]
  refine Outcome.done_bind fun read => Outcome.done_bind fun readHeader => Outcome.done_bind fun write => ?_
  rw [Outcome.done_bind_pure]
  exact bind_pure_unit.symm

theorem ofStanza_sameCrash (label : Option String) (s : Stanza) :
    SameCrash (ofStanza label s).result (forM (course label s) Step.run) := by
  unfold ofStanza course
  simp only [List.forM_cons]
  refine Checked.sameCrash_bind fun kind => ?_
  refine Checked.sameCrash_bind fun purpose => ?_
  refine Checked.sameCrash_bind fun size => ?_
  refine Checked.sameCrash_bind fun duration => ?_
  refine Checked.sameCrash_bind fun required => ?_
  refine Checked.sameCrash_bind fun tls => ?_
  rw [← done_readTimeouts, ← bind_pure_unit (x := done (readTimeouts s))]
  -- From here on nothing can crash, and the steps are at their end.
  refine Checked.sameCrash_bind fun timeouts => .of_answers ?_ (.ok ())
  refine Checked.answers_bind (readProxy_answers s) fun proxy => ?_
  refine Checked.answers_bind (readForwarded_answers s) fun forwarded => ?_
  refine Checked.answers_bind (readTelemetry_answers s) fun metrics => ?_
  refine Checked.answers_bind (readCors_answers s) fun cors => ?_
  refine Checked.answers_bind (readCustomHeaders_answers s) fun headers => ?_
  refine Checked.answers_bind (s.flag_answers _) fun port => ?_
  split_ifs
  · exact .error _
  · exact .ok _

/-- The steps of reading a listener's block. -/
def steps (index : Nat) (b : Hcl.Block) : List Step :=
  let path := "listeners." ++ toString index
  Step.after (b.label? path) fun label => Step.after (Stanza.ofBody path b.body) (course label)

theorem ofBlock_sameCrash (index : Nat) (b : Hcl.Block) :
    SameCrash (ofBlock index b).result (forM (steps index b) Step.run) := by
  unfold ofBlock steps
  rw [Checked.result_bind]
  refine Step.sameCrash_after (b.label?_answers _) fun label => ?_
  rw [Checked.result_bind]
  exact Step.sameCrash_after (Stanza.ofBody_answers _ _) (ofStanza_sameCrash label)

end Listener

namespace Telemetry

/-- The steps of reading the telemetry settings, up to the last duration. -/
def course (s : Stanza) : List Step :=
  [.of (s.flag "disable_hostname") (s.flag_answers _),
    .of (s.flag "enable_hostname_label") (s.flag_answers _),
    .of (s.strings "dogstatsd_tags") (s.strings_answers _),
    .of (s.strings "prefix_filter") (s.strings_answers _),
    .duration s "usage_gauge_period",
    .of (readCardinality s) (readCardinality_answers s),
    .duration s "prometheus_retention_time"]

theorem ofStanza_sameCrash (s : Stanza) : SameCrash (ofStanza s) (forM (course s) Step.run) := by
  unfold ofStanza course
  simp only [List.forM_cons, List.forM_nil]
  refine .bind fun disableHostname => .bind fun enableHostnameLabel => .bind fun tags => ?_
  refine .bind fun filter => .bind fun period => .bind fun cardinality => ?_
  refine .bind fun retention => .of_answers ?_ (.ok ())
  refine (s.read_answers _ _).bind fun filterDefault => ?_
  split
  · exact .error _
  · exact .ok _

/-- The steps of reading a telemetry block. -/
def steps (b : Hcl.Block) : List Step :=
  Step.after (Stanza.ofBody "telemetry" b.body.withoutBlocks) course

theorem ofBody_sameCrash {b : Hcl.Block} (named : b.name = BlockKind.telemetry.name) :
    SameCrash (ofBody [b.item]).result (forM (steps b) Step.run) := by
  have one : Hcl.Body.blocksUpTo [b.item] "telemetry" 1 = .ok [b] := BlockKind.counted_item named
  unfold ofBody steps
  rw [one]
  change SameCrash (Checked.result (do
    let s ← Stanza.ofBody "telemetry" b.body.withoutBlocks
    let t ← ofStanza s
    s.warnUnknown settings
    return some t)) _
  rw [Checked.result_bind]
  refine Step.sameCrash_after (Stanza.ofBody_answers _ _) fun s => ?_
  rw [Checked.result_bind]
  exact (ofStanza_sameCrash s).followed fun t => .ok _

end Telemetry

theorem BlockKind.counted_answers (kind : BlockKind) (body : Hcl.Body) : Answers (kind.counted body) := by
  unfold counted
  cases kind.limit? with
  | none => exact .ok _
  | some limit => exact body.blocksUpTo_answers _ _

namespace SharedConfig
variable {body : Hcl.Body}

/-- The steps of reading the attributes at the top. -/
def topSteps (body : Hcl.Body) : List Step :=
  Step.after (Stanza.ofBody "config" body.withoutBlocks) fun s =>
    [.of (s.flag "disable_mlock") (s.flag_answers _), .duration s "default_max_request_duration"]

/-- The steps of reading a place, up to its last duration. Seals and entropy have no durations. -/
def Place.steps (body : Hcl.Body) : Place → List Step
  | top => topSteps body
  | block .listeners index b => Listener.steps index b
  | block .telemetry _ b => Telemetry.steps b
  | block .seals _ _ => []
  | block .kmses _ _ => []
  | block .entropy _ _ => []

theorem readTop_sameCrash (body : Hcl.Body) : SameCrash (readTop body) (forM (topSteps body) Step.run) := by
  refine Step.sameCrash_after (Stanza.ofBody_answers _ _) fun s c => ?_
  simp only [List.forM_cons, List.forM_nil, bind_pure_unit]
  rfl

theorem Place.read_sameCrash {place : Place} (member : place ∈ places body) :
    SameCrash (place.read body) (forM (place.steps body) Step.run) := by
  cases place with
  | top => exact readTop_sameCrash body
  | block kind index b =>
    cases kind with
    | listeners => exact (Listener.ofBlock_sameCrash index b).done_left
    | seals => exact .of_answers ((Seal.ofBlock_answers _ _ _).map _) (.ok ())
    | kmses => exact .of_answers ((Seal.ofBlock_answers _ _ _).map _) (.ok ())
    | telemetry =>
      have named := Hcl.Body.name_of_mem (List.mem_of_getElem? (block_mem_places.mp member))
      exact (Telemetry.ofBody_sameCrash named).done_left
    | entropy => exact .of_answers ((Entropy.ofBody_answers _).map _) (.ok ())

/-- What a document is read by: the top, and of each kind first the number of blocks and then the blocks. -/
inductive Stage where
  | limit (kind : BlockKind)
  | place (place : Place)

def Stage.read (body : Hcl.Body) : Stage → Stanza.Read Unit
  | limit kind => done (kind.counted body)
  | place p => p.read body

/-- The stages of reading a document, in order. -/
def stages (body : Hcl.Body) : List Stage :=
  .place .top :: BlockKind.order.flatMap fun kind => .limit kind :: (placesOf body kind).map .place

theorem done_ofBody_eq_forM (body : Hcl.Body) :
    done (ofBody body).result = forM (stages body) (Stage.read body) := by
  have atKind : ∀ kind : BlockKind,
      kind.readAll body = forM (.limit kind :: (placesOf body kind).map .place) (Stage.read body) := by
    intro kind
    rw [List.forM_cons]
    cases counted : kind.counted body with
    | error stop =>
      rw [BlockKind.readAll_of_error counted]
      change _ = done (kind.counted body) >>= _
      rw [counted]
      rfl
    | ok blocks =>
      rw [BlockKind.readAll_of_counted counted]
      change _ = done (kind.counted body) >>= _
      rw [counted]
      obtain ⟨rfl, -⟩ := BlockKind.counted_ok counted
      rw [placesOf, List.map_map, List.forM_map]
      rfl
  rw [done_ofBody, stages, List.forM_cons, Outcome.forM_flatMap]
  simp only [atKind]
  rfl

/-- The reading of a document comes upon an overlong duration: all that goes before could be read. -/
def Overrun (body : Hcl.Body) : Prop :=
  ∃ before place after, stages body = before ++ .place place :: after ∧
    (∀ stage ∈ before, stage.read body = .ok ()) ∧ Step.Overrun (place.steps body)

theorem mem_places_of_stages {place : Place} {before after : List Stage}
    (split : stages body = before ++ .place place :: after) : place ∈ places body := by
  have member : .place place ∈ stages body := split ▸ List.mem_append_right _ List.mem_cons_self
  rw [places]
  rcases List.mem_cons.mp member with atTop | inKinds
  · cases atTop
    exact List.mem_cons_self
  · obtain ⟨kind, listed, inKind⟩ := List.mem_flatMap.mp inKinds
    refine List.mem_cons_of_mem _ (List.mem_flatMap.mpr ⟨kind, listed, ?_⟩)
    simpa using inKind

theorem ofBody_eq_crash_iff (body : Hcl.Body) (c : Crash) :
    (ofBody body).result = .error (.crash c) ↔ c = .secondsOutOfRange ∧ Overrun body := by
  rw [← Outcome.done_eq_error_iff, done_ofBody_eq_forM, Outcome.forM_eq_error_iff]
  constructor
  · rintro ⟨before, stage, after, split, passed, crashed⟩
    cases stage with
    | limit kind => exact absurd crashed ((kind.counted_answers body).map _ c)
    | place place =>
      have atSteps := (Place.read_sameCrash (mem_places_of_stages split) c).mp crashed
      obtain ⟨reason, overrun⟩ := (Step.forM_run_eq_crash_iff _ c).mp atSteps
      exact ⟨reason, before, place, after, split, passed, overrun⟩
  · rintro ⟨reason, before, place, after, split, passed, overrun⟩
    have atSteps := (Step.forM_run_eq_crash_iff _ c).mpr ⟨reason, overrun⟩
    exact ⟨before, .place place, after, split, passed,
      (Place.read_sameCrash (mem_places_of_stages split) c).mpr atSteps⟩

/-! ### Texts, files and directories -/

/-- A text whose document comes upon an overlong duration. -/
def TextOverrun (text : String) : Prop :=
  ∃ body, Hcl.parse? text = some body ∧ Overrun body

theorem parse_eq_crash_iff (text : String) (c : Crash) :
    (parse text).result = .error (.crash c) ↔ c = .secondsOutOfRange ∧ TextOverrun text := by
  unfold parse TextOverrun
  cases Hcl.parse? text with
  | none => simp [parseError]
  | some body => simpa using ofBody_eq_crash_iff body c

/-- A file with such a text. -/
def FileOverrun (fs : FileSystem) (path : String) : Prop :=
  ∃ text, fs.readText path = .ok text ∧ TextOverrun text

theorem loadFile_eq_crash_iff (fs : FileSystem) (path : String) (c : Crash) :
    (loadFile fs path).result = .error (.crash c) ↔ c = .secondsOutOfRange ∧ FileOverrun fs path := by
  unfold loadFile FileOverrun
  cases fs.readText path with
  | error fault => simp
  | ok text =>
    have atText := parse_eq_crash_iff text c
    have found : (∃ content, Except.ok text = (.ok content : Except OsFault String) ∧ TextOverrun content) ↔
        TextOverrun text := by simp
    rw [found, ← atText]
    dsimp only
    cases read : (parse text).result with
    | ok config => simp [read]
    | error stop => cases stop <;> simp [read]

/-- A directory with such a file, of which all files before could be read. -/
def DirOverrun (fs : FileSystem) (dir : String) : Prop :=
  ∃ loc, fs.locate dir = .ok loc ∧ fs.get? loc = some .dir ∧
    ∃ before path after, (configFiles fs loc).map (joinPath dir) = before ++ path :: after ∧
      (∀ earlier ∈ before, ∃ config, (loadFile fs earlier).result = .ok config) ∧ FileOverrun fs path

theorem done_loadAll (fs : FileSystem) (start : SharedConfig) (paths : List String) :
    done (loadAll fs start paths).result = forM paths fun path => done (loadFile fs path).result := by
  induction paths generalizing start with
  | nil => rfl
  | cons path rest ih =>
    rw [List.forM_cons]
    exact Checked.done_bind fun next => ih (start.merge next)

/-- Files that are loaded one after the other fail as the first of them that fails. -/
theorem loadAll_error_iff {fs : FileSystem} {start : SharedConfig} {paths : List String} {stop : Stop ConfigError} :
    (loadAll fs start paths).result = .error stop ↔
      ∃ before path after, paths = before ++ path :: after ∧
        (∀ earlier ∈ before, ∃ c, (loadFile fs earlier).result = .ok c) ∧
        (loadFile fs path).result = .error stop := by
  rw [← Outcome.done_eq_error_iff, done_loadAll, Outcome.forM_eq_error_iff]
  simp only [Outcome.done_eq_error_iff, Outcome.done_eq_ok_iff]

theorem loadAll_eq_crash_iff (fs : FileSystem) (start : SharedConfig) (paths : List String) (c : Crash) :
    (loadAll fs start paths).result = .error (.crash c) ↔ c = .secondsOutOfRange ∧
      ∃ before path after, paths = before ++ path :: after ∧
        (∀ earlier ∈ before, ∃ config, (loadFile fs earlier).result = .ok config) ∧ FileOverrun fs path := by
  rw [loadAll_error_iff]
  constructor
  · rintro ⟨before, path, after, split, passed, crashed⟩
    obtain ⟨reason, overrun⟩ := (loadFile_eq_crash_iff fs path c).mp crashed
    exact ⟨reason, before, path, after, split, passed, overrun⟩
  · rintro ⟨reason, before, path, after, split, passed, overrun⟩
    have crashed := (loadFile_eq_crash_iff fs path c).mpr ⟨reason, overrun⟩
    exact ⟨before, path, after, split, passed, crashed⟩

theorem loadDir_eq_crash_iff (fs : FileSystem) (dir : String) (c : Crash) :
    (loadDir fs dir).result = .error (.crash c) ↔ c = .secondsOutOfRange ∧ DirOverrun fs dir := by
  unfold loadDir DirOverrun
  dsimp only
  cases fs.locate dir with
  | error fault => simp
  | ok loc =>
    have here : ∀ P : Location → Prop,
        (∃ l, Except.ok loc = (.ok l : Except OsFault Location) ∧ P l) ↔ P loc := by simp
    rw [here]
    dsimp only
    cases fs.get? loc with
    | none => simp
    | some node =>
      cases node with
      | dir => simpa using loadAll_eq_crash_iff fs {} _ c
      | file content => simp
      | socket mode uid gid endpoint => simp

/-- Reading crashes for one reason and at one place only: at a duration that is given as an overlong number of
seconds, and this exactly if all that is read before it could be read. Everything else is read or refused. -/
theorem crash_iff_overrun (v : Json) (body : Hcl.Body) (text : String) (fs : FileSystem) (file dir : String)
    (c : Crash) :
    (Value.readDuration v = .error (.crash c) ↔ c = .secondsOutOfRange ∧ v.Overlong) ∧
      ((ofBody body).result = .error (.crash c) ↔ c = .secondsOutOfRange ∧ Overrun body) ∧
      ((parse text).result = .error (.crash c) ↔ c = .secondsOutOfRange ∧ TextOverrun text) ∧
      ((loadFile fs file).result = .error (.crash c) ↔ c = .secondsOutOfRange ∧ FileOverrun fs file) ∧
      ((loadDir fs dir).result = .error (.crash c) ↔ c = .secondsOutOfRange ∧ DirOverrun fs dir) :=
  ⟨Value.readDuration_eq_crash_iff v c, ofBody_eq_crash_iff body c, parse_eq_crash_iff text c,
    loadFile_eq_crash_iff fs file c, loadDir_eq_crash_iff fs dir c⟩

/-- A one and twenty zeros are more seconds than 64 bits hold. -/
theorem crash_of_longWait :
    (∃ x, Binary64.ofDecimal? false 1 20 = some x ∧
      Value.readDuration (.num (.float x)) = .error (.crash .secondsOutOfRange)) ∧
    (parse "default_max_request_duration = 1e20\n").result = .error (.crash .secondsOutOfRange) :=
  ⟨⟨_, rfl, rfl⟩, Outcome.eq_crash_of_crash? (by decide +kernel)⟩

end SharedConfig

end ServiceKit
