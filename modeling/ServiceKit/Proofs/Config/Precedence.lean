import ServiceKit.Proofs.Config.Shared
import ServiceKit.Proofs.Config.Stanza

namespace ServiceKit

/-- A text that is accepted as a configuration. -/
structure AcceptedText where
  text : String
  body : Hcl.Body
  config : SharedConfig
  parsed : Hcl.parse? text = some body
  accepted : (SharedConfig.ofBody body).result = .ok config

namespace AcceptedText

/-- Whether a text sets a key at its top. -/
def sets (key : String) (d : AcceptedText) : Bool :=
  (d.body.setting? key).isSome

/-- The last text that sets a key. -/
def lastSetter (key : String) (ds : List AcceptedText) : Option AcceptedText :=
  ds.reverse.find? (sets key)

theorem lastSetter_cons (key : String) (d : AcceptedText) (ds : List AcceptedText) :
    lastSetter key (d :: ds) = (lastSetter key ds).or (if d.sets key then some d else none) := by
  rw [lastSetter, lastSetter, List.reverse_cons, List.find?_append, List.find?_singleton]

theorem sets_of_lastSetter {key : String} {ds : List AcceptedText} {d : AcceptedText}
    (last : lastSetter key ds = some d) : d.sets key ∧ d ∈ ds :=
  ⟨List.find?_some last, List.mem_reverse.mp (List.mem_of_find?_eq_some last)⟩

/-- The configurations of some texts on top of another one, in order. -/
def mergeOnto (c : SharedConfig) (ds : List AcceptedText) : SharedConfig :=
  ds.foldl (fun c d => c.merge d.config) c

theorem mergeOnto_cons (c : SharedConfig) (d : AcceptedText) (ds : List AcceptedText) :
    mergeOnto c (d :: ds) = mergeOnto (c.merge d.config) ds :=
  rfl

/-- The configurations of a first text and those behind it. -/
def merged (d : AcceptedText) (ds : List AcceptedText) : SharedConfig :=
  mergeOnto d.config ds

/-- A setting that a text has exactly if it sets the key, and of which the later one counts in a merge. -/
structure Follows {α : Type} (key : String) (setting : SharedConfig → Option α) : Prop where
  present : ∀ d : AcceptedText, (setting d.config).isSome = d.sets key
  later : ∀ a b : SharedConfig, setting (a.merge b) = (setting b).or (setting a)

namespace Follows
variable {α : Type} {key : String} {setting : SharedConfig → Option α}

theorem bind_lastSetter_cons (follows : Follows key setting) (d : AcceptedText) (ds : List AcceptedText) :
    (lastSetter key (d :: ds)).bind (setting ·.config) =
      ((lastSetter key ds).bind (setting ·.config)).or (setting d.config) := by
  rw [lastSetter_cons]
  cases last : lastSetter key ds with
  | none =>
    rw [← follows.present d]
    cases held : setting d.config <;> simp [held]
  | some e =>
    obtain ⟨v, held⟩ := Option.isSome_iff_exists.mp ((follows.present e).trans (sets_of_lastSetter last).1)
    simp [held]

/-- Whatever was there before, the last text that sets the key decides. -/
theorem mergeOnto_eq (follows : Follows key setting) (c : SharedConfig) (ds : List AcceptedText) :
    setting (mergeOnto c ds) = ((lastSetter key ds).bind (setting ·.config)).or (setting c) := by
  induction ds generalizing c with
  | nil => rfl
  | cons d ds ih => rw [mergeOnto_cons, ih, follows.later, follows.bind_lastSetter_cons, Option.or_assoc]

theorem merged_eq (follows : Follows key setting) (d : AcceptedText) (ds : List AcceptedText) :
    setting (merged d ds) = (lastSetter key (d :: ds)).bind (setting ·.config) := by
  rw [merged, follows.mergeOnto_eq, follows.bind_lastSetter_cons]

end Follows

/-! ### The settings of a text -/

theorem readFrom (d : AcceptedText) :
    ∃ top, SharedConfig.ReadFrom top d.body d.config ∧ ∀ key, (top.get? key).isSome = d.sets key := by
  obtain ⟨top, read⟩ := SharedConfig.ofBody_ok d.accepted
  exact ⟨top, read, fun key => by rw [Stanza.get?_ofBody read.atTop]; rfl⟩

theorem Follows.of_read {α : Type} {key : String} {setting : SharedConfig → Option α}
    (present : ∀ {top body c}, SharedConfig.ReadFrom top body c → (setting c).isSome = (top.get? key).isSome)
    (later : ∀ a b : SharedConfig, setting (a.merge b) = (setting b).or (setting a)) : Follows key setting where
  present d := by
    obtain ⟨top, read, sets⟩ := d.readFrom
    rw [present read, sets]
  later := later

theorem follows_logLevel : Follows "log_level" SharedConfig.logLevel :=
  .of_read (fun read => by simp [read.logLevel, Stanza.lowercase, Stanza.string]) fun _ _ => rfl

theorem follows_logFormat : Follows "log_format" SharedConfig.logFormat :=
  .of_read (fun read => by simp [read.logFormat, Stanza.lowercase, Stanza.string]) fun _ _ => rfl

theorem follows_pidFile : Follows "pid_file" SharedConfig.pidFile :=
  .of_read (fun read => by simp [read.pidFile, Stanza.string]) fun _ _ => rfl

theorem follows_clusterName : Follows "cluster_name" SharedConfig.clusterName :=
  .of_read (fun read => by simp [read.clusterName, Stanza.string]) fun _ _ => rfl

theorem follows_defaultMaxRequestDuration :
    Follows "default_max_request_duration" SharedConfig.defaultMaxRequestDuration := by
  refine .of_read (fun read => ?_) fun _ _ => rfl
  rcases Stanza.duration_ok read.defaultMaxRequestDuration with ⟨missing, unset⟩ | ⟨v, t, found, -, isSet⟩
  · rw [missing, unset]
    rfl
  · rw [found, isSet]
    rfl

/-- The switch is off in a text that does not set it. -/
theorem disableMlock_of_not_sets {d : AcceptedText} (unset : d.sets "disable_mlock" = false) :
    d.config.disableMlock = false := by
  obtain ⟨top, read, sets⟩ := d.readFrom
  rw [← sets, Option.isSome_eq_false_iff, Option.isNone_iff_eq_none] at unset
  obtain ⟨found, atKey, same⟩ := Outcome.map_ok read.disableMlock
  obtain rfl : none = found := Except.ok.inj ((Stanza.read_of_none unset).symm.trans atKey)
  exact same.symm

/-- Once it is on, the switch stays on. -/
theorem disableMlock_mergeOnto (c : SharedConfig) (ds : List AcceptedText) :
    (mergeOnto c ds).disableMlock = (c.disableMlock || ds.any (·.config.disableMlock)) := by
  induction ds generalizing c with
  | nil => exact (Bool.or_false _).symm
  | cons d ds ih =>
    rw [mergeOnto_cons, ih, List.any_cons, ← Bool.or_assoc]
    rfl

/-- The switch as the last text that sets it says it, which is off where none does. -/
def lastMlock (ds : List AcceptedText) : Bool :=
  (lastSetter "disable_mlock" ds).any (·.config.disableMlock)

theorem lastMlock_eq_any_iff (ds : List AcceptedText) :
    ds.any (·.config.disableMlock) = lastMlock ds ↔
      ∀ last ∈ lastSetter "disable_mlock" ds, last.config.disableMlock = false →
        ∀ d ∈ ds, d.config.disableMlock = false := by
  unfold lastMlock
  cases last : lastSetter "disable_mlock" ds with
  | none =>
    have unset : ∀ d ∈ ds, d.sets "disable_mlock" = false := by
      intro d member
      simpa using List.find?_eq_none.mp last d (List.mem_reverse.mpr member)
    have off : ds.any (·.config.disableMlock) = false := by
      rw [List.any_eq_false]
      exact fun d member => by simp [disableMlock_of_not_sets (unset d member)]
    simp [off]
  | some e =>
    obtain ⟨-, member⟩ := sets_of_lastSetter last
    cases on : e.config.disableMlock with
    | true =>
      have someOn : ds.any (·.config.disableMlock) = true := List.any_eq_true.mpr ⟨e, member, on⟩
      simp [someOn, on]
    | false => simp [on]

/-- The later configuration wins: of each setting at the top the last text that sets it decides. The switch
is the exception, since one text that turns it on outweighs all that turn it off; for it this holds exactly
if no text turned it on before the last one that sets it turns it off. -/
theorem merged_lastSetter (d : AcceptedText) (ds : List AcceptedText) :
    let all := d :: ds
    (merged d ds).defaultMaxRequestDuration =
        (lastSetter "default_max_request_duration" all).bind (·.config.defaultMaxRequestDuration) ∧
      (merged d ds).logLevel = (lastSetter "log_level" all).bind (·.config.logLevel) ∧
      (merged d ds).logFormat = (lastSetter "log_format" all).bind (·.config.logFormat) ∧
      (merged d ds).pidFile = (lastSetter "pid_file" all).bind (·.config.pidFile) ∧
      (merged d ds).clusterName = (lastSetter "cluster_name" all).bind (·.config.clusterName) ∧
      (merged d ds).disableMlock = all.any (·.config.disableMlock) ∧
      ((merged d ds).disableMlock = lastMlock all ↔
        ∀ last ∈ lastSetter "disable_mlock" all, last.config.disableMlock = false →
          ∀ e ∈ all, e.config.disableMlock = false) := by
  have switch : (merged d ds).disableMlock = (d :: ds).any (·.config.disableMlock) :=
    disableMlock_mergeOnto d.config ds
  exact ⟨follows_defaultMaxRequestDuration.merged_eq d ds, follows_logLevel.merged_eq d ds,
    follows_logFormat.merged_eq d ds, follows_pidFile.merged_eq d ds, follows_clusterName.merged_eq d ds,
    switch, by rw [switch]; exact lastMlock_eq_any_iff (d :: ds)⟩

theorem exists_of_parse (text : String) (c : SharedConfig) (ran : (SharedConfig.parse text).result = .ok c) :
    ∃ d : AcceptedText, d.text = text ∧ d.config = c := by
  obtain ⟨body, parsed, accepted⟩ := SharedConfig.parse_ok ran
  exact ⟨⟨text, body, c, parsed, accepted⟩, rfl, rfl⟩

theorem sets_eq_any (key : String) (d : AcceptedText) :
    d.sets key = (Hcl.parse? d.text).any fun body => (Hcl.Body.setting? body key).isSome := by
  rw [d.parsed]
  rfl

/-- The switch stays on although the last text turns it off. -/
theorem mlock_on_though_last_off :
    ∃ on off : AcceptedText, on.text = "disable_mlock = true\n" ∧ off.text = "disable_mlock = false\n" ∧
      lastSetter "disable_mlock" [on, off] = some off ∧ off.config.disableMlock = false ∧
      (merged on [off]).disableMlock = true := by
  obtain ⟨on, onText, onConfig⟩ := exists_of_parse "disable_mlock = true\n"
    { disableMlock := true, foundKeys := ["disable_mlock"] } (Outcome.ok_of_toOption (by decide +kernel))
  obtain ⟨off, offText, offConfig⟩ := exists_of_parse "disable_mlock = false\n"
    { foundKeys := ["disable_mlock"] } (Outcome.ok_of_toOption (by decide +kernel))
  have isSet : off.sets "disable_mlock" = true := by
    rw [sets_eq_any, offText]
    decide +kernel
  refine ⟨on, off, onText, offText, ?_, by rw [offConfig], ?_⟩
  · rw [lastSetter_cons, lastSetter_cons, if_pos isSet]
    rfl
  · rw [merged, disableMlock_mergeOnto, onConfig]
    rfl

end AcceptedText

end ServiceKit
