import ServiceKit.Config.Listener
import ServiceKit.Proofs.Value.Quoting

namespace ServiceKit

/-! Whether the scalars of a listener stanza stand in quotes makes no difference. -/

namespace Checked
variable {α β : Type} {related : ConfigError → ConfigError → Prop}

/-- Two readers that report the same, with results that are the same or errors that are related. -/
structure Alike (related : ConfigError → ConfigError → Prop) (x y : Checked α) : Prop where
  warnings : x.warnings = y.warnings
  result : Outcome.Alike related x.result y.result

namespace Alike

theorem refl (x : Checked α) : Alike related x x :=
  ⟨rfl, .same _⟩

theorem bind {x y : Checked α} {f g : α → Checked β} (first : Alike related x y)
    (rest : ∀ a, Alike related (f a) (g a)) : Alike related (x >>= f) (y >>= g) := by
  obtain ⟨xs, x⟩ := x
  obtain ⟨ys, y⟩ := y
  obtain ⟨warnings, result⟩ := first
  cases warnings
  cases result with
  | same =>
    cases x with
    | ok a => exact ⟨congrArg (xs ++ ·) (rest a).warnings, (rest a).result⟩
    | error stop => exact .refl _
  | refused errors => exact ⟨rfl, .refused errors⟩

/-- A reader without reports goes first. -/
theorem bind_read {x y : Stanza.Read α} {f g : α → Checked β} (first : Outcome.Alike related x y)
    (rest : ∀ a, Alike related (f a) (g a)) :
    Alike related ((x : Checked α) >>= f) ((y : Checked α) >>= g) :=
  bind ⟨rfl, first⟩ rest

end Alike

end Checked

/-- The settings of a listener that are lists. -/
def Listener.listSettings : List String :=
  ["purpose", "tls_cipher_suites", "proxy_protocol_authorized_addrs", "x_forwarded_for_authorized_addrs",
    "cors_allowed_origins", "cors_allowed_headers"]

namespace Stanza
variable {α : Type}

/-- A stanza with quotes around the scalars under some keys. Those of lists are left alone. -/
def quoting (chosen : String → Bool) (s : Stanza) : Stanza :=
  ⟨s.path, s.fields.map fun f =>
    (f.1, if chosen f.1 && !Listener.listSettings.contains f.1 then f.2.quoted else f.2)⟩

/-- Two errors that blame the same key of a stanza. -/
def SameKey (s : Stanza) (e f : ConfigError) : Prop :=
  ∃ key, e.context = some (s.keyPath key) ∧ f.context = some (s.keyPath key)

variable (chosen : String → Bool) (s : Stanza)

theorem get?_quoting (key : String) :
    (s.quoting chosen).get? key =
      if chosen key && !Listener.listSettings.contains key then (s.get? key).map Json.quoted
      else s.get? key := by
  unfold get? quoting
  rw [Json.lookup_map_named (fun name v =>
    if chosen name && !Listener.listSettings.contains name then Json.quoted v else v) key s.fields]
  cases Json.lookup key s.fields with
  | none => simp
  | some v =>
    simp only [Option.map_some]
    split_ifs
    · simp [Option.filter, Value.isNull_quoted, apply_ite]
    · rfl

theorem get?_quoting_cases (key : String) :
    (s.quoting chosen).get? key = s.get? key ∨
      (s.quoting chosen).get? key = (s.get? key).map Json.quoted := by
  rw [get?_quoting]
  split_ifs
  · exact Or.inr rfl
  · exact Or.inl rfl

variable {key : String}

theorem get?_listed (listed : key ∈ Listener.listSettings) : (s.quoting chosen).get? key = s.get? key := by
  simp [get?_quoting, listed]

theorem warnUnknown_quoting (settings : List String) :
    (s.quoting chosen).warnUnknown settings = s.warnUnknown settings := by
  have names : (s.quoting chosen).fields.map Prod.fst = s.fields.map Prod.fst := by simp [quoting]
  rw [warnUnknown, warnUnknown, unknown, unknown, names]
  rfl

/-! ### The readers of one setting -/

theorem string_quoting (key : String) : (s.quoting chosen).string key = s.string key := by
  rcases s.get?_quoting_cases chosen key with same | quoted
  · rw [string, string, same]
  · rw [string, string, quoted, Option.map_map]
    exact congrArg (Option.map · _) (funext Value.plainText_quoted)

theorem lowercase_quoting (key : String) : (s.quoting chosen).lowercase key = s.lowercase key := by
  rw [lowercase, lowercase, string_quoting]

/-- No object is a scalar. -/
theorem object_quoting (key : String) : (s.quoting chosen).object key = s.object key := by
  rcases s.get?_quoting_cases chosen key with same | quoted
  · rw [object, object, same]
  · rw [object, object, quoted]
    cases s.get? key with
    | none => rfl
    | some v =>
      cases v with
      | num n => cases n <;> rfl
      | _ => rfl

theorem strings_quoting (listed : key ∈ Listener.listSettings) :
    (s.quoting chosen).strings key = s.strings key := by
  unfold strings read
  rw [s.get?_listed chosen listed]
  rfl

theorem cidrs_quoting (listed : key ∈ Listener.listSettings) :
    (s.quoting chosen).cidrs key = s.cidrs key := by
  unfold cidrs
  rw [s.get?_listed chosen listed]
  rfl

/-- A reader of scalars that does not care for quotes, or refuses either way. -/
theorem read_quoting {f : Json → Except ValueFault α} (agree : ∀ v, Outcome.Agree (f v) (f v.quoted))
    (key : String) : Outcome.Alike s.SameKey (s.read key f) ((s.quoting chosen).read key f) := by
  unfold read
  rcases s.get?_quoting_cases chosen key with same | quoted
  · rw [same]
    exact .same _
  · rw [quoted]
    cases s.get? key with
    | none => exact .same _
    | some v =>
      have either : Outcome.Agree (f v) (f v.quoted) := agree v
      dsimp only [Option.map_some]
      cases first : f v with
      | ok a =>
        rw [either.ok first]
        exact .same _
      | error fault =>
        cases second : f v.quoted with
        | ok a =>
          rw [Outcome.Agree, first, second] at either
          cases either
        | error other => exact .refused ⟨key, rfl, rfl⟩

theorem bool_quoting (key : String) : Outcome.Alike s.SameKey (s.bool key) ((s.quoting chosen).bool key) :=
  s.read_quoting chosen Value.readBool_quoted key

theorem flag_quoting (key : String) : Outcome.Alike s.SameKey (s.flag key) ((s.quoting chosen).flag key) :=
  (s.bool_quoting chosen key).map _

theorem int_quoting (key : String) : Outcome.Alike s.SameKey (s.int key) ((s.quoting chosen).int key) :=
  s.read_quoting chosen Value.readInt_quoted key

theorem duration_quoting (key : String) :
    Outcome.Alike s.SameKey (s.duration key) ((s.quoting chosen).duration key) := by
  unfold duration
  rcases s.get?_quoting_cases chosen key with same | quoted
  · rw [same]
    exact .same _
  · rw [quoted]
    cases s.get? key with
    | none => exact .same _
    | some v =>
      have either := Value.readDuration_quoted v
      dsimp only [Option.map_some]
      generalize Value.readDuration v = unquoted at either
      generalize Value.readDuration v.quoted = other at either
      cases either with
      | same => exact .same _
      | refused => exact .refused ⟨key, rfl, rfl⟩

end Stanza

namespace Listener
variable (chosen : String → Bool) (s : Stanza)

/-- A value that is no size: it is no 64-bit integer, and as a capacity it is refused or too large. -/
structure NoSize (raw : Json) : Prop where
  notWhole : ∀ n, raw = .num n → n.toI64? = none
  unread : ∃ fault, Integer.readI64 (Text.trim (Value.plainText raw)) = .error fault
  large : ∀ n, Value.readCapacity raw = .ok n → Integer.i64Max < n

theorem noSize_bool (b : Bool) : NoSize (.bool b) ∧ NoSize (Json.quoted (.bool b)) := by
  have unread : ∃ fault, Integer.readI64 (Text.trim (Json.bool b).render) = .error fault := by
    cases b <;> exact ⟨_, rfl⟩
  obtain ⟨fault, refused⟩ := Value.readCapacity_quoted_bool b
  exact ⟨⟨nofun, unread, nofun⟩, ⟨nofun, unread, fun n read => by cases refused.symm.trans read⟩⟩

theorem noSize_int {i : Int} (outside : ¬ Integer.isI64 i = true) :
    NoSize (.num (.int i)) ∧ NoSize (Json.quoted (.num (.int i))) := by
  obtain ⟨fault, text⟩ := Integer.readI64_toString i
  rw [if_neg outside, ← Value.trim_toString] at text
  obtain ⟨unquoted, quoted⟩ := Value.lt_of_readCapacity_int outside
  refine ⟨⟨?_, ⟨fault, text⟩, unquoted⟩, ⟨nofun, ⟨fault, text⟩, quoted⟩⟩
  rintro n number
  cases number
  exact if_neg outside

theorem readRequestSize_noSize {raw : Json} (found : s.get? "max_request_size" = some raw)
    (noSize : NoSize raw) :
    ∃ cause, readRequestSize s = .error (.error ⟨cause, some (s.keyPath "max_request_size")⟩) := by
  obtain ⟨fault, unread⟩ := noSize.unread
  unfold readRequestSize
  rw [found]
  dsimp only
  split
  next n whole =>
    split at whole
    · cases (noSize.notWhole _ rfl).symm.trans whole
    · cases whole
  next =>
    rw [unread]
    dsimp only
    cases read : Value.readCapacity raw with
    | error fault => exact ⟨_, rfl⟩
    | ok n =>
      dsimp only
      rw [if_neg (Nat.not_le_of_lt (noSize.large n read))]
      exact ⟨_, rfl⟩

theorem readRequestSize_int {i : Int} (inRange : Integer.isI64 i = true) {raw : Json}
    (found : s.get? "max_request_size" = some raw)
    (number : raw = .num (.int i) ∨ raw = Json.quoted (.num (.int i))) : readRequestSize s = .ok i := by
  obtain ⟨fault, text⟩ := Integer.readI64_toString i
  rw [if_pos inRange] at text
  unfold readRequestSize
  rw [found]
  rcases number with rfl | rfl
  · simp only [Number.toI64?, if_pos inRange]
  · simp only [Json.quoted, Value.plainText, Value.trim_toString, text]

theorem readRequestSize_quoting :
    Outcome.Alike s.SameKey (readRequestSize s) (readRequestSize (s.quoting chosen)) := by
  have careless (same : (s.quoting chosen).get? "max_request_size" = s.get? "max_request_size") :
      Outcome.Alike s.SameKey (readRequestSize s) (readRequestSize (s.quoting chosen)) := by
    unfold readRequestSize
    rw [same]
    exact .same _
  have refused {v : Json} (found : s.get? "max_request_size" = some v)
      (quoted : (s.quoting chosen).get? "max_request_size" = some v.quoted)
      (noSize : NoSize v ∧ NoSize v.quoted) :
      Outcome.Alike s.SameKey (readRequestSize s) (readRequestSize (s.quoting chosen)) := by
    obtain ⟨cause, first⟩ := readRequestSize_noSize s found noSize.1
    obtain ⟨other, second⟩ := readRequestSize_noSize (s.quoting chosen) quoted noSize.2
    rw [first, second]
    exact .refused ⟨"max_request_size", rfl, rfl⟩
  rcases s.get?_quoting_cases chosen "max_request_size" with same | quoted
  · exact careless same
  · cases found : s.get? "max_request_size" with
    | none => exact careless (by rw [quoted, found]; rfl)
    | some v =>
      rw [found, Option.map_some] at quoted
      cases v with
      | bool b => exact refused found quoted (noSize_bool b)
      | num n =>
        cases n with
        | float x => exact careless (quoted.trans found.symm)
        | int i =>
          by_cases inRange : Integer.isI64 i = true
          · rw [readRequestSize_int s inRange found (Or.inl rfl),
              readRequestSize_int (s.quoting chosen) inRange quoted (Or.inr rfl)]
            exact .same _
          · exact refused found quoted (noSize_int inRange)
      | _ => exact careless (quoted.trans found.symm)

theorem readPurpose_quoting : readPurpose (s.quoting chosen) = readPurpose s := by
  rw [readPurpose, readPurpose, s.strings_quoting chosen (by decide)]

theorem readTlsVersion_quoting (key : String) :
    readTlsVersion (s.quoting chosen) key = readTlsVersion s key := by
  unfold readTlsVersion
  rw [s.lowercase_quoting]
  rfl

theorem readTls_quoting : Outcome.Alike s.SameKey (readTls s) (readTls (s.quoting chosen)) := by
  unfold readTls
  rw [readTlsVersion_quoting, readTlsVersion_quoting, s.strings_quoting chosen (by decide), s.string_quoting,
    s.string_quoting, s.string_quoting]
  exact (s.flag_quoting chosen _).bind fun disable => .bind (.same _) fun minVersion =>
    .bind (.same _) fun maxVersion => .bind (.same _) fun suites =>
    (s.flag_quoting chosen _).bind fun required => (s.flag_quoting chosen _).bind fun disabled => .same _

theorem readTimeouts_quoting : Outcome.Alike s.SameKey (readTimeouts s) (readTimeouts (s.quoting chosen)) := by
  unfold readTimeouts
  exact (s.duration_quoting chosen _).bind fun read => (s.duration_quoting chosen _).bind fun readHeader =>
    (s.duration_quoting chosen _).bind fun write => (s.duration_quoting chosen _).bind fun idle => .same _

theorem readProxy_quoting : readProxy (s.quoting chosen) = readProxy s := by
  unfold readProxy readProxyBehavior
  rw [s.lowercase_quoting, s.cidrs_quoting chosen (by decide)]
  rfl

theorem readHopSkips_quoting : Outcome.Alike s.SameKey (readHopSkips s) (readHopSkips (s.quoting chosen)) := by
  unfold readHopSkips
  exact (s.int_quoting chosen _).bind fun found => .same _

theorem readForwarded_quoting :
    Outcome.Alike s.SameKey (readForwarded s) (readForwarded (s.quoting chosen)) := by
  unfold readForwarded
  rw [s.cidrs_quoting chosen (by decide)]
  exact .bind (.same _) fun authorized => (readHopSkips_quoting chosen s).bind fun hopSkips =>
    (s.bool_quoting chosen _).bind fun notPresent => (s.bool_quoting chosen _).bind fun notAuthorized => .same _

theorem readCors_quoting : Outcome.Alike s.SameKey (readCors s) (readCors (s.quoting chosen)) := by
  unfold readCors
  rw [s.strings_quoting chosen (by decide), s.strings_quoting chosen (by decide)]
  exact (s.flag_quoting chosen _).bind fun enabled => .same _

theorem readCustomHeaders_quoting : readCustomHeaders (s.quoting chosen) = readCustomHeaders s := by
  have table : ∀ rows, readHeaderTable (s.quoting chosen) rows = readHeaderTable s rows := by
    intro rows
    induction rows with
    | nil => rfl
    | cons row rest ih =>
      unfold readHeaderTable
      rw [ih]
      rfl
  unfold readCustomHeaders
  rw [s.object_quoting]
  simp only [table]

theorem readTelemetry_quoting : readTelemetry (s.quoting chosen) = readTelemetry s := by
  unfold readTelemetry Stanza.nested
  rw [s.object_quoting]
  rfl

theorem readKind_quoting (label : Option String) : readKind label (s.quoting chosen) = readKind label s := by
  unfold readKind
  rw [s.lowercase_quoting]
  rfl

/-- Quotes around truth values and integers change nothing: the same is reported, and either the same comes
of it or there are two errors that blame the same key. -/
theorem ofStanza_quoting (label : Option String) :
    Checked.Alike s.SameKey (ofStanza label s) (ofStanza label (s.quoting chosen)) := by
  unfold ofStanza
  simp only [readKind_quoting, readPurpose_quoting, readProxy_quoting, readTelemetry_quoting,
    readCustomHeaders_quoting, s.string_quoting, s.warnUnknown_quoting]
  refine .bind_read (.same _) fun kind => ?_
  refine .bind_read (.same _) fun purpose => ?_
  refine .bind_read (readRequestSize_quoting chosen s) fun size => ?_
  refine .bind_read (s.duration_quoting chosen _) fun duration => ?_
  refine .bind_read (s.flag_quoting chosen _) fun required => ?_
  refine .bind_read (readTls_quoting chosen s) fun tls => ?_
  refine .bind_read (readTimeouts_quoting chosen s) fun timeouts => ?_
  refine .bind_read (.same _) fun proxy => ?_
  refine .bind_read (readForwarded_quoting chosen s) fun forwarded => ?_
  refine .bind (.refl _) fun metrics => ?_
  refine .bind_read (readCors_quoting chosen s) fun cors => ?_
  refine .bind_read (.same _) fun headers => ?_
  refine .bind_read (s.flag_quoting chosen _) fun port => ?_
  exact .refl _

end Listener

end ServiceKit
