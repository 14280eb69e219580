import ServiceKit.Proofs.Forwarded.Chain

namespace ServiceKit.ForwardedSettings
open Headers (Legible)

/-- Values that may stand on the wire. -/
def Lawful (values : List Bytes) : Prop :=
  ∀ value ∈ values, ∀ b ∈ value, Headers.isValueByte b = true

instance (values : List Bytes) : Decidable (Lawful values) :=
  inferInstanceAs (Decidable (∀ value ∈ values, ∀ b ∈ value, Headers.isValueByte b = true))

/-- The last values that hold so many links. The earliest of these links stands in the first of these
values, maybe behind others. -/
def clientLines (count : Nat) : List Bytes → List Bytes
  | [] => []
  | value :: rest => if count ≤ (links rest).length then clientLines count rest else value :: rest

/-- The answer is this client whatever stands before these values. -/
def Settles (config : ForwardedSettings) (remote : SocketAddress) (lines : List Bytes)
    (client : ClientAddress) : Prop :=
  ∀ headers : Headers, Lawful (headers.getAll header) → lines <:+ headers.getAll header →
    config.trustedClient headers remote = .ok (some client)

theorem clientLines_suffix (count : Nat) (values : List Bytes) : clientLines count values <:+ values := by
  induction values with
  | nil => exact List.suffix_rfl
  | cons value rest ih =>
    rw [clientLines]
    split_ifs
    · exact ih.trans (List.suffix_cons value rest)
    · exact List.suffix_rfl

theorem clientLines_eq_cons {count : Nat} {values : List Bytes} (positive : 0 < count)
    (long : count ≤ (links values).length) :
    ∃ value rest, clientLines count values = value :: rest ∧ (links rest).length < count ∧
      count ≤ (links (value :: rest)).length := by
  induction values with
  | nil => simp only [links, List.flatMap_nil, List.length_nil] at long; omega
  | cons value rest ih =>
    rw [clientLines]
    split_ifs with later
    · exact ih later
    · exact ⟨value, rest, rfl, by omega, long⟩

/-- Links counted from the back are those of the last values. -/
theorem getElem?_reverse_links {lines values : List Bytes} {passed : Nat} (suffix : lines <:+ values)
    (inside : passed < (links lines).length) :
    (links values).reverse[passed]? = (links lines).reverse[passed]? := by
  obtain ⟨front, rfl⟩ := suffix
  rw [links_append, List.reverse_append, List.getElem?_append_left (by simpa using inside)]

theorem rtake_links {lines values : List Bytes} {count : Nat} (suffix : lines <:+ values)
    (inside : count ≤ (links lines).length) : (links values).rtake count = (links lines).rtake count := by
  obtain ⟨front, rfl⟩ := suffix
  rw [links_append, List.rtake_eq_reverse_take_reverse, List.rtake_eq_reverse_take_reverse,
    List.reverse_append, List.take_append_of_le_length (by simpa using inside)]

theorem mem_rtake_links {value : Bytes} {rest : List Bytes} {count : Nat} {link : Bytes}
    (few : (links rest).length ≤ count) (member : link ∈ links rest) :
    link ∈ (links (value :: rest)).rtake count := by
  have split : links (value :: rest) = value.splitOn comma ++ links rest := List.flatMap_cons
  have start : (links (value :: rest)).length - count ≤ (value.splitOn comma).length := by
    rw [split, List.length_append]
    omega
  rw [List.rtake, split, List.drop_append_of_le_length (by rwa [← split])]
  exact List.mem_append_right _ member

/-- Once the values that hold the client's link and all behind it count, nothing before them does. -/
theorem settles_of_legible {config : ForwardedSettings} {remote : SocketAddress} {lines : List Bytes}
    {link : Bytes} (room : config.hopSkips < Integer.u64Max) (trusted : config.isAuthorized remote.ip)
    (legible : ∀ value ∈ lines, Legible value)
    (atLink : (links lines).reverse[config.hopSkips]? = some link) :
    Settles config remote lines ⟨hostOf link, remote.port⟩ := by
  rintro headers - ⟨front, values⟩
  have inside : config.hopSkips < (links lines).length := by
    simpa using (List.getElem?_eq_some_iff.mp atLink).1
  have kept : counted (headers.getAll header) = counted front ++ lines := by
    rw [← values, counted_append, counted_eq_self legible]
  have nonempty : counted (headers.getAll header) ≠ [] := by
    rintro none
    rw [kept, List.append_eq_nil_iff] at none
    simp [none.2, links] at inside
  rw [trustedClient_eq room, if_neg nonempty, kept, getElem?_reverse_links (List.suffix_append ..) inside,
    atLink]
  simp [trusted]

theorem lawful_of_legible {value : Bytes} (legible : Legible value) :
    ∀ b ∈ value, Headers.isValueByte b = true := by
  intro b member
  have visible := legible b member
  simp only [Headers.isVisible, Headers.isValueByte, Bool.or_eq_true, Bool.and_eq_true,
    decide_eq_true_eq] at visible ⊢
  rcases visible with ⟨lower, upper⟩ | tab
  · exact Or.inl ⟨lower, by omega⟩
  · exact Or.inr tab

theorem getAll_map_header (values : List Bytes) :
    Headers.getAll (values.map (header, ·)) header = values := by
  simp [Headers.getAll, List.filter_map, Function.comp_def]

/-- A value with one host named again and again. -/
def forged (count : Nat) (b : UInt8) : Bytes :=
  [comma].intercalate (List.replicate count [b])

theorem splitOn_forged {count : Nat} {b : UInt8} (positive : 0 < count) (other : b ≠ comma) :
    (forged count b).splitOn comma = List.replicate count [b] := by
  refine List.splitOn_intercalate comma ?_ (by simp; omega)
  intro link member
  rw [(List.mem_replicate.mp member).2, List.mem_singleton]
  exact other.symm

theorem legible_forged {count : Nat} {b : UInt8} (positive : 0 < count) (other : b ≠ comma)
    (visible : Headers.isVisible b = true) : Legible (forged count b) := by
  rw [legible_iff_links, splitOn_forged positive other]
  intro link member
  rw [(List.mem_replicate.mp member).2]
  simpa [Legible] using visible

/-- A byte that cannot be read drops the client's link with its line, and the host in its place is one
that was written before it. -/
theorem trustedClient_forged {config : ForwardedSettings} {remote : SocketAddress} {value : Bytes}
    {rest : List Bytes} {b : UInt8} (room : config.hopSkips < Integer.u64Max)
    (trusted : config.isAuthorized remote.ip) (illegible : ¬ Legible value)
    (legible : ∀ value ∈ rest, Legible value) (few : (links rest).length ≤ config.hopSkips)
    (other : b ≠ comma) (visible : Headers.isVisible b = true) :
    config.trustedClient ((forged (config.hopSkips + 1 - (links rest).length) b :: value :: rest).map
      (header, ·)) remote = .ok (some ⟨hostOf [b], remote.port⟩) := by
  have positive : 0 < config.hopSkips + 1 - (links rest).length := by omega
  have readable := legible_forged positive other visible
  have kept : counted (forged (config.hopSkips + 1 - (links rest).length) b :: value :: rest) =
      forged (config.hopSkips + 1 - (links rest).length) b :: rest := by
    have unchanged := counted_eq_self legible
    simp only [counted] at unchanged
    simp [counted, readable, illegible, unchanged]
  have chain : links (forged (config.hopSkips + 1 - (links rest).length) b :: rest) =
      List.replicate (config.hopSkips + 1 - (links rest).length) [b] ++ links rest := by
    rw [links, List.flatMap_cons, splitOn_forged positive other]
    rfl
  have atLink : (List.replicate (config.hopSkips + 1 - (links rest).length) [b] ++
      links rest).reverse[config.hopSkips]? = some [b] := by
    rw [List.reverse_append, List.getElem?_append_right (by simpa using few), List.reverse_replicate,
      List.length_reverse, List.getElem?_replicate_of_lt (by omega)]
  rw [trustedClient_eq room, getAll_map_header, kept, if_neg (by simp), chain, atLink]
  simp [trusted]

theorem Settles.eq_forged {config : ForwardedSettings} {remote : SocketAddress} {value : Bytes}
    {rest : List Bytes} {client : ClientAddress} (settled : Settles config remote (value :: rest) client)
    (room : config.hopSkips < Integer.u64Max) (trusted : config.isAuthorized remote.ip)
    (lawful : Lawful (value :: rest)) (illegible : ¬ Legible value)
    (legible : ∀ value ∈ rest, Legible value) (few : (links rest).length ≤ config.hopSkips) (b : UInt8)
    (other : b ≠ comma) (visible : Headers.isVisible b = true) : client = ⟨hostOf [b], remote.port⟩ := by
  have positive : 0 < config.hopSkips + 1 - (links rest).length := by omega
  have readable := legible_forged positive other visible
  have answer := settled
    ((forged (config.hopSkips + 1 - (links rest).length) b :: value :: rest).map (header, ·))
    (by
      rw [getAll_map_header]
      exact List.forall_mem_cons.mpr ⟨lawful_of_legible readable, lawful⟩)
    (by
      rw [getAll_map_header]
      exact List.suffix_cons _ _)
  rw [trustedClient_forged room trusted illegible legible few other visible] at answer
  exact (Option.some.inj (Except.ok.inj answer)).symm

theorem settles_clientLines {config : ForwardedSettings} {remote : SocketAddress} {values : List Bytes}
    {link : Bytes} (room : config.hopSkips < Integer.u64Max) (trusted : config.isAuthorized remote.ip)
    (atLink : (links values).reverse[config.hopSkips]? = some link)
    (legible : ∀ line ∈ clientLines (config.hopSkips + 1) values, Legible line) :
    Settles config remote (clientLines (config.hopSkips + 1) values) ⟨hostOf link, remote.port⟩ := by
  have long : config.hopSkips < (links values).length := by
    simpa using (List.getElem?_eq_some_iff.mp atLink).1
  obtain ⟨value, rest, lines, -, enough⟩ := clientLines_eq_cons (Nat.succ_pos config.hopSkips) long
  have inside : config.hopSkips < (links (clientLines (config.hopSkips + 1) values)).length := by
    rw [lines]
    omega
  refine settles_of_legible room trusted legible ?_
  rw [← getElem?_reverse_links (clientLines_suffix ..) inside, atLink]

/-- Only the first of the client's lines holds other links too. If it cannot be read, what stands before
it can name two different clients. -/
theorem legible_of_settles {config : ForwardedSettings} {remote : SocketAddress} {values : List Bytes}
    {client : ClientAddress} (room : config.hopSkips < Integer.u64Max)
    (trusted : config.isAuthorized remote.ip) (lawful : Lawful values)
    (long : config.hopSkips + 1 ≤ (links values).length)
    (visible : ∀ link ∈ (links values).rtake (config.hopSkips + 1), Legible link)
    (settled : Settles config remote (clientLines (config.hopSkips + 1) values) client) :
    ∀ line ∈ clientLines (config.hopSkips + 1) values, Legible line := by
  have suffix := clientLines_suffix (config.hopSkips + 1) values
  obtain ⟨value, rest, lines, few, enough⟩ := clientLines_eq_cons (Nat.succ_pos config.hopSkips) long
  rw [lines] at suffix settled ⊢
  rw [rtake_links suffix enough] at visible
  have legible : ∀ line ∈ rest, Legible line :=
    legible_values_iff_links.mpr fun link member => visible link (mem_rtake_links few.le member)
  by_contra unreadable
  have illegible : ¬ Legible value := fun readable =>
    unreadable (List.forall_mem_cons.mpr ⟨readable, legible⟩)
  have named := settled.eq_forged room trusted (fun line member => lawful line (suffix.subset member))
    illegible legible (by omega)
  have first := named 97 (by decide) (by decide)
  have second := named 98 (by decide) (by decide)
  have different : hostOf [97] ≠ hostOf [98] := by decide
  rw [first] at second
  exact different (congrArg ClientAddress.host second)

theorem getElem?_reverse_of_rtake {xs ys : List Bytes} {passed : Nat}
    (same : xs.rtake (passed + 1) = ys.rtake (passed + 1)) :
    xs.reverse[passed]? = ys.reverse[passed]? := by
  rw [List.rtake_eq_reverse_take_reverse, List.rtake_eq_reverse_take_reverse,
    List.reverse_inj] at same
  have atPassed := congrArg (·[passed]?) same
  simpa only [List.getElem?_take_of_lt (Nat.lt_succ_self passed)] using atPassed

/-- Two requests whose chains end in the same readable links get the same client, whatever stands before
the lines that hold those links, exactly if all of these lines can be read. A list in memory is never
longer than the bound. -/
theorem settled_together_iff {config : ForwardedSettings} {remote : SocketAddress}
    {first second : List Bytes} (trusted : config.isAuthorized remote.ip)
    (lawfulFirst : Lawful first) (lawfulSecond : Lawful second)
    (bounded : (links first).length ≤ Integer.u64Max)
    (longFirst : config.hopSkips + 1 ≤ (links first).length)
    (longSecond : config.hopSkips + 1 ≤ (links second).length)
    (same : (links first).rtake (config.hopSkips + 1) = (links second).rtake (config.hopSkips + 1))
    (visible : ∀ link ∈ (links first).rtake (config.hopSkips + 1), Legible link) :
    (∃ client, Settles config remote (clientLines (config.hopSkips + 1) first) client ∧
        Settles config remote (clientLines (config.hopSkips + 1) second) client) ↔
      ∀ line ∈ clientLines (config.hopSkips + 1) first ++ clientLines (config.hopSkips + 1) second,
        Legible line := by
  have room : config.hopSkips < Integer.u64Max := by omega
  rw [List.forall_mem_append]
  constructor
  · rintro ⟨client, settledFirst, settledSecond⟩
    exact ⟨legible_of_settles room trusted lawfulFirst longFirst visible settledFirst,
      legible_of_settles room trusted lawfulSecond longSecond (same ▸ visible) settledSecond⟩
  · rintro ⟨legibleFirst, legibleSecond⟩
    obtain ⟨link, atLink⟩ : ∃ link, (links first).reverse[config.hopSkips]? = some link :=
      ⟨_, List.getElem?_eq_getElem (by rw [List.length_reverse]; omega)⟩
    have atSecond := (getElem?_reverse_of_rtake same).symm.trans atLink
    exact ⟨⟨hostOf link, remote.port⟩, settles_clientLines room trusted atLink legibleFirst,
      settles_clientLines room trusted atSecond legibleSecond⟩

/-- Trusts the host itself to report clients. -/
def trustingLocalhost (hopSkips : Nat) : ForwardedSettings :=
  ⟨[⟨.v4 0x7f000001, 32⟩], hopSkips, true, true⟩

def localPeer : SocketAddress :=
  .ofIp (.v4 0x7f000001) 4444

/-- Bytes that cannot be read do no harm on lines of their own. -/
theorem settled_behind_illegible_lines :
    let first := [[0xff, 0xfe], Bytes.ofString "9.9.9.9, 1.2.3.4", Bytes.ofString "10.0.0.1"]
    let second := [0xe4 :: Bytes.ofString ",", Bytes.ofString " 1.2.3.4,10.0.0.1"]
    Lawful first ∧ Lawful second ∧ (links first).rtake (1 + 1) = (links second).rtake (1 + 1) ∧
      ∃ client, Settles (trustingLocalhost 1) localPeer (clientLines (1 + 1) first) client ∧
        Settles (trustingLocalhost 1) localPeer (clientLines (1 + 1) second) client := by
  intro first second
  have lawfulFirst : Lawful first := by decide +kernel
  have lawfulSecond : Lawful second := by decide +kernel
  have same : (links first).rtake (1 + 1) = (links second).rtake (1 + 1) := by decide +kernel
  have trusted : (trustingLocalhost 1).isAuthorized localPeer.ip := by decide +kernel
  have settled := settled_together_iff trusted lawfulFirst lawfulSecond (by decide +kernel)
    (by decide +kernel) (by decide +kernel) same (by decide +kernel)
  exact ⟨lawfulFirst, lawfulSecond, same, settled.mpr (by decide +kernel)⟩

/-- One byte that cannot be read, on the line that a proxy appended the client to, and the client is
whoever the line before names. -/
theorem spoofed_by_illegible_byte :
    let spoofed := [Bytes.ofString "6.6.6.6", 0xff :: Bytes.ofString ",1.2.3.4"]
    let plain := [Bytes.ofString "1.2.3.4"]
    Lawful spoofed ∧ Lawful plain ∧ (trustingLocalhost 0).isAuthorized localPeer.ip ∧
      0 + 1 ≤ (links spoofed).length ∧ 0 + 1 ≤ (links plain).length ∧
      (links spoofed).rtake (0 + 1) = (links plain).rtake (0 + 1) ∧
      (∀ link ∈ (links plain).rtake (0 + 1), Legible link) ∧
      (trustingLocalhost 0).trustedClient (plain.map (header, ·)) localPeer =
        .ok (some ⟨"1.2.3.4", 4444⟩) ∧
      (trustingLocalhost 0).trustedClient (spoofed.map (header, ·)) localPeer =
        .ok (some ⟨"6.6.6.6", 4444⟩) :=
  ⟨by decide +kernel, by decide +kernel, by decide +kernel, by decide +kernel, by decide +kernel,
    by decide +kernel, by decide +kernel, by rfl, by rfl⟩

end ServiceKit.ForwardedSettings
