import ServiceKit.Proofs.Config.Places

namespace ServiceKit

open Outcome (done)
open Stanza (below ofBody_moved flag_moved duration_moved)

namespace Stanza

theorem below_append (place : String) (keys more : List String) :
    below (below place keys) more = below place (keys ++ more) :=
  List.foldl_append.symm

theorem toList_below (place : String) (keys : List String) :
    (below place keys).toList = place.toList ++ keys.flatMap fun key => '.' :: key.toList := by
  induction keys generalizing place with
  | nil => simp [below]
  | cons key more ih =>
    change (below (place ++ "." ++ key) more).toList = _
    rw [ih]
    simp

variable {place other : String}

/-- What is below a place without dots is told by the text up to the first dot. -/
theorem takeWhile_below (plain : '.' ∉ place.toList) (keys : List String) :
    (below place keys).toList.takeWhile (· ≠ '.') = place.toList := by
  have inside : ∀ c ∈ place.toList, decide (c ≠ '.') = true := by
    intro c member
    exact decide_eq_true fun dot => plain (dot ▸ member)
  rw [toList_below, List.takeWhile_append_of_pos inside]
  cases keys <;> simp

theorem place_of_below {keys keys' : List String} (plain : '.' ∉ place.toList) (plain' : '.' ∉ other.toList)
    (same : below place keys = below other keys') : place = other := by
  rw [← String.toList_inj, ← takeWhile_below plain keys, ← takeWhile_below plain' keys', same]

theorem below_of_below_cons {key key' : String} {keys keys' : List String}
    (same : below place (key :: keys) = below place (key' :: keys')) : below key keys = below key' keys' := by
  have texts := congrArg String.toList same
  simp only [toList_below, List.flatMap_cons, List.cons_append, List.append_cancel_left_eq,
    List.cons.injEq, true_and] at texts
  rw [← String.toList_inj, toList_below, toList_below, texts]

theorem dot_notMem_number (n : Nat) : '.' ∉ (toString n).toList := by
  rw [Nat.toString_eq_ofList_toDigits, String.toList_ofList]
  intro member
  exact absurd (Nat.isDigit_of_mem_toDigits (by decide) (by decide) member) (by decide)

theorem number_injective {m n : Nat} (same : toString m = toString n) : m = n := by
  rw [Nat.toString_eq_ofList_toDigits, Nat.toString_eq_ofList_toDigits, String.ofList_inj] at same
  rw [← Nat.ofDigitChars_ten_toDigits (n := m), same, Nat.ofDigitChars_ten_toDigits]

end Stanza

namespace BlockKind
variable {kind other : BlockKind} {i j : Nat} {keys keys' : List String}

theorem plain_title (kind : BlockKind) : '.' ∉ kind.title.toList := by
  cases kind <;> decide

theorem title_injective (same : kind.title = other.title) : kind = other := by
  revert same
  cases kind <;> cases other <;> decide

/-- The kind of a block and, where it has one, its number can be read off every name below it. -/
theorem block_of_below (same : below (kind.path i) keys = below (other.path j) keys') :
    kind = other ∧ (kind.limit? = some 1 ∨ i = j) := by
  simp only [path, Stanza.below_append] at same
  obtain rfl := title_injective (Stanza.place_of_below kind.plain_title other.plain_title same)
  refine ⟨rfl, or_iff_not_imp_left.mpr fun numbered => ?_⟩
  rw [if_neg numbered, if_neg numbered] at same
  have atNumber := Stanza.below_of_below_cons same
  have digits := Stanza.place_of_below (Stanza.dot_notMem_number i) (Stanza.dot_notMem_number j) atNumber
  exact Stanza.number_injective digits

theorem title_of_below {place : String} (plain : '.' ∉ place.toList)
    (same : below place keys = below (kind.path i) keys') : place = kind.title := by
  rw [path, Stanza.below_append] at same
  exact Stanza.place_of_below plain kind.plain_title same

end BlockKind

namespace SharedConfig

/-- What an error can lie at: the attributes at the top, or a block. -/
inductive Place where
  | top
  | block (kind : BlockKind) (index : Nat) (b : Hcl.Block)

namespace Place

def path : Place → String
  | top => "config"
  | block kind index _ => kind.path index

/-- The place as the first of its kind. -/
def first : Place → Place
  | top => top
  | block kind _ b => block kind 0 b

/-- The document that has nothing but this place. -/
def alone (body : Hcl.Body) : Place → Hcl.Body
  | top => body.withoutBlocks
  | block _ _ b => [b.item]

/-- Reads a place of a document for its error alone. -/
def read (body : Hcl.Body) : Place → Stanza.Read Unit
  | top => readTop body
  | block kind index b => kind.read index b

end Place

/-- The blocks of a kind, numbered as they stand in the document. -/
def placesOf (body : Hcl.Body) (kind : BlockKind) : List Place :=
  (body.blocksNamed kind.name).zipIdx.map fun b => .block kind b.2 b.1

/-- The places of a document in the order in which they are read. -/
def places (body : Hcl.Body) : List Place :=
  .top :: BlockKind.order.flatMap (placesOf body)

variable {body : Hcl.Body} {kind : BlockKind} {b : Hcl.Block}

theorem block_mem_places {index : Nat} :
    .block kind index b ∈ places body ↔ (body.blocksNamed kind.name)[index]? = some b := by
  have listed : kind ∈ BlockKind.order := by
    cases kind <;> decide
  simp only [places, placesOf, List.mem_cons, reduceCtorEq, false_or, List.mem_flatMap, List.mem_map]
  constructor
  · rintro ⟨_, -, c, member, same⟩
    cases same
    exact List.mem_zipIdx_iff_getElem?.mp member
  · intro atIndex
    exact ⟨kind, listed, (b, index), List.mem_zipIdx_iff_getElem?.mpr atIndex, rfl⟩

theorem done_alone_top (body : Hcl.Body) : done (ofBody body.withoutBlocks).result = readTop body := by
  have absent : ∀ kind : BlockKind, kind.readAll body.withoutBlocks = .ok () := fun kind =>
    BlockKind.readAll_of_absent (Hcl.Body.blocksNamed_withoutBlocks body kind.name)
  have same : readTop body.withoutBlocks = readTop body := by
    rw [readTop, Hcl.Body.withoutBlocks_withoutBlocks]
    rfl
  rw [done_ofBody, same]
  simp only [absent]
  exact bind_pure_unit

theorem done_alone_block (named : b.name = kind.name) : done (ofBody [b.item]).result = kind.read 0 b := by
  have others : ∀ other : BlockKind, other ≠ kind → other.readAll [b.item] = .ok () := fun other different =>
    BlockKind.readAll_of_absent (Hcl.Body.blocksNamed_item_of_ne fun same =>
      different (BlockKind.name_injective (same.symm.trans named)))
  rw [done_ofBody, ← BlockKind.readAll_item named, ← BlockKind.forM_order others]
  rfl

/-- A place is read alone as it is read within its document. -/
theorem read_moved_alone {place : Place} (member : place ∈ places body) :
    Moved place.path place.first.path (place.read body) (done (ofBody (place.alone body)).result) := by
  cases place with
  | top =>
    rw [Place.alone, done_alone_top]
    refine ofBody_moved _ fun fields => ?_
    exact ((flag_moved _).map _).bind fun _ => (duration_moved _).map _
  | block kind index b =>
    have named := Hcl.Body.name_of_mem (List.mem_of_getElem? (block_mem_places.mp member))
    rw [Place.alone, done_alone_block named]
    exact BlockKind.read_moved named index 0

theorem reads_of_readAll (ran : kind.readAll body = .ok ()) :
    ∀ place ∈ placesOf body kind, place.read body = .ok () := by
  obtain ⟨blocks, counted, ran⟩ := Outcome.bind_ok ran
  obtain ⟨rfl, -⟩ := BlockKind.counted_ok counted
  intro place member
  obtain ⟨b, numbered, rfl⟩ := List.mem_map.mp member
  exact Outcome.forM_ok ran b numbered

/-- A document fails with too many blocks of a kind, or at the first place that cannot be read. -/
theorem first_failure {stop : Stop ConfigError} (failed : (ofBody body).result = .error stop) :
    (∃ kind : BlockKind, kind.counted body = .error stop) ∨
      ∃ before place after, places body = before ++ place :: after ∧ place.read body = .error stop ∧
        (∀ earlier ∈ before, earlier.read body = .ok ()) ∧
        ∀ kind index b, place = .block kind index b → ∃ blocks, kind.counted body = .ok blocks := by
  have failed : done (ofBody body).result = .error stop := congrArg done failed
  rw [done_ofBody] at failed
  rcases Outcome.bind_error failed with atTop | ⟨⟨⟩, topRead, failed⟩
  · exact Or.inr ⟨[], .top, _, rfl, atTop, by simp, nofun⟩
  · obtain ⟨kinds, kind, later, ordered, kindsRead, atKind⟩ := Outcome.forM_error failed
    cases counted : kind.counted body with
    | error other =>
      rw [BlockKind.readAll_of_error counted] at atKind
      cases atKind
      exact Or.inl ⟨kind, counted⟩
    | ok blocks =>
      rw [BlockKind.readAll_of_counted counted] at atKind
      obtain ⟨bs, ⟨b, index⟩, more, numbered, bsRead, atBlock⟩ := Outcome.forM_error atKind
      obtain ⟨rfl, -⟩ := BlockKind.counted_ok counted
      have atPlaces : placesOf body kind = bs.map (fun b => .block kind b.2 b.1) ++
          .block kind index b :: more.map (fun b => .block kind b.2 b.1) := by
        rw [placesOf, numbered, List.map_append, List.map_cons]
      -- Before the place stand the top, all blocks of the kinds before, and the blocks before it of its own.
      refine Or.inr ⟨.top :: kinds.flatMap (placesOf body) ++ bs.map fun b => .block kind b.2 b.1,
        .block kind index b, (more.map fun b => .block kind b.2 b.1) ++ later.flatMap (placesOf body),
        ?_, atBlock, ?_, ?_⟩
      · rw [places, ordered, List.flatMap_append, List.flatMap_cons, atPlaces]
        simp
      · intro earlier member
        rcases List.mem_append.mp member with member | member
        · rcases List.mem_cons.mp member with rfl | member
          · exact topRead
          · obtain ⟨kind', before, member⟩ := List.mem_flatMap.mp member
            exact reads_of_readAll (kindsRead kind' before) earlier member
        · obtain ⟨b', before, rfl⟩ := List.mem_map.mp member
          exact bsRead b' before
      · intro kind' index' b' same
        cases same
        exact ⟨_, counted⟩

/-- More blocks than there may be, under the bare name of their kind. -/
def OverLimit (body : Hcl.Body) (e : ConfigError) : Prop :=
  ∃ (kind : BlockKind) (limit : Nat), kind.limit? = some limit ∧
    limit < (body.blocksNamed kind.name).length ∧
    e = ⟨.invalid (.blockLimit kind.name limit (body.blocksNamed kind.name).length), some kind.name⟩

/-- An error that lies at one place of its document: it names this place and no other, stays the same where
the place stands alone, and is the first one. -/
structure Blamed (body : Hcl.Body) (e : ConfigError) (place : Place) (keys : List String) : Prop where
  context : e.context = some (below place.path keys)
  named : ∀ other ∈ places body, ∀ keys', e.context = some (below other.path keys') → other = place
  numbered : ∀ kind index b, place = .block kind index b → (body.blocksNamed kind.name)[index]? = some b
  alone : (ofBody (place.alone body)).result = .error (.error ⟨e.cause, some (below place.first.path keys)⟩)
  earlier : ∃ before after, places body = before ++ place :: after ∧
    ∀ place' ∈ before, ∃ c, (ofBody (place'.alone body)).result = .ok c

/-- Two names below places of one document tell these apart, unless there are more blocks than there may be. -/
theorem place_of_below {place other : Place} {keys keys' : List String} (member : place ∈ places body)
    (member' : other ∈ places body) (same : below other.path keys' = below place.path keys)
    (counted : ∀ kind index b, place = .block kind index b → ∃ blocks, kind.counted body = .ok blocks) :
    other = place := by
  have plain : '.' ∉ "config".toList := by decide
  have apart : ∀ kind : BlockKind, "config" ≠ kind.title := fun kind => by cases kind <;> decide
  cases place with
  | top =>
    cases other with
    | top => rfl
    | block kind index b => exact absurd (BlockKind.title_of_below plain same.symm) (apart kind)
  | block kind index b =>
    cases other with
    | top => exact absurd (BlockKind.title_of_below plain same) (apart kind)
    | block kind' index' b' =>
      obtain ⟨rfl, number⟩ := BlockKind.block_of_below same
      obtain ⟨blocks, found⟩ := counted _ _ _ rfl
      obtain ⟨rfl, few⟩ := BlockKind.counted_ok found
      have atIndex := block_mem_places.mp member
      have atIndex' := block_mem_places.mp member'
      obtain rfl : index' = index := by
        rcases number with single | same
        -- Without numbers all blocks of a kind share a name, but then there is only one.
        · have atMost := few 1 single
          have inside := (List.getElem?_eq_some_iff.mp atIndex).1
          have inside' := (List.getElem?_eq_some_iff.mp atIndex').1
          omega
        · exact same
      obtain rfl := Option.some.inj (atIndex.symm.trans atIndex')
      rfl

/-- Every error of a document is blamed on the place that it lies at. -/
theorem blamed_of_refused {e : ConfigError} (refused : (ofBody body).result = .error (.error e)) :
    OverLimit body e ∨ ∃ place keys, Blamed body e place keys := by
  rcases first_failure refused with ⟨kind, exceeded⟩ | ⟨before, place, after, ordered, atPlace, passed, counted⟩
  · obtain ⟨limit, atKind, tooMany, same⟩ := BlockKind.counted_error exceeded
    cases same
    exact Or.inl ⟨kind, limit, atKind, tooMany, rfl⟩
  · have member : place ∈ places body := ordered ▸ List.mem_append_right _ List.mem_cons_self
    obtain ⟨keys, context, alone⟩ := (atPlace ▸ read_moved_alone member).of_error
    refine Or.inr ⟨place, keys, ⟨context, fun other member' keys' context' => ?_, ?_,
      Outcome.done_eq_error alone, before, after, ordered, fun earlier inBefore => ?_⟩⟩
    · exact place_of_below member member' (Option.some.inj (context'.symm.trans context)) counted
    · rintro kind index b rfl
      exact block_mem_places.mp member
    · have member' : earlier ∈ places body := ordered ▸ List.mem_append_left _ inBefore
      exact Outcome.done_eq_ok (passed earlier inBefore ▸ read_moved_alone member').of_ok

/-- Of two listeners the second names a version that there is not. -/
def strayVersion : Hcl.Body :=
  [.block "telemetry" [] [], .block "listener" ["tcp"] [],
    .block "listener" ["tcp"] [.attr "tls_max_version" (.str "tls99")]]

theorem blamed_strayVersion :
    let e : ConfigError := ⟨.invalid (.tlsVersion "tls99"), some "listeners.1.tls_max_version"⟩
    let second : Hcl.Block := ⟨"listener", ["tcp"], [.attr "tls_max_version" (.str "tls99")]⟩
    (ofBody strayVersion).result = .error (.error e) ∧
      ∃ keys, Blamed strayVersion e (.block .listeners 1 second) keys := by
  intro e second
  have refused : (ofBody strayVersion).result = .error (.error e) := by rfl
  refine ⟨refused, ?_⟩
  rcases blamed_of_refused refused with ⟨kind, limit, -, -, same⟩ | ⟨place, keys, blamed⟩
  · cases (congrArg ConfigError.cause same : ConfigCause.invalid (.tlsVersion "tls99") = _)
  · have member : .block .listeners 1 second ∈ places strayVersion := block_mem_places.mpr rfl
    exact ⟨keys, blamed.named _ member ["tls_max_version"] rfl ▸ blamed⟩

end SharedConfig

end ServiceKit
