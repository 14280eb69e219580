import ServiceKit.Proofs.Config.Reports
import ServiceKit.Proofs.Hcl.Parts

namespace ServiceKit.Listener

open Hcl (Part)

/-- The name under which a listener has its headers for responses. -/
def headersName : String := "custom_response_headers"

/-- What a listener stanza has on a way below that name. -/
def headersAt? (b : Hcl.Body) (names : List String) : Option Part :=
  (Part.blocks b []).at? (headersName :: names)

/-- A header table beside the stanza that it is read from: each header there is in it with its value, values in a
list joined, and nothing else is; and what a status has is an object, or a list of just one. -/
structure HeadersFrom (b : Hcl.Body) (table : HeaderTable) : Prop where
  kept : ∀ status name p, headersAt? b [status, name] = some p →
    ∃ v, p.toJson? = some v ∧ (Json.lookup status table).bind (Json.lookup name) = some (headerValue v)
  whence : ∀ status name text, (Json.lookup status table).bind (Json.lookup name) = some text →
    ∃ p v, headersAt? b [status, name] = some p ∧ p.toJson? = some v ∧ text = headerValue v
  shaped : ∀ status p, headersAt? b [status] = some p →
    ∃ fields, p.toJson? = some (.obj fields) ∨ p.toJson? = some (.arr [.obj fields])

variable {s : Stanza}

theorem headerFields?_eq_some {v : Json} {fields : List (String × Json)} (found : headerFields? v = some fields) :
    v = .obj fields ∨ v = .arr [.obj fields] := by
  unfold headerFields? at found
  split at found
  · exact Or.inl (congrArg Json.obj (Option.some.inj found))
  · exact Or.inr (congrArg (fun fields => Json.arr [.obj fields]) (Option.some.inj found))
  · cases found

/-- A status and its headers beside the row that is made of them. -/
def RowOf (v : Json) (row : List (String × String)) : Prop :=
  ∃ fields, (v = .obj fields ∨ v = .arr [.obj fields]) ∧ row = fields.map fun f => (f.1, headerValue f.2)

theorem readHeaderTable_ok {fields : List (String × Json)} {table : HeaderTable}
    (ran : readHeaderTable s fields = .ok table) (status : String) :
    Option.Rel RowOf (Json.lookup status fields) (Json.lookup status table) := by
  induction fields generalizing table with
  | nil =>
    cases ran
    exact .none
  | cons f rest ih =>
    obtain ⟨name, v⟩ := f
    unfold readHeaderTable at ran
    split at ran
    · cases ran
    · next found =>
      obtain ⟨more, later, same⟩ := Outcome.bind_ok ran
      cases same
      rw [Json.lookup_cons, Json.lookup_cons]
      split_ifs
      · exact .some ⟨_, headerFields?_eq_some found, rfl⟩
      · exact ih later

theorem RowOf.values {v : Json} {row : List (String × String)} (made : RowOf v row) (name : String) :
    Option.Rel (fun w text => headerValue w = text) (v.at? [name]) (Json.lookup name row) := by
  obtain ⟨fields, shape, rfl⟩ := made
  have first : v.firstObject? = some fields := by
    rcases shape with rfl | rfl <;> rfl
  have found : v.at? [name] = Json.lookup name fields := by
    rw [Json.at?, first, Option.bind_some]
    cases Json.lookup name fields <;> rfl
  rw [found, Json.lookup_map]
  cases Json.lookup name fields with
  | none => exact .none
  | some w => exact .some rfl

/-- What a stanza has for a status is what its row is made of. -/
theorem readCustomHeaders_ok {table : HeaderTable} (ran : readCustomHeaders s = .ok table) (status : String) :
    Option.Rel RowOf ((Json.obj s.fields).at? [headersName, status]) (Json.lookup status table) := by
  have root : (Json.obj s.fields).at? [headersName, status] =
      (s.object headersName).bind (Json.lookup status) := by
    rw [Stanza.object_eq]
    change (Json.lookup headersName s.fields).bind (·.at? [status]) = _
    cases Json.lookup headersName s.fields with
    | none => rfl
    | some v =>
      change (v.firstObject?.bind (Json.lookup status)).bind some = v.firstObject?.bind (Json.lookup status)
      exact Option.bind_fun_some _
  rw [root]
  rw [readCustomHeaders, ← headersName] at ran
  cases found : s.object headersName with
  | none =>
    rw [found] at ran
    cases ran
    exact .none
  | some fields =>
    rw [found] at ran
    exact readHeaderTable_ok ran status

/-- A stanza and the header table that is read from it, way by way. -/
theorem headersFrom_of_read {b : Hcl.Body} {table : HeaderTable} (read : b.fields? = some s.fields)
    (ran : readCustomHeaders s = .ok table) : HeadersFrom b table := by
  have decoded : (Part.blocks b []).toJson? = some (.obj s.fields) := by
    rw [Part.toJson?, Hcl.Body.toJson?, read]
    rfl
  have rows := fun status => Hcl.rel_trans (Part.valued_at? decoded [headersName, status])
    (readCustomHeaders_ok ran status)
  have values : ∀ status name, Option.Rel (fun p text => ∃ v, p.toJson? = some v ∧ headerValue v = text)
      (headersAt? b [status, name]) ((Json.lookup status table).bind (Json.lookup name)) := by
    intro status name
    refine Hcl.rel_trans (Part.valued_at? decoded [headersName, status, name]) ?_
    rw [show [headersName, status, name] = [headersName, status] ++ [name] from rfl, Json.at?_append]
    exact Hcl.rel_bind (readCustomHeaders_ok ran status) fun v row made => made.values name
  refine ⟨fun status name p stands => ?_, fun status name text found => ?_, fun status p stands => ?_⟩
  · obtain ⟨text, found, v, atPart, rfl⟩ := Hcl.exists_right (values status name) stands
    exact ⟨v, atPart, found⟩
  · obtain ⟨p, stands, v, atPart, same⟩ := Hcl.exists_left (values status name) found
    exact ⟨p, v, stands, atPart, same.symm⟩
  · obtain ⟨row, -, v, atPart, fields, shape, -⟩ := Hcl.exists_right (rows status) stands
    rcases shape with rfl | rfl
    · exact ⟨fields, Or.inl atPart⟩
    · exact ⟨fields, Or.inr atPart⟩

/-- The headers of every listener of an accepted document are those that its stanza has. -/
theorem headers_of_accepted {body : Hcl.Body} {ls : List Listener} (accepted : (ofBody body).result = .ok ls) :
    List.Forall₂ (fun b l => HeadersFrom b.body l.customHeaders) (body.blocksNamed "listener") ls := by
  have numbered := Checked.forEach_ok accepted
  have blocks : (body.blocksNamed "listener").zipIdx.map Prod.fst = body.blocksNamed "listener" :=
    List.zipIdx_map_fst 0 _
  rw [← blocks, List.forall₂_map_left_iff]
  refine numbered.imp fun b l ran => ?_
  obtain ⟨label, s, -, atBody, read⟩ := ofBlock_ok ran
  exact headersFrom_of_read (Stanza.ofBody_ok atBody).2 read.customHeaders

/-- Headers in blocks with labels. -/
def labelledHeaders : Hcl.Block :=
  ⟨"listener", ["tcp"], [
    .block headersName ["404"] [.attr "X-A" (.array [.str "1", .str "2"])],
    .block headersName ["5xx"] [.attr "X-B" (.bool true)]]⟩

/-- Headers in an object, and in a list with one object. -/
def objectHeaders : Hcl.Block :=
  ⟨"listener", ["unix"], [.attr "address" (.str "/run/s"), .attr headersName (.object [
    (.str "default", .object [(.str "X-C", .str "3")]), (.str "200", .array [.object [(.str "X-D", .str "4")]])])]⟩

/-- A listener is read from what its block decodes to. -/
theorem ofBlock_of_added {index : Nat} {b : Hcl.Block} {label : Option String}
    {es : List (String × Hcl.Entry)} {l : Listener}
    (labelled : b.label? ("listeners." ++ toString index) = .ok label) (added : Hcl.addAll [] b.body = some es)
    (read : (ofStanza label
      ⟨"listeners." ++ toString index, (Json.ofFields (Hcl.entriesToJson es)).toFields⟩).result = .ok l) :
    (ofBlock index b).result = .ok l := by
  have atStanza : Stanza.ofBody ("listeners." ++ toString index) b.body =
      .ok ⟨"listeners." ++ toString index, (Json.ofFields (Hcl.entriesToJson es)).toFields⟩ := by
    rw [Stanza.ofBody, Hcl.Body.fields?, added]
    rfl
  exact Checked.bind_of_ok labelled (Checked.bind_of_ok atStanza read)

theorem ofBlock_labelledHeaders :
    (ofBlock 0 labelledHeaders).result =
      .ok { kind := .tcp, customHeaders := [("404", [("X-A", "1; 2")]), ("5xx", [("X-B", "true")])] } := by
  have added : Hcl.addAll [] labelledHeaders.body = some [(headersName, .labelled [
      ("404", .bodies [.obj [("X-A", .arr [.str "1", .str "2"])]]), ("5xx", .bodies [.obj [("X-B", .bool true)]])])] := by
    simp [labelledHeaders, Hcl.addAll, Hcl.Item.addTo, Hcl.Expr.toJson?, Hcl.valuesOf, Hcl.putValue,
      Hcl.mergeEntry, Hcl.mergeEntries, Hcl.Entry.merge, Hcl.blockEntry, Hcl.entriesToJson, Hcl.Entry.toJson,
      Json.ofFields, Json.insert]
  exact ofBlock_of_added rfl added (Outcome.ok_of_toOption (by decide +kernel))

theorem headers_of_labelledHeaders_objectHeaders :
    ∃ ls, (ofBody [labelledHeaders.item, objectHeaders.item]).result = .ok ls ∧
      ls.map customHeaders = [[("404", [("X-A", "1; 2")]), ("5xx", [("X-B", "true")])],
        [("200", [("X-D", "4")]), ("default", [("X-C", "3")])]] ∧
      List.Forall₂ (fun b l => HeadersFrom b.body l.customHeaders) [labelledHeaders, objectHeaders] ls := by
  have atObject : (Checked.forEach (fun b => ofBlock b.2 b.1) [(objectHeaders, 1)]).result =
      .ok [{
        kind := .unix, address := some "/run/s"
        customHeaders := [("200", [("X-D", "4")]), ("default", [("X-C", "3")])] }] :=
    Outcome.ok_of_toOption (by decide +kernel)
  have accepted : (ofBody [labelledHeaders.item, objectHeaders.item]).result = .ok _ :=
    Checked.bind_of_ok ofBlock_labelledHeaders (Checked.bind_of_ok atObject rfl)
  exact ⟨_, accepted, rfl, headers_of_accepted accepted⟩

/-- Two blocks in a row, each with a header. -/
def repeatedHeaders : Hcl.Block :=
  ⟨"listener", ["tcp"], [
    .block headersName [] [.attr "default" (.object [(.str "X-A", .str "1")])],
    .block headersName [] [.attr "default" (.object [(.str "X-B", .str "2")])]]⟩

theorem ofBlock_repeatedHeaders :
    (ofBlock 0 repeatedHeaders).result =
      .ok { kind := .tcp, customHeaders := [("default", [("X-A", "1")])] } := by
  have added : Hcl.addAll [] repeatedHeaders.body = some [(headersName, .bodies [
      .obj [("default", .obj [("X-A", .str "1")])], .obj [("default", .obj [("X-B", .str "2")])]])] := by
    simp [repeatedHeaders, Hcl.addAll, Hcl.Item.addTo, Hcl.Expr.toJson?, Hcl.fieldsOf, Hcl.keyName, Hcl.putValue,
      Hcl.mergeEntry, Hcl.Entry.merge, Hcl.blockEntry, Hcl.entriesToJson, Hcl.Entry.toJson, Json.ofFields,
      Json.insert]
  exact ofBlock_of_added rfl added (Outcome.ok_of_toOption (by decide +kernel))

/-- The header of a second block is lost. -/
theorem second_block_dropped :
    ∃ first second l, Hcl.Body.part? repeatedHeaders.body headersName = some (.blocks first [second]) ∧
      (((Part.blocks second []).at? ["default", "X-B"]).bind Part.toJson?).map headerValue = some "2" ∧
      (ofBody [repeatedHeaders.item]).result = .ok [l] ∧
      (Json.lookup "default" l.customHeaders).bind (Json.lookup "X-B") = none :=
  ⟨_, _, _, rfl, by decide +kernel, Checked.bind_of_ok ofBlock_repeatedHeaders rfl, rfl⟩

end ServiceKit.Listener
