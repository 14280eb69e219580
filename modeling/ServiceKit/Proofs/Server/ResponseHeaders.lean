import ServiceKit.Proofs.Http.Headers
import ServiceKit.Proofs.Server.Gates

namespace ServiceKit

/-- What headers make of a response: under each of their names stands their value alone, and all else is as
it was. -/
structure Headers.Dressed (extra : Headers) (before after : Response) : Prop where
  status : after.status = before.status
  body : after.body = before.body
  own : ∀ f ∈ extra, after.headers.getAll f.1 = [f.2]
  other : ∀ name, name ∉ extra.map Prod.fst → after.headers.getAll name = before.headers.getAll name

namespace CustomHeaders
variable {table : CustomHeaders} {inner : Handler} {request : Request}

theorem layer_dresses (table : CustomHeaders) {before : Response} (answered : inner request = .ok before) :
    ∃ after, table.layer inner request = .ok after ∧
      Headers.Dressed (table.forStatus before.status) before after := by
  refine ⟨{ before with headers := before.headers.setAll (table.forStatus before.status) }, ?_, rfl, rfl, ?_, ?_⟩
  · rw [layer, answered]
    rfl
  · exact fun f member => Headers.getAll_setAll_of_mem (single_forStatus table before.status) member
  · exact fun name absent => Headers.getAll_setAll_of_notMem absent

theorem layer_of_isEmpty (empty : table.isEmpty = true) (inner : Handler) : table.layer inner = inner := by
  funext request
  rw [layer]
  simp only [forStatus_of_isEmpty empty]
  cases inner request <;> rfl

end CustomHeaders

namespace Router
variable {l : Listener} {state : State} {inner handler : Handler} {request : Request} {response : Response}

/-- All that stands before the pages but the headers for responses. -/
def gates (l : Listener) (inner : Handler) : Handler :=
  let inner := applyIf (l.effectiveMaxRequestSize.map limitBody) inner
  let inner := if l.requireRequestHeader then requireHeader inner else inner
  applyIf ((ForwardedSettings.ofListener? l).map ForwardedSettings.layer) inner

/-- Headers stand before all else, and where there are none they may as well. -/
theorem layers_eq (l : Listener) (table : CustomHeaders) (inner : Handler) :
    layers l table inner = table.layer (gates l inner) := by
  change (if table.isEmpty then gates l inner else table.layer (gates l inner)) = _
  split_ifs with empty
  · exact (CustomHeaders.layer_of_isEmpty empty _).symm
  · rfl

/-- The last touch adds a header only where there is none of its name. -/
theorem finish_keeps (answered : finish state inner request = .ok response) :
    ∃ before, inner request = .ok before ∧ response.status = before.status ∧
      ∀ name, before.headers.getAll name ≠ [] →
        response.headers.getAll name = before.headers.getAll name := by
  obtain ⟨before, atInner, finished⟩ := Outcome.map_ok answered
  refine ⟨before, atInner, ?_⟩
  subst finished
  dsimp only
  by_cases told : ((page? state (pathOf request.path)).isSome && !isRead request.method &&
      !before.headers.contains "allow") = true
  · rw [if_pos told]
    have missing : before.headers.contains "allow" = false := by
      simpa using (Bool.and_eq_true_iff.mp told).2
    refine ⟨by split_ifs <;> rfl, fun name found => ?_⟩
    have other : "allow" ≠ name := by
      rintro rfl
      rw [Headers.contains_of_getAll found] at missing
      cases missing
    have kept : (before.headers ++ [("allow", Bytes.ofString "GET,HEAD")]).getAll name =
        before.headers.getAll name := by
      simp [Headers.getAll, other]
    split_ifs <;> exact kept
  · rw [if_neg told]
    exact ⟨by split_ifs <;> rfl, fun name _ => by split_ifs <;> rfl⟩

/-- Whichever gate or page answers, the response has the headers that the listener has for its status, each
with this value alone. Nothing else of it changes, and a table without headers changes nothing. -/
theorem dressed_of_built (built : ofListener state l = .ok handler) :
    ∃ table, CustomHeaders.ofTable l.customHeaders = .ok table ∧
      (∀ request,
        (∃ response, handler request = .ok response ∧ response.status = dueStatus l request ∧
          ∀ f ∈ table.forStatus response.status, response.headers.getAll f.1 = [f.2]) ∨
        Integer.u64Max ≤ l.forwarded.hopSkips ∧ handler request = .error .additionOverflow) ∧
      (∀ (inner : Handler) request before, inner request = .ok before →
        ∃ after, table.layer inner request = .ok after ∧
          Headers.Dressed (table.forStatus before.status) before after) ∧
      (table.isEmpty = true → ∀ inner, table.layer inner = inner) := by
  have answers := ofListener_gives built
  obtain ⟨table, atTable, rfl⟩ := Outcome.map_ok built
  refine ⟨table, atTable, fun request => ?_, fun inner request before => table.layer_dresses,
    CustomHeaders.layer_of_isEmpty⟩
  rcases answers request with ⟨response, answered, due⟩ | crashed
  · refine Or.inl ⟨response, answered, due, fun f member => ?_⟩
    obtain ⟨after, atLayers, status, kept⟩ := finish_keeps answered
    rw [layers_eq] at atLayers
    obtain ⟨before, atGates, -⟩ := Outcome.map_ok atLayers
    obtain ⟨dressed, atLayer, isDressed⟩ := table.layer_dresses atGates
    obtain rfl : dressed = after := Except.ok.inj (atLayer.symm.trans atLayers)
    rw [status, isDressed.status] at member
    have own := isDressed.own f member
    rw [kept f.1 (by rw [own]; exact List.cons_ne_nil _ _), own]
  · exact Or.inr crashed

/-- A listener that has its own word on what a page allows. -/
def outspokenListener : Listener :=
  { kind := .tcp, requireRequestHeader := true,
    customHeaders := [("405", [("Allow", "POST")]), ("default", [("Content-Type", "text/x"), ("Allow", "-")])] }

theorem dressed_outspokenListener :
    ∃ handler, ofListener ⟨none, .null, 0⟩ outspokenListener = .ok handler ∧
      (∃ response, handler ⟨"POST", "/v1/sys/health", [("x-keel-request", [])], none, none⟩ = .ok response ∧
        response.status = 405 ∧ response.headers.getAll "allow" = [Bytes.ofString "POST"] ∧
        response.headers.getAll "content-type" = [Bytes.ofString "text/x"]) ∧
      ∃ response, handler ⟨"GET", "/v1/sys/health", [], none, none⟩ = .ok response ∧
        response.status = 412 ∧ response.headers.getAll "content-type" = [Bytes.ofString "text/x"] := by
  have isBuilt : (ofListener ⟨none, .null, 0⟩ outspokenListener).toOption.isSome := by decide +kernel
  obtain ⟨handler, found⟩ := Option.isSome_iff_exists.mp isBuilt
  have built := Outcome.ok_of_toOption found
  obtain ⟨table, atTable, answers, -, -⟩ := dressed_of_built built
  have rows : CustomHeaders.ofTable outspokenListener.customHeaders = .ok
      [("405", [("allow", Bytes.ofString "POST")]),
        ("default", [("content-type", Bytes.ofString "text/x"), ("allow", Bytes.ofString "-")])] :=
    Outcome.ok_of_toOption (by decide +kernel)
  obtain rfl := Except.ok.inj (rows.symm.trans atTable)
  have answered := fun request => (answers request).resolve_right fun wrong => absurd wrong.1 (by decide)
  refine ⟨handler, built, ?_, ?_⟩
  · obtain ⟨response, answer, due, own⟩ :=
      answered ⟨"POST", "/v1/sys/health", [("x-keel-request", [])], none, none⟩
    have status : response.status = 405 := due.trans (by decide +kernel)
    rw [status] at own
    exact ⟨response, answer, status, own ("allow", Bytes.ofString "POST") (by decide +kernel),
      own ("content-type", Bytes.ofString "text/x") (by decide +kernel)⟩
  · obtain ⟨response, answer, due, own⟩ := answered ⟨"GET", "/v1/sys/health", [], none, none⟩
    have status : response.status = 412 := due.trans (by decide +kernel)
    rw [status] at own
    exact ⟨response, answer, status, own ("content-type", Bytes.ofString "text/x") (by decide +kernel)⟩

end Router

end ServiceKit
