import ServiceKit.Proofs.Config.Listener
import ServiceKit.Proofs.Forwarded.Chain
import ServiceKit.Proofs.Net.Covers

namespace ServiceKit.ForwardedSettings
open Headers (Legible glyphs)

/-- What is due to a request with lines of text: the status of a refusal, or the client, if one counts. -/
def verdict (config : ForwardedSettings) (lines : List String) (remote : SocketAddress) :
    Except Nat (Option ClientAddress) :=
  if lines = [] then
    if config.rejectNotPresent then .error 403 else .ok none
  else if ¬ ∃ net ∈ config.authorized, net.Covers remote.ip then
    if config.rejectNotAuthorized then .error 403 else .ok none
  else
    let links := (Text.split ',' (",".intercalate lines)).map Text.trim
    match links.reverse[config.hopSkips]? with
    | some host => .ok (some ⟨host, remote.port⟩)
    | none => .error 400

theorem isAuthorized_iff (config : ForwardedSettings) (ip : Ip) :
    config.isAuthorized ip = true ↔ ∃ net ∈ config.authorized, net.Covers ip := by
  simp only [isAuthorized, List.any_eq_true, Cidr.contains_iff_covers]

/-- It makes no difference whether lines are split one by one or as one text. -/
theorem chain_eq_split_intercalate {lines : List String} (nonempty : lines ≠ []) :
    chain lines = (Text.split ',' (",".intercalate lines)).map Text.trim := by
  have parts : lines.map String.toList ≠ [] := by simpa using nonempty
  have comma : ",".toList = [','] := by rfl
  simp only [chain, Text.split, String.toList_intercalate, Text.splitChars_eq_splitOn, comma,
    Text.splitOn_intercalate_eq_flatMap parts, List.flatMap_map, List.map_flatMap]

/-- A value of joined lines is as legible as the lines. -/
theorem legible_of_intercalate {values others : List Bytes}
    (same : [comma].intercalate others = [comma].intercalate values) (nonempty : values ≠ [])
    (othersNonempty : others ≠ []) (legible : ∀ value ∈ values, Legible value) :
    ∀ value ∈ others, Legible value := by
  have joined := congrArg (List.splitOn comma) same
  rw [Text.splitOn_intercalate_eq_flatMap nonempty, Text.splitOn_intercalate_eq_flatMap othersNonempty]
    at joined
  rw [legible_values_iff_links] at legible ⊢
  simp only [links] at legible ⊢
  rwa [joined]

theorem trustedClient_eq_verdict {config : ForwardedSettings} {headers : Headers}
    (room : config.hopSkips < Integer.u64Max)
    (legible : ∀ value ∈ headers.getAll header, Legible value) (remote : SocketAddress) :
    (config.trustedClient headers remote).mapError (Stop.map Rejection.status) =
      (config.verdict ((headers.getAll header).map glyphs) remote).mapError .error := by
  rw [trustedClient_eq room, counted_eq_self legible, verdict]
  by_cases absent : headers.getAll header = []
  · simp only [absent, List.map_nil, if_true]
    split_ifs <;> rfl
  have lines : (headers.getAll header).map glyphs ≠ [] := by simpa using absent
  rw [if_neg absent, if_neg lines]
  by_cases authorized : ∃ net ∈ config.authorized, net.Covers remote.ip
  · have trusted := (isAuthorized_iff config remote.ip).mpr authorized
    simp only [trusted, authorized, Bool.not_true, Bool.false_eq_true, not_true, if_false,
      ← chain_eq_split_intercalate lines, chain_glyphs, ← List.map_reverse, List.getElem?_map]
    cases (links (headers.getAll header)).reverse[config.hopSkips]? <;> rfl
  · have refused : config.isAuthorized remote.ip = false :=
      Bool.eq_false_iff.mpr fun trusted => authorized ((isAuthorized_iff config remote.ip).mp trusted)
    simp only [refused, authorized, Bool.not_false, not_false_eq_true, if_true]
    split_ifs <;> rfl

theorem trustedClient_regroup {config : ForwardedSettings} {headers others : Headers}
    (room : config.hopSkips < Integer.u64Max)
    (legible : ∀ value ∈ headers.getAll header, Legible value) (nonempty : headers.getAll header ≠ [])
    (othersNonempty : others.getAll header ≠ [])
    (same : [comma].intercalate (others.getAll header) = [comma].intercalate (headers.getAll header))
    (remote : SocketAddress) : config.trustedClient others remote = config.trustedClient headers remote := by
  have othersLegible := legible_of_intercalate same nonempty othersNonempty legible
  have joined := congrArg (List.splitOn comma) same
  rw [Text.splitOn_intercalate_eq_flatMap nonempty, Text.splitOn_intercalate_eq_flatMap othersNonempty]
    at joined
  change links _ = links _ at joined
  rw [trustedClient_eq room, trustedClient_eq room, counted_eq_self legible, counted_eq_self othersLegible,
    if_neg nonempty, if_neg othersNonempty, joined]

/-- A listener of a document that trusts proxies answers as due, without a crash, and does not tell apart
lines that make the same text. -/
theorem trustedClient_of_parsed {body : Hcl.Body} {ls : List Listener} {l : Listener}
    (parsed : (Listener.ofBody body).result = .ok ls) (member : l ∈ ls)
    (trusting : l.forwarded.authorized ≠ []) :
    ∃ config, ofListener? l = some config ∧ ∀ (headers : Headers) (remote : SocketAddress),
      (∀ value ∈ headers.getAll header, Legible value) →
        (config.trustedClient headers remote).mapError (Stop.map Rejection.status) =
          (config.verdict ((headers.getAll header).map glyphs) remote).mapError .error ∧
        ∀ others : Headers, headers.getAll header ≠ [] → others.getAll header ≠ [] →
          [comma].intercalate (others.getAll header) = [comma].intercalate (headers.getAll header) →
          config.trustedClient others remote = config.trustedClient headers remote := by
  have room := Listener.hopSkips_lt_of_mem parsed member
  refine ⟨l.forwarded, by simp [ofListener?, trusting], fun headers remote legible => ?_⟩
  refine ⟨trustedClient_eq_verdict room legible remote, fun others nonempty othersNonempty same => ?_⟩
  exact trustedClient_regroup room legible nonempty othersNonempty same remote

def proxiedBody : Hcl.Body :=
  [.block "listener" ["tcp"] [
    .attr "x_forwarded_for_authorized_addrs" (.str "10.0.0.0/8"),
    .attr "x_forwarded_for_hop_skips" (.num (.int 1))]]

def proxiedListener : Listener :=
  { kind := .tcp, forwarded := { authorized := [⟨.v4 0x0a000000, 8⟩], hopSkips := 1 } }

theorem ofBody_proxiedBody : (Listener.ofBody proxiedBody).result = .ok [proxiedListener] :=
  Outcome.ok_of_toOption (by decide +kernel)

/-- The client stands before the last proxy, however the links are spread over lines. -/
theorem client_of_proxiedListener :
    let peer := SocketAddress.ofIp (.v4 0x0a000001) 4444
    let lines := [Bytes.ofString "6.6.6.6 ,\t1.2.3.4", Bytes.ofString " 10.0.0.2"]
    let regrouped := [Bytes.ofString "6.6.6.6 ", Bytes.ofString "\t1.2.3.4, 10.0.0.2"]
    ∃ config, ofListener? proxiedListener = some config ∧
      (config.trustedClient (lines.map (header, ·)) peer).mapError (Stop.map Rejection.status) =
        .ok (some ⟨"1.2.3.4", 4444⟩) ∧
      config.trustedClient (regrouped.map (header, ·)) peer =
        config.trustedClient (lines.map (header, ·)) peer := by
  intro peer lines regrouped
  obtain ⟨config, same, answers⟩ :=
    trustedClient_of_parsed ofBody_proxiedBody List.mem_cons_self (by decide)
  obtain ⟨answer, regroup⟩ := answers (lines.map (header, ·)) peer (by decide +kernel)
  obtain rfl : proxiedListener.forwarded = config := Option.some.inj same
  exact ⟨_, same, answer.trans (Outcome.ok_of_toOption (by decide +kernel)),
    regroup (regrouped.map (header, ·)) (by decide +kernel) (by decide +kernel) (by decide +kernel)⟩

end ServiceKit.ForwardedSettings
