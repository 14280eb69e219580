import ServiceKit.Http.Message
import ServiceKit.Proofs.Net.Spelling

namespace ServiceKit.ClientAddress
variable {host : String} {ip : Ip} {opening closing : Nat}

/-- An address with so many opening brackets before it, and so many closing ones behind it. -/
def Bracketed (opening closing : Nat) (host : String) (ip : Ip) : Prop :=
  ∃ text, Ip.parse? text = some ip ∧
    host.toList = List.replicate opening '[' ++ (text.toList ++ List.replicate closing ']')

/-- An address, alone or in brackets. -/
def Literal (host : String) (ip : Ip) : Prop :=
  Bracketed 0 0 host ip ∨ Bracketed 1 1 host ip

theorem dropOpening_eq {cs : List Char} (n : Nat) (other : ∀ c ∈ cs, c ≠ '[') :
    dropOpening (List.replicate n '[' ++ cs) = cs := by
  have open' : ∀ c ∈ List.replicate n '[', (c == '[') = true := by
    intro c member
    rw [(List.mem_replicate.mp member).2]
    rfl
  rw [dropOpening, List.dropWhile_append_of_pos open', List.dropWhile_eq_self_iff]
  intro nonempty
  simpa using other _ (List.getElem_mem nonempty)

theorem dropClosing_eq {cs : List Char} (n : Nat) (other : ∀ c ∈ cs, c ≠ ']') :
    dropClosing (cs ++ List.replicate n ']') = cs := by
  have close : ∀ c ∈ List.replicate n ']', (c == ']') = true := by
    intro c member
    rw [(List.mem_replicate.mp member).2]
    rfl
  have kept : cs.reverse.dropWhile (· == ']') = cs.reverse := by
    rw [List.dropWhile_eq_self_iff]
    intro nonempty
    simpa using other _ (List.mem_reverse.mp (List.getElem_mem nonempty))
  rw [dropClosing, List.reverse_append, List.reverse_replicate, List.dropWhile_append_of_pos close, kept,
    List.reverse_reverse]

/-- What stands before an inner text are opening brackets, and what stands behind it are closing ones. -/
theorem exists_brackets (cs : List Char) :
    ∃ opening closing, cs =
      List.replicate opening '[' ++ (dropClosing (dropOpening cs) ++ List.replicate closing ']') := by
  have run : ∀ (b : Char) (cs : List Char), ∃ n, cs = List.replicate n b ++ cs.dropWhile (· == b) := by
    intro b cs
    refine ⟨(cs.takeWhile (· == b)).length, ?_⟩
    have same : cs.takeWhile (· == b) = List.replicate (cs.takeWhile (· == b)).length b :=
      List.eq_replicate_iff.mpr ⟨rfl, fun c member => by
        simpa using List.mem_takeWhile_imp (p := (· == b)) member⟩
    rw [← same, List.takeWhile_append_dropWhile]
  obtain ⟨opening, before⟩ := run '[' cs
  obtain ⟨closing, behind⟩ := run ']' (dropOpening cs).reverse
  refine ⟨opening, closing, ?_⟩
  have inner : dropOpening cs = dropClosing (dropOpening cs) ++ List.replicate closing ']' := by
    have turned := congrArg List.reverse behind
    rwa [List.reverse_reverse, List.reverse_append, List.reverse_replicate] at turned
  rw [← inner]
  exact before

theorem socketAddress?_eq_some_iff {c : ClientAddress} {a : SocketAddress} :
    c.socketAddress? = some a ↔
      ∃ opening closing ip, Bracketed opening closing c.host ip ∧ a = .ofIp ip c.port := by
  unfold socketAddress?
  rw [Option.map_eq_some_iff]
  constructor
  · rintro ⟨ip, read, rfl⟩
    obtain ⟨opening, closing, same⟩ := exists_brackets c.host.toList
    exact ⟨opening, closing, ip, ⟨_, read, by rwa [String.toList_ofList]⟩, rfl⟩
  · rintro ⟨opening, closing, ip, ⟨text, read, same⟩, rfl⟩
    have glyphs := Ip.glyphs_of_parse? read
    have apart : ∀ c ∈ text.toList, c ≠ '[' ∧ c ≠ ']' := by
      intro c member
      refine ⟨?_, ?_⟩
      all_goals
        rintro rfl
        exact absurd (glyphs _ member) (by decide)
    refine ⟨ip, ?_, rfl⟩
    rw [same, dropOpening_eq, dropClosing_eq, String.ofList_toList, read]
    · exact fun c member => (apart c member).2
    · intro c member
      rcases List.mem_append.mp member with inside | behind
      · exact (apart c inside).1
      · rw [(List.mem_replicate.mp behind).2]
        decide

/-- A host shows one address at most, however many brackets are counted to it. -/
theorem Bracketed.unique {opening' closing' : Nat} {ip' : Ip} (shown : Bracketed opening closing host ip)
    (shown' : Bracketed opening' closing' host ip') : ip = ip' := by
  let client : ClientAddress := ⟨host, 0⟩
  have found : client.socketAddress? = some (.ofIp ip 0) :=
    socketAddress?_eq_some_iff.mpr ⟨opening, closing, ip, shown, rfl⟩
  have found' : client.socketAddress? = some (.ofIp ip' 0) :=
    socketAddress?_eq_some_iff.mpr ⟨opening', closing', ip', shown', rfl⟩
  exact congrArg SocketAddress.ip (Option.some.inj (found.symm.trans found'))

theorem Literal.bracketed (literal : Literal host ip) :
    ∃ opening closing, Bracketed opening closing host ip := by
  rcases literal with bare | enclosed
  · exact ⟨0, 0, bare⟩
  · exact ⟨1, 1, enclosed⟩

end ServiceKit.ClientAddress
