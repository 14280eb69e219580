import ServiceKit.Proofs.Config.Redaction
import ServiceKit.Proofs.Hcl.Plain
import ServiceKit.Server.Build

namespace ServiceKit

/-- Of its seals a configuration shows their views alone. -/
theorem SharedConfig.sanitized_of_views {c d : SharedConfig} (others : d = { c with seals := d.seals })
    (views : c.seals.map sealView = d.seals.map sealView) : c.sanitized = d.sanitized := by
  rw [others]
  simp only [sanitized, views]

namespace Server

/-- A server answers from what its configuration shows. -/
theorem build_of_views {c d : SharedConfig} (others : d = { c with seals := d.seals })
    (views : c.seals.map SharedConfig.sealView = d.seals.map SharedConfig.sealView)
    (fs : FileSystem) (now : Int) : (build fs now c).map handler? = (build fs now d).map handler? := by
  have shown := SharedConfig.sanitized_of_views others views
  have listeners : d.listeners = c.listeners := by rw [others]
  have state : Router.State.ofConfig d now = Router.State.ofConfig c now := by
    unfold Router.State.ofConfig
    rw [shown]
    rw [others]
  unfold build
  rw [listeners, state]
  split_ifs
  · rfl
  · dsimp only
    cases c.listeners.zipIdx.mapM fun l => buildListener fs (Router.State.ofConfig c now) l.2 l.1 with
    | error e => rfl
    | ok served => rfl

/-- The secrets of seals reach no client. Two accepted documents that are the same once redacted show the
same configuration, and whatever the files and the time, the servers built from them fail with the same
error, or answer every request to every listener in the same way. -/
theorem secrets_unseen {text other : String} {c d : SharedConfig}
    (same : (Hcl.parse? text).map Hcl.Body.redacted = (Hcl.parse? other).map Hcl.Body.redacted)
    (accepted : (SharedConfig.parse text).result = .ok c)
    (accepted' : (SharedConfig.parse other).result = .ok d) :
    c.sanitized = d.sanitized ∧
      ∀ fs now, (build fs now c).map handler? = (build fs now d).map handler? := by
  obtain ⟨body, atText, ran⟩ := SharedConfig.parse_ok accepted
  obtain ⟨body', atText', ran'⟩ := SharedConfig.parse_ok accepted'
  rw [atText, atText'] at same
  obtain ⟨others, views⟩ := SharedConfig.ofBody_redacted (Option.some.inj same) ran ran'
  exact ⟨SharedConfig.sanitized_of_views others views, build_of_views others views⟩

/-- A document with one listener and one seal, which has a key. -/
def sealedText (key : String) : String :=
  "listener \"tcp\" \x7b\n  tls_disable = \"true\"\n\x7d\n" ++
    "kms \"aead\" \x7b\n  purpose = \"root\"\n  key = \"" ++ key ++ "\"\n\x7d\n"

def sealedBlocks (key : String) : List Hcl.PlainBlock :=
  [⟨"listener", ["tcp"], [("tls_disable", "true")]⟩, ⟨"kms", ["aead"], [("purpose", "root"), ("key", key)]⟩]

theorem parse?_sealedText {key : String}
    (found : (Hcl.parse? (sealedText key)).bind (·.mapM Hcl.PlainBlock.ofItem?) = some (sealedBlocks key)) :
    Hcl.parse? (sealedText key) = some ((sealedBlocks key).map Hcl.PlainBlock.item) := by
  obtain ⟨body, parsed, blocks⟩ := Option.bind_eq_some_iff.mp found
  rw [parsed, Hcl.PlainBlock.eq_of_mapM blocks]

def sealedConfig (key : String) : SharedConfig where
  listeners := [{ kind := .tcp, tls := { disable := true } }]
  seals := [⟨"aead", ["root"], false, none, none, [("key", key)]⟩]
  foundKeys := ["listener", "kms"]

/-- The documents with two keys show the same, and their servers, which there are, answer the same. -/
theorem secrets_unseen_of_sealedText :
    sealedConfig "k1" ≠ sealedConfig "k2" ∧ (sealedConfig "k1").sanitized = (sealedConfig "k2").sanitized ∧
      (∃ server, build ⟨[]⟩ 0 (sealedConfig "k1") = .ok server) ∧
      (build ⟨[]⟩ 0 (sealedConfig "k1")).map handler? = (build ⟨[]⟩ 0 (sealedConfig "k2")).map handler? := by
  have accepted : (SharedConfig.parse (sealedText "k1")).result = .ok (sealedConfig "k1") :=
    Outcome.ok_of_toOption (by decide +kernel)
  have accepted' : (SharedConfig.parse (sealedText "k2")).result = .ok (sealedConfig "k2") :=
    Outcome.ok_of_toOption (by decide +kernel)
  have same : (Hcl.parse? (sealedText "k1")).map Hcl.Body.redacted =
      (Hcl.parse? (sealedText "k2")).map Hcl.Body.redacted := by
    rw [parse?_sealedText (by decide +kernel), parse?_sealedText (by decide +kernel)]
    rfl
  obtain ⟨shown, built⟩ := secrets_unseen same accepted accepted'
  exact ⟨by decide, shown, ⟨_, rfl⟩, built ⟨[]⟩ 0⟩

end Server

end ServiceKit
