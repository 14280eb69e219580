import ServiceKit.Proofs.Container.Starting
import ServiceKit.Proofs.Outcome
import ServiceKit.Proofs.Text.Trimming

namespace ServiceKit

namespace ContainerConfig
variable {options config : ContainerConfig} {digest hex s : String} {c : Char}

def IsHex (c : Char) : Prop :=
  ('0' ≤ c ∧ c ≤ '9') ∨ ('a' ≤ c ∧ c ≤ 'f') ∨ ('A' ≤ c ∧ c ≤ 'F')

/-- Sixty-four hexadecimal digits, in either case. -/
structure Digits (s : String) : Prop where
  length : s.length = 64
  isHex : ∀ c ∈ s.toList, IsHex c

/-- A text gives a digest by its digits alone, or with the kind of digest in front of them. -/
inductive Denotes : String → String → Prop where
  | bare {digits : String} (wellFormed : Digits digits) : Denotes digits digits
  | kinded {digits : String} (wellFormed : Digits digits) : Denotes (digestLead ++ digits) digits

theorem isHex_iff : IsHex c ↔ 48 ≤ c.toNat ∧ c.toNat ≤ 57 ∨ 97 ≤ c.toNat ∧ c.toNat ≤ 102 ∨
    65 ≤ c.toNat ∧ c.toNat ≤ 70 := by
  simp only [IsHex, Char.le_def, UInt32.le_iff_toNat_le]
  rfl

theorem isSome_hexValue?_iff : (Bytes.hexValue? c).isSome ↔ IsHex c := by
  unfold Bytes.hexValue? IsHex
  split_ifs with decimal small capital
  · simp [decimal]
  · simp [small]
  · simp [capital]
  · simp [decimal, small, capital]

theorem isDigest_iff : isDigest s ↔ Digits s := by
  rw [isDigest, Bool.and_eq_true, beq_iff_eq, List.all_eq_true]
  simp only [isSome_hexValue?_iff]
  exact ⟨fun ⟨length, isHex⟩ => ⟨length, isHex⟩, fun digits => ⟨digits.length, digits.isHex⟩⟩

/-- The six capital letters among the digits have the six small ones in their place. -/
theorem isHex_toLower : IsHex c.toLower ↔ IsHex c := by
  by_cases upper : c.isUpper
  · obtain ⟨low, high, moved⟩ := Text.isUpper_range upper
    rw [isHex_iff, isHex_iff, moved]
    omega
  · rw [Char.toLower_eq_of_not_isUpper upper]

theorem toList_lower : (lower s).toList = s.toList.map Char.toLower :=
  String.toList_map

theorem digits_lower : Digits (lower s) ↔ Digits s := by
  have length : (lower s).length = s.length := by
    rw [← String.length_toList, toList_lower, List.length_map, String.length_toList]
  constructor
  · intro digits
    refine ⟨length ▸ digits.length, fun c member => isHex_toLower.mp (digits.isHex _ ?_)⟩
    rw [toList_lower]
    exact List.mem_map_of_mem member
  · intro digits
    refine ⟨length.trans digits.length, fun c member => ?_⟩
    rw [toList_lower] at member
    obtain ⟨old, inside, rfl⟩ := List.mem_map.mp member
    exact isHex_toLower.mpr (digits.isHex old inside)

theorem Digits.not_kinded (digits : Digits hex) : Text.stripLead? digestLead hex = none := by
  rw [Text.stripLead?_eq_none_iff]
  rintro ⟨rest, whole⟩
  have first : 's' ∈ hex.toList := by
    rw [← whole]
    exact List.mem_cons_self
  have hexadecimal := isHex_iff.mp (digits.isHex 's' first)
  revert hexadecimal
  decide

/-- At most one leading kind is taken off. -/
theorem denotes_iff : Denotes digest hex ↔
    (Text.stripLead? digestLead digest).getD digest = hex ∧ Digits hex := by
  constructor
  · intro denotes
    cases denotes with
    | bare digits => exact ⟨by rw [digits.not_kinded, Option.getD_none], digits⟩
    | kinded digits =>
      rw [Text.stripLead?_eq_some_iff.mpr rfl]
      exact ⟨rfl, digits⟩
  · rintro ⟨stripped, digits⟩
    cases kinded : Text.stripLead? digestLead digest with
    | none =>
      rw [kinded, Option.getD_none] at stripped
      subst stripped
      exact .bare digits
    | some rest =>
      rw [kinded, Option.getD_some] at stripped
      subst stripped
      rw [Text.stripLead?_eq_some_iff.mp kinded]
      exact .kinded digits

theorem validate_eq_ok_iff : config.validate = .ok () ↔
    Text.trim config.image ≠ "" ∧ (∀ sha ∈ config.sha256, Digits sha) ∧
      ¬ (config.rootless = true ∧ config.groupAdd.isSome = true) := by
  unfold validate
  by_cases unnamed : Text.trim config.image = ""
  · simp [unnamed]
  · rw [if_neg unnamed]
    cases pinned : config.sha256 with
    | none => simp [unnamed]
    | some sha =>
      by_cases digits : Digits sha
      · have kept : (some sha).filter (fun s => !isDigest s) = none := by
          simp [Option.filter, isDigest_iff.mpr digits]
        simp [unnamed, kept, digits]
      · have found : (some sha).filter (fun s => !isDigest s) = some sha := by
          simp [Option.filter, mt isDigest_iff.mp digits]
        simp [found, digits]

theorem build_eq_ok_iff : options.build = .ok config ↔
    config = { options with sha256 := options.sha256.map lower } ∧ config.validate = .ok () := by
  unfold build
  generalize { options with sha256 := options.sha256.map lower } = c
  dsimp only
  cases valid : c.validate with
  | ok _ =>
    constructor
    · rintro ⟨⟩
      exact ⟨rfl, valid⟩
    · rintro ⟨rfl, -⟩
      rfl
  | error e =>
    constructor
    · rintro ⟨⟩
    · rintro ⟨rfl, valid'⟩
      rw [valid] at valid'
      cases valid'

/-- Which texts an image can be pinned with, and what the configuration keeps of them. -/
theorem build_pin_eq_ok_iff : (options.pin digest).build = .ok config ↔
    ∃ hex, Denotes digest hex ∧ Text.trim options.image ≠ "" ∧
      ¬ (options.rootless = true ∧ options.groupAdd.isSome = true) ∧
      config = { options with sha256 := some (lower hex) } := by
  rw [build_eq_ok_iff]
  constructor
  · rintro ⟨rfl, valid⟩
    obtain ⟨named, digits, rootful⟩ := validate_eq_ok_iff.mp valid
    exact ⟨_, denotes_iff.mpr ⟨rfl, digits_lower.mp (digits _ rfl)⟩, named, rootful, rfl⟩
  · rintro ⟨hex, denotes, named, rootful, rfl⟩
    obtain ⟨rfl, digits⟩ := denotes_iff.mp denotes
    refine ⟨rfl, validate_eq_ok_iff.mpr ⟨named, ?_, rootful⟩⟩
    rintro sha ⟨⟩
    exact digits_lower.mpr digits

end ContainerConfig

/-- The id of an image, if the engine knows the image and gives it one. -/
def Engine.imageId? (e : Engine) (image : String) : Option String :=
  (e.inspect image).toOption.join

theorem Engine.imageId?_eq_some_iff {e : Engine} {image id : String} :
    e.imageId? image = some id ↔ e.inspect image = .ok (some id) := by
  unfold Engine.imageId?
  cases e.inspect image with
  | error fault => simp [Except.toOption]
  | ok found => simp [Except.toOption]

namespace Diagnosis
variable {config : ContainerConfig} {facts : EngineFacts} {sha : String}

/-- The verdicts on one subject. -/
def verdicts (subject : String) (d : Diagnosis) : List Severity :=
  (d.findings.filter fun f => f.subject = subject).map Finding.severity

/-- There is one verdict on the image, which is good under a condition and else a failure. -/
structure ImageGood (d : Diagnosis) (condition : Prop) : Prop where
  good : condition → d.verdicts "image" = [.ok]
  bad : ¬ condition → d.verdicts "image" = [.fail]

theorem imageFinding_subject (config : ContainerConfig) (id : Option String) :
    (imageFinding config id).subject = "image" := by
  unfold imageFinding
  cases id with
  | none => rfl
  | some id =>
    cases config.sha256 with
    | none => rfl
    | some sha => dsimp only; split_ifs <;> rfl

theorem imageFinding_severity (pinned : config.sha256 = some sha) (id : Option String) :
    (imageFinding config id).severity =
      if id = some (ContainerConfig.digestLead ++ sha) then .ok else .fail := by
  unfold imageFinding
  rw [pinned]
  cases id with
  | none => rfl
  | some id => simp only [Text.stripLead?_eq_some_iff, Option.some_inj]; split_ifs <;> rfl

theorem rootlessFinding_subject (engine config : Bool) :
    (rootlessFinding engine config).subject = "rootless" := by
  cases engine <;> cases config <;> rfl

theorem runtimeFinding_subject (facts : EngineFacts) (runtime : String) :
    (runtimeFinding facts runtime).subject = "runtime" := by
  unfold runtimeFinding
  split_ifs <;> rfl

theorem socketDirFinding_subject (config : ContainerConfig) (dir : String) (facts : EngineFacts) :
    (socketDirFinding config dir facts).subject = "socket dir" := by
  unfold socketDirFinding
  split
  · rfl
  · rfl
  · dsimp only; split_ifs <;> rfl

/-- One finding of a report on an engine that can be reached is about the image. -/
theorem verdicts_image (reachable : facts.unreachable = none) (dir : String) :
    (evaluate config dir facts).verdicts "image" = [(imageFinding config facts.imageId).severity] := by
  have runtimes : (config.runtime.map (runtimeFinding facts)).toList.filter
      (fun f => decide (f.subject = "image")) = [] := by
    cases config.runtime with
    | none => rfl
    | some runtime => simp [runtimeFinding_subject]
  simp only [verdicts, evaluate, reachable, List.filter_append, runtimes]
  simp [engineFinding, rootlessFinding_subject, imageFinding_subject, socketDirFinding_subject]

theorem imageGood_evaluate (pinned : config.sha256 = some sha) (reachable : facts.unreachable = none)
    (dir : String) :
    ImageGood (evaluate config dir facts) (facts.imageId = some (ContainerConfig.digestLead ++ sha)) where
  good same := by rw [verdicts_image reachable, imageFinding_severity pinned, if_pos same]
  bad other := by rw [verdicts_image reachable, imageFinding_severity pinned, if_neg other]

/-- What is gathered about an engine that answers is the id that it gives the image. -/
theorem gather_image {e : Engine} {version : Option String} (answers : e.version = .ok version)
    (config : ContainerConfig) (dir : SocketDir) :
    (gather e config dir).2.unreachable = none ∧
      (gather e config dir).2.imageId = e.imageId? config.imageRef := by
  simp only [gather, answers, Engine.imageId?]
  cases e.info <;> cases e.inspect config.imageRef <;> cases dir <;> exact ⟨rfl, rfl⟩

end Diagnosis

namespace ContainerRunner
open ContainerConfig Diagnosis
variable {e : Engine} {config : ContainerConfig} {sha : String}

theorem verified_iff (pinned : config.sha256 = some sha) :
    Verified e config ↔ e.inspect config.imageRef = .ok (some (digestLead ++ sha)) := by
  simp [Verified, pinned]

/-- An image that is pinned with a text is checked in the same way before a start and in a report: its id has
to be the digest that the text denotes, in small letters after the name of its kind. -/
theorem pin_checked_alike {options : ContainerConfig} {digest : String}
    (built : (options.pin digest).build = .ok config) :
    ∃ hex, Denotes digest hex ∧ ∀ e : Engine,
      ((verifyImage e config).2 = .ok () ↔ e.inspect config.imageRef = .ok (some ("sha256:" ++ lower hex))) ∧
      (∀ r : ContainerRunner, r.config = config →
        (.create ∈ (r.start e).calls ↔ e.inspect config.imageRef = .ok (some ("sha256:" ++ lower hex)))) ∧
      (∀ dir facts, facts.unreachable = none → facts.imageId = e.imageId? config.imageRef →
        ImageGood (evaluate config dir facts) (e.inspect config.imageRef = .ok (some ("sha256:" ++ lower hex)))) ∧
      ∀ (r : ContainerRunner) dir version, r.config = config → e.version = .ok version →
        ImageGood (r.diagnose e dir).2 (e.inspect config.imageRef = .ok (some ("sha256:" ++ lower hex))) := by
  obtain ⟨hex, denotes, -, -, whole⟩ := build_pin_eq_ok_iff.mp built
  have pinned : config.sha256 = some (lower hex) := by rw [whole]
  refine ⟨hex, denotes, fun e => ?_⟩
  have judged : ∀ dir facts, facts.unreachable = none → facts.imageId = e.imageId? config.imageRef →
      ImageGood (evaluate config dir facts) (e.inspect config.imageRef = .ok (some (digestLead ++ lower hex))) := by
    intro dir facts reachable answer
    have good := imageGood_evaluate pinned reachable dir
    rwa [answer, Engine.imageId?_eq_some_iff] at good
  refine ⟨?_, ?_, judged, ?_⟩
  · rw [(verifyImage_eq e config).2, verified_iff pinned]
    rfl
  · rintro r rfl
    rw [(start_course e r).create_mem_iff, verified_iff pinned]
    rfl
  · rintro r dir version rfl answers
    obtain ⟨reachable, answer⟩ := gather_image answers r.config dir
    exact judged r.hostSocketDir _ reachable answer

/-- The digest of the pinned runner in capital letters, with its kind. -/
def shoutedDigest : String :=
  "sha256:" ++ String.ofList (List.replicate 64 'A')

/-- The id in small letters is right, the one in capital letters is another one. -/
theorem checked_alike_shoutedDigest :
    let config := pinnedRunner.config
    let right := stuckEngine ("sha256:" ++ String.ofList (List.replicate 64 'a')) (.ok []) (.ok ())
    let shouted := stuckEngine shoutedDigest (.ok []) (.ok ())
    ({ image := "keel/plugin" : ContainerConfig }.pin shoutedDigest).build = .ok config ∧
      (verifyImage right config).2 = .ok () ∧ .create ∈ (pinnedRunner.start right).calls ∧
      (evaluate config "/run/keel/p1" { imageId := right.imageId? config.imageRef }).verdicts "image" = [.ok] ∧
      (verifyImage shouted config).2 ≠ .ok () ∧ .create ∉ (pinnedRunner.start shouted).calls ∧
      (evaluate config "/run/keel/p1" { imageId := shouted.imageId? config.imageRef }).verdicts "image" = [.fail] := by
  intro config right shouted
  have built : ({ image := "keel/plugin" : ContainerConfig }.pin shoutedDigest).build = .ok config :=
    Outcome.ok_of_toOption (by decide +kernel)
  obtain ⟨hex, denotes, checks⟩ := pin_checked_alike built
  have small : lower hex = String.ofList (List.replicate 64 'a') := by
    rw [← (denotes_iff.mp denotes).1]
    decide +kernel
  rw [small] at checks
  have same : right.inspect config.imageRef = .ok (some ("sha256:" ++ String.ofList (List.replicate 64 'a'))) := rfl
  have other : ¬ shouted.inspect config.imageRef =
      .ok (some ("sha256:" ++ String.ofList (List.replicate 64 'a'))) := by
    simp only [shouted, stuckEngine, Except.ok.injEq, Option.some_inj]
    decide +kernel
  obtain ⟨verified, created, judged, -⟩ := checks right
  obtain ⟨unverified, uncreated, misjudged, -⟩ := checks shouted
  exact ⟨built, verified.mpr same, (created pinnedRunner rfl).mpr same, (judged _ _ rfl rfl).good same,
    mt unverified.mp other, mt (uncreated pinnedRunner rfl).mp other, (misjudged _ _ rfl rfl).bad other⟩

end ContainerRunner

end ServiceKit
