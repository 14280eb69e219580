import ServiceKit.Container.Error
import ServiceKit.Duration
import ServiceKit.Json.Basic
import ServiceKit.Text.Blank
import ServiceKit.Text.Bytes

namespace ServiceKit

/-- How a plugin's container is to be made. Labels stand in the order of their names. -/
structure ContainerConfig where
  image : String := ""
  tag : Option String := none
  sha256 : Option String := none
  runtime : Option String := none
  cgroupParent : Option String := none
  nanoCpus : Option Int := none
  memory : Option Int := none
  groupAdd : Option Nat := none
  rootless : Bool := false
  labels : List (String × String) := []
  env : List String := []
  entrypoint : List String := []
  args : List String := []
  network : Bool := false
  debug : Bool := false
  stopTimeout : Duration := Duration.ofSecs 10
deriving DecidableEq, Repr

namespace ContainerConfig

/-- The image with its tag, unless that is empty. -/
def imageRef (c : ContainerConfig) : String :=
  match c.tag with
  | none => c.image
  | some tag => if tag = "" then c.image else c.image ++ ":" ++ tag

/-- A digest has 64 hexadecimal digits. -/
def isDigest (s : String) : Bool :=
  s.length == 64 && s.toList.all fun c => (Bytes.hexValue? c).isSome

def validate (c : ContainerConfig) : Except ContainerError Unit :=
  if Text.trim c.image = "" then .error ⟨.imageRequired, none⟩
  else match c.sha256.filter fun s => !isDigest s with
    | some s => .error ⟨.badDigest s, none⟩
    | none =>
      if c.rootless && c.groupAdd.isSome then .error ⟨.groupOnRootless, none⟩ else .ok ()

/-- ASCII letters in lower case. -/
def lower (s : String) : String :=
  s.map Char.toLower

def digestLead : String := "sha256:"

/-- Pins the image to a digest, which may be given with its kind. -/
def pin (digest : String) (c : ContainerConfig) : ContainerConfig :=
  { c with sha256 := some ((Text.stripLead? digestLead digest).getD digest) }

def label (name value : String) (c : ContainerConfig) : ContainerConfig :=
  { c with labels := Json.insert name value c.labels }

/-- Checks a configuration put together from options; digests are kept in lower case. -/
def build (options : ContainerConfig) : Except ContainerError ContainerConfig :=
  let c := { options with sha256 := options.sha256.map lower }
  match c.validate with
  | .ok () => .ok c
  | .error e => .error e

end ContainerConfig

end ServiceKit
