import ServiceKit.Container.Address
import ServiceKit.Container.Config

namespace ServiceKit

structure Mount where
  target : String
  source : String
  kind : String
  readOnly : Bool
deriving DecidableEq, Repr

/-- What the engine is asked to create. -/
structure ContainerSpec where
  image : String
  env : List String
  entrypoint : Option (List String)
  cmd : Option (List String)
  labels : Option (List (String × String))
  attachStdout : Bool
  attachStderr : Bool
  networkDisabled : Bool
  mounts : List Mount
  readonlyRootfs : Bool
  securityOpt : List String
  networkMode : Option String
  runtime : Option String
  cgroupParent : Option String
  nanoCpus : Option Int
  memory : Option Int
  groupAdd : Option (List String)
  capAdd : Option (List String)
  autoRemove : Bool
deriving DecidableEq, Repr

namespace ContainerSpec

def nonEmpty (xs : List α) : Option (List α) :=
  if xs.isEmpty then none else some xs

/-- The container of a configuration: the root is read-only but for the shared socket directory, and
there is no network unless asked for. On a rootless engine access to the sockets comes from a
capability, else from a group. -/
def ofConfig (c : ContainerConfig) (hostSocketDir : String) (pluginEnv : List String) :
    ContainerSpec :=
  { image := c.imageRef
    env := (Container.socketDirVariable ++ "=" ++ Container.pluginSocketDir) :: pluginEnv ++ c.env
    entrypoint := nonEmpty c.entrypoint
    cmd := nonEmpty c.args
    labels := nonEmpty c.labels
    attachStdout := true
    attachStderr := true
    networkDisabled := !c.network
    mounts := [⟨Container.pluginSocketDir, hostSocketDir, "bind", false⟩]
    readonlyRootfs := true
    securityOpt := ["no-new-privileges"]
    networkMode := if c.network then none else some "none"
    runtime := c.runtime
    cgroupParent := c.cgroupParent
    nanoCpus := c.nanoCpus
    memory := c.memory
    groupAdd := if c.rootless then none else c.groupAdd.map fun gid => [toString gid]
    capAdd := if c.rootless then some ["DAC_OVERRIDE"] else none
    autoRemove := !c.debug }

/-- What a variable is set to: of several assignments the last counts. -/
def value? (s : ContainerSpec) (name : String) : Option String :=
  (s.env.filterMap fun entry => Text.stripLead? (name ++ "=") entry).getLast?

end ContainerSpec

end ServiceKit
