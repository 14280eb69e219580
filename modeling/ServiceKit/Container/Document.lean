import ServiceKit.Container.Spec
import ServiceKit.Duration

namespace ServiceKit

open Json in
/-- The configuration as an object. -/
def ContainerConfig.document (c : ContainerConfig) : Json :=
  ofFields [("image", .str c.image), ("tag", ofOption .str c.tag), ("sha256", ofOption .str c.sha256),
    ("runtime", ofOption .str c.runtime), ("cgroup_parent", ofOption .str c.cgroupParent),
    ("nano_cpus", ofOption ofInt c.nanoCpus), ("memory", ofOption ofInt c.memory),
    ("group_add", ofOption ofNat c.groupAdd), ("rootless", .bool c.rootless),
    ("labels", ofFields (c.labels.map fun l => (l.1, .str l.2))), ("env", strings c.env),
    ("entrypoint", strings c.entrypoint), ("args", strings c.args), ("network", .bool c.network),
    ("debug", .bool c.debug), ("image_ref", .str c.imageRef),
    ("stop_timeout",
      ofFields [("secs", ofNat c.stopTimeout.secs), ("nanos", ofNat c.stopTimeout.nanos)])]

open Json in
def Mount.document (m : Mount) : Json :=
  ofFields [("target", .str m.target), ("source", .str m.source), ("type", .str m.kind),
    ("read_only", .bool m.readOnly)]

open Json in
/-- What the engine is asked to create, as an object. -/
def ContainerSpec.document (s : ContainerSpec) : Json :=
  ofFields [("image", .str s.image), ("env", strings s.env),
    ("entrypoint", ofOption strings s.entrypoint), ("cmd", ofOption strings s.cmd),
    ("labels", ofOption (fun ls => ofFields (ls.map fun l => (l.1, .str l.2))) s.labels),
    ("attach_stdout", .bool s.attachStdout), ("attach_stderr", .bool s.attachStderr),
    ("network_disabled", .bool s.networkDisabled), ("mounts", .arr (s.mounts.map Mount.document)),
    ("readonly_rootfs", .bool s.readonlyRootfs), ("security_opt", strings s.securityOpt),
    ("network_mode", ofOption .str s.networkMode), ("runtime", ofOption .str s.runtime),
    ("cgroup_parent", ofOption .str s.cgroupParent), ("nano_cpus", ofOption ofInt s.nanoCpus),
    ("memory", ofOption ofInt s.memory), ("group_add", ofOption strings s.groupAdd),
    ("cap_add", ofOption strings s.capAdd), ("auto_remove", .bool s.autoRemove)]

end ServiceKit
