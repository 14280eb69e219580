import ServiceKit.Container.Engine

namespace ServiceKit

/-- What the two readers of a container's output get. -/
structure PluginOutput where
  stdout : Bytes := []
  stderr : Bytes := []
deriving DecidableEq, Repr

namespace PluginOutput

/-- Which of the two readers are still there. -/
structure Readers where
  stdout : Bool := true
  stderr : Bool := true
deriving DecidableEq, Repr

/-- Hands the frames to the readers until one is an error or cannot be written; then both are at the
end. `readers` tells who is there when a frame is written; `i` counts the frames. -/
def demux (readers : Nat → Readers) (i : Nat) : List (Except EngineFault OutputFrame) → PluginOutput
  | [] => {}
  | .error _ :: _ => {}
  | .ok frame :: rest =>
    let toStdout (content : Bytes) : PluginOutput :=
      if content.isEmpty || (readers i).stdout then
        let out := demux readers (i + 1) rest
        { out with stdout := content ++ out.stdout }
      else {}
    match frame with
    | .stdout content => toStdout content
    | .console content => toStdout content
    | .stderr content =>
      if content.isEmpty || (readers i).stderr then
        let out := demux readers (i + 1) rest
        { out with stderr := content ++ out.stderr }
      else {}
    | .stdin _ => demux readers (i + 1) rest

/-- What readers get that stay to the end. -/
def drained (frames : List (Except EngineFault OutputFrame)) : PluginOutput :=
  demux (fun _ => {}) 0 frames

end PluginOutput

end ServiceKit
