import ContainerTasks.Daemon.Delivery
import ContainerTasks.Engine.Basic

/-! # Frames of logs

The logs of a container come in frames: a byte for the stream, three more bytes,
the length in four bytes with the highest first, and the content. Where no frame
begins, everything up to the next line feed belongs to no known stream.
-/

namespace ContainerTasks.Daemon

open Engine (LogItem)

/-- The content of a frame, given the byte for its stream. -/
def frameItem (stream : UInt8) (content : Bytes) : LogItem :=
  if stream = 1 then .stdout content
  else if stream = 2 then .stderr content
  else .unknown

/-- The number that four bytes make, the highest first. -/
def bigEndian (bytes : Bytes) : Nat :=
  bytes.foldl (fun n byte => n * 256 + byte.toNat) 0

/-- How many bytes the head of a frame has. -/
def frameHead : Nat := 8

/-- The items in logs, and whether bytes are left over. -/
def frames : (fuel : Nat) → Bytes → List LogItem × Bool
  | 0, bytes => ([], !bytes.isEmpty)
  | _ + 1, [] => ([], false)
  | fuel + 1, stream :: bytes =>
    if 2 < stream then
      match cutLine? (stream :: bytes) with
      | none => ([], true)
      | some (_, rest) =>
        let (items, isLeft) := frames fuel rest
        (.unknown :: items, isLeft)
    else if (stream :: bytes).length < frameHead then ([], true)
    else
      let length := bigEndian ((stream :: bytes).take frameHead |>.drop 4)
      let rest := (stream :: bytes).drop frameHead
      if rest.length < length then ([], !rest.isEmpty)
      else
        let (items, isLeft) := frames fuel (rest.drop length)
        (frameItem stream (rest.take length) :: items, isLeft)

/-- The logs that were delivered. A trouble comes last. -/
def Delivery.logs (delivery : Delivery) : List (Except Trouble LogItem) :=
  let (items, isLeft) := frames delivery.body.length delivery.body
  items.map .ok ++ if delivery.isCut || isLeft then [.error .brokenOff] else []

end ContainerTasks.Daemon
