import NodeFamilies.Disk.Path
import NodeFamilies.Writing

/-!
# Writing through a buffer

Small pieces wait in a buffer until it would run over; a piece that is as large as the buffer
goes past it. The bytes reach their target only when they leave the buffer, so a target that
refuses them is noticed late.
-/

namespace NodeFamilies

structure Buffered where
  /-- Whether the target takes bytes. -/
  accepting : Bool
  /-- What has reached the target. -/
  sent : Bytes
  /-- What waits in the buffer. -/
  waiting : Bytes
  deriving DecidableEq, Repr

namespace Buffered

def capacity : Nat := 8192

/-- Passes bytes on to the target. -/
def send (b : Buffered) (data : Bytes) : Written Buffered FileError :=
  if data = [] then (b, none)
  else if b.accepting then ({ b with sent := b.sent ++ data }, none)
  else (b, some .storageFull)

/-- Empties the buffer; if the target refuses, the bytes go on waiting. -/
def flush (b : Buffered) : Written Buffered FileError :=
  match b.send b.waiting with
  | (b, none) => ({ b with waiting := [] }, none)
  | (b, some e) => (b, some e)

/-- Takes a piece for which there is room, or which is too large for the buffer. -/
def accept (b : Buffered) (data : Bytes) : Written Buffered FileError :=
  if capacity ≤ data.length then b.send data
  else ({ b with waiting := b.waiting ++ data }, none)

def put (b : Buffered) (data : Bytes) : Written Buffered FileError :=
  if b.waiting.length + data.length < capacity then
    ({ b with waiting := b.waiting ++ data }, none)
  else if capacity < b.waiting.length + data.length then
    match b.flush with
    | (b, none) => b.accept data
    | (b, some e) => (b, some e)
  else b.accept data

/-- Hands over the pieces and then gives up, if there is a reason to. The buffer is emptied in
any case, and the first failure counts. -/
def writeThrough (b : Buffered) (pieces : List Bytes) (giveUp : Option String) :
    Written Buffered FileError :=
  let (b, refused) := writeAll put b pieces
  let (b, flushed) := b.flush
  (b, refused <|> giveUp.map .interrupted <|> flushed)

end Buffered

end NodeFamilies
