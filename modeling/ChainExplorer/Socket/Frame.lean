import ChainExplorer.Bytes.Utf8
import ChainExplorer.Rpc.Message

/-!
# Frames on a stream

On a stream a reply is a line. The reader is handed the stream in chunks of any size, so it carries
the front of an unfinished line from one chunk to the next; it never holds more than the limit, and
lines of white space do not count. What it leaves is the stream after the line feed.
-/

namespace ChainExplorer.Socket

open ChainExplorer.Rpc

/-- The byte that ends a frame. -/
def lineFeed : UInt8 := 10

/-- The bytes of ASCII white space. -/
def isBlankByte (b : UInt8) : Bool := b == 32 || b == 9 || b == 10 || b == 12 || b == 13

/-- What is sent for a request. -/
def payload (request : Request) : List UInt8 := Utf8.encode request.frame

/-- A stream that is still to come: its chunks in order, then its end. -/
abbrev Chunks := List (List UInt8)

/-- The bytes before the first line feed, and those behind it if there is one. -/
def splitLine : List UInt8 → List UInt8 × Option (List UInt8)
  | [] => ([], none)
  | b :: bs =>
    if b = lineFeed then ([], some bs)
    else (b :: (splitLine bs).1, (splitLine bs).2)

theorem length_of_splitLine {bs piece after : List UInt8} (h : splitLine bs = (piece, some after)) :
    bs.length = piece.length + 1 + after.length := by
  induction bs generalizing piece with
  | nil => simp [splitLine] at h
  | cons b bs ih =>
    rw [splitLine] at h
    split at h
    · obtain ⟨rfl, h2⟩ := Prod.mk.inj h
      obtain rfl := Option.some.inj h2
      simp only [List.length_cons, List.length_nil]
      omega
    · obtain ⟨rfl, h2⟩ := Prod.mk.inj h
      have := @ih (splitLine bs).1 (by rw [← h2])
      simp only [List.length_cons]
      omega

/-- How much of a stream there is, each chunk counting one more than its bytes. -/
def weight : Chunks → Nat
  | [] => 0
  | chunk :: rest => chunk.length + 1 + weight rest

/-- The next frame and the stream behind it; `line` is the front of the line so far. -/
def readLine (limit : Nat) (line : List UInt8) (chunks : Chunks) :
    Except TransportError (List UInt8 × Chunks) :=
  match chunks with
  | [] => .error (.protocol .closedEarly)
  | chunk :: rest =>
    match _h : splitLine chunk with
    | (piece, none) =>
      if limit < line.length + piece.length then .error (.tooLarge limit)
      else readLine limit (line ++ piece) rest
    | (piece, some after) =>
      if limit < line.length + piece.length then .error (.tooLarge limit)
      else if (line ++ piece).all isBlankByte then readLine limit [] (after :: rest)
      else .ok (line ++ piece, after :: rest)
termination_by weight chunks
decreasing_by
  · simp [weight]
  · have := length_of_splitLine _h
    simp [weight]
    omega

/-- The next frame of a stream and the stream behind it. -/
def readFrame (limit : Nat) (chunks : Chunks) : Except TransportError (List UInt8 × Chunks) :=
  readLine limit [] chunks

/-- The reply that a frame holds. -/
def replyOf (frame : List UInt8) : Except TransportError Reply :=
  match (Utf8.decode? frame).bind Reply.ofText? with
  | some reply => .ok reply
  | none => .error (.protocol .badFrame)

/-- Reads the reply to a request. -/
def readReply (limit : Nat) (chunks : Chunks) : Except TransportError (Reply × Chunks) := do
  let (frame, rest) ← readFrame limit chunks
  return (← replyOf frame, rest)

end ChainExplorer.Socket
