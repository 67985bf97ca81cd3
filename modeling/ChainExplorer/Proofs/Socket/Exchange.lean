import ChainExplorer.Proofs.Bytes.Utf8
import ChainExplorer.Proofs.Json.Written
import ChainExplorer.Proofs.Socket.Framing

/-!
# Requests on a stream

A request goes out as its envelope and a line feed. Nothing that a method or a parameter holds puts
a second line feed into the line, since a written value has no control character
(`Json.printable_render`) and no character beyond ASCII has an ASCII byte. So the frames of a stream
of requests are their envelopes, in whatever chunks the stream comes, and none runs into the next.

An envelope that comes back is a reply with the id of the request: its other members are none of a
reply's own, and they are passed over however deep their values are.
-/

namespace ChainExplorer.Socket

open ChainExplorer.Rpc

/-- The bytes of a request without the line feed. -/
def envelope (request : Request) : List UInt8 := Utf8.encode request.toJson.render

theorem payload_eq (request : Request) : payload request = envelope request ++ [lineFeed] := by
  have hfeed : Utf8.encode ['\n'] = [lineFeed] := by decide
  rw [payload, Request.frame, Utf8.encode_append, hfeed, envelope]

theorem lineFeed_not_mem_envelope (request : Request) : lineFeed ∉ envelope request := by
  intro hmem
  have hfeed : '\n' ∈ request.toJson.render := (Utf8.ofNat_mem_encode (by decide)).1 hmem
  exact absurd (Json.printable_render request.toJson '\n' hfeed) (by decide)

/-- An envelope counts as a line, for its brace is no white space. -/
theorem envelope_counts (request : Request) : (envelope request).all isBlankByte = false := by
  have hbrace : (123 : UInt8) ∈ envelope request :=
    (Utf8.ofNat_mem_encode (by decide)).2 List.mem_cons_self
  rw [List.all_eq_false]
  exact ⟨123, hbrace, by decide⟩

/-- **A request is one line.** -/
theorem count_lineFeed_payload (request : Request) : (payload request).count lineFeed = 1 := by
  rw [payload_eq, List.count_append, List.count_eq_zero_of_not_mem (lineFeed_not_mem_envelope _)]
  rfl

theorem getLast?_payload (request : Request) : (payload request).getLast? = some lineFeed := by
  rw [payload_eq, List.getLast?_concat]

/-! ## Frame after frame -/

/-- The next so many frames of a stream and the stream behind them. -/
def readFrames (limit : Nat) : Nat → Chunks →
    Except TransportError (List (List UInt8) × Chunks)
  | 0, chunks => .ok ([], chunks)
  | n + 1, chunks => do
    let (frame, rest) ← readFrame limit chunks
    let (frames, rest) ← readFrames limit n rest
    return (frame :: frames, rest)

theorem readFrame_payload {limit : Nat} {request : Request}
    (hlimit : (envelope request).length ≤ limit) {chunks : Chunks} {after : List UInt8}
    (hsent : chunks.flatten = payload request ++ after) :
    ∃ rest, readFrame limit chunks = .ok (envelope request, rest) ∧ rest.flatten = after := by
  have hframe : contents (readFrame limit chunks) = .ok (envelope request, after) := by
    rw [contents_readFrame, hsent, payload_eq, List.append_assoc, List.singleton_append,
      frameOf_line (lineFeed_not_mem_envelope request) hlimit, envelope_counts]
    rfl
  cases hread : readFrame limit chunks with
  | error error =>
    rw [hread] at hframe
    cases hframe
  | ok found =>
    rw [hread] at hframe
    obtain ⟨hfront, hrest⟩ := Prod.mk.inj (Except.ok.inj hframe)
    exact ⟨found.2, congrArg Except.ok (Prod.ext hfront rfl), hrest⟩

/-- By induction on the requests: what stands behind one payload are the payloads of the others. -/
theorem readFrames_payloads {limit : Nat} {requests : List Request}
    (hlimit : ∀ request ∈ requests, (envelope request).length ≤ limit) {chunks : Chunks}
    {after : List UInt8} (hsent : chunks.flatten = (requests.map payload).flatten ++ after) :
    ∃ rest, readFrames limit requests.length chunks = .ok (requests.map envelope, rest) ∧
      rest.flatten = after := by
  induction requests generalizing chunks with
  | nil => exact ⟨chunks, rfl, hsent⟩
  | cons request requests ih =>
    obtain ⟨hfirst, hlater⟩ := List.forall_mem_cons.1 hlimit
    rw [List.map_cons, List.flatten_cons, List.append_assoc] at hsent
    obtain ⟨behind, hread, hbehind⟩ := readFrame_payload hfirst hsent
    obtain ⟨rest, hreads, hrest⟩ := ih hlater hbehind
    refine ⟨rest, ?_, hrest⟩
    show (readFrame limit chunks >>= _) = _
    rw [hread]
    show (readFrames limit requests.length behind >>= _) = _
    rw [hreads]
    rfl

/-! ## The id that comes back -/

/-- Of the members of an envelope, a reply has the id. -/
theorem replyOf_envelope (request : Request) :
    replyOf (envelope request) = .ok ⟨.int request.id.toNat, none, none⟩ := by
  have hid : Json.Readable (Json.depthLimit - 1) (.int request.id.toNat) :=
    Json.readable_word (UInt64.toNat_lt request.id) _
  have hread : Json.readObject? Reply.isMember request.toJson.render
      = some [("id", .int request.id.toNat)] := by
    rw [Request.toJson, Json.readObject?_render]
    · simp [Reply.isMember]
    · simp [Reply.isMember, hid]
  have htext : Reply.ofText? request.toJson.render
      = some ⟨.int request.id.toNat, none, none⟩ := by
    rw [Reply.ofText?, hread]
    simp [Reply.ofMembers?, valuesOf]
  rw [replyOf, envelope, Utf8.decode?_encode, Option.bind_some, htext]

theorem replyId?_word (id : UInt64) : replyId? (.int id.toNat) = some id.toNat := by
  have hword : (id.toNat : Int) < wordBound := Int.ofNat_lt.2 (UInt64.toNat_lt id)
  show Json.natural? (.int id.toNat) = _
  rw [Json.natural?, if_pos ⟨Int.natCast_nonneg _, hword⟩, Int.toNat_natCast]

/-! ## The result -/

/-- **Requests are framed apart.** Whatever their methods and parameters hold, each is one line: a
line feed ends it and no other stands in it. So in whatever chunks a stream of requests comes, the
frames read from it are their envelopes, in order and one for each, what stands behind them is left,
and every frame is read as a reply with the id of its request. -/
theorem frames_of_requests (limit : Nat) (requests : List Request) (chunks : Chunks)
    (after : List UInt8) (hsent : chunks.flatten = (requests.map payload).flatten ++ after)
    (hlimit : ∀ request ∈ requests, (envelope request).length ≤ limit) :
    (∀ request : Request, payload request = envelope request ++ [lineFeed] ∧
      (payload request).count lineFeed = 1 ∧ (payload request).getLast? = some lineFeed) ∧
    (∃ rest, readFrames limit requests.length chunks = .ok (requests.map envelope, rest) ∧
      rest.flatten = after ∧
      (after = [] → readFrame limit rest = .error (.protocol .closedEarly))) ∧
    ∀ request ∈ requests, ∃ reply, replyOf (envelope request) = .ok reply ∧
      replyId? reply.id = some request.id.toNat := by
  refine ⟨fun request => ⟨payload_eq request, count_lineFeed_payload request,
    getLast?_payload request⟩, ?_, fun request _ => ⟨_, replyOf_envelope request,
    replyId?_word request.id⟩⟩
  obtain ⟨rest, hreads, hrest⟩ := readFrames_payloads hlimit hsent
  refine ⟨rest, hreads, hrest, fun hend => ?_⟩
  rw [← contents_eq_error, contents_readFrame, hrest, hend]
  exact frameOf_unended List.not_mem_nil (Nat.zero_le limit)

/-- A request with line feeds and letters beyond ASCII in its strings, and one with no
parameters and the largest id. -/
def spoken : List Request :=
  [⟨7, "sum\n", [.array [.int (-1), .object [("é\n", .string "\t€")]], .null]⟩,
    ⟨18446744073709551615, "ping", []⟩]

/-- Both with the front of a third behind them, cut at the head of the first, in nothing, within the
letter that takes two bytes, and just behind the line feed. -/
def spokenChunks : Chunks :=
  let bytes := (spoken.map payload).flatten ++ [123]
  [bytes.take 1, [], (bytes.drop 1).take 57, (bytes.drop 58).take 22, bytes.drop 80]

/-- The limit that the longer envelope just meets. -/
theorem frames_of_requests_spoken :
    (spoken.map fun request => (envelope request).length) = [79, 71] ∧
    (∃ rest, readFrames 79 2 spokenChunks = .ok (spoken.map envelope, rest) ∧
      rest.flatten = [123]) ∧
    ∃ reply, replyOf (envelope ⟨18446744073709551615, "ping", []⟩) = .ok reply ∧
      replyId? reply.id = some 18446744073709551615 := by
  have hlengths : (spoken.map fun request => (envelope request).length) = [79, 71] := by
    decide +kernel
  have hsent : spokenChunks.flatten = (spoken.map payload).flatten ++ [123] := by
    decide +kernel
  have hlimit : ∀ request ∈ spoken, (envelope request).length ≤ 79 := by
    decide +kernel
  obtain ⟨-, ⟨rest, hreads, hrest, -⟩, hids⟩ :=
    frames_of_requests 79 spoken spokenChunks [123] hsent hlimit
  exact ⟨hlengths, ⟨rest, hreads, hrest⟩, hids _ (List.mem_cons_of_mem _ List.mem_cons_self)⟩

end ChainExplorer.Socket
