import ChainExplorer.Socket.Frame

/-!
# Frames do not depend on chunks

The reader of frames is handed a stream in chunks, and a line feed may stand anywhere in a chunk. To
say what it reads no chunks are needed: a stream is some blank lines and then a frame, or a line that
grows past the limit, or neither until it ends (`HasFrame`, `Overruns`).

The way there is a reader that has the whole stream before it (`frameOf`). What the other one holds
of a line is always the front of what is still to be read, so both come to the same
(`contents_readLine`), and the front never grows past the limit.
-/

namespace ChainExplorer.Socket

/-! ## What a stream holds -/

/-- Lines as they stand on a stream. -/
def terminated (lines : List (List UInt8)) : List UInt8 :=
  (lines.map (· ++ [lineFeed])).flatten

/-- A line that does not count. -/
structure Skipped (limit : Nat) (line : List UInt8) : Prop where
  unbroken : lineFeed ∉ line
  blank : line.all isBlankByte = true
  short : line.length ≤ limit

/-- The first line that counts is no longer than the limit, and neither is any line before it. -/
def HasFrame (limit : Nat) (stream frame after : List UInt8) : Prop :=
  ∃ blanks, (∀ line ∈ blanks, Skipped limit line) ∧
    stream = terminated blanks ++ (frame ++ lineFeed :: after) ∧
    lineFeed ∉ frame ∧ frame.all isBlankByte = false ∧ frame.length ≤ limit

/-- Before any line that counts is complete, a line grows past the limit. -/
def Overruns (limit : Nat) (stream : List UInt8) : Prop :=
  ∃ blanks front after, (∀ line ∈ blanks, Skipped limit line) ∧
    stream = terminated blanks ++ (front ++ after) ∧ lineFeed ∉ front ∧ limit < front.length

theorem terminated_cons (line : List UInt8) (lines : List (List UInt8)) (after : List UInt8) :
    terminated (line :: lines) ++ after = line ++ lineFeed :: (terminated lines ++ after) := by
  simp [terminated]

theorem HasFrame.skip {limit : Nat} {line stream frame after : List UInt8}
    (hs : Skipped limit line) (h : HasFrame limit stream frame after) :
    HasFrame limit (line ++ lineFeed :: stream) frame after := by
  obtain ⟨blanks, hblanks, rfl, hframe⟩ := h
  exact ⟨line :: blanks, List.forall_mem_cons.2 ⟨hs, hblanks⟩, (terminated_cons ..).symm, hframe⟩

theorem Overruns.skip {limit : Nat} {line stream : List UInt8}
    (hs : Skipped limit line) (h : Overruns limit stream) :
    Overruns limit (line ++ lineFeed :: stream) := by
  obtain ⟨blanks, front, after, hblanks, rfl, hfront⟩ := h
  exact ⟨line :: blanks, front, after, List.forall_mem_cons.2 ⟨hs, hblanks⟩,
    (terminated_cons ..).symm, hfront⟩

/-! ## Cutting at a line feed -/

theorem eq_of_splitLine_none {bs piece : List UInt8} (h : splitLine bs = (piece, none)) :
    bs = piece ∧ lineFeed ∉ piece := by
  induction bs generalizing piece with
  | nil =>
    obtain ⟨rfl, -⟩ := Prod.mk.inj h
    simp
  | cons b bs ih =>
    rw [splitLine] at h
    split at h
    · cases h
    · rename_i hb
      obtain ⟨rfl, h2⟩ := Prod.mk.inj h
      obtain ⟨heq, hmem⟩ := ih (Prod.ext rfl h2)
      exact ⟨congrArg (b :: ·) heq, by simp [Ne.symm hb, hmem]⟩

theorem eq_of_splitLine_some {bs piece after : List UInt8}
    (h : splitLine bs = (piece, some after)) :
    bs = piece ++ lineFeed :: after ∧ lineFeed ∉ piece := by
  induction bs generalizing piece with
  | nil => cases h
  | cons b bs ih =>
    rw [splitLine] at h
    split at h
    · rename_i hb
      obtain ⟨rfl, h2⟩ := Prod.mk.inj h
      obtain rfl := Option.some.inj h2
      simp [hb]
    · rename_i hb
      obtain ⟨rfl, h2⟩ := Prod.mk.inj h
      obtain ⟨heq, hmem⟩ := ih (Prod.ext rfl h2)
      exact ⟨congrArg (b :: ·) heq, by simp [Ne.symm hb, hmem]⟩

theorem splitLine_append {line : List UInt8} (h : lineFeed ∉ line) (bs : List UInt8) :
    splitLine (line ++ bs) = (line ++ (splitLine bs).1, (splitLine bs).2) := by
  induction line with
  | nil => rfl
  | cons b line ih =>
    rw [List.mem_cons, not_or] at h
    rw [List.cons_append, splitLine, if_neg (Ne.symm h.1), ih h.2]
    rfl

/-! ## A reader without chunks -/

/-- The next frame of a stream that is there as a whole, and the stream behind it. -/
def frameOf (limit : Nat) (stream : List UInt8) :
    Except TransportError (List UInt8 × List UInt8) :=
  match _h : splitLine stream with
  | (front, none) =>
    .error (if limit < front.length then .tooLarge limit else .protocol .closedEarly)
  | (line, some after) =>
    if limit < line.length then .error (.tooLarge limit)
    else if line.all isBlankByte then frameOf limit after
    else .ok (line, after)
termination_by stream.length
decreasing_by
  have := length_of_splitLine _h
  omega

theorem frameOf_unended {limit : Nat} {front : List UInt8} (h : lineFeed ∉ front)
    (hs : front.length ≤ limit) : frameOf limit front = .error (.protocol .closedEarly) := by
  have hsplit := splitLine_append h []
  rw [List.append_nil] at hsplit
  rw [frameOf, hsplit]
  simp [splitLine, Nat.not_lt.2 hs]

theorem frameOf_line {limit : Nat} {line : List UInt8} (h : lineFeed ∉ line)
    (hs : line.length ≤ limit) (after : List UInt8) : frameOf limit (line ++ lineFeed :: after)
      = if line.all isBlankByte then frameOf limit after else .ok (line, after) := by
  rw [frameOf, splitLine_append h]
  simp [splitLine, Nat.not_lt.2 hs]

/-- Where a line is already too long, what follows makes no difference. -/
theorem frameOf_overrun {limit : Nat} {front : List UInt8} (h : lineFeed ∉ front)
    (hl : limit < front.length) (after : List UInt8) :
    frameOf limit (front ++ after) = .error (.tooLarge limit) := by
  have hlong : limit < (front ++ (splitLine after).1).length := by
    rw [List.length_append]
    omega
  rw [frameOf, splitLine_append h]
  cases (splitLine after).2 <;> simp only [if_pos hlong]

theorem frameOf_of_hasFrame {limit : Nat} {stream frame after : List UInt8}
    (h : HasFrame limit stream frame after) : frameOf limit stream = .ok (frame, after) := by
  obtain ⟨blanks, hblanks, rfl, hbreak, hcounts, hshort⟩ := h
  induction blanks with
  | nil =>
    show frameOf limit (frame ++ lineFeed :: after) = _
    rw [frameOf_line hbreak hshort, hcounts]
    rfl
  | cons line blanks ih =>
    obtain ⟨hline, hrest⟩ := List.forall_mem_cons.1 hblanks
    rw [terminated_cons, frameOf_line hline.unbroken hline.short, if_pos hline.blank]
    exact ih hrest

theorem frameOf_of_overruns {limit : Nat} {stream : List UInt8} (h : Overruns limit stream) :
    frameOf limit stream = .error (.tooLarge limit) := by
  obtain ⟨blanks, front, after, hblanks, rfl, hbreak, hlong⟩ := h
  induction blanks with
  | nil => exact frameOf_overrun hbreak hlong after
  | cons line blanks ih =>
    obtain ⟨hline, hrest⟩ := List.forall_mem_cons.1 hblanks
    rw [terminated_cons, frameOf_line hline.unbroken hline.short, if_pos hline.blank]
    exact ih hrest

/-- **A stream holds a frame, or overruns, or ends early.** -/
theorem frameOf_cases (limit : Nat) (stream : List UInt8) :
    (∃ frame after, HasFrame limit stream frame after) ∨ Overruns limit stream ∨
      frameOf limit stream = .error (.protocol .closedEarly) := by
  have hnone : ∀ line ∈ ([] : List (List UInt8)), Skipped limit line :=
    fun line hline => absurd hline List.not_mem_nil
  -- By induction on the stream: behind a line that does not count, the same holds of the rest.
  induction hn : stream.length using Nat.strongRecOn generalizing stream with
  | ind n ih =>
    rcases hsplit : splitLine stream with ⟨line, _ | after⟩
    · obtain ⟨rfl, hbreak⟩ := eq_of_splitLine_none hsplit
      by_cases hlong : limit < stream.length
      · exact .inr (.inl ⟨[], stream, [], hnone, by simp [terminated], hbreak, hlong⟩)
      · exact .inr (.inr (frameOf_unended hbreak (Nat.not_lt.1 hlong)))
    · have hlength := length_of_splitLine hsplit
      obtain ⟨rfl, hbreak⟩ := eq_of_splitLine_some hsplit
      by_cases hlong : limit < line.length
      · exact .inr (.inl ⟨[], line, lineFeed :: after, hnone, rfl, hbreak, hlong⟩)
      have hshort := Nat.not_lt.1 hlong
      cases hblank : line.all isBlankByte with
      | false => exact .inl ⟨line, after, [], hnone, rfl, hbreak, hblank, hshort⟩
      | true =>
        have hskip : Skipped limit line := ⟨hbreak, hblank, hshort⟩
        rcases ih after.length (by omega) after rfl with ⟨frame, rest, hf⟩ | ho | he
        · exact .inl ⟨frame, rest, hf.skip hskip⟩
        · exact .inr (.inl (ho.skip hskip))
        · refine .inr (.inr ?_)
          rw [frameOf_line hbreak hshort, if_pos hblank, he]

/-! ## The reader of chunks -/

/-- What a reader leaves, without its chunks. -/
def contents : Except TransportError (List UInt8 × Chunks) →
    Except TransportError (List UInt8 × List UInt8)
  | .ok (frame, rest) => .ok (frame, rest.flatten)
  | .error error => .error error

theorem contents_eq_error {r : Except TransportError (List UInt8 × Chunks)}
    {error : TransportError} : contents r = .error error ↔ r = .error error := by
  cases r <;> simp [contents]

/-- **In the middle of a line, the reader goes on as if it had the line's front before it.** -/
theorem contents_readLine {limit : Nat} {line : List UInt8} (h : lineFeed ∉ line)
    (hs : line.length ≤ limit) (chunks : Chunks) :
    contents (readLine limit line chunks) = frameOf limit (line ++ chunks.flatten) := by
  fun_induction readLine limit line chunks with
  | case1 line =>
    rw [List.flatten_nil, List.append_nil, frameOf_unended h hs]
    rfl
  | case2 line chunk rest piece hsplit hlong =>
    obtain ⟨rfl, hpiece⟩ := eq_of_splitLine_none hsplit
    rw [List.flatten_cons, ← List.append_assoc, frameOf_overrun (by simp [h, hpiece])]
    · rfl
    · rwa [List.length_append]
  | case3 line chunk rest piece hsplit hfits ih =>
    obtain ⟨rfl, hpiece⟩ := eq_of_splitLine_none hsplit
    rw [ih (by simp [h, hpiece]) (by rw [List.length_append]; omega), List.flatten_cons,
      List.append_assoc]
  | case4 line chunk rest piece after hsplit hlong =>
    obtain ⟨rfl, hpiece⟩ := eq_of_splitLine_some hsplit
    rw [List.flatten_cons, List.append_assoc, ← List.append_assoc line,
      frameOf_overrun (by simp [h, hpiece])]
    · rfl
    · rwa [List.length_append]
  | case5 line chunk rest piece after hsplit hfits hblank ih =>
    obtain ⟨rfl, hpiece⟩ := eq_of_splitLine_some hsplit
    rw [ih List.not_mem_nil (Nat.zero_le limit), List.flatten_cons, List.flatten_cons,
      List.append_assoc, ← List.append_assoc line, List.cons_append,
      frameOf_line (by simp [h, hpiece]) (by rw [List.length_append]; omega), if_pos hblank]
    rfl
  | case6 line chunk rest piece after hsplit hfits hcounts =>
    obtain ⟨rfl, hpiece⟩ := eq_of_splitLine_some hsplit
    rw [List.flatten_cons, List.append_assoc, ← List.append_assoc line, List.cons_append,
      frameOf_line (by simp [h, hpiece]) (by rw [List.length_append]; omega), if_neg hcounts]
    rfl

theorem contents_readFrame (limit : Nat) (chunks : Chunks) :
    contents (readFrame limit chunks) = frameOf limit chunks.flatten :=
  contents_readLine List.not_mem_nil (Nat.zero_le limit) chunks

/-! ## What is held on the way -/

/-- The reader of chunks with a record of all that its line is on the way. -/
def watchLine (limit : Nat) (line : List UInt8) (chunks : Chunks) :
    Except TransportError (List UInt8 × Chunks) × List (List UInt8) :=
  match chunks with
  | [] => (.error (.protocol .closedEarly), [line])
  | chunk :: rest =>
    match _h : splitLine chunk with
    | (piece, none) =>
      if limit < line.length + piece.length then (.error (.tooLarge limit), [line])
      else
        let later := watchLine limit (line ++ piece) rest
        (later.1, line :: later.2)
    | (piece, some after) =>
      if limit < line.length + piece.length then (.error (.tooLarge limit), [line])
      else if (line ++ piece).all isBlankByte then
        let later := watchLine limit [] (after :: rest)
        (later.1, line :: (line ++ piece) :: later.2)
      else (.ok (line ++ piece, after :: rest), [line, line ++ piece])
termination_by weight chunks
decreasing_by
  · simp [weight]
  · have := length_of_splitLine _h
    simp [weight]
    omega

theorem readLine_unended {limit : Nat} {line chunk piece : List UInt8} {rest : Chunks}
    (h : splitLine chunk = (piece, none)) : readLine limit line (chunk :: rest)
      = if limit < line.length + piece.length then .error (.tooLarge limit)
        else readLine limit (line ++ piece) rest := by
  rw [readLine]
  split <;> rename_i hsplit <;> rw [h] at hsplit <;> cases hsplit
  rfl

theorem readLine_ended {limit : Nat} {line chunk piece after : List UInt8} {rest : Chunks}
    (h : splitLine chunk = (piece, some after)) : readLine limit line (chunk :: rest)
      = if limit < line.length + piece.length then .error (.tooLarge limit)
        else if (line ++ piece).all isBlankByte then readLine limit [] (after :: rest)
        else .ok (line ++ piece, after :: rest) := by
  rw [readLine]
  split <;> rename_i hsplit <;> rw [h] at hsplit <;> cases hsplit
  rfl

/-- Watching the reader does not change what it reads. -/
theorem watchLine_fst (limit : Nat) (line : List UInt8) (chunks : Chunks) :
    (watchLine limit line chunks).1 = readLine limit line chunks := by
  fun_induction watchLine limit line chunks with
  | case1 line => rw [readLine]
  | case2 line chunk rest piece hsplit hlong => rw [readLine_unended hsplit, if_pos hlong]
  | case3 line chunk rest piece hsplit hfits later ih =>
    rw [readLine_unended hsplit, if_neg hfits]
    exact ih
  | case4 line chunk rest piece after hsplit hlong => rw [readLine_ended hsplit, if_pos hlong]
  | case5 line chunk rest piece after hsplit hfits hblank later ih =>
    rw [readLine_ended hsplit, if_neg hfits, if_pos hblank]
    exact ih
  | case6 line chunk rest piece after hsplit hfits hcounts =>
    rw [readLine_ended hsplit, if_neg hfits, if_neg hcounts]

theorem length_le_of_mem_watchLine {limit : Nat} {line : List UInt8} {chunks : Chunks}
    (hs : line.length ≤ limit) :
    ∀ held ∈ (watchLine limit line chunks).2, held.length ≤ limit := by
  fun_induction watchLine limit line chunks with
  | case1 line => simpa using hs
  | case2 line chunk rest piece hsplit hlong => simpa using hs
  | case3 line chunk rest piece hsplit hfits later ih =>
    exact List.forall_mem_cons.2 ⟨hs, ih (by rw [List.length_append]; omega)⟩
  | case4 line chunk rest piece after hsplit hlong => simpa using hs
  | case5 line chunk rest piece after hsplit hfits hblank later ih =>
    have hline : (line ++ piece).length ≤ limit := by
      rw [List.length_append]
      omega
    exact List.forall_mem_cons.2 ⟨hs, List.forall_mem_cons.2 ⟨hline, ih (Nat.zero_le limit)⟩⟩
  | case6 line chunk rest piece after hsplit hfits hcounts =>
    have hline : (line ++ piece).length ≤ limit := by
      rw [List.length_append]
      omega
    simpa using And.intro hs (by simpa using hline)

/-! ## The result -/

/-- **What a reader finds is a matter of the stream and of the limit.** However the stream comes in
chunks, the reader finds the first line that counts and stops right behind it; it finds the frame
too large exactly where a line overruns before that, and the stream closed where there is neither.
On the way its line never grows past the limit. -/
theorem frame_of_stream (limit : Nat) (chunks : Chunks) :
    (∀ others : Chunks, others.flatten = chunks.flatten →
      contents (readFrame limit others) = contents (readFrame limit chunks)) ∧
    (∀ frame after, contents (readFrame limit chunks) = .ok (frame, after) ↔
      HasFrame limit chunks.flatten frame after) ∧
    (readFrame limit chunks = .error (.tooLarge limit) ↔ Overruns limit chunks.flatten) ∧
    (readFrame limit chunks = .error (.protocol .closedEarly) ↔
      ¬ Overruns limit chunks.flatten ∧
        ∀ frame after, ¬ HasFrame limit chunks.flatten frame after) ∧
    (watchLine limit [] chunks).1 = readFrame limit chunks ∧
    ∀ held ∈ (watchLine limit [] chunks).2, held.length ≤ limit := by
  have hcases := frameOf_cases limit chunks.flatten
  refine ⟨fun others hsame => ?_, fun frame after => ?_, ?_, ?_, watchLine_fst limit [] chunks,
    length_le_of_mem_watchLine (Nat.zero_le limit)⟩
  · rw [contents_readFrame, contents_readFrame, hsame]
  · rw [contents_readFrame]
    refine ⟨fun hok => ?_, frameOf_of_hasFrame⟩
    rcases hcases with ⟨found, rest, hf⟩ | ho | he
    · rw [frameOf_of_hasFrame hf] at hok
      cases hok
      exact hf
    · rw [frameOf_of_overruns ho] at hok
      cases hok
    · rw [he] at hok
      cases hok
  · rw [← contents_eq_error, contents_readFrame]
    refine ⟨fun hlarge => ?_, frameOf_of_overruns⟩
    rcases hcases with ⟨found, rest, hf⟩ | ho | he
    · rw [frameOf_of_hasFrame hf] at hlarge
      cases hlarge
    · exact ho
    · rw [he] at hlarge
      cases hlarge
  · rw [← contents_eq_error, contents_readFrame]
    constructor
    · intro hclosed
      refine ⟨fun ho => ?_, fun frame after hf => ?_⟩
      · rw [frameOf_of_overruns ho] at hclosed
        cases hclosed
      · rw [frameOf_of_hasFrame hf] at hclosed
        cases hclosed
    · rintro ⟨hfits, hnone⟩
      rcases hcases with ⟨found, rest, hf⟩ | ho | he
      · exact absurd hf (hnone found rest)
      · exact absurd ho hfits
      · exact he

/-- A blank line that is cut in two, an empty line, and a frame of four bytes that ends within a
chunk. -/
def cutStream : Chunks := [[13], [10, 10, 97], [98, 99, 100], [10, 101]]

/-- The limit that the frame just meets, and the one that it just overruns. -/
theorem frame_of_stream_cut :
    contents (readFrame 4 cutStream) = .ok ([97, 98, 99, 100], [101]) ∧
    contents (readFrame 4 [cutStream.flatten]) = .ok ([97, 98, 99, 100], [101]) ∧
    [97, 98, 99, 100] ∈ (watchLine 4 [] cutStream).2 ∧ [97, 98, 99, 100].length ≤ 4 ∧
    readFrame 3 cutStream = .error (.tooLarge 3) := by
  obtain ⟨same, found, -, -, -, held⟩ := frame_of_stream 4 cutStream
  obtain ⟨-, -, large, -⟩ := frame_of_stream 3 cutStream
  have hskip : ∀ limit, 0 < limit → ∀ line ∈ [[13], []], Skipped limit line := by
    intro limit hlimit line hline
    simp only [List.mem_cons, List.not_mem_nil, or_false] at hline
    rcases hline with rfl | rfl
    · exact ⟨by decide, rfl, hlimit⟩
    · exact ⟨by decide, rfl, Nat.zero_le limit⟩
  have hframe : contents (readFrame 4 cutStream) = .ok ([97, 98, 99, 100], [101]) :=
    (found _ _).2 ⟨[[13], []], hskip 4 (by decide), rfl, by decide, rfl, by decide⟩
  have hmem : [97, 98, 99, 100] ∈ (watchLine 4 [] cutStream).2 := by
    simp [cutStream, watchLine, splitLine, lineFeed, isBlankByte]
  refine ⟨hframe, (same [cutStream.flatten] rfl).trans hframe, hmem, held _ hmem, large.2 ?_⟩
  exact ⟨[[13], []], [97, 98, 99, 100], [10, 101], hskip 3 (by decide), rfl, by decide, by decide⟩

end ChainExplorer.Socket
