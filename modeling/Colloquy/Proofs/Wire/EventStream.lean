import Colloquy.Proofs.Text.Utf8
import Colloquy.Wire.EventStream
import Mathlib.Data.List.DropRight
import Mathlib.Data.List.TakeWhile

/-! # Event streams, read at once

What an event stream delivers, `Wire.reference`, as a function of all its bytes: it cuts them into
lines and follows the payloads of these.  The main statement is
`Wire.streamItems_eq_reference`: reading piece by piece delivers the same, wherever the bytes are
split.  The invariant is that the bytes that are kept back hold no complete line. -/

namespace Colloquy.Wire

/-- The complete lines of some bytes, without the line feeds that end them. -/
def completeLines (bytes : List UInt8) : List (List UInt8) := (bytes.splitOn 0x0A).dropLast

/-- The payload of a line, if it carries one. -/
def payload? (line : List Char) : Option (List Char) :=
  ((line.rdropWhile fun c => c = '\n' || c = '\r').dropPrefix? ['d', 'a', 't', 'a', ':']).map
    Text.trim

/-- The payload that ends a stream. -/
def doneMark : List Char := ['[', 'D', 'O', 'N', 'E', ']']

/-- Whether all lines are text, up to the one that ends the stream. -/
def readable : List (List UInt8) → Bool
  | [] => true
  | line :: lines =>
    match Utf8.decode? line with
    | .error _ => false
    | .ok text => payload? text = some doneMark || readable lines

/-- The payloads of lines. -/
def payloads (lines : List (List UInt8)) : List (List Char) :=
  lines.filterMap fun line => payload? (Utf8.decodeLossy line)

/-- What the payloads up to the end of the stream deliver: their chunks, then a failure if there is
a payload that has none, or if the stream does not say that it ends. -/
def followed (failure : Option String) (payloads : List (List Char)) : List StreamItem :=
  let items := (payloads.takeWhile (· ≠ doneMark)).map itemOf
  match items.find? fun item => !item.isOk with
  | some bad => items.takeWhile Except.isOk ++ [bad]
  | none =>
    if doneMark ∈ payloads then items
    else items ++ [.error (.streamInterrupted (failure.getD "connection closed before [DONE]"))]

/-- What a stream delivers, as a function of all its bytes. -/
def reference (bytes : List UInt8) (failure : Option String) : List StreamItem :=
  followed failure (payloads (completeLines bytes))

/-! ## Lines -/

/-- Without a line feed there is no complete line. -/
theorem completeLines_of_not_mem {bytes : List UInt8} (h : 0x0A ∉ bytes) :
    completeLines bytes = [] := by
  rw [completeLines, List.splitOn_eq_singleton h, List.dropLast_singleton]

/-- The first complete line ends at the first line feed. -/
theorem completeLines_append {line rest : List UInt8} (h : 0x0A ∉ line) :
    completeLines (line ++ 0x0A :: rest) = line :: completeLines rest := by
  rw [completeLines, List.splitOn_append_cons_self_of_not_mem h,
    List.dropLast_cons_of_ne_nil (List.splitOn_ne_nil _ _), completeLines]

/-- `splitLine` splits a line off at the first line feed. -/
theorem splitLine_append {line rest : List UInt8} (h : 0x0A ∉ line) :
    splitLine (line ++ 0x0A :: rest) = some (line ++ [0x0A], rest) := by
  induction line with
  | nil => rfl
  | cons b line ih =>
    rw [List.mem_cons, not_or] at h
    rw [List.cons_append, splitLine, if_neg (Ne.symm h.1), ih h.2]
    rfl

/-- `splitLine` splits nothing off without a line feed. -/
theorem splitLine_of_not_mem {bytes : List UInt8} (h : 0x0A ∉ bytes) : splitLine bytes = none := by
  induction bytes with
  | nil => rfl
  | cons b bytes ih =>
    rw [List.mem_cons, not_or] at h
    rw [splitLine, if_neg (Ne.symm h.1), ih h.2]
    rfl

/-- `dropLead` is `List.dropPrefix?`. -/
theorem dropLead_eq (lead s : List Char) : dropLead lead s = s.dropPrefix? lead := by
  induction lead generalizing s with
  | nil => rw [dropLead, List.dropPrefix?_nil]
  | cons l lead ih =>
    cases s with
    | nil => rfl
    | cons c s =>
      rw [dropLead, List.dropPrefix?]
      by_cases same : l = c
      · rw [if_pos same, if_pos (by rw [same, BEq.rfl]), ih]
      · rw [if_neg same, if_neg (by simpa using Ne.symm same)]

/-- `eventOf` a line with its line feed is its `payload?`. -/
theorem eventOf_append (line : List Char) :
    eventOf (line ++ ['\n']) =
      (payload? line).map fun p => if p = doneMark then .done else .payload p := by
  have ended : dropLineEnd (line ++ ['\n']) = line.rdropWhile fun c => c = '\n' || c = '\r' := by
    rw [dropLineEnd, ← List.rdropWhile, List.rdropWhile_concat_pos _ _ _ (by decide)]
  rw [eventOf, ended, dropLead_eq, payload?, Option.map_map]
  rfl

/-! ## Payloads -/

/-- A stream without further payloads fails. -/
theorem followed_nil (failure : Option String) :
    followed failure [] =
      [.error (.streamInterrupted (failure.getD "connection closed before [DONE]"))] := rfl

/-- Nothing follows the end of a stream. -/
theorem followed_doneMark (failure : Option String) (ps : List (List Char)) :
    followed failure (doneMark :: ps) = [] := by
  simp [followed]

/-- A payload without a chunk ends a stream. -/
theorem followed_of_error {failure : Option String} {p : List Char} {ps : List (List Char)}
    {e : ProviderError} (running : p ≠ doneMark) (bad : itemOf p = .error e) :
    followed failure (p :: ps) = [.error e] := by
  simp [followed, running, bad, Except.isOk, Except.toBool]

/-- After a payload with a chunk a stream goes on. -/
theorem followed_of_ok {failure : Option String} {p : List Char} {ps : List (List Char)}
    {chunk : StreamChunk} (running : p ≠ doneMark) (good : itemOf p = .ok chunk) :
    followed failure (p :: ps) = .ok chunk :: followed failure ps := by
  have passed : (Except.ok chunk : StreamItem).isOk = true := rfl
  have other : ¬ doneMark = p := Ne.symm running
  simp only [followed, List.takeWhile_cons, running, ne_eq, not_false_eq_true, decide_true, if_true,
    List.map_cons, good, List.find?_cons, passed, Bool.not_true, List.mem_cons, other, false_or]
  generalize (ps.takeWhile _).map itemOf = items
  cases items.find? fun item => !item.isOk with
  | some bad => rfl
  | none =>
    by_cases ended : doneMark ∈ ps
    · simp only [if_pos ended]
    · simp only [if_neg ended, List.cons_append]

/-! ## Reading piece by piece -/

/-- A list of bytes either has no line feed or a first line that ends at one. -/
theorem line_cases (bytes : List UInt8) :
    0x0A ∉ bytes ∨ ∃ line rest, 0x0A ∉ line ∧ bytes = line ++ 0x0A :: rest := by
  by_cases h : 0x0A ∈ bytes
  · obtain ⟨line, rest, split, clean⟩ := List.eq_append_cons_of_mem h
    exact .inr ⟨line, rest, clean, split⟩
  · exact .inl h

/-- What holds of bytes without a line feed, and of a line in front of bytes of which it holds,
holds of all bytes. -/
@[elab_as_elim]
theorem line_induction {motive : List UInt8 → Prop} (bytes : List UInt8)
    (begun : ∀ bytes, 0x0A ∉ bytes → motive bytes)
    (line : ∀ line rest, 0x0A ∉ line → motive rest → motive (line ++ 0x0A :: rest)) :
    motive bytes := by
  induction hn : bytes.length using Nat.strong_induction_on generalizing bytes with
  | _ n ih =>
    rcases line_cases bytes with clean | ⟨front, rest, clean, rfl⟩
    · exact begun bytes clean
    · have shorter : rest.length < n := by
        rw [← hn, List.length_append, List.length_cons]
        omega
      exact line front rest clean (ih rest.length shorter rest rfl)

/-- **`takeEvents` gives the events of the complete lines**, as part of a longer stream: what they
deliver is what the whole stream delivers up to there.  If the stream goes on, the bytes kept back
hold no complete line. -/
theorem takeEvents_eq (failure : Option String) (bytes more : List UInt8)
    (text : readable (completeLines (bytes ++ more)) = true) :
    ∃ events kept, takeEvents bytes = .ok (events, kept) ∧
      reference (bytes ++ more) failure =
        (itemsOf events).1 ++
          (if (itemsOf events).2 then reference (kept ++ more) failure else []) ∧
      ((itemsOf events).2 = true →
        0x0A ∉ kept ∧ readable (completeLines (kept ++ more)) = true) := by
  -- The induction is on the number of bytes; each step takes a line off their front.
  induction hn : bytes.length using Nat.strong_induction_on generalizing bytes with
  | _ n ih =>
    rcases line_cases bytes with clean | ⟨line, rest, clean, rfl⟩
    · refine ⟨[], bytes, ?_, rfl, fun _ => ⟨clean, text⟩⟩
      rw [takeEvents, splitLine_of_not_mem clean]
    · have shorter : rest.length < n := by
        rw [← hn, List.length_append, List.length_cons]
        omega
      have lines : completeLines (line ++ 0x0A :: rest ++ more) =
          line :: completeLines (rest ++ more) := by
        rw [List.append_assoc, List.cons_append, completeLines_append clean]
      rw [lines, readable] at text
      cases decoded : Utf8.decode? line with
      | error e =>
        rw [decoded] at text
        cases text
      | ok s =>
        simp only [decoded, Bool.or_eq_true, decide_eq_true_eq] at text
        have ended : Utf8.decode? (line ++ [0x0A]) = .ok (s ++ ['\n']) :=
          Utf8.decode?_append decoded rfl
        have told : payloads (line :: completeLines (rest ++ more)) =
            (payload? s).toList ++ payloads (completeLines (rest ++ more)) := by
          rw [payloads, List.filterMap_cons, Utf8.decodeLossy_of_decode? decoded]
          cases payload? s <;> rfl
        rw [reference, lines, told, takeEvents, splitLine_append clean]
        simp only [ended, eventOf_append]
        -- What the rest comes to, unless this line ends the stream.
        have later := fun readable => ih rest.length shorter rest readable rfl
        cases payload : payload? s with
        | none =>
          rw [payload] at text
          obtain ⟨events, kept, taken, same, goesOn⟩ := later (text.resolve_left (by simp))
          refine ⟨events, kept, ?_, same, goesOn⟩
          simp [taken, bind, Except.bind]
        | some p =>
          by_cases done : p = doneMark
          · -- The stream ends here, whatever the bytes after this line are.
            subst done
            refine ⟨[.done], rest, ?_, followed_doneMark _ _, fun h => by cases h⟩
            simp
          · obtain ⟨events, kept, taken, same, goesOn⟩ :=
              later (text.resolve_left (by simpa [payload] using done))
            refine ⟨.payload p :: events, kept, ?_, ?_⟩
            · simp [done, taken, bind, Except.bind]
            rw [Option.toList_some, List.singleton_append, itemsOf]
            cases item : itemOf p with
            | error e =>
              -- The stream breaks here, so what the rest comes to does not matter.
              exact ⟨followed_of_error done item, fun h => by cases h⟩
            | ok chunk =>
              refine ⟨?_, goesOn⟩
              rw [followed_of_ok done item]
              exact congrArg (.ok chunk :: ·) same

/-- **`forward` goes on as the whole stream does**: with no complete line among the bytes kept back,
further reads deliver what these bytes and all further ones deliver at once. -/
theorem forward_eq_reference (failure : Option String) (reads : List (List UInt8))
    (kept : List UInt8) (clean : 0x0A ∉ kept)
    (text : readable (completeLines (kept ++ reads.flatten)) = true) :
    forward kept failure reads = reference (kept ++ reads.flatten) failure := by
  induction reads generalizing kept with
  | nil =>
    rw [List.flatten_nil, List.append_nil, reference, completeLines_of_not_mem clean]
    cases failure <;> rfl
  | cons read reads ih =>
    -- The bytes kept back and the next read form the front of the stream that is left.
    rw [List.flatten_cons, ← List.append_assoc] at text ⊢
    obtain ⟨events, kept', taken, same, goesOn⟩ := takeEvents_eq failure _ _ text
    rw [forward, taken, same]
    simp only
    generalize itemsOf events = r at goesOn
    obtain ⟨items, running⟩ := r
    cases running with
    | false => exact (List.append_nil items).symm
    | true =>
      obtain ⟨clean', text'⟩ := goesOn rfl
      exact congrArg (items ++ ·) (ih kept' clean' text')

/-! ## What is delivered -/

/-- **`itemOf p` is a chunk exactly if `p` is one that reports no failure**; that is the chunk. -/
theorem itemOf_eq_ok {p : List Char} {chunk : StreamChunk} :
    itemOf p = .ok chunk ↔
      ∃ c, Chunk.decoder.parse p = .ok c ∧ c.error = none ∧ c.toChunk = chunk := by
  unfold itemOf
  cases Chunk.decoder.parse p with
  | error fault => simp
  | ok c => cases report : c.error <;> simp [report]

/-- **`itemOf p` fails exactly if `p` is no chunk, or one that reports a failure.** -/
theorem itemOf_eq_error {p : List Char} {e : ProviderError} :
    itemOf p = .error e ↔
      (∃ fault, Chunk.decoder.parse p = .error fault ∧
        e = .streamInterrupted ("unparseable stream chunk: " ++ fault.message)) ∨
      ∃ c f, Chunk.decoder.parse p = .ok c ∧ c.error = some f ∧
        e = .streamInterrupted ("provider error: " ++ f.message) := by
  unfold itemOf
  cases Chunk.decoder.parse p with
  | error fault => simp [eq_comm]
  | ok c => cases report : c.error <;> simp [report, eq_comm]

/-- A failure of `itemOf` is `streamInterrupted`. -/
theorem exists_of_itemOf_eq_error {p : List Char} {e : ProviderError} (h : itemOf p = .error e) :
    ∃ reason, e = .streamInterrupted reason := by
  rcases itemOf_eq_error.mp h with ⟨_, -, rfl⟩ | ⟨_, _, -, -, rfl⟩ <;> exact ⟨_, rfl⟩

/-- **Payloads deliver chunks and then at most one failure**, and none exactly if all payloads
before one that ends the stream have chunks. -/
theorem followed_shape (failure : Option String) (ps : List (List Char)) :
    ∃ (chunks : List StreamChunk) (broken : Option String),
      followed failure ps = chunks.map .ok ++
        (broken.map fun reason => .error (.streamInterrupted reason)).toList ∧
      (broken = none ↔ doneMark ∈ ps ∧
        ∀ p ∈ ps.takeWhile (· ≠ doneMark), ∃ chunk, itemOf p = .ok chunk) := by
  induction ps with
  | nil => exact ⟨[], some _, followed_nil failure, by simp⟩
  | cons p ps ih =>
    by_cases done : p = doneMark
    · subst done
      exact ⟨[], none, followed_doneMark failure ps, by simp⟩
    · have later : doneMark ∈ p :: ps ↔ doneMark ∈ ps := by
        rw [List.mem_cons, or_iff_right (Ne.symm done)]
      rw [later, List.takeWhile_cons_of_pos (by simpa using done), List.forall_mem_cons]
      cases item : itemOf p with
      | error e =>
        obtain ⟨reason, rfl⟩ := exists_of_itemOf_eq_error item
        exact ⟨[], some reason, followed_of_error done item, by simp⟩
      | ok chunk =>
        obtain ⟨chunks, broken, same, whole⟩ := ih
        refine ⟨chunk :: chunks, broken, ?_, ?_⟩
        · rw [followed_of_ok done item, same]
          rfl
        · rw [whole]
          simp

/-- **Where a stream is split does not matter**: what it delivers is `reference` of all its bytes,
provided that its lines are text up to the one that ends it.  These are chunks and then at most one
failure, and none exactly if the stream says that it ends and every payload before has a chunk. -/
theorem streamItems_eq_reference (b : Http.Body)
    (text : readable (completeLines b.reads.flatten) = true) :
    streamItems b = reference b.reads.flatten b.failure ∧
      ∃ (chunks : List StreamChunk) (broken : Option String),
        streamItems b = chunks.map .ok ++
          (broken.map fun reason => .error (.streamInterrupted reason)).toList ∧
        (broken = none ↔ doneMark ∈ payloads (completeLines b.reads.flatten) ∧
          ∀ p ∈ (payloads (completeLines b.reads.flatten)).takeWhile (· ≠ doneMark),
            ∃ chunk, itemOf p = .ok chunk) := by
  have same : streamItems b = reference b.reads.flatten b.failure :=
    forward_eq_reference b.failure b.reads [] (by simp) text
  rw [same]
  exact ⟨rfl, followed_shape b.failure _⟩

/-- A body of one chunk, whose reads split a character and the end of a line. -/
def splitBody : Http.Body where
  reads :=
    [Utf8.encode "data: \x7b\"id\":\"caf".toList ++ [0xC3], [],
      0xA9 :: Utf8.encode "\"\x7d\r".toList, Utf8.encode "\n\nda".toList,
      Utf8.encode "ta: [DONE]\r\n".toList]
  failure := none

/-- Split reads deliver the chunk whole. -/
theorem streamItems_splitBody :
    readable (completeLines splitBody.reads.flatten) = true ∧
      (streamItems splitBody).map (fun item => item.toOption.map StreamChunk.id) = [some "café"] ∧
      streamItems splitBody = reference splitBody.reads.flatten splitBody.failure :=
  ⟨by decide +kernel, by decide +kernel,
    (streamItems_eq_reference splitBody (by decide +kernel)).1⟩

end Colloquy.Wire
