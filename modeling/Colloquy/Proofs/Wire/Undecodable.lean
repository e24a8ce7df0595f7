import Colloquy.Proofs.Wire.EventStream

/-! # Event streams with a line that is no text

What an event stream delivers if one of its lines is no text.  Reading stops at the first such line,
and what is delivered before depends on where the bytes are split: the call of `takeEvents` that
meets the line gives up the events of the lines before it that came with the same read.  The main
statement is `Wire.streamItems_spoiled`: exactly the lines that earlier reads completed are
delivered, and the failure follows. -/

namespace Colloquy.Wire

/-- Where lines stop being text, the stream not having ended by then: the lines before the first one
that is no text, and the fault of that one. -/
inductive Spoiled : List (List UInt8) → List (List UInt8) → Utf8.Error → Prop where
  /-- The next line, which ends in a line feed, is no text. -/
  | here {line : List UInt8} {lines : List (List UInt8)} {fault : Utf8.Error}
    (bad : Utf8.decode? (line ++ [0x0A]) = .error fault) : Spoiled (line :: lines) [] fault
  /-- A later line is no text. -/
  | later {line : List UInt8} {lines before : List (List UInt8)} {fault : Utf8.Error}
    {text : List Char} (good : Utf8.decode? line = .ok text)
    (running : payload? text ≠ some doneMark) (rest : Spoiled lines before fault) :
    Spoiled (line :: lines) (line :: before) fault

/-- Whether all lines are text and none of them ends the stream. -/
def Running (lines : List (List UInt8)) : Prop :=
  ∀ line ∈ lines, ∃ text, Utf8.decode? line = .ok text ∧ payload? text ≠ some doneMark

/-- The wording of the failure of a line that is no text. -/
def lineReason (fault : Utf8.Error) : String :=
  "invalid UTF-8 in event stream: " ++ fault.message

/-- How the first line that is no text arrives: the reads before the one that completes it, and
which of the lines before it these had completed. -/
structure Arrival (reads before : List (List UInt8)) (fault : Utf8.Error) where
  /-- The reads before. -/
  early : List (List UInt8)
  /-- The read that completes the line. -/
  read : List UInt8
  /-- The reads after. -/
  rest : List (List UInt8)
  /-- The lines before it that come with the same read. -/
  late : List (List UInt8)
  /-- These are all reads. -/
  reads_eq : reads = early ++ read :: rest
  /-- The reads before complete the other lines before it. -/
  before_eq : before = completeLines early.flatten ++ late
  /-- The line is complete with the read. -/
  completed : Spoiled (completeLines (early.flatten ++ read)) before fault

/-! ## Lines that are no text -/

/-- A stream that cannot be read has a first line that is no text. -/
theorem readable_eq_false {lines : List (List UInt8)} :
    readable lines = false ↔ ∃ before fault, Spoiled lines before fault := by
  induction lines with
  | nil =>
    refine ⟨nofun, ?_⟩
    rintro ⟨before, fault, spoiled⟩
    cases spoiled
  | cons line lines ih =>
    rw [readable]
    cases decoded : Utf8.decode? line with
    | error e =>
      -- With its line feed the line is no text either.
      have bad : ∃ fault, Utf8.decode? (line ++ [0x0A]) = .error fault := by
        cases ended : Utf8.decode? (line ++ [0x0A]) with
        | error fault => exact ⟨fault, rfl⟩
        | ok text =>
          obtain ⟨t, good⟩ := Utf8.exists_decode?_of_concat (by decide) ended
          rw [decoded] at good
          cases good
      obtain ⟨fault, bad⟩ := bad
      exact iff_of_true rfl ⟨[], fault, .here bad⟩
    | ok text =>
      simp only [Bool.or_eq_false_iff, decide_eq_false_iff_not]
      constructor
      · rintro ⟨running, unreadable⟩
        obtain ⟨before, fault, rest⟩ := ih.mp unreadable
        exact ⟨line :: before, fault, .later decoded running rest⟩
      · rintro ⟨before, fault, spoiled⟩
        cases spoiled with
        | here bad =>
          have ended : Utf8.decode? (line ++ [0x0A]) = .ok (text ++ ['\n']) :=
            Utf8.decode?_append decoded rfl
          rw [ended] at bad
          cases bad
        | later good running rest =>
          obtain rfl := Except.ok.inj (decoded.symm.trans good)
          exact ⟨running, ih.mpr ⟨_, _, rest⟩⟩

/-- The lines before the first one that is no text are text, and do not end the stream. -/
theorem Spoiled.running {lines before : List (List UInt8)} {fault : Utf8.Error}
    (h : Spoiled lines before fault) : Running before := by
  induction h with
  | here => exact nofun
  | later good running _ ih => exact List.forall_mem_cons.mpr ⟨⟨_, good, running⟩, ih⟩

/-- The first line that is no text is either among the first lines, or these are text and it is the
first such line of the others. -/
theorem Spoiled.of_append {first others before : List (List UInt8)} {fault : Utf8.Error}
    (h : Spoiled (first ++ others) before fault) :
    Spoiled first before fault ∨
      Running first ∧ ∃ before', before = first ++ before' ∧ Spoiled others before' fault := by
  induction first generalizing before with
  | nil => exact .inr ⟨nofun, before, rfl, h⟩
  | cons line first ih =>
    cases h with
    | here bad => exact .inl (.here bad)
    | later good running rest =>
      rcases ih rest with among | ⟨runs, before', rfl, after⟩
      · exact .inl (.later good running among)
      · exact .inr ⟨List.forall_mem_cons.mpr ⟨⟨_, good, running⟩, runs⟩, before', rfl, after⟩

/-- Lines that are text put the first one that is none off. -/
theorem Spoiled.append_running {first others before : List (List UInt8)} {fault : Utf8.Error}
    (h : Spoiled others before fault) (runs : Running first) :
    Spoiled (first ++ others) (first ++ before) fault := by
  induction first with
  | nil => exact h
  | cons line first ih =>
    obtain ⟨⟨text, good, running⟩, runs⟩ := List.forall_mem_cons.mp runs
    exact .later good running (ih runs)

/-- Lines that do not end the stream have no payload that does. -/
theorem Running.doneMark_not_mem {lines : List (List UInt8)} (h : Running lines) :
    doneMark ∉ payloads lines := by
  intro mem
  obtain ⟨line, hline, told⟩ := List.mem_filterMap.mp mem
  obtain ⟨text, decoded, running⟩ := h line hline
  rw [Utf8.decodeLossy_of_decode? decoded] at told
  exact running told

/-! ## Payloads that were delivered -/

/-- The items of some payloads, and whether the stream goes on after them. -/
def handedOn (ps : List (List Char)) : List StreamItem × Bool := itemsOf (ps.map .payload)

/-- A stream goes on after payloads that have chunks. -/
theorem handedOn_snd {ps : List (List Char)} :
    (handedOn ps).2 = false ↔ ∃ p ∈ ps, ∃ e, itemOf p = .error e := by
  induction ps with
  | nil => simp [handedOn, itemsOf]
  | cons p ps ih =>
    rw [handedOn] at ih ⊢
    rw [List.map_cons, itemsOf]
    cases item : itemOf p with
    | error e => simp [item]
    | ok chunk => simp [item, ih]

/-- **What payloads deliver comes first**, whatever follows them; if one of them has no chunk,
nothing follows. -/
theorem followed_append {ps : List (List Char)} (running : doneMark ∉ ps) (failure : Option String)
    (qs : List (List Char)) :
    followed failure (ps ++ qs) =
      (handedOn ps).1 ++ if (handedOn ps).2 then followed failure qs else [] := by
  induction ps with
  | nil => rfl
  | cons p ps ih =>
    rw [List.mem_cons, not_or] at running
    have other : p ≠ doneMark := Ne.symm running.1
    rw [List.cons_append, handedOn, List.map_cons, itemsOf]
    cases item : itemOf p with
    | error e =>
      rw [followed_of_error other item]
      rfl
    | ok chunk =>
      rw [followed_of_ok other item, ih running.2]
      rfl

/-- Payloads that end a stream deliver the same, whatever the reason for its end would be. -/
theorem followed_eq_handedOn {ps : List (List Char)} (running : doneMark ∉ ps)
    (failure : Option String) :
    followed failure ps = (handedOn ps).1 ++
      if (handedOn ps).2 then
        [.error (.streamInterrupted (failure.getD "connection closed before [DONE]"))]
      else [] := by
  have h := followed_append running failure []
  rwa [List.append_nil, followed_nil] at h

/-- No `itemOf` fails like a line that is no text. -/
theorem itemOf_ne_lineReason (p : List Char) (fault : Utf8.Error) :
    itemOf p ≠ .error (.streamInterrupted (lineReason fault)) := by
  -- The wordings differ in their first character.
  have front : ∀ {s t : String} {c d : Char} {cs ds : List Char}, s.toList = c :: cs →
      t.toList = d :: ds → c ≠ d → ∀ {s' t' : String}, s ++ s' ≠ t ++ t' := by
    intro s t c d cs ds hs ht differ s' t' same
    have chars := congrArg String.toList same
    rw [String.toList_append, String.toList_append, hs, ht] at chars
    exact differ (List.cons.inj chars).1
  intro failed
  rcases itemOf_eq_error.mp failed with ⟨_, -, same⟩ | ⟨_, _, -, -, same⟩
  · exact front rfl rfl (by decide) (ProviderError.streamInterrupted.inj same)
  · exact front rfl rfl (by decide) (ProviderError.streamInterrupted.inj same)

/-- Payloads come to nothing but the failure of a line that is no text only if there are none. -/
theorem followed_eq_lineReason {qs : List (List Char)} (running : doneMark ∉ qs)
    (fault : Utf8.Error) :
    (∃ reason, [.error (.streamInterrupted (lineReason fault))] = followed (some reason) qs) ↔
      qs = [] := by
  constructor
  · rintro ⟨reason, same⟩
    cases qs with
    | nil => rfl
    | cons q qs =>
      have other : q ≠ doneMark := fun done => running (done ▸ List.mem_cons_self)
      cases item : itemOf q with
      | error e =>
        rw [followed_of_error other item] at same
        obtain ⟨eq, -⟩ := List.cons.inj same
        obtain rfl := Except.error.inj eq
        exact absurd item (itemOf_ne_lineReason q fault)
      | ok chunk =>
        rw [followed_of_ok other item] at same
        cases (List.cons.inj same).1
  · rintro rfl
    exact ⟨lineReason fault, rfl⟩

/-- What lines say is what the first ones say, and then what the others say. -/
theorem payloads_append (first others : List (List UInt8)) :
    payloads (first ++ others) = payloads first ++ payloads others :=
  List.filterMap_append

/-! ## Lines that have begun -/

/-- The bytes after the last complete line. -/
def begun (bytes : List UInt8) : List UInt8 :=
  (bytes.splitOn 0x0A).getLast (List.splitOn_ne_nil _ _)

/-- Without a line feed the only line has begun. -/
theorem begun_of_not_mem {bytes : List UInt8} (h : 0x0A ∉ bytes) : begun bytes = bytes := by
  simp only [begun, List.splitOn_eq_singleton h, List.getLast_singleton]

/-- A complete line in front leaves the line that has begun alone. -/
theorem begun_append {line rest : List UInt8} (h : 0x0A ∉ line) :
    begun (line ++ 0x0A :: rest) = begun rest := by
  simp only [begun, List.splitOn_append_cons_self_of_not_mem h,
    List.getLast_cons (List.splitOn_ne_nil _ _)]

/-- A line that has begun has no line feed. -/
theorem not_mem_begun (bytes : List UInt8) : 0x0A ∉ begun bytes := by
  induction bytes using line_induction with
  | begun bytes clean => rwa [begun_of_not_mem clean]
  | line line rest clean ih => rwa [begun_append clean]

/-- **Further bytes continue the line that has begun.** -/
theorem completeLines_append_begun (bytes more : List UInt8) :
    completeLines (bytes ++ more) = completeLines bytes ++ completeLines (begun bytes ++ more) := by
  induction bytes using line_induction with
  | begun bytes clean =>
    rw [completeLines_of_not_mem clean, begun_of_not_mem clean, List.nil_append]
  | line line rest clean ih =>
    rw [List.append_assoc, List.cons_append, completeLines_append clean,
      completeLines_append clean, begun_append clean, ih, List.cons_append]

/-! ## Reading piece by piece -/

/-- **`takeEvents` loses all events of its call to a line that is no text.** -/
theorem takeEvents_of_spoiled {bytes : List UInt8} {before : List (List UInt8)}
    {fault : Utf8.Error} (h : Spoiled (completeLines bytes) before fault) :
    takeEvents bytes = .error (lineFailure fault) := by
  induction bytes using line_induction generalizing before with
  | begun bytes clean =>
    rw [completeLines_of_not_mem clean] at h
    cases h
  | line line rest clean ih =>
    rw [completeLines_append clean] at h
    rw [takeEvents, splitLine_append clean]
    cases h with
    | here bad => simp only [bad]
    | @later _ _ _ _ text good running later =>
      have ended : Utf8.decode? (line ++ [0x0A]) = .ok (text ++ ['\n']) :=
        Utf8.decode?_append good rfl
      have taken := ih later
      simp only [ended, eventOf_append]
      cases told : payload? text with
      | none => simp [taken, bind, Except.bind]
      | some p =>
        have other : p ≠ doneMark := fun same => running (by rw [told, same])
        simp [other, taken, bind, Except.bind]

/-- **`takeEvents` gives the events of lines that are text**, and keeps the bytes of the line that
has begun. -/
theorem takeEvents_of_running {bytes : List UInt8} (h : Running (completeLines bytes)) :
    takeEvents bytes = .ok ((payloads (completeLines bytes)).map .payload, begun bytes) := by
  induction bytes using line_induction with
  | begun bytes clean =>
    rw [takeEvents, splitLine_of_not_mem clean, completeLines_of_not_mem clean,
      begun_of_not_mem clean]
    rfl
  | line line rest clean ih =>
    rw [completeLines_append clean] at h ⊢
    obtain ⟨⟨text, good, running⟩, others⟩ := List.forall_mem_cons.mp h
    have taken := ih others
    have ended : Utf8.decode? (line ++ [0x0A]) = .ok (text ++ ['\n']) :=
      Utf8.decode?_append good rfl
    have told : payloads (line :: completeLines rest) =
        (payload? text).toList ++ payloads (completeLines rest) := by
      rw [payloads, List.filterMap_cons, Utf8.decodeLossy_of_decode? good]
      cases payload? text <;> rfl
    rw [takeEvents, splitLine_append clean, told, begun_append clean]
    simp only [ended, eventOf_append]
    cases payload : payload? text with
    | none => simp [taken, bind, Except.bind]
    | some p =>
      have other : p ≠ doneMark := fun same => running (by rw [payload, same])
      simp [other, taken, bind, Except.bind]

/-- After a read that completes only lines that are text, what they deliver comes first. -/
theorem forward_cons_of_running {kept read : List UInt8}
    (h : Running (completeLines (kept ++ read))) (failure : Option String)
    (reads : List (List UInt8)) :
    forward kept failure (read :: reads) =
      (handedOn (payloads (completeLines (kept ++ read)))).1 ++
        if (handedOn (payloads (completeLines (kept ++ read)))).2 then
          forward (begun (kept ++ read)) failure reads
        else [] := by
  rw [forward, takeEvents_of_running h]
  simp only
  rw [← handedOn]
  generalize handedOn (payloads (completeLines (kept ++ read))) = r
  obtain ⟨items, running⟩ := r
  cases running with
  | false => exact (List.append_nil items).symm
  | true => rfl

/-- **Reading up to a line that is no text**: with no complete line among the bytes kept back, the
lines that are complete before the read that completes that line are delivered, and its failure. -/
theorem forward_of_spoiled (failure : Option String) {reads before : List (List UInt8)}
    {fault : Utf8.Error} {kept : List UInt8} (clean : 0x0A ∉ kept)
    (h : Spoiled (completeLines (kept ++ reads.flatten)) before fault) :
    ∃ early read rest late, reads = early ++ read :: rest ∧
      before = completeLines (kept ++ early.flatten) ++ late ∧
      Spoiled (completeLines (kept ++ (early.flatten ++ read))) before fault ∧
      forward kept failure reads =
        followed (some (lineReason fault)) (payloads (completeLines (kept ++ early.flatten))) := by
  induction reads generalizing kept before with
  | nil =>
    rw [List.flatten_nil, List.append_nil, completeLines_of_not_mem clean] at h
    cases h
  | cons read reads ih =>
    have cut : ∀ more, completeLines (kept ++ (read ++ more)) =
        completeLines (kept ++ read) ++ completeLines (begun (kept ++ read) ++ more) := by
      intro more
      rw [← List.append_assoc, completeLines_append_begun]
    rw [List.flatten_cons, cut] at h
    rcases h.of_append with among | ⟨runs, before, rfl, later⟩
    · -- The line is completed by this read, which gives up its events.
      refine ⟨[], read, reads, before, rfl, ?_, among, ?_⟩
      · rw [List.flatten_nil, List.append_nil, completeLines_of_not_mem clean, List.nil_append]
      · rw [forward, takeEvents_of_spoiled among, List.flatten_nil, List.append_nil,
          completeLines_of_not_mem clean]
        rfl
    · -- The line is among those of the reads after this one.
      obtain ⟨early, last, rest, late, rfl, rfl, completed, delivered⟩ :=
        ih (not_mem_begun _) later
      have text : doneMark ∉ payloads (completeLines (kept ++ read)) := runs.doneMark_not_mem
      refine ⟨read :: early, last, rest, late, rfl, ?_, ?_, ?_⟩
      · rw [List.flatten_cons, cut, List.append_assoc]
      · rw [List.flatten_cons, List.append_assoc, cut]
        exact completed.append_running runs
      · rw [List.flatten_cons, cut, payloads_append, followed_append text,
          forward_cons_of_running runs, delivered]

/-! ## What is delivered -/

/-- **Up to a line that is no text, what is delivered depends on where the stream is split**: the
chunks of the lines that reads before the one with that line completed, and then its failure, or the
failure of one of their payloads.  This is what all lines before that line and one failure would
come to only if no payload was completed by the same read, or the stream had broken before. -/
theorem streamItems_spoiled (b : Http.Body)
    (unreadable : readable (completeLines b.reads.flatten) = false) :
    ∃ before fault, Spoiled (completeLines b.reads.flatten) before fault ∧
      ∃ arrival : Arrival b.reads before fault,
        streamItems b = followed (some (lineReason fault))
          (payloads (completeLines arrival.early.flatten)) ∧
        ((∃ reason, streamItems b = followed (some reason) (payloads before)) ↔
          payloads arrival.late = [] ∨
            ∃ p ∈ payloads (completeLines arrival.early.flatten), ∃ e, itemOf p = .error e) := by
  obtain ⟨before, fault, spoiled⟩ := readable_eq_false.mp unreadable
  have first : Spoiled (completeLines ([] ++ b.reads.flatten)) before fault := spoiled
  obtain ⟨early, read, rest, late, reads, cut, completed, delivered⟩ :=
    forward_of_spoiled b.failure (List.not_mem_nil) first
  rw [List.nil_append] at cut completed delivered
  subst cut
  refine ⟨_, fault, spoiled, ⟨early, read, rest, late, reads, rfl, completed⟩, delivered, ?_⟩
  change (∃ reason, forward [] b.failure b.reads = _) ↔ payloads late = [] ∨
    ∃ p ∈ payloads (completeLines early.flatten), ∃ e, itemOf p = .error e
  have running : doneMark ∉ payloads (completeLines early.flatten ++ late) :=
    spoiled.running.doneMark_not_mem
  rw [payloads_append, List.mem_append, not_or] at running
  obtain ⟨runningEarly, runningLate⟩ := running
  rw [delivered, payloads_append]
  simp only [followed_append runningEarly, followed_eq_handedOn runningEarly, Option.getD_some,
    List.append_cancel_left_eq]
  -- Both come to the same unless the stream is still unbroken when the last read comes.
  cases goesOn : (handedOn (payloads (completeLines early.flatten))).2 with
  | false => exact iff_of_true ⟨"", rfl⟩ (.inr (handedOn_snd.mp goesOn))
  | true =>
    have unbroken : ¬ ∃ p ∈ payloads (completeLines early.flatten), ∃ e, itemOf p = .error e := by
      rw [← handedOn_snd, goesOn]
      exact nofun
    rw [or_iff_left unbroken]
    exact followed_eq_lineReason runningLate fault

/-- A payload, and then a line that is no text. -/
def spoiledBytes : List UInt8 := Utf8.encode "data: \x7b\x7d\ndata: ".toList ++ [0xFF, 0x0A]

/-- A body that brings them in one read. -/
def oneRead : Http.Body := ⟨[spoiledBytes], none⟩

/-- A body that brings them in two, the first of which ends after the payload's line. -/
def twoReads : Http.Body := ⟨[spoiledBytes.take 9, spoiledBytes.drop 9], none⟩

/-- In two reads the payload is delivered. -/
theorem streamItems_spoiled_twoReads :
    readable (completeLines twoReads.reads.flatten) = false ∧
      ∃ before fault, Spoiled (completeLines twoReads.reads.flatten) before fault ∧
      ∃ arrival : Arrival twoReads.reads before fault,
        streamItems twoReads = followed (some (lineReason fault))
          (payloads (completeLines arrival.early.flatten)) ∧
        ((∃ reason, streamItems twoReads = followed (some reason) (payloads before)) ↔
          payloads arrival.late = [] ∨
            ∃ p ∈ payloads (completeLines arrival.early.flatten), ∃ e, itemOf p = .error e) :=
  ⟨by decide +kernel, streamItems_spoiled twoReads (by decide +kernel)⟩

/-- **A line that is no text swallows the payloads that came with it**: of the same bytes, one read
delivers only the failure, and no failure makes this what the lines before come to, while two reads
deliver the payload's chunk. -/
theorem streamItems_swallowed :
    oneRead.reads.flatten = twoReads.reads.flatten ∧
      (∃ fault, Spoiled (completeLines oneRead.reads.flatten)
        [Utf8.encode "data: \x7b\x7d".toList] fault) ∧
      (streamItems oneRead).map Except.isOk = [false] ∧
      (streamItems twoReads).map Except.isOk = [true, false] ∧
      ¬ ∃ reason, streamItems oneRead =
        followed (some reason) (payloads [Utf8.encode "data: \x7b\x7d".toList]) := by
  have lines : completeLines oneRead.reads.flatten =
      [Utf8.encode "data: \x7b\x7d".toList, Utf8.encode "data: ".toList ++ [0xFF]] := by
    decide +kernel
  refine ⟨by decide +kernel, ?_, by decide +kernel, by decide +kernel, ?_⟩
  · rw [lines]
    have good : Utf8.decode? (Utf8.encode "data: \x7b\x7d".toList) =
        .ok "data: \x7b\x7d".toList := by
      decide +kernel
    have bad : (Utf8.decode? (Utf8.encode "data: ".toList ++ [0xFF] ++ [0x0A])).isOk = false := by
      decide +kernel
    cases h : Utf8.decode? (Utf8.encode "data: ".toList ++ [0xFF] ++ [0x0A]) with
    | ok text =>
      rw [h] at bad
      cases bad
    | error fault => exact ⟨fault, .later good (by decide +kernel) (.here h)⟩
  · rintro ⟨reason, same⟩
    have failed : (streamItems oneRead).map Except.isOk = [false] := by decide +kernel
    have said : payloads [Utf8.encode "data: \x7b\x7d".toList] = [['\x7b', '\x7d']] := by
      decide +kernel
    have read : (itemOf ['\x7b', '\x7d']).isOk = true := by decide +kernel
    rw [same, said] at failed
    cases item : itemOf ['\x7b', '\x7d'] with
    | error e =>
      rw [item] at read
      cases read
    | ok chunk =>
      rw [followed_of_ok (by decide) item] at failed
      cases (List.cons.inj failed).1

end Colloquy.Wire
