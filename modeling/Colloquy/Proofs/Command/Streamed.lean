import Colloquy.Command.Run
import Colloquy.Http.Offline
import Colloquy.Proofs.Chat.Reassembly
import Colloquy.Proofs.Output.Extract
import Colloquy.Settings.Blame

/-! # What a streamed run shows

A single turn is shown while it is generated: the text of the first choice, and at the end its
structured answer if there was no text.  The main statement is `streamedRun_shows`: an answer that
was taken from the text is always shown, and one that was taken from a call only if there was no
text beside it or the text repeats it. -/

namespace Colloquy

open StreamChunk (sharesOf)
open StreamChoice (textOf refusalOf)

/-! ## The first choice -/

/-- If anything is said of the index zero, the first thing is. -/
theorem ByIndex.InOrder.first {γ : Type} {mentioned : UInt32 → Prop} {said : UInt32 → γ → Prop}
    {y : γ} {ys : List γ} (h : InOrder mentioned said (y :: ys)) (zero : mentioned 0) :
    said 0 y := by
  obtain ⟨js, ascending, indices, each⟩ := h
  cases each with
  | @cons j _ js _ here _ =>
    rcases List.mem_cons.mp ((indices 0).mpr zero) with rfl | later
    · exact here
    · exact absurd ((List.pairwise_cons.mp ascending).1 0 later) UInt32.not_lt_zero

/-- The text of a choice is the one that was streamed. -/
theorem Choice.MadeOf.text {shares : List StreamChoice} {c : Choice} (h : c.MadeOf shares) :
    c.message.text = textOf shares := by
  have refused : (if refusalOf shares = "" then [] else
      [ContentPart.refusal (refusalOf shares)]).filterMap ContentPart.text? = [] := by
    split <;> rfl
  rw [Message.text, h.content, List.filterMap_append, refused, List.append_nil]
  split
  · next empty =>
    rw [empty]
    rfl
  · simp [ContentPart.text?]

/-- **What `Client.chatStream` accepts** is what `Client.receive` accepts of some response. -/
theorem Client.receive_of_chatStream {σ : Type} {p : Provider σ} {request : ChatRequest}
    {world world' : σ} {chunks : List StreamChunk} {response : ChatResponse}
    (done : chatStream p request world = ((chunks, .ok response), world')) :
    ∃ original, (PartialResponse.ofChunks chunks).finish = .ok original ∧
      receive request.responseFormat (.ok original) = .ok response := by
  rw [chatStream] at done
  split at done
  · cases done
  · next items _ _ =>
    obtain ⟨same, -⟩ := Prod.mk.inj done
    obtain ⟨rfl, assembled⟩ := Prod.mk.inj same
    rw [assemble] at assembled
    split at assembled
    · cases assembled
    · next chunks whole =>
      rw [whole]
      split at assembled
      · cases assembled
      · next original finished => exact ⟨original, finished, assembled⟩

namespace Command

/-- The text that `deltaText` shows is that of the first choice. -/
theorem join_deltaText (chunks : List StreamChunk) :
    String.join (chunks.map deltaText) = textOf (sharesOf 0 chunks) := by
  have given : ∀ shares : List StreamChoice,
      String.join (shares.filterMap fun c => c.delta.content) = textOf shares := by
    intro shares
    induction shares with
    | nil => rfl
    | cons c shares ih =>
      rw [textOf, List.map_cons, String.join_cons, ← textOf, ← ih, List.filterMap_cons]
      cases c.delta.content with
      | none => simp
      | some text => simp
  induction chunks with
  | nil => rfl
  | cons chunk chunks ih =>
    rw [List.map_cons, String.join_cons, ih, deltaText, given, sharesOf, sharesOf,
      List.flatMap_cons, List.filter_append, textOf, textOf, textOf, List.map_append,
      String.join_append]

/-- Whether an answer of a format is shown as it should be, of the choices in some chunks. -/
structure Shows (f : ResponseFormat) (chunks : List StreamChunk) (answer shown : String) : Prop where
  /-- The text of the first choice is shown, or else the answer, on a line. -/
  whole : shown = (if textOf (sharesOf 0 chunks) = "" then answer
    else textOf (sharesOf 0 chunks)) ++ "\n"
  /-- The answer is part of it, unless it comes from a call and there is a text that does not repeat
  it. -/
  contains : answer.toList <:+: shown.toList ↔ (f.mode = .tool → textOf (sharesOf 0 chunks) ≠ "" →
    answer.toList <:+: (textOf (sharesOf 0 chunks)).toList)

/-- A text that does not end with a line break is part of a line only without its break. -/
theorem infix_line {s : List Char} {t : String} {c : Char} (last : s.getLast? = some c)
    (other : c ≠ '\n') : s <:+: (t ++ "\n").toList ↔ s <:+: t.toList := by
  have line : (t ++ "\n").toList = t.toList ++ ['\n'] := String.toList_append
  rw [line, List.infix_concat_iff]
  refine or_iff_right ?_
  rintro ⟨before, same⟩
  obtain ⟨front, rfl⟩ := List.getLast?_eq_some_iff.mp last
  rw [← List.append_assoc] at same
  exact other (List.singleton_inj.mp (List.append_inj_right' same rfl))

/-- An answer that was taken from a call is an object, so it ends with a brace. -/
theorem getLast?_of_extracted {f : ResponseFormat} {m m' : Message} {answer : String}
    (h : f.Extracted m m' (some answer)) (mode : f.mode = .tool) :
    answer.toList.getLast? = some '\x7d' := by
  cases h with
  | @tool call _ _ _ _ =>
    rw [ToolCall.argumentText, Json.compact, String.toList_ofList, Json.print, ← List.cons_append,
      List.getLast?_append]
    rfl
  | native native => exact absurd (native.symm.trans mode) nofun
  | prompted prompted => exact absurd (prompted.symm.trans mode) nofun

/-- An answer that was taken from a text is part of it. -/
theorem infix_text_of_extracted {f : ResponseFormat} {m m' : Message} {answer : String}
    (h : f.Extracted m m' (some answer)) (mode : f.mode ≠ .tool) :
    answer.toList <:+: m.text.toList := by
  cases h with
  | native _ _ whole _ =>
    rw [whole]
    exact Text.infix_trim _
  | prompted _ _ found _ => exact (Output.locate_sound found).1.trans (Text.infix_trim _)
  | tool tool => exact absurd tool mode

/-- **`turnText` shows an answer as it should.** -/
theorem shows_turnText {f : ResponseFormat} {chunks : List StreamChunk}
    {original response : ChatResponse} {answer : String}
    (finished : (PartialResponse.ofChunks chunks).finish = .ok original)
    (received : Client.receive (some f) (.ok original) = .ok response)
    (first : response.first?.bind Choice.structuredContent = some answer) :
    Shows f chunks answer (turnText chunks response) := by
  have made := (PartialResponse.finish_reassembled chunks).1.made original finished
  obtain ⟨choice, there, content⟩ := Option.bind_eq_some_iff.mp first
  obtain ⟨_, before, same, head, extracted⟩ := Client.receive_first received there
  obtain rfl := Except.ok.inj same
  rw [content] at extracted
  by_cases silent : textOf (sharesOf 0 chunks) = ""
  case pos =>
    have shown : turnText chunks response = answer ++ "\n" := by
      simp only [turnText, join_deltaText, silent, first]
      rfl
    constructor
    case whole => rw [shown, if_pos silent]
    case contains =>
      rw [shown, String.toList_append]
      exact ⟨fun _ _ given => absurd silent given, fun _ => (List.prefix_append _ _).isInfix⟩
  case neg =>
    have shown : turnText chunks response = textOf (sharesOf 0 chunks) ++ "\n" := by
      rw [turnText, join_deltaText]
      exact if_pos silent
    constructor
    case whole => rw [shown, if_neg silent]
    case contains =>
      rw [shown]
      by_cases mode : f.mode = .tool
      · rw [infix_line (getLast?_of_extracted extracted mode) (by decide)]
        exact ⟨fun within _ _ => within, fun within => within mode silent⟩
      · -- There is a text of index zero, so the first choice is the one of that index.
        have mentioned : sharesOf 0 chunks ≠ [] := by
          intro none
          rw [none] at silent
          exact silent rfl
        have text : before.message.text = textOf (sharesOf 0 chunks) := by
          obtain ⟨rest, choices⟩ := List.head?_eq_some_iff.mp head
          have ordered := made.choices
          rw [choices] at ordered
          exact (ordered.first mentioned).2.text
        have within := infix_text_of_extracted extracted mode
        rw [text] at within
        refine ⟨fun _ tool => absurd tool mode, fun _ => ?_⟩
        rw [String.toList_append]
        exact within.trans (List.prefix_append _ _).isInfix

/-! ## Runs -/

/-- `answerFormat` is a format if there is a schema. -/
theorem exists_of_answerFormat {a : RunArguments} {settings : Settings} {files : Files}
    {format : Option ResponseFormat} (schema : a.schema.isSome = true)
    (worked : answerFormat a settings files = .ok format) : ∃ f, format = some f := by
  obtain ⟨path, given⟩ := Option.isSome_iff_exists.mp schema
  rw [answerFormat] at worked
  -- Wherever the mode comes from, what is done with it is the same.
  split at worked
  all_goals
    obtain ⟨mode, -, worked⟩ := Except.bind_eq_ok.mp worked
    simp only [given] at worked
    split at worked
    · cases worked
    · next absent _ => cases absent
    · cases worked
    · obtain ⟨_, -, same⟩ := Except.bind_eq_ok.mp worked
      exact ⟨_, (Except.ok.inj same).symm⟩

/-- The format of `plan` is the `answerFormat` of the arguments. -/
theorem exists_of_plan {σ : Type} {a : RunArguments} {site : Site σ} {known : RunPlan}
    (schema : a.schema.isSome = true) (planned : plan a site = .ok known) :
    ∃ f, known.format = some f := by
  rw [plan] at planned
  obtain ⟨settings, -, planned⟩ := Except.bind_eq_ok.mp planned
  obtain ⟨format, worked, planned⟩ := Except.bind_eq_ok.mp planned
  obtain ⟨registry, -, planned⟩ := Except.bind_eq_ok.mp planned
  obtain ⟨endpoint, -, planned⟩ := Except.bind_eq_ok.mp planned
  obtain rfl := Except.ok.inj planned
  exact exists_of_answerFormat schema worked

/-- `streamTurn` shows the response by `turnText` unless it fails. -/
theorem streamTurn_eq_done {σ : Type} {p : Provider σ} {request : ChatRequest} {world world' : σ}
    {shown : String} : streamTurn p request world = (.done shown, world') ↔
      ∃ chunks response, Client.chatStream p request world = ((chunks, .ok response), world') ∧
        turnText chunks response = shown := by
  rw [streamTurn]
  constructor
  · intro done
    split at done
    · cases congrArg Outcome.failure (Prod.mk.inj done).1
    · next chunks response world'' came =>
      obtain ⟨same, rfl⟩ := Prod.mk.inj done
      exact ⟨chunks, response, came, congrArg Outcome.shown same⟩
  · rintro ⟨chunks, response, came, rfl⟩
    rw [came]

/-- The request for the single turn of a run. -/
def RunPlan.request (known : RunPlan) (prompt : String) : ChatRequest :=
  turnRequest known.model prompt known.settings known.format

/-- **A streamed run shows its answer, unless that comes from a call and there is a text besides.**
A run that does not fail is a turn with the provider that was planned for.  A turn with any provider,
so of any chunks, that does not fail shows what it should of the answer. -/
theorem streamedRun_shows {σ : Type} {a : RunArguments} {site : Site σ} (stream : a.stream = true)
    (schema : a.schema.isSome = true) :
    (∀ world shown world', run a site world = (.done shown, world') → ∃ known,
      plan a site = .ok known ∧ streamTurn (known.endpoint.provider site.transport)
        (known.request a.prompt) world = (.done shown, world')) ∧
    ∀ known, plan a site = .ok known → ∃ f, known.format = some f ∧
      ∀ (p : Provider σ) world shown world',
        streamTurn p (known.request a.prompt) world = (.done shown, world') →
        ∃ chunks response,
          Client.chatStream p (known.request a.prompt) world = ((chunks, .ok response), world') ∧
          ∀ answer, response.first?.bind Choice.structuredContent = some answer →
            Shows f chunks answer shown := by
  constructor
  · intro world shown world' done
    rw [run] at done
    split at done
    · cases congrArg Outcome.failure (Prod.mk.inj done).1
    · next known planned =>
      rw [if_pos stream] at done
      exact ⟨known, planned, done⟩
  · intro known planned
    obtain ⟨f, format⟩ := exists_of_plan schema planned
    refine ⟨f, format, fun p world shown world' done => ?_⟩
    obtain ⟨chunks, response, came, rfl⟩ := streamTurn_eq_done.mp done
    refine ⟨chunks, response, came, fun answer first => ?_⟩
    obtain ⟨original, finished, received⟩ := Client.receive_of_chatStream came
    rw [RunPlan.request, turnRequest, format] at received
    exact shows_turnText finished received first

/-- The structured answer that a streamed run gets. -/
def answer? {σ : Type} (a : RunArguments) (site : Site σ) (world : σ) : Option String :=
  (plan a site).toOption.bind fun known =>
    (Client.chatStream (known.endpoint.provider site.transport) (known.request a.prompt)
        world).1.2.toOption.bind fun response =>
      response.first?.bind Choice.structuredContent

/-- The command line `run q --stream --mode tool --schema s.json`. -/
def toolMode : RunArguments := ⟨"q", none, some "tool", some "s.json", true, none, none, false⟩

/-- The stream of a text and a call of the output tool, in two chunks. -/
def prefaced : List String :=
  ["data: \x7b\"choices\":[\x7b\"index\":0,\"delta\":\x7b\"content\":\"Sure: \"\x7d\x7d]\x7d\n\n",
    "data: \x7b\"choices\":[\x7b\"index\":0,\"delta\":\x7b\"tool_calls\":[\x7b\"index\":0," ++
      "\"function\":\x7b\"name\":\"_output\",\"arguments\":\"\x7b\\\"answer\\\":42\x7d\"\x7d\x7d]\x7d\x7d]\x7d\n\n",
    "data: [DONE]\n\n"]

/-- A site with a schema that allows everything, where each reply is that stream. -/
def talkative : Site Unit where
  home := "/home"
  env _ := none
  files := ⟨"/home", [(["home", "s.json"], Utf8.encode ['\x7b', '\x7d'])]⟩
  transport := .always (.reply ⟨200, [], ⟨prefaced.map fun s => Utf8.encode s.toList, none⟩⟩)
  wording := Settings.wording
  orders := .sorted
  runId := "r"

/-- The text is shown there, and the answer is in the call. -/
theorem run_talkative : run toolMode talkative () = (.done "Sure: \n", ()) ∧
    answer? toolMode talkative () = some "\x7b\"answer\":42\x7d" := by
  decide +kernel

/-- The run shows what it should. -/
theorem streamedRun_shows_talkative :
    (toolMode.stream = true ∧ toolMode.schema.isSome = true ∧
        run toolMode talkative () = (.done "Sure: \n", ())) ∧
      ∃ known f chunks, plan toolMode talkative = .ok known ∧ known.format = some f ∧
        Shows f chunks "\x7b\"answer\":42\x7d" "Sure: \n" := by
  obtain ⟨ran, got⟩ := run_talkative
  obtain ⟨turns, shows⟩ := @streamedRun_shows Unit toolMode talkative rfl rfl
  obtain ⟨known, planned, turned⟩ := turns _ _ _ ran
  obtain ⟨f, format, each⟩ := shows known planned
  obtain ⟨chunks, response, came, answered⟩ := each _ _ _ _ turned
  rw [answer?, planned] at got
  obtain ⟨_, there, got⟩ := Option.bind_eq_some_iff.mp got
  obtain rfl := Option.some.inj there
  rw [came] at got
  exact ⟨⟨rfl, rfl, ran⟩, known, f, chunks, planned, format, answered _ got⟩

/-- The answer is not part of it. -/
theorem streamedRun_withholds :
    (run toolMode talkative ()).1 = .done "Sure: \n" ∧
      answer? toolMode talkative () = some "\x7b\"answer\":42\x7d" ∧
      ¬ "\x7b\"answer\":42\x7d".toList <:+: "Sure: \n".toList :=
  ⟨congrArg Prod.fst run_talkative.1, run_talkative.2, by decide +kernel⟩

end Command

end Colloquy
