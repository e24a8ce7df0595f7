import Colloquy.Proofs.Http.Retry
import Colloquy.Proofs.Text.Utf8
import Colloquy.Wire.Endpoint

/-! # Sending a body

What one attempt to send a body comes to, and what a run of attempts does.  `Asks` says how long a
provider at its limit asks to wait, `Answers` how a reply is judged, `Endpoint.Posts` what the
request is, and `Endpoint.Tries` what an attempt does.  The main statement is `Endpoint.post_keeps`:
every attempt sends the same body to the same address, and the run keeps to the endpoint's
policy. -/

namespace Colloquy

namespace Wire

/-! ## Waits that a provider asks for -/

/-- Whether a text is a number of 64 bits in digits, after a plus sign or none. -/
def SpellsSeconds (s : List Char) (n : UInt64) : Prop :=
  ∃ sign digits, s = sign ++ digits ∧ (sign = [] ∨ sign = ['+']) ∧ digits ≠ [] ∧
    (∀ c ∈ digits, c.isDigit = true) ∧ Nat.ofDigitChars 10 digits 0 = n.toNat

/-- `readSeconds? s` is the number of 64 bits that `s` spells. -/
theorem Endpoint.readSeconds?_eq_some {s : List Char} {n : UInt64} :
    readSeconds? s = some n ↔ SpellsSeconds s n := by
  have value : ∀ digits : List Char,
      digits.foldl (fun n c => n * 10 + (c.toNat - 48)) 0 = Nat.ofDigitChars 10 digits 0 := by
    intro digits
    simp only [Nat.ofDigitChars, Nat.mul_comm]
    rfl
  have word : ∀ m : Nat, (m < 18446744073709551616 ∧ UInt64.ofNat m = n) ↔ m = n.toNat := by
    intro m
    constructor
    · rintro ⟨fits, rfl⟩
      exact (UInt64.toNat_ofNat_of_lt' fits).symm
    · rintro rfl
      exact ⟨n.toNat_lt, UInt64.ofNat_toNat⟩
  have accepted : ∀ digits : List Char,
      (if digits.isEmpty || !digits.all Char.isDigit ||
          18446744073709551616 ≤ Nat.ofDigitChars 10 digits 0 then none
        else some (UInt64.ofNat (Nat.ofDigitChars 10 digits 0))) = some n ↔
      digits ≠ [] ∧ (∀ c ∈ digits, c.isDigit = true) ∧
        Nat.ofDigitChars 10 digits 0 = n.toNat := by
    intro digits
    rw [Option.ite_none_left_eq_some, ← word]
    simp only [Bool.or_eq_true, List.isEmpty_iff, Bool.not_eq_true', ← Bool.not_eq_true,
      List.all_eq_true, decide_eq_true_eq, not_or, Decidable.not_not, Option.some.injEq, Nat.not_le,
      and_assoc]
  rw [readSeconds?]
  simp only [value, accepted]
  split
  · next signed =>
    obtain ⟨c, digits, rfl⟩ : ∃ c digits, s = c :: digits := by
      cases s with
      | nil => cases signed
      | cons c digits => exact ⟨c, digits, rfl⟩
    obtain rfl := Option.some.inj signed
    -- A plus sign is no digit, so the text cannot be spelled without a sign.
    constructor
    · intro rest
      exact ⟨['+'], digits, rfl, .inr rfl, rest⟩
    · rintro ⟨sign, digits', same, rfl | rfl, some, each, number⟩
      · obtain rfl : '+' :: digits = digits' := same
        cases each '+' List.mem_cons_self
      · obtain ⟨-, rfl⟩ := List.cons.inj same
        exact ⟨some, each, number⟩
  · next unsigned =>
    constructor
    · intro rest
      exact ⟨[], s, rfl, .inl rfl, rest⟩
    · rintro ⟨sign, digits, rfl, rfl | rfl, rest⟩
      · exact rest
      · cases unsigned rfl

/-- How many seconds a provider at its limit asks to wait. -/
inductive Asks (headers : List (String × String)) : UInt64 → Prop where
  /-- It names them in a header field of readable text, maybe with blanks around. -/
  | named {value : String} {n : UInt64} (field : headers.lookup "retry-after" = some value)
    (visible : ∀ c ∈ value.toList, 0x20 ≤ c.toNat ∧ c.toNat < 0x7F ∨ c = '\t')
    (spelled : SpellsSeconds (Text.trim value.toList) n) : Asks headers n
  /-- There is no such field, or nothing that can be read in it. -/
  | unnamed (unread : ∀ value, headers.lookup "retry-after" = some value →
      (∀ c ∈ value.toList, 0x20 ≤ c.toNat ∧ c.toNat < 0x7F ∨ c = '\t') →
      ∀ n, ¬ SpellsSeconds (Text.trim value.toList) n) : Asks headers 5

/-- **`retryAfter headers` are the seconds that `headers` ask for.** -/
theorem Endpoint.asks_retryAfter (headers : List (String × String)) :
    Asks headers (retryAfter headers) := by
  have visible : ∀ value : String, isVisible value = true ↔
      ∀ c ∈ value.toList, 0x20 ≤ c.toNat ∧ c.toNat < 0x7F ∨ c = '\t' := by
    intro value
    simp [isVisible]
  rw [retryAfter]
  cases field : headers.lookup "retry-after" with
  | none =>
    refine .unnamed fun value there => ?_
    cases field.symm.trans there
  | some value =>
    simp only
    split
    · next seen =>
      cases number : readSeconds? (Text.trim value.toList) with
      | none =>
        refine .unnamed fun value' there _ n spelled => ?_
        obtain rfl := Option.some.inj (field.symm.trans there)
        cases number.symm.trans (readSeconds?_eq_some.mpr spelled)
      | some n => exact .named field ((visible value).mp seen) (readSeconds?_eq_some.mp number)
    · next unseen =>
      refine .unnamed fun value' there seen => ?_
      obtain rfl := Option.some.inj (field.symm.trans there)
      exact absurd ((visible value).mpr seen) unseen

/-! ## Replies -/

/-- What comes of a reply, by its status. -/
inductive Answers (r : Http.Reply) : Except ProviderError Http.Reply → Prop where
  /-- A success. -/
  | success (least : 200 ≤ r.status.toNat) (most : r.status.toNat < 300) : Answers r (.ok r)
  /-- The provider is at its limit. -/
  | limited {secs : UInt64} (status : r.status.toNat = 429) (asks : Asks r.headers secs) :
    Answers r (.error (.rateLimited secs))
  /-- The provider does not accept the key. -/
  | denied (status : r.status.toNat = 401 ∨ r.status.toNat = 403) :
    Answers r (.error (.authenticationFailed "Invalid API key or insufficient permissions"))
  /-- Any other failure, with the body as its text. -/
  | failed (failure : r.status.toNat < 200 ∨ 300 ≤ r.status.toNat)
    (others : r.status.toNat ≠ 429 ∧ r.status.toNat ≠ 401 ∧ r.status.toNat ≠ 403) :
    Answers r (.error (.api r.status (Endpoint.failureText r.body)))

/-- **`judge` answers a reply by its status.** -/
theorem Endpoint.answers_judge (r : Http.Reply) : Answers r (judge r) := by
  have status : ∀ n : UInt16, r.status = n ↔ r.status.toNat = n.toNat :=
    fun n => UInt16.toNat_inj.symm
  rw [judge]
  split
  · next limited => exact .limited ((status 429).mp limited) (asks_retryAfter r.headers)
  · next others =>
    split
    · next denied => exact .denied (denied.imp (status 401).mp (status 403).mp)
    · next accepted =>
      obtain ⟨unauthorized, forbidden⟩ := not_or.mp accepted
      split
      · next success =>
        simp only [Http.Reply.isSuccess, Bool.and_eq_true, decide_eq_true_eq] at success
        exact .success (UInt16.le_iff_toNat_le.mp success.1) (UInt16.lt_iff_toNat_lt.mp success.2)
      · next failure =>
        refine .failed ?_ ⟨mt (status 429).mpr others, mt (status 401).mpr unauthorized,
          mt (status 403).mpr forbidden⟩
        simp only [Http.Reply.isSuccess, Bool.and_eq_true, decide_eq_true_eq,
          Decidable.not_and_iff_or_not, UInt16.le_iff_toNat_le, UInt16.lt_iff_toNat_lt, Nat.not_le,
          Nat.not_lt] at failure
        exact failure

/-- **`decodeBody` of a body that is UTF-8 is `Decoder.parse` of its text.** -/
theorem Endpoint.decodeBody_of_decode? {α : Type} (d : Json.Decoder α) {b : Http.Body}
    {bytes : List UInt8} {text : List Char} (whole : b.bytes? = some bytes)
    (decoded : Utf8.decode? bytes = .ok text) : decodeBody d b = (d.parse text).toOption := by
  unfold decodeBody
  rw [whole]
  show (d.parse (Utf8.decodeMarking faultMark bytes)).toOption = _
  rw [Utf8.decodeMarking_of_decode? decoded]

/-- `decodeBody` of a body that broke off is `none`. -/
theorem Endpoint.decodeBody_of_failure {α : Type} (d : Json.Decoder α) {b : Http.Body}
    {reason : String} (broken : b.failure = some reason) : decodeBody d b = none := by
  unfold decodeBody Http.Body.bytes?
  rw [broken]
  rfl

/-! ## Attempts -/

namespace Endpoint

variable {σ : Type}

/-- Whether a request is `POST {baseUrl}/{path}` with a body and nothing but the header fields of
the endpoint. -/
structure Posts (e : Endpoint) (path : String) (body : Json) (stream : Bool)
    (request : Http.Request) : Prop where
  /-- It hands something out. -/
  method : request.method = .post
  /-- It goes to that path below the endpoint's address. -/
  url : request.url = e.baseUrl ++ "/" ++ path
  /-- It carries that body. -/
  body : request.body = some body
  /-- It names the kind of its body, then the key if there is one, then the kind of the reply if
  that is to be a stream, and last the further fields. -/
  headers : request.headers = ("Content-Type", "application/json") ::
    (if e.apiKey = "" then [] else [("Authorization", "Bearer " ++ e.apiKey)]) ++
    (if stream then [("Accept", "text/event-stream")] else []) ++ e.headers
  /-- It is the attempt that ends in time, and not the client. -/
  timeout : request.timeout = none

/-- `postRequest` is the request that carries a body to a path. -/
theorem posts_postRequest (e : Endpoint) (path : String) (body : Json) (stream : Bool) :
    e.Posts path body stream (e.postRequest path body stream) :=
  ⟨rfl, rfl, rfl, rfl, rfl⟩

/-- What an attempt to send a request, in some time, comes to. -/
inductive Tries (t : Http.Transport σ) (request : Http.Request) (timeout : Http.Duration)
    (world : σ) : Except ProviderError Http.Reply → σ → Prop where
  /-- It is sent, and a reply comes. -/
  | replied {reply : Http.Reply} {outcome : Except ProviderError Http.Reply} {world' : σ}
    (sent : t.send request timeout world = (.reply reply, world')) (answers : Answers reply outcome) :
    Tries t request timeout world outcome world'
  /-- The client fails to send it, or to get a reply. -/
  | failed {reason : String} {world' : σ}
    (sent : t.send request timeout world = (.failed reason, world')) :
    Tries t request timeout world (.error (.network reason)) world'
  /-- It is sent, and no reply comes in that time. -/
  | silent {world' : σ} (sent : t.send request timeout world = (.silent, world')) :
    Tries t request timeout world
      (.error (.timeout s!"no response within {timeout.nanos / 1000000000}s")) world'

/-- **`sendOnce` sends the request once.** -/
theorem tries_sendOnce {t : Http.Transport σ} {request : Http.Request} {timeout : Http.Duration}
    {world world' : σ} {outcome : Except ProviderError Http.Reply}
    (came : sendOnce t request timeout world = (outcome, world')) :
    Tries t request timeout world outcome world' := by
  unfold sendOnce at came
  split at came
  · next reply _ sent =>
    obtain ⟨rfl, rfl⟩ := Prod.mk.inj came
    exact .replied sent (answers_judge reply)
  · next reason _ sent =>
    obtain ⟨rfl, rfl⟩ := Prod.mk.inj came
    exact .failed sent
  · next sent =>
    obtain ⟨rfl, rfl⟩ := Prod.mk.inj came
    exact .silent sent

/-! ## Runs -/

/-- **`post` keeps to the endpoint's policy.**  All attempts send one request, the one that carries
the body to the path.  The run is a number of setbacks and an end: what follows an attempt, what
time it has and how long the wait after it is are as the policy says, and so is what comes of the
run.  What it leaves behind is what happened.  It has an outcome unless a time is out of range: the
deadline, and then no attempt is made, or the next wait. -/
theorem post_keeps (e : Endpoint) (t : Http.Transport σ) (path : String) (body : Json)
    (stream : Bool) (world : σ) :
    ∃ request, e.Posts path body stream request ∧
    ∃ start world', t.now world = (start, world') ∧
      ((Http.Instant.limit ≤ start.nanos + e.retry.totalTimeout.nanos ∧
          e.post t path body stream world = ⟨none, [], t.stop world'⟩) ∨
        ∃ deadline : Http.Instant, deadline.nanos = start.nanos + e.retry.totalTimeout.nanos ∧
        ∃ setbacks finish,
          Http.Course t.toClock (Tries t request) world' setbacks finish
            (e.post t path body stream world).world ∧
          e.retry.Keeps deadline 0 setbacks finish (e.post t path body stream world).outcome ∧
          Http.attemptsMade setbacks finish ≤ e.retry.maxRetries.toNat + 1 ∧
          (e.post t path body stream world).events = Http.record setbacks finish ∧
          ((∀ k < e.retry.maxRetries.toNat, e.retry.baseDelay.nanos * min (Nat.pow 2 k) 4294967295 <
              Http.Duration.limit) → (e.post t path body stream world).outcome ≠ none)) := by
  refine ⟨_, e.posts_postRequest path body stream, ?_⟩
  obtain ⟨start, world', looks, ⟨far, stopped⟩ | ⟨deadline, sum, setbacks, finish, course, keeps,
      events⟩⟩ :=
    Http.RetryPolicy.follows_run (tries_sendOnce (t := t)) e.retry world
  · exact ⟨start, world', looks, .inl ⟨far, stopped⟩⟩
  · refine ⟨start, world', looks, .inr ⟨deadline, sum, setbacks, finish, ?_⟩⟩
    exact ⟨course, keeps, keeps.attemptsMade_le, events, keeps.returns⟩

end Endpoint

end Wire

end Colloquy
