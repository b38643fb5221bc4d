import HardwareReport.Proofs.Processor.Remembered
import HardwareReport.Proofs.Processor.Watch

/-!
# Processor — a session takes its samples in order

A session whose counters answer from a script takes the samples of the script one after the other,
whatever it is asked in between. How many a question takes is decided by the samples themselves and
by the token of the session, which stays cancelled from the question that cancels it to the one that
replaces it.

What one question does is said by itself, and everything that is said of a whole session follows
from that by going through its draws.

* `Watch.drawn` — a stretch of the script;
* `ProcessorSource.LoadCourse` — the ways in which a load can go;
* `Session.draws` — the questions of a session with the samples that each took;
* `Session.Draw.Sound` — what every question keeps to, `Session.Follows` — what a session keeps to.

Main result: `Session.draws_follow` — the samples taken are those of the script, none of them
skipped and none taken twice; every load is that of the two samples next in turn; and a token that
was cancelled cuts every wait short until there is another.
-/

namespace HardwareReport

/-! ## Stretches of the script -/

namespace Watch

variable (samples : Nat → Answer Ticks)

/-- What happens when `count` samples are taken from number `first` on. -/
def drawn (first count : Nat) : History :=
  (List.range' first count).map fun n => .sampled (samples n)

theorem drawn_add (first m n : Nat) :
    drawn samples first (m + n) = drawn samples first m ++ drawn samples (first + m) n := by
  rw [drawn, drawn, drawn, ← List.map_append, List.range'_append_1]

theorem filterMap_sample?_drawn (first count : Nat) :
    (drawn samples first count).filterMap Event.sample? =
      (List.range' first count).map samples := by
  rw [drawn, List.filterMap_map]
  exact congrFun List.filterMap_eq_map _

@[simp] theorem samplesTaken_append_drawn (history : History) (first count : Nat) :
    samplesTaken (history ++ drawn samples first count) = samplesTaken history + count := by
  have hDrawn : samplesTaken (drawn samples first count) = count := by
    rw [samplesTaken, filterMap_sample?_drawn, List.length_map, List.length_range']
  rw [samplesTaken_append, hDrawn]

/-- A computation that only takes samples, and takes them as they come. -/
def OnlyDraws {α : Type} (x : StateM History α) : Prop :=
  ∀ history, ∃ count,
    (x.run history).2 = history ++ drawn samples (samplesTaken history) count

variable {samples}

theorem OnlyDraws.pure {α : Type} (a : α) : OnlyDraws samples (pure a) :=
  fun history => ⟨0, (List.append_nil history).symm⟩

/-- Of two computations the second goes on where the first ends. -/
theorem OnlyDraws.bind {α β : Type} {x : StateM History α} {f : α → StateM History β}
    (hx : OnlyDraws samples x) (hf : ∀ a, OnlyDraws samples (f a)) :
    OnlyDraws samples (x >>= f) := by
  intro history
  obtain ⟨m, hm⟩ := hx history
  obtain ⟨n, hn⟩ := hf (x.run history).1 (x.run history).2
  refine ⟨m + n, ?_⟩
  rw [run_state_bind, hn, hm, samplesTaken_append_drawn, List.append_assoc, ← drawn_add]

variable (samples)

/-- A sample takes the next answer of the script. -/
theorem run_ticks_drawn (history : History) :
    (scripted samples).ticks.run.run history =
      (samples (samplesTaken history), history ++ drawn samples (samplesTaken history) 1) := rfl

end Watch

/-! ## Loads -/

open Watch

namespace ProcessorSource

variable (samples : Nat → Answer Ticks) (token : Token) (interval : Duration)

/-- The ways in which a load can go that begins with sample number `first` and a token that is
cancelled or not, with what it comes to and the samples it takes. -/
inductive LoadCourse (first : Nat) : Bool → Answer Float32 → List (Answer Ticks) → Prop where
  | firstFailed {cancelled : Bool} {error : HardwareError}
      (sample₀ : samples first = .error error) :
      LoadCourse first cancelled (.error error) [.error error]
  | cutShort {before : Ticks} (sample₀ : samples first = .ok before) :
      LoadCourse first true (.ok 0) [.ok before]
  | secondFailed {before : Ticks} {error : HardwareError} (sample₀ : samples first = .ok before)
      (sample₁ : samples (first + 1) = .error error) :
      LoadCourse first false (.error error) [.ok before, .error error]
  | measured {before now : Ticks} (sample₀ : samples first = .ok before)
      (sample₁ : samples (first + 1) = .ok now) :
      LoadCourse first false (.ok (now.loadSince before)) [.ok before, .ok now]

/-- Every load goes one of these ways, whatever its interval is. -/
theorem loadOver_course (history : History) :
    ∃ answer taken, LoadCourse samples (samplesTaken history) token.cancelled answer taken ∧
      ((scripted samples).loadOver token.steady interval).run.run history =
        (answer, history ++ drawn samples (samplesTaken history) taken.length) ∧
      taken = (List.range' (samplesTaken history) taken.length).map samples := by
  rw [run_loadOver, run_ticks_drawn]
  cases sample₀ : samples (samplesTaken history) with
  | error error =>
    refine ⟨_, _, .firstFailed sample₀, rfl, ?_⟩
    rw [List.length_singleton, List.range'_one, List.map_singleton, sample₀]
  | ok before =>
    -- a token that nobody touches says whether it was cancelled
    have hSleep : ∀ history : History,
        (token.steady.sleep interval : StateM History Bool).run history =
          (token.cancelled, history) := fun _ => rfl
    dsimp only
    rw [hSleep]
    cases token.cancelled with
    | true =>
      refine ⟨_, _, .cutShort sample₀, rfl, ?_⟩
      rw [List.length_singleton, List.range'_one, List.map_singleton, sample₀]
    | false =>
      -- the second sample comes right after the first
      have hPair : (List.range' (samplesTaken history) 2).map samples =
          [.ok before, samples (samplesTaken history + 1)] := by
        rw [List.range'_succ, List.range'_one, List.map_cons, List.map_singleton, sample₀]
      dsimp only
      rw [run_ticks_drawn, samplesTaken_append_drawn, List.append_assoc, ← drawn_add]
      cases sample₁ : samples (samplesTaken history + 1) with
      | error error =>
        refine ⟨_, _, .secondFailed sample₀ sample₁, rfl, ?_⟩
        rw [List.length_cons, List.length_singleton, hPair, sample₁]
      | ok now =>
        refine ⟨_, _, .measured sample₀ sample₁, rfl, ?_⟩
        rw [List.length_cons, List.length_singleton, hPair, sample₁]

end ProcessorSource

/-! ## Watches -/

namespace Watch

variable {samples : Nat → Answer Ticks} {token : Token} {interval : Duration}

theorem onlyDraws_loadOver :
    OnlyDraws samples ((scripted samples).loadOver token.steady interval).run := by
  intro history
  obtain ⟨answer, taken, -, hRun, -⟩ :=
    ProcessorSource.loadOver_course samples token interval history
  exact ⟨taken.length, congrArg Prod.snd hRun⟩

/-- A round of watching asks for nothing but samples. -/
theorem onlyDraws_round :
    OnlyDraws samples (round (scripted samples) token.steady interval) := by
  refine .bind (.pure token.cancelled) fun cancelled => ?_
  cases cancelled with
  | true => exact .pure Round.stopped
  | false =>
    refine onlyDraws_loadOver.bind fun answer => ?_
    cases answer with
    | error error => exact .pure (Round.failed error)
    | ok load =>
      refine .bind (.pure token.cancelled) fun cancelled => ?_
      cases cancelled with
      | true => exact .pure Round.stopped
      | false => exact .pure (Round.written load)

/-- A watch that prints nothing only takes samples. -/
theorem onlyDraws_run (rounds : Nat) :
    OnlyDraws samples (run (scripted samples) token.steady interval (fun _ => pure ()) rounds) := by
  induction rounds with
  | zero => exact .pure _
  | succ rounds ih =>
    refine onlyDraws_round.bind fun result => ?_
    cases result with
    | stopped => exact .pure _
    | failed error => exact .pure _
    | written load => exact .bind (.pure ()) fun _ => ih.bind fun rest => .pure _

end Watch

/-! ## Questions -/

namespace Session

variable (samples : Nat → Answer Ticks)

/-- Whether a question takes samples. -/
def Question.takesSamples : Question → Bool
  | .ticks | .load _ | .loadByDefault | .watch _ => true
  | .identity | .vendor | .name | .identifier | .parts | .cpu64 | .vendorFrequency
  | .forgetVendorFrequency | .describe | .cancel | .newToken | .isCancelled | .sleep _
  | .logicalCount | .loadAverage | .systemLoad => false

/-- The token after a question. -/
def Question.tokenAfter (token : Token) : Question → Token
  | .cancel => token.cancel
  | .newToken => {}
  | .identity | .vendor | .name | .identifier | .parts | .cpu64 | .vendorFrequency
  | .forgetVendorFrequency | .describe | .ticks | .load _ | .loadByDefault | .watch _
  | .isCancelled | .sleep _ | .logicalCount | .loadAverage | .systemLoad => token

/-- The token after several questions. -/
def tokenAfterAll (token : Token) (questions : List Question) : Token :=
  questions.foldl Question.tokenAfter token

variable {samples} {session : Session} {history : History} {question : Question}

/-- Nothing but the questions that are about the token touches it. -/
theorem token_ask :
    (((ask (scripted samples) question).run session).run history).1.2.token =
      question.tokenAfter session.token := by
  cases question <;> rfl

/-- Most questions take no samples. -/
theorem history_ask_of_not_takesSamples (h : question.takesSamples = false) :
    (((ask (scripted samples) question).run session).run history).2 = history := by
  obtain ⟨⟨identity?, hertz?⟩, token⟩ := session
  cases question with
  | ticks | load | loadByDefault | watch => cases h
  | identity | vendor | name | identifier | parts | cpu64 => cases identity? <;> rfl
  | vendorFrequency =>
    cases hertz? with
    | some hertz => rfl
    | none => cases identity? <;> rfl
  | forgetVendorFrequency | describe | cancel | newToken | isCancelled | sleep | logicalCount
  | loadAverage | systemLoad => rfl

/-- A question only takes samples, and takes them as they come. -/
theorem onlyDraws_ask : OnlyDraws samples ((ask (scripted samples) question).run session) := by
  intro history
  -- questions about other things leave the history as it is
  cases hTakes : question.takesSamples with
  | false =>
    refine ⟨0, ?_⟩
    rw [history_ask_of_not_takesSamples hTakes]
    exact (List.append_nil _).symm
  | true =>
    cases question with
    | ticks => exact ⟨1, rfl⟩
    | load interval => exact onlyDraws_loadOver history
    | loadByDefault => exact onlyDraws_loadOver history
    | watch interval => exact onlyDraws_run watchRounds history
    | identity | vendor | name | identifier | parts | cpu64 | vendorFrequency
    | forgetVendorFrequency | describe | cancel | newToken | isCancelled | sleep | logicalCount
    | loadAverage | systemLoad => cases hTakes

/-! ## Draws -/

/-- A question and what came of it. -/
structure Draw where
  question : Question
  reply : Reply
  before : Session
  after : Session
  /-- The count of samples that were taken before the question. -/
  first : Nat
  /-- The samples that were taken for it. -/
  taken : List (Answer Ticks)

variable (samples) in
/-- The draw for one question, with the session and the history after it. -/
def draw (session : Session) (history : History) (question : Question) :
    Draw × Session × History :=
  let result := ((ask (scripted samples) question).run session).run history
  (⟨question, result.1.1, session, result.1.2, samplesTaken history,
    (result.2.drop history.length).filterMap Event.sample?⟩, result.1.2, result.2)

variable (samples) in
/-- The draws for several questions, one after the other. -/
def draws : List Question → Session → History → List Draw
  | [], _, _ => []
  | question :: rest, session, history =>
    (draw samples session history question).1 ::
      draws rest (draw samples session history question).2.1
        (draw samples session history question).2.2

/-- What every question keeps to. -/
structure Draw.Sound (samples : Nat → Answer Ticks) (draw : Draw) : Prop where
  /-- The samples are those that are next in the script. -/
  inOrder : draw.taken = (List.range' draw.first draw.taken.length).map samples
  token : draw.after.token = draw.question.tokenAfter draw.before.token
  idle : draw.question.takesSamples = false → draw.taken = []
  ticks : draw.question = .ticks →
    draw.reply = .ticks (samples draw.first) ∧ draw.taken = [samples draw.first]
  /-- A load goes by the samples and by the token, and not by the interval. -/
  load : ∀ interval, draw.question = .load interval →
    ∃ answer, draw.reply = .load answer ∧
      ProcessorSource.LoadCourse samples draw.first draw.before.token.cancelled answer draw.taken
  /-- A load over the default interval is never cut short. -/
  loadByDefault : draw.question = .loadByDefault →
    ∃ answer, draw.reply = .load answer ∧
      ProcessorSource.LoadCourse samples draw.first false answer draw.taken
  sleep : ∀ interval, draw.question = .sleep interval →
    draw.reply = .flag draw.before.token.cancelled
  isCancelled : draw.question = .isCancelled → draw.reply = .flag draw.before.token.cancelled
  /-- To cancel a token again changes nothing. -/
  cancel : draw.question = .cancel → draw.before.token.cancelled = true → draw.after = draw.before

/-- The samples in a draw are what the history has grown by. -/
theorem draw_eq {reply : Reply} {next : Session} {count : Nat}
    (h : ((ask (scripted samples) question).run session).run history =
      ((reply, next), history ++ drawn samples (samplesTaken history) count)) :
    draw samples session history question =
      (⟨question, reply, session, next, samplesTaken history,
        (List.range' (samplesTaken history) count).map samples⟩, next,
        history ++ drawn samples (samplesTaken history) count) := by
  unfold draw
  rw [h]
  dsimp only
  rw [List.drop_left, filterMap_sample?_drawn]

/-- Whatever is asked, the history grows by the samples in the draw. -/
theorem exists_draw_eq : ∃ reply next count, draw samples session history question =
    (⟨question, reply, session, next, samplesTaken history,
      (List.range' (samplesTaken history) count).map samples⟩, next,
      history ++ drawn samples (samplesTaken history) count) := by
  obtain ⟨count, hCount⟩ : ∃ count,
      (((ask (scripted samples) question).run session).run history).2 =
        history ++ drawn samples (samplesTaken history) count := onlyDraws_ask history
  exact ⟨_, _, count, draw_eq (Prod.ext rfl hCount)⟩

/-- A load draws what it takes. -/
theorem draw_eq_of_load {token : Token} {interval : Duration}
    (h : ((ask (scripted samples) question).run session).run history =
      ((.load (((scripted samples).loadOver token.steady interval).run.run history).1, session),
        (((scripted samples).loadOver token.steady interval).run.run history).2)) :
    ∃ answer, (draw samples session history question).1.reply = .load answer ∧
      ProcessorSource.LoadCourse samples (draw samples session history question).1.first
        token.cancelled answer (draw samples session history question).1.taken := by
  obtain ⟨answer, taken, hCourse, hRun, hTaken⟩ :=
    ProcessorSource.loadOver_course samples token interval history
  rw [hRun] at h
  rw [draw_eq h, ← hTaken]
  exact ⟨answer, rfl, hCourse⟩

/-- Whatever is asked, the samples that are taken are the next ones, questions about other things
take none, and a load follows its course. -/
theorem draw_sound : (draw samples session history question).1.Sound samples := by
  exact {
    inOrder := by
      obtain ⟨reply, next, count, hDraw⟩ : ∃ reply next count,
          draw samples session history question = _ := exists_draw_eq
      rw [hDraw]
      dsimp only
      rw [List.length_map, List.length_range']
    token := token_ask
    idle := by
      intro hTakes
      -- the history has not grown, so nothing was taken
      have hSame : (((ask (scripted samples) question).run session).run history).2 = history :=
        history_ask_of_not_takesSamples hTakes
      unfold draw
      dsimp only
      rw [hSame, List.drop_length]
      rfl
    ticks := by
      rintro rfl
      have hAsk : ((ask (scripted samples) .ticks).run session).run history =
          ((.ticks (samples (samplesTaken history)), session),
            history ++ drawn samples (samplesTaken history) 1) := rfl
      rw [draw_eq hAsk]
      exact ⟨rfl, rfl⟩
    load := by
      rintro interval rfl
      exact draw_eq_of_load (run_ask_load interval)
    loadByDefault := by
      rintro rfl
      exact draw_eq_of_load run_ask_loadByDefault
    sleep := by
      rintro interval rfl
      rfl
    isCancelled := by
      rintro rfl
      rfl
    cancel := by
      rintro rfl hCancelled
      obtain ⟨processor, ⟨cancelled⟩⟩ := session
      obtain rfl : cancelled = true := hCancelled
      rfl }

/-! ## Sessions -/

/-- Every draw begins with the session that the one before it has left, and with the sample that is
next in turn. -/
def Consecutive : Session → Nat → List Draw → Prop
  | _, _, [] => True
  | start, first, draw :: rest =>
    draw.before = start ∧ draw.first = first ∧
      Consecutive draw.after (first + draw.taken.length) rest

variable {start : Session} {first : Nat} {list : List Draw}

/-- The samples of consecutive draws are a stretch of the script. -/
theorem Consecutive.flatMap_taken (h : Consecutive start first list)
    (hSound : ∀ draw ∈ list, draw.Sound samples) :
    list.flatMap (·.taken) =
      (List.range' first (list.flatMap (·.taken)).length).map samples := by
  induction list generalizing start first with
  | nil => rfl
  | cons draw rest ih =>
    obtain ⟨-, rfl, hRest⟩ := h
    -- the rest begins where the first draw ends
    have hFirst := (hSound draw (List.mem_cons_self ..)).inOrder
    have hLater := ih hRest fun draw hMem => hSound draw (List.mem_cons_of_mem _ hMem)
    rw [List.flatMap_cons, List.length_append, ← List.range'_append_1, List.map_append, ← hFirst,
      ← hLater]

/-- A draw begins with the sample that those before it leave next. -/
theorem Consecutive.first_eq (h : Consecutive start first list) {earlier later : List Draw}
    {draw : Draw} (hSplit : list = earlier ++ draw :: later) :
    draw.first = first + (earlier.flatMap (·.taken)).length := by
  induction earlier generalizing start first list with
  | nil =>
    subst hSplit
    exact h.2.1
  | cons other earlier ih =>
    subst hSplit
    rw [ih h.2.2 rfl, List.flatMap_cons, List.length_append, Nat.add_assoc]

/-- And with the token that the questions before it leave. -/
theorem Consecutive.token_eq (h : Consecutive start first list)
    (hSound : ∀ draw ∈ list, draw.Sound samples) {earlier later : List Draw} {draw : Draw}
    (hSplit : list = earlier ++ draw :: later) :
    draw.before.token = tokenAfterAll start.token (earlier.map (·.question)) := by
  induction earlier generalizing start first list with
  | nil =>
    subst hSplit
    rw [h.1]
    rfl
  | cons other earlier ih =>
    subst hSplit
    rw [ih h.2.2 (fun draw hMem => hSound draw (List.mem_cons_of_mem _ hMem)) rfl,
      (hSound other (List.mem_cons_self ..)).token, h.1]
    rfl

/-- A cancelled token stays so as long as there is no other. -/
theorem cancelled_tokenAfterAll {token : Token} {questions : List Question}
    (hToken : token.cancelled = true) (hNone : .newToken ∉ questions) :
    (tokenAfterAll token questions).cancelled = true := by
  induction questions generalizing token with
  | nil => exact hToken
  | cons question rest ih =>
    rw [List.mem_cons, not_or] at hNone
    refine ih ?_ hNone.2
    cases question with
    | newToken => exact absurd rfl hNone.1
    | cancel => rfl
    | identity | vendor | name | identifier | parts | cpu64 | vendorFrequency
    | forgetVendorFrequency | describe | ticks | load | loadByDefault | watch | isCancelled
    | sleep | logicalCount | loadAverage | systemLoad => exact hToken

/-- What a session keeps to. -/
structure Follows (samples : Nat → Answer Ticks) (start : Session) (list : List Draw) : Prop where
  consecutive : Consecutive start 0 list
  sound : ∀ draw ∈ list, draw.Sound samples
  /-- The samples taken are the first of the script, each of them once. -/
  inOrder : list.flatMap (·.taken) =
    (List.range (list.flatMap (·.taken)).length).map samples
  /-- Every question begins with the sample after those that were taken before it. -/
  first : ∀ earlier draw later, list = earlier ++ draw :: later →
    draw.first = (earlier.flatMap (·.taken)).length
  /-- Every question meets the token that the questions before it leave. -/
  token : ∀ earlier draw later, list = earlier ++ draw :: later →
    draw.before.token = tokenAfterAll start.token (earlier.map (·.question))
  /-- Once a token was cancelled, every wait on it is cut short. -/
  waits : ∀ earlier cancel between wait later interval,
    list = earlier ++ cancel :: (between ++ wait :: later) → cancel.question = .cancel →
      .newToken ∉ between.map (·.question) → wait.question = .sleep interval →
        wait.reply = .flag true

/-- Sound draws that are consecutive follow the script. -/
theorem Consecutive.follows (h : Consecutive start 0 list)
    (hSound : ∀ draw ∈ list, draw.Sound samples) : Follows samples start list where
  consecutive := h
  sound := hSound
  inOrder := by
    rw [List.range_eq_range']
    exact h.flatMap_taken hSound
  first earlier draw later hSplit := by rw [h.first_eq hSplit, Nat.zero_add]
  token _ _ _ hSplit := h.token_eq hSound hSplit
  waits earlier cancel between wait later interval hSplit hCancel hNone hWait := by
    have hFurther : list = (earlier ++ cancel :: between) ++ wait :: later := by
      rw [hSplit, List.append_assoc, List.cons_append]
    have hMem : wait ∈ list := by
      rw [hFurther]
      exact List.mem_append_right _ (List.mem_cons_self ..)
    have hToken : wait.before.token =
        tokenAfterAll ((tokenAfterAll start.token (earlier.map (·.question))).cancel)
          (between.map (·.question)) := by
      rw [h.token_eq hSound hFurther, List.map_append, List.map_cons, hCancel]
      exact List.foldl_append
    -- nothing between the two replaces the token
    have hCancelled : wait.before.token.cancelled = true := by
      rw [hToken]
      exact cancelled_tokenAfterAll rfl hNone
    rw [(hSound wait hMem).sleep interval hWait, hCancelled]

theorem questions_draws (questions : List Question) :
    (draws samples questions session history).map (·.question) = questions := by
  induction questions generalizing session history with
  | nil => rfl
  | cons question rest ih => exact congrArg (question :: ·) ih

/-- The replies in the draws are those of the session. -/
theorem replies_draws (questions : List Question) :
    (draws samples questions session history).map (·.reply) =
      (((askAll (scripted samples) questions).run session).run history).1.1 := by
  induction questions generalizing session history with
  | nil => rfl
  | cons question rest ih =>
    unfold draws askAll
    rw [List.map_cons, ih, List.mapM_cons, StateT.run_bind, run_state_bind]
    rfl

theorem sound_draws (questions : List Question) :
    ∀ draw ∈ draws samples questions session history, draw.Sound samples := by
  induction questions generalizing session history with
  | nil => exact fun draw hMem => absurd hMem List.not_mem_nil
  | cons question rest ih => exact List.forall_mem_cons.mpr ⟨draw_sound, ih⟩

/-- What a question takes is what the next one does not find any more. -/
theorem samplesTaken_draw :
    samplesTaken (draw samples session history question).2.2 =
      samplesTaken history + (draw samples session history question).1.taken.length := by
  obtain ⟨reply, next, count, hDraw⟩ : ∃ reply next count,
      draw samples session history question = _ := exists_draw_eq
  rw [hDraw]
  dsimp only
  rw [samplesTaken_append_drawn, List.length_map, List.length_range']

theorem consecutive_draws (questions : List Question) :
    Consecutive session (samplesTaken history) (draws samples questions session history) := by
  induction questions generalizing session history with
  | nil => trivial
  | cons question rest ih =>
    refine ⟨rfl, rfl, ?_⟩
    rw [← samplesTaken_draw]
    exact ih

/-- **Main.** Whatever it is asked, a session takes the samples of its script in order and answers
from those that are next in turn. -/
theorem draws_follow (samples : Nat → Answer Ticks) (start : Session) (questions : List Question) :
    (draws samples questions start []).map (·.question) = questions ∧
      (draws samples questions start []).map (·.reply) =
        (((askAll (scripted samples) questions).run start).run []).1.1 ∧
      Follows samples start (draws samples questions start []) := by
  have hConsecutive : Consecutive start (samplesTaken []) (draws samples questions start []) :=
    consecutive_draws questions
  exact ⟨questions_draws questions, replies_draws questions,
    hConsecutive.follows (sound_draws questions)⟩

end Session

end HardwareReport
