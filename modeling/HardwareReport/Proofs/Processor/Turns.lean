import HardwareReport.Proofs.Processor.Remembered

/-!
# Processor — a session asks for the identity once

The questions of a session are answered one after the other, each from what the questions before it
have left. What one question does is said by itself, and everything that is said of a whole session
follows from that by going through its turns.

* `Session.turns` — the questions of a session with what came of each;
* `Session.Turn.Sound` — what every question keeps to;
* `Session.Remembers` — what a whole session keeps to.

Main result: `Session.turns_remember` — whatever its source answers, a session asks it for the
identity at most once, at the first question that needs it, and answers from that alone.
-/

namespace HardwareReport.Session

variable {σ : Type} (source : ProcessorSource (StateM σ))

/-! ## Turns -/

/-- A question and what came of it. -/
structure Turn where
  question : Question
  reply : Reply
  /-- What was remembered before the question. -/
  before : Processor
  /-- What was remembered after it. -/
  after : Processor
  /-- The identities that the source was asked for meanwhile. -/
  asked : Log

/-- The turn for one question, with the session and the machine after it. -/
def turn (session : Session) (s : σ) (question : Question) : Turn × Session × σ :=
  let result := ((ask source.logged question).run session).run (s, [])
  (⟨question, result.1.1, session.processor, result.1.2.processor, result.2.2⟩, result.1.2,
    result.2.1)

/-- The turns for several questions, one after the other. -/
def turns : List Question → Session → σ → List Turn
  | [], _, _ => []
  | question :: rest, session, s =>
    (turn source session s question).1 ::
      turns rest (turn source session s question).2.1 (turn source session s question).2.2

/-! ## One question -/

/-- What every question keeps to. -/
structure Turn.Sound (turn : Turn) : Prop where
  /-- The source is asked only if the identity is needed and not known. -/
  asks : turn.asked ≠ [] ↔ turn.before.identity = none ∧ turn.question.needsIdentity = true
  /-- And then once. -/
  once : turn.asked.length ≤ 1
  /-- What was known stays so, and what the source gave is known from then on. -/
  learns : turn.after.identity = turn.before.identity.or (turn.asked.head?.map Identity.ofAnswer)
  /-- A question about the identity is answered from the one that is remembered after it. -/
  answers : turn.question.needsIdentity = true →
    ∃ identity, turn.after.identity = some identity ∧
      turn.question.replyFrom? identity = some turn.reply
  /-- Any other question leaves what is remembered alone, but for a frequency to be forgotten. -/
  keeps : turn.question.needsIdentity = false →
    turn.after =
      if turn.question = .forgetVendorFrequency then turn.before.forgetVendorFrequency
      else turn.before
  /-- A developer is shown what is remembered. -/
  describes : turn.question = .describe → turn.reply = .text turn.before.describe
  coupled : turn.after.Coupled

variable {source} {session : Session} {s : σ} {question : Question}

theorem turn_eq {reply : Reply} {next : Session} {t : σ} {asked : Log}
    (h : ((ask source.logged question).run session).run (s, []) = ((reply, next), t, asked)) :
    turn source session s question =
      (⟨question, reply, session.processor, next.processor, asked⟩, next, t) := by
  unfold turn
  rw [h]

/-- Forgetting the frequency keeps a processor coupled, and so does leaving it alone. -/
theorem coupled_forget {processor : Processor} (p : Prop) [Decidable p]
    (h : processor.Coupled) :
    (if p then processor.forgetVendorFrequency else processor).Coupled := by
  by_cases hForget : p
  · rw [if_pos hForget]
    exact .of_none rfl
  · rw [if_neg hForget]
    exact h

/-- Neither touches the identity. -/
theorem identity_forget {processor : Processor} (p : Prop) [Decidable p] :
    (if p then processor.forgetVendorFrequency else processor).identity = processor.identity := by
  by_cases hForget : p
  · rw [if_pos hForget]
    rfl
  · rw [if_neg hForget]

/-- A question that needs no identity is sound. -/
theorem turn_sound_of_unneeded (hNeeds : question.needsIdentity = false)
    (hCoupled : session.processor.Coupled) : (turn source session s question).1.Sound := by
  obtain ⟨reply, next, t, hAsk⟩ :
      ∃ reply next t, ((ask source question).run session).run s = ((reply, next), t) :=
    ⟨_, _, _, rfl⟩
  have hRun : ((ask source.logged question).run session).run (s, []) = ((reply, next), t, []) := by
    rw [run_ask_of_unneeded source hNeeds, hAsk]
  -- nothing is asked of the source, and nothing is learnt or forgotten of the identity
  have hKeeps : (((ask source question).run session).run s).1.2.processor =
      if question = .forgetVendorFrequency then session.processor.forgetVendorFrequency
      else session.processor := processor_ask_of_unneeded source hNeeds
  rw [hAsk] at hKeeps
  rw [turn_eq hRun]
  exact {
    asks := by simp [hNeeds]
    once := Nat.zero_le 1
    learns := by
      show next.processor.identity = session.processor.identity.or none
      rw [hKeeps, identity_forget, Option.or_none]
    answers := fun h => absurd (hNeeds.symm.trans h) Bool.false_ne_true
    keeps := fun _ => hKeeps
    describes := by
      rintro rfl
      exact (congrArg (fun result => result.1.1) hAsk).symm
    coupled := by
      show next.processor.Coupled
      rw [hKeeps]
      exact coupled_forget _ hCoupled }

/-- A question about the identity is sound if it is answered from the one known after it. -/
theorem Turn.Sound.of_needed {turn : Turn} {identity : Identity}
    (hNeeds : turn.question.needsIdentity = true)
    (hAsks : turn.asked ≠ [] ↔ turn.before.identity = none) (hOnce : turn.asked.length ≤ 1)
    (hLearns : turn.before.identity.or (turn.asked.head?.map Identity.ofAnswer) = some identity)
    (hKnown : turn.after.identity = some identity)
    (hReply : turn.question.replyFrom? identity = some turn.reply)
    (hCoupled : turn.after.Coupled) : turn.Sound where
  asks := by
    rw [hAsks]
    exact ⟨fun h => ⟨h, hNeeds⟩, And.left⟩
  once := hOnce
  learns := hKnown.trans hLearns.symm
  answers _ := ⟨identity, hKnown, hReply⟩
  keeps h := absurd (h.symm.trans hNeeds) Bool.false_ne_true
  describes h := by
    rw [h] at hNeeds
    exact absurd hNeeds Bool.false_ne_true
  coupled := hCoupled

/-- A question about a known identity is sound. -/
theorem turn_sound_of_known {identity : Identity} (hNeeds : question.needsIdentity = true)
    (hIdentity : session.processor.identity = some identity)
    (hCoupled : session.processor.Coupled) : (turn source session s question).1.Sound := by
  obtain ⟨reply, processor, hReply, hKnown, hStill, hRun⟩ :=
    run_ask_of_known hNeeds hIdentity hCoupled
  rw [turn_eq (hRun source.logged (s, []))]
  have hLearns : session.processor.identity.or none = some identity := by
    rw [hIdentity, Option.or_none]
  exact .of_needed hNeeds (by simp [hIdentity]) (Nat.zero_le 1) hLearns hKnown hReply hStill

/-- A question about an identity that is not known yet is sound. -/
theorem turn_sound_of_unknown (hNeeds : question.needsIdentity = true)
    (hIdentity : session.processor.identity = none)
    (hCoupled : session.processor.Coupled) : (turn source session s question).1.Sound := by
  obtain ⟨answer, t, hAnswer⟩ : ∃ answer t, source.identity.run.run s = (answer, t) := ⟨_, _, rfl⟩
  -- the log has one entry more, the answer to the question for the identity
  have hLogged : source.logged.identity.run.run (s, []) = (answer, t, [answer]) := by
    show ((source.identity.run.run s).1, (source.identity.run.run s).2,
      [] ++ [(source.identity.run.run s).1]) = _
    rw [hAnswer]
    rfl
  obtain ⟨reply, processor, hReply, hKnown, hStill, hRun⟩ :=
    run_ask_of_unknown hNeeds hIdentity hCoupled answer
  rw [turn_eq (hRun source.logged (s, []) _ hLogged)]
  have hLearns : session.processor.identity.or (some (.ofAnswer answer)) =
      some (.ofAnswer answer) := by
    rw [hIdentity, Option.none_or]
  exact .of_needed hNeeds (by simp [hIdentity]) (Nat.le_refl 1) hLearns hKnown hReply hStill

/-- Every question is sound. -/
theorem turn_sound (hCoupled : session.processor.Coupled) :
    (turn source session s question).1.Sound := by
  cases hNeeds : question.needsIdentity with
  | false => exact turn_sound_of_unneeded hNeeds hCoupled
  | true =>
    cases hIdentity : session.processor.identity with
    | none => exact turn_sound_of_unknown hNeeds hIdentity hCoupled
    | some identity => exact turn_sound_of_known hNeeds hIdentity hCoupled

/-! ## Without the log -/

/-- The log changes neither the reply nor what comes after it. -/
theorem run_ask_logged (hCoupled : session.processor.Coupled) :
    ∃ reply next t asked, ((ask source question).run session).run s = ((reply, next), t) ∧
      ((ask source.logged question).run session).run (s, []) = ((reply, next), t, asked) := by
  cases hNeeds : question.needsIdentity with
  | false => exact ⟨_, _, _, _, rfl, run_ask_of_unneeded source hNeeds⟩
  | true =>
    cases hIdentity : session.processor.identity with
    | some identity =>
      obtain ⟨reply, processor, -, -, -, hRun⟩ := run_ask_of_known hNeeds hIdentity hCoupled
      exact ⟨_, _, _, _, hRun source s, hRun source.logged (s, [])⟩
    | none =>
      obtain ⟨reply, processor, -, -, -, hRun⟩ :=
        run_ask_of_unknown hNeeds hIdentity hCoupled (source.identity.run.run s).1
      exact ⟨_, _, _, _, hRun source s _ rfl, hRun source.logged (s, []) _ rfl⟩

/-- The replies of the turns are those of the session. -/
theorem replies_turns {questions : List Question} (hCoupled : session.processor.Coupled) :
    (turns source questions session s).map (·.reply) =
      (((askAll source questions).run session).run s).1.1 := by
  induction questions generalizing session s with
  | nil => rfl
  | cons question rest ih =>
    -- a log changes neither reply nor state
    obtain ⟨reply, next, t, asked, hAsk, hLogged⟩ :
        ∃ reply next t asked, ((ask source question).run session).run s = ((reply, next), t) ∧
          ((ask source.logged question).run session).run (s, []) = ((reply, next), t, asked) :=
      run_ask_logged hCoupled
    have hTurn := turn_eq hLogged
    have hSound : (turn source session s question).1.Sound := turn_sound hCoupled
    rw [hTurn] at hSound
    unfold turns askAll
    rw [hTurn, List.map_cons, ih hSound.coupled, List.mapM_cons, StateT.run_bind, run_state_bind,
      hAsk]
    rfl

/-! ## Sessions -/

/-- Every turn begins with what the one before it has left. -/
def Linked : Processor → List Turn → Prop
  | _, [] => True
  | start, turn :: rest => turn.before = start ∧ Linked turn.after rest

/-- The identity that a session goes by: the one that was known beforehand, or else the first that
the source gave. -/
def identity? (start : Processor) (turns : List Turn) : Option Identity :=
  start.identity.or ((turns.flatMap (·.asked)).head?.map Identity.ofAnswer)

/-- What is remembered identifies nobody after a question only if it did not before it and the
question does not need it to. -/
theorem Turn.Sound.identity_eq_none_iff {turn : Turn} (h : turn.Sound) :
    turn.after.identity = none ↔
      turn.before.identity = none ∧ turn.question.needsIdentity = false := by
  cases hNeeds : turn.question.needsIdentity with
  | false =>
    rw [h.keeps hNeeds, identity_forget]
    simp
  | true =>
    obtain ⟨identity, hIdentity, -⟩ := h.answers hNeeds
    rw [hIdentity]
    simp

variable {start : Processor} {list : List Turn}

/-- The source is asked at the first question that needs the identity, if it is not known. -/
theorem Linked.asks_iff (hLinked : Linked start list) (hSound : ∀ turn ∈ list, turn.Sound)
    {earlier later : List Turn} {turn : Turn} (hSplit : list = earlier ++ turn :: later) :
    turn.asked ≠ [] ↔
      start.identity = none ∧ turn.question.needsIdentity = true ∧
        ∀ other ∈ earlier, other.question.needsIdentity = false := by
  induction earlier generalizing start list with
  | nil =>
    subst hSplit
    rw [(hSound turn (List.mem_cons_self ..)).asks, hLinked.1]
    simp
  | cons first earlier ih =>
    subst hSplit
    -- the identity is not known after `first` if it was not before and `first` did not need it
    have hFirst := (hSound first (List.mem_cons_self ..)).identity_eq_none_iff
    rw [hLinked.1] at hFirst
    have hRest := ih hLinked.2 (fun turn hMem => hSound turn (List.mem_cons_of_mem _ hMem)) rfl
    rw [hRest, hFirst, List.forall_mem_cons]
    constructor
    · rintro ⟨⟨hStart, hNot⟩, hNeeds, hEarlier⟩
      exact ⟨hStart, hNeeds, hNot, hEarlier⟩
    · rintro ⟨hStart, hNeeds, hNot, hEarlier⟩
      exact ⟨⟨hStart, hNot⟩, hNeeds, hEarlier⟩

/-- A session asks nothing if the identity is known. -/
theorem Linked.flatMap_asked_of_ne_none (hLinked : Linked start list)
    (hSound : ∀ turn ∈ list, turn.Sound) (hStart : start.identity ≠ none) :
    list.flatMap (·.asked) = [] := by
  rw [List.flatMap_eq_nil_iff]
  intro turn hMem
  obtain ⟨earlier, later, hSplit⟩ := List.append_of_mem hMem
  by_cases hAsked : turn.asked = []
  · exact hAsked
  · exact absurd ((hLinked.asks_iff hSound hSplit).mp hAsked).1 hStart

/-- A session asks for the identity at most once. -/
theorem Linked.length_flatMap_asked_le (hLinked : Linked start list)
    (hSound : ∀ turn ∈ list, turn.Sound) : (list.flatMap (·.asked)).length ≤ 1 := by
  induction list generalizing start with
  | nil => exact Nat.zero_le 1
  | cons first rest ih =>
    have hFirst := hSound first (List.mem_cons_self ..)
    have hRest : ∀ turn ∈ rest, turn.Sound := fun turn hMem =>
      hSound turn (List.mem_cons_of_mem _ hMem)
    rw [List.flatMap_cons, List.length_append]
    by_cases hAsked : first.asked = []
    · rw [hAsked, List.length_nil, Nat.zero_add]
      exact ih hLinked.2 hRest
    · -- asked here, the source is not asked again
      have hKnown : first.after.identity ≠ none := by
        rw [Ne, hFirst.identity_eq_none_iff]
        rintro ⟨-, hNeeds⟩
        rw [(hFirst.asks.mp hAsked).2] at hNeeds
        exact absurd hNeeds (by simp)
      rw [hLinked.2.flatMap_asked_of_ne_none hRest hKnown]
      exact hFirst.once

/-- After the first question a session goes by the same identity. -/
theorem Linked.identity?_cons {first : Turn} {rest : List Turn}
    (hLinked : Linked start (first :: rest)) (hFirst : first.Sound) :
    identity? start (first :: rest) = identity? first.after rest := by
  -- what `first` learned is the first identity that the source gave in all
  unfold identity?
  rw [hFirst.learns, hLinked.1, List.flatMap_cons, List.head?_append, Option.map_or,
    Option.or_assoc]

/-- Whatever identity is remembered anywhere in a session is the one that it goes by. -/
theorem Linked.identity?_eq (hLinked : Linked start list) (hSound : ∀ turn ∈ list, turn.Sound)
    {turn : Turn} (hMem : turn ∈ list) {identity : Identity}
    (hIdentity : turn.after.identity = some identity) : identity? start list = some identity := by
  induction list generalizing start with
  | nil => exact absurd hMem List.not_mem_nil
  | cons first rest ih =>
    rw [hLinked.identity?_cons (hSound first (List.mem_cons_self ..))]
    rcases List.mem_cons.mp hMem with rfl | hLater
    · unfold identity?
      rw [hIdentity, Option.some_or]
    · exact ih hLinked.2 (fun turn hMem => hSound turn (List.mem_cons_of_mem _ hMem)) hLater

/-- What a session keeps to that begins with a coupled processor. -/
structure Remembers (start : Processor) (list : List Turn) : Prop where
  linked : Linked start list
  sound : ∀ turn ∈ list, turn.Sound
  /-- The source is asked at the first question that needs the identity, and never if that was
  known beforehand. -/
  asks : ∀ earlier turn later, list = earlier ++ turn :: later →
    (turn.asked ≠ [] ↔
      start.identity = none ∧ turn.question.needsIdentity = true ∧
        ∀ other ∈ earlier, other.question.needsIdentity = false)
  once : (list.flatMap (·.asked)).length ≤ 1
  /-- Every question about the identity is answered from the one that the session goes by. -/
  answers : ∀ turn ∈ list, turn.question.needsIdentity = true →
    ∃ identity, identity? start list = some identity ∧
      turn.question.replyFrom? identity = some turn.reply
  /-- No other identity is ever remembered. -/
  caches : ∀ turn ∈ list, ∀ identity, turn.after.identity = some identity →
    identity? start list = some identity

/-- Sound turns that are linked make a session that remembers. -/
theorem Linked.remembers (hLinked : Linked start list) (hSound : ∀ turn ∈ list, turn.Sound) :
    Remembers start list where
  linked := hLinked
  sound := hSound
  asks _ _ _ hSplit := hLinked.asks_iff hSound hSplit
  once := hLinked.length_flatMap_asked_le hSound
  answers turn hMem hNeeds := by
    obtain ⟨identity, hIdentity, hReply⟩ := (hSound turn hMem).answers hNeeds
    exact ⟨identity, hLinked.identity?_eq hSound hMem hIdentity, hReply⟩
  caches _ hMem _ hIdentity := hLinked.identity?_eq hSound hMem hIdentity

theorem linked_turns (questions : List Question) (session : Session) (s : σ) :
    Linked session.processor (turns source questions session s) := by
  induction questions generalizing session s with
  | nil => trivial
  | cons question rest ih => exact ⟨rfl, ih ..⟩

theorem questions_turns (questions : List Question) :
    (turns source questions session s).map (·.question) = questions := by
  induction questions generalizing session s with
  | nil => rfl
  | cons question rest ih => exact congrArg (question :: ·) ih

/-- All turns of a session are sound that begins with a coupled processor. -/
theorem sound_turns {questions : List Question} (hCoupled : session.processor.Coupled) :
    ∀ turn ∈ turns source questions session s, turn.Sound := by
  induction questions generalizing session s with
  | nil => exact fun turn hMem => absurd hMem List.not_mem_nil
  | cons question rest ih =>
    have hFirst : (turn source session s question).1.Sound := turn_sound hCoupled
    exact List.forall_mem_cons.mpr ⟨hFirst, ih hFirst.coupled⟩

/-- **Main.** Whether its processor is new or made with a known identity, a session asks the source
for the identity at most once, answers everything about it from that one answer, and remembers
nothing else. -/
theorem turns_remember (source : ProcessorSource (StateM σ)) (known? : Option Identity)
    (token : Token) (questions : List Question) (s : σ) :
    (turns source questions ⟨{ identity := known? }, token⟩ s).map (·.question) = questions ∧
      (turns source questions ⟨{ identity := known? }, token⟩ s).map (·.reply) =
        (((askAll source questions).run ⟨{ identity := known? }, token⟩).run s).1.1 ∧
      Remembers { identity := known? }
        (turns source questions ⟨{ identity := known? }, token⟩ s) := by
  have hCoupled : ({ identity := known? } : Processor).Coupled := .of_none rfl
  have hLinked : Linked { identity := known? }
      (turns source questions ⟨{ identity := known? }, token⟩ s) :=
    linked_turns questions ⟨{ identity := known? }, token⟩ s
  exact ⟨questions_turns questions, replies_turns hCoupled,
    hLinked.remembers (sound_turns hCoupled)⟩

end HardwareReport.Session
