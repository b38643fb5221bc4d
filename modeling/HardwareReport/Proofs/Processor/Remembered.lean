import HardwareReport.Processor.Session
import HardwareReport.Proofs.Processor.Logged

/-!
# Processor — what a processor remembers

A processor keeps the identity that its source gave first, and the frequency that the name of that
identity holds, until the frequency is to be forgotten. What is asked of a session either needs the
identity or leaves what is remembered alone.

* `Processor.Coupled` — a frequency is remembered only beside the identity that it comes from;
* `Session.Question.replyFrom?` — what an identity alone decides;
* `Session.run_ask_of_unneeded`, `Session.run_ask_of_known`, `Session.run_ask_of_unknown` — one
  question, by what it needs and what is known.
-/

namespace HardwareReport

variable {σ : Type} (source : ProcessorSource (StateM σ)) (interval : Duration)

/-! ## Caches -/

namespace Processor

/-- A frequency is remembered only beside the identity whose name it is worked out from. -/
def Coupled (processor : Processor) : Prop :=
  ∀ hertz, processor.vendorFrequency = some hertz →
    ∃ identity, processor.identity = some identity ∧ hertz = Frequency.ofName identity.name

/-- A processor without a frequency is coupled. -/
theorem Coupled.of_none {processor : Processor} (h : processor.vendorFrequency = none) :
    processor.Coupled := by
  intro hertz hHertz
  rw [h] at hHertz
  exact absurd hHertz (by simp)

/-- A coupled processor without an identity has no frequency either. -/
theorem Coupled.vendorFrequency_eq_none {processor : Processor} (h : processor.Coupled)
    (hIdentity : processor.identity = none) : processor.vendorFrequency = none := by
  cases hHertz : processor.vendorFrequency with
  | none => rfl
  | some hertz =>
    obtain ⟨identity, hKnown, -⟩ := h hertz hHertz
    rw [hIdentity] at hKnown
    exact absurd hKnown (by simp)

/-- The processor once its identity was read. -/
def learn (processor : Processor) (identity : Identity) : Processor :=
  { processor with identity := some identity }

/-- A processor that learns its identity stays coupled. -/
theorem Coupled.learn {processor : Processor} (h : processor.Coupled)
    (hIdentity : processor.identity = none) (identity : Identity) :
    (processor.learn identity).Coupled :=
  .of_none (h.vendorFrequency_eq_none hIdentity)

variable {processor : Processor} {identity : Identity} {s : σ}

theorem run_askIdentity_of_known (h : processor.identity = some identity) :
    ((askIdentity source).run processor).run s = ((identity, processor), s) := by
  obtain ⟨_, hertz?⟩ := processor
  subst h
  rfl

theorem run_askIdentity_of_unknown (h : processor.identity = none) :
    ((askIdentity source).run processor).run s =
      ((.ofAnswer (source.identity.run.run s).1,
        processor.learn (.ofAnswer (source.identity.run.run s).1)),
        (source.identity.run.run s).2) := by
  obtain ⟨_, hertz?⟩ := processor
  subst h
  show (((source.identityOrUnknown.run s).1, learn _ (source.identityOrUnknown.run s).1),
    (source.identityOrUnknown.run s).2) = _
  rw [ProcessorSource.run_identityOrUnknown]

/-- Without a frequency, the frequency is that of the identity. -/
theorem run_askVendorFrequency_of_none (h : processor.vendorFrequency = none) :
    ((askVendorFrequency source).run processor).run s =
      (((((askIdentity source).run processor).run s).1.1.vendorFrequency,
        { (((askIdentity source).run processor).run s).1.2 with
          vendorFrequency :=
            some (((askIdentity source).run processor).run s).1.1.vendorFrequency }),
        (((askIdentity source).run processor).run s).2) := by
  obtain ⟨identity?, _⟩ := processor
  subst h
  rfl

/-- The frequency of a known identity is that in its name, whether it was remembered or not. -/
theorem run_askVendorFrequency_of_known (h : processor.identity = some identity)
    (hCoupled : processor.Coupled) :
    ((askVendorFrequency source).run processor).run s =
      ((identity.vendorFrequency,
        { processor with vendorFrequency := some identity.vendorFrequency }), s) := by
  cases hHertz : processor.vendorFrequency with
  | none => rw [run_askVendorFrequency_of_none source hHertz, run_askIdentity_of_known source h]
  | some hertz =>
    -- what is remembered is what would be worked out again
    obtain ⟨other, hOther, hEq⟩ := hCoupled hertz hHertz
    obtain rfl : identity = other := Option.some.inj (h ▸ hOther)
    obtain ⟨_, _⟩ := processor
    subst hHertz hEq
    rfl

/-- A frequency is asked of an unknown identity as if that had been read before. -/
theorem run_askVendorFrequency_of_unknown (h : processor.identity = none)
    (hCoupled : processor.Coupled) :
    ((askVendorFrequency source).run processor).run s =
      ((askVendorFrequency source).run
        (processor.learn (.ofAnswer (source.identity.run.run s).1))).run
          (source.identity.run.run s).2 := by
  -- neither before the identity is read nor after it is there a frequency to go by
  have hHertz := hCoupled.vendorFrequency_eq_none h
  have hLearnt : (processor.learn (.ofAnswer (source.identity.run.run s).1)).vendorFrequency =
    none := hHertz
  rw [run_askVendorFrequency_of_none source hHertz, run_askIdentity_of_unknown source h,
    run_askVendorFrequency_of_none source hLearnt, run_askIdentity_of_known source rfl]

end Processor

namespace Session

/-- The reply that an identity alone decides, if the question is about the identity. -/
def Question.replyFrom? (identity : Identity) : Question → Option Reply
  | .identity => some (.identity identity)
  | .vendor => some (.text identity.vendor)
  | .name => some (.text identity.name)
  | .identifier => some (.text identity.identifier)
  | .parts => some (.parts identity.family? identity.model? identity.stepping?)
  | .cpu64 => some (.cpu64 identity.cpu64)
  | .vendorFrequency => some (.frequency (Frequency.ofName identity.name))
  | .forgetVendorFrequency | .describe | .ticks | .load _ | .loadByDefault | .watch _ | .cancel
  | .newToken | .isCancelled | .sleep _ | .logicalCount | .loadAverage | .systemLoad => none

/-- Whether a question cannot be answered without the identity. -/
def Question.needsIdentity (question : Question) : Bool :=
  (question.replyFrom? .unknown).isSome

variable {session : Session} {s : σ} {log : Log} {question : Question} {identity : Identity}

/-! ## Questions that need no identity -/

variable {source} in
theorem run_ask_load :
    ((ask source (.load interval)).run session).run s =
      ((.load ((source.loadOver session.token.steady interval).run.run s).1, session),
        ((source.loadOver session.token.steady interval).run.run s).2) := rfl

variable {source} in
theorem run_ask_loadByDefault :
    ((ask source .loadByDefault).run session).run s =
      ((.load ((source.loadOver (Token.steady {}) ProcessorSource.defaultInterval).run.run s).1,
        session),
        ((source.loadOver (Token.steady {}) ProcessorSource.defaultInterval).run.run s).2) := rfl

variable {source} in
theorem run_ask_watch :
    ((ask source (.watch interval)).run session).run s =
      ((.watched ((Watch.run source session.token.steady interval (fun _ => pure ())
        watchRounds).run s).1, session),
        ((Watch.run source session.token.steady interval (fun _ => pure ())
          watchRounds).run s).2) := rfl

/-- A question that is not about the identity does not ask the source for it. -/
theorem run_ask_of_unneeded (h : question.needsIdentity = false) :
    ((ask source.logged question).run session).run (s, log) =
      ((((ask source question).run session).run s).1,
        (((ask source question).run session).run s).2, log) := by
  cases question with
  | identity | vendor | name | identifier | parts | cpu64 | vendorFrequency =>
    exact absurd h (by decide)
  | load interval =>
    rw [run_ask_load, run_ask_load, ProcessorSource.run_loadOver_logged]
    rfl
  | loadByDefault =>
    rw [run_ask_loadByDefault, run_ask_loadByDefault, ProcessorSource.run_loadOver_logged]
    rfl
  | watch interval =>
    rw [run_ask_watch, run_ask_watch, Watch.run_logged]
    rfl
  | forgetVendorFrequency | describe | ticks | cancel | newToken | isCancelled | sleep
  | logicalCount | loadAverage | systemLoad => rfl

/-- Nor does it change what is remembered, but for the frequency if that is to be forgotten. -/
theorem processor_ask_of_unneeded (h : question.needsIdentity = false) :
    (((ask source question).run session).run s).1.2.processor =
      if question = .forgetVendorFrequency then session.processor.forgetVendorFrequency
      else session.processor := by
  cases question with
  | identity | vendor | name | identifier | parts | cpu64 | vendorFrequency =>
    exact absurd h (by decide)
  | forgetVendorFrequency | load | loadByDefault | watch | describe | ticks | cancel | newToken
  | isCancelled | sleep | logicalCount | loadAverage | systemLoad => rfl

/-! ## Questions about the identity -/

variable {source} in
theorem run_askIdentity {reply : Identity → Reply} :
    ((askIdentity source reply).run session).run s =
      ((reply (((Processor.askIdentity source).run session.processor).run s).1.1,
        { session with
          processor := (((Processor.askIdentity source).run session.processor).run s).1.2 }),
        (((Processor.askIdentity source).run session.processor).run s).2) := rfl

variable {source} in
theorem run_ask_vendorFrequency :
    ((ask source .vendorFrequency).run session).run s =
      ((.frequency (((Processor.askVendorFrequency source).run session.processor).run s).1.1,
        { session with
          processor := (((Processor.askVendorFrequency source).run session.processor).run s).1.2 }),
        (((Processor.askVendorFrequency source).run session.processor).run s).2) := rfl

/-- A question about the identity is put to it through its accessor, or it is the frequency. -/
theorem needsIdentity_cases (h : question.needsIdentity = true) :
    question = .vendorFrequency ∨
      ∃ reply : Identity → Reply, (∀ identity, question.replyFrom? identity = some (reply identity)) ∧
        ∀ {τ : Type} (source : ProcessorSource (StateM τ)),
          ask source question = askIdentity source reply := by
  cases question with
  | identity | vendor | name | identifier | parts | cpu64 =>
    exact .inr ⟨_, fun _ => rfl, fun _ => rfl⟩
  | vendorFrequency => exact .inl rfl
  | forgetVendorFrequency | load | loadByDefault | watch | describe | ticks | cancel | newToken
  | isCancelled | sleep | logicalCount | loadAverage | systemLoad =>
    exact absurd h Bool.false_ne_true

/-- A question about a known identity is answered from that, whatever source there is, and what is
remembered stays coupled. -/
theorem run_ask_of_known (hNeeds : question.needsIdentity = true)
    (hIdentity : session.processor.identity = some identity)
    (hCoupled : session.processor.Coupled) :
    ∃ reply processor, question.replyFrom? identity = some reply ∧
      processor.identity = some identity ∧ processor.Coupled ∧
      ∀ {τ : Type} (source : ProcessorSource (StateM τ)) (t : τ),
        ((ask source question).run session).run t = ((reply, { session with processor }), t) := by
  -- only the frequency, which is remembered by the question, changes what is remembered
  rcases needsIdentity_cases hNeeds with rfl | ⟨reply, hReply, hAsk⟩
  · refine ⟨.frequency identity.vendorFrequency,
      { session.processor with vendorFrequency := some identity.vendorFrequency }, rfl, hIdentity,
      ?_, ?_⟩
    · intro hertz hHertz
      exact ⟨identity, hIdentity, (Option.some.inj hHertz).symm⟩
    · intro τ source t
      rw [run_ask_vendorFrequency,
        Processor.run_askVendorFrequency_of_known source hIdentity hCoupled]
  · refine ⟨reply identity, session.processor, hReply identity, hIdentity, hCoupled, ?_⟩
    intro τ source t
    rw [hAsk, run_askIdentity, Processor.run_askIdentity_of_known source hIdentity]

/-- A question about an identity that is not known yet reads it, and then goes on as if it had
always been known. -/
theorem run_ask_learn (hNeeds : question.needsIdentity = true)
    (hIdentity : session.processor.identity = none) (hCoupled : session.processor.Coupled) :
    ((ask source question).run session).run s =
      ((ask source question).run { session with
        processor := session.processor.learn (.ofAnswer (source.identity.run.run s).1) }).run
          (source.identity.run.run s).2 := by
  rcases needsIdentity_cases hNeeds with rfl | ⟨reply, -, hAsk⟩
  · rw [run_ask_vendorFrequency, run_ask_vendorFrequency,
      Processor.run_askVendorFrequency_of_unknown source hIdentity hCoupled]
  · rw [hAsk, run_askIdentity, run_askIdentity,
      Processor.run_askIdentity_of_unknown source hIdentity,
      Processor.run_askIdentity_of_known source rfl]

/-- So it is answered from what the source says to that, and asks it nothing else. -/
theorem run_ask_of_unknown (hNeeds : question.needsIdentity = true)
    (hIdentity : session.processor.identity = none) (hCoupled : session.processor.Coupled)
    (answer : Answer Identity) :
    ∃ reply processor, question.replyFrom? (.ofAnswer answer) = some reply ∧
      processor.identity = some (.ofAnswer answer) ∧ processor.Coupled ∧
      ∀ {τ : Type} (source : ProcessorSource (StateM τ)) (t u : τ),
        source.identity.run.run t = (answer, u) →
        ((ask source question).run session).run t = ((reply, { session with processor }), u) := by
  have hLearnt : (session.processor.learn (.ofAnswer answer)).Coupled :=
    hCoupled.learn hIdentity (.ofAnswer answer)
  obtain ⟨reply, processor, hReply, hKnown, hStill, hRun⟩ :
      ∃ reply processor, question.replyFrom? (.ofAnswer answer) = some reply ∧
        processor.identity = some (.ofAnswer answer) ∧ processor.Coupled ∧
        ∀ {τ : Type} (source : ProcessorSource (StateM τ)) (t : τ),
          ((ask source question).run { session with
            processor := session.processor.learn (.ofAnswer answer) }).run t =
              ((reply, { session with processor }), t) := run_ask_of_known hNeeds rfl hLearnt
  refine ⟨reply, processor, hReply, hKnown, hStill, ?_⟩
  intro τ source t u hAnswer
  rw [run_ask_learn source hNeeds hIdentity hCoupled, hAnswer]
  exact hRun source u

end Session

end HardwareReport
