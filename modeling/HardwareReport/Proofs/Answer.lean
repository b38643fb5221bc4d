import HardwareReport.Error

/-!
# Answers — what an answer is made of

An answer made of other answers is there if all of those are; the first failure among them is the
failure of the whole.

* `Answer.bind_eq_ok_iff`, `Answer.bind_eq_error_iff` — one answer after the other;
* `Answer.exists_map_of_mapM_eq_ok`, `Answer.exists_of_mapM_eq_error`, `Answer.mapM_eq_ok_map`,
  `Answer.mapM_append_cons_eq_error` — an answer for each element of a list;
* `Answer.Alike` — two answers that are the same failure or are related.
-/

namespace HardwareReport.Answer

variable {ε α β : Type}

theorem bind_eq_ok_iff {answer : Except ε α} {next : α → Except ε β} {b : β} :
    answer >>= next = .ok b ↔ ∃ a, answer = .ok a ∧ next a = .ok b := by
  cases answer with
  | ok a => simp [bind, Except.bind]
  | error fault => simp [bind, Except.bind]

theorem bind_eq_error_iff {answer : Except ε α} {next : α → Except ε β} {fault : ε} :
    answer >>= next = .error fault ↔
      answer = .error fault ∨ ∃ a, answer = .ok a ∧ next a = .error fault := by
  cases answer with
  | ok a => simp [bind, Except.bind]
  | error fault => simp [bind, Except.bind]

theorem map_eq_ok_iff {answer : Except ε α} {f : α → β} {b : β} :
    answer.map f = .ok b ↔ ∃ a, answer = .ok a ∧ f a = b := by
  cases answer with
  | ok a => simp [Except.map]
  | error fault => simp [Except.map]

theorem map_eq_error_iff {answer : Except ε α} {f : α → β} {fault : ε} :
    answer.map f = .error fault ↔ answer = .error fault := by
  cases answer with
  | ok a => simp [Except.map]
  | error fault => simp [Except.map]

section List

variable {ask : α → Except ε β} {list : List α}

/-- Answers to all elements of a list are those of a function. -/
theorem exists_map_of_mapM_eq_ok [Inhabited β] {answers : List β}
    (h : list.mapM ask = .ok answers) :
    ∃ f : α → β, answers = list.map f ∧ ∀ a ∈ list, ask a = .ok (f a) := by
  -- what the function says of other elements does not matter
  obtain ⟨f, hf⟩ : ∃ f : α → β, ∀ a b, ask a = .ok b → f a = b := by
    refine ⟨fun a => (ask a).toOption.getD default, ?_⟩
    intro a b hb
    show (ask a).toOption.getD default = b
    rw [hb]
    rfl
  refine ⟨f, ?_⟩
  induction list generalizing answers with
  | nil =>
    obtain rfl : [] = answers := Except.ok.inj h
    exact ⟨rfl, fun a ha => absurd ha List.not_mem_nil⟩
  | cons first rest ih =>
    rw [List.mapM_cons] at h
    obtain ⟨b, hb, hNext⟩ := bind_eq_ok_iff.mp h
    obtain ⟨others, hOthers, hAll⟩ := bind_eq_ok_iff.mp hNext
    obtain rfl : b :: others = answers := Except.ok.inj hAll
    obtain ⟨hMap, hRest⟩ := ih hOthers
    obtain rfl := hf first b hb
    exact ⟨by rw [List.map_cons, hMap], List.forall_mem_cons.mpr ⟨hb, hRest⟩⟩

theorem exists_of_mapM_eq_error {fault : ε} (h : list.mapM ask = .error fault) :
    ∃ a ∈ list, ask a = .error fault := by
  induction list with
  | nil => exact absurd h (by simp [pure, Except.pure])
  | cons first rest ih =>
    rw [List.mapM_cons] at h
    rcases bind_eq_error_iff.mp h with hFirst | ⟨b, -, hNext⟩
    · exact ⟨first, List.mem_cons_self .., hFirst⟩
    · rcases bind_eq_error_iff.mp hNext with hRest | ⟨others, -, hAll⟩
      · obtain ⟨a, hMem, hAsk⟩ := ih hRest
        exact ⟨a, List.mem_cons_of_mem _ hMem, hAsk⟩
      · exact absurd hAll (by simp [pure, Except.pure])

/-- If every element has an answer, so has the list. -/
theorem mapM_eq_ok_map {f : α → β} (h : ∀ a ∈ list, ask a = .ok (f a)) :
    list.mapM ask = .ok (list.map f) := by
  induction list with
  | nil => rfl
  | cons first rest ih =>
    obtain ⟨hFirst, hRest⟩ := List.forall_mem_cons.mp h
    rw [List.mapM_cons, hFirst, ih hRest]
    rfl

/-- The first failure on the way through a list is the failure of the whole. -/
theorem mapM_append_cons_eq_error {before after : List α} {a : α} {fault : ε}
    (hBefore : ∀ b ∈ before, (ask b).isOk = true) (h : ask a = .error fault) :
    (before ++ a :: after).mapM ask = .error fault := by
  induction before with
  | nil =>
    rw [List.nil_append, List.mapM_cons, h]
    rfl
  | cons first rest ih =>
    obtain ⟨hFirst, hRest⟩ := List.forall_mem_cons.mp hBefore
    rw [List.cons_append, List.mapM_cons]
    -- one before it does not fail
    cases hAnswer : ask first with
    | error other =>
      rw [hAnswer] at hFirst
      exact absurd hFirst Bool.false_ne_true
    | ok b =>
      rw [ih hRest]
      rfl

end List

/-! ## Two answers -/

/-- Two answers are alike if they are related or are the same failure. -/
inductive Alike (related : α → β → Prop) : Except ε α → Except ε β → Prop where
  | ok {a : α} {b : β} (h : related a b) : Alike related (.ok a) (.ok b)
  | error (fault : ε) : Alike related (.error fault) (.error fault)

/-- What is made of related answers in the same way is the same. -/
theorem Alike.bind_eq {γ : Type} {related : α → β → Prop} {answer : Except ε α}
    {other : Except ε β} {next : α → Except ε γ} {nextOther : β → Except ε γ}
    (h : Alike related answer other) (hNext : ∀ a b, related a b → next a = nextOther b) :
    answer >>= next = other >>= nextOther := by
  cases h with
  | ok h => exact hNext _ _ h
  | error fault => rfl

end HardwareReport.Answer
