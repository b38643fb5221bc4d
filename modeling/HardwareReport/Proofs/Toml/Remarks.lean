import HardwareReport.Toml.Document

/-!
# Toml — remarks

A document is read line by line, so what has been read of it at the end of one of its lines does
not depend on the lines that follow. Lines that are empty or hold nothing but a comment leave it as
it is.

* `isRemark`, `line?_remark` — a line that adds nothing;
* `Reads` — what has been read of a document that begins with a text;
* `Reads.append_line`, `Reads.remark` — one line more;
* `Reads.read?_eq` — the document that is the text.
-/

namespace HardwareReport.Toml.Document

/-! ## Lines -/

/-- The rest of a comment, and the end of its line. -/
def endsComment : List Char → Bool
  | [] => false
  | c :: rest => (c == '\n' && rest.isEmpty) || (!Quoted.isForbidden c && endsComment rest)

/-- A line that is empty or a comment. -/
def isRemark : List Char → Bool
  | ['\n'] => true
  | '#' :: rest => endsComment rest
  | _ => false

/-- A remark ends with its line, whatever comes after it. -/
theorem comment_append {text : List Char} (h : endsComment text = true) (rest : List Char) :
    skipComment?.comment (text ++ rest) = some ('\n' :: rest) := by
  induction text with
  | nil => exact absurd h Bool.false_ne_true
  | cons c text ih =>
    rw [endsComment, Bool.or_eq_true, Bool.and_eq_true, Bool.and_eq_true, beq_iff_eq,
      List.isEmpty_iff] at h
    rcases h with ⟨rfl, rfl⟩ | ⟨hAllowed, hRest⟩
    · rw [List.singleton_append, skipComment?.comment]
    · have hNot : Quoted.isForbidden c = false := by simpa using hAllowed
      rw [List.cons_append, skipComment?.comment, hNot]
      · exact ih hRest
      · -- no line ends at a character that a comment may hold
        rintro rfl
        exact absurd hNot (by decide)
      · rintro _ rfl
        exact absurd hNot (by decide)

theorem lineEnd?_comment {text : List Char} (h : endsComment text = true) (rest : List Char) :
    lineEnd? ('#' :: text ++ rest) = some rest := by
  have hComment : skipTrailing? ('#' :: text ++ rest) = some ('\n' :: rest) :=
    comment_append h rest
  rw [lineEnd?, hComment]
  rfl

theorem line?_remark {line : List Char} (h : isRemark line = true) (state : State)
    (rest : List Char) : line? state (line ++ rest) = some (state, rest) := by
  unfold isRemark at h
  split at h
  · rfl
  · rename_i text
    show (lineEnd? ('#' :: text ++ rest)).bind (fun after => some (state, after)) = _
    rw [lineEnd?_comment h]
    rfl
  · exact absurd h Bool.false_ne_true

/-! ## Texts -/

/-- The lines of a document that begins with a text are read up to the end of the text, and then
those that follow. -/
structure Reads (text : String) (state : State) : Prop where
  unmarked : ∃ c rest, text.toList = c :: rest ∧ c ≠ '\ufeff'
  goesOn : ∀ rest more, (text.toList ++ rest).length ≤ more →
    ∃ less, rest.length ≤ less ∧ lines? more {} (text.toList ++ rest) = lines? less state rest

variable {text : String} {state next : State} {c : Char} {line : List Char}

theorem exists_lines?_append (hSome : line ≠ [])
    (hLine : ∀ rest, line? state (line ++ rest) = some (next, rest)) (rest : List Char) {more : Nat}
    (hMore : (line ++ rest).length ≤ more) :
    ∃ less, rest.length ≤ less ∧ lines? more state (line ++ rest) = lines? less next rest := by
  obtain ⟨c, others, rfl⟩ := List.exists_cons_of_ne_nil hSome
  rw [List.length_append, List.length_cons] at hMore
  -- a line has a character, so the bound allows for one more line than what follows needs
  obtain ⟨less, rfl⟩ : ∃ less, more = less + 1 := ⟨more - 1, by omega⟩
  refine ⟨less, by omega, ?_⟩
  rw [List.cons_append, lines?, ← List.cons_append, hLine]
  simp

/-- A text of one line. -/
theorem Reads.of_line (hMark : c ≠ '\ufeff')
    (hLine : ∀ rest, line? {} (c :: line ++ rest) = some (next, rest)) :
    Reads (String.ofList (c :: line)) next where
  unmarked := ⟨c, line, String.toList_ofList, hMark⟩
  goesOn := fun rest more hMore => by
    rw [String.toList_ofList] at hMore ⊢
    exact exists_lines?_append (List.cons_ne_nil _ _) hLine rest hMore

theorem Reads.append_line (h : Reads text state) (hSome : line ≠ [])
    (hLine : ∀ rest, line? state (line ++ rest) = some (next, rest)) :
    Reads (text ++ String.ofList line) next where
  unmarked := by
    obtain ⟨c, rest, hText, hMark⟩ := h.unmarked
    refine ⟨c, rest ++ line, ?_, hMark⟩
    rw [String.toList_append, hText, String.toList_ofList, List.cons_append]
  goesOn := fun rest more hMore => by
    rw [String.toList_append, String.toList_ofList, List.append_assoc] at hMore ⊢
    obtain ⟨between, hBetween, hText⟩ := h.goesOn _ _ hMore
    obtain ⟨less, hLess, hRest⟩ := exists_lines?_append hSome hLine rest hBetween
    exact ⟨less, hLess, hText.trans hRest⟩

/-- A remark is no part of what has been read. -/
theorem Reads.remark (h : Reads text state) (hLine : isRemark line = true) :
    Reads (text ++ String.ofList line) state := by
  refine h.append_line ?_ (line?_remark hLine state)
  rintro rfl
  exact absurd hLine (by decide)

theorem Reads.of_remark (hLine : isRemark (c :: line) = true) :
    Reads (String.ofList (c :: line)) {} := by
  refine .of_line ?_ (line?_remark hLine {})
  rintro rfl
  exact absurd hLine (by simp [isRemark])

/-- The document that is the text. -/
theorem Reads.read?_eq (h : Reads text state) : Document.read? text = some state.root := by
  obtain ⟨c, others, hText, hMark⟩ := h.unmarked
  have hRead : Document.read? text =
      (lines? (text.toList.length + 1) {} text.toList).map State.root := by
    unfold Document.read?
    rw [hText]
    split
    · rename_i hSame
      exact absurd (List.cons.inj hSame).1 hMark
    · rfl
  obtain ⟨less, -, hLines⟩ := h.goesOn [] (text.toList.length + 1) (by simp)
  have hEnd : lines? less state [] = some state := by cases less <;> rfl
  rw [List.append_nil, hEnd] at hLines
  rw [hRead, hLines]
  rfl

end HardwareReport.Toml.Document
