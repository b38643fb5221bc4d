import HardwareReport.Linux.Processor
import HardwareReport.Proofs.Text.Line

/-!
# Linux — the blocks of the file about processors

The kernel's file has a block of lines for each processor, with blank lines between them. The
identity is made of values for six sets of keys, and of every set the first line counts. Blank
lines have no key, so nothing ends with a block: a value that the first block lacks is taken from
the blocks after it.

* `Slot` — what an identity is made of, and the keys for it;
* `value` — what a file has for a slot;
* `identityOf` — the identity that values give.

Main result: `identity_of_blocks` — the identity in terms of the first block and the others.
-/

namespace HardwareReport.Linux.CpuInfo

/-! ## Values -/

/-- What an identity is made of. -/
inductive Slot where
  | vendor
  | name
  | family
  | model
  | stepping
  | flags
  deriving DecidableEq, Repr

/-- The keys with which a file gives a value. -/
def Slot.keys : Slot → List String
  | .vendor => ["vendor_id", "CPU implementer"]
  | .name => ["model name", "Processor", "cpu model"]
  | .family => ["cpu family"]
  | .model => ["model"]
  | .stepping => ["stepping"]
  | .flags => ["flags"]

/-- The value that a file has for a slot. -/
def value (text : String) (slot : Slot) : Option String :=
  value? slot.keys (entries text)

/-- The identity that values give. -/
def identityOf (values : Slot → Option String) : Identity :=
  let vendor := (values .vendor).getD ""
  let cpu64 := (values .flags).map hasLongMode
  let identifier :=
    match values .family, values .model, values .stepping with
    | some family, some model, some stepping =>
      Identifier.write vendor cpu64 ⟨family, model, stepping⟩
    | _, _, _ => ""
  { vendor, name := (values .name).getD "", identifier, cpu64 }

theorem identity_eq_identityOf (text : String) : identity text = identityOf (value text) :=
  rfl

theorem value?_append (keys : List String) (first later : List (String × String)) :
    value? keys (first ++ later) = (value? keys first).or (value? keys later) := by
  rw [value?, value?, value?, List.find?_append, Option.map_or]

/-! ## Lines -/

theorem field?_eq_none {line : List Char} (h : ':' ∉ line) : field? line = none := by
  have hSplit : Text.splitOnce? [':'] line = none :=
    Text.splitOnce?_eq_none_iff.mpr fun hInfix => h (hInfix.subset (List.mem_singleton_self ':'))
  rw [field?, hSplit, Option.map_none]

/-- A carriage return at the end of a line is trimmed with the value. -/
theorem field?_concat_return (line : List Char) : field? (line ++ ['\r']) = field? line := by
  have hTrim : ∀ value, Text.trimmed (value ++ ['\r']) = Text.trimmed value := fun value =>
    congrArg String.ofList (Text.trimEnds_concat_of_pos value (by decide))
  rw [field?, field?, Text.splitOnce?_concat (by decide) (by decide), Option.map_map]
  congr 1
  funext parts
  exact Prod.ext rfl (hTrim parts.2)

theorem entries_eq (text : String) :
    entries text = (Text.pieces (· == '\n') text.toList).filterMap field? := by
  rw [entries, Text.filterMap_lines rfl field?_concat_return]

theorem entries_append (first later : String) :
    entries (first ++ "\n" ++ later) = entries first ++ entries later := by
  have hText : (first ++ "\n" ++ later).toList = first.toList ++ '\n' :: later.toList := by
    simp only [String.toList_append, List.append_assoc]
    rfl
  rw [entries, entries, entries, hText, Text.filterMap_lines_append_cons rfl field?_concat_return]

theorem entries_eq_nil {text : String} (h : ':' ∉ text.toList) : entries text = [] := by
  rw [entries_eq, List.filterMap_eq_nil_iff]
  exact fun line hLine => field?_eq_none fun hColon => h (Text.mem_of_mem_pieces hLine hColon)

/-! ## Blocks -/

/-- Of the values of blocks with a blank line between them the first one counts. -/
theorem value_blocks {blank : String} (hBlank : blank.toList.all Text.isBlank = true)
    (first later : String) (slot : Slot) :
    value (first ++ "\n" ++ blank ++ "\n" ++ later) slot =
      (value first slot).or (value later slot) := by
  -- a blank line has no colon
  have hNoEntry : entries blank = [] := entries_eq_nil fun hColon =>
    absurd (List.all_eq_true.mp hBlank ':' hColon) (by decide)
  rw [value, entries_append, entries_append, hNoEntry, List.append_nil, value?_append]
  rfl

/-- **The identity of a file with several blocks** has the first block's values, and for those that
the first block lacks it has the values of the blocks after it. It is that of the first block if
this one lacks nothing that the others have. -/
theorem identity_of_blocks {blank : String} (hBlank : blank.toList.all Text.isBlank = true)
    (first later : String) :
    identity (first ++ "\n" ++ blank ++ "\n" ++ later) =
      identityOf (fun slot => (value first slot).or (value later slot)) ∧
    ((∀ slot, value first slot = none → value later slot = none) →
      identity (first ++ "\n" ++ blank ++ "\n" ++ later) = identity first) := by
  have hValues : value (first ++ "\n" ++ blank ++ "\n" ++ later) =
      fun slot => (value first slot).or (value later slot) :=
    funext (value_blocks hBlank first later)
  refine ⟨by rw [identity_eq_identityOf, hValues], fun hCovered => ?_⟩
  -- where the first block has nothing, there is nothing after it
  have hFirst : (fun slot => (value first slot).or (value later slot)) = value first := by
    funext slot
    cases hValue : value first slot with
    | none => rw [hCovered slot hValue, Option.or_none]
    | some _ => rw [Option.some_or]
  rw [identity_eq_identityOf, identity_eq_identityOf, hValues, hFirst]

/-- A block with all values. -/
def fullBlock : String :=
  "vendor_id\t: V\ncpu family : 6\nmodel : 15\nmodel name : N\nstepping : 10\nflags : fpu lm"

/-- A block that has a vendor and a family only. -/
def shortBlock : String :=
  "vendor_id : V\ncpu family : 6"

/-- A block with other values. -/
def otherBlock : String :=
  "vendor_id : W\ncpu family : 7\nmodel : 8\nmodel name : O\nstepping : 9\n"

theorem entries_fullBlock : entries fullBlock =
    [("vendor_id", "V"), ("cpu family", "6"), ("model", "15"), ("model name", "N"),
      ("stepping", "10"), ("flags", "fpu lm")] := by
  decide +kernel

/-- A first block with all that identifies a processor, before another that has something else. -/
theorem identity_of_blocks_fullBlock :
    "\t ".toList.all Text.isBlank = true ∧
    (∀ slot, value fullBlock slot = none → value otherBlock slot = none) ∧
    identity (fullBlock ++ "\n" ++ "\t " ++ "\n" ++ otherBlock) = identity fullBlock ∧
    (identity fullBlock).identifier = "x86 Family 6 Model 15 Stepping 10" := by
  have hBlank : "\t ".toList.all Text.isBlank = true := by decide
  have hFull : ∀ slot, value fullBlock slot ≠ none := by
    intro slot
    rw [value, entries_fullBlock]
    cases slot <;> decide
  have hIdentifier : (identity fullBlock).identifier = "x86 Family 6 Model 15 Stepping 10" := by
    simp only [identity, entries_fullBlock]
    decide
  exact ⟨hBlank, fun slot hNone => absurd hNone (hFull slot),
    (identity_of_blocks hBlank fullBlock otherBlock).2 fun slot hNone => absurd hNone (hFull slot),
    hIdentifier⟩

/-- The numbers and the name of another processor make up for those that the first block lacks. -/
theorem identity_shortBlock :
    (Text.lines shortBlock.toList).any (fun line => line.all Text.isBlank) = false ∧
    identity shortBlock = { vendor := "V" } ∧
    identity (shortBlock ++ "\n" ++ "" ++ "\n" ++ otherBlock) =
      { vendor := "V", name := "O", identifier := "x86 Family 6 Model 8 Stepping 9" } :=
  ⟨by decide +kernel, by decide +kernel, by decide +kernel⟩

end HardwareReport.Linux.CpuInfo
