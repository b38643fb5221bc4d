import HardwareReport.Display
import Mathlib.Data.Char
import Mathlib.Data.List.Basic

/-!
# Display — writing a description and cutting it off

A description is written by putting the three letters of the manufacturer into one number, five bits
each, and that number, the product code and the serial number after the header. Whatever comes after
them, they are read back. Each of the three is read from bytes of its own, so that a description
that breaks off has each of them either in full or not at all.

* `Number.toLittleEndian` — a number in a count of bytes, the least significant first;
* `packedLetters` — three letters in one number, below a bit that means nothing;
* `block` — a description with everything that is read from it;
* `cut` — a display whose description breaks off.

Main result: `layout_read_back`.
-/

namespace HardwareReport

/-! ## Bytes of a number -/

/-- A number in a count of bytes, the least significant first. -/
def Number.toLittleEndian : Nat → Nat → List UInt8
  | 0, _ => []
  | count + 1, n => UInt8.ofNat n :: toLittleEndian count (n / 256)

theorem Number.littleEndian_toLittleEndian {count n : Nat} (h : n < Nat.pow 256 count) :
    littleEndian (toLittleEndian count n) = n := by
  induction count generalizing n with
  | zero =>
    have hOne : n < 1 := h
    rw [toLittleEndian, littleEndian]
    omega
  | succ count ih =>
    have hRest : n / 256 < Nat.pow 256 count := Nat.div_lt_of_lt_mul (by
      rwa [Nat.mul_comm])
    rw [toLittleEndian, littleEndian, ih hRest, UInt8.toNat_ofNat']
    omega

namespace Display

/-! ## Writing -/

/-- The five bits of a capital letter: one stands for the letter A. -/
def bitsOf (letter : Char) : Nat :=
  letter.toNat - 64

/-- Three letters in one number of sixteen bits. The top bit means nothing. -/
def packedLetters (top : Bool) (first second third : Char) : Nat :=
  top.toNat * 0x8000 + bitsOf first * 0x400 + bitsOf second * 0x20 + bitsOf third

/-- A description: header, letters with the most significant byte first, product code and serial
number with the least significant byte first, and whatever comes after. -/
def block (top : Bool) (first second third : Char) (product : UInt16) (serial : UInt32)
    (tail : List UInt8) : List UInt8 :=
  let packed := packedLetters top first second third
  header ++ [UInt8.ofNat (packed / 256), UInt8.ofNat packed] ++
    Number.toLittleEndian 2 product.toNat ++ Number.toLittleEndian 4 serial.toNat ++ tail

section Letters

variable {top : Bool} {first second third letter : Char}

theorem toNat_mem_of_isUpper (h : letter.isUpper = true) :
    65 ≤ letter.toNat ∧ letter.toNat ≤ 90 := by
  have hRange : 'A'.val ≤ letter.val ∧ letter.val ≤ 'Z'.val := of_decide_eq_true h
  exact hRange

theorem packedLetters_lt (hFirst : first.isUpper = true) (hSecond : second.isUpper = true)
    (hThird : third.isUpper = true) : packedLetters top first second third < 0x10000 := by
  have hFirst := toNat_mem_of_isUpper hFirst
  have hSecond := toNat_mem_of_isUpper hSecond
  have hThird := toNat_mem_of_isUpper hThird
  have hTop := Bool.toNat_le top
  simp only [packedLetters, bitsOf]
  omega

/-- The groups of five bits are those that were put in, whatever the top bit. -/
theorem fiveBits_packedLetters (hFirst : first.isUpper = true) (hSecond : second.isUpper = true)
    (hThird : third.isUpper = true) :
    [10, 5, 0].map (fiveBits (packedLetters top first second third)) =
      [bitsOf first, bitsOf second, bitsOf third] := by
  have hFirst := toNat_mem_of_isUpper hFirst
  have hSecond := toNat_mem_of_isUpper hSecond
  have hThird := toNat_mem_of_isUpper hThird
  have hTop := Bool.toNat_le top
  have hTen : Nat.pow 2 10 = 1024 := rfl
  have hFive : Nat.pow 2 5 = 32 := rfl
  have hZero : Nat.pow 2 0 = 1 := rfl
  simp only [List.map_cons, List.map_nil, fiveBits, packedLetters, bitsOf, hTen, hFive, hZero,
    List.cons.injEq, and_true]
  omega

theorem letter?_bitsOf (h : letter.isUpper = true) : letter? (bitsOf letter) = some letter := by
  obtain ⟨hLow, hHigh⟩ := toNat_mem_of_isUpper h
  have hBits : 1 ≤ bitsOf letter ∧ bitsOf letter ≤ 26 := by
    rw [bitsOf]
    omega
  have hCode : 'A'.toNat + bitsOf letter - 1 = letter.toNat := by
    show 65 + bitsOf letter - 1 = letter.toNat
    rw [bitsOf]
    omega
  rw [letter?, if_pos hBits, hCode, Char.ofNat_toNat]

theorem letter?_eq_none_iff {bits : Nat} : letter? bits = none ↔ bits < 1 ∨ 26 < bits := by
  simp only [letter?, ite_eq_right_iff, reduceCtorEq, imp_false]
  omega

end Letters

/-! ## Reading -/

/-- The letters that two bytes hold. -/
def lettersOf? (bytes : List UInt8) : Option String := do
  let letters ← [10, 5, 0].mapM fun shift =>
    letter? (fiveBits (Number.littleEndian bytes.reverse) shift)
  return String.ofList letters

theorem manufacturer?_eq (display : Display) :
    display.manufacturer? = (bytesAt? 8 2 display.edid).bind lettersOf? := by
  rw [manufacturer?]
  cases bytesAt? 8 2 display.edid <;> rfl

/-- Three capital letters are read back from the two bytes that they are packed into. -/
theorem lettersOf?_packed {top : Bool} {first second third : Char}
    (hFirst : first.isUpper = true) (hSecond : second.isUpper = true)
    (hThird : third.isUpper = true) :
    lettersOf? [UInt8.ofNat (packedLetters top first second third / 256),
        UInt8.ofNat (packedLetters top first second third)] =
      some (String.ofList [first, second, third]) := by
  have hPacked := @packedLetters_lt top first second third hFirst hSecond hThird
  have hGroups := @fiveBits_packedLetters top first second third hFirst hSecond hThird
  generalize packedLetters top first second third = packed at hPacked hGroups ⊢
  have hNumber : Number.littleEndian [UInt8.ofNat packed, UInt8.ofNat (packed / 256)] = packed :=
    @Number.littleEndian_toLittleEndian 2 packed hPacked
  simp only [List.map_cons, List.map_nil, List.cons.injEq, and_true] at hGroups
  obtain ⟨hTen, hFive, hZero⟩ := hGroups
  simp [lettersOf?, hNumber, hTen, hFive, hZero, letter?_bitsOf, hFirst, hSecond, hThird]

theorem lettersOf?_eq_none_iff {high low : UInt8} :
    lettersOf? [high, low] = none ↔
      ∃ shift ∈ [10, 5, 0], letter? (fiveBits (256 * high.toNat + low.toNat) shift) = none := by
  have hNumber : Number.littleEndian [high, low].reverse = 256 * high.toNat + low.toNat := by
    simp only [List.reverse_cons, List.reverse_nil, List.nil_append, List.singleton_append,
      Number.littleEndian]
    omega
  rw [lettersOf?, hNumber]
  generalize fiveBits (256 * high.toNat + low.toNat) = group
  cases hTen : letter? (group 10) <;> cases hFive : letter? (group 5) <;>
    cases hZero : letter? (group 0) <;> simp [hTen, hFive, hZero]

/-! ## Cutting off -/

/-- The display with a description that breaks off after `length` bytes. -/
def cut (length : Nat) (display : Display) : Display :=
  { display with edid := display.edid.take length }

theorem bytesAt?_eq_none_iff {offset count : Nat} {edid : List UInt8} (hCount : 0 < count) :
    bytesAt? offset count edid = none ↔ edid.length < offset + count := by
  simp only [bytesAt?, List.length_take, List.length_drop, ite_eq_right_iff, reduceCtorEq,
    imp_false]
  omega

/-- Bytes of a description that breaks off are there in full or not at all. -/
theorem bytesAt?_take {offset count length : Nat} {edid : List UInt8} (hCount : 0 < count) :
    bytesAt? offset count (edid.take length) = bytesAt? offset count edid ∨
      bytesAt? offset count (edid.take length) = none := by
  by_cases hLength : offset + count ≤ length
  · left
    rw [bytesAt?, bytesAt?, List.drop_take, List.take_take, min_eq_left (by omega)]
  · right
    rw [bytesAt?_eq_none_iff hCount, List.length_take]
    omega

/-- So is all that is read from them. -/
theorem bind_bytesAt?_cut {α : Type} {display : Display} {length offset count : Nat}
    (hCount : 0 < count) (read : List UInt8 → Option α) :
    (bytesAt? offset count (display.cut length).edid).bind read =
        (bytesAt? offset count display.edid).bind read ∨
      (bytesAt? offset count (display.cut length).edid).bind read = none := by
  rcases @bytesAt?_take offset count length display.edid hCount with hSame | hNone
  · exact .inl (congrArg (Option.bind · read) hSame)
  · exact .inr (congrArg (Option.bind · read) hNone)

/-- One of the three groups of five bits in the two bytes after the header is no letter: letters are
numbered from one to twenty-six. -/
def HasNoLetter (edid : List UInt8) : Prop :=
  ∃ high low, edid[8]? = some high ∧ edid[9]? = some low ∧
    ∃ shift ∈ [10, 5, 0], ∃ group, (256 * high.toNat + low.toNat) / Nat.pow 2 shift % 32 = group ∧
      (group < 1 ∨ 26 < group)

theorem bytesAt?_two {offset : Nat} {edid bytes : List UInt8} :
    bytesAt? offset 2 edid = some bytes ↔
      ∃ high low, edid[offset]? = some high ∧ edid[offset + 1]? = some low ∧ bytes = [high, low] := by
  have hFirst : (edid.drop offset)[0]? = edid[offset]? := by simp
  have hSecond : (edid.drop offset)[1]? = edid[offset + 1]? := by simp
  rw [bytesAt?, ← hFirst, ← hSecond]
  rcases edid.drop offset with _ | ⟨high, _ | ⟨low, rest⟩⟩ <;> simp [eq_comm]

/-- There is no manufacturer if the description ends before its letters or one of them is none. -/
theorem manufacturer?_eq_none_iff {display : Display} :
    display.manufacturer? = none ↔ display.edid.length < 10 ∨ HasNoLetter display.edid := by
  rw [manufacturer?_eq]
  cases hBytes : bytesAt? 8 2 display.edid with
  | none =>
    have hShort := (bytesAt?_eq_none_iff (by decide)).mp hBytes
    simp only [Option.bind_none, true_iff]
    exact .inl hShort
  | some bytes =>
    -- with both bytes there it is the letters alone that decide
    have hLong : ¬ display.edid.length < 10 := fun hShort => by
      rw [(bytesAt?_eq_none_iff (by decide)).mpr hShort] at hBytes
      cases hBytes
    obtain ⟨high, low, hHigh, hLow, rfl⟩ := bytesAt?_two.mp hBytes
    rw [Option.bind_some, lettersOf?_eq_none_iff, or_iff_right hLong, HasNoLetter]
    simp only [hHigh, hLow, Option.some.injEq, exists_and_left, exists_eq_left',
      letter?_eq_none_iff]
    rfl

/-- Cutting changes nothing in the bytes of the manufacturer that are left. -/
theorem hasNoLetter_cut {display : Display} {length : Nat}
    (hLong : ¬ (display.cut length).edid.length < 10) :
    HasNoLetter (display.cut length).edid ↔ HasNoLetter display.edid := by
  rw [cut, List.length_take] at hLong
  rw [cut, HasNoLetter, HasNoLetter, List.getElem?_take_of_lt (by omega),
    List.getElem?_take_of_lt (by omega)]

/-- **A description is read back, and a part of one says nothing else.** Whatever three letters,
product code and serial number are written, and whatever the top bit is and comes after them, the
header is valid and these are read. A description that breaks off anywhere has each of them as it
was or not at all: not at all if it breaks off before the end of its bytes, and no manufacturer also
if there are no three letters. -/
theorem layout_read_back :
    (∀ (connector : String) (top : Bool) (first second third : Char) (product : UInt16)
        (serial : UInt32) (tail : List UInt8),
      first.isUpper = true → second.isUpper = true → third.isUpper = true →
        let display : Display := ⟨connector, block top first second third product serial tail⟩
        display.hasValidHeader = true ∧
          display.manufacturer? = some (String.ofList [first, second, third]) ∧
          display.productCode? = some product.toNat ∧
          display.serialNumber? = some serial.toNat) ∧
    ∀ (display : Display) (length : Nat),
      (((display.cut length).manufacturer? = display.manufacturer? ∨
          (display.cut length).manufacturer? = none) ∧
        ((display.cut length).manufacturer? = none ↔
          (display.cut length).edid.length < 10 ∨ HasNoLetter display.edid)) ∧
      (((display.cut length).productCode? = display.productCode? ∨
          (display.cut length).productCode? = none) ∧
        ((display.cut length).productCode? = none ↔ (display.cut length).edid.length < 12)) ∧
      (((display.cut length).serialNumber? = display.serialNumber? ∨
          (display.cut length).serialNumber? = none) ∧
        ((display.cut length).serialNumber? = none ↔ (display.cut length).edid.length < 16)) := by
  constructor
  · intro connector top first second third product serial tail hFirst hSecond hThird display
    -- the fields of the block, by their places
    have hManufacturer : bytesAt? 8 2 display.edid = some
        [UInt8.ofNat (packedLetters top first second third / 256),
          UInt8.ofNat (packedLetters top first second third)] := rfl
    have hProduct : bytesAt? 10 2 display.edid = some (Number.toLittleEndian 2 product.toNat) := rfl
    have hSerial : bytesAt? 12 4 display.edid = some (Number.toLittleEndian 4 serial.toNat) := rfl
    refine ⟨rfl, ?_, ?_, ?_⟩
    · rw [manufacturer?_eq, hManufacturer, Option.bind_some,
        lettersOf?_packed hFirst hSecond hThird]
    · rw [productCode?, hProduct, Option.map_some,
        Number.littleEndian_toLittleEndian product.toNat_lt]
    · rw [serialNumber?, hSerial, Option.map_some,
        Number.littleEndian_toLittleEndian serial.toNat_lt]
  · intro display length
    -- a field of a cut block is the same as long as its bytes are there
    refine ⟨⟨?_, ?_⟩, ⟨?_, ?_⟩, ⟨?_, ?_⟩⟩
    · rw [manufacturer?_eq, manufacturer?_eq]
      exact bind_bytesAt?_cut (by decide) lettersOf?
    · rw [manufacturer?_eq_none_iff]
      exact or_congr_right' hasNoLetter_cut
    · rw [productCode?, productCode?, Option.map_eq_bind, Option.map_eq_bind]
      exact bind_bytesAt?_cut (by decide) _
    · rw [productCode?, Option.map_eq_none_iff]
      exact bytesAt?_eq_none_iff (by decide)
    · rw [serialNumber?, serialNumber?, Option.map_eq_bind, Option.map_eq_bind]
      exact bind_bytesAt?_cut (by decide) _
    · rw [serialNumber?, Option.map_eq_none_iff]
      exact bytesAt?_eq_none_iff (by decide)

/-- A panel with nothing after its serial number. -/
def panel : Display :=
  ⟨"card0-DP-1", block false 'D' 'E' 'L' 0xA07B 0x3034354C []⟩

/-- A panel whose identity is read back from its sixteen bytes. -/
theorem layout_read_back_panel :
    ('D'.isUpper = true ∧ 'E'.isUpper = true ∧ 'L'.isUpper = true) ∧
    panel.edid = [0x00, 0xFF, 0xFF, 0xFF, 0xFF, 0xFF, 0xFF, 0x00, 0x10, 0xAC, 0x7B, 0xA0, 0x4C, 0x35,
      0x34, 0x30] ∧
    panel.hasValidHeader = true ∧ panel.manufacturer? = some "DEL" ∧
      panel.productCode? = some 0xA07B ∧ panel.serialNumber? = some 0x3034354C :=
  ⟨by decide, by decide, layout_read_back.1 "card0-DP-1" false 'D' 'E' 'L' 0xA07B 0x3034354C []
    (by decide) (by decide) (by decide)⟩

end Display

end HardwareReport
