import HardwareReport.Windows.UsbId
import Mathlib.Data.List.Basic

/-!
# Windows — the format of USB instance ids

An id is put together from its parts, and the parts are read back: the fields of the hardware part
in ASCII lower case, the serial number as it is unless the system made it up. An id is that of a
USB device exactly if its bus is USB and its hardware part has no mark of an interface, and case
does not matter in either.

A keyword at the start of a field is compared after the field was cut after as many bytes as the
keyword has. Characters have up to four bytes, so a cut may lie inside one. Nothing is cut off then.

* `Text.pieces_eq_iff` — a text is cut at a character exactly into the parts it was joined from;
* `IsJoined`, `IsInterface` — an id and its parts, and a hardware part with the mark;
* `Text.cutAt?` — a text cut after a number of bytes;
* `cutAfterKeyword?`, `cutField?`, `cutId?` — an id read with these cuts, which gives nothing at all
  if a cut that is needed lies inside a character.

Main result: `parse?_joined`.
-/

namespace HardwareReport

namespace Text

/-! ## Joined parts -/

theorem pieces_eq_splitOnP (p : Char → Bool) (s : List Char) : pieces p s = s.splitOnP p := by
  induction s with
  | nil => rfl
  | cons c rest ih =>
    rw [pieces, List.splitOnP_cons_eq_if_modifyHead, ih]
    cases hPieces : rest.splitOnP p with
    | nil => exact absurd hPieces (List.splitOnP_ne_nil p rest)
    | cons piece others => rfl

/-- A text is cut at a character into the parts that it was joined from with that character. -/
theorem pieces_eq_iff {sep : Char} {s : List Char} {parts : List (List Char)}
    (hSome : parts ≠ []) :
    pieces (· == sep) s = parts ↔
      s = [sep].intercalate parts ∧ ∀ part ∈ parts, sep ∉ part := by
  have hLibrary : pieces (· == sep) s = s.splitOn sep := pieces_eq_splitOnP _ s
  constructor
  · intro h
    constructor
    · rw [← h, hLibrary, List.intercalate_splitOn]
    · intro part hPart hMem
      rw [← h] at hPart
      exact absurd (eq_false_of_mem_pieces hPart hMem) (by simp)
  · rintro ⟨rfl, hParts⟩
    rw [hLibrary, List.splitOn_intercalate sep hParts hSome]

/-! ## Case -/

section Case

variable {s t : List Char} {c : Char}

theorem sameAsciiCaseless_iff : sameAsciiCaseless s t = true ↔ lowerAscii s = lowerAscii t :=
  beq_iff_eq

theorem length_eq_of_caseless (h : sameAsciiCaseless s t = true) : s.length = t.length := by
  rw [← length_lowerAscii s, sameAsciiCaseless_iff.mp h, length_lowerAscii]

theorem lowerAscii_append : lowerAscii (s ++ t) = lowerAscii s ++ lowerAscii t :=
  List.map_append

/-- A character that is no letter does not come with another case. -/
theorem not_mem_of_caseless (h : sameAsciiCaseless s t = true) (hNot : c.toLower ∉ lowerAscii t) :
    c ∉ s := fun hMem =>
  hNot (sameAsciiCaseless_iff.mp h ▸ List.mem_map_of_mem hMem)

/-- A small letter comes thirty-two places after the capital one. -/
theorem val_toLower_of_upper (h : c.val ≥ 'A'.val ∧ c.val ≤ 'Z'.val) :
    c.toLower.val = c.val + ('a'.val - 'A'.val) :=
  congrArg Char.val (dif_pos h)

theorem toLower_of_not_upper (h : ¬ (c.val ≥ 'A'.val ∧ c.val ≤ 'Z'.val)) : c.toLower = c :=
  dif_neg h

/-- Nothing but a small letter is what another character has as its lower case. -/
theorem eq_of_toLower_eq {d : Char} (h : c.toLower = d) (hNot : d.isLower = false) : c = d := by
  by_cases hUpper : c.val ≥ 'A'.val ∧ c.val ≤ 'Z'.val
  · have hLow : 65 ≤ c.val.toNat := hUpper.1
    have hHigh : c.val.toNat ≤ 90 := hUpper.2
    have hCode : d.val.toNat = c.val.toNat + 32 := by
      rw [← h, val_toLower_of_upper hUpper, UInt32.toNat_add]
      show (c.val.toNat + 32) % 2 ^ 32 = c.val.toNat + 32
      omega
    -- a capital letter would have made a small one
    have hLower : d.isLower = true := by
      refine Bool.and_eq_true_iff.mpr ⟨decide_eq_true ?_, decide_eq_true ?_⟩
      · show 97 ≤ d.val.toNat
        omega
      · show d.val.toNat ≤ 122
        omega
    rw [hNot] at hLower
    cases hLower
  · exact (toLower_of_not_upper hUpper).symm.trans h

/-- A text in lower case occurs in another exactly if it does so in some case. -/
theorem contains_lowerAscii_iff :
    contains (lowerAscii t) (lowerAscii s) = true ↔
      ∃ mark, mark <:+: s ∧ sameAsciiCaseless mark t = true := by
  simp only [contains_iff_isInfix, sameAsciiCaseless_iff, lowerAscii, List.infix_map_iff]
  exact exists_congr fun mark => and_congr_right fun _ => eq_comm

/-- A letter has as many bytes in either case. -/
theorem utf8Size_toLower (c : Char) : c.toLower.utf8Size = c.utf8Size := by
  by_cases hUpper : c.val ≥ 'A'.val ∧ c.val ≤ 'Z'.val
  · have hHigh : c.val.toNat ≤ 90 := hUpper.2
    have hLower : (c.val + ('a'.val - 'A'.val)).toNat ≤ 0x7F := by
      rw [UInt32.toNat_add]
      show (c.val.toNat + 32) % 2 ^ 32 ≤ 0x7F
      omega
    have hSmall : c.val.toNat ≤ 0x7F := by omega
    rw [Char.utf8Size, Char.utf8Size, val_toLower_of_upper hUpper]
    rw [if_pos (UInt32.le_iff_toNat_le.mpr hLower), if_pos (UInt32.le_iff_toNat_le.mpr hSmall)]
  · rw [toLower_of_not_upper hUpper]

end Case

/-! ## Bytes -/

/-- How many bytes stand for a text. -/
def byteCount (s : List Char) : Nat :=
  (String.ofList s).utf8ByteSize

theorem byteCount_nil : byteCount [] = 0 :=
  rfl

theorem byteCount_cons (c : Char) (s : List Char) :
    byteCount (c :: s) = c.utf8Size + byteCount s := by
  rw [byteCount, byteCount, String.ofList_cons, String.utf8ByteSize_append,
    String.utf8ByteSize_singleton]

/-- Texts that are the same but for case have as many bytes. -/
theorem byteCount_eq_of_caseless {s t : List Char} (h : sameAsciiCaseless s t = true) :
    byteCount s = byteCount t := by
  have hLower (u : List Char) : byteCount (lowerAscii u) = byteCount u := by
    induction u with
    | nil => rfl
    | cons c rest ih =>
      rw [lowerAscii, List.map_cons, byteCount_cons, byteCount_cons, utf8Size_toLower]
      exact congrArg (c.utf8Size + ·) ih
  rw [← hLower s, sameAsciiCaseless_iff.mp h, hLower]

/-- The parts of a text before and after a number of bytes, if these are whole characters. -/
def cutAt? : Nat → List Char → Option (List Char × List Char)
  | 0, s => some ([], s)
  | _ + 1, [] => none
  | count + 1, c :: rest =>
    if c.utf8Size ≤ count + 1 then
      (cutAt? (count + 1 - c.utf8Size) rest).map fun parts => (c :: parts.1, parts.2)
    else none

/-- Whole characters are cut off. -/
theorem cutAt?_append (before after : List Char) :
    cutAt? (byteCount before) (before ++ after) = some (before, after) := by
  induction before with
  | nil => rw [byteCount_nil, List.nil_append, cutAt?]
  | cons c rest ih =>
    have hSize := c.utf8Size_pos
    obtain ⟨count, hCount⟩ : ∃ count, c.utf8Size + byteCount rest = count + 1 :=
      ⟨c.utf8Size + byteCount rest - 1, by omega⟩
    have hOthers : count + 1 - c.utf8Size = byteCount rest := by omega
    rw [byteCount_cons, hCount, List.cons_append, cutAt?, if_pos (by omega), hOthers, ih]
    rfl

/-- The two parts of a text that is cut after a number of bytes are told by where they meet. -/
theorem cutAt?_eq_some_iff {count : Nat} {s before after : List Char} :
    cutAt? count s = some (before, after) ↔ s = before ++ after ∧ byteCount before = count := by
  constructor
  · intro h
    induction s generalizing count before with
    | nil =>
      cases count with
      | zero =>
        obtain ⟨rfl, rfl⟩ := Prod.mk.inj (Option.some.inj h)
        exact ⟨rfl, rfl⟩
      | succ count => cases h
    | cons c rest ih =>
      cases count with
      | zero =>
        obtain ⟨rfl, rfl⟩ := Prod.mk.inj (Option.some.inj h)
        exact ⟨rfl, rfl⟩
      | succ count =>
        rw [cutAt?] at h
        split at h
        · next hFits =>
          -- the first character fits into what is to be cut off
          obtain ⟨⟨front, back⟩, hRest, hParts⟩ := Option.map_eq_some_iff.mp h
          obtain ⟨rfl, rfl⟩ := Prod.mk.inj hParts
          obtain ⟨rfl, hCount⟩ := ih hRest
          refine ⟨rfl, ?_⟩
          rw [byteCount_cons, hCount]
          omega
        · cases h
  · rintro ⟨rfl, rfl⟩
    exact cutAt?_append before after

/-- A character of two bytes is not cut in two. -/
example : cutAt? 4 "VIDé".toList = none ∧ cutAt? 4 "VI_1é".toList = some ("VI_1".toList, ['é']) := by
  decide

end Text

namespace Windows.UsbId

open Text

/-! ## Cuts at bytes -/

/-- What follows a keyword at the start of a text, which is cut after as many bytes as the keyword
has. The text before the cut is compared if there is one, and the text after the cut is then needed:
the outer result is nothing if that cannot be had. -/
def cutAfterKeyword? (keyword s : List Char) : Option (Option (List Char)) :=
  match (cutAt? (byteCount keyword) s).map Prod.fst with
  | none => some none
  | some start =>
    if sameAsciiCaseless start keyword then
      ((cutAt? (byteCount keyword) s).map Prod.snd).map some
    else some none

/-- A field of a hardware part, read with cuts at bytes. -/
def cutField? (keyword : String) (hardware : List Char) : Option String := do
  let found ← (pieces (· == '&') hardware).findSomeM? (cutAfterKeyword? keyword.toList)
  return String.ofList (lowerAscii (found.getD []))

/-- The id of a USB device, read with cuts at bytes. -/
def cutId? (id : String) : Option (Option UsbId) :=
  match pieces (· == '\\') id.toList with
  | bus :: hardware :: others =>
    let serial := others.head?.getD []
    if sameAsciiCaseless bus "USB".toList && !contains interfaceMark (lowerAscii hardware) then do
      let vendorId ← cutField? "VID_" hardware
      let productId ← cutField? "PID_" hardware
      return some {
        vendorId, productId
        serialNumber := if serial.contains '&' then "" else String.ofList serial }
    else some none
  | _ => some none

/-- A cut that the comparison allows can be made, and what is after it is what the characters say.
-/
theorem cutAfterKeyword?_eq (keyword s : List Char) :
    cutAfterKeyword? keyword s = some (afterKeyword? keyword s) := by
  by_cases hSame : sameAsciiCaseless (s.take keyword.length) keyword = true
  · -- as many characters as the keyword has have as many bytes
    have hCut := cutAt?_append (s.take keyword.length) (s.drop keyword.length)
    rw [byteCount_eq_of_caseless hSame, List.take_append_drop] at hCut
    simp only [cutAfterKeyword?, afterKeyword?, hCut, Option.map_some, if_pos hSame]
  · rw [afterKeyword?, if_neg hSame, cutAfterKeyword?]
    cases hCut : cutAt? (byteCount keyword) s with
    | none => rfl
    | some parts =>
      obtain ⟨start, rest⟩ := parts
      obtain ⟨rfl, -⟩ := cutAt?_eq_some_iff.mp hCut
      have hNot : ¬ sameAsciiCaseless start keyword = true := fun hStart => by
        rw [← length_eq_of_caseless hStart, List.take_left] at hSame
        exact hSame hStart
      simp only [Option.map_some, if_neg hNot]

theorem cutField?_eq (keyword : String) (hardware : List Char) :
    cutField? keyword hardware = some (hardwareField keyword hardware) := by
  have hFound : (pieces (· == '&') hardware).findSomeM? (cutAfterKeyword? keyword.toList) =
      some ((pieces (· == '&') hardware).findSome? (afterKeyword? keyword.toList)) := by
    rw [funext (cutAfterKeyword?_eq keyword.toList)]
    exact List.findSomeM?_pure
  rw [cutField?, hFound]
  rfl

/-- **No cut that is needed lies inside a character.** -/
theorem cutId?_eq (id : String) : cutId? id = some (parse? id) := by
  rw [cutId?, parse?]
  rcases pieces (· == '\\') id.toList with _ | ⟨bus, _ | ⟨hardware, others⟩⟩
  · rfl
  · rfl
  · simp only [cutField?_eq]
    split <;> rfl

/-! ## Parts of an id -/

/-- An id has parts with a backslash between any two and none in them. -/
def IsJoined (id : String) (parts : List (List Char)) : Prop :=
  id.toList = ['\\'].intercalate parts ∧ ∀ part ∈ parts, '\\' ∉ part

/-- A hardware part has the mark of an interface in whatever ASCII case. -/
def IsInterface (hardware : List Char) : Prop :=
  ∃ mark, mark <:+: hardware ∧ sameAsciiCaseless mark "&MI_".toList = true

theorem pieces_eq_iff_isJoined {id : String} {parts : List (List Char)} (hSome : parts ≠ []) :
    pieces (· == '\\') id.toList = parts ↔ IsJoined id parts :=
  pieces_eq_iff hSome

theorem contains_interfaceMark_iff {hardware : List Char} :
    contains interfaceMark (lowerAscii hardware) = true ↔ IsInterface hardware :=
  contains_lowerAscii_iff (t := "&MI_".toList)

/-- The check that an id is subjected to. -/
theorem isDevice_iff {bus hardware : List Char} :
    (sameAsciiCaseless bus "USB".toList && !contains interfaceMark (lowerAscii hardware)) = true ↔
      sameAsciiCaseless bus "USB".toList = true ∧ ¬ IsInterface hardware := by
  rw [Bool.and_eq_true, Bool.not_eq_true', ← Bool.not_eq_true, contains_interfaceMark_iff]

theorem parse?_of_isJoined {id : String} {bus hardware : List Char} {others : List (List Char)}
    (h : IsJoined id (bus :: hardware :: others)) :
    parse? id =
      if sameAsciiCaseless bus "USB".toList && !contains interfaceMark (lowerAscii hardware) then
        some {
          vendorId := hardwareField "VID_" hardware
          productId := hardwareField "PID_" hardware
          serialNumber :=
            if (others.head?.getD []).contains '&' then ""
            else String.ofList (others.head?.getD []) }
      else none := by
  rw [parse?, (pieces_eq_iff_isJoined (List.cons_ne_nil _ _)).mpr h]

/-- An id is that of a USB device exactly if it is on the bus and no interface. -/
theorem isSome_parse?_iff {id : String} :
    (parse? id).isSome = true ↔
      ∃ bus hardware others, IsJoined id (bus :: hardware :: others) ∧
        sameAsciiCaseless bus "USB".toList = true ∧ ¬ IsInterface hardware := by
  constructor
  · intro h
    -- two pieces and the test of the bus have to be there for anything to be read
    rw [parse?] at h
    split at h
    · next bus hardware others hParts =>
      refine ⟨bus, hardware, others, (pieces_eq_iff_isJoined (List.cons_ne_nil _ _)).mp hParts, ?_⟩
      split at h
      · next hDevice => exact isDevice_iff.mp hDevice
      · cases h
    · cases h
  · rintro ⟨bus, hardware, others, hJoined, hDevice⟩
    rw [parse?_of_isJoined hJoined, if_pos (isDevice_iff.mpr hDevice)]
    rfl

/-- The serial number is the instance part, if that is not made up. -/
theorem serialNumber_of_parse? {id : String} {usb : UsbId} {bus hardware serial : List Char}
    {others : List (List Char)} (hJoined : IsJoined id (bus :: hardware :: serial :: others))
    (hUsb : parse? id = some usb) :
    usb.serialNumber = if '&' ∈ serial then "" else String.ofList serial := by
  rw [parse?_of_isJoined hJoined] at hUsb
  split at hUsb
  · obtain rfl := Option.some.inj hUsb
    simp only [List.head?_cons, Option.getD_some, List.contains_iff_mem]
  · cases hUsb

/-! ## Fields of a hardware part -/

section Fields

variable {vendorKey productKey vendor product : List Char}

/-- A field begins with its keyword, in whatever ASCII case. -/
theorem afterKeyword?_append {keyword start : List Char} (value : List Char)
    (h : sameAsciiCaseless start keyword = true) :
    afterKeyword? keyword (start ++ value) = some value := by
  rw [afterKeyword?, ← length_eq_of_caseless h, List.take_left, if_pos h, List.drop_left]

/-- A field with another keyword of the same length is passed over. -/
theorem afterKeyword?_append_of_ne {keyword other start : List Char} (value : List Char)
    (h : sameAsciiCaseless start other = true) (hLength : keyword.length = other.length)
    (hOther : lowerAscii other ≠ lowerAscii keyword) :
    afterKeyword? keyword (start ++ value) = none := by
  have hNot : ¬ sameAsciiCaseless start keyword = true := fun hSame =>
    hOther ((sameAsciiCaseless_iff.mp h).symm.trans (sameAsciiCaseless_iff.mp hSame))
  rw [afterKeyword?, hLength, ← length_eq_of_caseless h, List.take_left, if_neg hNot]

/-- A hardware part with a vendor and a product. -/
structure HasFields (vendorKey vendor productKey product : List Char) : Prop where
  vendorKey : sameAsciiCaseless vendorKey "VID_".toList = true
  productKey : sameAsciiCaseless productKey "PID_".toList = true
  vendor : '&' ∉ vendor
  product : '&' ∉ product

variable (h : HasFields vendorKey vendor productKey product)

include h

theorem HasFields.pieces_eq :
    pieces (· == '&') (vendorKey ++ vendor ++ '&' :: (productKey ++ product)) =
      [vendorKey ++ vendor, productKey ++ product] := by
  have hVendorKey : '&' ∉ vendorKey := not_mem_of_caseless h.vendorKey (by decide)
  have hProductKey : '&' ∉ productKey := not_mem_of_caseless h.productKey (by decide)
  rw [pieces_eq_iff (List.cons_ne_nil _ _)]
  constructor
  · simp
  · simp [hVendorKey, hProductKey, h.vendor, h.product]

theorem HasFields.vendorField :
    hardwareField "VID_" (vendorKey ++ vendor ++ '&' :: (productKey ++ product)) =
      String.ofList (lowerAscii vendor) := by
  rw [hardwareField, h.pieces_eq, List.findSome?_cons, afterKeyword?_append vendor h.vendorKey]
  rfl

theorem HasFields.productField :
    hardwareField "PID_" (vendorKey ++ vendor ++ '&' :: (productKey ++ product)) =
      String.ofList (lowerAscii product) := by
  rw [hardwareField, h.pieces_eq, List.findSome?_cons,
    afterKeyword?_append_of_ne vendor h.vendorKey (rfl : "PID_".toList.length = _) (by decide),
    List.findSome?_cons, afterKeyword?_append product h.productKey]
  rfl

/-- The only ampersand stands before the product. -/
theorem HasFields.not_isInterface :
    ¬ IsInterface (vendorKey ++ vendor ++ '&' :: (productKey ++ product)) := by
  rintro ⟨mark, ⟨before, after, hParts⟩, hMark⟩
  have hLower : lowerAscii mark = ['&', 'm', 'i', '_'] :=
    (sameAsciiCaseless_iff.mp hMark).trans (by decide)
  cases mark with
  | nil => cases hLower
  | cons first rest =>
    obtain ⟨hFirst, hRest⟩ : first.toLower = '&' ∧ lowerAscii rest = ['m', 'i', '_'] :=
      List.cons.inj hLower
    obtain rfl : first = '&' := eq_of_toLower_eq hFirst (by decide)
    -- the mark would begin at the only separator there is
    have hPieces := h.pieces_eq
    rw [← hParts, List.append_assoc, List.cons_append,
      pieces_append_cons (p := (· == '&')) before (rest ++ after) rfl] at hPieces
    obtain ⟨piece, others, hBefore⟩ := List.exists_cons_of_ne_nil (pieces_ne_nil (· == '&') before)
    rw [hBefore] at hPieces
    obtain ⟨-, hOthers⟩ := List.cons.inj hPieces
    rcases List.append_eq_singleton_iff.mp hOthers with ⟨-, hAfter⟩ | ⟨-, hNil⟩
    · -- so what follows the mark begins with the keyword of the product
      have hSame : rest ++ after = productKey ++ product := by
        simpa using ((pieces_eq_iff (List.cons_ne_nil _ _)).mp hAfter).1
      have hClash := congrArg lowerAscii hSame
      rw [lowerAscii_append, lowerAscii_append, sameAsciiCaseless_iff.mp h.productKey,
        hRest] at hClash
      exact absurd (List.cons.inj hClash).1 (by decide)
    · exact pieces_ne_nil _ _ hNil

end Fields

/-! ## Results -/

/-- What is put together from bus, vendor, product and serial number is read back. -/
theorem parse?_of_hasFields {bus vendorKey vendor productKey product serial : List Char}
    (hBus : sameAsciiCaseless bus "USB".toList = true)
    (hFields : HasFields vendorKey vendor productKey product)
    (hParts : ∀ part ∈ [vendor, product, serial], '\\' ∉ part) (hSerial : '&' ∉ serial) :
    parse? (String.ofList (bus ++ '\\' :: (vendorKey ++ vendor ++ '&' :: (productKey ++ product)) ++
        '\\' :: serial)) =
      some ⟨String.ofList (lowerAscii vendor), String.ofList (lowerAscii product),
        String.ofList serial⟩ := by
  simp only [List.forall_mem_cons, List.not_mem_nil, IsEmpty.forall_iff, implies_true,
    and_true] at hParts
  obtain ⟨hVendor, hProduct, hWhole⟩ := hParts
  have hVendorKey : '\\' ∉ vendorKey := not_mem_of_caseless hFields.vendorKey (by decide)
  have hProductKey : '\\' ∉ productKey := not_mem_of_caseless hFields.productKey (by decide)
  have hBusKey : '\\' ∉ bus := not_mem_of_caseless hBus (by decide)
  -- none of the three parts has a separator in it
  have hJoined : IsJoined
      (String.ofList (bus ++ '\\' :: (vendorKey ++ vendor ++ '&' :: (productKey ++ product)) ++
        '\\' :: serial))
      [bus, vendorKey ++ vendor ++ '&' :: (productKey ++ product), serial] := by
    constructor
    · simp
    · simp [hVendorKey, hProductKey, hBusKey, hVendor, hProduct, hWhole]
  rw [parse?_of_isJoined hJoined, if_pos (isDevice_iff.mpr ⟨hBus, hFields.not_isInterface⟩),
    hFields.vendorField, hFields.productField]
  simp [hSerial]

/-- **The ids of USB devices.** An id is that of a device exactly if the part before the first
backslash is USB in whatever case and a part without the mark of an interface comes after it. What
is put together from a vendor, a product and a serial number is read back, the first two in lower
case. An instance part with an ampersand gives no serial number. No id makes a cut that is needed
lie inside a character. -/
theorem parse?_joined :
    (∀ id, (parse? id).isSome = true ↔
      ∃ bus hardware others, IsJoined id (bus :: hardware :: others) ∧
        sameAsciiCaseless bus "USB".toList = true ∧ ¬ IsInterface hardware) ∧
    (∀ bus vendorKey vendor productKey product serial : List Char,
      sameAsciiCaseless bus "USB".toList = true →
      sameAsciiCaseless vendorKey "VID_".toList = true →
      sameAsciiCaseless productKey "PID_".toList = true →
      (∀ part ∈ [vendor, product, serial], '&' ∉ part ∧ '\\' ∉ part) →
        parse? (String.ofList (bus ++ '\\' :: (vendorKey ++ vendor ++ '&' ::
            (productKey ++ product)) ++ '\\' :: serial)) =
          some ⟨String.ofList (lowerAscii vendor), String.ofList (lowerAscii product),
            String.ofList serial⟩) ∧
    (∀ id usb bus hardware serial others,
      IsJoined id (bus :: hardware :: serial :: others) → parse? id = some usb →
        usb.serialNumber = if '&' ∈ serial then "" else String.ofList serial) ∧
    ∀ id, cutId? id = some (parse? id) := by
  refine ⟨fun id => isSome_parse?_iff, ?_, ?_, cutId?_eq⟩
  · intro bus vendorKey vendor productKey product serial hBus hVendorKey hProductKey hParts
    have hVendor := hParts vendor (by simp)
    have hProduct := hParts product (by simp)
    have hSerial := hParts serial (by simp)
    exact parse?_of_hasFields hBus ⟨hVendorKey, hProductKey, hVendor.1, hProduct.1⟩
      (fun part hPart => (hParts part hPart).2) hSerial.1
  · intro id usb bus hardware serial others hJoined hUsb
    exact serialNumber_of_parse? hJoined hUsb

/-- Keywords in mixed case, and a serial number that is not ASCII. -/
theorem parse?_joined_mixedCase :
    (∀ part ∈ ["04aB".toList, "C52b".toList, "é1".toList], '&' ∉ part ∧ '\\' ∉ part) ∧
    parse? "uSb\\vId_04aB&PiD_C52b\\é1" = some ⟨"04ab", "c52b", "é1"⟩ ∧
    cutId? "uSb\\vId_04aB&PiD_C52b\\é1" = some (some ⟨"04ab", "c52b", "é1"⟩) := by
  have hParts : ∀ part ∈ ["04aB".toList, "C52b".toList, "é1".toList], '&' ∉ part ∧ '\\' ∉ part := by
    decide
  have hRead := parse?_joined.2.1 "uSb".toList "vId_".toList "04aB".toList "PiD_".toList
    "C52b".toList "é1".toList (by decide) (by decide) (by decide) hParts
  refine ⟨hParts, hRead, ?_⟩
  rw [parse?_joined.2.2.2]
  exact congrArg some hRead

end Windows.UsbId

end HardwareReport
