import HardwareReport.Proofs.Number.Places
import HardwareReport.Quantity
import Mathlib.Data.List.Chain
import Mathlib.Data.List.Find

/-!
# Quantity — what scaled amounts look like

An amount is written in the largest unit that it reaches, as the number with so many decimal places
that is nearest to it. That number is one at least. It can come out as the next unit in the smaller
one, `1024.0 KiB` or `1000.00 kHz`, as the unit is chosen by the amount and not by what is written:
that is the case exactly for the amounts that are at most half a last place short of the next unit.

* `decimalUnits` — the units of frequencies with whole counts of hertz;
* `ShowsAmount` — a text is a number with decimal places and a unit;
* `IsScaled` — a number that stands for an amount in a unit.

Main result: `text_isScaled`.
-/

namespace HardwareReport.Quantity

open Number

/-! ## Units -/

/-- The decimal units from the largest on, each with its count of hertz. -/
def decimalUnits : List (Nat × String) :=
  [(1000000000000, "THz"), (1000000000, "GHz"), (1000000, "MHz"), (1000, "kHz")]

theorem hertzUnits_eq :
    hertzUnits = decimalUnits.map fun unit => (Float.ofNat unit.1, unit.2) := by
  decide +kernel

/-- Each unit is a number of times the next one. -/
def IsLadder (base : Nat) (units : List (Nat × String)) : Prop :=
  units.IsChain fun greater less => greater.1 = base * less.1

theorem isLadder_binaryUnits : IsLadder 1024 binaryUnits := by
  unfold IsLadder
  decide +kernel

theorem isLadder_decimalUnits : IsLadder 1000 decimalUnits := by
  unfold IsLadder
  decide +kernel

/-- The largest unit that an amount reaches is the one before the first that it does not. -/
theorem exists_unit {base amount : Nat} {units : List (Nat × String)}
    (hLadder : IsLadder base units)
    (hBelow : ∀ unit ∈ units.head?, amount < base * unit.1)
    (hReached : ∃ unit ∈ units, unit.1 ≤ amount) :
    ∃ unit ∈ units, units.find? (fun unit => decide (unit.1 ≤ amount)) = some unit ∧
      unit.1 ≤ amount ∧ amount < base * unit.1 := by
  induction units with
  | nil =>
    obtain ⟨unit, hMem, -⟩ := hReached
    cases hMem
  | cons first rest ih =>
    by_cases hFirst : first.1 ≤ amount
    · have hFound : (first :: rest).find? (fun unit => decide (unit.1 ≤ amount)) = some first :=
        List.find?_cons_of_pos (decide_eq_true hFirst)
      exact ⟨first, List.mem_cons_self .., hFound, hFirst, hBelow first rfl⟩
    · have hNext : (first :: rest).find? (fun unit => decide (unit.1 ≤ amount)) =
          rest.find? fun unit => decide (unit.1 ≤ amount) :=
        List.find?_cons_of_neg (by simpa using hFirst)
      have hRest : ∃ unit ∈ rest, unit.1 ≤ amount := by
        obtain ⟨unit, hMem, hLess⟩ := hReached
        rcases List.mem_cons.mp hMem with rfl | hMem
        · exact absurd hLess hFirst
        · exact ⟨unit, hMem, hLess⟩
      -- what does not reach the first unit is too little for that many of the next one
      have hBelowRest : ∀ unit ∈ rest.head?, amount < base * unit.1 := by
        intro unit hUnit
        rw [← (List.isChain_cons.mp hLadder).1 unit hUnit]
        exact not_le.mp hFirst
      obtain ⟨unit, hMem, hFound, hUnit⟩ := ih (List.isChain_cons.mp hLadder).2 hBelowRest hRest
      exact ⟨unit, List.mem_cons_of_mem _ hMem, hNext.trans hFound, hUnit⟩

/-! ## Amounts in a unit -/

/-- A text is a number with decimal places and a unit. -/
def ShowsAmount (text : String) (places : Nat) (number : ℚ) (unit : String) : Prop :=
  ∃ digits, IsDecimal places digits number ∧ text = String.ofList digits ++ " " ++ unit

/-- The number ends where the first space is. -/
theorem ShowsAmount.takeWhile_eq {text : String} {places : Nat} {x : ℚ} {unit : String}
    (h : ShowsAmount text places x unit) :
    IsDecimal places (text.toList.takeWhile (· ≠ ' ')) x := by
  obtain ⟨digits, hDecimal, rfl⟩ := h
  -- there is no space among digits and a point
  have hNoSpace : ∀ c ∈ digits, decide (c ≠ ' ') = true := by
    intro c hc
    rcases hDecimal.isDigit_or_point c hc with hDigit | rfl
    · refine decide_eq_true ?_
      rintro rfl
      exact absurd hDigit (by decide)
    · rfl
  have hParts : (String.ofList digits ++ " " ++ unit).toList = digits ++ ' ' :: unit.toList := by
    simp
  rw [hParts, List.takeWhile_append_of_pos hNoSpace, List.takeWhile_cons_of_neg (by decide),
    List.append_nil]
  exact hDecimal

/-- A text shows one number. -/
theorem ShowsAmount.number_unique {text : String} {places : Nat} {x y : ℚ} {unit other : String}
    (hx : ShowsAmount text places x unit) (hy : ShowsAmount text places y other) : x = y :=
  hx.takeWhile_eq.unique hy.takeWhile_eq

/-- A number with decimal places stands for an amount in the largest unit that it reaches, where the
next larger unit is `base` times that one. -/
structure IsScaled (amount size base places : Nat) (number : ℚ) : Prop where
  reached : size ≤ amount
  below : amount < base * size
  nearest : |number - amount / size| ≤ 1 / (2 * 10 ^ places)
  one_le : 1 ≤ number
  le_base : number ≤ base
  /-- The number is the next unit for what is at most half a last place short of it. -/
  eq_base_iff : number = base ↔ (base * size : ℚ) - size / (2 * 10 ^ places) ≤ amount

/-- A whole number of the last place that is nearest to an amount. A tie matters at the next unit
alone, and there it has to go up. -/
theorem isScaled_of_near {amount size base places scaled : Nat} (hReached : size ≤ amount)
    (hBelow : amount < base * size)
    (hLow : 2 * 10 ^ places * amount ≤ 2 * scaled * size + size)
    (hHigh : 2 * scaled * size ≤ 2 * 10 ^ places * amount + size)
    (hTie : 2 * 10 ^ places * amount + size = 2 * 10 ^ places * (base * size) →
      scaled = 10 ^ places * base) :
    IsScaled amount size base places (scaled / 10 ^ places) := by
  have hSize : 0 < size := by
    rcases Nat.eq_zero_or_pos size with rfl | hSize
    · exact absurd hBelow (Nat.not_lt_zero _)
    · exact hSize
  have hTop : 2 * 10 ^ places * amount < 2 * 10 ^ places * (base * size) :=
    Nat.mul_lt_mul_of_pos_left hBelow (by positivity)
  -- half a last place is no whole number of them, so it takes neither bound any further
  have hOne : 10 ^ places ≤ scaled := by
    have hTimes : 2 * 10 ^ places * size ≤ (2 * scaled + 1) * size := by
      calc 2 * 10 ^ places * size ≤ 2 * 10 ^ places * amount := Nat.mul_le_mul_left _ hReached
        _ ≤ 2 * scaled * size + size := hLow
        _ = (2 * scaled + 1) * size := by ring
    have hLess := Nat.le_of_mul_le_mul_right hTimes hSize
    omega
  have hBase : scaled ≤ 10 ^ places * base := by
    have hTimes : 2 * scaled * size < (2 * (10 ^ places * base) + 1) * size := by
      calc 2 * scaled * size ≤ 2 * 10 ^ places * amount + size := hHigh
        _ < 2 * 10 ^ places * (base * size) + size := Nat.add_lt_add_right hTop size
        _ = (2 * (10 ^ places * base) + 1) * size := by ring
    have hLess := Nat.lt_of_mul_lt_mul_right hTimes
    omega
  have hNext : scaled = 10 ^ places * base ↔
      2 * 10 ^ places * (base * size) ≤ 2 * 10 ^ places * amount + size := by
    constructor
    · rintro rfl
      calc 2 * 10 ^ places * (base * size) = 2 * (10 ^ places * base) * size := by ring
        _ ≤ 2 * 10 ^ places * amount + size := hHigh
    · intro hShort
      rcases hShort.eq_or_lt with hEq | hLess
      · exact hTie hEq.symm
      · have hTimes : 2 * (10 ^ places * base) * size < (2 * scaled + 2) * size := by
          calc 2 * (10 ^ places * base) * size = 2 * 10 ^ places * (base * size) := by ring
            _ < 2 * 10 ^ places * amount + size := hLess
            _ ≤ 2 * scaled * size + size + size := Nat.add_le_add_right hLow size
            _ = (2 * scaled + 2) * size := by ring
        have hLess := Nat.lt_of_mul_lt_mul_right hTimes
        omega
  -- what is left are the same facts, divided by the unit and the places
  have hSizeQ : (0 : ℚ) < size := by exact_mod_cast hSize
  have hPowerQ : (0 : ℚ) < 10 ^ places := by positivity
  refine ⟨hReached, hBelow, ?_, ?_, ?_, ?_⟩
  · have hLow : (2 * 10 ^ places * amount : ℚ) ≤ 2 * scaled * size + size := by exact_mod_cast hLow
    have hHigh : (2 * scaled * size : ℚ) ≤ 2 * 10 ^ places * amount + size := by
      exact_mod_cast hHigh
    have hSame : (scaled : ℚ) / 10 ^ places - amount / size =
        (2 * scaled * size - 2 * 10 ^ places * amount) / (size * (2 * 10 ^ places)) := by
      field_simp
    have hHalf : (1 : ℚ) / (2 * 10 ^ places) = size / (size * (2 * 10 ^ places)) := by
      field_simp
    have hScale : (0 : ℚ) < size * (2 * 10 ^ places) := by positivity
    rw [hSame, hHalf, abs_div, abs_of_pos hScale]
    refine div_le_div_of_nonneg_right (abs_le.mpr ⟨?_, ?_⟩) hScale.le <;> linarith
  · rw [le_div_iff₀ hPowerQ, one_mul]
    exact_mod_cast hOne
  · rw [div_le_iff₀ hPowerQ, mul_comm]
    exact_mod_cast hBase
  · have hNumber : (scaled : ℚ) / 10 ^ places = base ↔ scaled = 10 ^ places * base := by
      rw [div_eq_iff hPowerQ.ne', mul_comm]
      exact_mod_cast Iff.rfl
    have hShort : (base * size : ℚ) - size / (2 * 10 ^ places) ≤ amount ↔
        2 * 10 ^ places * (base * size) ≤ 2 * 10 ^ places * amount + size := by
      rw [sub_le_iff_le_add, ← mul_le_mul_iff_right₀ (show (0 : ℚ) < 2 * 10 ^ places by positivity),
        mul_add, mul_div_cancel₀ _ (by positivity)]
      exact_mod_cast Iff.rfl
    rw [hNumber, hNext, hShort]

/-- An amount that was divided by its unit and written out. -/
theorem fixed_div_isScaled {amount size base places : Nat} (unit : String) (hPlaces : places ≠ 0)
    (hSize : 0 < size) (hReached : size ≤ amount) (hBelow : amount < base * size)
    (hDigits : 2 * 10 ^ places * amount < 2 ^ 52)
    (hTie : 2 * 10 ^ places * amount + size = 2 * 10 ^ places * (base * size) →
      roundedPlaces places (ofFloat (Float.ofNat amount / Float.ofNat size)) = 10 ^ places * base) :
    ∃ number,
      ShowsAmount (fixed places (Float.ofNat amount / Float.ofNat size) ++ " " ++ unit) places number
        unit ∧
      IsScaled amount size base places number := by
  -- the amount itself is exact in double precision
  have hAmount : amount < 2 ^ 53 := by
    have hMore : amount ≤ 2 * 10 ^ places * amount := Nat.le_mul_of_pos_left amount (by positivity)
    omega
  obtain ⟨hText, hLow, hHigh⟩ :=
    fixed_div (by omega : amount ≠ 0) hSize.ne' (by omega) hDigits rfl
  rw [hText]
  exact ⟨_, ⟨_, isDecimal_placesText hPlaces _, rfl⟩,
    isScaled_of_near hReached hBelow hLow hHigh hTie⟩

/-! ## Memory -/

theorem binaryBytesText_eq {n : UInt64} {size : Nat} {unit : String} (h : 1024 ≤ n.toNat)
    (hFound : binaryUnits.find? (fun unit => decide (unit.1 ≤ n.toNat)) = some (size, unit)) :
    binaryBytesText n =
      fixed 1 (Float.ofNat n.toNat / Float.ofNat size) ++ " " ++ unit := by
  rw [binaryBytesText, binaryBytes, hFound, if_neg (by omega)]

/-- No count of bytes is half a last place short of the next unit. -/
theorem no_tie {size : Nat} {unit : String} (hUnit : (size, unit) ∈ binaryUnits) (n : Nat) :
    2 * 10 ^ 1 * n + size ≠ 2 * 10 ^ 1 * (1024 * size) := by
  simp only [binaryUnits, List.mem_cons, Prod.mk.injEq, List.not_mem_nil, or_false] at hUnit
  obtain ⟨rfl, -⟩ | ⟨rfl, -⟩ | ⟨rfl, -⟩ | ⟨rfl, -⟩ := hUnit <;> omega

theorem binaryBytesText_isScaled {n : UInt64} (hLow : 1024 ≤ n.toNat) (hHigh : n.toNat < 2 ^ 40) :
    ∃ size unit number, (size, unit) ∈ binaryUnits ∧ ShowsAmount (binaryBytesText n) 1 number unit ∧
      IsScaled n.toNat size 1024 1 number := by
  have hBelow : ∀ unit ∈ binaryUnits.head?, n.toNat < 1024 * unit.1 := by
    rintro unit ⟨⟩
    omega
  have hSome : ∃ unit ∈ binaryUnits, unit.1 ≤ n.toNat := ⟨(1024, "KiB"), by decide, hLow⟩
  obtain ⟨⟨size, unit⟩, hUnit, hFound, hReached, hLess⟩ :=
    exists_unit isLadder_binaryUnits hBelow hSome
  obtain ⟨number, hShows, hScaled⟩ := fixed_div_isScaled unit one_ne_zero (by omega) hReached hLess
    (by omega) fun hTie => absurd hTie (no_tie hUnit _)
  exact ⟨size, unit, number, hUnit, binaryBytesText_eq hLow hFound ▸ hShows, hScaled⟩

/-! ## Frequencies -/

theorem le_ofNat_of_mem_decimalUnits {hz : Nat} (hLow : hz ≠ 0) (hHigh : hz < 2 ^ 53)
    {unit : Nat × String} (hUnit : unit ∈ decimalUnits) :
    Float.ofNat unit.1 ≤ Float.ofNat hz ↔ unit.1 ≤ hz := by
  have hSmall : ∀ unit ∈ decimalUnits, unit.1 ≠ 0 ∧ unit.1 < 2 ^ 53 := by decide
  obtain ⟨hSome, hFew⟩ := hSmall unit hUnit
  exact ofNat_le_ofNat_iff hSome hLow hFew hHigh

/-- Units are compared in double precision, where they are exact. -/
theorem find?_hertzUnits {hz : Nat} (hLow : hz ≠ 0) (hHigh : hz < 2 ^ 53) :
    hertzUnits.find? (fun unit => decide (unit.1 ≤ Float.ofNat hz)) =
      (decimalUnits.find? fun unit => decide (unit.1 ≤ hz)).map
        fun unit => (Float.ofNat unit.1, unit.2) := by
  rw [hertzUnits_eq, List.find?_map]
  refine congrArg _ (List.find?_congr fun unit hUnit => ?_)
  exact decide_eq_decide.mpr (le_ofNat_of_mem_decimalUnits hLow hHigh hUnit)

theorem hertzText_eq {hz size : Nat} {unit : String} (hLow : hz ≠ 0) (hHigh : hz < 2 ^ 53)
    (hFound : decimalUnits.find? (fun unit => decide (unit.1 ≤ hz)) = some (size, unit)) :
    hertzText hz = fixed 2 (Float.ofNat hz / Float.ofNat size) ++ " " ++ unit := by
  have hValue : Float.ofInt (hz : Int) = Float.ofNat hz := rfl
  unfold hertzText
  rw [if_neg (by omega), hValue]
  dsimp only
  rw [find?_hertzUnits hLow hHigh, hFound, Option.map_some]

/-- A frequency that is half a last place short of the next unit is written as that unit: in double
precision its number is a little more. -/
theorem roundedPlaces_tie {hz size : Nat} {unit : String} (hUnit : (size, unit) ∈ decimalUnits)
    (hHigh : hz < 10 ^ 12) (hReached : size ≤ hz)
    (hTie : 2 * 10 ^ 2 * hz + size = 2 * 10 ^ 2 * (1000 * size)) :
    roundedPlaces 2 (ofFloat (Float.ofNat hz / Float.ofNat size)) = 10 ^ 2 * 1000 := by
  simp only [decimalUnits, List.mem_cons, Prod.mk.injEq, List.not_mem_nil, or_false] at hUnit
  obtain ⟨rfl, -⟩ | ⟨rfl, -⟩ | ⟨rfl, -⟩ | ⟨rfl, -⟩ := hUnit
  · omega
  · obtain rfl : hz = 999995000000 := by omega
    decide +kernel
  · obtain rfl : hz = 999995000 := by omega
    decide +kernel
  · obtain rfl : hz = 999995 := by omega
    decide +kernel

theorem hertzText_isScaled {hz : Nat} (hLow : 1000 ≤ hz) (hHigh : hz < 10 ^ 12) :
    ∃ size unit number, (size, unit) ∈ decimalUnits ∧ ShowsAmount (hertzText hz) 2 number unit ∧
      IsScaled hz size 1000 2 number := by
  have hBelow : ∀ unit ∈ decimalUnits.head?, hz < 1000 * unit.1 := by
    rintro unit ⟨⟩
    omega
  have hSome : ∃ unit ∈ decimalUnits, unit.1 ≤ hz := ⟨(1000, "kHz"), by decide, hLow⟩
  obtain ⟨⟨size, unit⟩, hUnit, hFound, hReached, hLess⟩ :=
    exists_unit isLadder_decimalUnits hBelow hSome
  obtain ⟨number, hShows, hScaled⟩ := fixed_div_isScaled unit two_ne_zero (by omega) hReached hLess
    (by omega) (roundedPlaces_tie hUnit hHigh hReached)
  exact ⟨size, unit, number, hUnit, hertzText_eq (by omega) (by omega) hFound ▸ hShows, hScaled⟩

/-! ## Main result -/

/-- **Amounts are written in the largest unit that they reach, by a number that is one at least.**
It is nearest to the amount, and it is below the next unit but for the amounts that are at most half
a last place short of that. -/
theorem text_isScaled :
    (∀ n : UInt64, 1024 ≤ n.toNat → n.toNat < 2 ^ 40 →
      ∃ size unit number, (size, unit) ∈ binaryUnits ∧
        ShowsAmount (binaryBytesText n) 1 number unit ∧ IsScaled n.toNat size 1024 1 number) ∧
    ∀ hz : Int, 1000 ≤ hz → hz < 10 ^ 12 →
      ∃ size unit number, (size, unit) ∈ decimalUnits ∧
        ShowsAmount (hertzText hz) 2 number unit ∧ IsScaled hz.toNat size 1000 2 number := by
  refine ⟨fun n hLow hHigh => binaryBytesText_isScaled hLow hHigh, fun hz hLow hHigh => ?_⟩
  obtain ⟨count, rfl⟩ := Int.eq_ofNat_of_zero_le (by omega : 0 ≤ hz)
  exact hertzText_isScaled (by omega) (by omega)

/-- A number just below the next unit, in both systems. -/
theorem text_isScaled_nextUnit :
    (∃ size unit number, (size, unit) ∈ binaryUnits ∧
      ShowsAmount (binaryBytesText 1048575) 1 number unit ∧ IsScaled 1048575 size 1024 1 number) ∧
    ∃ size unit number, (size, unit) ∈ decimalUnits ∧
      ShowsAmount (hertzText 999999) 2 number unit ∧ IsScaled 999999 size 1000 2 number :=
  ⟨text_isScaled.1 1048575 (by decide) (by decide), text_isScaled.2 999999 (by decide) (by decide)⟩

/-- The number can be the next unit, in the smaller one. -/
theorem text_nextUnit :
    (binaryBytesText 1048575 = "1024.0 KiB" ∧ ∀ number unit,
      ShowsAmount (binaryBytesText 1048575) 1 number unit → number = 1024) ∧
    hertzText 999999 = "1000.00 kHz" ∧ ∀ number unit,
      ShowsAmount (hertzText 999999) 2 number unit → number = 1000 := by
  have hBytes : binaryBytesText 1048575 = "1024.0 KiB" := by decide +kernel
  have hHertz : hertzText 999999 = "1000.00 kHz" := by decide +kernel
  have hBytesShow : ShowsAmount "1024.0 KiB" 1 (10240 / 10 ^ 1 : ℚ) "KiB" :=
    ⟨_, isDecimal_placesText one_ne_zero 10240, by decide⟩
  have hHertzShow : ShowsAmount "1000.00 kHz" 2 (100000 / 10 ^ 2 : ℚ) "kHz" :=
    ⟨_, isDecimal_placesText two_ne_zero 100000, by decide⟩
  -- a text shows one number only
  rw [hBytes, hHertz]
  refine ⟨⟨rfl, fun number unit h => ?_⟩, rfl, fun number unit h => ?_⟩
  · rw [h.number_unique hBytesShow]
    norm_num
  · rw [h.number_unique hHertzShow]
    norm_num

end HardwareReport.Quantity
