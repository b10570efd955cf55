import Mathlib.Data.List.TakeWhile
import Mathlib.Tactic.SplitIfs
import Worklist.Proofs.Text.Blank
import Worklist.Proofs.Text.Numeral
import Worklist.Timestamp.Reader

/-!
# Timestamps read back

The written form of a point in time is read as that point in time, whatever the year of the
calendar. No digit is lost: a fraction has as many as the nanoseconds need.
-/

namespace Worklist.Timestamp

variable {rest : List Char}

/-! ### Digits -/

/-- The digits of which a number is made up. -/
theorem exists_digits {acc n : Nat} {cs : List Char} (h : Text.digitsFrom? acc cs = some n) :
    ∃ ds : List Nat, cs.map Text.digit? = ds.map some ∧
      ds.foldl (fun n d => n * 10 + d) acc = n := by
  induction cs generalizing acc with
  | nil =>
    cases h
    exact ⟨[], rfl, rfl⟩
  | cons c cs ih =>
    obtain ⟨d, hd, h⟩ := Option.bind_eq_some_iff.mp h
    obtain ⟨ds, hDigits, hNumber⟩ := ih h
    exact ⟨d :: ds, by rw [List.map_cons, hd, hDigits, List.map_cons], hNumber⟩

/-- Reading digits ends behind the last one that is wanted, or in front of something else. -/
theorem digits_append {width : Nat} {cs : List Char} {ds : List Nat}
    (h : cs.map Text.digit? = ds.map some) (hne : cs ≠ []) (hWidth : cs.length ≤ width)
    (hEnd : cs.length = width ∨ ∀ c ∈ rest.head?, Text.digit? c = none) :
    digits width (cs ++ rest) = .ok (ds, rest) := by
  have hLength : cs.length = ds.length := by
    simpa using congrArg List.length h
  have hStop : ((rest.take (width - cs.length)).map Text.digit?).takeWhile Option.isSome = [] := by
    rcases hEnd with hFull | hEnd
    · rw [hFull, Nat.sub_self]
      rfl
    · cases rest with
      | nil => simp
      | cons c rest =>
        cases width - cs.length with
        | zero => rfl
        | succ k => simp [hEnd c rfl]
  have hTake : (((cs ++ rest).take width).map Text.digit?).takeWhile Option.isSome =
      ds.map some := by
    rw [List.take_append, List.take_of_length_le hWidth, List.map_append, h,
      List.takeWhile_append_of_pos (by simp), hStop, List.append_nil]
  obtain ⟨c, tail, rfl⟩ := List.exists_cons_of_ne_nil hne
  obtain ⟨d, more, rfl⟩ := List.exists_cons_of_length_eq_add_one hLength.symm
  have hDrop : (c :: tail ++ rest).drop ((d :: more).map some).length = rest := by
    rw [List.length_map, ← hLength, List.drop_left]
  rw [digits, hTake]
  change Except.ok (((d :: more).map some).filterMap id,
    (c :: tail ++ rest).drop ((d :: more).map some).length) = _
  rw [hDrop]
  simp

theorem digits_padded {width size n : Nat} (hSize : 0 < size) (hn : n < 10 ^ size)
    (hWidth : size ≤ width) (hEnd : size = width ∨ ∀ c ∈ rest.head?, Text.digit? c = none) :
    ∃ ds, digits width (Text.padded size n ++ rest) = .ok (ds, rest) ∧ ds.length = size ∧
      ofDigits ds = n := by
  have hLength := Text.length_padded hSize hn
  obtain ⟨ds, hDigits, hNumber⟩ := exists_digits (Text.digitsFrom?_padded size n)
  have hne : Text.padded size n ≠ [] := List.ne_nil_of_length_pos (by omega)
  rw [← hLength] at hWidth hEnd
  refine ⟨ds, digits_append hDigits hne hWidth hEnd, ?_, hNumber⟩
  rw [← hLength]
  simpa using (congrArg List.length hDigits).symm

theorem padded_eq_digit_cons {size n : Nat} (hSize : 0 < size) (hn : n < 10 ^ size) :
    ∃ c tail, Text.padded size n = c :: tail ∧ c.isDigit = true := by
  have hLength := Text.length_padded hSize hn
  have hDigits := Text.isDigit_of_mem_padded size n
  cases hPadded : Text.padded size n with
  | nil =>
    rw [hPadded, List.length_nil] at hLength
    omega
  | cons c tail => exact ⟨c, tail, rfl, hDigits c (hPadded ▸ List.mem_cons_self)⟩

theorem trimStart_padded {size n : Nat} (hSize : 0 < size) (hn : n < 10 ^ size) :
    Text.trimStart (Text.padded size n ++ rest) = Text.padded size n ++ rest := by
  obtain ⟨c, tail, hPadded, hc⟩ := padded_eq_digit_cons hSize hn
  rw [hPadded, List.cons_append, Text.trimStart_cons_of_not_blank (Text.isBlank_of_isDigit hc)]

/-! ### Parts -/

theorem bounded_padded {width low high n : Nat} (hWidth : 0 < width) (hn : n < 10 ^ width)
    (hLow : low ≤ n) (hHigh : n ≤ high) :
    bounded width low high (Text.padded width n ++ rest) = .ok (n, rest) := by
  obtain ⟨ds, hRead, -, hNumber⟩ := digits_padded hWidth hn (Nat.le_refl width) (.inl rfl)
  rw [bounded, trimStart_padded hWidth hn, hRead]
  simp only [bind, Except.bind, hNumber, if_pos (And.intro hLow hHigh), pure, Except.pure]

theorem padded_ne_nil (size n : Nat) : Text.padded size n ≠ [] :=
  fun h => Text.decimal_ne_nil n (List.append_eq_nil_iff.mp h).2

/-- All digits of a number are read in front of something that is not a digit. -/
theorem digits_all (size n : Nat) (hEnd : ∀ c ∈ rest.head?, Text.digit? c = none) :
    ∃ ds, digits (Text.padded size n ++ rest).length (Text.padded size n ++ rest) = .ok (ds, rest) ∧
      ofDigits ds = n := by
  obtain ⟨ds, hDigits, hNumber⟩ := exists_digits (Text.digitsFrom?_padded size n)
  have hWidth : (Text.padded size n).length ≤ (Text.padded size n ++ rest).length := by
    rw [List.length_append]
    exact Nat.le_add_right _ _
  exact ⟨ds, digits_append hDigits (padded_ne_nil size n) hWidth (.inr hEnd), hNumber⟩

theorem year_padded {n : Nat} (hn : n < 10000) :
    year (Text.padded 4 n ++ rest) = .ok ((n : Int), rest) := by
  obtain ⟨ds, hRead, -, hNumber⟩ : ∃ ds, digits 4 (Text.padded 4 n ++ rest) = .ok (ds, rest) ∧ _ :=
    digits_padded (by decide) hn (Nat.le_refl 4) (.inl rfl)
  have hPos : 0 < 4 := by decide
  obtain ⟨c, tail, hPadded, hc⟩ := padded_eq_digit_cons hPos hn
  rw [year, trimStart_padded hPos hn]
  split
  case h_1 hSign =>
    rw [hPadded] at hSign
    cases hSign
    cases hc
  case h_2 hSign =>
    rw [hPadded] at hSign
    cases hSign
    cases hc
  case h_3 => simp only [hRead, bind, Except.bind, hNumber, pure, Except.pure]

theorem year_minus_padded {n : Nat} (hn : n ≤ maxYear + 1)
    (hEnd : ∀ c ∈ rest.head?, Text.digit? c = none) :
    year ('-' :: (Text.padded 4 n ++ rest)) = .ok (-(n : Int), rest) := by
  obtain ⟨ds, hRead, hNumber⟩ := digits_all 4 n hEnd
  have hBlank : Text.isBlank '-' = false := by decide +kernel
  rw [year, Text.trimStart_cons_of_not_blank hBlank]
  simp only [hRead, bind, Except.bind, hNumber, if_pos hn, pure, Except.pure]

theorem year_plus_padded {n : Nat} (hn : n ≤ maxYear)
    (hEnd : ∀ c ∈ rest.head?, Text.digit? c = none) :
    year ('+' :: (Text.padded 4 n ++ rest)) = .ok ((n : Int), rest) := by
  obtain ⟨ds, hRead, hNumber⟩ := digits_all 4 n hEnd
  have hBlank : Text.isBlank '+' = false := by decide +kernel
  rw [year, Text.trimStart_cons_of_not_blank hBlank]
  simp only [hRead, bind, Except.bind, hNumber, if_pos hn, pure, Except.pure]

/-- A year of the calendar is read back with its sign, if it has one. -/
theorem year_yearText {y : Int} (h : inCalendar y = true)
    (hEnd : ∀ c ∈ rest.head?, Text.digit? c = none) :
    year (yearText y ++ rest) = .ok (y, rest) := by
  obtain ⟨hLow, hHigh⟩ : -262143 ≤ y ∧ y ≤ 262142 := by
    simpa [inCalendar] using h
  unfold yearText
  split_ifs with hPlain hMinus
  · rw [year_padded (by omega), Int.toNat_of_nonneg hPlain.1]
  · rw [List.cons_append, year_minus_padded (by unfold maxYear; omega) hEnd]
    congr 2
    omega
  · rw [List.cons_append, year_plus_padded (by unfold maxYear; omega) hEnd]
    congr 2
    omega

theorem mark_cons {c : Char} (hc : Text.isBlank c = false) : mark c (c :: rest) = .ok rest := by
  rw [mark, Text.trimStart_cons_of_not_blank hc]
  simp

theorem fraction_padded {size n : Nat} (hSize : 0 < size) (hn : n < 10 ^ size) (hMax : size ≤ 9) :
    fraction ('.' :: (Text.padded size n ++ 'Z' :: rest)) =
      .ok (n * 10 ^ (9 - size), 'Z' :: rest) := by
  have hEnd : ∀ c ∈ ('Z' :: rest).head?, Text.digit? c = none := by
    rintro c ⟨⟩
    rfl
  obtain ⟨ds, hRead, hLength, hNumber⟩ := digits_padded hSize hn hMax (.inr hEnd)
  have hStop : Text.digit? 'Z' = none := by rfl
  simp [fraction, hRead, bind, Except.bind, hLength, hNumber, hStop, pure, Except.pure]

theorem fraction_fractionText {n : Nat} (hn : n < 1000000000) :
    fraction (fractionText n ++ 'Z' :: rest) = .ok (n, 'Z' :: rest) := by
  unfold fractionText
  split_ifs with hNone hMillis hMicros
  · rw [hNone]
    rfl
  · rw [List.cons_append, fraction_padded (by decide) (by omega) (by decide)]
    congr 2
    omega
  · rw [List.cons_append, fraction_padded (by decide) (by omega) (by decide)]
    congr 2
    omega
  · rw [List.cons_append, fraction_padded (by decide) hn (by decide)]
    congr 2
    omega

theorem offset_utc : offset ['Z'] = .ok (0, []) := by
  decide +kernel

theorem resolve_self (t : Timestamp) (h : inCalendar t.day.year = true) :
    resolve t.day.year t.day.month t.day.day t.hour t.minute t.second t.nanosecond 0 = .ok t := by
  obtain ⟨hHour, hMinute, hSecond, hNano⟩ := t.valid
  have hMake : Day.make? t.day.year t.day.month t.day.day = some t.day := dif_pos t.day.valid
  have hShift : shifted t.day ((t.hour * 60 + t.minute : Nat) - 0) =
      (t.day, t.hour * 60 + t.minute) := by
    rw [Int.sub_zero, shifted, if_neg (by omega), if_pos (by omega), Int.toNat_natCast]
  have hTime : make? t.day (t.hour * 60 + t.minute) t.second t.nanosecond = some t := by
    have hHours : (t.hour * 60 + t.minute) / 60 = t.hour := by omega
    have hMinutes : (t.hour * 60 + t.minute) % 60 = t.minute := by omega
    simp only [make?, hHours, hMinutes]
    exact dif_pos t.valid
  rw [resolve, if_pos h, hMake]
  dsimp only
  rw [if_neg (by decide), hShift]
  dsimp only
  rw [if_pos h, hTime]

/-! ### The whole -/

/-- The calendar has the year. -/
def InCalendar (t : Timestamp) : Prop :=
  inCalendar t.day.year = true

/-- The year is written with four digits and no sign. -/
def HasPlainYear (t : Timestamp) : Prop :=
  0 ≤ t.day.year ∧ t.day.year ≤ 9999

theorem daysInMonth_le (year : Int) (month : Nat) : daysInMonth year month ≤ 31 := by
  unfold daysInMonth
  split_ifs <;> decide

theorem HasPlainYear.inCalendar {t : Timestamp} (h : t.HasPlainYear) : t.InCalendar := by
  obtain ⟨hLow, hHigh⟩ := h
  rw [InCalendar, Timestamp.inCalendar, Bool.and_eq_true, decide_eq_true_iff, decide_eq_true_iff]
  omega

/-- A point in time is read back from its written form. -/
theorem parse_text {t : Timestamp} (h : t.InCalendar) : parse t.text = .ok t := by
  obtain ⟨hMonthLow, hMonthHigh, hDayLow, hDay⟩ := t.day.valid
  have hDayHigh := hDay.trans (daysInMonth_le t.day.year t.day.month)
  obtain ⟨hHour, hMinute, hSecond, hNano⟩ := t.valid
  have hChars : t.chars = yearText t.day.year ++ '-' :: (Text.padded 2 t.day.month ++ '-' ::
      (Text.padded 2 t.day.day ++ 'T' :: (Text.padded 2 t.hour ++ ':' ::
        (Text.padded 2 t.minute ++ ':' :: (Text.padded 2 t.second ++
          (fractionText t.nanosecond ++ ['Z'])))))) := by
    simp [chars]
  have hYear : ∀ rest, year (yearText t.day.year ++ '-' :: rest) =
      .ok (t.day.year, '-' :: rest) := by
    intro rest
    apply year_yearText h
    rintro c ⟨⟩
    rfl
  have hPart : ∀ low high n rest, low ≤ n → n ≤ high → n < 100 →
      bounded 2 low high (Text.padded 2 n ++ rest) = .ok (n, rest) :=
    fun low high n rest hLow hHigh hn => bounded_padded (by decide) hn hLow hHigh
  have hHyphen : Text.isBlank '-' = false := by decide +kernel
  have hColon : Text.isBlank ':' = false := by decide +kernel
  rw [parse, text, String.toList_ofList, hChars, ofChars, hYear]
  simp only [bind, Except.bind, mark_cons hHyphen, mark_cons hColon,
    hPart 1 12 t.day.month _ hMonthLow hMonthHigh (by omega),
    hPart 1 31 t.day.day _ hDayLow hDayHigh (by omega),
    hPart 0 23 t.hour _ (Nat.zero_le _) (by omega) (by omega),
    hPart 0 59 t.minute _ (Nat.zero_le _) (by omega) (by omega),
    hPart 0 60 t.second _ (Nat.zero_le _) hSecond (by omega),
    separator, true_or, or_true, if_true, fraction_fractionText hNano, offset_utc,
    Text.trimStart_nil, ne_eq, not_true_eq_false, if_false]
  exact resolve_self t h

end Worklist.Timestamp
