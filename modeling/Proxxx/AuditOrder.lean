/-
What the timestamps of the audit log denote.  Up to the year 9999 a reader that counts days
by the Gregorian rule gets back the second that was formatted, and the texts are ordered as
the seconds are, on which the filter of a query relies.
-/
import Mathlib
import Proxxx.AuditTime

namespace Proxxx

open List

section Digits

variable {width value other : Nat}

/-- The last digits of a number, as many as there is room for. -/
def fixedDigits : Nat → Nat → List Char
  | 0, _ => []
  | width + 1, value => fixedDigits width (value / 10) ++ [Nat.digitChar (value % 10)]

@[simp] theorem length_fixedDigits (width value : Nat) :
    (fixedDigits width value).length = width := by
  induction width generalizing value with
  | zero => rfl
  | succ width ih => simp [fixedDigits, ih]

theorem fixedDigits_zero (width : Nat) : fixedDigits width 0 = replicate width '0' := by
  induction width with
  | zero => rfl
  | succ width ih =>
    rw [replicate_succ', ← ih]
    rfl

theorem div_ten_lt (hvalue : value < 10 ^ (width + 1)) : value / 10 < 10 ^ width := by
  rw [Nat.pow_succ] at hvalue
  omega

theorem toList_zeroPadded (hwidth : 0 < width) (hvalue : value < 10 ^ width) :
    (zeroPadded width value).toList = fixedDigits width value := by
  induction width generalizing value with
  | zero => cases hwidth
  | succ width ih =>
    by_cases hsmall : value < 10
    · simp [zeroPadded, fixedDigits, Nat.div_eq_of_lt hsmall, Nat.mod_eq_of_lt hsmall,
        fixedDigits_zero, Nat.repr_of_lt hsmall]
    · have hpositive : 0 < width := by
        rcases Nat.eq_zero_or_pos width with rfl | hpositive
        · omega
        · exact hpositive
      have hrest := ih hpositive (div_ten_lt hvalue)
      rw [fixedDigits, ← hrest]
      simp [zeroPadded, Nat.repr_of_ge (Nat.not_lt.mp hsmall), Nat.add_sub_add_right]

theorem ofDigitChars_fixedDigits (hvalue : value < 10 ^ width) :
    Nat.ofDigitChars 10 (fixedDigits width value) 0 = value := by
  induction width generalizing value with
  | zero => exact (Nat.lt_one_iff.mp hvalue).symm
  | succ width ih =>
    rw [fixedDigits, Nat.ofDigitChars_append, ih (div_ten_lt hvalue),
      Nat.ofDigitChars_cons_digitChar_of_lt_ten (Nat.mod_lt _ (by decide))]
    simp only [Nat.ofDigitChars_nil]
    omega

theorem fixedDigits_inj (hvalue : value < 10 ^ width) (hother : other < 10 ^ width) :
    fixedDigits width value = fixedDigits width other ↔ value = other := by
  refine ⟨fun heq => ?_, congrArg _⟩
  rw [← ofDigitChars_fixedDigits hvalue, heq, ofDigitChars_fixedDigits hother]

/-- Behind parts of one length the rests are compared only if the parts are the same. -/
theorem append_lt_append_iff {one two rest later : List Char} (hlength : one.length = two.length) :
    one ++ rest < two ++ later ↔ one < two ∨ one = two ∧ rest < later := by
  induction one generalizing two with
  | nil =>
    obtain rfl := length_eq_zero_iff.mp hlength.symm
    simp
  | cons c one ih =>
    obtain ⟨d, two, rfl⟩ := exists_cons_of_length_eq_add_one hlength.symm
    rw [cons_append, cons_append, cons_lt_cons_iff, cons_lt_cons_iff, ih (by simpa using hlength),
      cons.injEq]
    tauto

theorem fixedDigits_lt_iff (hvalue : value < 10 ^ width) (hother : other < 10 ^ width) :
    fixedDigits width value < fixedDigits width other ↔ value < other := by
  induction width generalizing value other with
  | zero => simp_all
  | succ width ih =>
    have hdigit : ∀ a < 10, ∀ b < 10, [Nat.digitChar a] < [Nat.digitChar b] ↔ a < b := by decide
    have hfront := div_ten_lt hvalue
    have hfront' := div_ten_lt hother
    rw [fixedDigits, fixedDigits, append_lt_append_iff (by simp), fixedDigits_inj hfront hfront',
      ih hfront hfront', hdigit _ (Nat.mod_lt _ (by decide)) _ (Nat.mod_lt _ (by decide))]
    omega

/-- Padded numbers at the front of two texts. -/
theorem zeroPadded_lt_iff {mark : Char} {rest later : List Char} (hwidth : 0 < width)
    (hvalue : value < 10 ^ width) (hother : other < 10 ^ width) :
    (zeroPadded width value).toList ++ mark :: rest <
        (zeroPadded width other).toList ++ mark :: later ↔
      value < other ∨ value = other ∧ rest < later := by
  rw [toList_zeroPadded hwidth hvalue, toList_zeroPadded hwidth hother,
    append_lt_append_iff (by simp), fixedDigits_lt_iff hvalue hother, fixedDigits_inj hvalue hother, cons_lt_cons_iff]
  simp

end Digits

section Calendar

/-- The days in front of a year, by the Gregorian rule. -/
def yearStart (y : Nat) : Nat :=
  365 * (y - 1) + (y - 1) / 4 - (y - 1) / 100 + (y - 1) / 400

/-- The days of a year in front of a month: those of a year with 30 days in February, less
what this year has fewer. -/
def monthStart (y mo : Nat) : Nat :=
  (367 * mo - 362) / 12 -
    if mo ≤ 2 then 0 else if yearStart (y + 1) - yearStart y = 366 then 1 else 2

def monthLength (y mo : Nat) : Nat :=
  monthStart y (mo + 1) - monthStart y mo

/-- A day of the calendar and its number. -/
structure DayAt (y mo d days : Nat) : Prop where
  year : 1970 ≤ y
  month : 1 ≤ mo ∧ mo ≤ 12
  day : 1 ≤ d ∧ d ≤ monthLength y mo
  number : yearStart y + monthStart y mo + d = yearStart 1970 + days + 1

theorem yearStart_succ {y : Nat} (hy : 1970 ≤ y) :
    yearStart (y + 1) = yearStart y + yearDays y := by
  obtain ⟨w, rfl⟩ := Nat.exists_eq_add_of_le' (Nat.le_trans (by decide : 1 ≤ 1970) hy)
  have hfour := Nat.mod_mod_of_dvd (w + 1) (by decide : 4 ∣ 100)
  have hhundred := Nat.mod_mod_of_dvd (w + 1) (by decide : 100 ∣ 400)
  have hless : w / 100 ≤ w := Nat.div_le_self ..
  simp only [yearStart, Nat.add_sub_cancel, Nat.succ_div, yearDays, isLeap, Nat.dvd_iff_mod_eq_zero]
  grind

theorem yearStart_mono {y z : Nat} (hy : 1970 ≤ y) (hle : y ≤ z) : yearStart y ≤ yearStart z := by
  induction hle with
  | refl => exact le_rfl
  | step hle ih => exact ih.trans (yearStart_succ (hy.trans hle) ▸ Nat.le_add_right ..)

theorem splitYear_spec {fuel days y : Nat} (hfuel : days ≤ fuel) (hy : 1970 ≤ y) :
    1970 ≤ (splitYear fuel days y).1 ∧
      (splitYear fuel days y).2 < yearDays (splitYear fuel days y).1 ∧
      yearStart (splitYear fuel days y).1 + (splitYear fuel days y).2 = yearStart y + days := by
  have hpositive : ∀ y, 0 < yearDays y := by
    intro y
    unfold yearDays
    split <;> decide
  induction fuel generalizing days y with
  | zero =>
    obtain rfl := Nat.le_zero.mp hfuel
    exact ⟨hy, hpositive y, rfl⟩
  | succ fuel ih =>
    rw [splitYear]
    split
    next hless => exact ⟨hy, hless, rfl⟩
    next hmore =>
      have hdays := hpositive y
      have hnext := @ih (days - yearDays y) (y + 1) (by omega) (by omega)
      rw [yearStart_succ hy] at hnext
      exact ⟨hnext.1, hnext.2.1, by omega⟩

theorem splitMonth_spec {months : List Nat} {days : Nat} (hdays : days < months.sum) (mo : Nat) :
    ∃ k left, splitMonth months days mo = (mo + k, left) ∧ k < months.length ∧
      left < months.getD k 0 ∧ days = (months.take k).sum + left := by
  induction months generalizing days mo with
  | nil => simp at hdays
  | cons dm rest ih =>
    rw [splitMonth]
    split
    next hless => exact ⟨0, days, rfl, by simp, by simpa using hless, by simp⟩
    next hmore =>
      rw [sum_cons] at hdays
      obtain ⟨k, left, hsplit, hk, hleft, htaken⟩ := @ih (days - dm) (by omega) (mo + 1)
      refine ⟨k + 1, left, by rw [hsplit, Nat.add_assoc, Nat.add_comm 1], by simpa using hk,
        by simpa using hleft, ?_⟩
      rw [take_succ_cons, sum_cons]
      omega

/-- The table of the source against the calendar. -/
theorem monthDays_spec {y : Nat} (hy : 1970 ≤ y) : (monthDays (isLeap y)).sum = yearDays y ∧
    (∀ k < 12, ((monthDays (isLeap y)).take k).sum = monthStart y (k + 1) ∧
      (monthDays (isLeap y)).getD k 0 = monthLength y (k + 1)) ∧
    (∀ i < 14, ∀ j < 14, i ≤ j → monthStart y i ≤ monthStart y j) ∧
    monthStart y 13 = yearDays y := by
  unfold monthLength monthStart
  rw [yearStart_succ hy, Nat.add_sub_cancel_left, yearDays]
  cases isLeap y <;> decide +kernel

/-- The two loops find the day with a number. -/
theorem daysToYmd_spec (days : Nat) :
    ∃ y mo d, daysToYmd days = (y, mo, d) ∧ DayAt y mo d days := by
  obtain ⟨hyear, hleft, hnumber⟩ := @splitYear_spec days days 1970 le_rfl le_rfl
  rcases hsplit : splitYear days days 1970 with ⟨y, left⟩
  simp only [hsplit] at hyear hleft hnumber
  obtain ⟨hsum, hmonths, -⟩ := monthDays_spec hyear
  obtain ⟨k, d, hmonth, hk, hd, htaken⟩ := splitMonth_spec (hsum ▸ hleft) 1
  change k < 12 at hk
  rw [(hmonths k hk).1] at htaken
  rw [(hmonths k hk).2] at hd
  exact ⟨y, k + 1, d + 1, by simp [daysToYmd, hsplit, hmonth, Nat.add_comm], hyear, by omega,
    by omega, by omega⟩

variable {y mo d days z no e later : Nat}

theorem DayAt.next_month (hday : DayAt y mo d days) :
    monthStart y mo + d ≤ monthStart y (mo + 1) := by
  have hlength := hday.day
  unfold monthLength at hlength
  omega

/-- A day is in its year. -/
theorem DayAt.in_year (hday : DayAt y mo d days) :
    yearStart y ≤ yearStart 1970 + days ∧ yearStart 1970 + days < yearStart (y + 1) := by
  obtain ⟨-, -, hmono, hyear⟩ := monthDays_spec hday.year
  have hmonth := hday.month
  have hnext := hday.next_month
  have hlast := hmono (mo + 1) (by omega) 13 (by omega) (by omega)
  have hnumber := hday.number
  have hpositive := hday.day.1
  rw [yearStart_succ hday.year]
  omega

/-- Days are ordered by year, month and day of the month. -/
theorem DayAt.lt_iff (hday : DayAt y mo d days) (hlater : DayAt z no e later) :
    days < later ↔ y < z ∨ y = z ∧ (mo < no ∨ mo = no ∧ d < e) := by
  have hin := hday.in_year
  have hin' := hlater.in_year
  have hnumber := hday.number
  have hnumber' := hlater.number
  rcases Nat.lt_trichotomy y z with hlt | rfl | hgt
  · have hyears := yearStart_mono (by have := hday.year; omega) (Nat.add_one_le_of_lt hlt)
    exact iff_of_true (by omega) (.inl hlt)
  · obtain ⟨-, -, hmono, -⟩ := monthDays_spec hday.year
    have hmonth := hday.month
    have hmonth' := hlater.month
    have hpositive := hday.day.1
    have hpositive' := hlater.day.1
    rcases Nat.lt_trichotomy mo no with hlt | rfl | hgt
    · have hmonths := hmono (mo + 1) (by omega) no (by omega) hlt
      have hnext := hday.next_month
      omega
    · omega
    · have hmonths := hmono (no + 1) (by omega) mo (by omega) hgt
      have hnext := hlater.next_month
      omega
  · have hyears := yearStart_mono (by have := hlater.year; omega) (Nat.add_one_le_of_lt hgt)
    exact iff_of_false (by omega) (by omega)

end Calendar

section Timestamps

/-- A number of fixed width and the mark behind it. -/
def cutField (width : Nat) (mark : Char) (text : List Char) : Option (Nat × List Char) :=
  match text.drop width with
  | [] => none
  | c :: rest =>
    if c = mark ∧ (text.take width).all Char.isDigit then
      some (Nat.ofDigitChars 10 (text.take width) 0, rest)
    else none

/-- The second that a text of the form `YYYY-MM-DDTHH:MM:SSZ` denotes, if it is a valid date
and time. -/
def instantOf (text : String) : Option Nat := do
  let (y, text) ← cutField 4 '-' text.toList
  let (mo, text) ← cutField 2 '-' text
  let (d, text) ← cutField 2 'T' text
  let (h, text) ← cutField 2 ':' text
  let (m, text) ← cutField 2 ':' text
  let (s, text) ← cutField 2 'Z' text
  if text = [] ∧ (1 ≤ mo ∧ mo ≤ 12) ∧ (1 ≤ d ∧ d ≤ monthLength y mo) ∧ h < 24 ∧ m < 60 ∧ s < 60 then
    some ((yearStart y + monthStart y mo + d - (yearStart 1970 + 1)) * 86400 + h * 3600 + m * 60 + s)
  else none

theorem cutField_zeroPadded {width value : Nat} {mark : Char} {rest : List Char}
    (hwidth : 0 < width) (hvalue : value < 10 ^ width) :
    cutField width mark ((zeroPadded width value).toList ++ mark :: rest) = some (value, rest) := by
  have hdigits : (zeroPadded width value).toList.all Char.isDigit = true :=
    all_eq_true.mpr fun _ hc => isDigit_of_mem_zeroPadded hc
  have hlength : (zeroPadded width value).toList.length = width := by
    rw [toList_zeroPadded hwidth hvalue, length_fixedDigits]
  rw [cutField, drop_left' hlength, take_left' hlength]
  dsimp only
  rw [if_pos ⟨rfl, hdigits⟩, toList_zeroPadded hwidth hvalue, ofDigitChars_fixedDigits hvalue]

/-- What a timestamp is made of. -/
theorem chronoNow_spec {secs : Nat} (hsecs : secs < (yearStart 10000 - yearStart 1970) * 86400) :
    ∃ y mo d h m s, DayAt y mo d (secs / 86400) ∧ y < 10000 ∧ d < 100 ∧ h < 24 ∧ m < 60 ∧ s < 60 ∧
      secs = secs / 86400 * 86400 + h * 3600 + m * 60 + s ∧
      (chronoNow secs).toList = (zeroPadded 4 y).toList ++ '-' :: ((zeroPadded 2 mo).toList ++
        '-' :: ((zeroPadded 2 d).toList ++ 'T' :: ((zeroPadded 2 h).toList ++
        ':' :: ((zeroPadded 2 m).toList ++ ':' :: ((zeroPadded 2 s).toList ++ 'Z' :: []))))) := by
  obtain ⟨y, mo, d, hymd, hday⟩ := daysToYmd_spec (secs / 86400)
  have hyear : y < 10000 := by
    by_contra hlate
    have hyears := yearStart_mono (by decide) (Nat.not_lt.mp hlate)
    have hin := hday.in_year.1
    omega
  have hshort : d < 100 := by
    have hmonth := hday.month
    have hlength := hday.day.2
    unfold monthLength monthStart at hlength
    split_ifs at hlength <;> omega
  refine ⟨y, mo, d, secs / 3600 % 24, secs / 60 % 60, secs % 60, hday, hyear, hshort,
    Nat.mod_lt _ (by decide), Nat.mod_lt _ (by decide), Nat.mod_lt _ (by decide), by omega, ?_⟩
  simp [chronoNow, unixToYmdhms, hymd]

/-- Before the year 10000 a timestamp denotes the second it was made from, and timestamps are
ordered as the seconds are. -/
theorem timestamps_exact {secs later : Nat} (hsecs : secs < (yearStart 10000 - yearStart 1970) * 86400)
    (hlater : later < (yearStart 10000 - yearStart 1970) * 86400) :
    instantOf (chronoNow secs) = some secs ∧ (chronoNow secs < chronoNow later ↔ secs < later) := by
  obtain ⟨y, mo, d, h, m, s, hday, hy, hd, hh, hm, hs, hnumber, htext⟩ := chronoNow_spec hsecs
  obtain ⟨y', mo', d', h', m', s', hday', hy', hd', hh', hm', hs', hnumber', htext'⟩ :=
    chronoNow_spec hlater
  have hmo := hday.month
  have hmo' := hday'.month
  constructor
  · have hvalid : (1 ≤ mo ∧ mo ≤ 12) ∧ (1 ≤ d ∧ d ≤ monthLength y mo) ∧ h < 24 ∧ m < 60 ∧ s < 60 :=
      ⟨hmo, hday.day, hh, hm, hs⟩
    have hdays := hday.number
    rw [instantOf, htext]
    simp (disch := omega) only [cutField_zeroPadded, Option.bind_eq_bind, Option.bind_some,
      true_and, hvalid, and_self, if_true, Option.some.injEq]
    omega
  · rw [String.lt_iff_toList_lt, htext, htext']
    simp (disch := omega) only [zeroPadded_lt_iff, lt_self_iff_false, and_false, or_false]
    have hdates := hday.lt_iff hday'
    have hsame : secs / 86400 = later / 86400 ↔ y = y' ∧ mo = mo' ∧ d = d' := by
      have hback := hday'.lt_iff hday
      omega
    omega

/-- The last second of a leap day and the first one of the next month. -/
theorem timestamps_exact_leap : instantOf (chronoNow 951868799) = some 951868799 ∧
    (chronoNow 951868799 < chronoNow 951868800 ↔ 951868799 < 951868800) :=
  timestamps_exact (by decide) (by decide)

end Timestamps

end Proxxx
