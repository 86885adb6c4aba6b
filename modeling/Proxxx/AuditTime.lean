/-
The timestamp text of the audit log: Unix seconds to civil date and time, and
the fixed `YYYY-MM-DDTHH:MM:SSZ` form.
-/
import Mathlib.Data.List.Basic

namespace Proxxx

def isLeap (y : Nat) : Bool :=
  (y % 4 == 0 && !(y % 100 == 0)) || y % 400 == 0

def yearDays (y : Nat) : Nat :=
  if isLeap y then 366 else 365

/-- The year loop.  Every round takes at least 365 days away, so `days` rounds
of fuel are more than enough. -/
def splitYear : Nat → Nat → Nat → Nat × Nat
  | 0, days, y => (y, days)
  | fuel + 1, days, y =>
    if days < yearDays y then (y, days)
    else splitYear fuel (days - yearDays y) (y + 1)

def monthDays (leap : Bool) : List Nat :=
  [31, if leap then 29 else 28, 31, 30, 31, 30, 31, 31, 30, 31, 30, 31]

/-- The month loop: the month reached and the days left in it. -/
def splitMonth : List Nat → Nat → Nat → Nat × Nat
  | [], days, mo => (mo, days)
  | dm :: rest, days, mo =>
    if days < dm then (mo, days) else splitMonth rest (days - dm) (mo + 1)

/-- Days since the epoch as year, month and day of the month. -/
def daysToYmd (days : Nat) : Nat × Nat × Nat :=
  let (y, days) := splitYear days days 1970
  let (mo, days) := splitMonth (monthDays (isLeap y)) days 1
  (y, mo, days + 1)

/-- Seconds since the epoch as year, month, day, hour, minute and second. -/
def unixToYmdhms (secs : Nat) : Nat × Nat × Nat × Nat × Nat × Nat :=
  let s := secs % 60
  let m := (secs / 60) % 60
  let h := (secs / 3600) % 24
  let (y, mo, d) := daysToYmd (secs / 86400)
  (y, mo, d, h, m, s)

/-- Decimal text padded with zeros to at least `width` characters. -/
def zeroPadded (width value : Nat) : String :=
  String.ofList (List.replicate (width - (toString value).length) '0') ++ toString value

/-- The timestamp text of the clock reading `secs`. -/
def chronoNow (secs : Nat) : String :=
  let (y, mo, d, h, m, s) := unixToYmdhms secs
  zeroPadded 4 y ++ "-" ++ zeroPadded 2 mo ++ "-" ++ zeroPadded 2 d ++ "T" ++
    zeroPadded 2 h ++ ":" ++ zeroPadded 2 m ++ ":" ++ zeroPadded 2 s ++ "Z"

theorem isDigit_of_mem_zeroPadded {width value : Nat} {c : Char}
    (hc : c ∈ (zeroPadded width value).toList) : c.isDigit := by
  simp only [zeroPadded, String.toList_append, String.toList_ofList,
    Nat.toString_eq_repr, Nat.toList_repr, List.mem_append] at hc
  rcases hc with hpad | hdigit
  · rw [List.eq_of_mem_replicate hpad]
    decide
  · exact Nat.isDigit_of_mem_toDigits (by decide) (by decide) hdigit

/-- A timestamp consists of digits and the four punctuation characters of its
form. -/
theorem mem_chronoNow {secs : Nat} {c : Char} (hc : c ∈ (chronoNow secs).toList) :
    c.isDigit ∨ c ∈ ['-', 'T', ':', 'Z'] := by
  by_contra hnot
  obtain ⟨hdigit, hmark⟩ := not_or.mp hnot
  have hpadded : ∀ width value, c ∉ (zeroPadded width value).toList :=
    fun width value hmem => hdigit (isDigit_of_mem_zeroPadded hmem)
  simp only [chronoNow, String.toList_append, List.mem_append, hpadded, false_or] at hc
  simp_all

end Proxxx
