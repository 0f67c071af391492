import Passbook.Text.Blank

/-!
# Instants and their text

An `Instant` is a number of seconds since 1970-01-01 00:00 UTC and a number of
nanoseconds. In the last second of a minute the nanoseconds may go on to 2 ·
10⁹: that is a leap second, shown as second 60. Dates are those of the proleptic
Gregorian calendar.

The texts are those of RFC 3339 with six decimals of a second and the letter
`Z`; a year outside 0 to 9999 carries a sign.

## Main results

* `le_later_left`, `le_later_right` — the later of two instants is not before
  either.
-/

namespace Passbook

/-- A point in time. -/
structure Instant where
  /-- Whole seconds since the start of 1970. -/
  seconds : Int
  /-- Nanoseconds on top. -/
  nanos : Nat
deriving DecidableEq

namespace Instant

instance : Inhabited Instant := ⟨⟨0, 0⟩⟩

/-- Instants are ordered by seconds, then by nanoseconds. -/
instance : LE Instant :=
  ⟨fun a b => a.seconds < b.seconds ∨
    (a.seconds = b.seconds ∧ a.nanos ≤ b.nanos)⟩

theorem le_iff {a b : Instant} :
    a ≤ b ↔ a.seconds < b.seconds ∨
      (a.seconds = b.seconds ∧ a.nanos ≤ b.nanos) := Iff.rfl

instance (a b : Instant) : Decidable (a ≤ b) :=
  inferInstanceAs (Decidable
    (a.seconds < b.seconds ∨ (a.seconds = b.seconds ∧ a.nanos ≤ b.nanos)))

/-- The later of two instants. -/
def later (a b : Instant) : Instant := if a ≤ b then b else a

theorem le_later_left (a b : Instant) : a ≤ later a b := by
  unfold later
  split
  · assumption
  · exact Or.inr ⟨rfl, Nat.le_refl _⟩

theorem le_later_right (a b : Instant) : b ≤ later a b := by
  unfold later
  split
  · exact Or.inr ⟨rfl, Nat.le_refl _⟩
  · rename_i h
    rw [le_iff] at h ⊢
    omega

/-! ## Dates -/

/-- Year, month and day of the day that is `days` after 1970-01-01. -/
def date (days : Int) : Int × Nat × Nat :=
  let shifted := days + 719468
  let era := shifted / 146097
  let dayOfEra := (shifted % 146097).toNat
  let yearOfEra :=
    (dayOfEra - dayOfEra / 1460 + dayOfEra / 36524 - dayOfEra / 146096) / 365
  let dayOfYear :=
    dayOfEra - (365 * yearOfEra + yearOfEra / 4 - yearOfEra / 100)
  let march := (5 * dayOfYear + 2) / 153
  let day := dayOfYear - (153 * march + 2) / 5 + 1
  let month := if march < 10 then march + 3 else march - 9
  ((yearOfEra : Int) + era * 400 + (if month ≤ 2 then 1 else 0), month, day)

/-- The first second of the year -262143. -/
def earliest : Int := -8334601228800

/-- The last second of the year 262142. -/
def latest : Int := 8210266876799

/--
The instant with these seconds and nanoseconds. There is none outside the
calendar's range, and none with a leap second elsewhere than at the end of a
minute.
-/
def ofTimestamp? (seconds : Int) (nanos : Nat) : Option Instant :=
  if earliest ≤ seconds ∧ seconds ≤ latest ∧
      (nanos < 1000000000 ∨ (nanos < 2000000000 ∧ seconds % 60 = 59)) then
    some ⟨seconds, nanos⟩
  else none

/-- A year in four digits, or with a sign. -/
def yearChars (year : Int) : List Char :=
  if 0 ≤ year ∧ year ≤ 9999 then Text.zeroPadded 4 year.toNat
  else (if year < 0 then '-' else '+') :: Text.zeroPadded 4 year.natAbs

/-- Date, time of day with microseconds, and `Z`. -/
def text (t : Instant) : String :=
  let (year, month, day) := date (t.seconds / 86400)
  let second := (t.seconds % 86400).toNat
  let leap := t.nanos / 1000000000
  String.ofList <|
    yearChars year ++ '-' :: Text.zeroPadded 2 month ++ '-' ::
      Text.zeroPadded 2 day ++
    'T' :: Text.zeroPadded 2 (second / 3600) ++ ':' :: Text.zeroPadded 2
      (second / 60 % 60) ++
    ':' :: Text.zeroPadded 2 (second % 60 + leap) ++
    '.' :: Text.zeroPadded 6 (t.nanos % 1000000000 / 1000) ++ ['Z']

instance : ToString Instant := ⟨text⟩

end Instant

/--
The readings that a run takes of the clock: one for each record, by its position
in the journal, and one for each entry of the audit trail. Nothing is assumed
about them; a clock may step back.
-/
structure Clock where
  journal : Nat → Instant
  audit : Nat → Instant

namespace Clock

/-- A clock that stands still. -/
def still (t : Instant) : Clock := ⟨fun _ => t, fun _ => t⟩

end Clock

end Passbook
