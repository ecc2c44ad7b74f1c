import SocTriage.Text

/-!
Instants, durations and `datetime` values. An instant is an integer, the microseconds since
1970-01-01 in UTC, without the year range of `datetime`, so no arithmetic overflows. A
`datetime` is a wall clock reading with its UTC offset, absent when the value is naive.
Two aware values are equal in Python when their instants are. The rows of the database
hold instants: the repositories write `as_utc` values and read UTC values back.
-/
namespace SocTriage

/-- Microseconds of a whole number of seconds, `timedelta(seconds=..)`. -/
def seconds (n : Nat) : Int := n * 1000000

structure Datetime where
  wall : Int
  utcoffset : Option Int := some 0
deriving DecidableEq, Repr

namespace Datetime

/-- The instant an aware value denotes; a naive value is read as UTC. -/
def instant (d : Datetime) : Int := d.wall - d.utcoffset.getD 0

/-- An instant read back from the database. -/
def of_instant (t : Int) : Datetime := ⟨t, some 0⟩

/-- `as_utc`, and `value.astimezone(UTC)` of an aware value. -/
def as_utc (d : Datetime) : Datetime := of_instant d.instant

def aware (d : Datetime) : Bool := d.utcoffset.isSome

/-- The offset as `isoformat` spells it: `+HH:MM`, with seconds and microseconds when it has some. -/
def offset_text (offset : Int) : String :=
  let sign := if offset < 0 then "-" else "+"
  let micros := offset.natAbs
  let whole := micros / 1000000
  let fraction := micros % 1000000
  sign ++ Text.zero_padded 2 (whole / 3600) ++ ":" ++ Text.zero_padded 2 (whole / 60 % 60) ++
    (if whole % 60 = 0 ∧ fraction = 0 then "" else ":" ++ Text.zero_padded 2 (whole % 60)) ++
    (if fraction = 0 then "" else "." ++ Text.zero_padded 6 fraction)

/-- `datetime.isoformat()`. -/
def isoformat (d : Datetime) : String :=
  Text.wall_isoformat d.wall ++ (match d.utcoffset with | none => "" | some offset => offset_text offset)

@[simp] theorem instant_of_instant (t : Int) : (of_instant t).instant = t := by simp [of_instant, instant]
@[simp] theorem instant_as_utc (d : Datetime) : d.as_utc.instant = d.instant := by simp [as_utc]
@[simp] theorem as_utc_as_utc (d : Datetime) : d.as_utc.as_utc = d.as_utc := by simp [as_utc]
@[simp] theorem as_utc_of_instant (t : Int) : (of_instant t).as_utc = of_instant t := by simp [as_utc]

theorem as_utc_eq_iff {d e : Datetime} : d.as_utc = e.as_utc ↔ d.instant = e.instant := by
  simp [as_utc, of_instant]

example : isoformat ⟨1767312000000001, some 19800000000⟩ = "2026-01-02T00:00:00.000001+05:30" := by decide

end Datetime
end SocTriage
