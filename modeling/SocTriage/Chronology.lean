import Mathlib.Data.String.Basic
import SocTriage.Datetime

/-!
The texts of stored times. `isoformat` leaves the microseconds out when there are none, so the texts
are of two lengths; yet over all the years that `datetime` has they are in the order of the times,
and whoever sorts the texts sorts the times.
-/
namespace SocTriage.Chronology
open Text (civil_from_days wall_day wall_isoformat zero_padded)

/-! ### The calendar -/

/-- The year of its era that a day is in, counted from March. -/
private def year_of_era (doe : Nat) : Nat := (doe - doe / 1460 + doe / 36524 - doe / 146096) / 365

/-- The day of its era that a year starts on. -/
private def year_start (yoe : Nat) : Nat := 365 * yoe + yoe / 4 - yoe / 100

/-- A day by its century, its four years in that and its place in these. -/
private theorem era_split {doe : Nat} (era : doe < 146097) : ∃ century quad day,
    century ≤ 3 ∧ quad ≤ 24 ∧ day ≤ 1460 ∧ (quad = 24 → day = 1460 → century = 3) ∧
      doe = 36524 * century + 1461 * quad + day := by
  refine ⟨min (doe / 36524) 3, (doe - 36524 * min (doe / 36524) 3) / 1461,
    (doe - 36524 * min (doe / 36524) 3) % 1461, ?_, ?_, ?_, ?_, ?_⟩ <;> omega

private theorem year_split {century quad day : Nat} (c : century ≤ 3) (q : quad ≤ 24) (d : day ≤ 1460)
    (last : quad = 24 → day = 1460 → century = 3) :
    year_of_era (36524 * century + 1461 * quad + day) = 100 * century + 4 * quad + min (day / 365) 3 := by
  have centuries : (36524 * century + 1461 * quad + day) / 36524 -
      (36524 * century + 1461 * quad + day) / 146096 = century := by
    omega
  have whole : (36524 * century + 1461 * quad + day) / 146096 ≤ (36524 * century + 1461 * quad + day) / 36524 := by omega
  have quads : (36524 * century + 1461 * quad + day) / 1460 =
      25 * century + quad + (if 24 * century + quad + day < 1460 then 0 else 1) := by
    split <;> omega
  rw [year_of_era, Nat.add_sub_assoc whole, centuries, quads]
  split <;> omega

private theorem start_split {century quad year : Nat} (q : quad ≤ 24) (y : year ≤ 3) :
    year_start (100 * century + 4 * quad + year) = 36524 * century + 1461 * quad + 365 * year := by
  rw [year_start]
  omega

/-- A day is one of the 366 from the start of its year, and its year is one of the 400. -/
private theorem year_bounds {doe : Nat} (era : doe < 146097) :
    year_start (year_of_era doe) ≤ doe ∧ doe < year_start (year_of_era doe) + 366 ∧ year_of_era doe ≤ 399 := by
  obtain ⟨century, quad, day, c, q, d, last, rfl⟩ := era_split era
  rw [year_split c q d last, start_split q (Nat.min_le_right _ _)]
  omega

private theorem year_mono : Monotone year_of_era := by
  refine monotone_nat_of_le_succ (fun doe => Nat.div_le_div_right ?_)
  omega

private def day_of_era (days : Int) : Nat := (days + 719468 - (days + 719468) / 146097 * 146097).toNat

private def march_year (days : Int) : Int := (year_of_era (day_of_era days) : Int) + (days + 719468) / 146097 * 400

private def march_day (days : Int) : Nat := day_of_era days - year_start (year_of_era (day_of_era days))

private theorem day_of_era_lt (days : Int) : day_of_era days < 146097 := by
  rw [day_of_era]
  omega

private theorem march_day_le (days : Int) : march_day days ≤ 365 := by
  have bounds := year_bounds (day_of_era_lt days)
  rw [march_day]
  omega

/-- A later day is in a later year, or later in the same year. -/
private theorem march_later {a b : Int} (before : a < b) :
    march_year a < march_year b ∨ (march_year a = march_year b ∧ march_day a < march_day b) := by
  have first := year_bounds (day_of_era_lt a)
  have second := year_bounds (day_of_era_lt b)
  rcases (Int.ediv_le_ediv (by omega) (by omega) : (a + 719468) / 146097 ≤ (b + 719468) / 146097).lt_or_eq with era | era
  · left
    rw [march_year, march_year]
    omega
  · have within : day_of_era a < day_of_era b := by
      rw [day_of_era, day_of_era]
      omega
    rcases (year_mono within.le).lt_or_eq with year | year
    · left
      rw [march_year, march_year, era]
      omega
    · right
      rw [march_year, march_year, march_day, march_day, era]
      rw [year] at first ⊢
      omega

/-- The order of civil dates. -/
def Earlier (a b : Int × Nat × Nat) : Prop :=
  a.1 < b.1 ∨ (a.1 = b.1 ∧ (a.2.1 < b.2.1 ∨ (a.2.1 = b.2.1 ∧ a.2.2 < b.2.2)))

/-- The civil date of the days of a year from March on. -/
private def dated (year : Int) (doy : Nat) : Int × Nat × Nat :=
  let mp := (5 * doy + 2) / 153
  let month := if mp < 10 then mp + 3 else mp - 9
  (if month ≤ 2 then year + 1 else year, month, doy - (153 * mp + 2) / 5 + 1)

private theorem civil_dated (days : Int) : civil_from_days days = dated (march_year days) (march_day days) := rfl

/-- A month and a day of the month. -/
theorem civil_range (days : Int) : 1 ≤ (civil_from_days days).2.1 ∧ (civil_from_days days).2.1 ≤ 12 ∧
    1 ≤ (civil_from_days days).2.2 ∧ (civil_from_days days).2.2 ≤ 31 := by
  have short := march_day_le days
  rw [civil_dated]
  simp only [dated]
  refine ⟨?_, ?_, ?_, ?_⟩
  · split <;> omega
  · split <;> omega
  · omega
  · omega

private theorem dated_earlier {year year' : Int} {doy doy' : Nat} (short : doy ≤ 365) (short' : doy' ≤ 365)
    (later : year < year' ∨ (year = year' ∧ doy < doy')) : Earlier (dated year doy) (dated year' doy') := by
  simp only [Earlier, dated]
  have m : (5 * doy + 2) / 153 ≤ 11 := by omega
  have m' : (5 * doy' + 2) / 153 ≤ 11 := by omega
  have d : (153 * ((5 * doy + 2) / 153) + 2) / 5 ≤ doy := by omega
  have d' : (153 * ((5 * doy' + 2) / 153) + 2) / 5 ≤ doy' := by omega
  have months : doy < doy' → (5 * doy + 2) / 153 ≤ (5 * doy' + 2) / 153 := by omega
  generalize (5 * doy + 2) / 153 = mp at *
  generalize (5 * doy' + 2) / 153 = mp' at *
  by_cases late : mp < 10
  · by_cases late' : mp' < 10
    · simp only [late, late', if_true]
      omega
    · simp only [late, late', if_true, if_false]
      omega
  · by_cases late' : mp' < 10
    · simp only [late, late', if_true, if_false]
      omega
    · simp only [late, late', if_false]
      omega

/-- A later day has a later date. -/
theorem civil_earlier {a b : Int} (before : a < b) : Earlier (civil_from_days a) (civil_from_days b) := by
  rw [civil_dated, civil_dated]
  exact dated_earlier (march_day_le a) (march_day_le b) (march_later before)

/-! ### The texts -/

/-- `isoformat()` of a stored time. -/
def iso (instant : Int) : String := (Datetime.of_instant instant).isoformat

/-- A time of the years that `datetime` has, 1 to 9999. -/
def Representable (instant : Int) : Prop := -62135596800000000 ≤ instant ∧ instant < 253402300800000000

instance : DecidablePred Representable := fun _ => inferInstanceAs (Decidable (_ ∧ _))

private theorem year_range {instant : Int} (representable : Representable instant) :
    1 ≤ (civil_from_days (instant / 86400000000)).1 ∧ (civil_from_days (instant / 86400000000)).1 ≤ 9999 := by
  have first : civil_from_days (-719163) = (0, 12, 31) := by decide
  have last : civil_from_days 2932897 = (10000, 1, 1) := by decide
  have range := civil_range (instant / 86400000000)
  have after := civil_earlier (show -719163 < instant / 86400000000 by unfold Representable at representable; omega)
  have before := civil_earlier (show instant / 86400000000 < 2932897 by unfold Representable at representable; omega)
  rw [first] at after
  rw [last] at before
  simp only [Earlier] at after before
  omega

/-- Text in front of text of the same length decides, and where it is the same what follows does. -/
private theorem piece_lt_iff {cs ds : List Char} (long : cs.length = ds.length) (tail tail' : List Char) :
    cs ++ tail < ds ++ tail' ↔ cs < ds ∨ (cs = ds ∧ tail < tail') := by
  induction cs generalizing ds with
  | nil =>
    cases ds with
    | nil => simp
    | cons => simp at long
  | cons c cs ih =>
    cases ds with
    | nil => simp at long
    | cons d ds =>
      rw [List.cons_append, List.cons_append, List.cons_lt_cons_iff, List.cons_lt_cons_iff, List.cons.injEq,
        ih (Nat.succ.inj long)]
      tauto

/-- A number in front, of the width of its field. -/
private theorem padded_lt {width a b : Nat} (left : a < 10 ^ width) (right : b < 10 ^ width) (room : 0 < width)
    {tail tail' : List Char} (later : a < b ∨ (a = b ∧ tail < tail')) :
    (zero_padded width a).toList ++ tail < (zero_padded width b).toList ++ tail' := by
  have fits : ∀ {n}, n < 10 ^ width → (zero_padded width n).toList.length = width := by
    intro n small
    have short := (Nat.length_toDigits_le_iff (b := 10) (by decide) room).mpr small
    rw [Text.length_zero_padded]
    omega
  rw [piece_lt_iff ((fits left).trans (fits right).symm), Text.zero_padded_lt_iff left right room]
  exact later.imp id (fun both => ⟨by rw [both.1], both.2⟩)

private theorem field_lt {width a b : Nat} (left : a < 10 ^ width) (right : b < 10 ^ width) (room : 0 < width)
    {sep : Char} {tail tail' : List Char} (later : a < b ∨ (a = b ∧ tail < tail')) :
    (zero_padded width a).toList ++ sep :: tail < (zero_padded width b).toList ++ sep :: tail' :=
  padded_lt left right room (later.imp id (fun both => ⟨both.1, List.cons_lt_cons_iff.mpr (.inr ⟨rfl, both.2⟩)⟩))

/-- The end of the text: the microseconds, unless there are none, and the offset of UTC. -/
private def ending (fraction : Nat) : List Char :=
  (if fraction = 0 then [] else '.' :: (zero_padded 6 fraction).toList) ++ ['+', '0', '0', ':', '0', '0']

private theorem ending_lt {a b : Nat} (right : b < 1000000) (later : a < b) : ending a < ending b := by
  have some_left : b ≠ 0 := by omega
  rw [ending, ending, if_neg some_left]
  by_cases none_left : a = 0
  · rw [if_pos none_left]
    exact List.Lex.rel (by decide)
  · rw [if_neg none_left, List.cons_append, List.cons_append, List.cons_lt_cons_iff]
    exact .inr ⟨rfl, padded_lt (by omega) (by omega) (by decide) (.inl later)⟩

/-- The fields of the text of a time. -/
private theorem fields (instant : Int) :
    let date := civil_from_days (instant / 86400000000)
    let micros := (instant % 86400000000).toNat
    (iso instant).toList =
      (zero_padded 4 date.1.toNat).toList ++ '-' :: ((zero_padded 2 date.2.1).toList ++ '-' ::
        ((zero_padded 2 date.2.2).toList ++ 'T' :: ((zero_padded 2 (micros / 1000000 / 3600)).toList ++ ':' ::
          ((zero_padded 2 (micros / 1000000 / 60 % 60)).toList ++ ':' ::
            ((zero_padded 2 (micros / 1000000 % 60)).toList ++ ending (micros % 1000000)))))) := by
  intro date micros
  have offset : Datetime.offset_text 0 = "+00:00" := by decide
  rw [iso, Datetime.of_instant, Datetime.isoformat, wall_isoformat, wall_day]
  dsimp only
  rw [offset, ending]
  by_cases none_left : micros % 1000000 = 0
  · rw [if_pos none_left, if_pos none_left]
    simp [date, micros]
  · rw [if_neg none_left, if_neg none_left]
    simp [date, micros]

/-- The later of two times has the later text. -/
theorem iso_lt {a b : Int} (left : Representable a) (right : Representable b) (before : a < b) : iso a < iso b := by
  rw [String.lt_iff_toList_lt, fields, fields]
  have year := year_range left
  have year' := year_range right
  have range := civil_range (a / 86400000000)
  have range' := civil_range (b / 86400000000)
  rcases (Int.ediv_le_ediv (by omega) before.le : a / 86400000000 ≤ b / 86400000000).lt_or_eq with day | day
  · have later := civil_earlier day
    rw [Earlier] at later
    refine field_lt (by omega) (by omega) (by decide) ?_
    rcases later with later | ⟨same, later⟩
    · exact .inl (by omega)
    refine .inr ⟨by rw [same], field_lt (by omega) (by omega) (by decide) ?_⟩
    rcases later with later | ⟨same, later⟩
    · exact .inl later
    exact .inr ⟨same, field_lt (by omega) (by omega) (by decide) (.inl later)⟩
  · have within : (a % 86400000000).toNat < (b % 86400000000).toNat := by omega
    have short : (b % 86400000000).toNat < 86400000000 := by omega
    rw [day]
    generalize (a % 86400000000).toNat = m at *
    generalize (b % 86400000000).toNat = n at *
    refine field_lt (by omega) (by omega) (by decide) (.inr ⟨rfl, field_lt (by omega) (by omega) (by decide) (.inr ⟨rfl,
      field_lt (by omega) (by omega) (by decide) (.inr ⟨rfl, field_lt (by omega) (by omega) (by decide) ?_⟩)⟩)⟩)
    rcases (show m / 1000000 / 3600 ≤ n / 1000000 / 3600 by omega).lt_or_eq with hour | hour
    · exact .inl hour
    refine .inr ⟨hour, field_lt (by omega) (by omega) (by decide) ?_⟩
    rcases (show m / 1000000 / 60 % 60 ≤ n / 1000000 / 60 % 60 by omega).lt_or_eq with minute | minute
    · exact .inl minute
    refine .inr ⟨minute, padded_lt (by omega) (by omega) (by decide) ?_⟩
    rcases (show m / 1000000 % 60 ≤ n / 1000000 % 60 by omega).lt_or_eq with second | second
    · exact .inl second
    exact .inr ⟨second, ending_lt (by omega) (by omega)⟩

/-- Times of the years that `datetime` has are in the order of their texts. -/
theorem iso_lt_iff {a b : Int} (left : Representable a) (right : Representable b) : iso a < iso b ↔ a < b := by
  constructor
  · intro text
    rcases lt_trichotomy a b with before | rfl | after
    · exact before
    · exact absurd text (lt_irrefl _)
    · exact absurd text (lt_asymm (iso_lt right left after))
  · exact iso_lt left right

theorem iso_inj {a b : Int} (left : Representable a) (right : Representable b) : iso a = iso b ↔ a = b := by
  constructor
  · intro text
    rcases lt_trichotomy a b with before | same | after
    · exact absurd text (iso_lt left right before).ne
    · exact same
    · exact absurd text.symm (iso_lt right left after).ne
  · exact congrArg iso

example : iso 1767312000000000 < iso 1767312000500000 := by decide

end SocTriage.Chronology
