import Mathlib.Data.Prod.Lex
import SocTriage.Growth
import SocTriage.References
import SocTriage.Tallies

/-!
The daily statistics: volumes, rules and tuning suggestions of the half-open day of the calendar in
UTC. The days of a period part its rows, the rules and suggestions listed leave out none that
comes before one of them, and once a day is over its report never changes.
-/
namespace SocTriage.Stats
open Growth (Grown Later AlertColumns columns later_kept)
open Ingest (Pipeline)
open Notifications (N8N)
open References (Referenced)
open Tallies (tally leading Ranked)
open UnitsOfWork (clock engaged_any login)

/-! ### The window -/

/-- `timedelta(days=1)`. -/
def DAY : Int := 86400000000

/-- `date.max`, in days from 1970-01-01. -/
def MAX_DATE : Int := 2932896

/-- The day, from its midnight to the next; the next after `date.max` is no time. -/
def reporting_window (report_date : Int) : Option (Int × Int) :=
  if MAX_DATE ≤ report_date then none else some (report_date * DAY, report_date * DAY + DAY)

def previous_utc_date (now : Int) : Int := (now - DAY) / DAY

def within (start stop time : Int) : Bool := start ≤ time && time < stop

/-! ### The queries -/

section
variable (db : Database) (start stop : Int)

def count_alerts : Nat := (db.alerts.rows.filter (fun alert => within start stop alert.received_at)).length

def count_incidents : Nat := (db.incidents.rows.filter (fun incident => within start stop incident.created_at)).length

def feedback_counts : Nat × Nat :=
  let selected := db.analyst_feedback.filter (fun feedback => within start stop feedback.received_at)
  (selected.length, (selected.filter (fun feedback => feedback.verdict = "false_positive")).length)

def top_rules : List (String × Nat) :=
  leading 10 (tally Alert.rule_id (db.alerts.rows.filter (fun alert => within start stop alert.received_at)))

def MAX_TUNING_SUGGESTIONS : Nat := 100

/-- The rule and the agent of the alert that the feedback is on. -/
def judged (feedback : AnalystFeedback) : Option (String ×ₗ String) :=
  (db.alerts.get feedback.alert_id).map (fun alert => toLex (alert.rule_id, alert.agent_id))

/-- The false positives of the window, joined with their alerts. -/
def false_positives : List (String ×ₗ String) :=
  ((db.analyst_feedback.filter (fun feedback => within start stop feedback.received_at)).filter
    (fun feedback => feedback.verdict = "false_positive")).filterMap (judged db)

def tuning_suggestions : List ((String ×ₗ String) × Nat) :=
  leading MAX_TUNING_SUGGESTIONS ((tally id (false_positives db start stop)).filter (fun group => 3 ≤ group.2))
end

/-! ### The report -/

/-- A report without its rate, which is the quotient of two of its counts. -/
structure DailyStats where
  date : Int
  timezone : String := "UTC"
  alerts : Nat
  incidents : Nat
  feedback : Nat
  false_positive_count : Nat
  top_rules : List (String × Nat)
  tuning_suggestions : List ((String ×ₗ String) × Nat)
deriving DecidableEq

/-- `StatsService.daily`; nothing where the window overflows. -/
def daily (report_date : Option Int) (now : Int) (db : Database) : Option DailyStats :=
  let selected_date := report_date.getD (previous_utc_date now)
  (reporting_window selected_date).map (fun (start, stop) =>
    let (feedback, false_positive_count) := feedback_counts db start stop
    { date := selected_date
      alerts := count_alerts db start stop
      incidents := count_incidents db start stop
      feedback
      false_positive_count
      top_rules := top_rules db start stop
      tuning_suggestions := tuning_suggestions db start stop })

/-! ### A finished day -/

section
variable {start stop since : Int} {db db' : Database}

private theorem within_early {time : Int} (inside : within start stop time = true) : time < stop := by
  rw [within, Bool.and_eq_true, decide_eq_true_eq, decide_eq_true_eq] at inside
  exact inside.2

/-- What the report is made of, as far as the alerts go. -/
private theorem columns_of_window (db : Database) :
    (db.alerts.rows.filter (fun alert => within start stop alert.received_at)).map columns =
      (db.alerts.rows.map columns).filter (fun alert => within start stop alert.received_at) := by
  rw [List.filter_map]
  rfl

private theorem columns_kept (later : Later since db db') (finished : stop ≤ since) :
    (db'.alerts.rows.filter (fun alert => within start stop alert.received_at)).map columns =
      (db.alerts.rows.filter (fun alert => within start stop alert.received_at)).map columns := by
  rw [columns_of_window, columns_of_window]
  exact later.alerts.filter (fun _ inside => Int.lt_of_lt_of_le (within_early inside) finished)

private theorem incidents_kept (later : Later since db db') (finished : stop ≤ since) :
    count_incidents db' start stop = count_incidents db start stop := by
  have kept := @Grown.filter _ _ _ _ _ later.incidents (within start stop)
    (fun _ inside => Int.lt_of_lt_of_le (within_early inside) finished)
  rw [List.filter_map, List.filter_map] at kept
  have same := congrArg List.length kept
  rw [List.length_map, List.length_map] at same
  exact same

private theorem feedback_kept (later : Later since db db') (finished : stop ≤ since) :
    db'.analyst_feedback.filter (fun feedback => within start stop feedback.received_at) =
      db.analyst_feedback.filter (fun feedback => within start stop feedback.received_at) :=
  later.feedback.filter (fun _ inside => Int.lt_of_lt_of_le (within_early inside) finished)

/-- An alert that was there is found with the columns it had. -/
private theorem alert_kept (later : Later since db db') {alert_id : UUID} (stored : db.alerts.has alert_id = true) :
    (db'.alerts.get alert_id).map columns = (db.alerts.get alert_id).map columns := by
  obtain ⟨alert, inside, rfl⟩ := Table.has_iff.mp stored
  obtain ⟨added, listed, -⟩ := later.alerts
  have kept : columns alert ∈ db'.alerts.rows.map columns := by
    rw [listed, List.mem_append]
    exact .inl (List.mem_map_of_mem inside)
  obtain ⟨alert', inside', same⟩ := List.mem_map.mp kept
  have key : alert'.alert_id = alert.alert_id := congrArg AlertColumns.alert_id same
  have found := Table.get_of_mem inside'
  rw [key] at found
  rw [found, Table.get_of_mem inside, Option.map_some, Option.map_some, same]

private theorem judged_columns (db : Database) (feedback : AnalystFeedback) :
    judged db feedback = ((db.alerts.get feedback.alert_id).map columns).map
      (fun alert => toLex (alert.rule_id, alert.agent_id)) := by
  rw [judged, Option.map_map]
  rfl

private theorem false_positives_kept (later : Later since db db') (referenced : Referenced db) (finished : stop ≤ since) :
    false_positives db' start stop = false_positives db start stop := by
  rw [false_positives, false_positives, feedback_kept later finished]
  refine List.filterMap_congr (fun feedback inside => ?_)
  have stored := referenced.commented feedback (List.mem_of_mem_filter (List.mem_of_mem_filter inside))
  rw [judged_columns, judged_columns, alert_kept later stored]

private theorem report_kept (later : Later since db db') (referenced : Referenced db) {report_date : Int}
    (finished : (report_date + 1) * DAY ≤ since) (now now' : Int) :
    daily (some report_date) now' db' = daily (some report_date) now db := by
  rw [daily, daily, Option.getD_some, Option.getD_some, reporting_window]
  split_ifs
  · rfl
  · have passed : report_date * DAY + DAY ≤ since := by rwa [Int.add_mul, Int.one_mul] at finished
    have alerts := @columns_kept (report_date * DAY) _ _ _ _ later passed
    have rules := congrArg (List.map AlertColumns.rule_id) alerts
    rw [List.map_map, List.map_map] at rules
    have number := congrArg List.length alerts
    rw [List.length_map, List.length_map] at number
    have feedback := @feedback_kept (report_date * DAY) _ _ _ _ later passed
    have incidents := @incidents_kept (report_date * DAY) _ _ _ _ later passed
    have suggested := @false_positives_kept (report_date * DAY) _ _ _ _ later referenced passed
    have listed : top_rules db' (report_date * DAY) (report_date * DAY + DAY) =
        top_rules db (report_date * DAY) (report_date * DAY + DAY) := congrArg (leading 10) (Tallies.tally_congr rules)
    simp only [Option.map_some, feedback_counts, feedback, count_alerts, number, incidents, listed, tuning_suggestions,
      suggested]
end

private theorem previous_day_over (now : Int) : (previous_utc_date now + 1) * DAY ≤ now := by
  rw [previous_utc_date, DAY]
  omega

/-- The report of a day that is over, asked for again however much later, is the same. -/
theorem finished_day_final (pipeline : Pipeline) (n8n : N8N) (first : List Service.Event) {rest : List Service.Event}
    {report_date : Option Int} {now : Int} (passed : ∀ date, report_date = some date → (date + 1) * DAY ≤ now)
    (later : ∀ event ∈ rest, now ≤ clock event) (now' : Int) :
    daily (some (report_date.getD (previous_utc_date now))) now' (Service.after pipeline n8n (first ++ rest)).db =
      daily report_date now (Service.after pipeline n8n first).db := by
  have grown := @UnitsOfWork.Kept.related _ _ _ (later_kept now) pipeline trivial n8n first _ later
    (fun event _ => engaged_any event)
  have referenced := UnitsOfWork.invariant References.referenced_kept References.referenced_start pipeline n8n first
  cases report_date with
  | none => exact report_kept grown referenced (previous_day_over now) now now'
  | some date => exact report_kept grown referenced (passed date rfl) now now'

/-- A failed login and the verdict on it, at the start of 1970. -/
def first_day : List Service.Event :=
  [login "a1" 0, .feedback { alert_id := "a1", verdict := .FALSE_POSITIVE, received_at := 1000000 } false]

theorem first_day_final :
    daily (some 0) (2 * DAY) (Service.after Ingest.alarming DuplicateDelivery.accepting (first_day ++ [login "a2" DAY])).db =
      daily (some 0) DAY (Service.after Ingest.alarming DuplicateDelivery.accepting first_day).db :=
  @finished_day_final Ingest.alarming DuplicateDelivery.accepting first_day [login "a2" DAY] (some 0) DAY
    (by rintro _ ⟨⟩; decide) (fun event inside => by rw [List.mem_singleton.mp inside]; decide) (2 * DAY)

example : (daily none DAY (Service.after Ingest.alarming DuplicateDelivery.accepting first_day).db).map
    (fun report => (report.alerts, report.false_positive_count, report.top_rules)) = some (1, 1, [("5710", 1)]) := by
  decide +kernel

/-! ### What a report tells -/

/-- The number of alerts of a rule within the window. -/
def rule_count (db : Database) (start stop : Int) (rule_id : String) : Nat :=
  db.alerts.rows.countP (fun alert => within start stop alert.received_at && alert.rule_id = rule_id)

/-- The number of false positives within the window on alerts of a rule from an agent. -/
def pair_count (db : Database) (start stop : Int) (pair : String ×ₗ String) : Nat :=
  db.analyst_feedback.countP (fun feedback => within start stop feedback.received_at &&
    feedback.verdict = "false_positive" && judged db feedback = some pair)

/-- The ten rules with the most alerts are listed, and of the rules and agents with three false positives the hundred with
    the most; each false positive is counted for one rule and agent. -/
structure Reported (db : Database) (start stop : Int) (report : DailyStats) : Prop where
  rules : Ranked 10 1 (rule_count db start stop) report.top_rules
  suggestions : Ranked 100 3 (pair_count db start stop) report.tuning_suggestions
  judged_once : ((false_positives db start stop).dedup.map (pair_count db start stop)).sum = report.false_positive_count

section
variable (db : Database) (start stop : Int)

private theorem rule_count_eq : rule_count db start stop =
    Tallies.count Alert.rule_id (db.alerts.rows.filter (fun alert => within start stop alert.received_at)) := by
  funext rule_id
  rw [rule_count, Tallies.count, List.countP_filter]
  refine List.countP_congr (fun alert _ => ?_)
  simp [and_comm]

private theorem pair_count_eq : pair_count db start stop = Tallies.count id (false_positives db start stop) := by
  funext pair
  rw [pair_count, Tallies.count, false_positives, List.countP_filterMap, List.countP_filter, List.countP_filter]
  refine List.countP_congr (fun feedback _ => ?_)
  cases judged db feedback with
  | none => simp
  | some judgement => simp [and_comm, and_left_comm, and_assoc]

private theorem reported {db : Database} (referenced : Referenced db) {start stop : Int} {report : DailyStats}
    (rules : report.top_rules = top_rules db start stop)
    (suggestions : report.tuning_suggestions = tuning_suggestions db start stop)
    (number : report.false_positive_count = (feedback_counts db start stop).2) : Reported db start stop report := by
  refine ⟨?_, ?_, ?_⟩
  · rw [rules, top_rules, rule_count_eq, ← Tallies.tally_filter_one]
    exact Tallies.leading_ranked 10 Nat.one_pos Alert.rule_id _
  · rw [suggestions, tuning_suggestions, pair_count_eq]
    exact @Tallies.leading_ranked _ (String ×ₗ String) _ 100 3 (by decide) id (false_positives db start stop)
  · have total := Tallies.count_total id (false_positives db start stop)
    rw [← pair_count_eq, List.map_id] at total
    have joined : (false_positives db start stop).length = (feedback_counts db start stop).2 := by
      rw [false_positives, List.length_filterMap_eq_countP]
      refine List.countP_eq_length.mpr (fun feedback inside => ?_)
      rw [judged, Option.isSome_map]
      exact referenced.commented feedback (List.mem_of_mem_filter (List.mem_of_mem_filter inside))
    exact total.trans (joined.trans number.symm)
end

/-! ### A period -/

/-- The reports of so many days from the first on. -/
def reports (first : Int) (days : Nat) (now : Int) (db : Database) : List DailyStats :=
  (List.range days).filterMap (fun (day : Nat) => daily (some (first + day)) now db)

/-- Each day is reported, and what is counted in the days is what is counted in the period. -/
structure Period (db : Database) (first : Int) (days : Nat) (reports : List DailyStats) : Prop where
  dates : reports.map DailyStats.date = (List.range days).map (fun (day : Nat) => first + day)
  reported : ∀ report ∈ reports, Reported db (report.date * DAY) (report.date * DAY + DAY) report
  alerts : (reports.map DailyStats.alerts).sum = count_alerts db (first * DAY) ((first + days) * DAY)
  incidents : (reports.map DailyStats.incidents).sum = count_incidents db (first * DAY) ((first + days) * DAY)
  feedback : (reports.map DailyStats.feedback).sum = (feedback_counts db (first * DAY) ((first + days) * DAY)).1
  false_positives : (reports.map DailyStats.false_positive_count).sum =
    (feedback_counts db (first * DAY) ((first + days) * DAY)).2

/-- Rows that are counted in one of two parts. -/
private theorem parted {ρ : Type} {p q r : ρ → Bool} (parts : ∀ row, p row = (q row || r row))
    (apart : ∀ row, q row = true → r row = false) (rows : List ρ) :
    (rows.filter p).length = (rows.filter q).length + (rows.filter r).length := by
  induction rows with
  | nil => rfl
  | cons row rest ih =>
    rw [List.filter_cons, List.filter_cons, List.filter_cons, parts]
    cases first : q row with
    | true =>
      simp only [apart row first, Bool.or_false, ↓reduceIte, List.length_cons, Bool.false_eq_true, ih]
      omega
    | false =>
      simp only [Bool.false_or, Bool.false_eq_true, ↓reduceIte]
      split_ifs
      · rw [List.length_cons, List.length_cons, ih]
        omega
      · exact ih

/-- A time of a period is before its last day or within it. -/
private theorem within_next {start stop next : Int} (first : start ≤ stop) (last : stop ≤ next) (time : Int) :
    within start next time = (within start stop time || within stop next time) := by
  rw [Bool.eq_iff_iff, Bool.or_eq_true]
  simp only [within, Bool.and_eq_true, decide_eq_true_eq]
  omega

private theorem within_apart {start stop next : Int} (time : Int) (before : within start stop time = true) :
    within stop next time = false := by
  rw [Bool.eq_false_iff]
  intro after
  simp only [within, Bool.and_eq_true, decide_eq_true_eq] at before after
  omega

/-- A day more of the rows. -/
private theorem another_day {ρ : Type} (time : ρ → Int) (rows : List ρ) (first : Int) (days : Nat) :
    (rows.filter (fun row => within (first * DAY) ((first + (days + 1 : Nat)) * DAY) (time row))).length =
      (rows.filter (fun row => within (first * DAY) ((first + days) * DAY) (time row))).length +
        (rows.filter (fun row => within ((first + days) * DAY) ((first + days) * DAY + DAY) (time row))).length := by
  have next : (first + (days + 1 : Nat)) * DAY = (first + days) * DAY + DAY := by
    rw [Nat.cast_add, Nat.cast_one, ← Int.add_assoc, Int.add_mul, Int.one_mul]
  have start : first * DAY ≤ (first + days) * DAY := by
    rw [DAY]
    omega
  have stop : (first + days) * DAY ≤ (first + days) * DAY + DAY := by
    rw [DAY]
    omega
  rw [next]
  exact parted (fun row => within_next start stop (time row)) (fun row => within_apart (time row)) rows

private theorem daily_reported {db : Database} (referenced : Referenced db) {report_date : Int}
    (valid : report_date < MAX_DATE) (now : Int) :
    ∃ report, daily (some report_date) now db = some report ∧ report.date = report_date ∧
      Reported db (report_date * DAY) (report_date * DAY + DAY) report ∧
      report.alerts = count_alerts db (report_date * DAY) (report_date * DAY + DAY) ∧
      report.incidents = count_incidents db (report_date * DAY) (report_date * DAY + DAY) ∧
      report.feedback = (feedback_counts db (report_date * DAY) (report_date * DAY + DAY)).1 ∧
      report.false_positive_count = (feedback_counts db (report_date * DAY) (report_date * DAY + DAY)).2 := by
  rw [daily, Option.getD_some, reporting_window, if_neg (Int.not_le.mpr valid)]
  exact ⟨_, rfl, rfl, reported referenced rfl rfl rfl, rfl, rfl, rfl, rfl⟩

private theorem false_positive_rows (db : Database) (start stop : Int) : (feedback_counts db start stop).2 =
    ((db.analyst_feedback.filter (fun feedback => feedback.verdict = "false_positive")).filter
      (fun feedback => within start stop feedback.received_at)).length :=
  congrArg List.length (List.filter_comm _ _ _)

private theorem no_days {ρ : Type} (time : ρ → Int) (rows : List ρ) (first : Int) :
    (rows.filter (fun row => within (first * DAY) ((first + (0 : Nat)) * DAY) (time row))).length = 0 := by
  rw [List.length_eq_zero_iff, List.filter_eq_nil_iff]
  intro row _ inside
  rw [Nat.cast_zero, Int.add_zero] at inside
  simp only [within, Bool.and_eq_true, decide_eq_true_eq] at inside
  omega

private theorem period {db : Database} (referenced : Referenced db) {first : Int} {days : Nat}
    (valid : first + days ≤ MAX_DATE)
    (now : Int) : Period db first days (reports first days now db) := by
  induction days with
  | zero =>
    refine ⟨rfl, fun report none => absurd none List.not_mem_nil, (no_days _ _ _).symm, (no_days _ _ _).symm,
      (no_days _ _ _).symm, ?_⟩
    have none := no_days AnalystFeedback.received_at db.analyst_feedback first
    rw [feedback_counts, List.eq_nil_of_length_eq_zero none]
    rfl
  | succ days ih =>
    obtain ⟨dates, each, alerts, incidents, feedback, false_positives⟩ := ih (by omega)
    obtain ⟨report, found, date, exact_report, alerts', incidents', feedback', false_positives'⟩ :=
      daily_reported referenced (show first + days < MAX_DATE by omega) now
    have more : reports first (days + 1) now db = reports first days now db ++ [report] := by
      have last : [days].filterMap (fun (day : Nat) => daily (some (first + day)) now db) = [report] :=
        List.filterMap_cons_some found
      rw [reports, List.range_succ, List.filterMap_append, last]
      rfl
    rw [more]
    refine ⟨?_, ?_, ?_, ?_, ?_, ?_⟩
    · rw [List.map_append, dates, List.range_succ, List.map_append, List.map_singleton, List.map_singleton, date]
    · intro other inside
      rcases List.mem_append.mp inside with before | last
      · exact each other before
      · obtain rfl := List.mem_singleton.mp last
        rw [date]
        exact exact_report
    · rw [List.map_append, List.sum_append, alerts, List.map_singleton, List.sum_singleton, alerts']
      exact (another_day Alert.received_at _ first days).symm
    · rw [List.map_append, List.sum_append, incidents, List.map_singleton, List.sum_singleton, incidents']
      exact (another_day Incident.created_at _ first days).symm
    · rw [List.map_append, List.sum_append, feedback, List.map_singleton, List.sum_singleton, feedback']
      exact (another_day AnalystFeedback.received_at _ first days).symm
    · rw [List.map_append, List.sum_append, false_positives, List.map_singleton, List.sum_singleton, false_positives']
      rw [false_positive_rows, false_positive_rows, false_positive_rows]
      exact (another_day AnalystFeedback.received_at _ first days).symm

/-- In every database the service reaches: the reports of the days of a period are complete, and add up to the period. -/
theorem days_add_up (pipeline : Pipeline) (n8n : N8N) (events : List Service.Event) {first : Int} {days : Nat}
    (valid : first + days ≤ MAX_DATE) (now : Int) :
    Period (Service.after pipeline n8n events).db first days
      (reports first days now (Service.after pipeline n8n events).db) :=
  period (UnitsOfWork.invariant References.referenced_kept References.referenced_start pipeline n8n events) valid now

theorem two_days_add_up :
    Period (Service.after Ingest.alarming DuplicateDelivery.accepting (first_day ++ [login "a2" DAY])).db 0 2
      (reports 0 2 DAY (Service.after Ingest.alarming DuplicateDelivery.accepting (first_day ++ [login "a2" DAY])).db) :=
  days_add_up Ingest.alarming DuplicateDelivery.accepting (first_day ++ [login "a2" DAY]) (by decide) DAY

end SocTriage.Stats
