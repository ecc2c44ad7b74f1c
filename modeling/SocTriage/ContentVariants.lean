import Mathlib.Data.List.Dedup
import SocTriage.DeliveryLog

/-!
The counters of an event record. A record keeps the fingerprint of the latest content alone, and
counts one content more whenever a delivery brings another one than that: a content that comes back
after another is counted again.
-/
namespace SocTriage.ContentVariants
open Ingest (Pipeline)
open Notifications (N8N)
open DeliveryLog

/-! ### Counting contents -/

/-- The contents of the deliveries since the record was made, newest first. -/
def contents (log : List Entry) (identity : String) : List String := (since_created identity log).map Entry.fingerprint

/-- No content comes back once another has come after it. -/
def Settled : List String → Prop
  | [] => True
  | [_] => True
  | latest :: previous :: earlier => (latest = previous ∨ latest ∉ previous :: earlier) ∧ Settled (previous :: earlier)

/-- A delivery either repeats the latest content, or brings a new one, or brings one back. -/
private theorem variants_step (latest previous : String) (earlier : List String) :
    (latest = previous ∧ variants (latest :: previous :: earlier) = variants (previous :: earlier) ∧
      (latest :: previous :: earlier).dedup.length = (previous :: earlier).dedup.length) ∨
    (latest ∉ previous :: earlier ∧ variants (latest :: previous :: earlier) = variants (previous :: earlier) + 1 ∧
      (latest :: previous :: earlier).dedup.length = (previous :: earlier).dedup.length + 1) ∨
    (latest ≠ previous ∧ latest ∈ previous :: earlier ∧
      variants (latest :: previous :: earlier) = variants (previous :: earlier) + 1 ∧
      (latest :: previous :: earlier).dedup.length = (previous :: earlier).dedup.length) := by
  by_cases same : latest = previous
  · subst same
    refine .inl ⟨rfl, ?_, by rw [List.dedup_cons_of_mem List.mem_cons_self]⟩
    rw [variants, if_neg (not_not.mpr rfl), Nat.add_zero]
  · have more : variants (latest :: previous :: earlier) = variants (previous :: earlier) + 1 := by
      rw [variants, if_pos (Ne.symm same)]
    by_cases known : latest ∈ previous :: earlier
    · exact .inr (.inr ⟨same, known, more, by rw [List.dedup_cons_of_mem known]⟩)
    · exact .inr (.inl ⟨known, more, by rw [List.dedup_cons_of_notMem known, List.length_cons]⟩)

/-- Changes are at least as many as distinct contents. -/
theorem distinct_le_variants : ∀ contents : List String, contents.dedup.length ≤ variants contents
  | [] => Nat.le_refl 0
  | [_] => Nat.le_refl 1
  | latest :: previous :: earlier => by
    have ih := distinct_le_variants (previous :: earlier)
    rcases variants_step latest previous earlier with ⟨-, count, distinct⟩ | ⟨-, count, distinct⟩ | ⟨-, -, count, distinct⟩
    all_goals rw [count, distinct]; omega

/-- They are as many exactly when no content comes back. -/
theorem variants_eq_distinct_iff : ∀ contents : List String, variants contents = contents.dedup.length ↔ Settled contents
  | [] => iff_of_true rfl trivial
  | [_] => iff_of_true rfl trivial
  | latest :: previous :: earlier => by
    have ih := variants_eq_distinct_iff (previous :: earlier)
    have bound := distinct_le_variants (previous :: earlier)
    rw [Settled]
    rcases variants_step latest previous earlier with
      ⟨same, count, distinct⟩ | ⟨new, count, distinct⟩ | ⟨other, back, count, distinct⟩
    · rw [count, distinct, ih]
      exact (and_iff_right (.inl same)).symm
    · rw [count, distinct, Nat.add_right_cancel_iff, ih]
      exact (and_iff_right (.inr new)).symm
    · rw [count, distinct]
      refine iff_of_false (by omega) ?_
      rintro ⟨same | new, -⟩
      · exact other same
      · exact new back

/-! ### The records of a run -/

/-- In every state the service reaches, a record counts the deliveries of its event since it was made and the changes of
    their contents, and these are as many as the distinct contents exactly when no content came back. -/
theorem live_record_counts (pipeline : Pipeline) (n8n : N8N) (events : List Service.Event) (event : AlertEvent)
    (live : event ∈ (after pipeline n8n events).service.db.alert_events.rows) :
    let log := (after pipeline n8n events).log
    event.delivery_count = (since_created event.event_identity log).length ∧
    event.content_variants = variants (contents log event.event_identity) ∧
    (contents log event.event_identity).dedup.length ≤ event.content_variants ∧
    (event.content_variants = (contents log event.event_identity).dedup.length ↔
      Settled (contents log event.event_identity)) := by
  intro log
  obtain ⟨own, -, delivered, -, changes⟩ := (after_records pipeline n8n events).told event live
  have counted : event.content_variants = variants (contents log event.event_identity) := by
    rw [contents, own, changes]
  refine ⟨by rw [own, delivered], counted, ?_, ?_⟩
  · rw [counted]
    exact distinct_le_variants _
  · rw [counted]
    exact variants_eq_distinct_iff _

/-- A failed login with an event id. -/
def worded : WazuhAlert := { Deduplication.failed_login 1 with id := some "1758900000.1" }

/-- The same event under the other description of its rule. -/
def reworded : WazuhAlert :=
  { worded with rule := { worded.rule with description := "sshd: Attempt to login using a non-existent user" } }

/-- The SHA-256 digests of the two payloads' canonical texts. -/
def worded_digest (payload : Json) : String :=
  if payload = Json.canonical (.obj (Deduplication.identity_payload reworded)) then
    "c5b12c5b02fb2829b20720911fbcfc99f6ee0a8c41902b9fae44c2a18b7d018c"
  else "9a4bb0250f5f6ee0a104ac05a59b6264c6675b392461db6233413fc122f9a125"

def worded_pipeline : Pipeline := { Ingest.alarming with sha256 := worded_digest }

/-- The event under one description, under the other, and under the first again, a second apart. -/
def alternating : List Service.Event :=
  [("a1", worded, 0), ("a2", reworded, 1000000), ("a3", worded, 2000000)].map (fun (alert_id, alert, received_at) =>
    .ingest { Ingest.failed_login_delivery alert_id received_at with alert } [] {} {})

private theorem alternated_recorded :
    ((after worded_pipeline DuplicateDelivery.accepting alternating).service.db.alert_events.get
      "wazuh:1758900000.1:5710:001").isSome := by decide +kernel

/-- The record of that event. -/
def alternated : AlertEvent :=
  ((after worded_pipeline DuplicateDelivery.accepting alternating).service.db.alert_events.get
    "wazuh:1758900000.1:5710:001").get alternated_recorded

private theorem alternated_live :
    alternated ∈ (after worded_pipeline DuplicateDelivery.accepting alternating).service.db.alert_events.rows :=
  Table.get_mem (Option.some_get alternated_recorded).symm

theorem alternated_counts :
    let log := (after worded_pipeline DuplicateDelivery.accepting alternating).log
    alternated.delivery_count = (since_created alternated.event_identity log).length ∧
    alternated.content_variants = variants (contents log alternated.event_identity) ∧
    (contents log alternated.event_identity).dedup.length ≤ alternated.content_variants ∧
    (alternated.content_variants = (contents log alternated.event_identity).dedup.length ↔
      Settled (contents log alternated.event_identity)) :=
  live_record_counts worded_pipeline DuplicateDelivery.accepting alternating alternated alternated_live

/-- Its two contents are counted as three. -/
theorem returning_content_counted : ¬ ∀ (pipeline : Pipeline) (n8n : N8N) (events : List Service.Event),
    let world := after pipeline n8n events
    ∀ event ∈ world.service.db.alert_events.rows,
      event.delivery_count = (since_created event.event_identity world.log).length ∧
      event.content_variants = (contents world.log event.event_identity).dedup.length := by
  intro always
  obtain ⟨-, distinct⟩ := always worded_pipeline DuplicateDelivery.accepting alternating alternated alternated_live
  have counted : alternated.content_variants ≠
      (contents (after worded_pipeline DuplicateDelivery.accepting alternating).log
        alternated.event_identity).dedup.length := by
    decide +kernel
  exact counted distinct

end SocTriage.ContentVariants
