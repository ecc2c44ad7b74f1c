import SocTriage.AlertListing
import SocTriage.Paging
import SocTriage.Permanence

/-!
The listings of the alerts and of the incidents, read page by page as the console does: each
next page is asked for by what the pagination of the last one said, while the service goes on.
Rows only come in and the columns they are sorted by never change, so no row is skipped.
-/
namespace SocTriage.Listings
open AlertListing (Filters list_alerts filter_alerts clamp_page by_newest equals MAX_PAGE_LIMIT DEFAULT_PAGE_LIMIT)
open Ingest (Pipeline)
open Notifications (N8N World)
open Permanence (Lasts LaterAlert LaterIncident lasts_kept)
open UnitsOfWork (engaged_any login)

/-! ### The queries -/

/-- The filters on the incidents. -/
structure IncidentFilters where
  status : Option IncidentStatus := none
  severity : Option DecisionSeverity := none
  dedupe_group_key : Option String := none
  created_from : Option Int := none
  created_to : Option Int := none

def IncidentFilters.selects (filters : IncidentFilters) (row : Incident) : Bool :=
  filters.status.all (fun status => row.status = status) && filters.severity.all (fun severity => row.severity = severity) &&
    filters.dedupe_group_key.all (fun group_key => row.dedupe_group_key = group_key) &&
    filters.created_from.all (fun earliest => row.created_at ≥ earliest) &&
    filters.created_to.all (fun latest => row.created_at ≤ latest)

/-- `ORDER BY created_at DESC, incident_id DESC`. -/
def by_latest (a b : Incident) : Prop :=
  b.created_at < a.created_at ∨ (a.created_at = b.created_at ∧ b.incident_id ≤ a.incident_id)

instance : DecidableRel by_latest := fun _ _ => inferInstanceAs (Decidable (_ ∨ _))

/-- A page of the incidents, newest first, and the number of all that the filters select. -/
def list_incidents (db : Database) (filters : IncidentFilters) (limit : Int := DEFAULT_PAGE_LIMIT) (offset : Int := 0) :
    List Incident × Nat :=
  let (limit, offset) := clamp_page limit offset
  let selected := db.incidents.rows.filter filters.selects
  (((selected.insertionSort by_latest).drop offset).take limit, selected.length)

structure Pagination where
  limit : Nat
  offset : Nat
  total : Nat
  has_more : Bool
deriving DecidableEq, Repr

def make_pagination (limit offset total : Nat) : Pagination := { limit, offset, total, has_more := offset + limit < total }

/-- `hasNextPage` of the console. -/
def has_next_page (pagination : Pagination) : Bool := pagination.offset + pagination.limit < pagination.total

/-- A limit that the request validation lets through. -/
structure PageLimit where
  limit : Nat
  positive : 1 ≤ limit
  bounded : limit ≤ 200

/-- What the console reads while it follows the pages, each of the database as it is by then. -/
def browse {ρ : Type} (list : Database → Nat → List ρ × Nat) (limit : Nat) : Nat → List Database → List ρ × Bool
  | _, [] => ([], false)
  | offset, db :: later =>
    let (items, total) := list db offset
    let pagination := make_pagination limit offset total
    if has_next_page pagination then
      let (rest, finished) := browse list limit (pagination.offset + pagination.limit) later
      (items ++ rest, finished)
    else (items, true)

/-- Reading the pages of a query is reading its listing in pages. -/
private theorem browse_listing {ρ : Type} {list : Database → Nat → List ρ × Nat} {listing : Database → List ρ} {limit : Nat}
    (pages : ∀ db offset, list db offset = (Paging.page limit offset (listing db), (listing db).length))
    (offset : Nat) (moments : List Database) :
    browse list limit offset moments = Paging.browse limit offset (moments.map listing) := by
  induction moments generalizing offset with
  | nil => rfl
  | cons db later ih =>
    rw [browse, List.map_cons, Paging.browse, pages]
    dsimp only [make_pagination]
    rw [ih]
    by_cases more : offset + limit < (listing db).length
    · simp [has_next_page, more]
    · simp [has_next_page, more]

private theorem clamp_page_of_limit (query : PageLimit) (offset : Nat) :
    clamp_page query.limit offset = (query.limit, offset) := by
  obtain ⟨limit, positive, bounded⟩ := query
  simp only [clamp_page, MAX_PAGE_LIMIT, Prod.mk.injEq]
  omega

/-! ### The listings as the service goes on -/

/-- The databases at the times of the reads, with some operations before each. -/
def moments (pipeline : Pipeline) (n8n : N8N) (world : World) : List (List Service.Event) → List Database
  | [] => []
  | events :: later =>
    let world := Runs.run (Service.step pipeline n8n) world events
    world.db :: moments pipeline n8n world later

/-- A listing that only grows as the service goes on is longer at each read. -/
private theorem moments_grow {κ : Type} {listing : Database → List κ}
    (grows : ∀ {db db'}, Lasts db db' → (listing db).Sublist (listing db')) (pipeline : Pipeline) (n8n : N8N)
    (world : World) (between : List (List Service.Event)) :
    (listing world.db :: (moments pipeline n8n world between).map listing).IsChain List.Sublist := by
  induction between generalizing world with
  | nil => exact .singleton _
  | cons events later ih =>
    rw [moments, List.map_cons]
    exact List.isChain_cons_cons.mpr ⟨grows (lasts_kept.run trivial n8n world (fun _ _ => trivial)
      (fun event _ => engaged_any event)), ih _⟩

/-- What has been browsed of a listing of which the columns of the order are seen. -/
private theorem browsed {ρ κ : Type} {list : Database → Nat → List ρ × Nat} {listing : Database → List ρ} {limit : Nat}
    (pages : ∀ db offset, list db offset = (Paging.page limit offset (listing db), (listing db).length))
    {view : ρ → κ} (grows : ∀ {db db'}, Lasts db db' → ((listing db).map view).Sublist ((listing db').map view))
    (pipeline : Pipeline) (n8n : N8N) (world : World) (between : List (List Service.Event))
    (finished : (browse list limit 0 (world.db :: moments pipeline n8n world between)).2 = true) :
    ∀ row ∈ listing world.db, ∃ read ∈ (browse list limit 0 (world.db :: moments pipeline n8n world between)).1,
      view read = view row := by
  rw [browse_listing pages] at finished ⊢
  have seen := Paging.browse_map view limit 0 ((world.db :: moments pipeline n8n world between).map listing)
  have grown := @moments_grow _ (fun db => (listing db).map view) grows pipeline n8n world between
  rw [List.map_map] at seen
  have covered := @Paging.browse_covers _ limit 0 _ _ grown (by
    have same := congrArg Prod.snd seen
    rw [List.map_cons] at same
    exact same.trans finished)
  intro row inside
  have read := covered (view row) (List.mem_map_of_mem inside)
  have same := congrArg Prod.fst seen
  rw [List.map_cons] at same
  rw [show (Paging.browse limit 0 (List.map view (listing world.db) ::
    (moments pipeline n8n world between).map (fun db => (listing db).map view))).1 = _ from same] at read
  exact List.mem_map.mp read

/-- Newest first, by time and id. -/
def latest_first (a b : Int × String) : Prop := b.1 < a.1 ∨ (a.1 = b.1 ∧ b.2 ≤ a.2)

private theorem latest_first_antisymm : Std.Antisymm latest_first := by
  refine ⟨?_⟩
  rintro ⟨time, id⟩ ⟨time', id'⟩ (later | ⟨same, below⟩) (later' | ⟨same', below'⟩)
  · exact absurd later (Int.not_lt.mpr (Int.le_of_lt later'))
  · exact absurd later (by dsimp only at same' ⊢; omega)
  · exact absurd later' (by dsimp only at same ⊢; omega)
  · exact Prod.ext same (String.le_antisymm below' below)

private theorem latest_first_total : Std.Total latest_first := by
  refine ⟨?_⟩
  rintro ⟨time, id⟩ ⟨time', id'⟩
  rcases Int.lt_trichotomy time time' with earlier | same | later
  · exact .inr (.inl earlier)
  · rcases String.le_total id id' with below | above
    · exact .inr (.inr ⟨same.symm, below⟩)
    · exact .inl (.inr ⟨same, above⟩)
  · exact .inl (.inl later)

private theorem latest_first_trans : IsTrans (Int × String) latest_first := by
  refine ⟨?_⟩
  rintro ⟨time, id⟩ ⟨time', id'⟩ ⟨time'', id''⟩ first second
  simp only [latest_first] at first second ⊢
  rcases first with later | ⟨same, below⟩
  · left
    rcases second with later' | ⟨same', -⟩ <;> omega
  · rcases second with later' | ⟨same', below'⟩
    · left; omega
    · exact .inr ⟨same.trans same', String.le_trans below' below⟩

/-! ### The alerts -/

/-- Filters on the columns that an alert of record keeps. -/
structure RecordedFilters where
  source : Option String := none
  rule_id : Option String := none
  agent_id : Option String := none
  dedupe_group_key : Option String := none

def RecordedFilters.query (filters : RecordedFilters) : Filters where
  source := filters.source
  rule_id := filters.rule_id
  agent_id := filters.agent_id
  dedupe_group_key := filters.dedupe_group_key

/-- When an alert was received, and its id. -/
def arrival (alert : Alert) : Int × String := (alert.received_at, alert.alert_id)

private def alert_listing (filters : RecordedFilters) (db : Database) : List Alert :=
  (filter_alerts db filters.query none).insertionSort by_newest

private theorem alert_listing_grows (filters : RecordedFilters) {db db' : Database} (lasts : Lasts db db') :
    ((alert_listing filters db).map arrival).Sublist ((alert_listing filters db').map arrival) := by
  have total : Std.Total by_newest := ⟨fun a b => latest_first_total.total (arrival a) (arrival b)⟩
  have trans : IsTrans Alert by_newest := ⟨fun a b c => latest_first_trans.trans (arrival a) (arrival b) (arrival c)⟩
  have antisymm := latest_first_antisymm
  refine @Paging.sorted_sublist _ _ by_newest _ _ _ latest_first _ arrival (fun newer => newer) _ _ ?_ ?_
  · have keys := db.alerts.unique
    refine List.Nodup.of_map Prod.snd ?_
    rw [List.map_map]
    exact (List.filter_sublist.map Alert.alert_id).nodup keys
  · intro alert listed
    obtain ⟨stored, selected⟩ := List.mem_filter.mp listed
    obtain ⟨later, stored, columns, -⟩ := lasts.alerts alert stored
    simp only [Permanence.recorded_columns, Prod.mk.injEq] at columns
    obtain ⟨id, source, received, group, -, rule, -, agent, -⟩ := columns
    refine List.mem_map.mpr ⟨later, List.mem_filter.mpr ⟨stored, ?_⟩, Prod.ext received id⟩
    simp only [Filters.selects, RecordedFilters.query, equals, Option.all_none, Bool.and_true] at selected ⊢
    rw [source, rule, agent, group]
    exact selected

/-- Whatever the service does between the reads, a reader that follows the pages of the alerts to the last one has read
    every alert that was stored when it began. -/
theorem alerts_browsed (pipeline : Pipeline) (n8n : N8N) (first : List Service.Event) (between : List (List Service.Event))
    (filters : RecordedFilters) (query : PageLimit)
    (finished : (browse (fun db offset => list_alerts db filters.query none query.limit offset) query.limit 0
      ((Service.after pipeline n8n first).db :: moments pipeline n8n (Service.after pipeline n8n first) between)).2 = true) :
    ∀ alert ∈ (Service.after pipeline n8n first).db.alerts.rows, filters.query.selects alert = true →
      ∃ read ∈ (browse (fun db offset => list_alerts db filters.query none query.limit offset) query.limit 0
        ((Service.after pipeline n8n first).db :: moments pipeline n8n (Service.after pipeline n8n first) between)).1,
        read.alert_id = alert.alert_id := by
  have pages : ∀ db (offset : Nat), list_alerts db filters.query none query.limit offset =
      (Paging.page query.limit offset (alert_listing filters db), (alert_listing filters db).length) := by
    intro db offset
    rw [list_alerts, clamp_page_of_limit, alert_listing, List.length_insertionSort]
    rfl
  have covered := browsed pages (alert_listing_grows filters) pipeline n8n (Service.after pipeline n8n first) between finished
  intro alert stored selected
  obtain ⟨read, listed, same⟩ := covered alert
    ((List.mem_insertionSort by_newest).mpr (List.mem_filter.mpr ⟨stored, selected⟩))
  exact ⟨read, listed, congrArg Prod.snd same⟩

/-- Two logins before the console asks for pages of one alert. -/
def logins : List Service.Event := [login "a1" 0, login "a2" 1000000]

theorem logins_browsed :
    ∃ read ∈ (browse (fun db offset => list_alerts db ({} : RecordedFilters).query none (1 : Nat) offset) 1 0
      ((Service.after Ingest.alarming DuplicateDelivery.accepting logins).db ::
        moments Ingest.alarming DuplicateDelivery.accepting (Service.after Ingest.alarming DuplicateDelivery.accepting logins)
          [[login "a3" 2000000], []])).1,
      read.alert_id = "a1" := by
  have stored : (Service.after Ingest.alarming DuplicateDelivery.accepting logins).db.alerts.has "a1" = true := by
    decide +kernel
  obtain ⟨alert, inside, oldest⟩ := Table.has_iff.mp stored
  obtain ⟨read, listed, same⟩ := alerts_browsed Ingest.alarming DuplicateDelivery.accepting logins
    [[login "a3" 2000000], []] {} ⟨1, by decide, by decide⟩ (by decide +kernel) alert inside rfl
  exact ⟨read, listed, same.trans oldest⟩

/-- A third login between the first two pages: the second page shows again what the first one did, and none is left out. -/
example : (browse (fun db offset => list_alerts db {} none 1 offset) 1 0
    ((Service.after Ingest.alarming DuplicateDelivery.accepting logins).db ::
      moments Ingest.alarming DuplicateDelivery.accepting (Service.after Ingest.alarming DuplicateDelivery.accepting logins)
        [[login "a3" 2000000], []])).1.map Alert.alert_id = ["a2", "a2", "a1"] := by decide +kernel

/-! ### The incidents -/

/-- When an incident was created, and its id. -/
def creation (incident : Incident) : Int × String := (incident.created_at, incident.incident_id)

/-- The incidents that the filters select, newest first. -/
def incident_listing (filters : IncidentFilters) (db : Database) : List Incident :=
  (db.incidents.rows.filter filters.selects).insertionSort by_latest

/-- What the console reads page by page, of a database and of those at the times of its further reads. -/
def incidents_read (filters : IncidentFilters) (query : PageLimit) (moments : List Database) : List Incident × Bool :=
  browse (fun db offset => list_incidents db filters query.limit offset) query.limit 0 moments

/-- Of a database that stays as it is, the pages are the selected incidents, each once and newest first, and one more page
    than the full ones is the last. With operations between the reads, no incident is left out that was there at the start,
    as long as the filters are on columns that stay. -/
structure IncidentsBrowsed (filters : IncidentFilters) (query : PageLimit) (db : Database) (later : List Database) :
    Prop where
  paged : incidents_read filters query (List.replicate ((incident_listing filters db).length / query.limit + 1) db) =
    (incident_listing filters db, true)
  exact : (incident_listing filters db).Perm (db.incidents.rows.filter filters.selects)
  ordered : (incident_listing filters db).Pairwise by_latest
  covered : filters.status = none → (incidents_read filters query (db :: later)).2 = true →
    ∀ incident ∈ db.incidents.rows, filters.selects incident = true →
      ∃ read ∈ (incidents_read filters query (db :: later)).1, read.incident_id = incident.incident_id

private theorem by_latest_total : Std.Total by_latest :=
  ⟨fun a b => latest_first_total.total (creation a) (creation b)⟩

private theorem by_latest_trans : IsTrans Incident by_latest :=
  ⟨fun a b c => latest_first_trans.trans (creation a) (creation b) (creation c)⟩

private theorem list_incidents_pages (filters : IncidentFilters) (query : PageLimit) (db : Database) (offset : Nat) :
    list_incidents db filters query.limit offset =
      (Paging.page query.limit offset (incident_listing filters db), (incident_listing filters db).length) := by
  rw [list_incidents, clamp_page_of_limit, incident_listing, List.length_insertionSort]
  rfl

private theorem incident_listing_grows {filters : IncidentFilters} (any_status : filters.status = none) {db db' : Database}
    (lasts : Lasts db db') :
    ((incident_listing filters db).map creation).Sublist ((incident_listing filters db').map creation) := by
  have total := by_latest_total
  have trans := by_latest_trans
  have antisymm := latest_first_antisymm
  refine @Paging.sorted_sublist _ _ by_latest _ _ _ latest_first _ creation (fun newer => newer) _ _ ?_ ?_
  · have keys := db.incidents.unique
    refine List.Nodup.of_map Prod.snd ?_
    rw [List.map_map]
    exact (List.filter_sublist.map Incident.incident_id).nodup keys
  · intro incident listed
    obtain ⟨stored, selected⟩ := List.mem_filter.mp listed
    obtain ⟨later, stored, columns, -⟩ := lasts.incidents incident stored
    simp only [Permanence.created_columns, Prod.mk.injEq] at columns
    obtain ⟨id, severity, -, group, created⟩ := columns
    refine List.mem_map.mpr ⟨later, List.mem_filter.mpr ⟨stored, ?_⟩, Prod.ext created id⟩
    simp only [IncidentFilters.selects, any_status, Option.all_none, Bool.true_and] at selected ⊢
    rw [severity, group, created]
    exact selected

/-- The console's pages of the incidents, in every database the service reaches and while it goes on. -/
theorem incidents_browsed (pipeline : Pipeline) (n8n : N8N) (first : List Service.Event) (between : List (List Service.Event))
    (filters : IncidentFilters) (query : PageLimit) :
    IncidentsBrowsed filters query (Service.after pipeline n8n first).db
      (moments pipeline n8n (Service.after pipeline n8n first) between) := by
  have total := by_latest_total
  have trans := by_latest_trans
  generalize reached : Service.after pipeline n8n first = world
  refine ⟨?_, List.perm_insertionSort by_latest _, List.pairwise_insertionSort by_latest _, ?_⟩
  · rw [incidents_read, browse_listing (list_incidents_pages filters query), List.map_replicate]
    have most := Nat.lt_div_mul_add query.positive (a := (incident_listing filters world.db).length)
    have ends := @Paging.browse_ends _ query.limit 0 ((incident_listing filters world.db).length / query.limit + 1)
      (incident_listing filters world.db) (Nat.succ_pos _) (by rw [Nat.succ_mul]; omega)
    exact Prod.ext (Paging.browse_same ends) ends
  · intro any_status finished incident stored selected
    obtain ⟨read, listed, same⟩ := browsed (list_incidents_pages filters query) (incident_listing_grows any_status) pipeline
      n8n world between finished incident ((List.mem_insertionSort by_latest).mpr (List.mem_filter.mpr ⟨stored, selected⟩))
    exact ⟨read, listed, congrArg Prod.snd same⟩

end SocTriage.Listings
