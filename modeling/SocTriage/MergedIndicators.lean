import SocTriage.Extraction
import SocTriage.UrlForms

/-!
What the extraction returns: one indicator for each type and value that is found anywhere
in the alert, in order, with every place it was found at, as far as the policy lets the list
grow; and the same list for the same nested blocks with their keys in another order.
-/
namespace SocTriage.MergedIndicators
open Patterns Scanning Normalize Extractor Extraction
open Audit (optional_text)
open Enrichment (by_key)

/-! ### What there is to find -/

/-- A text in a node, under the path of its keys. -/
inductive Leaf : String → Json → String → String → Prop
  | here {path text} : Leaf path (.str text) path text
  | under {path key fields value field text} (listed : (key, value) ∈ fields)
    (inner : Leaf (path ++ "." ++ key) value field text) :
    Leaf path (.obj fields) field text

section
variable (library : Library) (policy : ExtractionPolicy) (alert : CanonicalAlert)

/-- The texts that the policy lets be scanned, under the names of their fields. -/
inductive Scanned : String → String → Prop
  | data {field text} (included : policy.include_unknown_data_fields = true)
    (leaf : Leaf "source_event.data" (.obj alert.source_event.data) field text) (untyped : field ∉ typed_paths) :
    Scanned field text
  | syscheck {field text} (included : policy.include_unknown_data_fields = true)
    (leaf : Leaf "source_event.syscheck" (.obj alert.source_event.syscheck) field text) (untyped : field ∉ typed_paths) :
    Scanned field text
  | full_log {text} (included : policy.include_full_log = true) (logged : alert.source_event.full_log = some text) :
    Scanned "source_event.full_log" text
  | location {text} (included : policy.include_location = true) (located : alert.source_event.location = some text) :
    Scanned "source_event.location" text

/-- Where an indicator is found: as the whole of a typed field, or in a text. -/
inductive Found : IOCType → String → IOCProvenance → Prop
  | typed {path kind value normalized} (listed : (path, kind) ∈ TYPED_FIELDS) (read : resolve alert path = some (.str value))
    (normal : scan_typed_field library policy.toIOCExtractionPolicy kind value = some normalized) :
    Found kind (String.ofList normalized) (typed_candidate alert path kind value normalized).provenance
  | scanned {field text candidate} (scanned : Scanned policy alert field text)
    (found : candidate ∈ scan_text library (source_of policy alert field) text.toList) :
    Found candidate.type candidate.value candidate.provenance

/-- Before another indicator in the sort order. -/
def Before (a b : IOC) : Prop := a.type.value < b.type.value ∨ (a.type.value = b.type.value ∧ a.value < b.value)

/-- All that is found, in order, each indicator with every provenance. -/
structure Full (merged : List IOC) : Prop where
  increasing : merged.Pairwise Before
  found : ∀ type value, (∃ ioc ∈ merged, ioc.type = type ∧ ioc.value = value) ↔
    ∃ provenance, Found library policy alert type value provenance
  carried : ∀ ioc ∈ merged, ioc.provenance.Nodup ∧
    ∀ provenance, provenance ∈ ioc.provenance ↔ Found library policy alert ioc.type ioc.value provenance

/-- The raw value stands in a scanned text of the field, at the offset, and without its punctuation is the indicator. -/
def Recorded (type : IOCType) (value : String) (provenance : IOCProvenance) : Prop :=
  ∃ text offset, Scanned policy alert provenance.field text ∧ provenance.offset = some offset ∧
    (text.toList.drop offset).take provenance.raw_value.toList.length = provenance.raw_value.toList ∧
    normalize_as library policy.toIOCExtractionPolicy type (clean_match provenance.raw_value.toList) = some value.toList

end

/-- The alert with other nested blocks. -/
def with_blocks (alert : CanonicalAlert) (data syscheck : JsonObject) : CanonicalAlert :=
  { alert with source_event := { alert.source_event with data, syscheck } }

/-! ### Leaves -/

theorem field_leaves_map (path : String) (fields : JsonObject) :
    field_leaves path fields = fields.map (fun field => (field.1, string_leaves (path ++ "." ++ field.1) field.2)) := by
  induction fields with
  | nil => rfl
  | cons field rest ih => rw [field_leaves, ih, List.map_cons]

private theorem string_leaves_obj (path : String) (fields : JsonObject) {leaf : String × String} :
    leaf ∈ string_leaves path (.obj fields) ↔ ∃ field ∈ fields, leaf ∈ string_leaves (path ++ "." ++ field.1) field.2 := by
  rw [string_leaves, List.mem_flatMap, field_leaves_map]
  simp only [List.mem_insertionSort, List.mem_map]
  constructor
  · rintro ⟨row, ⟨field, listed, rfl⟩, inside⟩
    exact ⟨field, listed, inside⟩
  · rintro ⟨field, listed, inside⟩
    exact ⟨_, ⟨field, listed, rfl⟩, inside⟩

mutual
/-- The leaves are the texts of the node. -/
theorem mem_string_leaves (path : String) : ∀ (node : Json) (field text : String),
    (field, text) ∈ string_leaves path node ↔ Leaf path node field text
  | .null, _, _ | .bool _, _, _ | .int _, _, _ | .float _, _, _ | .arr _, _, _ => by
    rw [string_leaves]
    exact iff_of_false List.not_mem_nil (by rintro ⟨⟩)
  | .str own, field, text => by
    rw [string_leaves, List.mem_singleton]
    constructor
    · intro same
      cases same
      exact .here
    · rintro ⟨⟩
      rfl
  | .obj fields, field, text => by
    rw [string_leaves_obj]
    constructor
    · rintro ⟨⟨key, value⟩, listed, inside⟩
      exact .under listed ((mem_field_leaves path fields key value listed field text).mp inside)
    · rintro ⟨⟩
      rename_i key value listed inner
      exact ⟨(key, value), listed, (mem_field_leaves path fields key value listed field text).mpr inner⟩
theorem mem_field_leaves (path : String) : ∀ (fields : JsonObject) (key : String) (value : Json), (key, value) ∈ fields →
    ∀ field text, (field, text) ∈ string_leaves (path ++ "." ++ key) value ↔ Leaf (path ++ "." ++ key) value field text
  | [], _, _, listed, _, _ => by cases listed
  | (k, v) :: rest, key, value, listed, field, text => by
    rcases List.mem_cons.mp listed with same | later
    · cases same
      exact mem_string_leaves (path ++ "." ++ k) v field text
    · exact mem_field_leaves path rest key value later field text
end

/-! ### Texts -/

section
variable {library : Library} {policy : ExtractionPolicy} {alert : CanonicalAlert}

private theorem resolve_data : resolve alert "source_event.data" = some (.obj alert.source_event.data) := by
  rw [resolve, show split_path "source_event.data" = ["source_event", "data"] by decide +kernel]
  simp [follow, attributes, Json.field, Json.lookup]

private theorem resolve_syscheck : resolve alert "source_event.syscheck" = some (.obj alert.source_event.syscheck) := by
  rw [resolve, show split_path "source_event.syscheck" = ["source_event", "syscheck"] by decide +kernel]
  simp [follow, attributes, Json.field, Json.lookup]

private theorem resolve_full_log : resolve alert "source_event.full_log" = alert.source_event.full_log.map Json.str := by
  rw [resolve, show split_path "source_event.full_log" = ["source_event", "full_log"] by decide +kernel]
  cases logged : alert.source_event.full_log <;> simp [follow, attributes, Json.field, Json.lookup, optional_text, logged]

private theorem resolve_location : resolve alert "source_event.location" = alert.source_event.location.map Json.str := by
  rw [resolve, show split_path "source_event.location" = ["source_event", "location"] by decide +kernel]
  cases located : alert.source_event.location <;> simp [follow, attributes, Json.field, Json.lookup, optional_text, located]

private theorem text_of_eq_some {read : Option Json} {text : String} :
    text_of read = some text ↔ read = some (.str text) := by
  rcases read with _ | _ | _ | _ | _ | _ | _ | _ <;> simp [text_of]

private theorem text_of_map (text : Option String) : text_of (text.map Json.str) = text := by
  cases text <;> rfl

/-- An empty block has no texts, so that it is passed over makes no difference. -/
private theorem root_leaves (root : String) (fields : JsonObject) :
    (if (Json.obj fields).truthy then (string_leaves root (.obj fields)).filter (fun leaf => leaf.1 ∉ typed_paths) else []) =
      (string_leaves root (.obj fields)).filter (fun leaf => leaf.1 ∉ typed_paths) := by
  cases fields with
  | nil => simp [Json.truthy, string_leaves, field_leaves]
  | cons field rest => rw [if_pos (by rfl)]

private theorem auto_texts_included (included : policy.include_unknown_data_fields = true) : auto_texts policy alert =
    (string_leaves "source_event.data" (.obj alert.source_event.data)).filter (fun leaf => leaf.1 ∉ typed_paths) ++
      (string_leaves "source_event.syscheck" (.obj alert.source_event.syscheck)).filter
        (fun leaf => leaf.1 ∉ typed_paths) := by
  rw [auto_texts, if_pos included]
  simp only [AUTO_SCAN_ROOTS, List.flatMap_cons, List.flatMap_nil, List.append_nil, resolve_data, resolve_syscheck,
    root_leaves]

theorem mem_auto_texts {leaf : String × String} : leaf ∈ auto_texts policy alert ↔
    policy.include_unknown_data_fields = true ∧ leaf.1 ∉ typed_paths ∧
      (Leaf "source_event.data" (.obj alert.source_event.data) leaf.1 leaf.2 ∨
        Leaf "source_event.syscheck" (.obj alert.source_event.syscheck) leaf.1 leaf.2) := by
  by_cases included : policy.include_unknown_data_fields = true
  · rw [auto_texts_included included, List.mem_append, List.mem_filter, List.mem_filter, decide_eq_true_eq,
      mem_string_leaves _ _ leaf.1 leaf.2, mem_string_leaves _ _ leaf.1 leaf.2]
    simp only [included, true_and]
    rw [← or_and_right, and_comm]
  · rw [auto_texts, if_neg included]
    exact iff_of_false List.not_mem_nil (fun both => included both.1)

theorem mem_optional_texts {leaf : String × String} : leaf ∈ optional_texts policy alert ↔
    (policy.include_full_log = true ∧ alert.source_event.full_log = some leaf.2 ∧ leaf.1 = "source_event.full_log") ∨
      (policy.include_location = true ∧ alert.source_event.location = some leaf.2 ∧ leaf.1 = "source_event.location") := by
  obtain ⟨field, text⟩ := leaf
  rw [optional_texts, List.mem_filterMap]
  simp only [OPTIONAL_SCAN_FIELDS, List.mem_cons, List.not_mem_nil, or_false, exists_eq_or_imp, exists_eq_left,
    resolve_full_log, resolve_location, text_of_map]
  refine or_congr ?_ ?_
  · cases policy.include_full_log <;> cases alert.source_event.full_log <;> simp [eq_comm, and_comm]
  · cases policy.include_location <;> cases alert.source_event.location <;> simp [eq_comm, and_comm]

/-- What is scanned is what the policy lets be scanned. -/
theorem mem_texts {field text : String} :
    (field, text) ∈ auto_texts policy alert ++ optional_texts policy alert ↔ Scanned policy alert field text := by
  rw [List.mem_append, mem_auto_texts, mem_optional_texts]
  constructor
  · rintro (⟨included, untyped, leaf | leaf⟩ | ⟨included, logged, same⟩ | ⟨included, located, same⟩)
    · exact .data included leaf untyped
    · exact .syscheck included leaf untyped
    · cases same
      exact .full_log included logged
    · cases same
      exact .location included located
  · rintro (⟨included, leaf, untyped⟩ | ⟨included, leaf, untyped⟩ | ⟨included, logged⟩ | ⟨included, located⟩)
    · exact .inl ⟨included, untyped, .inl leaf⟩
    · exact .inl ⟨included, untyped, .inr leaf⟩
    · exact .inr (.inl ⟨included, logged, rfl⟩)
    · exact .inr (.inr ⟨included, located, rfl⟩)

/-- The candidates are what is found. -/
theorem found_iff {type : IOCType} {value : String} {provenance : IOCProvenance} :
    Found library policy alert type value provenance ↔ ⟨type, value, provenance⟩ ∈ candidates library policy alert := by
  rw [candidates, List.mem_append, typed_candidates, List.mem_filterMap, List.mem_flatMap]
  constructor
  · rintro (⟨listed, read, normal⟩ | ⟨scanned, found⟩)
    · refine .inl ⟨_, listed, ?_⟩
      rw [read, text_of, Option.bind_some, normal]
      rfl
    · exact .inr ⟨_, mem_texts.mpr scanned, found⟩
  · rintro (⟨⟨path, kind⟩, listed, made⟩ | ⟨⟨field, text⟩, scanned, found⟩)
    · obtain ⟨value, read, made⟩ := Option.bind_eq_some_iff.mp made
      obtain ⟨normalized, normal, same⟩ := Option.map_eq_some_iff.mp made
      cases same
      exact .typed listed (text_of_eq_some.mp read) normal
    · exact .scanned (mem_texts.mp scanned) found
end

/-! ### Normal forms are not empty -/

private theorem normalize_domain_nonempty {library : Library} {raw value : List Char}
    (normal : normalize_domain library raw = some value) : value ≠ [] := by
  rintro rfl
  have nothing : is_match Normalize.DOMAIN_RE [] = false := by decide +kernel
  rw [normalize_domain] at normal
  dsimp only at normal
  split at normal
  · cases normal
  split at normal
  · cases normal
  split at normal
  · cases normal
  · rename_i fits
    rw [not_or] at fits
    rw [Option.some.inj normal] at fits
    exact fits.2 nothing

private theorem urlunsplit_nonempty (parts : UrlSplit.SplitResult) : UrlSplit.urlunsplit parts ≠ [] := by
  simp [UrlSplit.urlunsplit]

private theorem normalize_url_nonempty {library : Library} {raw value : List Char}
    (normal : normalize_url library raw = some value) : value ≠ [] := by
  rw [normalize_url] at normal
  dsimp only at normal
  split at normal
  · cases normal
  split at normal
  · cases normal
  split at normal
  · cases normal
  split at normal
  · cases normal
  split at normal
  · cases normal
  · exact Option.some.inj normal ▸ urlunsplit_nonempty _

private theorem normalize_email_nonempty {library : Library} {raw value : List Char}
    (normal : normalize_email library raw = some value) : value ≠ [] := by
  rw [normalize_email] at normal
  dsimp only at normal
  split at normal
  · cases normal
  split at normal
  · cases normal
  split at normal
  · cases normal
  · obtain ⟨domain, -, same⟩ := Option.map_eq_some_iff.mp normal
    rw [← same]
    exact List.append_ne_nil_of_right_ne_nil _ (List.cons_ne_nil _ _)

private theorem normalize_ipv4_nonempty {library : Library} {policy : IOCExtractionPolicy} {raw value : List Char}
    (normal : normalize_ipv4 library policy raw = some value) : value ≠ [] := by
  rw [normalize_ipv4] at normal
  split at normal
  · cases normal
  split at normal
  · rw [← Option.some.inj normal, ipv4_str]
    exact List.append_ne_nil_of_right_ne_nil _ (List.cons_ne_nil _ _)
  · cases normal

private theorem normalize_hash_nonempty {library : Library} {raw value : List Char} {expected : Option IOCType}
    (normal : normalize_hash library raw expected = some value) : value ≠ [] := by
  rintro rfl
  obtain ⟨-, kind, length, -⟩ := (NormalForms.hash_normal normal).2
  cases length

/-- An indicator has a value. -/
theorem normalize_as_nonempty {library : Library} {policy : IOCExtractionPolicy} {kind : IOCType} {text value : List Char}
    (normal : normalize_as library policy kind text = some value) : value ≠ [] := by
  cases kind <;> dsimp only [normalize_as] at normal
  case IPV4 => exact normalize_ipv4_nonempty normal
  case DOMAIN => exact normalize_domain_nonempty normal
  case URL => exact normalize_url_nonempty normal
  case EMAIL => exact normalize_email_nonempty normal
  all_goals exact normalize_hash_nonempty normal

/-! ### The merge -/

/-- The indicator of a group. -/
private def built (row : (IOCType × String) × List IOCProvenance) : IOC where
  type := row.1.1
  value := row.1.2
  provenance := row.2.insertionSort by_provenance

private theorem mapM_ioc_of {rows : List ((IOCType × String) × List IOCProvenance)} (valued : ∀ row ∈ rows, row.1.2 ≠ "") :
    rows.mapM ioc_of = some (rows.map built) := by
  induction rows with
  | nil => rfl
  | cons row rest ih =>
    rw [List.forall_mem_cons] at valued
    rw [List.mapM_cons, ioc_of, if_neg valued.1, ih valued.2]
    rfl

private theorem before_of_key {a b : IOC} (ordered : by_key a b) (other : (a.type, a.value) ≠ (b.type, b.value)) :
    Before a b := by
  rcases ordered with types | ⟨types, values⟩
  · exact .inl types
  · refine .inr ⟨types, lt_of_le_of_ne values (fun same => other ?_)⟩
    rw [IOCType.value_inj types, same]

/-- The groups of the candidates as indicators, in order. -/
private def merged_of (candidates : List Candidate) : List IOC :=
  ((Grouping.group (candidates.map (fun candidate => ((candidate.type, candidate.value), candidate.provenance)))).map
    built).insertionSort by_key

private theorem mem_merged_of {candidates : List Candidate} {ioc : IOC} (listed : ioc ∈ merged_of candidates) :
    ∃ row ∈ Grouping.group (candidates.map (fun candidate => ((candidate.type, candidate.value), candidate.provenance))),
      built row = ioc :=
  List.mem_map.mp ((List.mem_insertionSort by_key).mp listed)

private theorem merged_increasing (candidates : List Candidate) : (merged_of candidates).Pairwise Before := by
  have known := Grouping.groups_group
    (candidates.map (fun candidate => ((candidate.type, candidate.value), candidate.provenance)))
  have distinct : ((merged_of candidates).map (fun ioc => (ioc.type, ioc.value))).Nodup := by
    rw [merged_of, ((List.perm_insertionSort by_key _).map _).nodup_iff, List.map_map]
    exact known.keys
  exact ((List.pairwise_insertionSort by_key _).and (List.pairwise_map.mp distinct)).imp
    (fun both => before_of_key both.1 both.2)

private theorem entered_iff {candidates : List Candidate} {type : IOCType} {value : String} {provenance : IOCProvenance} :
    ((type, value), provenance) ∈
        candidates.map (fun candidate => ((candidate.type, candidate.value), candidate.provenance)) ↔
      ⟨type, value, provenance⟩ ∈ candidates := by
  rw [List.mem_map]
  constructor
  · rintro ⟨candidate, listed, same⟩
    cases same
    exact listed
  · exact fun listed => ⟨_, listed, rfl⟩

private theorem merged_found {candidates : List Candidate} {type : IOCType} {value : String} :
    (∃ ioc ∈ merged_of candidates, ioc.type = type ∧ ioc.value = value) ↔
      ∃ provenance, ⟨type, value, provenance⟩ ∈ candidates := by
  have known := Grouping.groups_group
    (candidates.map (fun candidate => ((candidate.type, candidate.value), candidate.provenance)))
  have keyed := known.has_key (type, value)
  simp only [entered_iff] at keyed
  rw [← keyed, List.mem_map]
  constructor
  · rintro ⟨ioc, listed, rfl, rfl⟩
    obtain ⟨row, grouped, rfl⟩ := mem_merged_of listed
    exact ⟨row, grouped, rfl⟩
  · rintro ⟨row, grouped, same⟩
    refine ⟨built row, (List.mem_insertionSort by_key).mpr (List.mem_map_of_mem grouped), ?_, ?_⟩
    · exact congrArg Prod.fst same
    · exact congrArg Prod.snd same

private theorem merged_carried {candidates : List Candidate} {ioc : IOC} (listed : ioc ∈ merged_of candidates) :
    ioc.provenance.Nodup ∧ ∀ provenance, provenance ∈ ioc.provenance ↔ ⟨ioc.type, ioc.value, provenance⟩ ∈ candidates := by
  have known := Grouping.groups_group
    (candidates.map (fun candidate => ((candidate.type, candidate.value), candidate.provenance)))
  obtain ⟨row, grouped, rfl⟩ := mem_merged_of listed
  refine ⟨(List.perm_insertionSort by_provenance row.2).nodup_iff.mpr (known.once row grouped), fun provenance => ?_⟩
  rw [← entered_iff]
  exact (List.mem_insertionSort by_provenance).trans (known.row_mem grouped provenance)

section
variable {library : Library} {policy : ExtractionPolicy} {alert : CanonicalAlert}

private theorem merged_full : Full library policy alert (merged_of (candidates library policy alert)) where
  increasing := merged_increasing _
  found type value := by
    rw [merged_found]
    exact exists_congr (fun provenance => found_iff.symm)
  carried ioc listed := by
    obtain ⟨distinct, exact_ones⟩ := merged_carried listed
    exact ⟨distinct, fun provenance => (exact_ones provenance).trans found_iff.symm⟩

/-! ### What is recorded of a match -/

/-- A match stands in the text at its offset. -/
private theorem between_at {pattern : Pattern} {text : List Char} {m : Cursor × Cursor} (found : m ∈ finditer pattern text) :
    (text.drop m.1.behind.length).take (between m.1 m.2).length = between m.1 m.2 := by
  obtain ⟨before, start, passes, -, -⟩ := found_passes found
  obtain ⟨behind, whole⟩ := start_behind start
  rw [behind, whole, List.drop_left, passes.1, List.take_left]

/-- The candidate of a match, whose text without punctuation is an indicator of the type. -/
private structure Scan (library : Library) (source : Source) (text : List Char) (candidate : Candidate) : Prop where
  extractor : candidate.provenance.extractor = "text_scan"
  field : candidate.provenance.field = source.field
  normal : ∃ raw, normalize_as library source.policy candidate.type (clean_match raw) = some candidate.value.toList ∧
    (candidate.type ≠ .URL → candidate.provenance.raw_value = String.ofList raw ∧
      ∃ offset, candidate.provenance.offset = some offset ∧ (text.drop offset).take raw.length = raw)

private theorem scan_add {source : Source} {text : List Char} {pattern : Pattern} {m : Cursor × Cursor} {kind : IOCType}
    {value : List Char} (found : m ∈ finditer pattern text)
    (normal : normalize_as library source.policy kind (clean_match (between m.1 m.2)) = some value) :
    Scan library source text (add source kind (between m.1 m.2) value m.1.behind.length) where
  extractor := rfl
  field := rfl
  normal := by
    refine ⟨between m.1 m.2, ?_, fun _ => ⟨rfl, m.1.behind.length, rfl, between_at found⟩⟩
    rw [add, String.toList_ofList]
    exact normal

private theorem scan_hash_typed {raw : List Char} {kind : IOCType} (typed : hash_type_for raw = some kind) :
    kind = .MD5 ∨ kind = .SHA1 ∨ kind = .SHA256 := by
  rw [hash_type_for] at typed
  split at typed
  · rw [HASH_BY_LENGTH] at typed
    split_ifs at typed <;> cases typed <;> simp
  · cases typed

private theorem scan_of_mem {source : Source} {text : List Char} {candidate : Candidate}
    (listed : candidate ∈ scan_text library source text) : Scan library source text candidate := by
  rcases mem_scan_text.mp listed with ⟨m, found, made⟩ | ⟨m, found, made⟩ | ⟨m, found, made⟩ | ⟨m, found, made⟩ |
    ⟨m, found, made⟩
  · obtain ⟨value, normal, rfl⟩ := Option.map_eq_some_iff.mp made
    refine ⟨rfl, rfl, between m.1 m.2, ?_, fun other => absurd rfl other⟩
    rw [add, String.toList_ofList]
    exact normal
  · rw [scan_email] at made
    split at made
    · cases made
    · obtain ⟨value, normal, rfl⟩ := Option.map_eq_some_iff.mp made
      exact scan_add found normal
  · rw [scan_domain] at made
    split at made
    · cases made
    split at made
    · cases made
    · obtain ⟨value, normal, rfl⟩ := Option.map_eq_some_iff.mp made
      exact scan_add found normal
  · obtain ⟨value, normal, rfl⟩ := Option.map_eq_some_iff.mp made
    exact scan_add found normal
  · rw [scan_hash] at made
    split at made
    · cases made
    · rename_i kind typed
      obtain ⟨value, normal, rfl⟩ := Option.map_eq_some_iff.mp made
      refine scan_add found ?_
      rcases scan_hash_typed typed with rfl | rfl | rfl
      · exact normal
      · exact normal
      · exact normal

/-- A value that is found is not empty. -/
theorem found_nonempty {type : IOCType} {value : String} {provenance : IOCProvenance}
    (found : Found library policy alert type value provenance) : value ≠ "" := by
  cases found with
  | typed listed read normal =>
    rw [scan_typed_field] at normal
    split at normal
    · cases normal
    · intro empty
      have shown := congrArg String.toList empty
      rw [String.toList_ofList] at shown
      exact normalize_as_nonempty normal shown
  | scanned scanned found =>
    obtain ⟨raw, normal, -⟩ := (scan_of_mem found).normal
    intro empty
    rw [empty] at normal
    exact normalize_as_nonempty normal rfl

theorem recorded_of_found {type : IOCType} {value : String} {provenance : IOCProvenance}
    (found : Found library policy alert type value provenance) (other : type ≠ .URL)
    (by_scan : provenance.extractor = "text_scan") : Recorded library policy alert type value provenance := by
  cases found with
  | typed listed read normal => exact absurd (show "typed_field" = "text_scan" from by_scan) (by decide)
  | @scanned field text candidate scanned found =>
    have scan := scan_of_mem found
    obtain ⟨raw, normal, stands⟩ := scan.normal
    obtain ⟨same, offset, placed, there⟩ := stands other
    rw [← String.toList_ofList (l := raw), ← same] at normal there
    rw [← show candidate.provenance.field = field from scan.field] at scanned
    exact ⟨text, offset, scanned, placed, there, normal⟩
end

/-! ### The order of keys -/

/-- Rows with distinct keys have one order. -/
private theorem sorted_rows {rows rows' : List (String × List (String × String))} (distinct : (rows.map Prod.fst).Nodup)
    (perm : rows'.Perm rows) : rows'.insertionSort (fun a b => a.1 ≤ b.1) = rows.insertionSort (fun a b => a.1 ≤ b.1) := by
  have sorted := (List.perm_insertionSort (fun a b => a.1 ≤ b.1) rows').trans
    (perm.trans (List.perm_insertionSort (fun a b => a.1 ≤ b.1) rows).symm)
  refine List.Perm.eq_of_pairwise ?_ (List.pairwise_insertionSort _ rows') (List.pairwise_insertionSort _ rows) sorted
  intro first second left right before after
  have listed := (List.mem_insertionSort _).mp (sorted.mem_iff.mp left)
  exact List.inj_on_of_nodup_map distinct listed ((List.mem_insertionSort _).mp right) (le_antisymm before after)

theorem string_leaves_reordered {node node' : Json} (same : Json.Reordered node node') (path : String) :
    string_leaves path node' = string_leaves path node := by
  induction same generalizing path with
  | refl node => rfl
  | trans _ _ first second => exact (second path).trans (first path)
  | keys distinct perm =>
    rw [string_leaves, string_leaves, field_leaves_map, field_leaves_map, sorted_rows ?_ (perm.map _)]
    rw [List.map_map]
    exact distinct
  | field inner ih =>
    rw [string_leaves, string_leaves, field_leaves_map, field_leaves_map]
    simp only [List.map_append, List.map_cons, ih]
  | item inner ih => rw [string_leaves, string_leaves]

private theorem follow_rel (parts : List String) {node node' : Json} (same : Json.Reordered node node') :
    Option.Rel Json.Reordered (follow parts node) (follow parts node') := by
  induction parts generalizing node node' with
  | nil =>
    rw [follow, follow]
    by_cases null : node = .null
    · rw [if_pos null, if_pos (same.null_iff.mp null)]
      exact .none
    · rw [if_neg null, if_neg (fun null' => null (same.null_iff.mpr null'))]
      exact .some same
  | cons part rest ih =>
    rw [follow, follow]
    have read := same.field_rel part
    generalize Json.field part node = next at read ⊢
    generalize Json.field part node' = next' at read ⊢
    cases read with
    | none => exact .none
    | some inner => exact ih inner

private theorem text_of_rel {read read' : Option Json} (same : Option.Rel Json.Reordered read read') :
    text_of read' = text_of read := by
  refine Option.ext (fun text => ?_)
  rw [text_of_eq_some, text_of_eq_some]
  cases same with
  | none => exact Iff.rfl
  | some inner => rw [Option.some.injEq, Option.some.injEq, inner.str_iff]

section
variable {library : Library} {policy : ExtractionPolicy} {alert : CanonicalAlert} {data syscheck : JsonObject}

private theorem attributes_reordered (data_same : Json.Reordered (.obj alert.source_event.data) (.obj data))
    (syscheck_same : Json.Reordered (.obj alert.source_event.syscheck) (.obj syscheck)) :
    Json.Reordered (attributes alert) (attributes (with_blocks alert data syscheck)) := by
  refine @Json.Reordered.field [] [] "source_event" _ _ ?_
  refine .trans (@Json.Reordered.field [_, _, _] [_] "data" _ _ data_same) ?_
  exact @Json.Reordered.field [_, _, _, _] [] "syscheck" _ _ syscheck_same

/-- The same candidates are found in the same order. -/
private theorem candidates_reordered (data_same : Json.Reordered (.obj alert.source_event.data) (.obj data))
    (syscheck_same : Json.Reordered (.obj alert.source_event.syscheck) (.obj syscheck)) :
    candidates library policy (with_blocks alert data syscheck) = candidates library policy alert := by
  have read (path : String) : text_of (resolve (with_blocks alert data syscheck) path) = text_of (resolve alert path) :=
    text_of_rel (follow_rel (split_path path) (attributes_reordered data_same syscheck_same))
  have typed : typed_candidates library policy (with_blocks alert data syscheck) = typed_candidates library policy alert := by
    rw [typed_candidates, typed_candidates]
    simp only [read]
    rfl
  have auto : auto_texts policy (with_blocks alert data syscheck) = auto_texts policy alert := by
    by_cases included : policy.include_unknown_data_fields = true
    · rw [auto_texts_included included, auto_texts_included included]
      show (string_leaves _ (.obj data)).filter _ ++ (string_leaves _ (.obj syscheck)).filter _ = _
      rw [string_leaves_reordered data_same, string_leaves_reordered syscheck_same]
    · rw [auto_texts, auto_texts, if_neg included, if_neg included]
  have texts : optional_texts policy (with_blocks alert data syscheck) = optional_texts policy alert := by
    rw [optional_texts, optional_texts]
    simp only [read]
  rw [candidates, candidates, typed, auto, texts]
  rfl

/-- The extraction returns the first indicators of all that are found, each with every place it is found at; a match is
    recorded as it stands in its field; and the order of keys makes no difference. -/
theorem extract_iocs_exact (library : Library) (policy : ExtractionPolicy) (alert : CanonicalAlert) :
    (∃ merged, Full library policy alert merged ∧ extract_iocs library policy alert = some (merged.take policy.max_iocs) ∧
      (merged.take policy.max_iocs).Pairwise Before ∧
      ∀ ioc ∈ merged.take policy.max_iocs, ioc.type ≠ .URL → ∀ provenance ∈ ioc.provenance,
        provenance.extractor = "text_scan" → Recorded library policy alert ioc.type ioc.value provenance) ∧
    ∀ data syscheck, Json.Reordered (.obj alert.source_event.data) (.obj data) →
      Json.Reordered (.obj alert.source_event.syscheck) (.obj syscheck) →
      extract_iocs library policy (with_blocks alert data syscheck) = extract_iocs library policy alert := by
  have full : Full library policy alert (merged_of (candidates library policy alert)) := merged_full
  refine ⟨⟨_, full, ?_, ?_, ?_⟩, ?_⟩
  · have valued : ∀ row ∈ Grouping.group ((candidates library policy alert).map
        (fun candidate => ((candidate.type, candidate.value), candidate.provenance))), row.1.2 ≠ "" := by
      intro row grouped
      have known := Grouping.groups_group ((candidates library policy alert).map
        (fun candidate => ((candidate.type, candidate.value), candidate.provenance)))
      obtain ⟨provenance, entered⟩ := (known.has_key row.1).mp (List.mem_map_of_mem grouped)
      exact found_nonempty (found_iff.mpr (entered_iff.mp entered))
    rw [extract_iocs, merge, mapM_ioc_of valued]
    rfl
  · exact full.increasing.sublist (List.take_sublist _ _)
  · intro ioc listed other provenance carried by_scan
    have found := ((full.carried ioc (List.mem_of_mem_take listed)).2 provenance).mp carried
    exact recorded_of_found found other by_scan
  · intro data syscheck data_same syscheck_same
    rw [extract_iocs, extract_iocs, candidates_reordered data_same syscheck_same]
end

/-! ### An alert with its keys in either order -/

/-- An address in a typed field, and again in a text. -/
def observed : CanonicalAlert where
  alert_id := "0d7f2c1e-5a64-4d3b-9d0c-8f1e2a3b4c5d"
  received_at := .of_instant 1767312000000000
  source_event :=
    { rule := { id := "5710", level := 5, description := "sshd: authentication failure" }
      agent := { id := "001", name := "web-01" }
      data := [("srcip", .str "203.0.113.7"), ("message", .str "from 203.0.113.7.")] }

theorem observed_either_way : extract_iocs UrlForms.ascii_library {}
      (with_blocks observed [("message", .str "from 203.0.113.7."), ("srcip", .str "203.0.113.7")] []) =
    extract_iocs UrlForms.ascii_library {} observed :=
  (extract_iocs_exact UrlForms.ascii_library {} observed).2 _ _ (.keys (by decide) (List.Perm.swap ..)) (.refl _)

example : (extract_iocs UrlForms.ascii_library {} observed).map (List.map (fun ioc => (ioc.value, ioc.provenance.length))) =
    some [("203.0.113.7", 2)] := by decide +kernel

end SocTriage.MergedIndicators
