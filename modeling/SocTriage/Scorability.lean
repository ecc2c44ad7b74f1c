import SocTriage.Scoring

/-!
When an alert can be scored. The condition is one on the policy and the alert: the tactics have
a length, the times of the group can be subtracted, and the numbers and values that become text
can be written. All factors but three keep their points under the maximum, so of the points
only the entries that the alert selects in the tables of the policy matter.
-/
namespace SocTriage.Scorability
open Policies Scoring

/-! ### The entries that an alert selects -/

/-- A table has nothing under a name, or something acceptable. -/
def Entry (ok : Int → Prop) (points : Table (Prod.fst : String × Int → String)) (name : String) : Prop :=
  ∀ entry ∈ points.rows, entry.1 = name → ok entry.2

/-- The points that an alert selects in the tables of a policy are acceptable for the maximum of their factor: those of
    its severity band, if there is one, of its asset's band or of an unknown asset, and of its enrichment status. -/
structure Selected (ok : Nat → Int → Prop) (py : PyStr) (policy : ScoringPolicy) (alert : CanonicalAlert) : Prop where
  severity : ∀ band, policy.rule_severity.bands.find? (fun band => (band.min : Int) ≤ alert.source_event.rule.level ∧
    alert.source_event.rule.level ≤ band.max) = some band → ok policy.rule_severity.max band.points
  asset : match policy.asset_criticality.resolve py (alert.asset.bind CanonicalAsset.tier) with
    | none => ok policy.asset_criticality.max policy.asset_criticality.unknown_points
    | some band => Entry (ok policy.asset_criticality.max) policy.asset_criticality.bands band
  credit : Entry (ok policy.enrichment_status.max) policy.enrichment_status.points (normalized py alert.enrichment_status)

section
variable {ok : Nat → Int → Prop} (nothing : ∀ most, ok most 0) (py : PyStr) (policy : ScoringPolicy) (alert : CanonicalAlert)
include nothing

private theorem entry_iff {most : Nat} {points : Table (Prod.fst : String × Int → String)} {name : String} :
    Entry (ok most) points name ↔ ok most (((points.get name).map Prod.snd).getD 0) := by
  cases found : points.get name with
  | none =>
    refine iff_of_true ?_ (nothing most)
    intro entry member same
    exact absurd same (Table.get_eq_none.mp found entry member)
  | some entry =>
    constructor
    · intro acceptable
      exact acceptable entry (Table.get_mem found) (Table.get_key found)
    · intro acceptable other member same
      rw [Table.get_eq_some.mpr ⟨member, same⟩] at found
      cases found
      exact acceptable

private theorem severity_iff :
    (∀ band, policy.rule_severity.bands.find? (fun band => (band.min : Int) ≤ alert.source_event.rule.level ∧
      alert.source_event.rule.level ≤ band.max) = some band → ok policy.rule_severity.max band.points) ↔
    ok policy.rule_severity.max (rule_severity_factor alert.source_event.rule policy.rule_severity).points := by
  unfold rule_severity_factor
  cases policy.rule_severity.bands.find? (fun band => (band.min : Int) ≤ alert.source_event.rule.level ∧
      alert.source_event.rule.level ≤ band.max) with
  | none => exact iff_of_true (fun band found => by cases found) (nothing _)
  | some band =>
    constructor
    · intro acceptable
      exact acceptable band rfl
    · rintro acceptable _ ⟨⟩
      exact acceptable

/-- What an alert selects is acceptable when the points of the three factors are. -/
theorem selected_iff :
    Selected ok py policy alert ↔
      ok policy.rule_severity.max (rule_severity_factor alert.source_event.rule policy.rule_severity).points ∧
      ok policy.asset_criticality.max (asset_criticality_factor py alert.asset policy.asset_criticality).points ∧
      ok policy.enrichment_status.max
        (enrichment_status_factor py alert.enrichment_status policy.enrichment_status).points := by
  have asset : (match policy.asset_criticality.resolve py (alert.asset.bind CanonicalAsset.tier) with
      | none => ok policy.asset_criticality.max policy.asset_criticality.unknown_points
      | some band => Entry (ok policy.asset_criticality.max) policy.asset_criticality.bands band) ↔
      ok policy.asset_criticality.max (asset_criticality_factor py alert.asset policy.asset_criticality).points := by
    unfold asset_criticality_factor
    dsimp only
    cases policy.asset_criticality.resolve py (alert.asset.bind CanonicalAsset.tier) with
    | none => exact Iff.rfl
    | some band => exact entry_iff nothing
  rw [← severity_iff nothing, ← asset]
  constructor
  · rintro ⟨severity, asset, credit⟩
    exact ⟨severity, asset, (entry_iff nothing).mp credit⟩
  · rintro ⟨severity, asset, credit⟩
    exact ⟨severity, asset, (entry_iff nothing).mpr credit⟩
end

/-! ### What is counted and subtracted -/

/-- What `len` takes. -/
def Sized : Json → Prop
  | .str _ | .arr _ | .obj _ => True
  | _ => False

/-- The MITRE tactics are absent, empty, or something that has a length. -/
def TacticsCounted (alert : CanonicalAlert) : Prop :=
  ∀ tactics, Json.lookup "tactic" alert.source_event.rule.mitre = some tactics → tactics.truthy = true → Sized tactics

/-- The times the alert's group was first and last seen are both naive or both aware. -/
def Subtractable (alert : CanonicalAlert) : Prop :=
  ∀ dedupe, alert.dedupe = some dedupe → dedupe.first_seen.aware = dedupe.last_seen.aware

private theorem length_some {value : Json} : (length (some value)).isSome ↔ (value.truthy = true → Sized value) := by
  unfold length
  by_cases truth : value.truthy = true
  · cases value <;> simp [truth, Sized]
  · simp [truth]

private theorem counted_iff (policy : ScoringPolicy) (alert : CanonicalAlert) :
    (rule_groups_mitre_factor alert.source_event.rule policy.rule_groups_mitre).isSome ↔ TacticsCounted alert := by
  unfold rule_groups_mitre_factor TacticsCounted
  rw [Option.isSome_map]
  cases Json.lookup "tactic" alert.source_event.rule.mitre with
  | none => exact iff_of_true rfl (fun tactics found => by cases found)
  | some value =>
    rw [length_some]
    constructor
    · rintro counted _ ⟨⟩
      exact counted
    · intro counted
      exact counted value rfl

private theorem subtracted_iff (policy : ScoringPolicy) (alert : CanonicalAlert) :
    (recurrence_velocity_factor alert.dedupe policy.recurrence_velocity).isSome ↔ Subtractable alert := by
  unfold Subtractable
  cases alert.dedupe with
  | none => exact iff_of_true rfl (fun dedupe found => by cases found)
  | some dedupe =>
    rw [recurrence_velocity_factor]
    dsimp only
    split
    · rename_i apart
      exact iff_of_false (by decide) (fun comparable => apart (comparable dedupe rfl))
    · rename_i comparable
      refine iff_of_true rfl ?_
      rintro _ ⟨⟩
      exact not_not.mp comparable

/-- The factors are there when the tactics are counted and the times subtracted. -/
theorem factors_there (py : PyStr) (policy : ScoringPolicy) (alert : CanonicalAlert) :
    (∃ listed, factors py policy alert = some listed) ↔ TacticsCounted alert ∧ Subtractable alert := by
  rw [← counted_iff policy alert, ← subtracted_iff policy alert, Option.isSome_iff_exists, Option.isSome_iff_exists]
  constructor
  · rintro ⟨listed, scored⟩
    obtain ⟨mitre, recurrence, counted, subtracted, _⟩ := (factors_some py).mp scored
    exact ⟨⟨mitre, counted⟩, recurrence, subtracted⟩
  · rintro ⟨⟨mitre, counted⟩, recurrence, subtracted⟩
    exact ⟨_, (factors_some py).mpr ⟨mitre, recurrence, counted, subtracted, rfl⟩⟩

/-! ### What can be written -/

section
variable (cfg : ThreatIntelConfig)

/-- How many engines flag an indicator, where VirusTotal's answer is worth points. -/
def flagging (ioc : IOC) : Option Nat :=
  if cfg.handled_types.contains ioc.type.value then
    (answered ioc cfg.virustotal.provider VT_HANDLED_TYPES).bind (fun result =>
      if virustotal_award result cfg = 0 then none else some (evidence_count result "malicious"))
  else none

/-- How many engines suspect an indicator. -/
def suspecting (ioc : IOC) : Nat :=
  if cfg.handled_types.contains ioc.type.value then
    ((answered ioc cfg.virustotal.provider VT_HANDLED_TYPES).map (fun result => evidence_count result "suspicious")).getD 0
  else 0

/-- The counts of the indicators under one key, in their order. A dictionary keeps the last. -/
def flags (iocs : List IOC) (key : String) : List Nat :=
  (iocs.filter (fun ioc => ioc_key ioc = key)).filterMap (flagging cfg)

private theorem misp_step_verdicts (py : PyStr) (tally : IntelTally) (ioc : IOC) :
    (misp_step py cfg tally ioc).vt_malicious = tally.vt_malicious ∧
      (misp_step py cfg tally ioc).vt_suspicious_total = tally.vt_suspicious_total := by
  rw [misp_step]
  dsimp only
  split
  · exact ⟨rfl, rfl⟩
  · split
    · exact ⟨rfl, rfl⟩
    · split <;> exact ⟨rfl, rfl⟩

private theorem intel_step_malicious (py : PyStr) (tally : IntelTally) (ioc : IOC) :
    (intel_step py cfg tally ioc).vt_malicious =
      ((flagging cfg ioc).toList.map (fun count => (ioc_key ioc, count))).foldl Table.put tally.vt_malicious := by
  rw [intel_step, flagging]
  cases cfg.handled_types.contains ioc.type.value with
  | false => rfl
  | true =>
    rw [if_pos rfl, if_pos rfl, (misp_step_verdicts cfg py _ ioc).1, virustotal_step]
    cases answered ioc cfg.virustotal.provider VT_HANDLED_TYPES with
    | none => rfl
    | some result =>
      rw [Option.bind_some]
      dsimp only
      by_cases nothing : virustotal_award result cfg = 0
      · rw [if_pos nothing, if_pos nothing]
        rfl
      · rw [if_neg nothing, if_neg nothing]
        rfl

private theorem intel_step_suspicious (py : PyStr) (tally : IntelTally) (ioc : IOC) :
    (intel_step py cfg tally ioc).vt_suspicious_total = tally.vt_suspicious_total + suspecting cfg ioc := by
  rw [intel_step, suspecting]
  cases cfg.handled_types.contains ioc.type.value with
  | false => rfl
  | true =>
    rw [if_pos rfl, if_pos rfl, (misp_step_verdicts cfg py _ ioc).2, virustotal_step]
    cases answered ioc cfg.virustotal.provider VT_HANDLED_TYPES with
    | none => rfl
    | some result =>
      dsimp only
      by_cases nothing : virustotal_award result cfg = 0
      · rw [if_pos nothing]
        rfl
      · rw [if_neg nothing]
        rfl

private theorem tally_suspicious (py : PyStr) (iocs : List IOC) (tally : IntelTally) :
    (iocs.foldl (intel_step py cfg) tally).vt_suspicious_total =
      tally.vt_suspicious_total + (iocs.map (suspecting cfg)).sum := by
  induction iocs generalizing tally with
  | nil => rfl
  | cons ioc rest ih =>
    rw [List.foldl_cons, ih, intel_step_suspicious, List.map_cons, List.sum_cons, Nat.add_assoc]

private theorem flags_cons (ioc : IOC) (rest : List IOC) (key : String) :
    flags cfg (ioc :: rest) key = (if ioc_key ioc = key then (flagging cfg ioc).toList else []) ++ flags cfg rest key := by
  rw [flags, flags]
  by_cases same : ioc_key ioc = key
  · rw [List.filter_cons, if_pos (decide_eq_true same), if_pos same, List.filterMap_cons]
    cases flagging cfg ioc <;> rfl
  · rw [List.filter_cons, if_neg (by rw [decide_eq_true_eq]; exact same), if_neg same, List.nil_append]

private theorem tally_malicious (py : PyStr) (iocs : List IOC) (tally : IntelTally) (key : String) :
    ((iocs.foldl (intel_step py cfg) tally).vt_malicious.get key).map Prod.snd =
      (flags cfg iocs key).getLast?.or ((tally.vt_malicious.get key).map Prod.snd) := by
  induction iocs generalizing tally with
  | nil => rfl
  | cons ioc rest ih =>
    rw [List.foldl_cons, ih, intel_step_malicious, flags_cons, List.getLast?_append, Option.or_assoc]
    congr 1
    cases flagging cfg ioc with
    | none => simp
    | some count =>
      rw [Option.toList_some, List.map_singleton, List.foldl_cons, List.foldl_nil, Table.get_put]
      by_cases same : ioc_key ioc = key
      · rw [if_pos same, if_pos same]
        rfl
      · rw [if_neg same, if_neg same]
        rfl

/-- Sorting by key leaves the indicators of one key in their order. -/
private theorem flags_sorted (iocs : List IOC) (key : String) :
    flags cfg (iocs.insertionSort by_ioc_key) key = flags cfg iocs key := by
  have total : Std.Total by_ioc_key := ⟨fun a b => le_total (ioc_key a) (ioc_key b)⟩
  have trans : IsTrans IOC by_ioc_key := ⟨fun _ _ _ before after => le_trans before after⟩
  have equal : (iocs.filter (fun ioc => ioc_key ioc = key)).Pairwise by_ioc_key := by
    refine List.pairwise_of_forall_mem_list (fun first inside second member => le_of_eq ?_)
    rw [of_decide_eq_true (List.mem_filter.mp inside).2, of_decide_eq_true (List.mem_filter.mp member).2]
  have kept := (List.sublist_insertionSort equal List.filter_sublist).filter (fun ioc => ioc_key ioc = key)
  rw [List.filter_filter] at kept
  simp only [Bool.and_self] at kept
  have count := ((List.perm_insertionSort by_ioc_key iocs).filter (fun ioc => ioc_key ioc = key)).length_eq
  rw [flags, flags, kept.eq_of_length count.symm]

private theorem writable_max (counts : List Nat) (most : Nat) :
    writable (counts.foldl max most : Nat) = true ↔ writable most = true ∧ ∀ count ∈ counts, writable count = true := by
  induction counts generalizing most with
  | nil => simp
  | cons count rest ih =>
    have greater : writable (max most count : Nat) = true ↔ writable most = true ∧ writable count = true := by
      constructor
      · intro ok
        exact ⟨writable_le (by omega) ok, writable_le (by omega) ok⟩
      · rintro ⟨one, other⟩
        rcases le_total most count with less | less
        · rw [max_eq_right less]
          exact other
        · rw [max_eq_left less]
          exact one
    rw [List.foldl_cons, ih, greater, List.forall_mem_cons, and_assoc]
end

/-- The numbers of an alert that become text have at most 4300 digits, and so do the maxima of the policy: the level of its
    rule, its occurrences, the engines that flag an indicator, and all that suspect one. The texts of its indicators have
    no longer number in them and are not nested too deeply. -/
structure Printable (py : PyStr) (policy : ScoringPolicy) (alert : CanonicalAlert) : Prop where
  level : writable alert.source_event.rule.level = true
  occurrences : ∀ dedupe, alert.dedupe = some dedupe → writable dedupe.occurrences = true
  flagged : ∀ cfg, policy.threat_intel = some cfg → ∀ key count, (flags cfg alert.iocs key).getLast? = some count →
    writable count = true
  suspected : ∀ cfg, policy.threat_intel = some cfg → writable ((alert.iocs.map (suspecting cfg)).sum : Nat) = true
  texts : ∀ cfg, policy.threat_intel = some cfg → ∀ ioc ∈ alert.iocs, ∀ text ∈ read_texts cfg ioc,
    shown py.recursion text = true
  maxima : ∀ most ∈ maxima policy, writable most = true

private theorem malicious_iff (py : PyStr) (cfg : ThreatIntelConfig) (iocs : List IOC) :
    writable (((intel_tally py iocs cfg).vt_malicious.rows.map Prod.snd).foldl max 0 : Nat) = true ↔
      ∀ key count, (flags cfg iocs key).getLast? = some count → writable count = true := by
  have kept : ∀ key, ((intel_tally py iocs cfg).vt_malicious.get key).map Prod.snd = (flags cfg iocs key).getLast? := by
    intro key
    rw [intel_tally, tally_malicious, flags_sorted, Table.get_empty, Option.map_none, Option.or_none]
  rw [writable_max, and_iff_right (by decide), List.forall_mem_map]
  constructor
  · intro writes key count last
    rw [← kept] at last
    obtain ⟨row, found, same⟩ := Option.map_eq_some_iff.mp last
    rw [← same]
    exact writes row (Table.get_mem found)
  · intro writes row inside
    refine writes row.1 row.2 ?_
    rw [← kept, Table.get_of_mem inside, Option.map_some]

private theorem suspicious_eq (py : PyStr) (cfg : ThreatIntelConfig) (iocs : List IOC) :
    (intel_tally py iocs cfg).vt_suspicious_total = (iocs.map (suspecting cfg)).sum := by
  rw [intel_tally, tally_suspicious, Nat.zero_add]
  exact ((List.perm_insertionSort by_ioc_key iocs).map (suspecting cfg)).sum_nat

/-- What the texts tell and read, and the maxima, can be written exactly when the alert is printable. -/
private theorem printed_iff (py : PyStr) (policy : ScoringPolicy) (alert : CanonicalAlert) :
    (printed py policy alert = true ∧ ∀ most ∈ maxima policy, writable most = true) ↔ Printable py policy alert := by
  have telling : (told py policy alert).all writable = true ↔ writable alert.source_event.rule.level = true ∧
      (∀ dedupe, alert.dedupe = some dedupe → writable dedupe.occurrences = true) ∧
      ∀ cfg, policy.threat_intel = some cfg →
        (∀ key count, (flags cfg alert.iocs key).getLast? = some count → writable count = true) ∧
        writable ((alert.iocs.map (suspecting cfg)).sum : Nat) = true := by
    rw [List.all_eq_true, told, List.forall_mem_append, List.forall_mem_append, List.forall_mem_singleton, and_assoc]
    refine and_congr_right (fun _ => and_congr ?_ ?_)
    · cases alert.dedupe with
      | none => simp
      | some dedupe => simp
    · cases policy.threat_intel with
      | none => simp
      | some cfg =>
        rw [Option.toList_some, List.flatMap_singleton, List.forall_mem_cons, List.forall_mem_singleton, malicious_iff,
          suspicious_eq]
        simp
  have reading : (policy.threat_intel.toList.all (fun cfg => (alert.iocs.insertionSort by_ioc_key).all (fun ioc =>
        (read_texts cfg ioc).all (shown py.recursion)))) = true ↔
      ∀ cfg, policy.threat_intel = some cfg → ∀ ioc ∈ alert.iocs, ∀ text ∈ read_texts cfg ioc,
        shown py.recursion text = true := by
    simp only [List.all_eq_true, Option.mem_toList, List.mem_insertionSort]
  rw [printed, Bool.and_eq_true, telling, reading]
  constructor
  · rintro ⟨⟨⟨level, occurrences, counts⟩, texts⟩, most⟩
    exact ⟨level, occurrences, fun cfg intel => (counts cfg intel).1, fun cfg intel => (counts cfg intel).2, texts, most⟩
  · rintro ⟨level, occurrences, flagged, suspected, texts, most⟩
    exact ⟨⟨⟨level, occurrences, fun cfg intel => ⟨flagged cfg intel, suspected cfg intel⟩⟩, texts⟩, most⟩

/-! ### The factors that the engine keeps under their maxima -/

/-- A factor stays between nothing and its maximum, or takes off its maximum or nothing. -/
def Bounded (factor : ScoreFactor) : Prop :=
  if factor.name = "allowlist_modifier" then factor.points = 0 ∨ factor.points = -factor.max
  else 0 ≤ factor.points ∧ factor.points ≤ factor.max

instance (factor : ScoreFactor) : Decidable (Bounded factor) := by
  unfold Bounded
  infer_instance

theorem bounded_other {name detail : String} {points : Int} {most : Nat} (other : name ≠ "allowlist_modifier") :
    Bounded { name, points, max := most, detail } ↔ 0 ≤ points ∧ points ≤ most := by
  unfold Bounded
  rw [if_neg other]

/-- A factor whose points are cut off at its maximum. -/
private theorem cut {name detail : String} {sum most : Nat} (other : name ≠ "allowlist_modifier") :
    Bounded { name, points := (min sum most : Nat), max := most, detail } := by
  rw [bounded_other other]
  omega

/-- The groups and the MITRE entries are counted under a cap, unless the tactics have no length. -/
private theorem mitre_bounded {rule : CanonicalRule} {cfg : RuleGroupsMitreConfig} {factor : ScoreFactor}
    (counted : rule_groups_mitre_factor rule cfg = some factor) : Bounded factor := by
  unfold rule_groups_mitre_factor at counted
  obtain ⟨tactics, _, same⟩ := Option.map_eq_some_iff.mp counted
  rw [← same]
  exact cut (by decide)

/-- The recurrence rules that match are counted under a cap, where the times can be subtracted. -/
private theorem recurrence_bounded {dedupe : Option CanonicalDedupe} {cfg : RecurrenceVelocityConfig}
    {factor : ScoreFactor} (subtracted : recurrence_velocity_factor dedupe cfg = some factor) : Bounded factor := by
  cases dedupe with
  | none =>
    cases subtracted
    exact (bounded_other (by decide)).mpr ⟨le_refl 0, Int.natCast_nonneg _⟩
  | some dedupe =>
    unfold recurrence_velocity_factor at subtracted
    dsimp only at subtracted
    split at subtracted
    · cases subtracted
    · cases subtracted
      exact cut (by decide)

private theorem ioc_evidence_bounded (policy : ScoringPolicy) (alert : CanonicalAlert) :
    Bounded (ioc_evidence_factor alert.iocs policy.ioc_evidence) := cut (by decide)

private theorem threat_intel_bounded (py : PyStr) (alert : CanonicalAlert) (cfg : ThreatIntelConfig) :
    Bounded (threat_intel_factor py alert.iocs cfg) := cut (by decide)

private theorem allowlist_bounded (policy : ScoringPolicy) (alert : CanonicalAlert) :
    Bounded (allowlist_factor alert.iocs policy.allowlist) := by
  unfold allowlist_factor
  cases alert.iocs.any ioc_is_allowlisted with
  | true => exact .inr rfl
  | false => exact .inl rfl

/-- What bounded factors have, all have, if the three that read a table of the policy do. -/
theorem forall_factors_iff {py : PyStr} {policy : ScoringPolicy} {alert : CanonicalAlert} {listed : List ScoreFactor}
    (scored : factors py policy alert = some listed) {P : ScoreFactor → Prop}
    (granted : ∀ factor, Bounded factor → P factor) :
    (∀ factor ∈ listed, P factor) ↔ P (rule_severity_factor alert.source_event.rule policy.rule_severity) ∧
      P (asset_criticality_factor py alert.asset policy.asset_criticality) ∧
      P (enrichment_status_factor py alert.enrichment_status policy.enrichment_status) := by
  obtain ⟨mitre, recurrence, counted, subtracted, same⟩ := (factors_some py).mp scored
  have intel : ∀ factor ∈ (policy.threat_intel.map (threat_intel_factor py alert.iocs)).toList, P factor := by
    intro factor member
    obtain ⟨cfg, _, same⟩ := Option.map_eq_some_iff.mp (Option.mem_toList.mp member)
    rw [← same]
    exact granted _ (threat_intel_bounded py alert cfg)
  rw [same, List.forall_mem_append, List.forall_mem_append]
  simp only [List.forall_mem_cons, granted _ (mitre_bounded counted), granted _ (recurrence_bounded subtracted),
    granted _ (ioc_evidence_bounded policy alert), granted _ (allowlist_bounded policy alert), List.not_mem_nil,
    false_implies, implies_true, and_true, true_and]
  exact and_iff_left intel

/-! ### When scoring does not raise -/

/-- The tactics are counted, the times subtracted, and the points that the alert selects, and whatever else becomes text,
    can be written. -/
structure Scorable (py : PyStr) (policy : ScoringPolicy) (alert : CanonicalAlert) : Prop where
  tactics : TacticsCounted alert
  times : Subtractable alert
  numbers : Printable py policy alert
  selected : Selected (fun _ points => writable points = true) py policy alert

private theorem bounded_writable (factor : ScoreFactor) (bounded : Bounded factor) (ok : writable factor.max = true) :
    writable factor.points = true := by
  refine writable_le ?_ ok
  unfold Bounded at bounded
  split at bounded <;> omega

/-- The summary can be written where the maxima and the points that the alert selects can. -/
private theorem written_iff {py : PyStr} {policy : ScoringPolicy} {alert : CanonicalAlert} {listed : List ScoreFactor}
    (scored : factors py policy alert = some listed) :
    written listed = true ↔ (∀ most ∈ maxima policy, writable most = true) ∧
      Selected (fun _ points => writable points = true) py policy alert := by
  rw [written_eq py scored, Bool.and_eq_true, List.all_eq_true, List.all_eq_true, List.forall_mem_map, and_comm,
    selected_iff (fun _ => by decide)]
  refine and_congr_right (fun most => ?_)
  have capped : ∀ factor ∈ listed, writable factor.max = true := by
    intro factor inside
    refine most factor.max ?_
    rw [← factors_max py scored]
    exact List.mem_map_of_mem inside
  have table : ∀ factor ∈ listed, (writable factor.max = true → writable factor.points = true) ↔
      writable factor.points = true := fun factor inside => ⟨fun ok => ok (capped factor inside), fun ok _ => ok⟩
  have three := forall_factors_iff scored bounded_writable
  obtain ⟨mitre, recurrence, _, _, same⟩ := (factors_some py).mp scored
  rw [table _ (by simp [same]), table _ (by simp [same]), table _ (by simp [same])] at three
  rw [← three]
  exact forall₂_congr (fun factor inside => (table factor inside).symm)

/-- Scoring gives an assessment exactly of a scorable alert. -/
theorem scorable_iff {py : PyStr} {policy : ScoringPolicy} {alert : CanonicalAlert} :
    (∃ risk, score_alert py policy alert = some risk) ↔ Scorable py policy alert := by
  constructor
  · rintro ⟨risk, scored⟩
    obtain ⟨listed, given, printable, writes, _⟩ := (score_alert_some py).mp scored
    obtain ⟨tactics, times⟩ := (factors_there py policy alert).mp ⟨listed, given⟩
    obtain ⟨most, selected⟩ := (written_iff given).mp writes
    exact ⟨tactics, times, (printed_iff py policy alert).mp ⟨printable, most⟩, selected⟩
  · rintro ⟨tactics, times, numbers, selected⟩
    obtain ⟨listed, given⟩ := (factors_there py policy alert).mpr ⟨tactics, times⟩
    obtain ⟨printable, most⟩ := (printed_iff py policy alert).mpr numbers
    exact ⟨assessment policy listed,
      (score_alert_some py).mpr ⟨listed, given, printable, (written_iff given).mpr ⟨most, selected⟩, rfl⟩⟩

/-- Whether an alert is scorable has nothing to do with an assessment that it already has. -/
theorem scorable_assessed {py : PyStr} {policy : ScoringPolicy} {alert : CanonicalAlert} (risk : Option RiskAssessment)
    (decision : Option Decision) : Scorable py policy { alert with risk, decision } ↔ Scorable py policy alert := by
  rw [← scorable_iff, ← scorable_iff]
  rfl

end SocTriage.Scorability
