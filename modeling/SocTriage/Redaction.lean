import SocTriage.Json

/-!
The redaction of what leaves the process. A key that names a secret is dropped with all that is
under it, at any depth; every other place of the value stays where it is, with what stands there.
What is under such a key, and whether there is one, does not show in the result.
-/
namespace SocTriage.Redaction

def SENSITIVE_FRAGMENTS : List String :=
  ["password", "passwd", "secret", "token", "api_key", "apikey", "authorization", "credential", "private_key", "full_log"]

section
variable (lower : String → String)

/-- The key names a secret; `lower` is `str.lower`, which is arbitrary here. -/
def Sensitive (key : String) : Prop := ∃ fragment ∈ SENSITIVE_FRAGMENTS, fragment.toList <:+: (lower key).toList

instance (key : String) : Decidable (Sensitive lower key) :=
  inferInstanceAs (Decidable (∃ fragment ∈ SENSITIVE_FRAGMENTS, fragment.toList <:+: (lower key).toList))

mutual
def redact_mapping : Json → Json
  | .obj fields => .obj (redact_fields fields)
  | .arr items => .arr (redact_items items)
  | .null => .null
  | .bool b => .bool b
  | .int n => .int n
  | .float text => .float text
  | .str text => .str text
def redact_items : List Json → List Json
  | [] => []
  | item :: rest => redact_mapping item :: redact_items rest
def redact_fields : JsonObject → JsonObject
  | [] => []
  | (key, inner) :: rest =>
    if Sensitive lower key then redact_fields rest else (key, redact_mapping inner) :: redact_fields rest
end
end

example : redact_mapping (fun key => String.ofList (key.toList.map Char.toLower))
    (.obj [("user", .arr [.obj [("API_KEY", .str "k"), ("id", .int 1)], .null]), ("Token", .arr [])]) =
      .obj [("user", .arr [.obj [("id", .int 1)], .null])] := by
  decide +kernel

/-! ### Places of a value -/

/-- One step into a value. -/
inductive Step where
  | key (name : String)
  | index (place : Nat)
deriving DecidableEq

/-- What stands at a place: a dictionary, a list, or a value that is neither. -/
inductive Content where
  | mapping
  | sequence
  | primitive (value : Json)
deriving DecidableEq

def into (first : Step) (node : List Step × Content) : List Step × Content := (first :: node.1, node.2)

mutual
/-- All places of a value with what stands there, in the order of the document. -/
def nodes : Json → List (List Step × Content)
  | .obj fields => ([], .mapping) :: nodes_fields fields
  | .arr items => ([], .sequence) :: nodes_items 0 items
  | .null => [([], .primitive .null)]
  | .bool b => [([], .primitive (.bool b))]
  | .int n => [([], .primitive (.int n))]
  | .float text => [([], .primitive (.float text))]
  | .str text => [([], .primitive (.str text))]
def nodes_items (place : Nat) : List Json → List (List Step × Content)
  | [] => []
  | item :: rest => (nodes item).map (into (.index place)) ++ nodes_items (place + 1) rest
def nodes_fields : JsonObject → List (List Step × Content)
  | [] => []
  | (key, inner) :: rest => (nodes inner).map (into (.key key)) ++ nodes_fields rest
end

/-- A key at some depth of the value. -/
inductive HasKey : Json → String → Prop
  | here {fields : JsonObject} {key : String} {inner : Json} (listed : (key, inner) ∈ fields) : HasKey (.obj fields) key
  | field {fields : JsonObject} {name key : String} {inner : Json} (listed : (name, inner) ∈ fields)
    (within : HasKey inner key) : HasKey (.obj fields) key
  | item {items : List Json} {key : String} {inner : Json} (listed : inner ∈ items) (within : HasKey inner key) :
    HasKey (.arr items) key

section
variable (lower : String → String)

/-- A path that passes no key of a secret. -/
def open_path (path : List Step) : Bool :=
  path.all (fun step => match step with | .key name => !decide (Sensitive lower name) | .index _ => true)

/-- The values differ in what is under keys of secrets, or in having such keys, and in nothing else. -/
inductive EqualButSecrets : Json → Json → Prop
  | refl (value) : EqualButSecrets value value
  | symm {value value'} (same : EqualButSecrets value value') : EqualButSecrets value' value
  | trans {value value' value''} (first : EqualButSecrets value value') (second : EqualButSecrets value' value'') :
    EqualButSecrets value value''
  | secret {before after : JsonObject} {key inner} (sensitive : Sensitive lower key) :
    EqualButSecrets (.obj (before ++ (key, inner) :: after)) (.obj (before ++ after))
  | field {before after : JsonObject} {key inner inner'} (within : EqualButSecrets inner inner') :
    EqualButSecrets (.obj (before ++ (key, inner) :: after)) (.obj (before ++ (key, inner') :: after))
  | item {before after : List Json} {inner inner'} (within : EqualButSecrets inner inner') :
    EqualButSecrets (.arr (before ++ inner :: after)) (.arr (before ++ inner' :: after))

/-- What redaction makes of a value: no key of a secret is left at any depth; a value has the same result exactly when it
    differs in secrets alone; the places that no such key leads to are all left, with their contents and in their order;
    and it is the result of itself. -/
structure Redacts (redact : Json → Json) (value : Json) : Prop where
  clean : ∀ key, HasKey (redact value) key → ¬ Sensitive lower key
  blind : ∀ other, redact other = redact value ↔ EqualButSecrets lower other value
  kept : nodes (redact value) = (nodes value).filter (fun node => open_path lower node.1)
  again : redact (redact value) = redact value
end

/-! ### Results -/

section
variable (lower : String → String)

private theorem redact_items_eq (items : List Json) : redact_items lower items = items.map (redact_mapping lower) := by
  induction items with
  | nil => rfl
  | cons item rest ih => rw [redact_items, ih, List.map_cons]

private theorem redact_fields_append (before after : JsonObject) :
    redact_fields lower (before ++ after) = redact_fields lower before ++ redact_fields lower after := by
  induction before with
  | nil => rfl
  | cons field rest ih =>
    obtain ⟨key, inner⟩ := field
    rw [List.cons_append, redact_fields, redact_fields, ih]
    split
    · rfl
    · rfl

mutual
theorem value_clean : ∀ (value : Json) (key : String), HasKey (redact_mapping lower value) key →
    ¬ Sensitive lower key
  | .obj fields, key, found => by
    rw [redact_mapping] at found
    cases found with
    | here listed => exact (fields_clean fields key _ listed).1
    | field listed within => exact (fields_clean fields _ _ listed).2 key within
  | .arr items, key, found => by
    rw [redact_mapping] at found
    cases found with
    | item listed within => exact items_clean items _ listed key within
  | .null, _, found => by cases found
  | .bool _, _, found => by cases found
  | .int _, _, found => by cases found
  | .float _, _, found => by cases found
  | .str _, _, found => by cases found
private theorem items_clean : ∀ (items : List Json) (inner : Json), inner ∈ redact_items lower items →
    ∀ key, HasKey inner key → ¬ Sensitive lower key
  | [], _, listed => absurd listed List.not_mem_nil
  | item :: rest, inner, listed => by
    rcases List.mem_cons.mp listed with rfl | later
    · exact value_clean item
    · exact items_clean rest inner later
private theorem fields_clean : ∀ (fields : JsonObject) (name : String) (inner : Json),
    (name, inner) ∈ redact_fields lower fields →
      ¬ Sensitive lower name ∧ ∀ key, HasKey inner key → ¬ Sensitive lower key
  | [], _, _, listed => absurd listed List.not_mem_nil
  | (key, value) :: rest, name, inner, listed => by
    rw [redact_fields] at listed
    split at listed
    · exact fields_clean rest name inner listed
    · rename_i plain
      rcases List.mem_cons.mp listed with same | later
      · cases same
        exact ⟨plain, value_clean value⟩
      · exact fields_clean rest name inner later
end

/-- What differs in secrets alone has the same result. -/
private theorem redacted_same {value other : Json} (same : EqualButSecrets lower value other) :
    redact_mapping lower value = redact_mapping lower other := by
  induction same with
  | refl value => rfl
  | symm _ ih => exact ih.symm
  | trans _ _ first second => exact first.trans second
  | secret sensitive =>
    rw [redact_mapping, redact_mapping, redact_fields_append, redact_fields_append, redact_fields, if_pos sensitive]
  | field _ ih =>
    rw [redact_mapping, redact_mapping, redact_fields_append, redact_fields_append, redact_fields, redact_fields, ih]
  | item _ ih =>
    rw [redact_mapping, redact_mapping, redact_items_eq, redact_items_eq, List.map_append, List.map_append, List.map_cons,
      List.map_cons, ih]

mutual
/-- A value differs from its result in secrets alone. -/
private theorem value_redacted : ∀ value : Json, EqualButSecrets lower value (redact_mapping lower value)
  | .obj fields => by
    rw [redact_mapping]
    exact fields_redacted [] fields
  | .arr items => by
    rw [redact_mapping]
    exact items_redacted [] items
  | .null => .refl .null
  | .bool b => .refl (.bool b)
  | .int n => .refl (.int n)
  | .float text => .refl (.float text)
  | .str text => .refl (.str text)
private theorem items_redacted : ∀ before items : List Json,
    EqualButSecrets lower (.arr (before ++ items)) (.arr (before ++ redact_items lower items))
  | before, [] => .refl _
  | before, item :: rest => by
    have first : EqualButSecrets lower (.arr (before ++ item :: rest)) (.arr (before ++ redact_mapping lower item :: rest)) :=
      .item (value_redacted item)
    have later := items_redacted (before ++ [redact_mapping lower item]) rest
    rw [List.append_assoc, List.append_assoc] at later
    exact first.trans later
private theorem fields_redacted : ∀ before fields : JsonObject,
    EqualButSecrets lower (.obj (before ++ fields)) (.obj (before ++ redact_fields lower fields))
  | before, [] => .refl _
  | before, (key, inner) :: rest => by
    rw [redact_fields]
    split
    · rename_i sensitive
      exact (EqualButSecrets.secret sensitive).trans (fields_redacted before rest)
    · have first : EqualButSecrets lower (.obj (before ++ (key, inner) :: rest))
          (.obj (before ++ (key, redact_mapping lower inner) :: rest)) := .field (value_redacted inner)
      have later := fields_redacted (before ++ [(key, redact_mapping lower inner)]) rest
      rw [List.append_assoc, List.append_assoc] at later
      exact first.trans later
end

private theorem filter_into (step : Step) (places : List (List Step × Content)) :
    (places.map (into step)).filter (fun node => open_path lower node.1) =
      if open_path lower [step] then (places.filter (fun node => open_path lower node.1)).map (into step) else [] := by
  have split : ∀ node : List Step × Content,
      open_path lower (into step node).1 = (open_path lower [step] && open_path lower node.1) := by
    intro node
    rw [into, open_path, open_path, open_path, List.all_cons, List.all_cons, List.all_nil, Bool.and_true]
  rw [List.filter_map]
  cases first : open_path lower [step] with
  | true =>
    rw [if_pos rfl]
    refine congrArg _ (List.filter_congr (fun node _ => ?_))
    rw [Function.comp_apply, split, first, Bool.true_and]
  | false =>
    rw [if_neg Bool.false_ne_true, List.map_eq_nil_iff, List.filter_eq_nil_iff]
    intro node _ passes
    rw [Function.comp_apply, split, first, Bool.false_and] at passes
    cases passes

mutual
private theorem value_kept : ∀ value : Json,
    nodes (redact_mapping lower value) = (nodes value).filter (fun node => open_path lower node.1)
  | .obj fields => by
    rw [redact_mapping, nodes, nodes, fields_kept fields]
    rfl
  | .arr items => by
    rw [redact_mapping, nodes, nodes, items_kept 0 items]
    rfl
  | .null => rfl
  | .bool _ => rfl
  | .int _ => rfl
  | .float _ => rfl
  | .str _ => rfl
private theorem items_kept : ∀ (place : Nat) (items : List Json),
    nodes_items place (redact_items lower items) =
      (nodes_items place items).filter (fun node => open_path lower node.1)
  | _, [] => rfl
  | place, item :: rest => by
    have passes : open_path lower [.index place] = true := rfl
    rw [redact_items, nodes_items, nodes_items, List.filter_append, value_kept item, items_kept (place + 1) rest,
      filter_into, if_pos passes]
private theorem fields_kept : ∀ fields : JsonObject,
    nodes_fields (redact_fields lower fields) = (nodes_fields fields).filter (fun node => open_path lower node.1)
  | [] => rfl
  | (key, inner) :: rest => by
    have step : open_path lower [.key key] = !decide (Sensitive lower key) := by
      rw [open_path, List.all_cons, List.all_nil, Bool.and_true]
    rw [redact_fields, nodes_fields, List.filter_append, filter_into, step]
    split
    · rename_i sensitive
      rw [decide_eq_true sensitive, fields_kept rest]
      rfl
    · rename_i plain
      rw [decide_eq_false plain, nodes_fields, value_kept inner, fields_kept rest]
      rfl
end

/-- The redaction of every value drops the secrets, and nothing else. -/
theorem redact_mapping_redacts (value : Json) : Redacts lower (redact_mapping lower) value where
  clean := value_clean lower value
  blind other := by
    constructor
    · intro same
      have mine := value_redacted lower other
      rw [same] at mine
      exact mine.trans (value_redacted lower value).symm
    · exact redacted_same lower
  kept := value_kept lower value
  again := (redacted_same lower (value_redacted lower value)).symm
end

end SocTriage.Redaction
