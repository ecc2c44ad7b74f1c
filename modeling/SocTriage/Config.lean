import Mathlib.Data.List.Sort
import Mathlib.Data.String.Basic

/-!
Configuration files as `yaml.safe_load` gives them, and the checks of their top level, which the
allowlist and the asset inventory have in common.
-/
namespace SocTriage

/-- What a document holds: dictionaries, lists and texts; the other scalars by what Python writes for them. -/
inductive Yaml where
  | null
  | scalar (repr : String)
  | str (text : String)
  | seq (items : List Yaml)
  | map (fields : List (Yaml × Yaml))

namespace Config

/-- `str` and `repr` of a value, which only messages show. -/
structure Display where
  str : Yaml → String
  repr : Yaml → String

/-- The value is the text. -/
def is_text (text : String) : Yaml → Bool
  | .str other => other = text
  | _ => false

/-- The value under a text. -/
def get (key : String) (fields : List (Yaml × Yaml)) : Option Yaml :=
  (fields.find? (fun field => is_text key field.1)).map Prod.snd

/-- `d.get(key)`, a missing one being `None`. -/
def field (key : String) (fields : List (Yaml × Yaml)) : Yaml := (get key fields).getD .null

/-- The keys of a dictionary that are none of the allowed ones. -/
def unexpected_keys (allowed : List String) (fields : List (Yaml × Yaml)) : List Yaml :=
  (fields.map Prod.fst).filter (fun key => !allowed.any (fun name => is_text name key))

/-- The keys as a message lists them. -/
def listed (py : Display) (keys : List Yaml) : String :=
  String.intercalate ", " ((keys.map py.str).insertionSort (· ≤ ·))

/-- What a configuration file is about: the key of its list, its version, and how long the list may be. -/
structure Kind where
  label : String
  name : String
  version : String
  maximum : Nat

def Kind.error (kind : Kind) (message : String) : String := kind.label ++ " configuration error: " ++ message

/-- The list of a configuration file, once its top level is checked. -/
def top_level (py : Display) (kind : Kind) : Yaml → Except String (List Yaml)
  | .map raw =>
    let unexpected := unexpected_keys ["version", kind.name] raw
    if !unexpected.isEmpty then
      .error (kind.error ("unsupported top-level field(s): " ++ listed py unexpected))
    else
      match get "version" raw, get kind.name raw with
      | none, _ => .error (kind.error "version is required")
      | some _, none => .error (kind.error (kind.name ++ " is required"))
      | some version, some items_raw =>
        if !is_text kind.version version then
          .error (kind.error ("version must be " ++ py.repr (.str kind.version) ++ ", got " ++ py.repr version))
        else
          match items_raw with
          | .seq items =>
            if items.length > kind.maximum then
              .error (kind.error (kind.name ++ " exceeds maximum of " ++ toString kind.maximum))
            else .ok items
          | _ => .error (kind.error (kind.name ++ " must be a list"))
  | _ => .error (kind.error "top level must be a YAML mapping")

/-- A file of the kind with this list. -/
def document (kind : Kind) (items : List Yaml) : Yaml :=
  .map [(.str "version", .str kind.version), (.str kind.name, .seq items)]

theorem top_level_document (py : Display) {kind : Kind} (apart : kind.name ≠ "version") (items : List Yaml) :
    top_level py kind (document kind items) =
      if items.length > kind.maximum then
        .error (kind.error (kind.name ++ " exceeds maximum of " ++ toString kind.maximum))
      else .ok items := by
  have expected : unexpected_keys ["version", kind.name] [(.str "version", .str kind.version), (.str kind.name, .seq items)] =
      [] := by simp [unexpected_keys, is_text]
  have version : get "version" [(.str "version", .str kind.version), (.str kind.name, .seq items)] =
      some (.str kind.version) := by simp [get, is_text]
  have listed : get kind.name [(.str "version", .str kind.version), (.str kind.name, .seq items)] = some (.seq items) := by
    simp [get, is_text, apart.symm]
  rw [document, top_level, expected, version, listed]
  simp [is_text]

end Config
end SocTriage
