import SocTriage.Integrator
import SocTriage.JsonText
import SocTriage.UrlSplit

/-!
One invocation of the integrator script with its exceptions: what each function raises and
what is caught, over an alert file of any bytes and a file system that may refuse every
operation. Where nothing fails, the spool is left as `Integrator.run` leaves it (`run_refines`).
-/
namespace SocTriage.IntegratorRun
open Integrator

/-! ### The interpreter -/

inductive Raised where
  | type_error | value_error | overflow_error | recursion_error | os_error
deriving DecidableEq, Repr

/-- The decoder of `json.loads`, `int` of text and of a finite float, the text and the recursion of `str`, and what
    `urllib.parse` asks of Unicode. -/
structure Interpreter where
  decoder : JsonText.Decoder
  int_text : String → Option Int
  int_float : String → Int
  str : Json → String
  str_recursion : Nat
  unicode : UrlSplit.Unicode

mutual
/-- How deep containers are nested in a value. -/
def depth : Json → Nat
  | .arr items => depth_items items + 1
  | .obj fields => depth_fields fields + 1
  | _ => 0
def depth_items : List Json → Nat
  | [] => 0
  | value :: rest => max (depth value) (depth_items rest)
def depth_fields : JsonObject → Nat
  | [] => 0
  | (_, value) :: rest => max (depth value) (depth_fields rest)
end

/-- `int(value)`. -/
def int (py : Interpreter) : Json → Except Raised Int
  | .bool b => .ok (if b then 1 else 0)
  | .int n => .ok n
  | .float repr =>
    if repr = "inf" ∨ repr = "-inf" then .error .overflow_error
    else if repr = "nan" then .error .value_error
    else .ok (py.int_float repr)
  | .str s =>
    match py.int_text s with
    | none => .error .value_error
    | some n => .ok n
  | .null | .arr _ | .obj _ => .error .type_error

/-- `str(value)`. -/
def str (py : Interpreter) (value : Json) : Except Raised String :=
  if depth value ≤ py.str_recursion then .ok (py.str value) else .error .recursion_error

/-- `str` does not recurse too deep. -/
def Shown (py : Interpreter) (value : Json) : Prop := depth value ≤ py.str_recursion

theorem bind_ok {α β : Type} {x : Except Raised α} {f : α → Except Raised β} {b : β} :
    (x >>= f) = .ok b ↔ ∃ a, x = .ok a ∧ f a = .ok b := by
  cases x with
  | error raised => exact iff_of_false (fun none => by cases none) (fun ⟨_, nothing, _⟩ => by cases nothing)
  | ok a => exact ⟨fun found => ⟨a, rfl, found⟩, fun ⟨_, same, found⟩ => by cases same; exact found⟩

theorem str_ok {py : Interpreter} {value : Json} {text : String} :
    str py value = .ok text ↔ Shown py value ∧ text = py.str value := by
  unfold str
  by_cases shown : depth value ≤ py.str_recursion
  · rw [if_pos shown]
    exact ⟨fun same => by cases same; exact ⟨shown, rfl⟩, fun both => by rw [both.2]⟩
  · rw [if_neg shown]
    exact iff_of_false (fun none => by cases none) (fun both => shown both.1)

/-- `urlparse` leaves the parameters of the last segment out of the path. -/
def without_params (path : List Char) : List Char :=
  let last := if '/' ∈ path then Text.after_last '/' path else path
  path.take (path.length - last.length) ++ last.takeWhile (· ≠ ';')

/-- The configuration with the URL of the API. -/
structure Config extends IntegratorConfig where
  ingest_url : String

def sanitize_url (py : Interpreter) (url : String) : Except Raised String :=
  match UrlSplit.urlsplit py.unicode url.toList with
  | none => .ok "<unparseable-url>"
  | some parsed =>
    let hostname := parsed.hostname py.unicode
    if hostname = [] then .ok "<unparseable-url>"
    else
      match parsed.port with
      | none => .error .value_error
      | some port =>
        let netloc := match port with
          | none | some 0 => hostname
          | some port => hostname ++ ':' :: (toString port).toList
        .ok (String.ofList (UrlSplit.urlunsplit { parsed with netloc, path := without_params parsed.path, fragment := [] }))

/-! ### The alert file -/

/-- What the script finds under its argument. -/
inductive AlertFile where
  | unreadable (error_type : String)
  | content (raw : ByteArray)

def MAX_ALERT_BYTES : Nat := 1048576

/-- `_read_alert_file`: the alert with its text, or the reason there is none. -/
def read_alert_file (py : Interpreter) : AlertFile → Except Raised (Except String (JsonObject × String))
  | .unreadable error_type => .ok (.error ("unreadable:" ++ error_type))
  | .content raw =>
    if MAX_ALERT_BYTES < raw.size then .ok (.error "alert_too_large")
    else
      match String.fromUTF8? raw with
      | none => .ok (.error "invalid_json")
      | some text =>
        match JsonText.loads py.decoder text with
        | .error .decode => .ok (.error "invalid_json")
        | .error .digits => .error .value_error
        | .error .recursion => .error .recursion_error
        | .ok (.obj alert) => .ok (.ok (alert, text))
        | .ok _ => .ok (.error "not_an_object")

/-! ### The filter -/

/-- The groups of a rule, each as text. -/
def group_names (py : Interpreter) : List Json → Except Raised (List String)
  | [] => .ok []
  | group :: rest => do
    let name ← str py group
    let names ← group_names py rest
    return name :: names

theorem group_names_ok {py : Interpreter} {groups : List Json} {names : List String} :
    group_names py groups = .ok names ↔ (∀ group ∈ groups, Shown py group) ∧ names = groups.map py.str := by
  induction groups generalizing names with
  | nil =>
    unfold group_names
    exact ⟨fun same => by cases same; exact ⟨fun _ none => absurd none List.not_mem_nil, rfl⟩,
      fun both => by rw [both.2]; rfl⟩
  | cons group rest ih =>
    rw [group_names, bind_ok]
    constructor
    · rintro ⟨name, first, later⟩
      obtain ⟨names', others, same⟩ := bind_ok.mp later
      cases same
      obtain ⟨shown, rfl⟩ := str_ok.mp first
      obtain ⟨all, rfl⟩ := ih.mp others
      exact ⟨List.forall_mem_cons.mpr ⟨shown, all⟩, rfl⟩
    · rintro ⟨all, rfl⟩
      obtain ⟨shown, others⟩ := List.forall_mem_cons.mp all
      exact ⟨_, str_ok.mpr ⟨shown, rfl⟩, bind_ok.mpr ⟨_, ih.mpr ⟨others, rfl⟩, rfl⟩⟩

def should_forward (py : Interpreter) (alert : JsonObject) (config : IntegratorConfig) : Except Raised (Bool × String) :=
  match Json.lookup "rule" alert with
  | some (.obj rule) =>
    match int py ((Json.lookup "level" rule).getD .null) with
    | .error .type_error | .error .value_error => .ok (false, "invalid_level")
    | .error raised => .error raised
    | .ok level =>
      if level < config.min_rule_level then .ok (false, "below_min_level")
      else do
        let rule_id ← str py ((Json.lookup "id" rule).getD (.str ""))
        if Text.strip rule_id ≠ "" ∧ config.excluded_rule_ids.contains (Text.strip rule_id) then
          return (false, "excluded_rule_id")
        match Json.lookup "groups" rule with
        | some (.arr groups) =>
          let names ← group_names py groups
          if names.any (fun name => config.excluded_groups.contains name) then return (false, "excluded_group")
          return (true, "forward")
        | _ => return (true, "forward")
  | _ => .ok (false, "missing_rule")

/-- The `id` of a mapping of the alert, for the log. -/
def logged_id (py : Interpreter) (key : String) (alert : JsonObject) : Except Raised String :=
  match Json.lookup key alert with
  | some (.obj fields) => str py ((Json.lookup "id" fields).getD (.str ""))
  | _ => .ok ""

/-! ### The spool -/

/-- What the file system does during an invocation: whether each listing of the spool works, in the order of the listings,
    whether a file can be looked at, read and removed, and whether the directory and the new file can be made. -/
structure Disk where
  lists : Nat → Bool
  stats : Entry → Bool
  reads : Entry → Bool
  unlinks : Entry → Bool
  makes_dir : Bool
  writes : Bool

def entries (disk : Disk) (listing : Nat) (spool : Spool) : Except Raised (List Entry) :=
  if disk.lists listing then .ok (Integrator.entries spool) else .error .os_error

def discard (disk : Disk) (spool : Spool) (entry : Entry) : Spool :=
  if disk.unlinks entry then spool.filter (fun other => other.name ≠ entry.name) else spool

def prune (disk : Disk) (listing : Nat) (config : IntegratorConfig) (now : Int) (spool : Spool) : Except Raised Spool := do
  let listed ← entries disk listing spool
  return listed.foldl (fun spool entry =>
    if disk.stats entry && entry.mtime < cutoff config now then discard disk spool entry else spool) spool

/-- The loop of the flush over the listed files; `n` have been tried before. -/
def flush_entries (disk : Disk) (config : IntegratorConfig) (senders : Nat → Nat → SenderResponse) :
    Nat → List Entry → Spool → Spool
  | _, [], spool => spool
  | n, entry :: rest, spool =>
    if !disk.reads entry then flush_entries disk config senders n rest (discard disk spool entry)
    else
      let outcome := (deliver config (senders n)).2
      if outcome.delivered || !outcome.retryable then
        flush_entries disk config senders (n + 1) rest (discard disk spool entry)
      else spool

def flush_spool (disk : Disk) (config : IntegratorConfig) (now : Int) (senders : Nat → Nat → SenderResponse) (spool : Spool) :
    Except Raised Spool := do
  let pruned ← prune disk 0 config now spool
  let listed ← entries disk 1 pruned
  let flushed := flush_entries disk config senders 0 (listed.take config.spool_flush_batch) pruned
  let _pending ← entries disk 2 flushed
  return flushed

/-- Whether the alert was written; an `OSError` is caught wherever it comes from. -/
def enqueue (disk : Disk) (config : IntegratorConfig) (number : Nat) (self : Invocation) (raw : String) (spool : Spool) :
    Bool × Spool :=
  if !disk.makes_dir then (false, spool)
  else
    match prune disk 3 config self.enqueue_now spool with
    | .error _ => (false, spool)
    | .ok pruned =>
      match entries disk 4 pruned with
      | .error _ => (false, pruned)
      | .ok listed =>
        let dropped := listed.take (listed.length + 1 - max 1 config.spool_max_entries)
        let room := dropped.foldl (discard disk) pruned
        if disk.writes then (true, room.put (new_entry number self raw)) else (false, room)

/-! ### One invocation -/

/-- What becomes of the alert an invocation is for, as it is logged. -/
inductive Report where
  | usage_error
  | config_error (reason : String)
  | unreadable (reason : String)
  | filtered (reason : String)
  | forwarded | buffered | dropped | rejected
deriving DecidableEq, Repr

/-- The alert that is forwarded. -/
def deliver_alert (py : Interpreter) (disk : Disk) (config : Config) (number : Nat) (self : Invocation) (raw : String)
    (spool : Spool) : Except Raised (Report × Spool) :=
  let outcome := (deliver config.toIntegratorConfig self.sender).2
  if outcome.delivered then do
    let _endpoint ← sanitize_url py config.ingest_url
    return (.forwarded, spool)
  else if outcome.retryable then do
    let (buffered, spool) := enqueue disk config.toIntegratorConfig number self raw spool
    let _pending ← entries disk 5 spool
    let _endpoint ← sanitize_url py config.ingest_url
    return (if buffered then .buffered else .dropped, spool)
  else do
    let _endpoint ← sanitize_url py config.ingest_url
    return (.rejected, spool)

/-- The alert that was read. -/
def handle_alert (py : Interpreter) (disk : Disk) (config : Config) (number : Nat) (self : Invocation) (alert : JsonObject)
    (raw : String) (spool : Spool) : Except Raised (Report × Spool) := do
  let (forward, reason) ← should_forward py alert config.toIntegratorConfig
  let _rule_id ← logged_id py "rule" alert
  let _agent_id ← logged_id py "agent" alert
  if !forward then return (.filtered reason, spool)
  deliver_alert py disk config number self raw spool

def EXIT_OK : Nat := 0

def EXIT_CONFIG_ERROR : Nat := 2

/-- `run`, with the file of its argument, if it has one, and what `load_config` makes of its environment: the exit code, what
    became of the alert, and the spool. -/
def run (py : Interpreter) (disk : Disk) (config : Except String Config) (file : Option AlertFile) (number : Nat)
    (self : Invocation) (spool : Spool) : Except Raised (Nat × Report × Spool) :=
  match file, config with
  | none, _ => .ok (EXIT_CONFIG_ERROR, .usage_error, spool)
  | some _, .error reason => .ok (EXIT_CONFIG_ERROR, .config_error reason, spool)
  | some file, .ok config => do
    let spool ← flush_spool disk config.toIntegratorConfig self.flush_now self.spooled spool
    match ← read_alert_file py file with
    | .error reason => return (EXIT_OK, .unreadable reason, spool)
    | .ok (alert, raw) =>
      let (report, spool) ← handle_alert py disk config number self alert raw spool
      return (EXIT_OK, report, spool)

/-! ### A file system that works -/

def working : Disk where
  lists := fun _ => true
  stats := fun _ => true
  reads := fun _ => true
  unlinks := fun _ => true
  makes_dir := true
  writes := true

/-- `int` and `str` as far as they raise nothing. -/
def builtins (py : Interpreter) : Builtins where
  int value := (int py value).toOption
  str := py.str

private theorem run_unlinks (spool : Spool) (listed : List Entry) (reason : Reason) :
    Runs.run perform spool (listed.map (Action.unlink · reason)) = listed.foldl (discard working) spool := by
  induction listed generalizing spool with
  | nil => rfl
  | cons entry rest ih => exact ih (discard working spool entry)

private theorem run_posts (spool : Spool) (number : Nat) (answers : List SenderResponse) :
    Runs.run perform spool (answers.map (Action.post number)) = spool := by
  induction answers with
  | nil => rfl
  | cons answer rest ih => exact ih

private theorem prune_working (listing : Nat) (config : IntegratorConfig) (now : Int) (spool : Spool) :
    prune working listing config now spool = .ok (Runs.run perform spool (Integrator.prune config now spool)) := by
  rw [Integrator.prune, run_unlinks, List.foldl_filter]
  rfl

private theorem flush_entries_working (config : IntegratorConfig) (senders : Nat → Nat → SenderResponse) (n : Nat)
    (listed : List Entry) (spool : Spool) : flush_entries working config senders n listed spool =
      Runs.run perform spool (Integrator.flush_entries config senders n listed) := by
  induction listed generalizing n spool with
  | nil => rfl
  | cons entry rest ih =>
    rw [flush_entries_cons, attempted, List.append_assoc, Runs.run_append, run_posts, flush_entries,
      if_neg (by simp [working])]
    have ends := deliver_delivered config (senders n)
    generalize deliver config (senders n) = delivery at *
    cases ends with
    | answered _ _ delivered final =>
      rw [if_pos (by simp [delivered]), ih, if_pos delivered, if_neg (by simp [final])]
      rfl
    | rejected _ _ _ undelivered final =>
      rw [if_pos (by simp [final]), ih, if_neg (by simp [undelivered]), if_neg (by simp [final]), if_neg (by simp [final])]
      rfl
    | postponed _ undelivered retryable =>
      rw [if_neg (by simp [undelivered, retryable]), if_neg (by simp [undelivered]), if_pos retryable, if_pos retryable]
      rfl

private theorem flush_spool_working (config : IntegratorConfig) (now : Int) (senders : Nat → Nat → SenderResponse)
    (spool : Spool) : flush_spool working config now senders spool =
      .ok (Runs.run perform spool (Integrator.flush_spool config now senders spool)) := by
  rw [Integrator.flush_spool, Runs.run_append, ← flush_entries_working, flush_spool, prune_working]
  rfl

private theorem enqueue_working (config : IntegratorConfig) (number : Nat) (self : Invocation) (raw : String)
    (spool : Spool) :
    enqueue working config number self raw spool =
      (true, Runs.run perform spool (Integrator.enqueue config number self raw spool)) := by
  rw [Integrator.enqueue, Runs.run_append, Runs.run_append, enforce_capacity, run_unlinks, enqueue,
    if_neg (by simp [working]),
    prune_working]
  rfl

theorem should_forward_agrees {py : Interpreter} {config : IntegratorConfig} {alert : JsonObject}
    {answer : Bool × String} (filtered : should_forward py alert config = .ok answer) :
    Integrator.should_forward (builtins py) alert config = answer := by
  unfold should_forward at filtered
  split at filtered
  · rename_i rule found
    unfold Integrator.should_forward
    rw [found]
    dsimp only [builtins]
    split at filtered
    · rename_i refused
      rw [refused]
      cases filtered
      rfl
    · rename_i refused
      rw [refused]
      cases filtered
      rfl
    · cases filtered
    · rename_i level converted
      rw [converted]
      dsimp only [Except.toOption]
      split at filtered
      · rename_i low
        cases filtered
        exact if_pos low
      rename_i high
      rw [if_neg high]
      obtain ⟨rule_id, shown, filtered⟩ := bind_ok.mp filtered
      obtain ⟨_, rfl⟩ := str_ok.mp shown
      split at filtered
      · rename_i excluded
        cases filtered
        exact if_pos excluded
      rename_i kept
      rw [if_neg kept]
      generalize Json.lookup "groups" rule = listed at filtered ⊢
      rcases listed with _ | value
      · cases filtered
        rfl
      · cases value
        case arr groups =>
          obtain ⟨names, named, filtered⟩ := bind_ok.mp filtered
          obtain ⟨_, rfl⟩ := group_names_ok.mp named
          rw [List.any_map] at filtered
          split at filtered
          · rename_i excluded
            cases filtered
            exact if_pos excluded
          · rename_i kept
            cases filtered
            exact if_neg kept
        all_goals
          cases filtered
          rfl
  · rename_i other
    cases filtered
    unfold Integrator.should_forward
    split
    · rename_i rule found
      exact absurd found (other rule)
    · rfl

private theorem deliver_alert_left {py : Interpreter} {config : Config} {number : Nat} {self : Invocation} {raw : String}
    {spool left : Spool} {report : Report}
    (delivered : deliver_alert py working config number self raw spool = .ok (report, left)) :
    left = if (deliver config.toIntegratorConfig self.sender).2.delivered then spool
      else if (deliver config.toIntegratorConfig self.sender).2.retryable then
        Runs.run perform spool (Integrator.enqueue config.toIntegratorConfig number self raw spool)
      else spool := by
  unfold deliver_alert at delivered
  dsimp only at delivered
  by_cases answered : (deliver config.toIntegratorConfig self.sender).2.delivered = true
  · rw [if_pos answered] at delivered ⊢
    obtain ⟨_, _, delivered⟩ := bind_ok.mp delivered
    cases delivered
    rfl
  rw [if_neg answered] at delivered ⊢
  by_cases retryable : (deliver config.toIntegratorConfig self.sender).2.retryable = true
  · rw [if_pos retryable] at delivered ⊢
    rw [enqueue_working] at delivered
    obtain ⟨_, _, delivered⟩ := bind_ok.mp delivered
    obtain ⟨_, _, delivered⟩ := bind_ok.mp delivered
    cases delivered
    rfl
  · rw [if_neg retryable] at delivered ⊢
    obtain ⟨_, _, delivered⟩ := bind_ok.mp delivered
    cases delivered
    rfl

/-- An invocation that ends leaves the spool as the actions of `Integrator.run` do, where the file system works. -/
theorem run_refines {py : Interpreter} {config : Config} {file : AlertFile} {number : Nat} {self : Invocation}
    {spool left : Spool} {code : Nat} {report : Report} (read : read_alert_file py file = .ok self.file)
    (done : run py working (.ok config) (some file) number self spool = .ok (code, report, left)) :
    left = Runs.run perform spool (Integrator.run (builtins py) config.toIntegratorConfig number self spool) := by
  obtain ⟨flushed, flush_done, done⟩ := bind_ok.mp done
  rw [flush_spool_working] at flush_done
  cases flush_done
  obtain ⟨answer, answered, done⟩ := bind_ok.mp done
  rw [read] at answered
  cases answered
  unfold Integrator.run
  cases file_read : self.file with
  | error reason =>
    rw [file_read] at done
    cases done
    rfl
  | ok pair =>
    obtain ⟨alert, raw⟩ := pair
    rw [file_read] at done
    obtain ⟨⟨report', left'⟩, handled, done⟩ := bind_ok.mp done
    cases done
    obtain ⟨⟨forward, reason⟩, filtered, handled⟩ := bind_ok.mp handled
    obtain ⟨_, _, handled⟩ := bind_ok.mp handled
    obtain ⟨_, _, handled⟩ := bind_ok.mp handled
    dsimp only
    rw [should_forward_agrees filtered]
    cases forward with
    | false =>
      cases handled
      rfl
    | true =>
      rw [if_neg (by simp)]
      rw [deliver_alert_left handled]
      split
      · rw [Runs.run_append, run_posts]
      split
      · rw [Runs.run_append, Runs.run_append, run_posts]
      · rw [Runs.run_append, run_posts]

end SocTriage.IntegratorRun
