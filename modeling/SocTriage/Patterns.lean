import Mathlib.Data.List.Basic
import Mathlib.Tactic.Common

/-!
Backtracking patterns over text, in the way of Perl: the places a pattern can end at from
a place, in the order they are tried in, so that the first of them is the match. A text is
a list of characters, a place a cursor in it. A match passes only characters that some
class of the pattern accepts (`mem_ends`), and what a repeated class can end at is known
exactly (`mem_run`, `head_run`).
-/
namespace SocTriage.Patterns

/-- A place in a text: what is behind it, the nearest first, and what is ahead. -/
structure Cursor where
  behind : List Char
  ahead : List Char
deriving DecidableEq

def Cursor.start (text : List Char) : Cursor := ⟨[], text⟩

def Cursor.advance (c : Cursor) (n : Nat) : Cursor := ⟨(c.ahead.take n).reverse ++ c.behind, c.ahead.drop n⟩

/-- A cursor is past a word that was ahead of another. -/
def Passes (c : Cursor) (word : List Char) (d : Cursor) : Prop :=
  c.ahead = word ++ d.ahead ∧ d.behind = word.reverse ++ c.behind

inductive Pattern where
  /-- `[class]{least,most}`, as long as it gets. -/
  | run (accepts : Char → Bool) (least : Nat) (most : Option Nat)
  | seq (first second : Pattern)
  | alt (first second : Pattern)
  /-- `(?:body)*`, as often as it gets. -/
  | star (body : Pattern)
  /-- `(?<![class])`. -/
  | unpreceded (accepts : Char → Bool)
  /-- `(?!body)`. -/
  | unfollowed (body : Pattern)
  /-- `$`: the end, or before a line feed that ends the text. -/
  | finish

/-- A step repeated as long as it gets on, the longest way first. -/
def iterate (step : Cursor → List Cursor) : Nat → Cursor → List Cursor
  | 0, c => [c]
  | fuel + 1, c => ((step c).filter (fun d => d.ahead.length < c.ahead.length)).flatMap (iterate step fuel) ++ [c]

/-- How far a repeated class gets. -/
def run_length (accepts : Char → Bool) (most : Option Nat) (c : Cursor) : Nat :=
  let reach := (c.ahead.takeWhile accepts).length
  match most with
  | none => reach
  | some most => min reach most

/-- Where a pattern can end, the first choice first. -/
def Pattern.ends : Pattern → Cursor → List Cursor
  | .run accepts least most, c =>
    ((List.range (run_length accepts most c + 1)).reverse.filter (fun n => least ≤ n)).map c.advance
  | .seq first second, c => (first.ends c).flatMap second.ends
  | .alt first second, c => first.ends c ++ second.ends c
  | .star body, c => iterate body.ends c.ahead.length c
  | .unpreceded accepts, c =>
    match c.behind with
    | [] => [c]
    | last :: _ => if accepts last then [] else [c]
  | .unfollowed body, c => if (body.ends c).isEmpty then [c] else []
  | .finish, c => if c.ahead = [] ∨ c.ahead = ['\n'] then [c] else []

/-- `(?:body)+`. -/
def Pattern.plus (body : Pattern) : Pattern := .seq body (.star body)

/-- One character of a class. -/
def Pattern.one (accepts : Char → Bool) : Pattern := .run accepts 1 (some 1)

/-- `(?:body)?`. -/
def Pattern.optional (body : Pattern) : Pattern := .alt body (.run (fun _ => false) 0 (some 0))

def Pattern.literal : List Char → Pattern
  | [] => .run (fun _ => false) 0 (some 0)
  | c :: rest => .seq (.one (fun d => d = c)) (literal rest)

/-- The word between a cursor and a later one. -/
def between (c d : Cursor) : List Char := c.ahead.take (c.ahead.length - d.ahead.length)

/-- The words that patterns match one after the other, in every way, the first choice first. -/
def captures : List Pattern → Cursor → List (List (List Char))
  | [], _ => [[]]
  | first :: rest, c => (first.ends c).flatMap (fun d => (captures rest d).map (fun words => between c d :: words))

/-- The matches of a pattern from a place on, without overlap. -/
def find_from (pattern : Pattern) : Nat → Cursor → List (Cursor × Cursor)
  | 0, _ => []
  | fuel + 1, c =>
    match (pattern.ends c).head? with
    | some d =>
      if d.ahead.length < c.ahead.length then (c, d) :: find_from pattern fuel d
      else find_from pattern fuel (c.advance 1)
    | none => find_from pattern fuel (c.advance 1)

/-- `finditer`, for a pattern that never matches the empty word. -/
def finditer (pattern : Pattern) (text : List Char) : List (Cursor × Cursor) :=
  find_from pattern (text.length + 1) (.start text)

/-! ### Passing words -/

theorem Passes.refl (c : Cursor) : Passes c [] c := ⟨rfl, rfl⟩

theorem Passes.trans {c d e : Cursor} {first second : List Char} (left : Passes c first d) (right : Passes d second e) :
    Passes c (first ++ second) e := by
  constructor
  · rw [left.1, right.1, List.append_assoc]
  · rw [right.2, left.2, List.reverse_append, List.append_assoc]

theorem Passes.between {c d : Cursor} {word : List Char} (passes : Passes c word d) : between c d = word := by
  unfold Patterns.between
  rw [passes.1, List.length_append, Nat.add_sub_cancel_right, List.take_left']
  rfl

theorem advance_passes (c : Cursor) (n : Nat) : Passes c (c.ahead.take n) (c.advance n) :=
  ⟨(List.take_append_drop n c.ahead).symm, rfl⟩

/-- A cursor past a word is as far ahead as the word is long. -/
theorem Passes.eq_advance {c d : Cursor} {word : List Char} (passes : Passes c word d) : d = c.advance word.length := by
  obtain ⟨ahead, behind⟩ := passes
  cases d
  unfold Cursor.advance
  rw [ahead, List.take_left' rfl, List.drop_left' rfl]
  exact congrArg (Cursor.mk · _) behind

/-! ### What a match passes -/

/-- Some class of the pattern accepts the character. -/
def Pattern.mentions : Pattern → Char → Bool
  | .run accepts _ _, x => accepts x
  | .seq first second, x => first.mentions x || second.mentions x
  | .alt first second, x => first.mentions x || second.mentions x
  | .star body, x => body.mentions x
  | .unpreceded _, _ => false
  | .unfollowed _, _ => false
  | .finish, _ => false

/-- A repeated class ends after any word of the class whose length is within the bounds. -/
theorem mem_run {accepts : Char → Bool} {least : Nat} {most : Option Nat} {c d : Cursor} :
    d ∈ (Pattern.run accepts least most).ends c ↔ ∃ word, Passes c word d ∧ least ≤ word.length ∧
      (∀ bound, most = some bound → word.length ≤ bound) ∧ ∀ x ∈ word, accepts x = true := by
  unfold Pattern.ends
  rw [List.mem_map]
  constructor
  · rintro ⟨n, choice, rfl⟩
    obtain ⟨reached, enough⟩ := List.mem_filter.mp choice
    have enough : least ≤ n := of_decide_eq_true enough
    have reached : n < run_length accepts most c + 1 := List.mem_range.mp (List.mem_reverse.mp reached)
    have within : n ≤ (c.ahead.takeWhile accepts).length ∧ ∀ bound, most = some bound → n ≤ bound := by
      unfold run_length at reached
      cases most with
      | none => exact ⟨Nat.lt_succ_iff.mp reached, fun _ none => by cases none⟩
      | some most =>
        have reached : n ≤ min (c.ahead.takeWhile accepts).length most := Nat.lt_succ_iff.mp reached
        exact ⟨by omega, fun bound same => by cases same; omega⟩
    have start : c.ahead.take n <+: c.ahead.takeWhile accepts :=
      List.prefix_of_prefix_length_le (List.take_prefix n c.ahead) (List.takeWhile_prefix accepts)
        (Nat.le_trans (List.length_take_le n c.ahead) within.1)
    have long : (c.ahead.take n).length = n := by
      have shorter := (List.takeWhile_prefix accepts (l := c.ahead)).length_le
      rw [List.length_take]
      omega
    refine ⟨c.ahead.take n, advance_passes c n, by omega, fun bound same => ?_, fun x inside => ?_⟩
    · rw [long]
      exact within.2 bound same
    · exact List.all_eq_true.mp (List.all_takeWhile ..) x (start.subset inside)
  · rintro ⟨word, passes, enough, bounded, all⟩
    refine ⟨word.length, List.mem_filter.mpr ⟨List.mem_reverse.mpr (List.mem_range.mpr ?_), decide_eq_true enough⟩,
      passes.eq_advance.symm⟩
    have reach : word.length ≤ (c.ahead.takeWhile accepts).length := by
      rw [passes.1, List.takeWhile_append_of_pos all, List.length_append]
      exact Nat.le_add_right ..
    unfold run_length
    cases most with
    | none => exact Nat.lt_succ_iff.mpr reach
    | some most => exact Nat.lt_succ_iff.mpr (Nat.le_min.mpr ⟨reach, bounded most rfl⟩)

/-- A repeated step ends past the words of the steps. -/
theorem mem_iterate {step : Cursor → List Cursor} {ok : List Char → Prop}
    (steps : ∀ c, ∀ d ∈ step c, ∃ word, Passes c word d ∧ ok word) (fuel : Nat) (c : Cursor) :
    ∀ d ∈ iterate step fuel c, ∃ words : List (List Char), Passes c words.flatten d ∧ ∀ word ∈ words, ok word := by
  induction fuel generalizing c with
  | zero =>
    intro d inside
    rw [List.mem_singleton.mp inside]
    exact ⟨[], .refl c, fun _ inside => absurd inside List.not_mem_nil⟩
  | succ fuel ih =>
    intro d inside
    rcases List.mem_append.mp inside with further | here
    · obtain ⟨e, first, later⟩ := List.mem_flatMap.mp further
      obtain ⟨word, passes, fine⟩ := steps c e (List.mem_filter.mp first).1
      obtain ⟨words, passes', all⟩ := ih e d later
      exact ⟨word :: words, passes.trans passes', List.forall_mem_cons.mpr ⟨fine, all⟩⟩
    · rw [List.mem_singleton.mp here]
      exact ⟨[], .refl c, fun _ inside => absurd inside List.not_mem_nil⟩

private theorem still (c : Cursor) (ok : Char → Prop) : ∃ word, Passes c word c ∧ ∀ x ∈ word, ok x :=
  ⟨[], .refl c, fun _ inside => absurd inside List.not_mem_nil⟩

/-- A pattern ends past a word of characters that its classes accept. -/
theorem mem_ends {pattern : Pattern} {c d : Cursor} (found : d ∈ pattern.ends c) :
    ∃ word, Passes c word d ∧ ∀ x ∈ word, pattern.mentions x = true := by
  induction pattern generalizing c d with
  | run accepts least most =>
    obtain ⟨word, passes, _, _, all⟩ := mem_run.mp found
    exact ⟨word, passes, all⟩
  | seq first second first_ih second_ih =>
    obtain ⟨e, left, right⟩ := List.mem_flatMap.mp found
    obtain ⟨word, passes, all⟩ := first_ih left
    obtain ⟨rest, passes', all'⟩ := second_ih right
    refine ⟨word ++ rest, passes.trans passes', fun x inside => ?_⟩
    unfold Pattern.mentions
    rcases List.mem_append.mp inside with left | right
    · rw [all x left, Bool.true_or]
    · rw [all' x right, Bool.or_true]
  | alt first second first_ih second_ih =>
    unfold Pattern.mentions
    rcases List.mem_append.mp found with left | right
    · obtain ⟨word, passes, all⟩ := first_ih left
      exact ⟨word, passes, fun x inside => by rw [all x inside, Bool.true_or]⟩
    · obtain ⟨word, passes, all⟩ := second_ih right
      exact ⟨word, passes, fun x inside => by rw [all x inside, Bool.or_true]⟩
  | star body ih =>
    obtain ⟨words, passes, all⟩ := mem_iterate (fun c d inside => ih inside) _ c d found
    refine ⟨words.flatten, passes, fun x inside => ?_⟩
    obtain ⟨word, listed, inside⟩ := List.mem_flatten.mp inside
    exact all word listed x inside
  | unpreceded accepts =>
    unfold Pattern.ends at found
    split at found
    · rw [List.mem_singleton.mp found]
      exact still c _
    · split at found
      · cases found
      · rw [List.mem_singleton.mp found]
        exact still c _
  | unfollowed body =>
    unfold Pattern.ends at found
    split at found
    · rw [List.mem_singleton.mp found]
      exact still c _
    · cases found
  | finish =>
    unfold Pattern.ends at found
    split at found
    · rw [List.mem_singleton.mp found]
      exact still c _
    · cases found

/-! ### Classes, literals and captures -/

/-- The first choice of an unbounded class is all that is there of it. -/
theorem head_run (accepts : Char → Bool) (c : Cursor) :
    ((Pattern.run accepts 0 none).ends c).head? = some (c.advance (c.ahead.takeWhile accepts).length) := by
  have all : ∀ ns : List Nat, ns.filter (fun n => decide (0 ≤ n)) = ns :=
    fun ns => List.filter_eq_self.mpr (fun n _ => decide_eq_true (Nat.zero_le n))
  unfold Pattern.ends run_length
  rw [all, List.range_succ, List.reverse_append]
  rfl

/-- The first way through a sequence goes the first way through each part, where there is one. -/
theorem head_flatMap {α β : Type} {choices : List α} {f : α → List β} {a : α} {b : β} (first : choices.head? = some a)
    (then_first : (f a).head? = some b) : (choices.flatMap f).head? = some b := by
  cases choices with
  | nil => cases first
  | cons _ rest =>
    cases first
    rw [List.flatMap_cons, List.head?_append, then_first]
    rfl

theorem mem_one {accepts : Char → Bool} {c d : Cursor} :
    d ∈ (Pattern.one accepts).ends c ↔ ∃ x, Passes c [x] d ∧ accepts x = true := by
  unfold Pattern.one
  rw [mem_run]
  constructor
  · rintro ⟨word, passes, least, most, all⟩
    have single : word.length = 1 := Nat.le_antisymm (most 1 rfl) least
    obtain ⟨x, rfl⟩ := List.length_eq_one_iff.mp single
    exact ⟨x, passes, all x List.mem_cons_self⟩
  · rintro ⟨x, passes, accepted⟩
    refine ⟨[x], passes, Nat.le_refl 1, fun bound same => by cases same; exact Nat.le_refl 1, fun y inside => ?_⟩
    rw [List.mem_singleton.mp inside]
    exact accepted

theorem mem_finish {c d : Cursor} : d ∈ Pattern.finish.ends c ↔ d = c ∧ (c.ahead = [] ∨ c.ahead = ['\n']) := by
  unfold Pattern.ends
  split
  · rename_i done
    rw [List.mem_singleton, and_iff_left done]
  · rename_i more
    exact iff_of_false (fun inside => by cases inside) (fun both => more both.2)

theorem mem_literal {word : List Char} {c d : Cursor} : d ∈ (Pattern.literal word).ends c ↔ Passes c word d := by
  induction word generalizing c with
  | nil =>
    unfold Pattern.literal
    rw [mem_run]
    constructor
    · rintro ⟨word, passes, _, most, _⟩
      rw [List.length_eq_zero_iff.mp (Nat.le_zero.mp (most 0 rfl))] at passes
      exact passes
    · intro passes
      exact ⟨[], passes, Nat.le_refl 0, fun bound _ => Nat.zero_le bound, fun _ inside => absurd inside List.not_mem_nil⟩
  | cons x rest ih =>
    unfold Pattern.literal
    show d ∈ ((Pattern.one (fun y => y = x)).ends c).flatMap (Pattern.literal rest).ends ↔ _
    rw [List.mem_flatMap]
    constructor
    · rintro ⟨e, first, later⟩
      obtain ⟨y, passes, same⟩ := mem_one.mp first
      obtain rfl := of_decide_eq_true same
      exact passes.trans (ih.mp later)
    · rintro ⟨ahead, behind⟩
      refine ⟨⟨x :: c.behind, rest ++ d.ahead⟩, mem_one.mpr ⟨x, ⟨ahead, rfl⟩, decide_eq_true rfl⟩, ih.mpr ⟨rfl, ?_⟩⟩
      rw [behind, List.reverse_cons, List.append_assoc]
      rfl

/-- What a literal ends at is where it ends first. -/
theorem head_literal {word : List Char} {c d : Cursor} (passes : Passes c word d) :
    ((Pattern.literal word).ends c).head? = some d := by
  have found := mem_literal.mpr passes
  cases choices : (Pattern.literal word).ends c with
  | nil =>
    rw [choices] at found
    cases found
  | cons e rest =>
    have first : e ∈ (Pattern.literal word).ends c := choices ▸ List.mem_cons_self
    rw [passes.eq_advance, (mem_literal.mp first).eq_advance]
    rfl

/-- One choice of the first pattern and one of the words of the others. -/
theorem mem_captures_cons {first : Pattern} {rest : List Pattern} {c : Cursor} {words : List (List Char)} :
    words ∈ captures (first :: rest) c ↔
      ∃ d ∈ first.ends c, ∃ later ∈ captures rest d, words = between c d :: later := by
  rw [captures, List.mem_flatMap]
  constructor
  · rintro ⟨d, found, inside⟩
    obtain ⟨later, captured, rfl⟩ := List.mem_map.mp inside
    exact ⟨d, found, later, captured, rfl⟩
  · rintro ⟨d, found, later, captured, rfl⟩
    exact ⟨d, found, List.mem_map_of_mem captured⟩

theorem head_captures_cons {first : Pattern} {rest : List Pattern} {c d : Cursor} {word : List Char}
    {later : List (List Char)}
    (chosen : (first.ends c).head? = some d) (passes : Passes c word d) (captured : (captures rest d).head? = some later) :
    (captures (first :: rest) c).head? = some (word :: later) := by
  rw [captures]
  refine head_flatMap chosen ?_
  rw [List.head?_map, captured, passes.between]
  rfl

theorem head_seq {first second : Pattern} {c d e : Cursor} (left : (first.ends c).head? = some d)
    (right : (second.ends d).head? = some e) : ((Pattern.seq first second).ends c).head? = some e :=
  head_flatMap left right

theorem head_one {accepts : Char → Bool} {c : Cursor} {x : Char} {after : List Char} (ahead : c.ahead = x :: after)
    (accepted : accepts x = true) : ((Pattern.one accepts).ends c).head? = some ⟨x :: c.behind, after⟩ := by
  have reach : run_length accepts (some 1) c = 1 := by
    unfold run_length
    dsimp only
    rw [ahead, List.takeWhile_cons_of_pos accepted, List.length_cons]
    omega
  unfold Pattern.one Pattern.ends
  rw [reach]
  unfold Cursor.advance
  rw [ahead]
  rfl

/-- A class gets as far as its characters go. -/
theorem head_run_of_stops {accepts : Char → Bool} {c : Cursor} {word after : List Char} (ahead : c.ahead = word ++ after)
    (all : ∀ x ∈ word, accepts x = true) (stops : ∀ y ∈ after.head?, accepts y = false) :
    ((Pattern.run accepts 0 none).ends c).head? = some ⟨word.reverse ++ c.behind, after⟩ := by
  have reach : c.ahead.takeWhile accepts = word := by
    rw [ahead, List.takeWhile_append_of_pos all]
    cases after with
    | nil => rw [List.takeWhile_nil, List.append_nil]
    | cons y ys =>
      have stop := stops y rfl
      rw [List.takeWhile_cons_of_neg (by rw [stop]; exact Bool.false_ne_true), List.append_nil]
  rw [head_run, reach]
  unfold Cursor.advance
  rw [ahead, List.take_left' rfl, List.drop_left' rfl]

end SocTriage.Patterns
