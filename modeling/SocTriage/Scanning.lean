import SocTriage.Patterns

/-!
Where a pattern is found in a text. A match does not pass a character that no class of the
pattern accepts, and what is found between two such characters is what is found in the text
between them by itself, if the assertions of the pattern take them for the ends of a text
(`scan_between`).
-/
namespace SocTriage.Scanning
open Patterns

/-! ### From place to place -/

/-- The matches from a place on. -/
def scan (pattern : Pattern) (c : Cursor) : List (Cursor × Cursor) := find_from pattern c.ahead.length c

theorem advance_one_length (c : Cursor) : (c.advance 1).ahead.length = c.ahead.length - 1 := by
  unfold Cursor.advance
  rw [List.length_drop]

private theorem find_from_end (pattern : Pattern) (fuel : Nat) {c : Cursor} (done : c.ahead = []) :
    find_from pattern fuel c = [] := by
  induction fuel generalizing c with
  | zero => rfl
  | succ fuel ih =>
    have stays : (c.advance 1).ahead = [] := by
      unfold Cursor.advance
      rw [done]
      rfl
    rw [find_from]
    split
    · rename_i d _
      rw [if_neg (by rw [done]; exact Nat.not_lt_zero _)]
      exact ih stays
    · exact ih stays

/-- The fuel does not matter where it is enough. -/
private theorem find_from_fuel (pattern : Pattern) (fuel fuel' : Nat) (c : Cursor) (enough : c.ahead.length ≤ fuel)
    (enough' : c.ahead.length ≤ fuel') : find_from pattern fuel c = find_from pattern fuel' c := by
  induction fuel generalizing fuel' c with
  | zero =>
    have done : c.ahead = [] := List.length_eq_zero_iff.mp (Nat.le_zero.mp enough)
    rw [find_from_end pattern fuel' done]
    rfl
  | succ fuel ih =>
    cases fuel' with
    | zero =>
      have done : c.ahead = [] := List.length_eq_zero_iff.mp (Nat.le_zero.mp enough')
      rw [find_from_end pattern _ done]
      rfl
    | succ fuel' =>
      have next : find_from pattern fuel (c.advance 1) = find_from pattern fuel' (c.advance 1) := by
        have shorter := advance_one_length c
        exact ih fuel' (c.advance 1) (by omega) (by omega)
      rw [find_from, find_from]
      split
      · rename_i d _
        by_cases further : d.ahead.length < c.ahead.length
        · rw [if_pos further, if_pos further, ih fuel' d (by omega) (by omega)]
        · rw [if_neg further, if_neg further, next]
      · exact next

theorem finditer_eq_scan (pattern : Pattern) (text : List Char) : finditer pattern text = scan pattern (.start text) :=
  find_from_fuel pattern _ _ _ (Nat.le_succ _) (Nat.le_refl _)

/-- Where a word is matched, the scan goes on behind it. -/
theorem scan_match {pattern : Pattern} {c d : Cursor} (first : (pattern.ends c).head? = some d)
    (further : d.ahead.length < c.ahead.length) : scan pattern c = (c, d) :: scan pattern d := by
  unfold scan
  rw [find_from_fuel pattern c.ahead.length (c.ahead.length + 1) c (Nat.le_refl _) (Nat.le_succ _), find_from, first]
  dsimp only
  rw [if_pos further, find_from_fuel pattern c.ahead.length d.ahead.length d (by omega) (Nat.le_refl _)]

/-- Where none is, the scan goes on at the next character. -/
theorem scan_next {pattern : Pattern} {c : Cursor}
    (stuck : ∀ d, (pattern.ends c).head? = some d → ¬ d.ahead.length < c.ahead.length) :
    scan pattern c = scan pattern (c.advance 1) := by
  have shorter := advance_one_length c
  have next : find_from pattern c.ahead.length (c.advance 1) = scan pattern (c.advance 1) :=
    find_from_fuel pattern _ _ _ (by omega) (Nat.le_refl _)
  rw [← next]
  unfold scan
  rw [find_from_fuel pattern c.ahead.length (c.ahead.length + 1) c (Nat.le_refl _) (Nat.le_succ _), find_from]
  split
  · rename_i d first
    rw [if_neg (stuck d first)]
  · rfl

theorem scan_end {pattern : Pattern} {c : Cursor} (done : c.ahead = []) : scan pattern c = [] := by
  unfold scan
  rw [done]
  rfl

/-- A match starts at or behind the place the scan starts at, and passes a word that is not empty. -/
theorem scan_found {pattern : Pattern} {c a b : Cursor} (found : (a, b) ∈ scan pattern c) :
    (∃ before, Passes c before a) ∧ b ∈ pattern.ends a ∧ b.ahead.length < a.ahead.length := by
  induction left : c.ahead.length using Nat.strongRecOn generalizing c with
  | ind left ih =>
    by_cases step : ∃ d, (pattern.ends c).head? = some d ∧ d.ahead.length < c.ahead.length
    · obtain ⟨d, first, further⟩ := step
      rw [scan_match first further] at found
      have inside : d ∈ pattern.ends c := List.mem_of_head? first
      rcases List.mem_cons.mp found with here | later
      · cases here
        exact ⟨⟨[], .refl _⟩, inside, further⟩
      · obtain ⟨⟨before, passes⟩, ends⟩ := ih d.ahead.length (by omega) later rfl
        obtain ⟨word, passed, _⟩ := mem_ends inside
        exact ⟨⟨word ++ before, passed.trans passes⟩, ends⟩
    · have stuck : ∀ d, (pattern.ends c).head? = some d → ¬ d.ahead.length < c.ahead.length :=
        fun d first further => step ⟨d, first, further⟩
      rw [scan_next stuck] at found
      have shorter := advance_one_length c
      cases ahead : c.ahead with
      | nil =>
        rw [scan_end (by unfold Cursor.advance; rw [ahead]; rfl)] at found
        cases found
      | cons x rest =>
        rw [ahead, List.length_cons] at shorter
        obtain ⟨⟨before, passes⟩, ends⟩ := ih (c.advance 1).ahead.length (by rw [ahead, List.length_cons] at left; omega)
          found rfl
        exact ⟨⟨_, (advance_passes c 1).trans passes⟩, ends⟩

/-! ### Between two characters -/

/-- A place of a text as a place of a longer one. -/
def embed (behind ahead : List Char) (c : Cursor) : Cursor := ⟨c.behind ++ behind, c.ahead ++ ahead⟩

/-- The classes of the pattern stop at one character, and its assertions take it and another one, behind the place, for the
    ends of a text. -/
def closed (left right : Char) : Pattern → Bool
  | .run accepts _ _ => !accepts right
  | .seq first second => closed left right first && closed left right second
  | .alt first second => closed left right first && closed left right second
  | .star body => closed left right body
  | .unpreceded accepts => !accepts left
  | .unfollowed body => closed left right body
  | .finish => false

section
variable {left right : Char} {behind ahead : List Char}

private theorem advance_embed {c : Cursor} {n : Nat} (short : n ≤ c.ahead.length) :
    (embed behind ahead c).advance n = embed behind ahead (c.advance n) := by
  unfold embed Cursor.advance
  rw [List.take_append_of_le_length short, List.drop_append_of_le_length short, List.append_assoc]

private theorem further_embed (c d : Cursor) :
    (embed behind ahead d).ahead.length < (embed behind ahead c).ahead.length ↔ d.ahead.length < c.ahead.length := by
  unfold embed
  rw [List.length_append, List.length_append]
  exact Nat.add_lt_add_iff_right

private theorem run_length_embed {accepts : Char → Bool} (most : Option Nat) (stops : accepts right = false) (c : Cursor) :
    run_length accepts most (embed behind (right :: ahead) c) = run_length accepts most c := by
  have reach : (c.ahead ++ right :: ahead).takeWhile accepts = c.ahead.takeWhile accepts := by
    rw [List.takeWhile_append]
    split
    · rename_i all
      rw [List.takeWhile_cons_of_neg (by rw [stops]; exact Bool.false_ne_true), List.append_nil,
        (List.takeWhile_prefix accepts).eq_of_length all]
    · rfl
  unfold run_length embed
  dsimp only
  rw [reach]

private theorem run_length_le (accepts : Char → Bool) (most : Option Nat) (c : Cursor) :
    run_length accepts most c ≤ c.ahead.length := by
  have reach : (c.ahead.takeWhile accepts).length ≤ c.ahead.length := (List.takeWhile_prefix accepts).length_le
  unfold run_length
  cases most with
  | none => exact reach
  | some most => exact Nat.le_trans (Nat.min_le_left ..) reach

/-- Enough repetitions are as good as more. -/
private theorem iterate_fuel (step : Cursor → List Cursor) (fuel fuel' : Nat) (c : Cursor) (enough : c.ahead.length ≤ fuel)
    (enough' : c.ahead.length ≤ fuel') : iterate step fuel c = iterate step fuel' c := by
  have stays : ∀ {c : Cursor} (n : Nat), c.ahead.length ≤ 0 → iterate step n c = [c] := by
    intro c n done
    cases n with
    | zero => rfl
    | succ n =>
      have none_further : (step c).filter (fun d => d.ahead.length < c.ahead.length) = [] :=
        List.filter_eq_nil_iff.mpr fun d _ => by simpa using Nat.le_trans done (Nat.zero_le _)
      rw [iterate, none_further]
      rfl
  induction fuel generalizing fuel' c with
  | zero => rw [stays 0 enough, stays fuel' enough]
  | succ fuel ih =>
    cases fuel' with
    | zero => rw [stays 0 enough', stays (fuel + 1) enough']
    | succ fuel' =>
      rw [iterate, iterate]
      refine congrArg (· ++ [c]) (List.flatMap_congr fun d inside => ?_)
      have shorter : d.ahead.length < c.ahead.length := of_decide_eq_true (List.mem_filter.mp inside).2
      exact ih fuel' d (by omega) (by omega)

private theorem iterate_embed {step : Cursor → List Cursor}
    (steps : ∀ c, step (embed behind ahead c) = (step c).map (embed behind ahead)) (fuel : Nat) (c : Cursor) :
    iterate step fuel (embed behind ahead c) = (iterate step fuel c).map (embed behind ahead) := by
  induction fuel generalizing c with
  | zero => rfl
  | succ fuel ih =>
    have kept : (fun d : Cursor => decide (d.ahead.length < (embed behind ahead c).ahead.length)) ∘ embed behind ahead =
        fun d => decide (d.ahead.length < c.ahead.length) :=
      funext fun d => decide_eq_decide.mpr (further_embed c d)
    rw [iterate, iterate, steps, List.filter_map, kept, List.flatMap_map, List.map_append, List.map_flatMap]
    exact congrArg (· ++ _) (List.flatMap_congr fun d _ => ih d)

/-- A pattern that is closed by the characters around a text ends in it where it ends in the text by itself. -/
theorem ends_embed {pattern : Pattern} (closes : closed left right pattern = true) (c : Cursor) :
    pattern.ends (embed (left :: behind) (right :: ahead) c) =
      (pattern.ends c).map (embed (left :: behind) (right :: ahead)) := by
  induction pattern generalizing c with
  | run accepts least most =>
    have stops : accepts right = false := by simpa [closed] using closes
    unfold Pattern.ends
    rw [run_length_embed most stops, List.map_map]
    refine List.map_congr_left fun n chosen => advance_embed ?_
    have reached : n < run_length accepts most c + 1 := List.mem_range.mp (List.mem_reverse.mp (List.mem_filter.mp chosen).1)
    exact Nat.le_trans (Nat.lt_succ_iff.mp reached) (run_length_le accepts most c)
  | seq first second first_ih second_ih =>
    obtain ⟨first_closes, second_closes⟩ := Bool.and_eq_true_iff.mp closes
    unfold Pattern.ends
    rw [first_ih first_closes, List.flatMap_map, List.map_flatMap]
    exact List.flatMap_congr fun d _ => second_ih second_closes d
  | alt first second first_ih second_ih =>
    obtain ⟨first_closes, second_closes⟩ := Bool.and_eq_true_iff.mp closes
    unfold Pattern.ends
    rw [first_ih first_closes, second_ih second_closes, List.map_append]
  | star body ih =>
    unfold Pattern.ends
    rw [iterate_embed (ih closes)]
    refine congrArg (List.map _) (iterate_fuel body.ends _ _ c ?_ (Nat.le_refl _))
    unfold embed
    rw [List.length_append]
    exact Nat.le_add_right ..
  | unpreceded accepts =>
    have passed : accepts left = false := by simpa [closed] using closes
    obtain ⟨_ | ⟨last, rest⟩, here⟩ := c
    · unfold Pattern.ends embed
      dsimp only [List.nil_append]
      rw [if_neg (by rw [passed]; exact Bool.false_ne_true)]
      rfl
    · unfold Pattern.ends embed
      dsimp only [List.cons_append]
      split <;> rfl
  | unfollowed body ih =>
    unfold Pattern.ends
    rw [ih closes, List.isEmpty_map]
    split <;> rfl
  | finish => cases closes

/-- What is found from a text between two characters on is what is found in the text by itself, and then what is found
    behind it. -/
private theorem scan_embed {pattern : Pattern} (closes : closed left right pattern = true) (c : Cursor) :
    scan pattern (embed (left :: behind) (right :: ahead) c) =
      (scan pattern c).map (Prod.map (embed (left :: behind) (right :: ahead)) (embed (left :: behind) (right :: ahead))) ++
        scan pattern ⟨c.ahead.reverse ++ c.behind ++ left :: behind, right :: ahead⟩ := by
  induction size : c.ahead.length using Nat.strongRecOn generalizing c with
  | ind n ih =>
    have ends := @ends_embed left right behind ahead pattern closes c
    have further_iff := @further_embed (left :: behind) (right :: ahead) c
    have passed : ∀ {word : List Char} {d : Cursor}, Passes c word d →
        d.ahead.reverse ++ d.behind = c.ahead.reverse ++ c.behind := by
      rintro word d ⟨ahead, behind⟩
      rw [ahead, behind, List.reverse_append, List.append_assoc]
    by_cases step : ∃ d, (pattern.ends c).head? = some d ∧ d.ahead.length < c.ahead.length
    · obtain ⟨d, first, further⟩ := step
      obtain ⟨word, passes, _⟩ := mem_ends (List.mem_of_head? first)
      have first' : (pattern.ends (embed (left :: behind) (right :: ahead) c)).head? =
          some (embed (left :: behind) (right :: ahead) d) := by
        rw [ends, List.head?_map, first]
        rfl
      rw [scan_match first further, scan_match first' ((further_iff d).mpr further), ih d.ahead.length (by omega) d rfl,
        passed passes]
      rfl
    · have stuck : ∀ d, (pattern.ends c).head? = some d → ¬ d.ahead.length < c.ahead.length :=
        fun d first further => step ⟨d, first, further⟩
      have stuck' : ∀ d, (pattern.ends (embed (left :: behind) (right :: ahead) c)).head? = some d →
          ¬ d.ahead.length < (embed (left :: behind) (right :: ahead) c).ahead.length := by
        intro d first
        rw [ends, List.head?_map, Option.map_eq_some_iff] at first
        obtain ⟨d', first, rfl⟩ := first
        rw [further_iff]
        exact stuck d' first
      cases here : c.ahead with
      | nil =>
        rw [scan_end here]
        unfold embed
        rw [here]
        rfl
      | cons x rest =>
        have shorter := advance_one_length c
        rw [here, List.length_cons] at shorter
        have one : 1 ≤ c.ahead.length := by
          rw [here]
          exact Nat.le_add_left ..
        rw [scan_next stuck, scan_next stuck', advance_embed one, ih (c.advance 1).ahead.length
          (by rw [here, List.length_cons] at size; omega) (c.advance 1) rfl, passed (advance_passes c 1), here]

/-- The matches in front of a character that the pattern does not pass are in front of it, and the scan goes on behind it. -/
private theorem scan_upto {pattern : Pattern} (unmentioned : pattern.mentions left = false) {c : Cursor}
    {word : List Char} (here : c.ahead = word ++ left :: ahead) :
    ∃ earlier, scan pattern c = earlier ++ scan pattern ⟨left :: (word.reverse ++ c.behind), ahead⟩ ∧
      ∀ m ∈ earlier, ahead.length < m.2.ahead.length := by
  induction size : c.ahead.length using Nat.strongRecOn generalizing c word with
  | ind n ih =>
    by_cases step : ∃ d, (pattern.ends c).head? = some d ∧ d.ahead.length < c.ahead.length
    · obtain ⟨d, first, further⟩ := step
      obtain ⟨matched, passes, all⟩ := mem_ends (List.mem_of_head? first)
      -- the match stops in front of the character
      have stops : ∃ rest, word = matched ++ rest ∧ d.ahead = rest ++ left :: ahead := by
        rcases List.append_eq_append_iff.mp (passes.1.symm.trans here) with ⟨rest, whole, same⟩ | ⟨rest, whole, same⟩
        · exact ⟨rest, whole, same⟩
        · cases rest with
          | nil => exact ⟨[], by rw [whole, List.append_nil, List.append_nil], same.symm⟩
          | cons x rest =>
            obtain ⟨rfl, _⟩ := List.cons.inj same
            have mentioned := all left (whole ▸ List.mem_append_right word List.mem_cons_self)
            rw [unmentioned] at mentioned
            cases mentioned
      obtain ⟨rest, rfl, ahead_is⟩ := stops
      obtain ⟨earlier, later, front⟩ := ih d.ahead.length (by omega) ahead_is rfl
      refine ⟨(c, d) :: earlier, ?_, List.forall_mem_cons.mpr ⟨?_, front⟩⟩
      · rw [scan_match first further, later, passes.2, List.reverse_append, List.append_assoc]
        rfl
      · rw [ahead_is, List.length_append, List.length_cons]
        omega
    · have stuck : ∀ d, (pattern.ends c).head? = some d → ¬ d.ahead.length < c.ahead.length :=
        fun d first further => step ⟨d, first, further⟩
      have next : c.advance 1 = ⟨(c.ahead.take 1).reverse ++ c.behind, c.ahead.drop 1⟩ := rfl
      rw [scan_next stuck, next, here]
      cases word with
      | nil => exact ⟨[], rfl, fun _ none => absurd none List.not_mem_nil⟩
      | cons x rest =>
        have shorter : (rest ++ left :: ahead).length < n := by
          rw [← size, here]
          exact Nat.lt_succ_self _
        obtain ⟨earlier, later, front⟩ := ih _ shorter (c := ⟨x :: c.behind, rest ++ left :: ahead⟩) rfl rfl
        refine ⟨earlier, ?_, front⟩
        rw [List.reverse_cons, List.append_assoc]
        exact later

/-- What is found in a text with a character behind and one ahead. -/
private theorem finditer_between {pattern : Pattern} (closes : closed left right pattern = true)
    (unmentioned : pattern.mentions left = false) (before word after : List Char) :
    ∃ earlier, finditer pattern (before ++ left :: (word ++ right :: after)) = earlier ++
        ((finditer pattern word).map (Prod.map (embed (left :: before.reverse) (right :: after))
          (embed (left :: before.reverse) (right :: after))) ++
        scan pattern ⟨word.reverse ++ left :: before.reverse, right :: after⟩) ∧
      ∀ m ∈ earlier, (word ++ right :: after).length < m.2.ahead.length := by
  obtain ⟨earlier, later, front⟩ := @scan_upto left (word ++ right :: after) pattern unmentioned
    (.start (before ++ left :: (word ++ right :: after))) before rfl
  refine ⟨earlier, ?_, front⟩
  have inside := @scan_embed left right before.reverse after pattern closes (.start word)
  rw [finditer_eq_scan, finditer_eq_scan, later]
  refine congrArg (earlier ++ ·) (Eq.trans ?_ (inside.trans ?_))
  · unfold embed Cursor.start
    rw [List.append_nil, List.nil_append]
  · unfold Cursor.start
    rw [List.append_nil]

/-- What is found in a text by itself is found in it between two characters. -/
theorem found_between {pattern : Pattern} (closes : closed left right pattern = true)
    (unmentioned : pattern.mentions left = false) {before word after : List Char} {a b : Cursor}
    (found : (a, b) ∈ finditer pattern word) :
    (embed (left :: before.reverse) (right :: after) a, embed (left :: before.reverse) (right :: after) b) ∈
      finditer pattern (before ++ left :: (word ++ right :: after)) := by
  obtain ⟨earlier, whole, _⟩ := @finditer_between left right pattern closes unmentioned before word after
  rw [whole]
  exact List.mem_append_right _ (List.mem_append_left _ (List.mem_map_of_mem found))

/-- A match in a longer text that covers a place between the two characters is one in the text between them. -/
theorem between_of_found {pattern : Pattern} (closes : closed left right pattern = true)
    (unmentioned : pattern.mentions left = false) {before word after : List Char} {a b : Cursor} {place : Nat}
    (found : (a, b) ∈ finditer pattern (before ++ left :: (word ++ right :: after)))
    (starts : a.behind.length ≤ place) (ends : place < b.behind.length) (low : before.length + 1 ≤ place)
    (high : place < before.length + 1 + word.length) :
    ∃ a' b', (a', b') ∈ finditer pattern word ∧ a = embed (left :: before.reverse) (right :: after) a' ∧
      b = embed (left :: before.reverse) (right :: after) b' := by
  obtain ⟨earlier, whole, front⟩ := @finditer_between left right pattern closes unmentioned before word after
  rw [finditer_eq_scan] at found
  obtain ⟨⟨start, passes⟩, inside, _⟩ := scan_found found
  obtain ⟨matched, passed, _⟩ := mem_ends inside
  have total := congrArg List.length (passes.trans passed).1
  have behind := congrArg List.length (passes.trans passed).2
  simp only [Cursor.start, List.length_append, List.length_cons, List.length_reverse, List.length_nil] at total behind
  rw [← finditer_eq_scan, whole] at found
  rcases List.mem_append.mp found with early | found
  · have short := front _ early
    simp only [List.length_append, List.length_cons] at short
    omega
  rcases List.mem_append.mp found with here | late
  · obtain ⟨⟨a', b'⟩, alone, same⟩ := List.mem_map.mp here
    cases same
    exact ⟨a', b', alone, rfl, rfl⟩
  · obtain ⟨⟨start', passes'⟩, _⟩ := scan_found late
    have far := congrArg List.length passes'.2
    simp only [List.length_append, List.length_cons, List.length_reverse] at far
    omega

end

/-! ### Matches in a text -/

/-- A match of a text passes the word between its ends. -/
theorem found_passes {pattern : Pattern} {text : List Char} {m : Cursor × Cursor}
    (found : m ∈ finditer pattern text) :
    ∃ before, Passes (.start text) before m.1 ∧ Passes m.1 (between m.1 m.2) m.2 ∧ m.2 ∈ pattern.ends m.1 ∧
      m.2.ahead.length < m.1.ahead.length := by
  rw [finditer_eq_scan] at found
  obtain ⟨⟨before, start⟩, inside, further⟩ := scan_found found
  obtain ⟨word, passes, _⟩ := mem_ends inside
  rw [passes.between]
  exact ⟨before, start, passes, inside, further⟩

theorem start_behind {text before : List Char} {c : Cursor} (start : Passes (.start text) before c) :
    c.behind.length = before.length ∧ text = before ++ c.ahead := by
  obtain ⟨ahead, behind⟩ := start
  refine ⟨?_, ahead⟩
  rw [behind, List.length_append, List.length_reverse]
  rfl

end SocTriage.Scanning
