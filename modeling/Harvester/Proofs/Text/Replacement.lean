import Mathlib.Tactic.Push
import Harvester.Proofs.Text.Patterns
namespace Harvester.Text

-- All names of a table are replaced in one go from the left: where one begins its replacement is written down, and the
-- reading goes on behind the name, so that no replacement is read. `skip` counts the characters of a replaced name that
-- are still to be passed over.
def replaceEachFrom (table : List (List Char × List Char)) : Nat → List Char → List Char
  | _, [] => []
  | skip + 1, _ :: cs => replaceEachFrom table skip cs
  | 0, c :: cs =>
    match table.find? fun entry => entry.1.isPrefixOf (c :: cs) with
    | some entry => entry.2 ++ replaceEachFrom table (entry.1.length - 1) cs
    | none => c :: replaceEachFrom table 0 cs

def replaceEach (table : List (List Char × List Char)) (cs : List Char) : List Char := replaceEachFrom table 0 cs

-- The names of a table keep apart: each has the mark as its first character and nowhere else, and none begins with
-- another one. What replaces them leaves a trace that no name runs over.
structure Separable (mark : Char) (table : List (List Char × List Char)) : Prop where
  begins : ∀ entry ∈ table, entry.1.head? = some mark
  once : ∀ entry ∈ table, mark ∉ entry.1.tail
  unmixed : ∀ entry ∈ table, ∀ other ∈ table, entry.1 <+: other.1 → entry = other
  filled : ∀ entry ∈ table, entry.2 ≠ []
  foreign : ∀ entry ∈ table, ∀ other ∈ table, ∀ c ∈ entry.2, c ∉ other.1

-- A text as it is read from the left.
inductive Scanned (table : List (List Char × List Char)) : List Char → Prop
  | nil : Scanned table []
  | name (present : entry ∈ table) (behind : Scanned table rest) : Scanned table (entry.1 ++ rest)
  | plain (free : ∀ entry ∈ table, ¬ entry.1 <+: c :: cs) (behind : Scanned table cs) : Scanned table (c :: cs)

-- No name of the table begins in the one text and ends in the other.
def Unsplit (table : List (List Char × List Char)) (cs ds : List Char) : Prop :=
  ∀ entry ∈ table, ∀ n < entry.1.length, 0 < n → entry.1.take n <:+ cs → ¬ entry.1.drop n <+: ds

instance (table : List (List Char × List Char)) (cs ds : List Char) : Decidable (Unsplit table cs ds) :=
  inferInstanceAs (Decidable (∀ entry ∈ table, ∀ n < entry.1.length, 0 < n → entry.1.take n <:+ cs →
    ¬ entry.1.drop n <+: ds))

variable {mark c : Char} {name cs ds rest : List Char} {entry : List Char × List Char}
  {table names : List (List Char × List Char)}

namespace Separable

theorem within (separable : Separable mark table) (part : names ⊆ table) : Separable mark names where
  begins entry present := separable.begins entry (part present)
  once entry present := separable.once entry (part present)
  unmixed entry present other presentToo := separable.unmixed entry (part present) other (part presentToo)
  filled entry present := separable.filled entry (part present)
  foreign entry present other presentToo := separable.foreign entry (part present) other (part presentToo)

theorem exists_inside (separable : Separable mark table) (present : entry ∈ table) :
    ∃ inside, entry.1 = mark :: inside ∧ mark ∉ inside := by
  obtain ⟨inside, same⟩ := List.head?_eq_some_iff.mp (separable.begins entry present)
  have once := separable.once entry present
  rw [same] at once
  exact ⟨inside, same, once⟩

theorem mark_mem (separable : Separable mark table) (present : entry ∈ table) : mark ∈ entry.1 := by
  obtain ⟨inside, same, _⟩ := separable.exists_inside present
  simp [same]

theorem mark_not_mem (separable : Separable mark table) (present : entry ∈ table) : mark ∉ entry.2 := by
  intro inside
  exact separable.foreign entry present entry present mark inside (separable.mark_mem present)

theorem mark_not_mem_drop (separable : Separable mark table) (present : entry ∈ table) {n : Nat} (positive : 0 < n) :
    mark ∉ entry.1.drop n := by
  obtain ⟨inside, same, unmarked⟩ := separable.exists_inside present
  obtain ⟨m, rfl⟩ := Nat.exists_eq_succ_of_ne_zero (Nat.ne_of_gt positive)
  intro later
  rw [same, List.drop_succ_cons] at later
  exact unmarked (List.mem_of_mem_drop later)

theorem first_eq (separable : Separable mark table) (present : entry ∈ table) (begins : entry.1 <+: c :: cs) :
    c = mark := by
  obtain ⟨inside, same, _⟩ := separable.exists_inside present
  rw [same] at begins
  exact (List.cons_prefix_cons.mp begins).1.symm

-- Of two names one text cannot begin with both.
theorem unique (separable : Separable mark table) (present : entry ∈ table) {other : List Char × List Char}
    (presentToo : other ∈ table) (begins : entry.1 <+: cs) (beginsToo : other.1 <+: cs) : entry = other := by
  rcases List.prefix_or_prefix_of_prefix begins beginsToo with shorter | longer
  · exact separable.unmixed entry present other presentToo shorter
  · exact (separable.unmixed other presentToo entry present longer).symm

theorem scanned (separable : Separable mark table) : ∀ cs, Scanned table cs
  | [] => .nil
  | c :: cs => by
    by_cases begins : ∃ entry ∈ table, entry.1 <+: c :: cs
    · obtain ⟨entry, present, rest, whole⟩ := begins
      obtain ⟨inside, same, _⟩ := separable.exists_inside present
      have shorter : rest.length < (c :: cs).length := by
        rw [← whole, same, List.length_append, List.length_cons]
        omega
      rw [← whole]
      exact .name present (separable.scanned rest)
    · push Not at begins
      exact .plain begins (separable.scanned cs)
termination_by cs => cs.length
decreasing_by
  · exact shorter
  · exact Nat.lt_succ_self cs.length

end Separable

theorem replaceEachFrom_length (table : List (List Char × List Char)) (passed rest : List Char) :
    replaceEachFrom table passed.length (passed ++ rest) = replaceEach table rest := by
  induction passed with
  | nil => rfl
  | cons c passed ih => simpa [replaceEachFrom] using ih

theorem replaceEach_plain (free : ∀ entry ∈ table, ¬ entry.1 <+: c :: cs) :
    replaceEach table (c :: cs) = c :: replaceEach table cs := by
  have none : table.find? (fun entry => entry.1.isPrefixOf (c :: cs)) = none := by simpa using free
  simp [replaceEach, replaceEachFrom, none]

theorem replaceEach_name (separable : Separable mark table) (present : entry ∈ table) (rest : List Char) :
    replaceEach table (entry.1 ++ rest) = entry.2 ++ replaceEach table rest := by
  obtain ⟨inside, same, _⟩ := separable.exists_inside present
  have here : table.find? (fun other => other.1.isPrefixOf (mark :: (inside ++ rest))) = some entry := by
    have begins : entry.1 <+: mark :: (inside ++ rest) := by simp [same]
    cases found : table.find? fun other => other.1.isPrefixOf (mark :: (inside ++ rest)) with
    | none =>
      have free : ∀ other ∈ table, ¬ other.1 <+: mark :: (inside ++ rest) := by simpa using found
      exact absurd begins (free entry present)
    | some other =>
      have beginsToo : other.1 <+: mark :: (inside ++ rest) := by simpa using List.find?_some found
      rw [separable.unique present (List.mem_of_find?_eq_some found) begins beginsToo]
  have behind := replaceEachFrom_length table inside rest
  simpa [replaceEach, replaceEachFrom, same, here] using behind

theorem replaceEach_unmarked (separable : Separable mark table) (unmarked : mark ∉ ds) (cs : List Char) :
    replaceEach table (ds ++ cs) = ds ++ replaceEach table cs := by
  induction ds with
  | nil => rfl
  | cons d ds ih =>
    rw [List.mem_cons, not_or] at unmarked
    have free : ∀ entry ∈ table, ¬ entry.1 <+: d :: (ds ++ cs) := by
      intro entry present begins
      exact unmarked.1 (separable.first_eq present begins).symm
    simp [replaceEach_plain free, ih unmarked.2]

-- What a text begins with after the replacement, untouched by it, it began with before.
theorem prefix_of_replaced (separable : Separable mark table)
    (foreign : ∀ entry ∈ table, ∀ c ∈ entry.2, c ∉ name) (begins : name <+: replaceEach table cs) : name <+: cs := by
  induction separable.scanned cs generalizing name with
  | nil => exact begins
  | @name entry rest present behind ih =>
    cases name with
    | nil => exact List.nil_prefix
    | cons n name =>
      obtain ⟨t, text, spelled⟩ := List.exists_cons_of_ne_nil (separable.filled entry present)
      rw [replaceEach_name separable present, spelled] at begins
      have same := (List.cons_prefix_cons.mp begins).1
      exact absurd List.mem_cons_self (same ▸ foreign entry present t (by simp [spelled]))
  | @plain c cs free behind ih =>
    cases name with
    | nil => exact List.nil_prefix
    | cons n name =>
      rw [replaceEach_plain free] at begins
      obtain ⟨rfl, later⟩ := List.cons_prefix_cons.mp begins
      refine List.cons_prefix_cons.mpr ⟨rfl, ih ?_ later⟩
      intro entry present c inText inName
      exact foreign entry present c inText (List.mem_cons_of_mem n inName)

-- A text without the mark holds no part of a name that begins with it.
theorem absent_append (begins : name.head? = some mark) (unmarked : mark ∉ ds) (absent : ¬ name <:+: cs) :
    ¬ name <:+: ds ++ cs := by
  induction ds with
  | nil => exact absent
  | cons d ds ih =>
    rw [List.mem_cons, not_or] at unmarked
    intro inside
    rcases List.infix_cons_iff.mp inside with here | behind
    · obtain ⟨others, same⟩ := List.head?_eq_some_iff.mp begins
      rw [same] at here
      exact unmarked.1 (List.cons_prefix_cons.mp here).1
    · exact ih unmarked.2 behind

theorem replaceEach_of_absent (absent : ∀ entry ∈ table, ¬ entry.1 <:+: cs) : replaceEach table cs = cs := by
  induction cs with
  | nil => rfl
  | cons c cs ih =>
    rw [replaceEach_plain fun entry present begins => absent entry present begins.isInfix]
    have behind : ∀ entry ∈ table, ¬ entry.1 <:+: cs := by
      intro entry present inside
      exact absent entry present (inside.trans (List.suffix_cons c cs).isInfix)
    rw [ih behind]

theorem replaceEach_absent (separable : Separable mark table) (present : entry ∈ table) (cs : List Char) :
    ¬ entry.1 <:+: replaceEach table cs := by
  induction separable.scanned cs with
  | nil =>
    intro inside
    have begins := separable.begins entry present
    simp [List.infix_nil.mp inside] at begins
  | name presentToo behind ih =>
    rw [replaceEach_name separable presentToo]
    exact absent_append (separable.begins entry present) (separable.mark_not_mem presentToo) ih
  | plain free behind ih =>
    rw [replaceEach_plain free]
    intro inside
    rcases List.infix_cons_iff.mp inside with here | later
    · rw [← replaceEach_plain free] at here
      have foreign := fun other presentToo => separable.foreign other presentToo entry present
      exact free entry present (prefix_of_replaced separable foreign here)
    · exact ih later

-- The order of a table does not count.
theorem replaceEach_congr (separable : Separable mark table) (same : ∀ entry, entry ∈ names ↔ entry ∈ table)
    (cs : List Char) : replaceEach names cs = replaceEach table cs := by
  have separableToo : Separable mark names := separable.within fun entry => (same entry).mp
  induction separable.scanned cs with
  | nil => rfl
  | @name entry rest present behind ih =>
    rw [replaceEach_name separable present, replaceEach_name separableToo ((same entry).mpr present), ih]
  | plain free behind ih =>
    rw [replaceEach_plain free, replaceEach_plain fun entry present => free entry ((same entry).mp present), ih]

theorem Unsplit.behind (whole : Unsplit table cs ds) (later : rest <:+ cs) : Unsplit table rest ds := by
  intro entry present n within positive ends
  exact whole entry present n within positive (ends.trans later)

theorem Unsplit.prefix_left (whole : Unsplit table cs ds) (filled : cs ≠ []) (present : entry ∈ table)
    (begins : entry.1 <+: cs ++ ds) : entry.1 <+: cs := by
  rcases List.prefix_or_prefix_of_prefix begins (List.prefix_append cs ds) with shorter | ⟨back, split⟩
  · exact shorter
  · rw [← split] at begins ⊢
    have ends : back <+: ds := (List.prefix_append_right_inj cs).mp begins
    cases back with
    | nil => simp
    | cons b back =>
      refine absurd ends ?_
      have apart := whole entry present cs.length (by simp [← split]) (List.length_pos_iff.mpr filled)
      rw [← split, List.take_left, List.drop_left] at apart
      exact apart List.suffix_rfl

theorem replaceEach_append (separable : Separable mark table) (whole : Unsplit table cs ds) :
    replaceEach table (cs ++ ds) = replaceEach table cs ++ replaceEach table ds := by
  induction separable.scanned cs with
  | nil => rfl
  | @name entry rest present behind ih =>
    rw [List.append_assoc, replaceEach_name separable present, replaceEach_name separable present,
      ih (whole.behind (List.suffix_append entry.1 rest)), List.append_assoc]
  | @plain c cs free behind ih =>
    have freeToo : ∀ entry ∈ table, ¬ entry.1 <+: c :: (cs ++ ds) := by
      intro entry present begins
      exact free entry present (whole.prefix_left (List.cons_ne_nil c cs) present begins)
    rw [List.cons_append, replaceEach_plain freeToo, replaceEach_plain free, ih (whole.behind (List.suffix_cons c cs)),
      List.cons_append]

-- A name that is cut off stays as it is, whatever stands before it.
theorem replaceEach_cut (separable : Separable mark table) (present : entry ∈ table) {n : Nat} (positive : 0 < n)
    (within : n < entry.1.length) (cs : List Char) :
    replaceEach table (cs ++ entry.1.take n) = replaceEach table cs ++ entry.1.take n := by
  obtain ⟨inside, same, unmarked⟩ := separable.exists_inside present
  obtain ⟨m, rfl⟩ := Nat.exists_eq_succ_of_ne_zero (Nat.ne_of_gt positive)
  have taken : entry.1.take (m + 1) = mark :: inside.take m := by rw [same, List.take_succ_cons]
  have whole : Unsplit table cs (entry.1.take (m + 1)) := by
    intro other presentToo k withinToo positiveToo ends begins
    have later := separable.mark_not_mem_drop presentToo positiveToo
    rw [List.drop_eq_getElem_cons withinToo] at begins later
    rw [taken] at begins
    have first := (List.cons_prefix_cons.mp begins).1
    exact later (by simp [first])
  have absent : ∀ other ∈ table, ¬ other.1 <:+: entry.1.take (m + 1) := by
    intro other presentToo found
    rw [taken] at found
    rcases List.infix_cons_iff.mp found with here | behind
    · rw [← taken] at here
      have whole : other = entry := separable.unmixed other presentToo entry present (here.trans (List.take_prefix _ _))
      rw [whole] at here
      have short := here.length_le
      rw [List.length_take] at short
      omega
    · exact unmarked (List.mem_of_mem_take (behind.subset (separable.mark_mem presentToo)))
  rw [replaceEach_append separable whole, replaceEach_of_absent absent]

-- Two texts are replaced apart exactly where they split no name: put together again, the halves of a split name would
-- be a name that is left.
theorem replaceEach_append_iff (separable : Separable mark table) :
    replaceEach table (cs ++ ds) = replaceEach table cs ++ replaceEach table ds ↔ Unsplit table cs ds := by
  constructor
  · intro same entry present n within positive ends begins
    obtain ⟨front, rfl⟩ := ends
    obtain ⟨back, rfl⟩ := begins
    rw [replaceEach_cut separable present positive within,
      replaceEach_unmarked separable (separable.mark_not_mem_drop present positive)] at same
    have joined := calc replaceEach table front ++ entry.1 ++ replaceEach table back
      _ = replaceEach table front ++ (entry.1.take n ++ entry.1.drop n) ++ replaceEach table back := by
        rw [List.take_append_drop]
      _ = replaceEach table (front ++ entry.1.take n ++ (entry.1.drop n ++ back)) := by
        rw [same]
        simp only [List.append_assoc]
    exact replaceEach_absent separable present _ ⟨_, _, joined⟩
  · exact replaceEach_append separable

-- Nothing is split at a character that no name has, and such a character stays.
theorem replaceEach_split (separable : Separable mark table) (apart : ∀ entry ∈ table, c ∉ entry.1)
    (cs ds : List Char) : replaceEach table (cs ++ c :: ds) = replaceEach table cs ++ c :: replaceEach table ds := by
  have whole : Unsplit table cs (c :: ds) := by
    intro entry present n within positive ends begins
    obtain ⟨later, spelled⟩ := begins
    rw [List.drop_eq_getElem_cons within, List.cons_append] at spelled
    have same := (List.cons.inj spelled).1
    exact apart entry present (same ▸ List.getElem_mem within)
  have free : ∀ entry ∈ table, ¬ entry.1 <+: c :: ds := by
    intro entry present begins
    rw [separable.first_eq present begins] at apart
    exact apart entry present (separable.mark_mem present)
  rw [replaceEach_append separable whole, replaceEach_plain free]

-- The first name of a table may be replaced ahead of the others.
theorem replaceEach_cons (separable : Separable mark (entry :: table)) (cs : List Char) :
    replaceEach (entry :: table) cs = replaceEach table (replaceEach [entry] cs) := by
  have first : Separable mark [entry] := separable.within (by simp)
  have later : Separable mark table := separable.within (List.subset_cons_self entry table)
  induction separable.scanned cs with
  | nil => rfl
  | @name other rest present behind ih =>
    rw [replaceEach_name separable present, ih]
    by_cases same : other = entry
    · rw [same, replaceEach_name first List.mem_cons_self, replaceEach_unmarked later]
      exact separable.mark_not_mem List.mem_cons_self
    · have presentToo : other ∈ table := (List.mem_cons.mp present).resolve_left same
      obtain ⟨inside, spelled, unmarked⟩ := separable.exists_inside present
      have free : ∀ single ∈ [entry], ¬ single.1 <+: mark :: (inside ++ rest) := by
        intro single alone begins
        rw [List.mem_singleton.mp alone] at begins
        refine same (separable.unique present List.mem_cons_self ?_ begins)
        simp [spelled]
      have passed : replaceEach [entry] (other.1 ++ rest) = other.1 ++ replaceEach [entry] rest := by
        rw [spelled, List.cons_append, replaceEach_plain free, replaceEach_unmarked first unmarked, List.cons_append]
      rw [passed, replaceEach_name later presentToo]
  | @plain c cs free behind ih =>
    have freeFirst : ∀ single ∈ [entry], ¬ single.1 <+: c :: cs := by
      intro single alone
      exact free single (by simp [List.mem_singleton.mp alone])
    have freeLater : ∀ other ∈ table, ¬ other.1 <+: c :: replaceEach [entry] cs := by
      intro other present begins
      rw [← replaceEach_plain freeFirst] at begins
      refine free other (List.mem_cons_of_mem entry present) (prefix_of_replaced first ?_ begins)
      intro single alone
      rw [List.mem_singleton.mp alone]
      exact separable.foreign entry List.mem_cons_self other (List.mem_cons_of_mem entry present)
    rw [replaceEach_plain free, replaceEach_plain freeFirst, replaceEach_plain freeLater, ih]

theorem replaceAll_eq {pattern : List Char} (filled : pattern ≠ []) (by_ cs : List Char) :
    replaceAll pattern by_ cs = replaceEach [(pattern, by_)] cs := by
  have each : ∀ skip, replaceFrom pattern by_ skip cs = replaceEachFrom [(pattern, by_)] skip cs := by
    induction cs with
    | nil => intro skip; cases skip <;> rfl
    | cons c cs ih =>
      intro skip
      cases skip with
      | succ skip => simp [replaceFrom, replaceEachFrom, ih]
      | zero =>
        by_cases begins : pattern <+: c :: cs
        · obtain ⟨rest, whole⟩ := id begins
          simp [replaceFrom, replaceEachFrom, ih, begins, dropPattern?_eq_some_iff.mpr whole.symm]
        · simp [replaceFrom, replaceEachFrom, ih, begins, dropPattern?_eq_none_iff.mpr begins]
  simp [replaceAll, replaceEach, each, filled]

-- One name after the other, in the order of the table.
theorem foldl_replaceAll (separable : Separable mark table) (cs : List Char) :
    table.foldl (fun cs entry => replaceAll entry.1 entry.2 cs) cs = replaceEach table cs := by
  induction table generalizing cs with
  | nil => exact (replaceEach_of_absent (by simp)).symm
  | cons entry table ih =>
    obtain ⟨inside, same, _⟩ := separable.exists_inside List.mem_cons_self
    have filled : entry.1 ≠ [] := by simp [same]
    rw [List.foldl_cons, replaceAll_eq filled, ih (separable.within (List.subset_cons_self entry table)),
      replaceEach_cons separable]

end Harvester.Text
