namespace Harvester

-- A table from names to values. Its entries stand in strictly ascending order of their keys (by code point, which is
-- also the order of the UTF-8 bytes), so two tables with the same look-ups are the same table.
structure Keyed (α : Type) where
  entries : List (String × α)
  ascending : entries.Pairwise fun x y => x.1 < y.1
deriving Repr

namespace Keyed

theorem ext_entries {x y : Keyed α} (same : x.entries = y.entries) : x = y := by
  cases x; cases y; cases same; rfl

instance [DecidableEq α] : DecidableEq (Keyed α) := fun x y =>
  if same : x.entries = y.entries then isTrue (ext_entries same)
  else isFalse fun equal => same (congrArg Keyed.entries equal)

def empty : Keyed α := ⟨[], .nil⟩

instance : Inhabited (Keyed α) := ⟨empty⟩

def put (key : String) (value : α) : List (String × α) → List (String × α)
  | [] => [(key, value)]
  | (k, v) :: rest =>
    if key < k then (key, value) :: (k, v) :: rest
    else if key = k then (key, value) :: rest
    else (k, v) :: put key value rest

theorem mem_put {x : String × α} {entries : List (String × α)} (h : x ∈ put key value entries) :
    x = (key, value) ∨ x ∈ entries := by
  induction entries with
  | nil => simpa [put] using h
  | cons entry rest ih =>
    simp only [put] at h
    split at h
    · simpa using h
    · split at h
      · rcases List.mem_cons.mp h with h | h
        · exact .inl h
        · exact .inr (List.mem_cons_of_mem _ h)
      · rcases List.mem_cons.mp h with h | h
        · exact .inr (h ▸ List.mem_cons_self)
        · exact (ih h).imp_right (List.mem_cons_of_mem _)

theorem put_ascending {entries : List (String × α)} (ordered : entries.Pairwise fun x y => x.1 < y.1) :
    (put key value entries).Pairwise fun x y => x.1 < y.1 := by
  induction entries with
  | nil => simp [put]
  | cons entry rest ih =>
    obtain ⟨k, v⟩ := entry
    have split_ := List.pairwise_cons.mp ordered
    simp only [put]
    split
    · rename_i before
      refine List.pairwise_cons.mpr ⟨fun x hx => ?_, ordered⟩
      rcases List.mem_cons.mp hx with rfl | hx
      · exact before
      · exact String.lt_trans before (split_.1 x hx)
    · split
      · rename_i same
        exact List.pairwise_cons.mpr ⟨fun x hx => same ▸ split_.1 x hx, split_.2⟩
      · rename_i notBefore notSame
        refine List.pairwise_cons.mpr ⟨fun x hx => ?_, ih split_.2⟩
        rcases mem_put hx with rfl | hx
        · show k < key
          refine Classical.byContradiction fun notAfter => notSame ?_
          exact String.le_antisymm (String.not_lt.mp notAfter) (String.not_lt.mp notBefore)
        · exact split_.1 x hx

def insert (table : Keyed α) (key : String) (value : α) : Keyed α :=
  ⟨put key value table.entries, put_ascending table.ascending⟩

def find? (key : String) : List (String × α) → Option α
  | [] => none
  | (k, v) :: rest => if k = key then some v else find? key rest

def get? (table : Keyed α) (key : String) : Option α := find? key table.entries

def ofList (pairs : List (String × α)) : Keyed α :=
  pairs.foldl (fun table pair => table.insert pair.1 pair.2) empty

-- Entries of `other` win.
def overlay (table other : Keyed α) : Keyed α :=
  other.entries.foldl (fun acc pair => acc.insert pair.1 pair.2) table

def filter (table : Keyed α) (keep : String → Bool) : Keyed α :=
  ⟨table.entries.filter fun entry => keep entry.1, table.ascending.filter _⟩

def keys (table : Keyed α) : List String := table.entries.map (·.1)

def size (table : Keyed α) : Nat := table.entries.length

def isEmpty (table : Keyed α) : Bool := table.entries.isEmpty

theorem find?_put (key other : String) (value : α) (entries : List (String × α)) :
    find? other (put key value entries) = if key = other then some value else find? other entries := by
  induction entries with
  | nil => simp [put, find?]
  | cons entry rest ih =>
    obtain ⟨k, v⟩ := entry
    simp only [put]
    split
    · simp [find?]
    · split
      · rename_i same
        subst same
        by_cases hit : key = other <;> simp [find?, hit]
      · rename_i notSame
        by_cases hit : key = other
        · subst hit
          simp [find?, ih, Ne.symm notSame]
        · simp [find?, ih, hit]

theorem get?_insert (table : Keyed α) (key other : String) (value : α) :
    (table.insert key value).get? other = if key = other then some value else table.get? other :=
  find?_put key other value table.entries

theorem get?_empty (key : String) : (empty : Keyed α).get? key = none := rfl

theorem find?_of_mem {entries : List (String × α)} (present : key ∈ entries.map (·.1)) :
    ∃ value, find? key entries = some value := by
  induction entries with
  | nil => cases present
  | cons entry rest ih =>
    obtain ⟨k, v⟩ := entry
    by_cases same : k = key
    · exact ⟨v, by simp [find?, same]⟩
    · rcases List.mem_cons.mp present with here | later
      · exact absurd here.symm same
      · obtain ⟨value, found⟩ := ih later
        exact ⟨value, by simp [find?, same, found]⟩

theorem get?_of_mem_keys {table : Keyed α} (present : key ∈ table.keys) : ∃ value, table.get? key = some value :=
  find?_of_mem present

theorem mem_of_find? {entries : List (String × α)} (found : find? key entries = some value) :
    key ∈ entries.map (·.1) := by
  induction entries with
  | nil => cases found
  | cons entry rest ih =>
    obtain ⟨k, v⟩ := entry
    by_cases same : k = key
    · exact List.mem_cons.mpr (.inl same.symm)
    · rw [find?, if_neg same] at found
      exact List.mem_cons_of_mem k (ih found)

theorem mem_keys_of_get? {table : Keyed α} (found : table.get? key = some value) : key ∈ table.keys :=
  mem_of_find? found

theorem mem_keys_iff {table : Keyed α} : key ∈ table.keys ↔ (table.get? key).isSome := by
  rw [Option.isSome_iff_exists]
  constructor
  · exact get?_of_mem_keys
  · rintro ⟨value, found⟩
    exact mem_keys_of_get? found

theorem keys_ascending (table : Keyed α) : table.keys.Pairwise fun x y => x < y :=
  List.pairwise_map.mpr table.ascending

theorem keys_nodup (table : Keyed α) : table.keys.Nodup :=
  table.keys_ascending.imp fun {x y} (before : x < y) (same : x = y) => String.lt_irrefl y (same ▸ before)

theorem put_last {entries : List (String × α)} (behind : ∀ entry ∈ entries, entry.1 < key) :
    put key value entries = entries ++ [(key, value)] := by
  induction entries with
  | nil => rfl
  | cons entry rest ih =>
    obtain ⟨k, v⟩ := entry
    have before : k < key := behind (k, v) List.mem_cons_self
    have notAfter : ¬ key < k := fun after => String.lt_irrefl k (String.lt_trans before after)
    have other : key ≠ k := fun same => String.lt_irrefl k (same ▸ before)
    simp [put, notAfter, other, ih fun entry later => behind entry (List.mem_cons_of_mem _ later)]

-- Pairs that come in ascending order behind the table end up behind its entries.
theorem foldl_insert_entries (pairs : List (String × α)) (table : Keyed α)
    (ordered : (table.entries ++ pairs).Pairwise fun x y => x.1 < y.1) :
    (pairs.foldl (fun table pair => table.insert pair.1 pair.2) table).entries = table.entries ++ pairs := by
  induction pairs generalizing table with
  | nil => simp
  | cons pair rest ih =>
    have behind : ∀ entry ∈ table.entries, entry.1 < pair.1 := fun entry present =>
      (List.pairwise_append.mp ordered).2.2 entry present pair List.mem_cons_self
    have inserted : (table.insert pair.1 pair.2).entries = table.entries ++ [pair] := put_last behind
    rw [List.foldl_cons, ih (table.insert pair.1 pair.2) (by simpa [inserted] using ordered), inserted]
    simp

-- Pairs of distinct keys in ascending order: each key among them is set by its one pair.
theorem get?_foldl_insert {pairs : List (String × α)} (ordered : pairs.Pairwise fun x y => x.1 < y.1) (table : Keyed α)
    (key : String) :
    (pairs.foldl (fun table pair => table.insert pair.1 pair.2) table).get? key =
      (find? key pairs).or (table.get? key) := by
  induction pairs generalizing table with
  | nil => rfl
  | cons pair rest ih =>
    obtain ⟨k, v⟩ := pair
    obtain ⟨before, orderedRest⟩ := List.pairwise_cons.mp ordered
    rw [List.foldl_cons, ih orderedRest, get?_insert, find?]
    by_cases same : k = key
    · have gone : find? key rest = none := by
        cases later : find? key rest with
        | none => rfl
        | some value =>
          obtain ⟨entry, present, named⟩ := List.mem_map.mp (mem_of_find? later)
          have less : k < entry.1 := before entry present
          exact absurd (same.trans named.symm ▸ less) (String.lt_irrefl _)
      rw [gone, if_pos same, if_pos same]
      rfl
    · rw [if_neg same, if_neg same]

theorem get?_overlay (table other : Keyed α) (key : String) :
    (table.overlay other).get? key = (other.get? key).or (table.get? key) :=
  get?_foldl_insert other.ascending table key

theorem find?_filter (keep : String → Bool) (key : String) (entries : List (String × α)) :
    find? key (entries.filter fun entry => keep entry.1) = if keep key then find? key entries else none := by
  induction entries with
  | nil => simp [find?]
  | cons entry rest ih =>
    obtain ⟨k, v⟩ := entry
    rw [List.filter_cons]
    by_cases same : k = key
    · subst same
      cases kept : keep k
      · simpa [kept] using ih
      · simp [find?]
    · cases kept : keep k <;> simp [find?, same, ih]

theorem get?_filter (table : Keyed α) (keep : String → Bool) (key : String) :
    (table.filter keep).get? key = if keep key then table.get? key else none :=
  find?_filter keep key table.entries

theorem ofList_entries (table : Keyed α) : ofList table.entries = table := by
  apply ext_entries
  exact foldl_insert_entries table.entries empty (by simpa [empty] using table.ascending)

end Keyed

end Harvester
