import Harvester.History
namespace Harvester.Disk

-- A name between two slashes.
structure IsPart (part : String) : Prop where
  someText : part ≠ ""
  notHere : part ≠ "."
  noSlash : '/' ∉ part.toList

theorem splitOn_free [BEq α] [LawfulBEq α] (sep : α) (xs : List α) : ∀ piece ∈ xs.splitOn sep, sep ∉ piece := by
  induction xs with
  | nil => simp
  | cons x xs ih =>
    intro piece present
    rw [List.splitOn_cons_eq_if_modifyHead] at present
    split at present
    · rcases List.mem_cons.mp present with rfl | later
      · exact List.not_mem_nil
      · exact ih piece later
    · rename_i other
      cases pieces : xs.splitOn sep with
      | nil => exact absurd pieces (List.splitOn_ne_nil sep xs)
      | cons first rest =>
        rw [pieces, List.modifyHead_cons] at present
        rw [pieces] at ih
        rcases List.mem_cons.mp present with rfl | later
        · have notHead : sep ≠ x := fun same => other (by simp [same])
          simp [notHead, ih first List.mem_cons_self]
        · exact ih piece (List.mem_cons_of_mem _ later)

theorem isPart_of_mem_parts (present : part ∈ parts path) : IsPart part := by
  simp only [parts, List.mem_filter, List.mem_map, Bool.and_eq_true, bne_iff_ne] at present
  obtain ⟨⟨piece, member, rfl⟩, someText, notHere⟩ := present
  exact ⟨someText, notHere, by simpa using splitOn_free '/' _ piece member⟩

-- A path put together from parts has these parts.
theorem parts_joined (ps : List String) (each : ∀ part ∈ ps, IsPart part) : parts (joined ps) = ps := by
  by_cases none_ : ps = []
  · subst none_; rfl
  have pieces : (joined ps).toList.splitOn '/' = ps.map String.toList := by
    have spelled : (joined ps).toList = ['/'].intercalate (ps.map String.toList) := by
      simp [joined, String.toList_intercalate]
    rw [spelled]
    refine List.splitOn_intercalate '/' ?_ (by simpa using none_)
    intro piece present
    obtain ⟨part, member, rfl⟩ := List.mem_map.mp present
    exact (each part member).noSlash
  have kept : ∀ part ∈ ps, (part != "" && part != ".") = true := fun part member => by
    simp [(each part member).someText, (each part member).notHere]
  simp only [parts, pieces, List.map_map]
  simpa [Function.comp_def] using kept

theorem joined_injective {xs ys : List String} (left : ∀ part ∈ xs, IsPart part) (right : ∀ part ∈ ys, IsPart part)
    (same : joined xs = joined ys) : xs = ys := by
  rw [← parts_joined xs left, ← parts_joined ys right, same]

theorem joined_not_mem_parents (path : String) : joined (parts path) ∉ parents (parts path) := by
  intro present
  obtain ⟨i, short, same⟩ := List.mem_map.mp present
  have whole := joined_injective (fun part member => isPart_of_mem_parts (List.mem_of_mem_take member))
    (fun part member => isPart_of_mem_parts member) same
  have length := congrArg List.length whole
  have inside := List.mem_range.mp short
  simp only [List.length_take] at length
  omega

-- The folders around a file are those on the way to its folder, and that folder itself.
theorem parents_dropLast {ps : List String} (deep : 1 < ps.length) :
    parents ps.dropLast ++ [joined ps.dropLast] = parents ps := by
  have count : ps.length - 1 = (ps.length - 2) + 1 := by omega
  have last : ps.take (ps.length - 2 + 1) = ps.dropLast := by
    rw [List.dropLast_eq_take, count]
  simp only [parents, List.length_dropLast, Nat.sub_sub]
  rw [count, List.range_succ, List.map_append, List.map_singleton, last]
  congr 1
  apply List.map_congr_left
  intro i short
  have inside := List.mem_range.mp short
  have within : min (i + 1) (ps.length - 1) = i + 1 := by omega
  rw [List.dropLast_eq_take, List.take_take, within]

-- Making folders changes nothing but what was missing at their paths.

theorem addFolder_other (disk : Disk) {path other : String} (apart : path ≠ other) :
    (disk.addFolder path).entries.get? other = disk.entries.get? other := by
  unfold addFolder
  split
  · rw [Keyed.get?_insert, if_neg apart]
  · rfl

theorem addFolder_same {disk : Disk} {path : String} (free : disk.blocks path = false) :
    (disk.addFolder path).entries.get? path = some .folder := by
  unfold addFolder
  cases found : disk.entries.get? path with
  | none => simp [Keyed.get?_insert]
  | some entry =>
    cases entry with
    | file text => simp [blocks, found] at free
    | folder => simpa using found

theorem addFolder_blocks (disk : Disk) (path other : String) :
    (disk.addFolder path).blocks other = disk.blocks other := by
  by_cases same : path = other
  · subst same
    unfold addFolder
    cases found : disk.entries.get? path with
    | none => simp [blocks, Keyed.get?_insert, found]
    | some entry => rfl
  · simp [blocks, addFolder_other disk same]

theorem addFolders_other (wanted : List String) (disk : Disk) {other : String} (apart : other ∉ wanted) :
    (wanted.foldl addFolder disk).entries.get? other = disk.entries.get? other := by
  induction wanted generalizing disk with
  | nil => rfl
  | cons path rest ih =>
    have split := not_or.mp fun either => apart (List.mem_cons.mpr either)
    rw [List.foldl_cons, ih _ split.2, addFolder_other disk (Ne.symm split.1)]

theorem addFolders_present (wanted : List String) {disk : Disk} (free : ∀ path ∈ wanted, disk.blocks path = false)
    {path : String} (present : path ∈ wanted) :
    (wanted.foldl addFolder disk).entries.get? path = some .folder := by
  induction wanted generalizing disk with
  | nil => cases present
  | cons first rest ih =>
    rw [List.foldl_cons]
    by_cases later : path ∈ rest
    · exact ih (fun other member => by rw [addFolder_blocks]; exact free other (List.mem_cons_of_mem _ member)) later
    · obtain rfl : path = first := (List.mem_cons.mp present).resolve_right later
      rw [addFolders_other rest _ later, addFolder_same (free path List.mem_cons_self)]

-- Where a file may be kept: the path names something, no file is in the way, and it is no folder.
structure Open (disk : Disk) (path : String) : Prop where
  named : parts path ≠ []
  around : ∀ folder ∈ parents (parts path), disk.blocks folder = false
  noFolder : disk.entries.get? (joined (parts path)) ≠ some .folder

theorem ne_empty_of_named (named : parts path ≠ []) : path ≠ "" := by
  rintro rfl
  exact named (by decide)

theorem Open.look (open_ : Open disk path) :
    disk.look path = match disk.entries.get? (joined (parts path)) with
      | some (.file text) => .file text
      | _ => .missing := by
  have free : (parents (parts path)).any disk.blocks = false := by simpa using open_.around
  have noFolder := open_.noFolder
  simp only [Disk.look, ne_empty_of_named open_.named, open_.named, free]
  cases found : disk.entries.get? (joined (parts path)) with
  | none => simp
  | some entry =>
    cases entry with
    | file text => simp
    | folder => exact absurd found noFolder

theorem open_of_look (nonempty : path ≠ "") (found : disk.look path = .missing ∨ ∃ text, disk.look path = .file text) :
    Open disk path := by
  unfold Disk.look at found
  simp only [nonempty, if_false] at found
  split at found
  · simp at found
  split at found
  · simp at found
  rename_i named free
  refine ⟨named, by simpa using free, ?_⟩
  intro folder
  simp [folder] at found

theorem Open.createFolders (open_ : Open disk path) :
    ∃ ready, History.prepared path disk = .ok ready ∧
      (∀ folder ∈ parents (parts path), ready.entries.get? folder = some .folder) ∧
      ready.entries.get? (joined (parts path)) = disk.entries.get? (joined (parts path)) := by
  by_cases deep : 1 < (parts path).length
  · have above : parts (joined (parts path).dropLast) = (parts path).dropLast :=
      parts_joined _ fun part member => isPart_of_mem_parts (List.dropLast_subset _ member)
    have nonempty : (parts path).dropLast ≠ [] := by
      intro none_
      have length := congrArg List.length none_
      simp only [List.length_dropLast, List.length_nil] at length
      omega
    have wanted : parents (parts path).dropLast ++ [joined (parts path).dropLast] = parents (parts path) :=
      parents_dropLast deep
    have free : (parents (parts path)).any disk.blocks = false := by simpa using open_.around
    refine ⟨(parents (parts path)).foldl addFolder disk, ?_, fun folder member => ?_, ?_⟩
    · have folder : folderOf? path = some (joined (parts path).dropLast) := by
        simp [folderOf?, Nat.not_le.mpr deep]
      simp [History.prepared, folder, Disk.createFolders, above, nonempty, wanted, free]
    · exact addFolders_present _ open_.around member
    · exact addFolders_other _ _ (joined_not_mem_parents path)
  · have flat : parents (parts path) = [] := by
      have single : (parts path).length - 1 = 0 := by omega
      simp [parents, single]
    refine ⟨disk, ?_, by simp [flat], rfl⟩
    have folder : folderOf? path = none := by simp [folderOf?, Nat.not_lt.mp deep]
    simp [History.prepared, folder]

-- Once its folders are there, the file is written, and then it is what stands at its path.
theorem write_look {disk : Disk} (open_ : Open disk path)
    (folders : ∀ folder ∈ parents (parts path), disk.entries.get? folder = some .folder) (text : String) :
    ∃ written, disk.write path text = some written ∧ written.look path = .file text := by
  have around : ((parents (parts path)).all fun folder => disk.entries.get? folder = some .folder) = true := by
    simpa using folders
  let written : Disk := ⟨disk.entries.insert (joined (parts path)) (.file text)⟩
  have opened : Open written path := by
    refine ⟨open_.named, fun folder member => ?_, by simp [written, Keyed.get?_insert]⟩
    have other : joined (parts path) ≠ folder := by
      rintro rfl
      exact joined_not_mem_parents path member
    simp [written, blocks, Keyed.get?_insert, other, folders folder member]
  refine ⟨written, ?_, by rw [opened.look]; simp [written, Keyed.get?_insert]⟩
  have look := open_.look
  unfold Disk.write
  rw [if_pos around]
  cases found : disk.entries.get? (joined (parts path)) with
  | none => simp [look, found, open_.named, written]
  | some entry =>
    cases entry with
    | file old => simp [look, found, written]
    | folder => exact absurd found open_.noFolder

end Harvester.Disk
