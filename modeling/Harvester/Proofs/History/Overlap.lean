import Harvester.Proofs.History.Mirror
namespace Harvester

variable {ι α β δ : Type}

-- How far a recording has come. From reading to writing it holds what it read.
inductive Recording (α : Type)
  | waiting
  | holding (seen : α)
  | ended (answer : Except HistoryFault Unit)

def Recording.map (f : α → β) : Recording α → Recording β
  | .waiting => .waiting
  | .holding seen => .holding (f seen)
  | .ended answer => .ended answer

-- How several parties record something in what they share: each reads all of it in one step and writes all of it anew
-- in another.
structure Access (ι α δ : Type) where
  read : δ → Except HistoryFault α
  write : ι → α → δ → Except HistoryFault Unit × δ

structure Overlap (ι α δ : Type) where
  progress : ι → Recording α
  shared : δ

def Overlap.start (shared : δ) : Overlap ι α δ := ⟨fun _ => .waiting, shared⟩

namespace Access

def advance (access : Access ι α δ) (who : ι) : Recording α → δ → Recording α × δ
  | .waiting, shared =>
    match access.read shared with
    | .error fault => (.ended (.error fault), shared)
    | .ok seen => (.holding seen, shared)
  | .holding seen, shared =>
    let (answer, after) := access.write who seen shared
    (.ended answer, after)
  | .ended answer, shared => (.ended answer, shared)

-- Everyone records an entry in the file of a history.
def file (path : String) (entries : ι → String × Parameters) : Access ι LastRuns Disk where
  read := History.readFile path
  write who runs disk := History.writeFile path (runs.insert (entries who).1 (entries who).2) disk

def names : Access ι (List ι) (List ι) where
  read shared := .ok shared
  write who seen _ := (.ok (), seen ++ [who])

-- The two steps in a row are one call of the history.
theorem advance_advance_file (path : String) (entries : ι → String × Parameters) (who : ι) (disk : Disk) :
    let read := (file path entries).advance who .waiting disk
    let recorded := (History.file path).record (entries who).1 (entries who).2 disk
    (file path entries).advance who read.1 read.2 = (.ended recorded.1, recorded.2) := by
  cases read : History.readFile path disk with
  | error fault => simp [advance, file, History.file, read]
  | ok runs => simp [advance, file, History.file, read]

variable [DecidableEq ι]

def turn (access : Access ι α δ) (overlap : Overlap ι α δ) (who : ι) : Overlap ι α δ :=
  let (recording, after) := access.advance who (overlap.progress who) overlap.shared
  ⟨fun party => if party = who then recording else overlap.progress party, after⟩

-- A list of turns says who takes the next step.
def play (access : Access ι α δ) (turns : List ι) (shared : δ) : Overlap ι α δ := turns.foldl access.turn (.start shared)

theorem turn_turn_file (path : String) (entries : ι → String × Parameters) {overlap : Overlap ι LastRuns Disk} {who : ι}
    (waiting : overlap.progress who = .waiting) :
    let after := (file path entries).turn ((file path entries).turn overlap who) who
    after.shared = ((History.file path).record (entries who).1 (entries who).2 overlap.shared).2 ∧
      ∀ party, party ≠ who → after.progress party = overlap.progress party := by
  intro after
  have both := advance_advance_file path entries who overlap.shared
  constructor
  · simp only [after, turn, if_true, waiting, both]
  · intro party apart
    simp only [after, turn, apart, if_false]

theorem play_file_apart (path : String) (entries : ι → String × Parameters) {first second : ι} (apart : second ≠ first)
    (disk : Disk) :
    ((file path entries).play [first, first, second, second] disk).shared =
      ((History.file path).record (entries second).1 (entries second).2
        ((History.file path).record (entries first).1 (entries first).2 disk).2).2 := by
  have begun : (Overlap.start disk : Overlap ι LastRuns Disk).progress first = .waiting := rfl
  obtain ⟨between, others⟩ := turn_turn_file path entries begun
  obtain ⟨after, _⟩ := turn_turn_file path entries (others second apart)
  rw [between] at after
  exact after

end Access

-- The table with the entries of some parties put in, one after the other.
def LastRuns.written (runs : LastRuns) (entries : ι → String × Parameters) (names : List ι) : LastRuns :=
  names.foldl (fun table who => table.insert (entries who).1 (entries who).2) runs

theorem LastRuns.written_append (runs : LastRuns) (entries : ι → String × Parameters) (names : List ι) (who : ι) :
    runs.written entries (names ++ [who]) = (runs.written entries names).insert (entries who).1 (entries who).2 := by
  rw [written, List.foldl_append]
  rfl

theorem LastRuns.written_last (runs : LastRuns) (entries : ι → String × Parameters) (names : List ι) (who : ι) :
    (runs.written entries (names ++ [who])).get? (entries who).1 = some (entries who).2 := by
  rw [written_append, Keyed.get?_insert, if_pos rfl]

theorem LastRuns.written_before (runs : LastRuns) (entries : ι → String × Parameters) (names : List ι) {who : ι}
    (other : (entries who).1 ≠ job) :
    (runs.written entries (names ++ [who])).get? job = (runs.written entries names).get? job := by
  rw [written_append, Keyed.get?_insert, if_neg other]

theorem LastRuns.written_other (runs : LastRuns) (entries : ι → String × Parameters) (names : List ι)
    (other : ∀ who, job ≠ (entries who).1) : (runs.written entries names).get? job = runs.get? job := by
  induction names generalizing runs with
  | nil => rfl
  | cons who rest ih =>
    have later : (runs.written entries (who :: rest)).get? job =
        (runs.insert (entries who).1 (entries who).2).get? job := ih _
    rw [later, Keyed.get?_insert, if_neg (Ne.symm (other who))]

-- Whose entries stand in the file is found out by writing names only.
structure Overlap.Follows (path : String) (entries : ι → String × Parameters) (runs : LastRuns)
    (overlap : Overlap ι LastRuns Disk) (names : Overlap ι (List ι) (List ι)) : Prop where
  progress : ∀ party, overlap.progress party = (names.progress party).map (runs.written entries)
  shared : History.Holds path overlap.shared (runs.written entries names.shared)

namespace Access

variable {path : String} {entries : ι → String × Parameters} {runs : LastRuns}
  {overlap : Overlap ι LastRuns Disk} {named : Overlap ι (List ι) (List ι)}

theorem advance_follows (holds : History.Holds path disk (runs.written entries shared)) (who : ι)
    (stage : Recording (List ι)) :
    let stepped := (file path entries).advance who (stage.map (runs.written entries)) disk
    let named := names.advance who stage shared
    stepped.1 = named.1.map (runs.written entries) ∧ History.Holds path stepped.2 (runs.written entries named.2) := by
  cases stage with
  | waiting =>
    simp only [Recording.map, advance, file, names, holds.read]
    exact ⟨trivial, holds⟩
  | holding seen =>
    obtain ⟨after, wrote, kept⟩ := History.writeFile_holds holds.open_ (runs.written entries (seen ++ [who]))
    rw [LastRuns.written_append] at wrote
    simp only [Recording.map, advance, file, names, wrote]
    exact ⟨trivial, kept⟩
  | ended answer => exact ⟨rfl, holds⟩

variable [DecidableEq ι]

theorem turn_follows (follows : Overlap.Follows path entries runs overlap named) (who : ι) :
    Overlap.Follows path entries runs ((file path entries).turn overlap who) (names.turn named who) := by
  obtain ⟨stepped, holds⟩ := advance_follows follows.shared who (named.progress who)
  rw [← follows.progress who] at stepped holds
  refine ⟨fun party => ?_, holds⟩
  by_cases same : party = who
  · simpa only [turn, same, if_true] using stepped
  · simpa only [turn, same, if_false] using follows.progress party

theorem play_follows (holds : History.Holds path disk runs) (entries : ι → String × Parameters) (turns : List ι) :
    Overlap.Follows path entries runs ((file path entries).play turns disk) (names.play turns []) := by
  have begun : Overlap.Follows path entries runs (.start disk) (.start []) := ⟨fun _ => rfl, holds⟩
  unfold play
  generalize (Overlap.start disk : Overlap ι LastRuns Disk) = overlap at begun ⊢
  generalize (Overlap.start [] : Overlap ι (List ι) (List ι)) = named at begun ⊢
  induction turns generalizing overlap named with
  | nil => exact begun
  | cons who rest ih => exact ih _ _ (turn_follows begun who)

end Access

inductive Side
  | left | right
deriving Repr, DecidableEq

namespace Side

def other : Side → Side
  | .left => .right
  | .right => .left

theorem other_ne (side : Side) : side.other ≠ side := by
  cases side with
  | left => decide
  | right => decide

-- Two turns each. The side that has the last one finds the other done before it, begun before it, or within its own two.
theorem orders {turns : List Side} (complete : turns.Perm [left, left, right, right]) :
    ∃ side, turns = [side.other, side.other, side, side] ∨ turns = [side.other, side, side.other, side] ∨
      turns = [side, side.other, side.other, side] := by
  match turns, complete.length_eq with
  | [a, b, c, last], _ =>
    refine ⟨last, ?_⟩
    revert complete
    cases a <;> cases b <;> cases c <;> cases last <;> decide

end Side

namespace Access

-- Who writes last has its name in the list. The name of the other is there too where the two were apart.
theorem names_play {turns : List Side} (complete : turns.Perm [.left, .left, .right, .right]) :
    let done := names.play turns []
    (∀ side, done.progress side = .ended (.ok ())) ∧
      ∀ side, turns.getLast? = some side →
        done.shared = (if turns = [side.other, side.other, side, side] then [side.other] else []) ++ [side] := by
  obtain ⟨last, rfl | rfl | rfl⟩ := Side.orders complete
  all_goals
    refine ⟨fun side => ?_, fun side ends => ?_⟩
    · cases last <;> cases side <;> rfl
    · cases ends
      cases last <;> rfl

end Access

namespace History

variable {path : String} {disk : Disk} {runs : LastRuns}

-- Two recordings in one file, each of which reads all of it and later writes all of it, in whatever order the four steps
-- are taken. Both end well, and what the file held of other jobs stays. Of the two, who writes last is kept. The other is
-- kept if it was done before, as when one call follows the other; otherwise its job reads as if nothing had been
-- recorded, because the file was written from what had been read too early.
theorem file_overlapping (named : path ≠ "") (read : readFile path disk = .ok runs) (entries : Side → String × Parameters)
    (apart : (entries .left).1 ≠ (entries .right).1) {turns : List Side}
    (complete : turns.Perm [.left, .left, .right, .right]) :
    let done := (Access.file path entries).play turns disk
    let before (job : String) := (file path).last job disk
    let after (job : String) := (file path).last job done.shared
    (∀ side, done.progress side = .ended (.ok ())) ∧
      (∀ job, (∀ side, job ≠ (entries side).1) → after job = before job) ∧
      ∀ side, turns.getLast? = some side →
        let first := entries side.other
        let second := entries side
        after second.1 = .ok (some second.2) ∧
          (turns = [side.other, side.other, side, side] →
            after first.1 = .ok (some first.2) ∧
              done.shared = ((file path).record second.1 second.2 ((file path).record first.1 first.2 disk).2).2) ∧
          (turns ≠ [side.other, side.other, side, side] → after first.1 = before first.1) := by
  intro done before after
  have holds : Holds path disk runs := ⟨named, read⟩
  have follows := Access.play_follows holds entries turns
  obtain ⟨ended, written⟩ := Access.names_play complete
  have read (job : String) : before job = .ok (runs.get? job) := (file_mirrors path).last holds job
  have reads (job : String) : after job = .ok ((runs.written entries (Access.names.play turns []).shared).get? job) :=
    (file_mirrors path).last follows.shared job
  refine ⟨fun side => ?_, fun job other => ?_, fun side last => ?_⟩
  · rw [follows.progress, ended]
    rfl
  · rw [reads, read, runs.written_other entries _ other]
  · intro first second
    have different : second.1 ≠ first.1 := by
      cases side with
      | left => exact apart
      | right => exact apart.symm
    refine ⟨?_, fun serial => ⟨?_, ?_⟩, fun crossed => ?_⟩
    · rw [reads, written side last, runs.written_last]
    · rw [reads, written side last, runs.written_before entries _ different, if_pos serial]
      exact congrArg Except.ok (runs.written_last entries [] side.other)
    · simp only [done, serial]
      exact Access.play_file_apart path entries side.other_ne.symm disk
    · rw [reads, read, written side last, runs.written_before entries _ different, if_neg crossed]
      rfl

-- The one that reads first writes last, over the other's entry.
theorem file_overlapping_nested :
    let numbered (id : Long) : Parameters := Keyed.empty.insert "run.id" (.long id)
    let runs : LastRuns := Keyed.empty.insert "c" (numbered ⟨7, by decide⟩)
    let disk : Disk := ⟨Keyed.empty.insert "runs.json" (.file runs.encode)⟩
    let entries : Side → String × Parameters
      | .left => ("a", numbered .one)
      | .right => ("b", numbered .one)
    let done := (Access.file "runs.json" entries).play [.left, .right, .right, .left] disk
    readFile "runs.json" disk = .ok runs ∧ (∀ side, done.progress side = .ended (.ok ())) ∧
      (file "runs.json").last "a" done.shared = .ok (some (entries .left).2) ∧
      (file "runs.json").last "b" done.shared = .ok none ∧
      (file "runs.json").last "c" done.shared = .ok (some (numbered ⟨7, by decide⟩)) := by
  intro numbered runs disk entries done
  have named : "runs.json" ≠ "" := by decide
  have holds : Holds "runs.json" disk runs := (FileStart.kept runs rfl).holds named
  have apart : (entries .left).1 ≠ (entries .right).1 := show "a" ≠ "b" by decide
  have third (side : Side) : "c" ≠ (entries side).1 := by
    cases side with
    | left => exact show "c" ≠ "a" by decide
    | right => exact show "c" ≠ "b" by decide
  have complete : [Side.left, .right, .right, .left].Perm [.left, .left, .right, .right] := by decide
  obtain ⟨ended, others, sides⟩ := file_overlapping named holds.read entries apart complete
  obtain ⟨last, _, lost⟩ := sides .left rfl
  have gone := lost (by decide)
  have kept := others "c" third
  dsimp only at last gone kept
  rw [(file_mirrors "runs.json").last holds] at gone kept
  refine ⟨holds.read, ?_, last, gone, kept⟩
  simp only [done]
  exact ended

-- Both begin on an empty disk before either has written.
theorem file_overlapping_lost :
    ¬ ∀ (path : String) (disk : Disk) (runs : LastRuns) (entries : Side → String × Parameters) (turns : List Side),
      path ≠ "" → readFile path disk = .ok runs → (entries .left).1 ≠ (entries .right).1 →
      turns.Perm [.left, .left, .right, .right] →
      let done := (Access.file path entries).play turns disk
      (∀ side, done.progress side = .ended (.ok ())) →
      ∀ side, (file path).last (entries side).1 done.shared = .ok (some (entries side).2) := by
  intro kept
  let entries : Side → String × Parameters
    | .left => ("a", Keyed.empty)
    | .right => ("b", Keyed.empty)
  let done := (Access.file "runs.json" entries).play [.left, .right, .left, .right] Disk.empty
  have ended (side : Side) : done.progress side = .ended (.ok ()) := by
    cases side <;> rfl
  have lost : ((file "runs.json").last "a" done.shared).toOption = some none := by decide +kernel
  have found := kept "runs.json" Disk.empty Keyed.empty entries [.left, .right, .left, .right] (by decide) rfl (by decide)
    (by decide) ended .left
  rw [found] at lost
  cases lost

end History

end Harvester
