import Harvester.Proofs.Xml.Insertion
import Mathlib.Data.List.TakeWhile
namespace Harvester.Xml

variable {cs ds spaces found raw : List Char} {pending : Option (List Char)} {inner : List Piece}
  {run nodes : List Node} {child : Child}

-- A character is refused, or it says something by itself and leaves the rest to be read.
theorem resolveFrom_cons (pending : Option (List Char)) (c : Char) :
    (∀ cs, resolveFrom pending (c :: cs) = none) ∨
      ∃ next spoken, ∀ cs, resolveFrom pending (c :: cs) = (resolveFrom next cs).map (spoken ++ ·) := by
  have silent (next : Option (List Char)) (cs : List Char) :
      resolveFrom next cs = (resolveFrom next cs).map ([] ++ ·) := Option.map_id'.symm
  cases pending with
  | none =>
    by_cases begins : c = '&'
    · exact .inr ⟨some [], [], fun cs => by rw [← silent, resolveFrom]; simp only [if_pos begins]⟩
    · exact .inr ⟨none, [c], fun cs => by rw [resolveFrom]; simp only [if_neg begins]; rfl⟩
  | some body =>
    by_cases begins : c = '&'
    · exact .inl fun cs => by rw [resolveFrom]; simp only [if_pos begins]
    · by_cases ends : c = ';'
      · cases known : meaning? body.reverse with
        | none => exact .inl fun cs => by rw [resolveFrom]; simp only [if_neg begins, if_pos ends, known]
        | some d =>
          exact .inr ⟨none, [d], fun cs => by rw [resolveFrom]; simp only [if_neg begins, if_pos ends, known]; rfl⟩
      · exact .inr ⟨some (c :: body), [], fun cs => by
          rw [← silent, resolveFrom]
          simp only [if_neg begins, if_neg ends]⟩

-- References that are complete are read by themselves, whatever follows.
theorem resolveFrom_append (read : resolveFrom pending cs = some found) (ds : List Char) :
    resolveFrom pending (cs ++ ds) = (resolve? ds).map (found ++ ·) := by
  induction cs generalizing pending found with
  | nil =>
    cases pending with
    | none =>
      cases read
      exact Option.map_id'.symm
    | some body => cases read
  | cons c cs ih =>
    rcases resolveFrom_cons pending c with refused | ⟨next, spoken, reads⟩
    · rw [refused] at read
      cases read
    · rw [reads] at read
      obtain ⟨later, readLater, rfl⟩ := Option.map_eq_some_iff.mp read
      rw [List.cons_append, reads, ih readLater, Option.map_map]
      exact congrArg (Option.map · (resolve? ds)) (funext fun _ => (List.append_assoc _ _ _).symm)

theorem resolve?_append (read : resolve? cs = some found) (ds : List Char) :
    resolve? (cs ++ ds) = (resolve? ds).map (found ++ ·) :=
  resolveFrom_append read ds

theorem resolve?_of_plain (plain : ∀ c ∈ cs, c ≠ '&') : resolve? cs = some cs := by
  induction cs with
  | nil => rfl
  | cons c cs ih =>
    obtain ⟨first, later⟩ := List.forall_mem_cons.mp plain
    have behind : resolveFrom none cs = some cs := ih later
    rw [resolve?, resolveFrom]
    simp only [if_neg first, behind, Option.map_some]

theorem isSpace_ne {c d : Char} (space : isSpace c = true) (visible : isSpace d = false) : c ≠ d := by
  rintro rfl
  rw [space] at visible
  cases visible

-- A reference that is not complete does not become so by blanks.
theorem resolveFrom_pending (body : List Char) (spaced : ∀ c ∈ spaces, isSpace c = true) :
    resolveFrom (some body) spaces = none := by
  induction spaces generalizing body with
  | nil => rfl
  | cons c spaces ih =>
    obtain ⟨first, later⟩ := List.forall_mem_cons.mp spaced
    rw [resolveFrom]
    simp only [if_neg (isSpace_ne first (d := '&') rfl), if_neg (isSpace_ne first (d := ';') rfl)]
    exact ih _ later

theorem resolveFrom_spaces (spaced : ∀ c ∈ spaces, isSpace c = true) (read : (resolveFrom pending (cs ++ spaces)).isSome) :
    (resolveFrom pending cs).isSome := by
  induction cs generalizing pending with
  | nil =>
    cases pending with
    | none => rfl
    | some body =>
      rw [List.nil_append, resolveFrom_pending body spaced] at read
      cases read
  | cons c cs ih =>
    rw [List.cons_append] at read
    rcases resolveFrom_cons pending c with refused | ⟨next, spoken, reads⟩
    · rw [refused] at read
      cases read
    · rw [reads, Option.isSome_map] at read ⊢
      exact ih read

theorem resolve?_dropSpaces (read : (resolve? raw).isSome) : (resolve? (dropSpaces raw)).isSome := by
  have spaced : ∀ c ∈ raw.takeWhile isSpace, c ≠ '&' :=
    fun c present => isSpace_ne (List.mem_takeWhile_imp present) rfl
  rw [← List.takeWhile_append_dropWhile (p := isSpace) (l := raw), resolve?_append (resolve?_of_plain spaced),
    Option.isSome_map] at read
  exact read

theorem resolve?_dropSpacesEnd (read : (resolve? raw).isSome) : (resolve? (dropSpacesEnd raw)).isSome := by
  have whole : raw = dropSpacesEnd raw ++ (raw.reverse.takeWhile isSpace).reverse := by
    rw [dropSpacesEnd, ← List.reverse_append, List.takeWhile_append_dropWhile, List.reverse_reverse]
  rw [whole] at read
  exact resolveFrom_spaces (fun c present => List.mem_takeWhile_imp (List.mem_reverse.mp present)) read

theorem soundAll_append (front back : List Node) : soundAll (front ++ back) = (soundAll front && soundAll back) := by
  induction front with
  | nil => rfl
  | cons node front ih => rw [List.cons_append, soundAll, soundAll, ih, Bool.and_assoc]

theorem soundAll_trimFront (sounds : soundAll run = true) : soundAll (trimFront run) = true := by
  fun_induction trimFront run with
  | case1 raw rest blank ih =>
    rw [soundAll, Bool.and_eq_true] at sounds
    exact ih sounds.2
  | case2 raw rest filled =>
    rw [soundAll, Bool.and_eq_true] at sounds ⊢
    exact ⟨resolve?_dropSpaces sounds.1, sounds.2⟩
  | case3 run other => exact sounds

theorem soundAll_trimBack (sounds : soundAll run = true) : soundAll (trimBack run) = true := by
  fun_induction trimBack run with
  | case1 => rfl
  | case2 raw =>
    rw [soundAll, Bool.and_eq_true] at sounds ⊢
    exact ⟨resolve?_dropSpacesEnd sounds.1, rfl⟩
  | case3 piece rest other ih =>
    rw [soundAll, Bool.and_eq_true] at sounds ⊢
    exact ⟨sounds.1, ih sounds.2⟩

theorem joined?_isSome (sounds : soundAll run = true) : (joined? run).isSome := by
  fun_induction joined? run with
  | case1 => rfl
  | case2 raw rest ih =>
    rw [soundAll, Bool.and_eq_true, sound] at sounds
    obtain ⟨words, read⟩ := Option.isSome_iff_exists.mp sounds.1
    rw [read, Option.bind_some, Option.isSome_map]
    exact ih sounds.2
  | case3 raw rest ih =>
    rw [soundAll, Bool.and_eq_true] at sounds
    rw [Option.isSome_map]
    exact ih sounds.2
  | case4 node rest _ _ ih =>
    rw [soundAll, Bool.and_eq_true] at sounds
    exact ih sounds.2

-- A run whose references have a meaning can be read.
theorem runText?_isSome (sounds : soundAll run = true) (front : Bool) : (runText? front run).isSome := by
  have trimmed : soundAll (if front then trimFront run else run) = true := by
    split
    · exact soundAll_trimFront sounds
    · exact sounds
  rw [runText?]
  split
  · rfl
  · rename_i raw shown
    split
    · rfl
    · rw [shown] at trimmed
      rw [Option.isSome_map]
      exact joined?_isSome (soundAll_trimBack trimmed)
  · rw [Option.isSome_map]
    exact joined?_isSome (soundAll_trimBack trimmed)

-- What an element without elements in it says, blanks at its ends not counted: nothing where it is blank.
def said (content : List Node) : Option (List Char) := (runText? true content).join

theorem runsFrom_piece {piece : Node} (flat : Flat inner [piece]) (settled front : Bool) (run nodes : List Node) :
    runsFrom settled front run (piece :: nodes) = runsFrom settled front (run ++ [piece]) nodes := by
  cases flat <;> rfl

theorem runsFrom_flat (flat : Flat inner nodes) (settled front : Bool) (run : List Node) :
    runsFrom settled front run nodes = (runText? front (run ++ nodes)).map Option.toList := by
  induction flat generalizing run with
  | nil => rw [runsFrom, List.append_nil]
  | text _ ih => rw [runsFrom_piece (.text .nil), ih, List.append_assoc, List.singleton_append]
  | cdata _ ih => rw [runsFrom_piece (.cdata .nil), ih, List.append_assoc, List.singleton_append]

theorem Flat.plain (flat : Flat inner nodes) : nodes.any isElement = false := by
  induction flat with
  | nil => rfl
  | text _ ih | cdata _ ih => exact ih

theorem runs_flat (flat : Flat inner nodes) (sounds : soundAll nodes = true) (settled : Bool) :
    runsFrom settled true [] nodes = some (said nodes).toList := by
  obtain ⟨read, shown⟩ := Option.isSome_iff_exists.mp (runText?_isSome sounds true)
  rw [runsFrom_flat flat, List.nil_append, said, shown]
  rfl

theorem plainText?_flat (flat : Flat inner child.content) (sounds : soundAll child.content = true) :
    plainText? child = some (String.ofList ((said child.content).getD [])) := by
  rw [plainText?, flat.plain, runs_flat flat sounds]
  cases said child.content <;> rfl

theorem mixedText?_flat (flat : Flat inner child.content) (sounds : soundAll child.content = true)
    (formed : (attributes? child.attributes).isSome) :
    mixedText? child = some ((said child.content).map String.ofList) := by
  obtain ⟨pairs, shown⟩ := Option.isSome_iff_exists.mp formed
  rw [mixedText?, shown, Option.bind_some, runs_flat flat sounds]
  cases said child.content <;> rfl

-- Whether an element was settled makes no difference to its text unless there are elements in it.
theorem runsFrom_settled (plain : nodes.any isElement = false) (settled other front : Bool) (run : List Node) :
    runsFrom settled front run nodes = runsFrom other front run nodes := by
  induction nodes generalizing front run with
  | nil => rfl
  | cons node nodes ih =>
    rw [List.any_cons, Bool.or_eq_false_iff] at plain
    cases node with
    | element => cases plain.1
    | doctype =>
      rw [runsFrom, runsFrom]
      simp only [ih plain.2]
    | text raw => exact ih plain.2 front _
    | cdata raw => exact ih plain.2 front _

theorem plainText?_settled (child : Child) (settled : Bool) :
    plainText? { child with settled } = plainText? child := by
  unfold plainText?
  cases plain : child.content.any isElement with
  | true => rfl
  | false => simp only [runsFrom_settled plain settled child.settled]

theorem mixedText?_settled (plain : child.content.any isElement = false) (settled : Bool) :
    mixedText? { child with settled } = mixedText? child := by
  unfold mixedText?
  simp only [runsFrom_settled plain settled child.settled]

theorem runText?_false_eq_none (read : runText? false run = some none) : runText? true run = some none := by
  rw [runText?] at read
  simp only [Bool.false_eq_true, if_false] at read
  split at read
  · rfl
  · rename_i raw
    split at read
    · rename_i blank
      simp [runText?, trimFront, blank]
    · simp at read
  · simp at read

-- A run that loses its leading blanks does not begin to say something.
theorem runText?_fewer {front other : Bool} {words : Option (List Char)} (sounds : soundAll run = true)
    (more : front = true → other = true) (read : runText? front run = some words) :
    ∃ found, runText? other run = some found ∧ found.toList.length ≤ words.toList.length := by
  obtain ⟨found, readToo⟩ := Option.isSome_iff_exists.mp (runText?_isSome sounds other)
  refine ⟨found, readToo, ?_⟩
  cases words with
  | some cs => cases found <;> simp
  | none =>
    have blank : runText? other run = some none := by
      cases front with
      | true =>
        rw [more rfl]
        exact read
      | false =>
        cases other with
        | false => exact read
        | true => exact runText?_false_eq_none read
    rw [blank] at readToo
    cases readToo
    exact Nat.le_refl 0

theorem runs_joined_fewer {front other : Bool} {texts : List (List Char)} {behind behindToo : Option (List (List Char))}
    (sounds : soundAll run = true) (more : front = true → other = true)
    (later : ∀ texts, behind = some texts → ∃ found, behindToo = some found ∧ found.length ≤ texts.length)
    (read : (runText? front run).bind (fun words => behind.map (words.toList ++ ·)) = some texts) :
    ∃ found, (runText? other run).bind (fun words => behindToo.map (words.toList ++ ·)) = some found ∧
      found.length ≤ texts.length := by
  obtain ⟨words, readRun, read⟩ := Option.bind_eq_some_iff.mp read
  obtain ⟨others, readBehind, rfl⟩ := Option.map_eq_some_iff.mp read
  obtain ⟨found, readRunToo, shorter⟩ := runText?_fewer sounds more readRun
  obtain ⟨foundBehind, readBehindToo, shorterToo⟩ := later others readBehind
  refine ⟨found.toList ++ foundBehind, by rw [readRunToo, Option.bind_some, readBehindToo]; rfl, ?_⟩
  rw [List.length_append, List.length_append]
  omega

theorem runsFrom_fewer {settled front other : Bool} {texts : List (List Char)} (run : List Node)
    (sounds : soundAll (run ++ nodes) = true) (more : front = true → other = true)
    (read : runsFrom settled front run nodes = some texts) :
    ∃ found, runsFrom true other run nodes = some found ∧ found.length ≤ texts.length := by
  induction nodes generalizing front other run texts with
  | nil =>
    rw [List.append_nil] at sounds
    obtain ⟨words, readRun, rfl⟩ := Option.map_eq_some_iff.mp read
    obtain ⟨found, readRunToo, shorter⟩ := runText?_fewer sounds more readRun
    exact ⟨found.toList, by rw [runsFrom, readRunToo]; rfl, shorter⟩
  | cons node nodes ih =>
    have parts := sounds
    rw [soundAll_append, soundAll, Bool.and_eq_true, Bool.and_eq_true] at parts
    cases node with
    | doctype => exact runs_joined_fewer parts.1 more (fun texts => ih [] parts.2.2 fun _ => rfl) read
    | element name attributes content =>
      exact runs_joined_fewer parts.1 more (fun texts => ih [] parts.2.2 fun _ => rfl) read
    | text raw =>
      rw [List.append_cons] at sounds
      exact ih (run ++ [.text raw]) sounds more read
    | cdata raw =>
      rw [List.append_cons] at sounds
      exact ih (run ++ [.cdata raw]) sounds more read

-- An element whose references have a meaning can still be read when it has been settled.
theorem mixedText?_settled_isSome (sounds : soundAll child.content = true) (read : (mixedText? child).isSome) :
    (mixedText? { child with settled := true }).isSome := by
  obtain ⟨text, read⟩ := Option.isSome_iff_exists.mp read
  obtain ⟨pairs, formed, read⟩ := Option.bind_eq_some_iff.mp read
  have short : ∃ texts, runsFrom child.settled true [] child.content = some texts ∧ texts.length ≤ 1 := by
    split at read
    · rename_i runs
      exact ⟨[], runs, Nat.zero_le 1⟩
    · rename_i cs runs
      exact ⟨[cs], runs, Nat.le_refl 1⟩
    · cases read
  obtain ⟨texts, runs, few⟩ := short
  obtain ⟨found, runsToo, fewer⟩ := runsFrom_fewer [] sounds (fun _ => rfl) runs
  rw [mixedText?, formed, Option.bind_some]
  simp only [runsToo]
  rcases found with _ | ⟨first, _ | ⟨second, others⟩⟩
  · rfl
  · rfl
  · simp only [List.length_cons] at fewer
    omega

end Harvester.Xml
