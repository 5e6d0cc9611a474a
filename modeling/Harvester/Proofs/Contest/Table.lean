import Harvester.Proofs.Source.Topics
import Harvester.Proofs.Text.Patterns
import Harvester.Proofs.Text.Words
namespace Harvester.Html.Tree

-- Whatever the texts in a node are, its words are shown with single spaces between them.
theorem shownText_neat (t : Tree) : Text.Neat t.shownText.toList := by
  unfold shownText
  rw [String.toList_intercalate, List.map_map]
  have unwrapped : String.toList ∘ String.ofList = id := funext fun cs => String.toList_ofList
  rw [unwrapped, List.map_id]
  refine Text.neat_intercalate fun w present => ?_
  obtain ⟨s, _, inside⟩ := List.mem_flatMap.mp present
  exact Text.words_words s.toList w inside

end Harvester.Html.Tree

namespace Harvester.Contest

open Html Text

variable {cs rest other : List Char}

-- What is left when the start is taken away as often as it stands in front.
def Unstarted (cs rest : List Char) : Prop :=
  ∃ times, cs = (List.replicate times linkStart).flatten ++ rest ∧ ¬ linkStart <+: rest

-- What is left when the slashes behind are taken away.
def Unslashed (cs rest : List Char) : Prop :=
  ∃ times, cs = rest ++ List.replicate times '/' ∧ rest.getLast? ≠ some '/'

def IsSlug (href slug : List Char) : Prop := ∃ rest, Unstarted href rest ∧ Unslashed rest slug

theorem Unstarted.unique (first : Unstarted cs rest) (second : Unstarted cs other) : rest = other := by
  obtain ⟨m, rfl, stop⟩ := first
  obtain ⟨n, parts, last⟩ := second
  induction m generalizing n with
  | zero =>
    cases n with
    | zero => exact parts
    | succ n =>
      rw [List.replicate_succ, List.flatten_cons, List.append_assoc] at parts
      exact absurd ⟨_, parts.symm⟩ stop
  | succ m ih =>
    rw [List.replicate_succ, List.flatten_cons, List.append_assoc] at parts
    cases n with
    | zero => exact absurd ⟨_, parts⟩ last
    | succ n =>
      rw [List.replicate_succ, List.flatten_cons, List.append_assoc] at parts
      exact ih n (List.append_cancel_left parts)

theorem dropStarts_unstarted {fuel : Nat} (enough : cs.length ≤ fuel) :
    Unstarted cs (dropStarts linkStart fuel cs) := by
  induction fuel generalizing cs with
  | zero =>
    cases List.eq_nil_of_length_eq_zero (Nat.le_zero.mp enough)
    exact ⟨0, rfl, by decide⟩
  | succ fuel ih =>
    rw [dropStarts]
    cases found : dropPattern? linkStart cs with
    | none => exact ⟨0, rfl, dropPattern?_eq_none_iff.mp found⟩
    | some behind =>
      cases dropPattern?_eq_some_iff.mp found
      have shorter : behind.length ≤ fuel := by
        rw [List.length_append, show linkStart.length = 10 from rfl] at enough
        omega
      obtain ⟨times, parts, stop⟩ := ih shorter
      refine ⟨times + 1, ?_, stop⟩
      rw [List.replicate_succ, List.flatten_cons, List.append_assoc, ← parts]

theorem unslashed_iff : Unslashed cs rest ↔ (cs.reverse.dropWhile (· == '/')).reverse = rest := by
  constructor
  · rintro ⟨times, rfl, stop⟩
    rw [List.reverse_append, List.reverse_replicate, List.dropWhile_append_of_pos (by simp), List.reverse_eq_iff]
    cases reversed : rest.reverse with
    | nil => rfl
    | cons c others =>
      rw [← List.head?_reverse, reversed, List.head?_cons] at stop
      exact List.dropWhile_cons_of_neg (by simpa using stop)
  · rintro rfl
    refine ⟨(cs.reverse.takeWhile (· == '/')).length, ?_, ?_⟩
    · have slashes : cs.reverse.takeWhile (· == '/') = List.replicate (cs.reverse.takeWhile (· == '/')).length '/' :=
        List.eq_replicate_of_mem fun c present => by simpa using List.mem_takeWhile_imp present
      rw [← List.reverse_replicate, ← slashes, ← List.reverse_append, List.takeWhile_append_dropWhile,
        List.reverse_reverse]
    · rw [List.getLast?_reverse]
      intro first
      have stop := List.head?_dropWhile_not (· == '/') cs.reverse
      rw [first] at stop
      cases stop

theorem isSlug_iff {href slug : List Char} : IsSlug href slug ↔ slugOf href = slug := by
  have left := dropStarts_unstarted (Nat.le_refl href.length)
  constructor
  · rintro ⟨rest, unstarted, unslashed⟩
    cases unstarted.unique left
    exact unslashed_iff.mp unslashed
  · intro named
    exact ⟨_, left, unslashed_iff.mpr named⟩

-- A slug stands at the front of a text that does not begin with the start.
theorem IsSlug.stripped {href slug : List Char} (isSlug : IsSlug href slug) :
    ¬ linkStart <+: slug ∧ slug.getLast? ≠ some '/' := by
  obtain ⟨_, ⟨_, _, stop⟩, _, rfl, last⟩ := isSlug
  exact ⟨fun begins => stop (begins.trans (List.prefix_append slug _)), last⟩

-- A link to a contest, and its target.
def IsLink (a : Tree) (href : String) : Prop := a.attribute? "href" = some href ∧ linkStart <+: href.toList

def FirstLink (cell a : Tree) (href : String) : Prop :=
  ∃ before behind, cell.elements "a" = before ++ a :: behind ∧ IsLink a href ∧ ∀ b ∈ before, ∀ target, ¬ IsLink b target

theorem link_eq_some_iff {a : Tree} {link : Link} :
    ((a.attribute? "href").bind fun href =>
      if startsWith linkStart href.toList then some (⟨href, a.shownText⟩ : Link) else none) = some link ↔
      IsLink a link.href ∧ link.text = a.shownText := by
  rw [Option.bind_eq_some_iff]
  constructor
  · rintro ⟨href, target, kept⟩
    split at kept
    · rename_i begins
      cases kept
      exact ⟨⟨target, List.isPrefixOf_iff_prefix.mp begins⟩, rfl⟩
    · cases kept
  · rintro ⟨⟨target, begins⟩, shown⟩
    refine ⟨link.href, target, ?_⟩
    rw [if_pos (show startsWith linkStart link.href.toList = true from List.isPrefixOf_iff_prefix.mpr begins), ← shown]

theorem link_eq_none_iff {a : Tree} :
    ((a.attribute? "href").bind fun href =>
      if startsWith linkStart href.toList then some (⟨href, a.shownText⟩ : Link) else none) = none ↔
      ∀ href, ¬ IsLink a href := by
  constructor
  · intro none href linked
    rw [link_eq_some_iff.mpr (⟨linked, rfl⟩ : IsLink a (Link.mk href a.shownText).href ∧ _)] at none
    cases none
  · intro unlinked
    refine Option.eq_none_iff_forall_ne_some.mpr fun link found => ?_
    exact unlinked link.href (link_eq_some_iff.mp found).1

theorem linkOf?_eq_some_iff {cell : Tree} {link : Link} :
    linkOf? cell = some link ↔ ∃ a, FirstLink cell a link.href ∧ link.text = a.shownText := by
  unfold linkOf?
  simp only [List.findSome?_eq_some_iff, link_eq_some_iff, link_eq_none_iff]
  constructor
  · rintro ⟨before, a, behind, parts, ⟨linked, shown⟩, unlinked⟩
    exact ⟨a, ⟨before, behind, parts, linked, unlinked⟩, shown⟩
  · rintro ⟨a, ⟨before, behind, parts, linked, unlinked⟩, shown⟩
    exact ⟨before, a, behind, parts, ⟨linked, shown⟩, unlinked⟩

theorem linkOf?_eq_none_iff {cell : Tree} :
    linkOf? cell = none ↔ ∀ a ∈ cell.elements "a", ∀ href, ¬ IsLink a href := by
  unfold linkOf?
  simp only [List.findSome?_eq_none_iff, link_eq_none_iff]

-- The text of a cell, when there is any.
def shownIn? (cell : Option Tree) : Option String := (cell.map Tree.shownText).filter fun s => !s.isEmpty

-- The first time in a cell, when it is readable.
def startIn? (cell : Tree) : Option Instant :=
  (cell.elements "time").head?.bind fun t => Instant.ofTable? (Text.trim t.shownText.toList)

-- What a row announces: everything but the link may be missing or unreadable.
inductive Announces (origin : String) (row : Tree) : Contest → Prop
  | row (cells : row.elements "td" = first :: second :: more) (linked : FirstLink second a href)
      (named : IsSlug href.toList name) (filled : name ≠ []) :
      Announces origin row
        { slug := String.ofList name, title := a.shownText, url := origin ++ href, startTime := startIn? first,
          duration := shownIn? more[0]?, ratedRange := shownIn? more[1]? }

-- What is wrong with a row, the first thing first.
inductive Spoils (row : Tree) (index : Nat) : Fault → Prop
  | fewCells (few : (row.elements "td").length < 2) : Spoils row index (.fewCells index (row.elements "td").length)
  | noLink (cells : row.elements "td" = first :: second :: more)
      (unlinked : ∀ a ∈ second.elements "a", ∀ href, ¬ IsLink a href) : Spoils row index (.noLink index)
  | noSlug (cells : row.elements "td" = first :: second :: more) (linked : FirstLink second a href)
      (nameless : IsSlug href.toList []) : Spoils row index (.noSlug index)

-- What a row must have: two cells, a link to a contest in the second, and a slug in the first such link.
def IsGood (row : Tree) : Prop :=
  ∃ first second more a href, row.elements "td" = first :: second :: more ∧ FirstLink second a href ∧
    ¬ IsSlug href.toList []

variable {origin : String} {row : Tree} {index : Nat} {contest : Contest} {fault : Fault}

theorem shown?_cellOf (cells : List Tree) (k : Nat) : shown? (cells.map cellOf)[k]? = shownIn? cells[k]? := by
  rw [List.getElem?_map]
  cases cells[k]? <;> rfl

theorem startIn?_cellOf (cell : Tree) :
    ((cellOf cell).time.bind fun s => Instant.ofTable? (Text.trim s.toList)) = startIn? cell := by
  unfold startIn? cellOf
  cases (cell.elements "time").head? <;> rfl

theorem ofRow_fewCells {cells : Row} (few : cells.length < 2) :
    ofRow origin index cells = .error (.fewCells index cells.length) := by
  match cells with
  | [] | [_] => rfl
  | _ :: _ :: _ => exact absurd few (by simp)

theorem cells_cases (cells : List α) : cells.length < 2 ∨ ∃ first second more, cells = first :: second :: more := by
  match cells with
  | [] | [_] => exact .inl (by simp)
  | first :: second :: more => exact .inr ⟨first, second, more, rfl⟩

theorem ofRow_ok_iff :
    ofRow origin index ((row.elements "td").map cellOf) = .ok contest ↔ Announces origin row contest := by
  constructor
  · intro given
    rcases cells_cases (row.elements "td") with few | ⟨first, second, more, cells⟩
    · rw [ofRow_fewCells (by rwa [List.length_map])] at given
      cases given
    · rw [cells, List.map_cons, List.map_cons, ofRow] at given
      cases found : (cellOf second).link with
      | none =>
        rw [found] at given
        cases given
      | some link =>
        obtain ⟨a, linked, shown⟩ := linkOf?_eq_some_iff.mp found
        rw [found] at given
        dsimp only at given
        split at given
        · cases given
        · rename_i filled
          cases given
          rw [shown, startIn?_cellOf, shown?_cellOf, shown?_cellOf]
          exact .row cells linked (isSlug_iff.mpr rfl) (by simpa using filled)
  · intro announced
    cases announced with
    | @row first second more a href name cells linked named filled => _
    have found : (cellOf second).link = some ⟨href, a.shownText⟩ := linkOf?_eq_some_iff.mpr ⟨a, linked, rfl⟩
    rw [cells, List.map_cons, List.map_cons, ofRow, found]
    simp only [isSlug_iff.mp named, List.isEmpty_iff, filled, if_false, shown?_cellOf, startIn?_cellOf]

theorem ofRow_error_iff :
    ofRow origin index ((row.elements "td").map cellOf) = .error fault ↔ Spoils row index fault := by
  constructor
  · intro given
    rcases cells_cases (row.elements "td") with few | ⟨first, second, more, cells⟩
    · rw [ofRow_fewCells (by rwa [List.length_map]), List.length_map] at given
      cases given
      exact .fewCells few
    · rw [cells, List.map_cons, List.map_cons, ofRow] at given
      cases found : (cellOf second).link with
      | none =>
        rw [found] at given
        cases given
        exact .noLink cells (linkOf?_eq_none_iff.mp found)
      | some link =>
        obtain ⟨a, linked, _⟩ := linkOf?_eq_some_iff.mp found
        rw [found] at given
        dsimp only at given
        split at given
        · rename_i nameless
          cases given
          exact .noSlug cells linked (isSlug_iff.mpr (List.isEmpty_iff.mp nameless))
        · cases given
  · intro spoils
    cases spoils with
    | fewCells few => rw [ofRow_fewCells (by rwa [List.length_map]), List.length_map]
    | @noLink first second more cells unlinked =>
      have found : (cellOf second).link = none := linkOf?_eq_none_iff.mpr unlinked
      rw [cells, List.map_cons, List.map_cons, ofRow, found]
    | @noSlug first second more a href cells linked nameless =>
      have found : (cellOf second).link = some ⟨href, a.shownText⟩ := linkOf?_eq_some_iff.mpr ⟨a, linked, rfl⟩
      rw [cells, List.map_cons, List.map_cons, ofRow, found]
      simp only [isSlug_iff.mp nameless]
      rfl

theorem isGood_iff (origin : String) : IsGood row ↔ ∃ contest, Announces origin row contest := by
  constructor
  · rintro ⟨first, second, more, a, href, cells, linked, named⟩
    exact ⟨_, .row cells linked (isSlug_iff.mpr rfl) fun empty => named (isSlug_iff.mpr empty)⟩
  · rintro ⟨contest, announced⟩
    cases announced with
    | @row first second more a href name cells linked named filled =>
      refine ⟨first, second, more, a, href, cells, linked, fun empty => filled ?_⟩
      rw [← isSlug_iff.mp named, isSlug_iff.mp empty]

def cellsOf (row : Tree) : Row := (row.elements "td").map cellOf

theorem ofRows_cons (origin : String) (index : Nat) (row : Tree) (rest : List Tree) :
    ofRows origin index ((row :: rest).map cellsOf) =
      (ofRow origin index (cellsOf row)).bind fun contest =>
        (ofRows origin (index + 1) (rest.map cellsOf)).map (contest :: ·) := by
  rw [List.map_cons, ofRows]
  cases ofRow origin index (cellsOf row) with
  | error fault => rfl
  | ok contest => cases ofRows origin (index + 1) (rest.map cellsOf) <;> rfl

theorem ofRows_ok_iff {rows : List Tree} {contests : List Contest} :
    ofRows origin index (rows.map cellsOf) = .ok contests ↔ List.Forall₂ (Announces origin) rows contests := by
  induction rows generalizing index contests with
  | nil =>
    rw [List.map_nil, ofRows, List.forall₂_nil_left_iff, Except.ok.injEq]
    exact eq_comm
  | cons row rest ih =>
    rw [ofRows_cons, List.forall₂_cons_left_iff]
    constructor
    · intro given
      cases made : ofRow origin index (cellsOf row) with
      | error fault =>
        rw [made] at given
        cases given
      | ok contest =>
        cases later : ofRows origin (index + 1) (rest.map cellsOf) with
        | error fault =>
          rw [made, later] at given
          cases given
        | ok others =>
          rw [made, later] at given
          cases given
          exact ⟨contest, others, ofRow_ok_iff.mp made, ih.mp later, rfl⟩
    · rintro ⟨contest, others, announced, later, rfl⟩
      have made : ofRow origin index (cellsOf row) = .ok contest := ofRow_ok_iff.mpr announced
      rw [made, ih.mpr later]
      rfl

-- The rows before the first bad one are good, and what is wrong with it is the answer.
theorem ofRows_error_iff {rows : List Tree} :
    ofRows origin index (rows.map cellsOf) = .error fault ↔ ∃ before row behind, rows = before ++ row :: behind ∧
      (∀ earlier ∈ before, IsGood earlier) ∧ Spoils row (index + before.length) fault := by
  induction rows generalizing index with
  | nil =>
    constructor
    · intro given
      cases given
    · rintro ⟨before, row, behind, parts, _⟩
      exact absurd parts.symm (List.append_ne_nil_of_right_ne_nil before (List.cons_ne_nil row behind))
  | cons row rest ih =>
    rw [ofRows_cons]
    constructor
    · intro given
      cases made : ofRow origin index (cellsOf row) with
      | error found =>
        rw [made] at given
        cases given
        exact ⟨[], row, rest, rfl, List.forall_mem_nil _, ofRow_error_iff.mp made⟩
      | ok contest =>
        rw [made] at given
        cases later : ofRows origin (index + 1) (rest.map cellsOf) with
        | ok contests =>
          rw [later] at given
          cases given
        | error found =>
          rw [later] at given
          cases given
          obtain ⟨before, bad, behind, rfl, good, spoils⟩ := ih.mp later
          refine ⟨row :: before, bad, behind, rfl, ?_, ?_⟩
          · exact List.forall_mem_cons.mpr ⟨(isGood_iff origin).mpr ⟨contest, ofRow_ok_iff.mp made⟩, good⟩
          · rwa [List.length_cons, Nat.add_comm before.length, ← Nat.add_assoc]
    · rintro ⟨before, bad, behind, parts, good, spoils⟩
      cases before with
      | nil =>
        cases parts
        have made : ofRow origin index (cellsOf row) = .error fault := ofRow_error_iff.mpr spoils
        rw [made]
        rfl
      | cons first before =>
        cases parts
        obtain ⟨firstGood, laterGood⟩ := List.forall_mem_cons.mp good
        obtain ⟨contest, announced⟩ := (isGood_iff origin).mp firstGood
        have made : ofRow origin index (cellsOf row) = .ok contest := ofRow_ok_iff.mpr announced
        rw [List.length_cons, Nat.add_comm before.length, ← Nat.add_assoc] at spoils
        rw [made, ih.mpr ⟨before, bad, behind, rfl, laterGood, spoils⟩]
        rfl

-- The rows of the table of upcoming contests: all table rows within a table body.
def rows? (page : String) : Option (List Tree) :=
  ((document page).withId? "contest-table-upcoming" "tbody" false).map fun (inside, table) =>
    table.elementsWithin "tbody" "tr" inside

theorem ofPage_rows (origin page : String) : ofPage origin page = match rows? page with
    | none => .error .noTable
    | some rows => ofRows origin 0 (rows.map cellsOf) := by
  unfold ofPage ofTable tableOf? rows?
  cases (document page).withId? "contest-table-upcoming" "tbody" false <;> rfl

theorem ofPage_ok_iff {page : String} {contests : List Contest} : ofPage origin page = .ok contests ↔
    ∃ rows, rows? page = some rows ∧ List.Forall₂ (Announces origin) rows contests := by
  rw [ofPage_rows]
  cases rows? page with
  | none => simp
  | some rows => simp [ofRows_ok_iff]

theorem ofPage_error_iff {page : String} : ofPage origin page = .error fault ↔
    (rows? page = none ∧ fault = .noTable) ∨
      ∃ before row behind, rows? page = some (before ++ row :: behind) ∧ (∀ earlier ∈ before, IsGood earlier) ∧
        Spoils row before.length fault := by
  rw [ofPage_rows]
  cases rows? page with
  | none => simp [eq_comm]
  | some rows => simp [ofRows_error_iff]

theorem announces_each {rows : List Tree} (origin : String) :
    (∃ contests, List.Forall₂ (Announces origin) rows contests) ↔ ∀ row ∈ rows, IsGood row := by
  induction rows with
  | nil => simp
  | cons row rest ih =>
    rw [List.forall_mem_cons, ← ih, isGood_iff origin]
    constructor
    · rintro ⟨_, announced⟩
      cases announced with
      | cons first later => exact ⟨⟨_, first⟩, ⟨_, later⟩⟩
    · rintro ⟨⟨contest, first⟩, ⟨contests, later⟩⟩
      exact ⟨contest :: contests, .cons first later⟩

-- A text that is absent rather than empty.
def IsText (s : String) : Prop := s ≠ "" ∧ Neat s.toList

-- How the texts of every announced contest look.
structure Proper (contest : Contest) : Prop where
  named : contest.slug ≠ ""
  unstarted : ¬ linkStart <+: contest.slug.toList
  unslashed : contest.slug.toList.getLast? ≠ some '/'
  title : Neat contest.title.toList
  duration : ∀ s, contest.duration = some s → IsText s
  ratedRange : ∀ s, contest.ratedRange = some s → IsText s

theorem shownIn?_isText {cell : Option Tree} {s : String} (shown : shownIn? cell = some s) : IsText s := by
  obtain ⟨found, filled⟩ := Option.filter_eq_some_iff.mp shown
  obtain ⟨t, _, rfl⟩ := Option.map_eq_some_iff.mp found
  exact ⟨by simpa using filled, t.shownText_neat⟩

theorem Announces.proper (announced : Announces origin row contest) : Proper contest := by
  cases announced with
  | @row first second more a href name cells linked named filled =>
    obtain ⟨unstarted, unslashed⟩ := named.stripped
    refine ⟨by simpa using filled, ?_, ?_, a.shownText_neat, fun s shown => shownIn?_isText shown,
      fun s shown => shownIn?_isText shown⟩
    · rwa [String.toList_ofList]
    · rwa [String.toList_ofList]

-- A page gives all contests of its table or none: one contest for each row, in the order of the rows, when every row
-- is good; else the table is missing, or the first bad row is what is reported. Only a missing cell, link or slug is
-- bad: the time, the duration and the range may be missing.
theorem ofPage_all_or_nothing (origin page : String) :
    ((∃ contests, ofPage origin page = .ok contests) ↔ ∃ rows, rows? page = some rows ∧ ∀ row ∈ rows, IsGood row) ∧
    (∀ contests, ofPage origin page = .ok contests → ∃ rows, rows? page = some rows ∧
      List.Forall₂ (fun row contest => Announces origin row contest ∧ Proper contest) rows contests) ∧
    (∀ fault, ofPage origin page = .error fault ↔ (rows? page = none ∧ fault = .noTable) ∨
      ∃ before row behind, rows? page = some (before ++ row :: behind) ∧ (∀ earlier ∈ before, IsGood earlier) ∧
        Spoils row before.length fault) ∧
    ∀ fault, ofPage origin page = .error fault → ∀ pageUrl,
      Atcoder.contents pageUrl origin page = .error (.markup pageUrl fault.message) := by
  refine ⟨?_, ?_, fun fault => ofPage_error_iff, ?_⟩
  · simp only [ofPage_ok_iff]
    rw [exists_comm]
    refine exists_congr fun rows => ?_
    rw [exists_and_left, announces_each]
  · intro contests given
    obtain ⟨rows, found, announced⟩ := ofPage_ok_iff.mp given
    exact ⟨rows, found, announced.imp fun _ _ made => ⟨made, made.proper⟩⟩
  · intro fault given pageUrl
    unfold Atcoder.contents
    rw [given]

def outcome (answer : Except ε α) : ε ⊕ α :=
  match answer with
  | .error fault => .inl fault
  | .ok value => .inr value

theorem outcome_injective {answer expected : Except ε α} (same : outcome answer = outcome expected) :
    answer = expected := by
  cases answer with
  | error fault => cases expected <;> cases same; rfl
  | ok value => cases expected <;> cases same; rfl

-- A start that is repeated, slashes behind, and no readable time.
def looseTable : String :=
  "<table id=contest-table-upcoming><tr><td><time>soon<td><a href=/contests//contests/x//>X\n 1</a><td> 2 h"

-- A good row in front of one without a link.
def spoiltTable : String := "<table id=contest-table-upcoming><tr><td>1<td><a href=/contests/x>X</a><tr><td><td>"

theorem ofPage_all_or_nothing_rows :
    (∃ rows, rows? looseTable = some rows ∧ List.Forall₂ (fun row contest => Announces "o" row contest ∧ Proper contest)
        rows [⟨"x", "X 1", "o/contests//contests/x//", none, some "2 h", none⟩]) ∧
      (∃ before row behind, rows? spoiltTable = some (before ++ row :: behind) ∧ (∀ earlier ∈ before, IsGood earlier) ∧
        Spoils row before.length (.noLink 1)) ∧
      Atcoder.contents "u" "o" spoiltTable = .error (.markup "u" "row 1 has no contest link") := by
  have made : ofPage "o" looseTable = .ok [⟨"x", "X 1", "o/contests//contests/x//", none, some "2 h", none⟩] :=
    outcome_injective (by decide +kernel)
  have refused : ofPage "o" spoiltTable = .error (.noLink 1) := outcome_injective (by decide +kernel)
  obtain ⟨_, _, first, reported⟩ := ofPage_all_or_nothing "o" spoiltTable
  refine ⟨(ofPage_all_or_nothing "o" looseTable).2.1 _ made, ?_, reported _ refused "u"⟩
  rcases (first _).mp refused with ⟨_, other⟩ | found
  · cases other
  · exact found

end Harvester.Contest
