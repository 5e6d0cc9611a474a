import Harvester.Proofs.Xml.Runs
import Mathlib.Data.List.Forall2
namespace Harvester.Xml

-- The children of a record from a place on: `first` is the full name that began a list before it, if one did.
def childrenFrom (lists : List String) (settled : Bool) (first : Option (List Char)) (nodes : List Node) :
    Option (List Child) :=
  match first with
  | none => children? lists settled nodes
  | some name => childrenBehind name settled nodes

def isListed (lists : List String) (name : List Char) : Bool := lists.any fun l => localName name = l.toList

-- The full name that has begun a list when some nodes have been read.
def begun (lists : List String) (first : Option (List Char)) : List Node → Option (List Char)
  | [] => first
  | .element name _ _ :: rest => begun lists (first.or (if isListed lists name then some name else none)) rest
  | _ :: rest => begun lists first rest

-- The element of a child, which has forgotten whether it was settled.
def Child.node (child : Child) : Node := .element child.name child.attributes child.content

def elementNames : List Node → List (List Char)
  | [] => []
  | .element name _ _ :: rest => name :: elementNames rest
  | _ :: rest => elementNames rest

-- What may stand behind the first element of a list, which has this full name.
def mayFollow (first : List Char) : Node → Bool
  | .text raw => raw.all isSpace
  | .cdata _ => false
  | .doctype => true
  | .element name _ content => name = first || soundAll content

variable {lists : List String} {settled : Bool} {first : Option (List Char)} {front back nodes content : List Node}
  {name attributes full words more : List Char} {kids others : List Child} {before behind : List Node}

-- A node is refused, or it brings its element, if it is one, by itself and leaves the rest to be read.
theorem childrenFrom_cons (lists : List String) (settled : Bool) (first : Option (List Char)) (node : Node) :
    (∀ nodes, childrenFrom lists settled first (node :: nodes) = none) ∨
      ∃ kids, kids.map Child.node = [node].filter isElement ∧ ∀ nodes, childrenFrom lists settled first (node :: nodes) =
        (childrenFrom lists settled (begun lists first [node]) nodes).map (kids ++ ·) := by
  have silent (first : Option (List Char)) (nodes : List Node) : childrenFrom lists settled first nodes =
      (childrenFrom lists settled first nodes).map ([] ++ ·) := Option.map_id'.symm
  cases node with
  | text raw =>
    cases first with
    | none =>
      by_cases means : (resolve? raw).isSome = true
      · exact .inr ⟨[], rfl, fun nodes => (if_pos means).trans (silent none nodes)⟩
      · exact .inl fun nodes => if_neg means
    | some name =>
      by_cases blank : raw.all isSpace = true
      · exact .inr ⟨[], rfl, fun nodes => (if_pos blank).trans (silent (some name) nodes)⟩
      · exact .inl fun nodes => if_neg blank
  | cdata raw =>
    cases first with
    | none => exact .inr ⟨[], rfl, silent none⟩
    | some name => exact .inl fun _ => rfl
  | doctype =>
    cases first with
    | none => exact .inr ⟨[], rfl, silent none⟩
    | some name => exact .inr ⟨[], rfl, silent (some name)⟩
  | element name attributes content =>
    cases first with
    | none =>
      refine .inr ⟨[⟨name, attributes, content, settled⟩], rfl, fun nodes => ?_⟩
      rw [childrenFrom, children?, begun, begun, Option.none_or, isListed]
      split <;> rfl
    | some first =>
      by_cases same : name = first
      · refine .inr ⟨[⟨name, attributes, content, settled⟩], rfl, fun nodes => ?_⟩
        rw [childrenFrom, childrenBehind, if_pos same]
        rfl
      · by_cases sounds : soundAll content = true
        · refine .inr ⟨[⟨name, attributes, content, true⟩], rfl, fun nodes => ?_⟩
          rw [childrenFrom, childrenBehind, if_neg same, if_pos sounds]
          rfl
        · refine .inl fun nodes => ?_
          rw [childrenFrom, childrenBehind, if_neg same, if_neg sounds]

theorem begun_append (front back : List Node) :
    begun lists first (front ++ back) = begun lists (begun lists first front) back := by
  induction front generalizing first with
  | nil => rfl
  | cons node front ih => cases node <;> exact ih

theorem childrenFrom_append (lists : List String) (settled : Bool) (first : Option (List Char)) (front back : List Node) :
    childrenFrom lists settled first (front ++ back) =
      (childrenFrom lists settled first front).bind fun kids =>
        (childrenFrom lists settled (begun lists first front) back).map (kids ++ ·) := by
  induction front generalizing first with
  | nil => cases first <;> exact Option.map_id'.symm
  | cons node front ih =>
    have goes : begun lists first (node :: front) = begun lists (begun lists first [node]) front :=
      begun_append [node] front
    rw [List.cons_append, goes]
    rcases childrenFrom_cons lists settled first node with refused | ⟨kids, _, reads⟩
    · rw [refused, refused]
      rfl
    · rw [reads, reads, ih, Option.map_bind, Option.bind_map]
      refine congrArg _ (funext fun others => ?_)
      simp [Option.map_map, Function.comp_def]

-- What began a list is one of the elements, and its name is that of the list.
theorem isListed_begun (started : begun lists none nodes = some full) :
    isListed lists full = true ∧ full ∈ elementNames nodes := by
  have general (nodes : List Node) : ∀ first, begun lists first nodes = some full →
      first = some full ∨ isListed lists full = true ∧ full ∈ elementNames nodes := by
    induction nodes with
    | nil => exact fun first same => .inl same
    | cons node nodes ih =>
      intro first started
      cases node with
      | element name attributes content =>
        rcases ih _ started with here | ⟨listed, later⟩
        · cases first with
          | some other => exact .inl here
          | none =>
            rw [Option.none_or] at here
            split at here
            · rename_i listed
              cases here
              exact .inr ⟨listed, List.mem_cons_self⟩
            · cases here
        · exact .inr ⟨listed, List.mem_cons_of_mem _ later⟩
      | text raw | cdata raw | doctype => exact ih first started
  rcases general nodes none started with here | found
  · cases here
  · exact found

theorem begun_eq_none_iff :
    begun lists none nodes = none ↔ ∀ name ∈ elementNames nodes, isListed lists name = false := by
  constructor
  · intro quiet
    induction nodes with
    | nil => exact List.forall_mem_nil _
    | cons node nodes ih =>
      cases node with
      | element name attributes content =>
        rw [begun, Option.none_or] at quiet
        cases listed : isListed lists name with
        | true =>
          rw [listed, if_pos rfl] at quiet
          have stays (nodes : List Node) : begun lists (some name) nodes = some name := by
            induction nodes with
            | nil => rfl
            | cons node nodes ih => cases node <;> exact ih
          rw [stays] at quiet
          cases quiet
        | false =>
          rw [listed, if_neg Bool.false_ne_true] at quiet
          exact List.forall_mem_cons.mpr ⟨listed, ih quiet⟩
      | text raw | cdata raw | doctype => exact ih quiet
  · intro unlisted
    cases started : begun lists none nodes with
    | none => rfl
    | some full =>
      obtain ⟨listed, present⟩ := isListed_begun started
      rw [unlisted full present] at listed
      cases listed

-- The content of one element makes no difference to the other children, as long as its references keep a meaning.
theorem childrenFrom_swap
    (read : childrenFrom lists settled first (.element name attributes content :: back) = some kids) :
    ∃ mark others, kids = ⟨name, attributes, content, mark⟩ :: others ∧
      ∀ other, (soundAll content = true → soundAll other = true) →
        childrenFrom lists settled first (.element name attributes other :: back) =
          some (⟨name, attributes, other, mark⟩ :: others) := by
  cases first with
  | none =>
    rw [childrenFrom, children?] at read
    obtain ⟨others, readOthers, rfl⟩ := Option.map_eq_some_iff.mp read
    refine ⟨settled, others, rfl, fun other _ => ?_⟩
    rw [childrenFrom, children?, readOthers]
    rfl
  | some full =>
    rw [childrenFrom, childrenBehind] at read
    split at read
    · rename_i same
      obtain ⟨others, readOthers, rfl⟩ := Option.map_eq_some_iff.mp read
      refine ⟨settled, others, rfl, fun other _ => ?_⟩
      rw [childrenFrom, childrenBehind, if_pos same, readOthers]
      rfl
    · rename_i apart
      split at read
      · rename_i sounds
        obtain ⟨others, readOthers, rfl⟩ := Option.map_eq_some_iff.mp read
        refine ⟨true, others, rfl, fun other keeps => ?_⟩
        rw [childrenFrom, childrenBehind, if_neg apart, if_pos (keeps sounds), readOthers]
        rfl
      · cases read

theorem children?_swap
    (read : children? lists settled (front ++ .element name attributes content :: back) = some kids) :
    ∃ before mark behind, kids = before ++ ⟨name, attributes, content, mark⟩ :: behind ∧
      ∀ other, (soundAll content = true → soundAll other = true) →
        children? lists settled (front ++ .element name attributes other :: back) =
          some (before ++ ⟨name, attributes, other, mark⟩ :: behind) := by
  have parted (back : List Node) : children? lists settled (front ++ back) = _ :=
    childrenFrom_append lists settled none front back
  rw [parted] at read
  obtain ⟨before, readBefore, read⟩ := Option.bind_eq_some_iff.mp read
  obtain ⟨others, readBehind, rfl⟩ := Option.map_eq_some_iff.mp read
  obtain ⟨mark, behind, rfl, swaps⟩ := childrenFrom_swap readBehind
  refine ⟨before, mark, behind, rfl, fun other keeps => ?_⟩
  rw [parted, readBefore, Option.bind_some, swaps other keeps]
  rfl

theorem elementNames_append (front back : List Node) :
    elementNames (front ++ back) = elementNames front ++ elementNames back := by
  induction front with
  | nil => rfl
  | cons node front ih => cases node <;> simp [elementNames, ih]

theorem childrenFrom_nodes (read : childrenFrom lists settled first nodes = some kids) :
    kids.map Child.node = nodes.filter isElement := by
  induction nodes generalizing first kids with
  | nil => cases first <;> cases read <;> rfl
  | cons node nodes ih =>
    rcases childrenFrom_cons lists settled first node with refused | ⟨before, shown, reads⟩
    · rw [refused] at read
      cases read
    · rw [reads] at read
      obtain ⟨behind, readBehind, rfl⟩ := Option.map_eq_some_iff.mp read
      rw [List.map_append, shown, ih readBehind, ← List.filter_append, List.singleton_append]

theorem elementNames_filter (nodes : List Node) : elementNames (nodes.filter isElement) = elementNames nodes := by
  induction nodes with
  | nil => rfl
  | cons node nodes ih =>
    cases node with
    | element name attributes content => rw [List.filter_cons_of_pos rfl, elementNames, elementNames, ih]
    | text raw | cdata raw | doctype => exact ih

theorem childrenFrom_names (read : childrenFrom lists settled first nodes = some kids) :
    kids.map Child.name = elementNames nodes := by
  have names (kids : List Child) : elementNames (kids.map Child.node) = kids.map Child.name := by
    induction kids with
    | nil => rfl
    | cons child kids ih => rw [List.map_cons, Child.node, elementNames, ih, List.map_cons]
  rw [← elementNames_filter, ← childrenFrom_nodes read, names]

theorem children?_names (read : children? lists settled nodes = some kids) : kids.map Child.name = elementNames nodes :=
  childrenFrom_names (show childrenFrom lists settled none nodes = some kids from read)

-- Whether text may stand there: before a list any whose references have a meaning, in it blanks only.
def passes (first : Option (List Char)) (words : List Char) : Bool :=
  match first with
  | none => (resolve? words).isSome
  | some _ => words.all isSpace

theorem childrenFrom_wordNodes (words : List Char) (back : List Node) :
    childrenFrom lists settled first (wordNodes words ++ back) =
      if passes first words then childrenFrom lists settled first back else none := by
  cases words with
  | nil => cases first <;> rfl
  | cons c words => cases first <;> rfl

theorem passes_append (means : (resolve? words).isSome) (passing : passes first (words ++ more) = true) :
    passes first words = true ∧ passes first more = true := by
  cases first with
  | none =>
    obtain ⟨found, read⟩ := Option.isSome_iff_exists.mp means
    rw [passes, resolve?_append read, Option.isSome_map] at passing
    exact ⟨means, passing⟩
  | some name =>
    rw [passes, List.all_append, Bool.and_eq_true] at passing
    exact passing

theorem begun_wordNodes (words : List Char) : begun lists first (wordNodes words) = first := by
  cases words <;> rfl

-- A text may be parted where no reference is cut: the children are those before and those behind the place.
theorem children?_parted (means : (resolve? words).isSome)
    (read : children? lists settled (front ++ wordNodes (words ++ more) ++ back) = some kids) :
    ∃ before behind, kids = before ++ behind ∧
      childrenFrom lists settled none (front ++ wordNodes words) = some before ∧
      childrenFrom lists settled (begun lists none (front ++ wordNodes words)) (wordNodes more ++ back) = some behind := by
  have whole := childrenFrom_append lists settled none front (wordNodes (words ++ more) ++ back)
  rw [← List.append_assoc] at whole
  obtain ⟨before, readBefore, read⟩ := Option.bind_eq_some_iff.mp (whole.symm.trans read)
  obtain ⟨behind, readBehind, rfl⟩ := Option.map_eq_some_iff.mp read
  rw [childrenFrom_wordNodes] at readBehind
  split at readBehind
  · rename_i passing
    obtain ⟨here, later⟩ := passes_append means passing
    have alone : childrenFrom lists settled (begun lists none front) (wordNodes words) = some [] := by
      rw [← List.append_nil (wordNodes words), childrenFrom_wordNodes, if_pos here]
      cases begun lists none front <;> rfl
    refine ⟨before, behind, rfl, ?_, ?_⟩
    · rw [childrenFrom_append, readBefore, Option.bind_some, alone, Option.map_some, List.append_nil]
    · rw [begun_append, begun_wordNodes, childrenFrom_wordNodes, if_pos later, readBehind]
  · cases readBehind

theorem soundAll_wordNodes (words : List Char) : soundAll (wordNodes words) = (resolve? words).isSome := by
  cases words with
  | nil => rfl
  | cons c words => exact Bool.and_true _

theorem soundAll_parted (means : (resolve? words).isSome)
    (sounds : soundAll (front ++ wordNodes (words ++ more) ++ back) = true) :
    soundAll (front ++ wordNodes words) = true ∧ soundAll (wordNodes more ++ back) = true := by
  obtain ⟨found, read⟩ := Option.isSome_iff_exists.mp means
  rw [soundAll_append, soundAll_append, soundAll_wordNodes, resolve?_append read, Option.isSome_map] at sounds
  simp only [Bool.and_eq_true] at sounds
  rw [soundAll_append, soundAll_append, soundAll_wordNodes, soundAll_wordNodes]
  simp [sounds.1.1, sounds.1.2, sounds.2, means]

theorem childrenBehind_isSome (full : List Char) (settled : Bool) (nodes : List Node) :
    (childrenBehind full settled nodes).isSome = nodes.all (mayFollow full) := by
  induction nodes with
  | nil => rfl
  | cons node nodes ih =>
    cases node with
    | text raw =>
      rw [childrenBehind, List.all_cons, mayFollow]
      split <;> simp [*]
    | cdata raw => rfl
    | doctype => exact ih
    | element name attributes content =>
      rw [childrenBehind, List.all_cons, mayFollow, ← ih]
      by_cases same : name = full
      · simp [same]
      · by_cases sounds : soundAll content = true
        · simp [same, sounds]
        · simp [same, sounds]

-- The same element, which may have been settled unless it is of the list.
def Settles (full : List Char) (child other : Child) : Prop :=
  other = child ∨ child.name ≠ full ∧ soundAll child.content = true ∧ other = { child with settled := true }

-- Where a list begins earlier, the same children are read, if they may stand behind its first element at all.
theorem childrenBehind_settles (listed : isListed lists full = true)
    (named : ∀ name ∈ elementNames nodes, isListed lists name = true → name = full)
    (follows : nodes.all (mayFollow full) = true) (read : children? lists settled nodes = some kids) :
    ∃ others, childrenBehind full settled nodes = some others ∧ List.Forall₂ (Settles full) kids others := by
  induction nodes generalizing kids with
  | nil =>
    cases read
    exact ⟨[], rfl, .nil⟩
  | cons node nodes ih =>
    rw [List.all_cons, Bool.and_eq_true] at follows
    cases node with
    | text raw =>
      rw [children?] at read
      split at read
      · have blank : raw.all isSpace = true := follows.1
        rw [childrenBehind, if_pos blank]
        exact ih named follows.2 read
      · cases read
    | cdata raw => cases follows.1
    | doctype => exact ih named follows.2 read
    | element name attributes content =>
      obtain ⟨here, later⟩ := List.forall_mem_cons.mp named
      rw [children?] at read
      obtain ⟨kids, readKids, rfl⟩ := Option.map_eq_some_iff.mp read
      split at readKids
      · rename_i isList
        cases here isList
        refine ⟨_, ?_, List.forall₂_same.mpr fun child _ => .inl rfl⟩
        rw [childrenBehind, if_pos rfl, readKids]
        rfl
      · rename_i noList
        have apart : name ≠ full := fun same => noList (same ▸ listed)
        have sounds : soundAll content = true := by
          have either := follows.1
          rw [mayFollow, Bool.or_eq_true, decide_eq_true_eq] at either
          exact either.resolve_left apart
        obtain ⟨others, readOthers, settles⟩ := ih later follows.2 readKids
        refine ⟨⟨name, attributes, content, true⟩ :: others, ?_, .cons (.inr ⟨apart, sounds, rfl⟩) settles⟩
        rw [childrenBehind, if_neg apart, if_pos sounds, readOthers]
        rfl

-- An element of no list is one more child, wherever it is put.
theorem children?_unlisted (attributes : List Char) (apart : isListed lists name = false) (sounds : soundAll content = true)
    (front : childrenFrom lists settled none before = some kids)
    (back : childrenFrom lists settled (begun lists none before) behind = some others) : ∃ mark,
      children? lists settled (before ++ .element name attributes content :: behind) =
        some (kids ++ ⟨name, attributes, content, mark⟩ :: others) := by
  have whole := childrenFrom_append lists settled none before
    (.element name attributes content :: behind)
  rw [front, Option.bind_some] at whole
  cases started : begun lists none before with
  | none =>
    rw [started] at back whole
    refine ⟨settled, whole.trans ?_⟩
    have plain : ¬ (lists.any fun l => localName name = l.toList) = true := by
      rw [← isListed, apart]
      exact Bool.false_ne_true
    have readBack : children? lists settled behind = some others := back
    rw [childrenFrom, children?, if_neg plain, readBack]
    rfl
  | some full =>
    rw [started] at back whole
    have other : name ≠ full := by
      rintro rfl
      rw [(isListed_begun started).1] at apart
      cases apart
    have readBack : childrenBehind full settled behind = some others := back
    refine ⟨true, whole.trans ?_⟩
    rw [childrenFrom, childrenBehind, if_neg other, if_pos sounds, readBack]
    rfl

-- One of a list goes on with the list, or begins it where it is put.
theorem children?_listed (attributes : List Char) (content : List Node) (listed : isListed lists name = true)
    (alike : ∀ full ∈ elementNames (before ++ behind), isListed lists full = true → full = name)
    (follows : name ∈ elementNames before ∨ behind.all (mayFollow name) = true)
    (front : childrenFrom lists settled none before = some kids)
    (back : childrenFrom lists settled (begun lists none before) behind = some others) : ∃ settledOthers,
      children? lists settled (before ++ .element name attributes content :: behind) =
        some (kids ++ ⟨name, attributes, content, settled⟩ :: settledOthers) ∧
      List.Forall₂ (Settles name) others settledOthers := by
  have whole := childrenFrom_append lists settled none before
    (.element name attributes content :: behind)
  rw [front, Option.bind_some] at whole
  cases started : begun lists none before with
  | none =>
    rw [started] at back whole
    have new : name ∉ elementNames before := by
      intro present
      rw [begun_eq_none_iff.mp started name present] at listed
      cases listed
    have only : ∀ full ∈ elementNames behind, isListed lists full = true → full = name :=
      fun full present => alike full (by rw [elementNames_append]; exact List.mem_append_right _ present)
    obtain ⟨settledOthers, readBehind, settles⟩ :=
      childrenBehind_settles listed only (follows.resolve_left new) back
    refine ⟨settledOthers, whole.trans ?_, settles⟩
    have isList : (lists.any fun l => localName name = l.toList) = true := listed
    rw [childrenFrom, children?, if_pos isList, readBehind]
    rfl
  | some full =>
    rw [started] at back whole
    obtain ⟨listedToo, present⟩ := isListed_begun started
    have same : full = name :=
      alike full (by rw [elementNames_append]; exact List.mem_append_left _ present) listedToo
    have readBack : childrenBehind full settled behind = some others := back
    refine ⟨others, whole.trans ?_, List.forall₂_same.mpr fun child _ => .inl rfl⟩
    rw [childrenFrom, childrenBehind, if_pos same.symm, readBack]
    rfl

-- It cannot begin the list before something that may not follow in it.
theorem children?_refused (listed : isListed lists name = true) (new : begun lists none before = none)
    (stops : ¬ behind.all (mayFollow name) = true) :
    children? lists settled (before ++ .element name attributes content :: behind) = none := by
  have whole := childrenFrom_append lists settled none before
    (.element name attributes content :: behind)
  refine whole.trans ?_
  have none : childrenBehind name settled behind = none := by
    rw [← childrenBehind_isSome name settled] at stops
    exact Option.not_isSome_iff_eq_none.mp stops
  have isList : (lists.any fun l => localName name = l.toList) = true := listed
  rw [new, childrenFrom, childrenFrom, children?, if_pos isList, none]
  cases children? lists settled before <;> rfl

end Harvester.Xml
