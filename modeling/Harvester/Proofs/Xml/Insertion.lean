import Harvester.Proofs.Xml.Markup
namespace Harvester.Xml

-- The elements that are open behind some pieces, the innermost first. Behind the end of the root nothing is open.
def openAfter (stack : List Opened) : List Piece → Option (List Opened)
  | [] => some stack
  | .broken :: _ => none
  | .text raw :: rest => (place (.text raw) stack).bind fun stack => openAfter stack rest
  | .cdata raw :: rest => (place (.cdata raw) stack).bind fun stack => openAfter stack rest
  | .doctype :: rest => (place .doctype stack).bind fun stack => openAfter stack rest
  | .start name attributes :: rest => openAfter (⟨name, attributes, []⟩ :: stack) rest
  | .close name :: rest =>
    match stack with
    | top :: parent :: others =>
      if top.name = name then
        openAfter (parent.add (.element top.name top.attributes top.content.reverse) :: others) rest
      else none
    | _ => none

-- What comes of a document when an element has ended: the root is the document.
def closed (node : Node) (below : List Opened) (rest : List Piece) : Option Node :=
  match below with
  | [] => some node
  | parent :: others => rootFrom (parent.add node :: others) rest

-- Text and CDATA pieces, and the nodes they become.
inductive Flat : List Piece → List Node → Prop
  | nil : Flat [] []
  | text (behind : Flat kept nodes) : Flat (.text raw :: kept) (.text raw :: nodes)
  | cdata (behind : Flat kept nodes) : Flat (.cdata raw :: kept) (.cdata raw :: nodes)

-- Text as it is written; where there is none there is no node.
def wordNodes (words : List Char) : List Node := if words.isEmpty then [] else [.text words]

variable {stack after below : List Opened} {top : Opened} {front back inner pieces : List Piece}
  {name attributes content raw cs : List Char} {nodes : List Node} {tree : Node}

theorem rootFrom_append (opened : openAfter stack front = some after) (back : List Piece) :
    rootFrom stack (front ++ back) = rootFrom after back := by
  induction front generalizing stack with
  | nil =>
    cases opened
    rfl
  | cons piece front ih =>
    cases piece with
    | broken => cases opened
    | start name attributes => exact ih opened
    | text raw | cdata raw | doctype =>
      rw [openAfter] at opened
      obtain ⟨placed, here, opened⟩ := Option.bind_eq_some_iff.mp opened
      rw [List.cons_append, rootFrom, here, Option.bind_some, ih opened]
    | close name =>
      rw [openAfter.eq_def] at opened
      rcases stack with _ | ⟨top, _ | ⟨parent, others⟩⟩
      · cases opened
      · cases opened
      · simp only [] at opened
        split at opened
        · rename_i same
          rw [List.cons_append, rootFrom]
          simp only [if_pos same]
          exact ih opened
        · cases opened

-- The name of the root is known as soon as an element is open.
theorem rootName?_append (opened : openAfter [] front = some (top :: below)) (back pieces : List Piece) :
    rootName? (front ++ back) = rootName? (front ++ pieces) := by
  induction front with
  | nil => cases opened
  | cons piece front ih =>
    cases piece with
    | start name attributes => rfl
    | text raw =>
      rw [openAfter] at opened
      obtain ⟨placed, here, opened⟩ := Option.bind_eq_some_iff.mp opened
      rw [place] at here
      split at here
      · cases here
        exact ih opened
      · cases here
    | doctype => exact ih opened
    | broken | cdata raw | close name => cases opened

theorem rootFrom_flat (flat : Flat inner nodes) (top : Opened) (below : List Opened) (back : List Piece) :
    rootFrom (top :: below) (inner ++ back) = rootFrom (top.holding nodes :: below) back := by
  induction flat generalizing top with
  | nil => rfl
  | text _ ih | cdata _ ih =>
    rw [List.cons_append, rootFrom, place, Option.bind_some, ih, Opened.holding_cons]

theorem flat_textPieces (words : List Char) : Flat (textPieces words.reverse) (wordNodes words) := by
  unfold textPieces wordNodes
  rw [List.isEmpty_reverse]
  split
  · exact .nil
  · rw [List.reverse_reverse]
    exact .text .nil

-- An element without elements in it is put into the element that is open.
theorem rootFrom_element (flat : Flat inner nodes) (top : Opened) (below : List Opened) (back : List Piece) :
    rootFrom (top :: below) (.start name attributes :: (inner ++ .close name :: back)) =
      rootFrom (top.add (.element name attributes nodes) :: below) back := by
  rw [rootFrom, rootFrom_flat flat, rootFrom]
  simp [Opened.holding]

-- What an open element still takes in up to its end, and what is behind that. Neither depends on what it holds by now,
-- nor on what is open around it.
def TakesIn (open_ : List Opened) (name : List Char) (pieces : List Piece) (behind : List Node) (rest : List Piece) : Prop :=
  ∀ attributes content below, rootFrom (open_ ++ ⟨name, attributes, content⟩ :: below) pieces =
    closed (.element name attributes (content.reverse ++ behind)) below rest

theorem TakesIn.cons {open_ : List Opened} {node : Node} (takes : TakesIn [] name pieces nodes back)
    (puts : ∀ attributes content below, rootFrom (open_ ++ ⟨name, attributes, content⟩ :: below) front =
      rootFrom (⟨name, attributes, node :: content⟩ :: below) pieces) :
    TakesIn open_ name front (node :: nodes) back := by
  intro attributes content below
  rw [puts, List.append_cons, ← List.reverse_cons]
  exact takes attributes (node :: content) below

theorem exists_takesIn (open_ : List Opened) (top : Opened) (rooted : rootFrom (open_ ++ top :: below) pieces = some tree) :
    ∃ behind rest, TakesIn open_ top.name pieces behind rest := by
  induction pieces generalizing open_ top with
  | nil => cases open_ <;> cases rooted
  | cons piece pieces ih =>
    cases piece with
    | broken => cases open_ <;> cases rooted
    | start name attributes => exact ih (⟨name, attributes, []⟩ :: open_) top rooted
    | text raw | cdata raw | doctype =>
      cases open_ with
      | nil =>
        obtain ⟨behind, rest, takes⟩ := ih [] (top.add _) rooted
        exact ⟨_, rest, takes.cons fun _ _ _ => rfl⟩
      | cons inner others => exact ih (inner.add _ :: others) top rooted
    | close name =>
      rcases open_ with _ | ⟨inner, _ | ⟨parent, others⟩⟩
      · rw [List.nil_append, rootFrom] at rooted
        simp only [] at rooted
        split at rooted
        · rename_i same
          refine ⟨[], pieces, fun attributes content below => ?_⟩
          rw [List.nil_append, rootFrom, List.append_nil]
          simp only [if_pos same]
          cases below <;> rfl
        · cases rooted
      · rw [List.cons_append, List.nil_append, rootFrom] at rooted
        simp only [] at rooted
        split at rooted
        · rename_i same
          obtain ⟨behind, rest, takes⟩ := ih [] (top.add _) rooted
          refine ⟨.element inner.name inner.attributes inner.content.reverse :: behind, rest,
            takes.cons fun attributes content below => ?_⟩
          rw [List.cons_append, List.nil_append, rootFrom]
          simp only [if_pos same]
          rfl
        · cases rooted
      · rw [List.cons_append, List.cons_append, rootFrom] at rooted
        simp only [] at rooted
        split at rooted
        · rename_i same
          obtain ⟨behind, rest, takes⟩ :=
            ih (parent.add (.element inner.name inner.attributes inner.content.reverse) :: others) top rooted
          refine ⟨behind, rest, fun attributes content below => ?_⟩
          rw [List.cons_append, List.cons_append, rootFrom]
          simp only [if_pos same]
          exact takes attributes content below
        · cases rooted

def Opened.ended (top : Opened) (behind : List Node) : Node :=
  .element top.name top.attributes (top.content.reverse ++ behind)

-- A document of which three elements are open: whatever the innermost holds, the rest is the same.
theorem rootFrom_innermost {item channel root : Opened} (rooted : rootFrom [item, channel, root] pieces = some tree) :
    ∃ behind besideItem besideChannel,
      (∀ attributes content, rootFrom [⟨item.name, attributes, content⟩] pieces =
        some (.element item.name attributes (content.reverse ++ behind))) ∧
      ∀ attributes content, rootFrom [⟨item.name, attributes, content⟩, channel, root] pieces =
        some (root.ended (channel.ended (.element item.name attributes (content.reverse ++ behind) :: besideItem) ::
          besideChannel)) := by
  obtain ⟨behind, rest, takes⟩ := exists_takesIn [] item rooted
  have inChannel := (takes item.attributes item.content [channel, root]).symm.trans rooted
  obtain ⟨besideItem, restBelow, takesBelow⟩ := exists_takesIn [] (channel.add _) inChannel
  have inRoot := (takesBelow channel.attributes _ [root]).symm.trans inChannel
  obtain ⟨besideChannel, restRoot, takesRoot⟩ := exists_takesIn [] (root.add _) inRoot
  refine ⟨behind, besideItem, besideChannel, fun attributes content => takes attributes content [],
    fun attributes content => ?_⟩
  have first := takes attributes content [channel, root]
  have second := takesBelow channel.attributes
    (.element item.name attributes (content.reverse ++ behind) :: channel.content) [root]
  have third := takesRoot root.attributes
    (channel.ended (.element item.name attributes (content.reverse ++ behind) :: besideItem) :: root.content) []
  simp only [List.reverse_cons, List.append_assoc, List.singleton_append] at second third
  exact first.trans (second.trans third)

-- The text before the next bracket, and the pieces behind it, which are the same whatever stands before the text.
theorem piecesFrom_words (cs : List Char) : ∃ (words : List Char) (rest : List Piece), ∀ raw,
    piecesFrom (.text raw) cs = textPieces (words.reverse ++ raw) ++ rest := by
  induction cs with
  | nil => exact ⟨[], [], fun raw => (List.append_nil _).symm⟩
  | cons c cs ih =>
    by_cases bracket : c = '<'
    · rw [bracket]
      exact ⟨[], piecesFrom .angle cs, fun raw => piecesFrom_bracket⟩
    · obtain ⟨words, rest, shown⟩ := ih
      refine ⟨c :: words, rest, fun raw => ?_⟩
      rw [piecesFrom, step, if_neg bracket, List.nil_append, shown, List.reverse_cons, List.append_assoc,
        List.singleton_append]

-- An element that is put between two parts of a text, at a place where three elements are open, becomes a node of the
-- innermost, and parts the text that stands around the place.
theorem rootFrom_inserted {item channel root : Opened}
    (rooted : rootFrom [item, channel, root] (piecesFrom (.text raw) cs) = some tree) (flat : Flat inner nodes)
    (name attributes : List Char) :
    ∃ words behind besideItem besideChannel,
      (∀ attributes, rootFrom [⟨item.name, attributes, []⟩] (piecesFrom (.text []) cs) =
        some (.element item.name attributes (wordNodes words ++ behind))) ∧
      tree = root.ended (channel.ended (.element item.name item.attributes
        (item.content.reverse ++ wordNodes (raw.reverse ++ words) ++ behind) :: besideItem) :: besideChannel) ∧
      rootFrom [item, channel, root] (textPieces raw ++ (.start name attributes :: (inner ++ .close name ::
        piecesFrom (.text []) cs))) =
        some (root.ended (channel.ended (.element item.name item.attributes (item.content.reverse ++
          wordNodes raw.reverse ++ .element name attributes nodes :: (wordNodes words ++ behind)) :: besideItem) ::
            besideChannel)) := by
  obtain ⟨words, rest, shown⟩ := piecesFrom_words cs
  have before (raw : List Char) (back : List Piece) (top : Opened) (below : List Opened) :
      rootFrom (top :: below) (textPieces raw ++ back) = rootFrom (top.holding (wordNodes raw.reverse) :: below) back := by
    have flat := flat_textPieces raw.reverse
    rw [List.reverse_reverse] at flat
    exact rootFrom_flat flat top below back
  rw [shown, before] at rooted
  obtain ⟨behind, besideItem, besideChannel, alone, around⟩ := rootFrom_innermost rooted
  refine ⟨words, behind, besideItem, besideChannel, fun attributes => ?_, ?_, ?_⟩
  · rw [shown, before]
    refine (alone attributes _).trans ?_
    simp [Opened.holding]
  · rw [← Option.some.injEq, ← rooted]
    refine (around item.attributes _).trans ?_
    simp [Opened.holding]
  · rw [before, rootFrom_element flat, shown, before]
    refine (around item.attributes _).trans ?_
    simp [Opened.holding, Opened.add]

-- A document without a byte order mark at its start.
def unmarked : List Char → List Char
  | [] => []
  | c :: cs => if c = byteOrderMark then cs else c :: cs

theorem pieces_eq (cs : List Char) : Xml.pieces cs = piecesFrom (.text []) (unmarked cs) := by
  cases cs with
  | nil => rfl
  | cons c cs =>
    rw [Xml.pieces, unmarked]
    split <;> rfl

theorem unmarked_append (filled : cs ≠ []) (ds : List Char) : unmarked (cs ++ ds) = unmarked cs ++ ds := by
  obtain ⟨c, cs, rfl⟩ := List.exists_cons_of_ne_nil filled
  rw [List.cons_append, unmarked, unmarked]
  split <;> rfl

-- A document whose first part ends in text is read on from there.
theorem pieces_append (read : stepAll (.text []) (unmarked cs) = (front, .text raw))
    (opened : openAfter [] front = some (top :: below)) (ds : List Char) :
    Xml.pieces (cs ++ ds) = front ++ piecesFrom (.text raw) ds := by
  have filled : cs ≠ [] := by
    rintro rfl
    cases read
    cases opened
  rw [pieces_eq, unmarked_append filled, piecesFrom_append, read]

-- The pieces of an element do not depend on the text before it.
theorem piecesFrom_word {word : List Char} (begins : word.head? = some '<')
    (read : piecesFrom (.text []) (word ++ cs) = pieces) (raw : List Char) :
    piecesFrom (.text raw) (word ++ cs) = textPieces raw ++ pieces := by
  obtain ⟨rest, rfl⟩ := List.head?_eq_some_iff.mp begins
  rw [List.cons_append, piecesFrom_bracket] at read ⊢
  rw [← read]
  rfl

end Harvester.Xml
