import Harvester.Proofs.Xml.Escape
namespace Harvester.Xml

-- What a name may be made of: anything but blanks and the characters by which markup is told apart.
def isNameChar (c : Char) : Bool := !isSpace c && !(['=', '"', '\'', '<', '>', '/', '&', '!', '?'].contains c)

structure Name where
  chars : List Char
  filled : chars ≠ []
  legal : chars.all isNameChar = true

structure Attributes where
  entries : List (Name × List Char)
  distinct : (entries.map fun entry => entry.1.chars).Nodup

-- What a writer puts into a document. An element without content may be written as one short tag.
inductive Markup
  | text (content : List Char)
  | element (name : Name) (attributes : Attributes) (short : Bool) (content : List Markup)

def writeAttribute (entry : Name × List Char) : List Char :=
  ' ' :: (entry.1.chars ++ '=' :: '"' :: (escape entry.2 ++ ['"']))

def writeAttributes (entries : List (Name × List Char)) : List Char := entries.flatMap writeAttribute

def Attributes.write (attributes : Attributes) : List Char := writeAttributes attributes.entries

def closeTag (name : Name) : List Char := '<' :: '/' :: (name.chars ++ ['>'])

-- An element from behind its first bracket.
def writeElement (name : Name) (attributes : Attributes) (short : Bool) (content : List Char) : List Char :=
  name.chars ++ attributes.write ++
    if short && content.isEmpty then ['/', '>'] else '>' :: (content ++ closeTag name)

mutual
def Markup.write : Markup → List Char
  | .text content => escape content
  | .element name attributes short content => '<' :: writeElement name attributes short (writeAll content)
def writeAll : List Markup → List Char
  | [] => []
  | markup :: rest => markup.write ++ writeAll rest
end

def textNode (pending : List Char) : List Node := if pending.isEmpty then [] else [.text (escape pending)]

-- The tree that is written: texts next to each other are one, and empty ones are none.
def nodesFrom (pending : List Char) : List Markup → List Node
  | [] => textNode pending
  | .text content :: rest => nodesFrom (pending ++ content) rest
  | .element name attributes _ content :: rest =>
    textNode pending ++ .element name.chars attributes.write (nodesFrom [] content) :: nodesFrom [] rest

variable {name : Name} {attributes : Attributes} {content markups : List Markup} {short : Bool}
  {stack : List Opened} {top : Opened} {c : Char} {cs ds raw rest inner : List Char}

theorem Name.legal_of_mem (present : c ∈ name.chars) :
    isSpace c = false ∧ c ∉ ['=', '"', '\'', '<', '>', '/', '&', '!', '?'] := by
  have legal := List.all_eq_true.mp name.legal c present
  simpa [isNameChar] using legal

theorem Name.solid (name : Name) : Solid name.chars := by
  obtain ⟨c, first⟩ := Option.isSome_iff_exists.mp (List.isSome_head?.mpr name.filled)
  obtain ⟨d, last⟩ := Option.isSome_iff_exists.mp (List.getLast?_isSome.mpr name.filled)
  exact ⟨⟨c, first, (name.legal_of_mem (List.mem_of_head? first)).1⟩,
    ⟨d, last, (name.legal_of_mem (List.mem_of_getLast? last)).1⟩⟩

-- Text is collected up to the next bracket.
theorem piecesFrom_text (plain : ∀ c ∈ cs, c ≠ '<') :
    piecesFrom (.text raw) (cs ++ rest) = piecesFrom (.text (cs.reverse ++ raw)) rest := by
  induction cs generalizing raw with
  | nil => rfl
  | cons c cs ih =>
    obtain ⟨first, later⟩ := List.forall_mem_cons.mp plain
    rw [List.cons_append, piecesFrom, step, if_neg first, List.nil_append, ih later, List.reverse_cons,
      List.append_assoc, List.singleton_append]

theorem piecesFrom_bracket : piecesFrom (.text raw) ('<' :: rest) = textPieces raw ++ piecesFrom .angle rest := rfl

-- What a tag collects without coming to its end, quotes being closed again.
def Passes (cs : List Char) : Prop :=
  ∀ closing raw rest, piecesFrom (.tag closing none raw) (cs ++ rest) =
    piecesFrom (.tag closing none (cs.reverse ++ raw)) rest

theorem Passes.append (front : Passes cs) (back : Passes ds) : Passes (cs ++ ds) := by
  intro closing raw rest
  rw [List.append_assoc, front, back, List.reverse_append, List.append_assoc]

theorem passes_of_plain (plain : ∀ c ∈ cs, c ∉ ['>', '"', '\'']) : Passes cs := by
  induction cs with
  | nil => intro _ _ _; rfl
  | cons c cs ih =>
    obtain ⟨first, later⟩ := List.forall_mem_cons.mp plain
    simp only [List.mem_cons, List.not_mem_nil, or_false, not_or] at first
    intro closing raw rest
    rw [List.cons_append, piecesFrom, step, tagStep]
    simp only [if_neg first.1, first.2.1, first.2.2, or_self, if_false, List.nil_append]
    rw [ih later, List.reverse_cons, List.append_assoc, List.singleton_append]

theorem piecesFrom_quoted {closing : Bool} (plain : ∀ c ∈ cs, c ≠ '"') :
    piecesFrom (.tag closing (some '"') raw) (cs ++ rest) =
      piecesFrom (.tag closing (some '"') (cs.reverse ++ raw)) rest := by
  induction cs generalizing raw with
  | nil => rfl
  | cons c cs ih =>
    obtain ⟨first, later⟩ := List.forall_mem_cons.mp plain
    rw [List.cons_append, piecesFrom, step, tagStep]
    simp only [if_neg first, List.nil_append]
    rw [ih later, List.reverse_cons, List.append_assoc, List.singleton_append]

theorem passes_quoted (plain : ∀ c ∈ cs, c ≠ '"') : Passes ('"' :: (cs ++ ['"'])) := by
  intro closing raw rest
  have opens (rest : List Char) : piecesFrom (.tag closing none raw) ('"' :: rest) =
      piecesFrom (.tag closing (some '"') ('"' :: raw)) rest := rfl
  have closes (raw : List Char) : piecesFrom (.tag closing (some '"') raw) ('"' :: rest) =
      piecesFrom (.tag closing none ('"' :: raw)) rest := rfl
  rw [List.cons_append, opens, List.append_assoc, piecesFrom_quoted plain, List.singleton_append, closes]
  simp

theorem Name.passes (name : Name) : Passes name.chars := by
  refine passes_of_plain fun c present => ?_
  obtain ⟨_, plain⟩ := name.legal_of_mem present
  simp only [List.mem_cons, List.not_mem_nil, or_false, not_or] at plain ⊢
  exact ⟨plain.2.2.2.2.1, plain.2.1, plain.2.2.1⟩

theorem writeAttribute_passes (entry : Name × List Char) : Passes (writeAttribute entry) := by
  have quoted : Passes ('"' :: (escape entry.2 ++ ['"'])) := passes_quoted fun c present => escape_ne rfl present
  have blank : Passes [' '] := passes_of_plain (by simp)
  have equals : Passes ['='] := passes_of_plain (by simp)
  exact blank.append (entry.1.passes.append (equals.append quoted))

theorem writeAttributes_passes (entries : List (Name × List Char)) : Passes (writeAttributes entries) := by
  induction entries with
  | nil => exact passes_of_plain (by simp [writeAttributes])
  | cons entry entries ih => exact (writeAttribute_passes entry).append ih

theorem Attributes.passes (attributes : Attributes) : Passes attributes.write := writeAttributes_passes attributes.entries

-- The name of an element goes up to the blank of the first attribute.
theorem takeWhile_name (name : Name) (attributes : Attributes) :
    (name.chars ++ attributes.write).takeWhile (fun c => !isSpace c) = name.chars ∧
      (name.chars ++ attributes.write).dropWhile (fun c => !isSpace c) = attributes.write := by
  have visible : ∀ c ∈ name.chars, (!isSpace c) = true := fun c present => by simp [(name.legal_of_mem present).1]
  rw [List.takeWhile_append_of_pos visible, List.dropWhile_append_of_pos visible]
  obtain ⟨entries, _⟩ := attributes
  cases entries with
  | nil => exact ⟨List.append_nil _, rfl⟩
  | cons entry entries => exact ⟨List.append_nil _, rfl⟩

-- A tag ends in its name or in a quote.
theorem getLast?_name_ne_slash (name : Name) (attributes : Attributes) :
    (name.chars ++ attributes.write).getLast? ≠ some '/' := by
  rw [Attributes.write]
  rcases List.eq_nil_or_concat attributes.entries with empty | ⟨front, last, ended⟩
  · rw [empty, writeAttributes, List.flatMap_nil, List.append_nil]
    intro last
    have plain := (name.legal_of_mem (List.mem_of_getLast? last)).2
    exact plain (by decide)
  · have quoted : (writeAttribute last).getLast? = some '"' := by
      rw [writeAttribute, ← List.cons_append, ← List.cons_append, ← List.cons_append, ← List.append_assoc,
        List.getLast?_concat]
    rw [ended, writeAttributes, List.concat_eq_append, List.flatMap_append, List.flatMap_singleton, ← List.append_assoc,
      List.getLast?_append, quoted, Option.some_or]
    decide

theorem startPieces_long (name : Name) (attributes : Attributes) :
    startPieces (name.chars ++ attributes.write) = [.start name.chars attributes.write] := by
  have notShort := getLast?_name_ne_slash name attributes
  obtain ⟨named, behind⟩ := takeWhile_name name attributes
  simp only [startPieces, beq_eq_false_iff_ne.mpr notShort, Bool.false_eq_true, if_false, named, behind]

theorem startPieces_short (name : Name) (attributes : Attributes) :
    startPieces (name.chars ++ attributes.write ++ ['/']) =
      [.start name.chars attributes.write, .close name.chars] := by
  obtain ⟨named, behind⟩ := takeWhile_name name attributes
  simp only [startPieces, List.getLast?_concat, beq_self_eq_true, if_true, List.dropLast_concat, named, behind]

theorem closeName_name (name : Name) : closeName name.chars = name.chars := by
  have solid := name.solid.dropSpacesEnd
  have filled : name.chars.isEmpty = false := List.isEmpty_eq_false_iff.mpr name.filled
  rw [dropSpacesEnd] at solid
  simp only [closeName, solid, filled, Bool.false_eq_true, if_false]

-- A tag begins with the first character of its name.
theorem piecesFrom_angle (name : Name) (rest : List Char) :
    piecesFrom .angle (name.chars ++ rest) = piecesFrom (.tag false none []) (name.chars ++ rest) := by
  obtain ⟨c, others, same⟩ := List.exists_cons_of_ne_nil name.filled
  have plain := (name.legal_of_mem (c := c) (by rw [same]; exact List.mem_cons_self)).2
  simp only [List.mem_cons, List.not_mem_nil, or_false, not_or] at plain
  simp only [same, List.cons_append, piecesFrom, step, plain, if_false]

theorem piecesFrom_start (passes : Passes cs) :
    piecesFrom .angle (name.chars ++ cs ++ '>' :: rest) =
      startPieces (name.chars ++ cs) ++ piecesFrom (.text []) rest := by
  have ends (raw : List Char) : piecesFrom (.tag false none raw) ('>' :: rest) =
      startPieces raw.reverse ++ piecesFrom (.text []) rest := rfl
  rw [List.append_assoc, piecesFrom_angle, ← List.append_assoc, name.passes.append passes, ends, List.append_nil,
    List.reverse_reverse]

theorem piecesFrom_close (name : Name) (rest : List Char) :
    piecesFrom .angle ('/' :: (name.chars ++ '>' :: rest)) = .close name.chars :: piecesFrom (.text []) rest := by
  have opens (rest : List Char) : piecesFrom .angle ('/' :: rest) = piecesFrom (.tag true none []) rest := rfl
  have ends (raw : List Char) : piecesFrom (.tag true none raw) ('>' :: rest) =
      .close (closeName raw.reverse) :: piecesFrom (.text []) rest := rfl
  rw [opens, name.passes, ends, List.append_nil, List.reverse_reverse, closeName_name]

theorem closeTag_append (name : Name) (rest : List Char) :
    closeTag name ++ rest = '<' :: '/' :: (name.chars ++ '>' :: rest) := by
  simp [closeTag]

-- The short tag of an element is read like the two long ones.
theorem piecesFrom_element (name : Name) (attributes : Attributes) (short : Bool) (inner rest : List Char) :
    piecesFrom .angle (writeElement name attributes short inner ++ rest) =
      .start name.chars attributes.write :: piecesFrom (.text []) (inner ++ (closeTag name ++ rest)) := by
  unfold writeElement
  split
  · rename_i empty
    obtain ⟨_, empty⟩ := Bool.and_eq_true_iff.mp empty
    cases List.isEmpty_iff.mp empty
    have slash : Passes ['/'] := passes_of_plain (by simp)
    have shape : name.chars ++ attributes.write ++ ['/', '>'] ++ rest =
        name.chars ++ (attributes.write ++ ['/']) ++ '>' :: rest := by simp
    rw [shape, piecesFrom_start (attributes.passes.append slash), ← List.append_assoc, startPieces_short, List.nil_append,
      closeTag_append, piecesFrom_bracket, piecesFrom_close]
    rfl
  · have shape : name.chars ++ attributes.write ++ '>' :: (inner ++ closeTag name) ++ rest =
        name.chars ++ attributes.write ++ '>' :: (inner ++ (closeTag name ++ rest)) := by simp
    rw [shape, piecesFrom_start attributes.passes, startPieces_long, List.singleton_append]

def Opened.holding (top : Opened) (nodes : List Node) : Opened := { top with content := nodes.reverse ++ top.content }

theorem Opened.holding_append (top : Opened) (front back : List Node) :
    top.holding (front ++ back) = (top.holding front).holding back := by
  simp [holding]

theorem Opened.holding_cons (top : Opened) (node : Node) (nodes : List Node) :
    top.holding (node :: nodes) = (top.add node).holding nodes := by
  simp [holding, add]

theorem rootFrom_textPieces (pending : List Char) (more : List Piece) :
    rootFrom (top :: stack) (textPieces (escape pending).reverse ++ more) =
      rootFrom (top.holding (textNode pending) :: stack) more := by
  cases pending with
  | nil => rfl
  | cons c cs =>
    have filled : (escape (c :: cs)).reverse.isEmpty = false := by
      rw [List.isEmpty_reverse, List.isEmpty_eq_false_iff, Ne, escape_eq_nil_iff]
      exact List.cons_ne_nil c cs
    rw [textPieces, filled]
    simp only [Bool.false_eq_true, if_false, List.reverse_reverse]
    rfl

theorem rootFrom_close (name : Name) (attributes : Attributes) (nodes : List Node) (more : List Piece) :
    rootFrom (Opened.holding ⟨name.chars, attributes.write, []⟩ nodes :: top :: stack) (.close name.chars :: more) =
      rootFrom (top.add (.element name.chars attributes.write nodes) :: stack) more := by
  simp [rootFrom, Opened.holding]

-- What an open element takes in while its content is read, up to the next bracket. The text read so far and not yet
-- put down is the last the element has.
theorem rootFrom_content (markups : List Markup) (pending : List Char) (top : Opened) (stack : List Opened)
    (rest : List Char) :
    rootFrom (top :: stack) (piecesFrom (.text (escape pending).reverse) (writeAll markups ++ '<' :: rest)) =
      rootFrom (top.holding (nodesFrom pending markups) :: stack) (piecesFrom .angle rest) := by
  induction pending, markups using nodesFrom.induct generalizing top stack rest with
  | case1 pending =>
    rw [writeAll, List.nil_append, piecesFrom_bracket, rootFrom_textPieces, nodesFrom]
  | case2 pending content markups ih =>
    have plain : ∀ c ∈ escape content, c ≠ '<' := fun c present => escape_ne rfl present
    rw [writeAll, Markup.write, List.append_assoc, piecesFrom_text plain, ← List.reverse_append, ← escape_append, ih,
      nodesFrom]
  | case3 pending name attributes short content markups inside ih =>
    rw [writeAll, Markup.write, List.cons_append, List.cons_append, piecesFrom_bracket, rootFrom_textPieces,
      List.append_assoc, piecesFrom_element, rootFrom, closeTag_append]
    have empty : Mode.text [] = .text (escape []).reverse := rfl
    rw [empty, inside, piecesFrom_close, rootFrom_close, empty, ih, nodesFrom, Opened.holding_append,
      Opened.holding_cons]

-- A document that is one element is read as that element, with the nodes its content was written for.
theorem pieces_element (name : Name) (attributes : Attributes) (short : Bool) (content : List Markup) :
    pieces (Markup.write (.element name attributes short content)) =
      .start name.chars attributes.write :: piecesFrom (.text []) (writeAll content ++ closeTag name) := by
  have first : '<' ≠ byteOrderMark := by decide
  rw [Markup.write, pieces]
  simp only [first, if_false]
  rw [piecesFrom_bracket, ← List.append_nil (writeElement name attributes short (writeAll content)), piecesFrom_element,
    List.append_nil]
  rfl

theorem root?_element (name : Name) (attributes : Attributes) (short : Bool) (content : List Markup) :
    root? (pieces (Markup.write (.element name attributes short content))) =
      some (.element name.chars attributes.write (nodesFrom [] content)) := by
  have empty : Mode.text [] = .text (escape []).reverse := rfl
  rw [root?, pieces_element, rootFrom, closeTag, empty, rootFrom_content, piecesFrom_close]
  simp [rootFrom, Opened.holding]

theorem attributesFrom_name (legal : ∀ c ∈ cs, isNameChar c = true) :
    attributesFrom (.name raw) (cs ++ '=' :: rest) = attributesFrom (.mark (raw.reverse ++ cs)) rest := by
  induction cs generalizing raw with
  | nil => rw [List.append_nil]; rfl
  | cons c cs ih =>
    obtain ⟨first, later⟩ := List.forall_mem_cons.mp legal
    simp only [isNameChar, Bool.and_eq_true, Bool.not_eq_true', List.contains_eq_mem, List.mem_cons,
      decide_eq_false_iff_not, not_or] at first
    obtain ⟨visible, other, _⟩ := first
    rw [List.cons_append, attributesFrom]
    simp only [if_neg other, visible, Bool.false_eq_true, if_false]
    rw [ih later, List.reverse_cons, List.append_assoc, List.singleton_append]

theorem attributesFrom_value {named : List Char} (plain : ∀ c ∈ cs, c ≠ '"') :
    attributesFrom (.value named '"' raw) (cs ++ '"' :: rest) =
      (attributesFrom .gap rest).map ((named, raw.reverse ++ cs) :: ·) := by
  induction cs generalizing raw with
  | nil => rw [List.append_nil]; rfl
  | cons c cs ih =>
    obtain ⟨first, later⟩ := List.forall_mem_cons.mp plain
    rw [List.cons_append, attributesFrom]
    simp only [if_neg first]
    rw [ih later, List.reverse_cons, List.append_assoc, List.singleton_append]

theorem attributesFrom_attribute (entry : Name × List Char) (rest : List Char) :
    attributesFrom .gap (writeAttribute entry ++ rest) =
      (attributesFrom .gap rest).map ((entry.1.chars, escape entry.2) :: ·) := by
  obtain ⟨name, value⟩ := entry
  obtain ⟨c, others, same⟩ := List.exists_cons_of_ne_nil name.filled
  have legal := List.all_eq_true.mp name.legal
  rw [same] at legal
  obtain ⟨first, later⟩ := List.forall_mem_cons.mp legal
  have visible : isSpace c = false := by
    rw [isNameChar, Bool.and_eq_true, Bool.not_eq_true'] at first
    exact first.1
  have unquoted : ∀ d ∈ escape value, d ≠ '"' := fun d present => escape_ne rfl present
  have blank (rest : List Char) : attributesFrom .gap (' ' :: rest) = attributesFrom .gap rest := rfl
  have mark (named rest : List Char) : attributesFrom (.mark named) ('"' :: rest) =
      attributesFrom (.value named '"' []) rest := rfl
  have shape : writeAttribute (name, value) ++ rest =
      ' ' :: c :: (others ++ '=' :: '"' :: (escape value ++ '"' :: rest)) := by
    simp [writeAttribute, same]
  rw [shape, blank, attributesFrom]
  simp only [visible, Bool.false_eq_true, if_false]
  rw [attributesFrom_name later, mark, attributesFrom_value unquoted, same]
  rfl

theorem attributesFrom_writeAttributes (entries : List (Name × List Char)) :
    attributesFrom .gap (writeAttributes entries) = some (entries.map fun entry => (entry.1.chars, escape entry.2)) := by
  induction entries with
  | nil => rfl
  | cons entry entries ih =>
    rw [show writeAttributes (entry :: entries) = writeAttribute entry ++ writeAttributes entries from rfl,
      attributesFrom_attribute, ih]
    rfl

theorem distinct_of_nodup {pairs : List (List Char × List Char)} (different : (pairs.map Prod.fst).Nodup) :
    distinct pairs = true := by
  induction pairs with
  | nil => rfl
  | cons pair pairs ih =>
    obtain ⟨apart, later⟩ := List.nodup_cons.mp different
    rw [distinct, ih later, Bool.and_true, List.all_eq_true]
    intro other present
    rw [bne_iff_ne]
    exact fun same => apart (same ▸ List.mem_map_of_mem present)

theorem attributes?_write (attributes : Attributes) :
    attributes? attributes.write = some (attributes.entries.map fun entry => (entry.1.chars, escape entry.2)) := by
  have different : distinct (attributes.entries.map fun entry => (entry.1.chars, escape entry.2)) = true := by
    refine distinct_of_nodup ?_
    rw [List.map_map]
    exact attributes.distinct
  rw [attributes?, Attributes.write, attributesFrom_writeAttributes, Option.filter_some, if_pos different]

end Harvester.Xml
