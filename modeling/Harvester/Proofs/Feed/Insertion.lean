import Harvester.Proofs.Feed.Extension
namespace Harvester.Feed

open Xml

-- A word that is read as one element whatever stands behind it, with text or CDATA in it and no elements. Its attributes
-- are well formed and its references have a meaning.
structure IsElement (word name : List Char) (content : List Node) : Prop where
  begins : word.head? = some '<'
  ends : word.getLast? = some '>'
  read : ∃ attributes inner, (attributes? attributes).isSome ∧ Flat inner content ∧ ∀ rest,
    piecesFrom (.text []) (scrub word ++ rest) =
      .start name attributes :: (inner ++ .close name :: piecesFrom (.text []) rest)
  sounds : soundAll content = true

-- A place in a document, directly in an item of a channel and outside of all markup and references, with the nodes of
-- the item before it and behind it.
inductive Site (front back : List Char) : List Node → List Node → Prop
  | item (whole : scrub (front ++ back) = scrub front ++ scrub back)
    (read : stepAll (.text []) (unmarked (scrub front)) = (passed, .text raw))
    (opened : openAfter [] passed = some [item, channel, root])
    (inItem : localName item.name = "item".toList) (inChannel : localName channel.name = "channel".toList)
    (means : (resolve? raw.reverse).isSome)
    (rest : rootFrom [⟨item.name, [], []⟩] (piecesFrom (.text []) (scrub back)) = some (.element item.name [] behind)) :
    Site front back (item.content.reverse ++ wordNodes raw.reverse) behind

variable {feed : String} {name attributes header full word cs : List Char} {front back content before behind : List Node}
  {mark : Bool} {entries : List Entry}

-- Any name, any attributes and any text that are written as an element make one.
theorem isElement_written (named : Name) (written : Attributes) (short : Bool) (text : List Char) :
    IsElement (Markup.write (.element named written short [.text text])) named.chars (wordNodes (escape text)) where
  begins := rfl
  ends := by
    have ended : ∃ front, writeElement named written short (writeAll [.text text]) = front ++ ['>'] := by
      unfold writeElement
      split
      · exact ⟨named.chars ++ written.write ++ ['/'], by simp⟩
      · exact ⟨named.chars ++ written.write ++ '>' :: (writeAll [.text text] ++ '<' :: '/' :: named.chars),
          by simp [closeTag]⟩
    obtain ⟨front, shown⟩ := ended
    rw [Markup.write, shown, ← List.cons_append, List.getLast?_concat]
  read := by
    have flat := flat_textPieces (escape text)
    have plain : ∀ c ∈ escape text, c ≠ '<' := fun c present => escape_ne rfl present
    have inside : writeAll [.text text] = escape text := by rw [writeAll, writeAll, Markup.write, List.append_nil]
    refine ⟨written.write, _, by rw [attributes?_write]; rfl, flat, fun rest => ?_⟩
    rw [(write_referenced _).scrub, Markup.write, List.cons_append, piecesFrom_bracket, piecesFrom_element, inside,
      piecesFrom_text plain, closeTag_append, piecesFrom_bracket, piecesFrom_close, List.append_nil]
    rfl
  sounds := by rw [soundAll_wordNodes, resolve?_escape, Option.isSome_some]

-- An element is written between brackets, and no name that is replaced reaches over one.
theorem scrub_word (begins : word.head? = some '<') (ends : word.getLast? = some '>') (front back : List Char) :
    scrub (front ++ word ++ back) = scrub front ++ (scrub word ++ scrub back) ∧ (scrub word).head? = some '<' := by
  have opening : ∀ loose ∈ looseNames, '<' ∉ loose.1 := by decide
  have closing : ∀ loose ∈ looseNames, '>' ∉ loose.1 := by decide
  obtain ⟨rest, rfl⟩ := List.head?_eq_some_iff.mp begins
  obtain ⟨inside, rfl⟩ : ∃ inside, rest = inside ++ ['>'] := by
    cases rest with
    | nil => cases ends
    | cons c rest => exact List.getLast?_eq_some_iff.mp (by rwa [List.getLast?_cons_cons] at ends)
  have alone : scrub ('<' :: (inside ++ ['>'])) = '<' :: (scrub inside ++ '>' :: scrub []) := by
    rw [← scrub_split closing]
    exact scrub_split opening [] _
  have shape : front ++ '<' :: (inside ++ ['>']) ++ back = front ++ '<' :: (inside ++ '>' :: back) := by simp
  have nothing : scrub [] = [] := rfl
  refine ⟨?_, by rw [alone]; rfl⟩
  rw [shape, scrub_split opening, scrub_split closing, alone, nothing]
  simp

theorem soundAll_swap {other : List Node} (keeps : soundAll content = true → soundAll other = true)
    (sounds : soundAll (front ++ .element name attributes content :: back) = true) :
    soundAll (front ++ .element name attributes other :: back) = true := by
  rw [soundAll_append, soundAll, sound, Bool.and_eq_true, Bool.and_eq_true] at sounds ⊢
  exact ⟨sounds.1, keeps sounds.2.1, sounds.2.2⟩

-- Only the entry of an item depends on what is in the item.
theorem channelOf?_swap
    (read : Rss.channelOf? feed ⟨full, header, front ++ .element name attributes content :: back, mark⟩ = some entries)
    (label : localName name = "item".toList) : ∃ earlier entry later own, entries = earlier ++ entry :: later ∧
      Rss.itemOf? feed ⟨name, attributes, content, own⟩ = some entry ∧
      ∀ other, (soundAll content = true → soundAll other = true) →
        Rss.channelOf? feed ⟨full, header, front ++ .element name attributes other :: back, mark⟩ =
          (Rss.itemOf? feed ⟨name, attributes, other, own⟩).map fun entry => earlier ++ entry :: later := by
  obtain ⟨record, formed, brought⟩ := Option.bind_eq_some_iff.mp read
  obtain ⟨pairs, headed, formed⟩ := Option.bind_eq_some_iff.mp formed
  obtain ⟨kids, children, rfl⟩ := Option.map_eq_some_iff.mp formed
  obtain ⟨early, own, late, rfl, swaps⟩ := children?_swap children
  obtain ⟨earlier, entry, later, parts, here, others⟩ := Record.many?_swap brought (decide_eq_true label)
  refine ⟨earlier, entry, later, own, parts, here, fun other keeps => ?_⟩
  rw [← others ⟨name, attributes, other, own⟩ rfl, Rss.channelOf?, Record.ofElement?, headed]
  simp only [Option.bind_eq_bind, Option.bind_some, swaps other keeps, Option.map_some]

theorem rootOf?_swap
    (read : Rss.entries? feed ⟨full, header, front ++ .element name attributes content :: back, mark⟩ = some entries)
    (label : localName name = "channel".toList) : ∃ own,
      Rss.channelOf? feed ⟨name, attributes, content, own⟩ = some entries ∧
      ∀ other, (soundAll content = true → soundAll other = true) →
        Rss.entries? feed ⟨full, header, front ++ .element name attributes other :: back, mark⟩ =
          Rss.channelOf? feed ⟨name, attributes, other, own⟩ := by
  obtain ⟨record, formed, brought⟩ := Option.bind_eq_some_iff.mp read
  obtain ⟨pairs, headed, formed⟩ := Option.bind_eq_some_iff.mp formed
  obtain ⟨kids, children, rfl⟩ := Option.map_eq_some_iff.mp formed
  obtain ⟨found, once, rfl⟩ := Option.bind_eq_some_iff.mp brought
  obtain ⟨early, own, late, rfl, swaps⟩ := children?_swap children
  obtain ⟨here, others⟩ := Record.once?_swap once (decide_eq_true label)
  refine ⟨own, here, fun other keeps => ?_⟩
  rw [Rss.entries?, Record.ofElement?, headed]
  simp only [Option.bind_eq_bind, Option.bind_some, swaps other keeps, Option.map_some]
  rw [others ⟨name, attributes, other, own⟩ rfl]
  cases Rss.channelOf? feed ⟨name, attributes, other, own⟩ <;> rfl

theorem parse_rooted (rss : dialect (pieces (scrub cs)) = .rss)
    (rooted : root? (pieces (scrub cs)) = some (.element name attributes content)) (feed : String) :
    parse feed (String.ofList cs) = (Rss.entries? feed ⟨name, attributes, content, false⟩).elim (.error .rss) .ok := by
  simp only [parse, String.toList_ofList, rss, entries?, rooted, Dialect.entries?]
  cases Rss.entries? feed ⟨name, attributes, content, false⟩ <;> rfl

theorem eq_some_of_elim {result : Option (List Entry)} {dialect : Dialect}
    (read : result.elim (Except.error dialect) Except.ok = .ok entries) : result = some entries := by
  cases result with
  | none => cases read
  | some found =>
    cases read
    rfl

theorem root?_of_parse (parsed : parse feed (String.ofList cs) = .ok entries) :
    ∃ tree, root? (pieces (scrub cs)) = some tree := by
  cases rooted : root? (pieces (scrub cs)) with
  | some tree => exact ⟨tree, rfl⟩
  | none =>
    simp only [parse, String.toList_ofList, entries?, rooted] at parsed
    cases parsed

-- A document with an element put into one of its items: as it was read before, but for the entry of that item.
theorem parse_at_site {front back word name : List Char} (site : Site front back before behind)
    (element : IsElement word name content) (rss : dialect (pieces (scrub (front ++ back))) = .rss)
    (parsed : parse feed (String.ofList (front ++ back)) = .ok entries) :
    ∃ attributes inner header item mark earlier entry later kids others,
      Flat inner content ∧ (attributes? attributes).isSome ∧ (attributes? header).isSome ∧
      Parted feed before behind mark entry kids others ∧ entries = earlier ++ entry :: later ∧
      parse feed (String.ofList (front ++ word ++ back)) =
        ((Rss.itemOf? feed ⟨item, header, before ++ .element name attributes content :: behind, mark⟩).map
          fun entry => earlier ++ entry :: later).elim (.error .rss) .ok := by
  obtain ⟨attributes, inner, formed, flat, readWord⟩ := element.read
  obtain ⟨split, begins⟩ := scrub_word element.begins element.ends front back
  cases site with
  | @item passed raw item channel root _ whole read opened inItem inChannel means rest =>
    have old : pieces (scrub (front ++ back)) = passed ++ piecesFrom (.text raw) (scrub back) := by
      rw [whole, pieces_append read opened]
    have new : pieces (scrub (front ++ word ++ back)) = passed ++ (textPieces raw ++
        (.start name attributes :: (inner ++ .close name :: piecesFrom (.text []) (scrub back)))) := by
      rw [split, pieces_append read opened, piecesFrom_word begins (readWord _)]
    have rssToo : dialect (pieces (scrub (front ++ word ++ back))) = .rss := by
      rw [← rss, new, old, dialect, dialect, rootName?_append opened]
    obtain ⟨tree, rooted⟩ := root?_of_parse parsed
    have inRoot := rooted
    rw [old, root?, rootFrom_append opened] at inRoot
    obtain ⟨words, behindIt, besideItem, besideChannel, alone, rfl, grown⟩ :=
      rootFrom_inserted inRoot flat name attributes
    cases (alone []).symm.trans rest
    have grownRoot : root? (pieces (scrub (front ++ word ++ back))) = some (root.ended (channel.ended
        (.element item.name item.attributes (item.content.reverse ++ wordNodes raw.reverse ++
          .element name attributes content :: (wordNodes words ++ behindIt)) :: besideItem) :: besideChannel)) := by
      rw [new, root?, rootFrom_append opened]
      exact grown
    rw [parse_rooted rss rooted] at parsed
    have readRoot := eq_some_of_elim parsed
    obtain ⟨channelMark, readChannel, swapsChannel⟩ := rootOf?_swap readRoot inChannel
    obtain ⟨earlier, entry, later, mark, parts, readItem, swapsItem⟩ := channelOf?_swap readChannel inItem
    obtain ⟨headed, kids, others, parted⟩ := itemOf?_parted means readItem
    have keeps : soundAll (item.content.reverse ++ wordNodes (raw.reverse ++ words) ++ behindIt) = true →
        soundAll (item.content.reverse ++ wordNodes raw.reverse ++
          .element name attributes content :: (wordNodes words ++ behindIt)) = true := by
      intro sounds
      obtain ⟨early, late⟩ := soundAll_parted means sounds
      rw [soundAll_append, early, soundAll, sound, element.sounds, late]
      rfl
    refine ⟨attributes, inner, item.attributes, item.name, mark, earlier, entry, later, kids, others, flat, formed, headed,
      parted, parts, ?_⟩
    rw [parse_rooted rssToo grownRoot]
    exact congrArg (Option.elim · _ _) ((swapsChannel _ (soundAll_swap keeps)).trans (swapsItem _ keeps))

-- An element of any name, with a prefix or without, is put into an item of a document that is read. What counts is its
-- name without the prefix. If no slot has that name nothing changes. Otherwise its text comes into the slot, where only
-- categories may have been, or the item cannot take it and with the item the whole document is refused.
theorem parse_inserted {front back word name : List Char} (site : Site front back before behind)
    (element : IsElement word name content) (rss : dialect (pieces (scrub (front ++ back))) = .rss)
    (parsed : parse feed (String.ofList (front ++ back)) = .ok entries) :
    ((∀ slot : Slot, localName name ≠ slot.label.toList) →
      parse feed (String.ofList (front ++ word ++ back)) = .ok entries) ∧
    ∀ slot : Slot, localName name = slot.label.toList →
      (slot.Fits name before behind → ∃ earlier entry later other, entries = earlier ++ entry :: later ∧
        parse feed (String.ofList (front ++ word ++ back)) = .ok (earlier ++ other :: later) ∧
        Extended slot (slot.told content) behind entry other) ∧
      (¬ slot.Fits name before behind → parse feed (String.ofList (front ++ word ++ back)) = .error .rss) := by
  obtain ⟨attributes, inner, header, item, mark, earlier, entry, later, kids, others, flat, formed, headed, parted, parts,
    grown⟩ := parse_at_site site element rss parsed
  refine ⟨fun foreign => ?_, fun slot label => ⟨fun fits => ?_, fun unfit => ?_⟩⟩
  · rw [grown, parted.untouched headed element.sounds foreign, parts]
    rfl
  · have extended : ∃ other,
        Rss.itemOf? feed ⟨item, header, before ++ .element name attributes content :: behind, mark⟩ = some other ∧
          Extended slot (slot.told content) behind entry other := by
      by_cases category : slot = .category
      · subst category
        exact parted.extended_category headed flat element.sounds formed label fits
      · exact parted.extended_once headed flat element.sounds formed label category fits.1
    obtain ⟨other, brought, became⟩ := extended
    refine ⟨earlier, entry, later, other, parts, ?_, became⟩
    rw [grown, brought]
    rfl
  · rw [grown, Parted.refused unfit label]
    rfl

theorem site_behind_title : Site "<rss><channel><item><title>A</title>".toList "</item></channel></rss>".toList
    [.element "title".toList [] [.text ['A']]] [] := by
  have read : stepAll (.text []) (unmarked (scrub "<rss><channel><item><title>A</title>".toList)) =
      ([.start "rss".toList [], .start "channel".toList [], .start "item".toList [], .start "title".toList [],
        .text ['A'], .close "title".toList], .text []) := by decide +kernel
  exact .item (by decide +kernel) read rfl rfl rfl rfl rfl

-- A credit is passed over, and an author with a prefix is taken for the author that the item lacks.
theorem parse_inserted_prefixed :
    let front := "<rss><channel><item><title>A</title>".toList
    let back := "</item></channel></rss>".toList
    let credit := "<media:credit>B</media:credit>".toList
    let author := "<itunes:author>B</itunes:author>".toList
    parse "blog" (String.ofList (front ++ back)) = .ok [⟨"blog", some "A", none, none, none, none, none, none, []⟩] ∧
    parse "blog" (String.ofList (front ++ credit ++ back)) =
      .ok [⟨"blog", some "A", none, none, none, none, none, none, []⟩] ∧
    ∃ other, parse "blog" (String.ofList (front ++ author ++ back)) = .ok [other] ∧ other.author = some "B" ∧
      other.title = some "A" := by
  intro front back credit author
  have isCredit : IsElement credit "media:credit".toList [.text ['B']] :=
    isElement_written ⟨"media:credit".toList, by decide, by decide⟩ ⟨[], .nil⟩ false ['B']
  have isAuthor : IsElement author "itunes:author".toList [.text ['B']] :=
    isElement_written ⟨"itunes:author".toList, by decide, by decide⟩ ⟨[], .nil⟩ false ['B']
  have rss : dialect (pieces (scrub (front ++ back))) = .rss := by decide +kernel
  have parsed : parse "blog" (String.ofList (front ++ back)) =
      .ok [⟨"blog", some "A", none, none, none, none, none, none, []⟩] := by decide +kernel
  refine ⟨parsed, (parse_inserted site_behind_title isCredit rss parsed).1 (fun slot => ?_), ?_⟩
  · cases slot <;> decide
  have fits : Slot.author.Fits "itunes:author".toList [.element "title".toList [] [.text ['A']]] [] := by
    refine ⟨?_, nofun⟩
    show ∀ full ∈ ["title".toList], localName full ≠ localName "itunes:author".toList
    decide
  obtain ⟨earlier, entry, later, other, parts, read, became⟩ :=
    ((parse_inserted site_behind_title isAuthor rss parsed).2 .author (by decide)).1 fits
  obtain ⟨rfl, ⟨rfl, rfl⟩⟩ : earlier = [] ∧ entry = ⟨"blog", some "A", none, none, none, none, none, none, []⟩ ∧ later = [] := by
    cases earlier with
    | nil =>
      cases parts
      exact ⟨rfl, rfl, rfl⟩
    | cons first earlier => simp at parts
  obtain ⟨before, behind, old, new⟩ := became.own
  have nothing : before = [] ∧ behind = [] := List.append_eq_nil_iff.mp old.symm
  rw [nothing.1, nothing.2] at new
  exact ⟨other, read, toList_injective new, toList_injective (became.rest .title nofun nofun)⟩

-- A title with a prefix spoils the document that was read without it.
theorem parse_inserted_clashing :
    let front := "<rss><channel><item><title>A</title>".toList
    let back := "</item></channel></rss>".toList
    let word := "<media:title>B</media:title>".toList
    Site front back [.element "title".toList [] [.text ['A']]] [] ∧
    IsElement word "media:title".toList [.text ['B']] ∧
    parse "blog" (String.ofList (front ++ back)) = .ok [⟨"blog", some "A", none, none, none, none, none, none, []⟩] ∧
    parse "blog" (String.ofList (front ++ word ++ back)) = .error .rss := by
  intro front back word
  have isTitle : IsElement word "media:title".toList [.text ['B']] :=
    isElement_written ⟨"media:title".toList, by decide, by decide⟩ ⟨[], .nil⟩ false ['B']
  exact ⟨site_behind_title, isTitle, by decide +kernel, by decide +kernel⟩

end Harvester.Feed
