import Harvester.Proofs.Feed.Scrub
import Harvester.Proofs.Xml.Children
namespace Harvester.Feed

open Xml

-- The places of an item. Only `category` may be filled more than once.
inductive Slot
  | title | link | guid | pubDate | description | author | category
deriving DecidableEq

def Slot.label : Slot → String
  | .title => "title"
  | .link => "link"
  | .guid => "guid"
  | .pubDate => "pubDate"
  | .description => "description"
  | .author => "author"
  | .category => "category"

def Slot.all : List Slot := [.title, .link, .guid, .pubDate, .description, .author, .category]

theorem Slot.mem_all (slot : Slot) : slot ∈ Slot.all := by
  cases slot <;> decide

def Slot.name (slot : Slot) : Name :=
  ⟨slot.label.toList, by cases slot <;> decide, by cases slot <;> decide⟩

def Entry.texts (entry : Entry) : Slot → List String
  | .title => entry.title.toList
  | .link => entry.link.toList
  | .guid => entry.guid.toList
  | .pubDate => entry.pubDate.toList
  | .description => entry.description.toList
  | .author => entry.author.toList
  | .category => entry.categories

-- The entries that can be written: no text is empty or has blanks at its edges, and the time is the one the date says.
structure Writable (feed : String) (entry : Entry) : Prop where
  feed : entry.feed = feed
  solid : ∀ slot, ∀ text ∈ entry.texts slot, Solid text.toList
  dated : entry.publishedAt = entry.pubDate.bind Rss.date?

-- A field of an item as it is written: an element of its name, with any attributes.
structure Field where
  slot : Slot
  attributes : Attributes
  text : String
  solid : Solid text.toList

def Field.markup (field : Field) : Markup := .element field.slot.name field.attributes false [.text field.text.toList]

def texts (slot : Slot) (fields : List Field) : List String :=
  (fields.filter fun field => field.slot = slot).map Field.text

def itemName : Name := ⟨"item".toList, by decide, by decide⟩
def channelName : Name := ⟨"channel".toList, by decide, by decide⟩
def rssName : Name := ⟨"rss".toList, by decide, by decide⟩

-- The fields of an item stand in any order, those of one name in the order of their texts.
inductive WritesItem (feed : String) : Markup → Entry → Prop
  | item (spaced : Spaced content (fields.map Field.markup)) (named : entry.feed = feed)
    (filled : ∀ slot, texts slot fields = entry.texts slot) (dated : entry.publishedAt = entry.pubDate.bind Rss.date?) :
    WritesItem feed (.element itemName attributes short content) entry

-- Among the items of a channel other elements may stand, whatever they hold.
inductive WritesItems (feed : String) : List Markup → List Entry → Prop
  | nil : WritesItems feed [] []
  | item (writes : WritesItem feed markup entry) (behind : WritesItems feed elements entries) :
    WritesItems feed (markup :: elements) (entry :: entries)
  | other (apart : localName name.chars ≠ itemName.chars) (behind : WritesItems feed elements entries) :
    WritesItems feed (.element name attributes short content :: elements) entries

inductive WritesFeed (feed : String) : Markup → List Entry → Prop
  | rss (channel : Spaced rootContent [.element channelName channelAttributes channelShort channelContent])
    (items : Spaced channelContent elements) (writes : WritesItems feed elements entries) :
    WritesFeed feed (.element rssName rootAttributes rootShort rootContent) entries

variable {feed : String} {field : Field} {fields : List Field} {child : Child} {kids : List Child} {slot : Slot}
  {entry : Entry} {entries : List Entry} {elements : List Markup} {markup : Markup}

theorem texts_cons (slot : Slot) (field : Field) (fields : List Field) :
    texts slot (field :: fields) =
      if field.slot = slot then field.text :: texts slot fields else texts slot fields := by
  unfold texts
  split <;> simp [*]

theorem Slot.label_injective {s t : Slot} : s.label = t.label ↔ s = t := by
  cases s <;> cases t <;> decide

theorem Slot.localName_name (slot : Slot) : localName slot.name.chars = slot.label.toList := by
  cases slot <;> decide

theorem isNamed_field (shows : Shows field.markup child) (slot : Slot) :
    child.isNamed slot.label = decide (field.slot = slot) := by
  obtain ⟨written, attributes, text, solid⟩ := field
  cases shows with
  | element =>
    rw [Child.isNamed, Slot.localName_name, decide_eq_decide, String.toList_inj, Slot.label_injective]

theorem content_field (shows : Shows field.markup child) : child.content = [.text (escape field.text.toList)] := by
  obtain ⟨written, attributes, text, solid⟩ := field
  obtain ⟨c, first, _⟩ := solid.start
  obtain ⟨rest, same⟩ := List.head?_eq_some_iff.mp first
  cases shows with
  | element => simp only [nodesFrom, textNode, List.nil_append, same, List.isEmpty_cons, Bool.false_eq_true, if_false]

theorem runs_field (shows : Shows field.markup child) :
    runsFrom child.settled true [] child.content = some [field.text.toList] := by
  rw [content_field shows, runsFrom, List.nil_append, runsFrom, field.solid.runText?]
  · rfl
  · exact fun same => nomatch same
  · exact fun _ _ _ same => nomatch same

theorem plainText?_field (shows : Shows field.markup child) : plainText? child = some field.text := by
  have plain : child.content.any isElement = false := by
    rw [content_field shows]
    rfl
  rw [plainText?, plain]
  simp only [Bool.false_eq_true, if_false, runs_field shows, String.ofList_toList]

theorem mixedText?_field (shows : Shows field.markup child) : mixedText? child = some (some field.text) := by
  obtain ⟨pairs, formed⟩ := shows.formed
  rw [mixedText?, formed, Option.bind_some, runs_field shows]
  simp only [String.ofList_toList]

variable {α : Type} {read : Child → Option α} {record : Record}

-- The elements of one name are the fields of that slot, in their order.
theorem fields_named (shown : List.Forall₂ Shows (fields.map Field.markup) kids) (slot : Slot) :
    List.Forall₂ (fun field child => field.slot = slot ∧ Shows (Field.markup field) child)
      (fields.filter fun field => field.slot = slot) (kids.filter fun child => child.isNamed slot.label) := by
  refine (List.forall₂_and_left _ _).mpr ⟨fun field present => of_decide_eq_true (List.mem_filter.mp present).2, ?_⟩
  have alike ⦃field : Field⦄ ⦃child : Child⦄ (shows : Shows field.markup child) :
      decide (field.slot = slot) = true ↔ child.isNamed slot.label = true := by
    rw [isNamed_field shows]
  exact List.rel_filter alike (List.forall₂_map_left_iff.mp shown)

theorem fields_each (shown : List.Forall₂ Shows (fields.map Field.markup) kids) (slot : Slot) (out : String → α)
    (reads : ∀ field child, Shows (Field.markup field) child → read child = some (out field.text)) :
    List.Forall₂ (fun child x => child.name = slot.label.toList ∧ read child = some x)
      (kids.filter fun child => child.isNamed slot.label) ((texts slot fields).map out) := by
  rw [texts, List.map_map, List.forall₂_map_right_iff]
  refine (fields_named shown slot).flip.imp fun child field ⟨same, shows⟩ => ⟨?_, reads field child shows⟩
  obtain ⟨written, attributes, text, solid⟩ := field
  cases same
  cases shows
  rfl

theorem once?_field (shown : List.Forall₂ Shows (fields.map Field.markup) record.children) (slot : Slot)
    (out : String → α) (reads : ∀ field child, Shows (Field.markup field) child → read child = some (out field.text))
    {value : Option String} (stands : texts slot fields = value.toList) :
    record.once? slot.label read = some (value.map out) := by
  have each := fields_each shown slot out reads
  rw [stands, ← Option.toList_map] at each
  exact Record.once?_of_each ((List.forall₂_and_left _ _).mp each).2

theorem itemOf?_written (writes : WritesItem feed markup entry) (shows : Shows markup child) :
    Rss.itemOf? feed child = some entry := by
  cases writes with
  | @item content fields _ attributes short spaced named filled dated =>
    obtain ⟨record, formed, shown⟩ := spaced.ofElement? ["category"] shows
    have plain (slot : Slot) {value : Option String} (stands : entry.texts slot = value.toList) :
        record.once? slot.label plainText? = some value := by
      have once := once?_field shown slot id (fun _ _ => plainText?_field) ((filled slot).trans stands)
      rwa [Option.map_id_fun, id] at once
    have title : record.once? "title" plainText? = some entry.title := plain .title rfl
    have link : record.once? "link" plainText? = some entry.link := plain .link rfl
    have pubDate : record.once? "pubDate" plainText? = some entry.pubDate := plain .pubDate rfl
    have description : record.once? "description" plainText? = some entry.description := plain .description rfl
    have author : record.once? "author" plainText? = some entry.author := plain .author rfl
    have guid : record.once? "guid" mixedText? = some (entry.guid.map some) :=
      once?_field shown .guid some (fun _ _ => mixedText?_field) (filled .guid)
    have categories : record.many? "category" mixedText? = some (entry.categories.map some) := by
      have each := fields_each shown .category some fun _ _ => mixedText?_field
      rw [filled] at each
      exact Record.many?_of_each each
    have found : (entry.guid.map some).join = entry.guid := by cases entry.guid <;> rfl
    simp only [Rss.itemOf?, formed, title, link, guid, pubDate, description, author, categories, Option.bind_eq_bind,
      Option.bind_some, found, List.filterMap_map, Function.comp_def, id, List.filterMap_some, ← dated, ← named]

theorem items_each (writes : WritesItems feed elements entries) (shown : List.Forall₂ Shows elements kids) :
    List.Forall₂ (fun child entry => child.name = itemName.chars ∧ Rss.itemOf? feed child = some entry)
      (kids.filter fun child => child.isNamed "item") entries := by
  induction writes generalizing kids with
  | nil =>
    cases shown
    exact .nil
  | @item markup entry elements entries writes _ ih =>
    cases shown with
    | @cons _ child _ others shows shown =>
      have full : child.name = itemName.chars := by
        cases writes
        cases shows
        rfl
      have named : child.isNamed "item" = true := by
        rw [Child.isNamed, full]
        decide
      rw [List.filter_cons, if_pos named]
      exact .cons ⟨full, itemOf?_written writes shows⟩ (ih shown)
  | other apart _ ih =>
    cases shown with
    | @cons _ child _ others shows shown =>
      have named : child.isNamed "item" = false := by
        cases shows
        exact decide_eq_false apart
      rw [List.filter_cons, named, if_neg Bool.false_ne_true]
      exact ih shown

theorem channelOf?_written (spaced : Spaced content elements) (writes : WritesItems feed elements entries)
    (shows : Shows (.element name attributes short content) child) : Rss.channelOf? feed child = some entries := by
  obtain ⟨record, formed, shown⟩ := spaced.ofElement? ["item"] shows
  simp only [Rss.channelOf?, formed, Option.bind_eq_bind, Option.bind_some,
    Record.many?_of_each (items_each writes shown)]

theorem entries?_written (channel : Spaced rootContent [.element channelName attributes short channelContent])
    (items : Spaced channelContent elements) (writes : WritesItems feed elements entries)
    (shows : Shows (.element rootName rootAttributes rootShort rootContent) child) :
    Rss.entries? feed child = some entries := by
  obtain ⟨record, formed, shown⟩ := channel.ofElement? [] shows
  have each : List.Forall₂ (fun child entries => Rss.channelOf? feed child = some entries)
      (record.children.filter fun child => child.isNamed "channel") (some entries).toList := by
    obtain ⟨kid, others, shows, later, listed⟩ := List.forall₂_cons_left_iff.mp shown
    cases List.forall₂_nil_left_iff.mp later
    have named : kid.isNamed "channel" = true := by
      cases shows
      rfl
    rw [listed, List.filter_cons, if_pos named]
    exact .cons (channelOf?_written items writes shows) .nil
  simp only [Rss.entries?, formed, Option.bind_eq_bind, Option.bind_some, Record.once?_of_each each]

theorem dialect_rss (attributes : List Char) (behind : List Piece) :
    dialect (.start rssName.chars attributes :: behind) = .rss := by
  have other : some (localName rssName.chars) ≠ some "feed".toList := by decide
  rw [dialect, rootName?, if_neg other]

theorem parse_document (writes : WritesFeed feed markup entries) :
    parse feed (String.ofList markup.write) = .ok entries := by
  have untouched := (write_referenced markup).scrub
  cases writes with
  | @rss rootContent _ _ _ _ _ attributes short channel items writes =>
    have shows : Shows (.element rssName attributes short rootContent)
        ⟨rssName.chars, attributes.write, nodesFrom [] rootContent, false⟩ := .element
    have kind : dialect (pieces (Markup.write (.element rssName attributes short rootContent))) = .rss := by
      rw [pieces_element, dialect_rss]
    simp only [parse, String.toList_ofList, untouched, kind, entries?, root?_element, Dialect.entries?,
      entries?_written channel items writes shows]

theorem WritesItem.writable (writes : WritesItem feed markup entry) : Writable feed entry := by
  cases writes with
  | item spaced named filled dated =>
    refine ⟨named, fun slot text present => ?_, dated⟩
    rw [← filled slot] at present
    obtain ⟨field, _, rfl⟩ := List.mem_map.mp present
    exact field.solid

theorem WritesItems.writable (writes : WritesItems feed elements entries) : ∀ entry ∈ entries, Writable feed entry := by
  induction writes with
  | nil => exact List.forall_mem_nil _
  | item writes _ ih => exact List.forall_mem_cons.mpr ⟨writes.writable, ih⟩
  | other _ _ ih => exact ih

def bare : Attributes := ⟨[], List.nodup_nil⟩

theorem texts_append (slot : Slot) (front back : List Field) :
    texts slot (front ++ back) = texts slot front ++ texts slot back := by
  rw [texts, List.filter_append, List.map_append]
  rfl

theorem exists_fields_of_slot (filling : Slot) (list : List String) (solid : ∀ text ∈ list, Solid text.toList) :
    ∃ fields, ∀ slot, texts slot fields = if slot = filling then list else [] := by
  induction list with
  | nil => exact ⟨[], fun slot => (ite_self _).symm⟩
  | cons text list ih =>
    obtain ⟨first, later⟩ := List.forall_mem_cons.mp solid
    obtain ⟨fields, filled⟩ := ih later
    refine ⟨⟨filling, bare, text, first⟩ :: fields, fun slot => ?_⟩
    rw [texts_cons, filled]
    by_cases same : slot = filling
    · simp [same]
    · simp [same, Ne.symm same]

-- One slot after the other is filled with the texts it is to have.
theorem exists_fields (solid : ∀ slot, ∀ text ∈ entry.texts slot, Solid text.toList) (slots : List Slot)
    (different : slots.Nodup) :
    ∃ fields, ∀ slot, texts slot fields = if slot ∈ slots then entry.texts slot else [] := by
  induction slots with
  | nil => exact ⟨[], fun slot => rfl⟩
  | cons filling slots ih =>
    obtain ⟨apart, different⟩ := List.nodup_cons.mp different
    obtain ⟨fields, filled⟩ := ih different
    obtain ⟨own, alone⟩ := exists_fields_of_slot filling (entry.texts filling) (solid filling)
    refine ⟨own ++ fields, fun slot => ?_⟩
    rw [texts_append, alone, filled]
    by_cases same : slot = filling
    · simp [same, apart]
    · simp [same]

theorem spaced_fields (fields : List Field) : Spaced (fields.map Field.markup) (fields.map Field.markup) := by
  induction fields with
  | nil => exact .nil
  | cons field fields ih => exact .element ih

theorem exists_item (writable : Writable feed entry) :
    ∃ fields : List Field, WritesItem feed (.element itemName bare false (fields.map Field.markup)) entry := by
  obtain ⟨fields, filled⟩ := exists_fields writable.solid Slot.all (by decide)
  refine ⟨fields, .item (spaced_fields fields) writable.feed (fun slot => ?_) writable.dated⟩
  rw [filled, if_pos slot.mem_all]

theorem exists_items (writable : ∀ entry ∈ entries, Writable feed entry) :
    ∃ elements, WritesItems feed elements entries ∧ Spaced elements elements := by
  induction entries with
  | nil => exact ⟨[], .nil, .nil⟩
  | cons entry entries ih =>
    obtain ⟨first, later⟩ := List.forall_mem_cons.mp writable
    obtain ⟨elements, writes, spaced⟩ := ih later
    obtain ⟨fields, item⟩ := exists_item first
    exact ⟨_, .item item writes, .element spaced⟩

-- Reading undoes writing: the lists of entries that can be written are those of sound texts, and however one of them
-- was written, it is read back as it was.
theorem parse_written (feed : String) (entries : List Entry) :
    ((∃ document, WritesFeed feed document entries) ↔ ∀ entry ∈ entries, Writable feed entry) ∧
      ∀ document, WritesFeed feed document entries → parse feed (String.ofList document.write) = .ok entries := by
  refine ⟨⟨?_, fun writable => ?_⟩, fun document writes => parse_document writes⟩
  · rintro ⟨document, channel, items, writes⟩
    exact writes.writable
  · obtain ⟨elements, writes, spaced⟩ := exists_items writable
    exact ⟨.element rssName bare false [.element channelName bare false elements], .rss (.element .nil) spaced writes⟩

def posted : Entry where
  feed := "blog"
  title := some "&nbsp; <b>"
  link := none
  guid := some "7"
  description := none
  author := none
  pubDate := some "6 Jan 2025 10:00 Z"
  publishedAt := some ⟨1736157600, 0⟩
  categories := ["a", "b"]

def postedFields : List Field :=
  let domain : Attributes := ⟨[(⟨['d'], by decide, by decide⟩, "x&y".toList)], by decide⟩
  [⟨.category, domain, "a", by decide⟩, ⟨.title, bare, "&nbsp; <b>", by decide⟩,
    ⟨.pubDate, bare, "6 Jan 2025 10:00 Z", by decide⟩, ⟨.category, bare, "b", by decide⟩,
    ⟨.guid, domain, "7", by decide⟩]

def postedDocument : Markup :=
  let ttl : Markup := .element ⟨"ttl".toList, by decide, by decide⟩ bare false [.text "60".toList]
  .element rssName bare false [.element channelName bare false
    [ttl, .text ['\n'], .element itemName bare false (postedFields.map Field.markup), ttl]]

-- Texts that look like references, categories with other fields between them, and elements around the item.
theorem parse_written_posted :
    WritesFeed "blog" postedDocument [posted] ∧ parse "blog" (String.ofList postedDocument.write) = .ok [posted] := by
  have item : WritesItem "blog" (.element itemName bare false (postedFields.map Field.markup)) posted :=
    .item (spaced_fields postedFields) rfl (fun slot => by cases slot <;> decide) (by decide +kernel)
  have line : ∀ c ∈ ['\n'], isSpace c = true := List.forall_mem_singleton.mpr rfl
  have writes : WritesFeed "blog" postedDocument [posted] := .rss (.element .nil)
    (.element (.gap line (.element (.element .nil)))) (.other (by decide) (.item item (.other (by decide) .nil)))
  exact ⟨writes, (parse_written "blog" [posted]).2 postedDocument writes⟩

end Harvester.Feed
