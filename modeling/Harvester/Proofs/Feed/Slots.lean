import Harvester.Proofs.Feed.Written
import Harvester.Proofs.Xml.Records
namespace Harvester.Feed

open Xml

def Slot.elements (slot : Slot) (kids : List Child) : List Child := kids.filter fun child => child.isNamed slot.label

-- The text of an element in its slot; in two of the slots elements may stand between the text, and no text is none.
def Slot.text? : Slot → Child → Option (Option String)
  | .guid, child | .category, child => mixedText? child
  | _, child => (plainText? child).map some

def Slot.names (slot : Slot) (kids : List Child) : List (List Char) := (slot.elements kids).map Child.name

def Slot.found (slot : Slot) (kids : List Child) : List (Option (Option String)) := (slot.elements kids).map slot.text?

-- How many elements a slot takes: any number of categories that have one full name, and one of the others.
def Slot.Allows (names : List (List Char)) : Slot → Prop
  | .category => ∃ full, ∀ name ∈ names, name = full
  | _ => names.length ≤ 1

-- The texts that are read for a slot out of the elements of an item.
def Slot.Reads (slot : Slot) (kids : List Child) (texts : List String) : Prop :=
  slot.Allows (slot.names kids) ∧ ∃ values : List (Option String), slot.found kids = values.map some ∧ texts = values.filterMap id

variable {feed : String} {slot : Slot} {kids before behind others : List Child} {child : Child} {record : Record}
  {texts : List String} {entry : Entry}

theorem forall₂_some_iff {read : α → Option β} {xs : List α} {ys : List β} :
    List.Forall₂ (fun x y => read x = some y) xs ys ↔ xs.map read = ys.map some := by
  rw [← List.forall₂_eq_eq_eq, List.forall₂_map_left_iff, List.forall₂_map_right_iff]

-- A slot for one element is filled from the element that is read once, if there is one.
theorem reads_once {read : Child → Option α} {value : α → Option String}
    (single : ∀ names, slot.Allows names ↔ names.length ≤ 1)
    (reads : ∀ child, slot.text? child = (read child).map value) : slot.Reads record.children texts ↔
      ∃ found, record.once? slot.label read = some found ∧ texts = (found.bind value).toList := by
  simp only [Slot.Reads, single, Slot.names, List.length_map, Slot.found, Record.once?_eq_some_iff, ← forall₂_some_iff,
    reads]
  constructor
  · rintro ⟨short, found, each, rfl⟩
    rw [← mapM_eq_some_iff, mapM_wrapped] at each
    obtain ⟨values, readEach, rfl⟩ := Option.map_eq_some_iff.mp each
    have brought := mapM_eq_some_iff.mp readEach
    rw [brought.length_eq] at short
    rcases values with _ | ⟨first, _ | ⟨second, others⟩⟩
    · exact ⟨none, brought, rfl⟩
    · refine ⟨some first, brought, ?_⟩
      cases shown : value first <;> simp [shown]
    · simp at short
  · rintro ⟨found, each, rfl⟩
    refine ⟨?_, found.toList.map value, ?_, ?_⟩
    · rw [Slot.elements, each.length_eq]
      cases found <;> simp
    · rw [← mapM_eq_some_iff, mapM_wrapped, Slot.elements, mapM_eq_some_iff.mpr each]
      rfl
    · cases found with
      | none => rfl
      | some first => cases shown : value first <;> simp [shown]

theorem reads_many : Slot.category.Reads record.children texts ↔
    ∃ found, record.many? "category" mixedText? = some found ∧ texts = found.filterMap id := by
  simp only [Slot.Reads, Slot.Allows, Slot.names, List.forall_mem_map, Slot.found, ← forall₂_some_iff,
    Record.many?_eq_some_iff, and_assoc, exists_and_left]
  rfl

theorem reads_plain (single : ∀ names, slot.Allows names ↔ names.length ≤ 1)
    (reads : ∀ child, slot.text? child = (plainText? child).map some) :
    slot.Reads record.children texts ↔ ∃ found, record.once? slot.label plainText? = some found ∧ texts = found.toList := by
  rw [reads_once single reads]
  simp only [Option.bind_fun_some]

theorem reads_guid : Slot.guid.Reads record.children texts ↔
    ∃ found, record.once? "guid" mixedText? = some found ∧ texts = found.join.toList := by
  have whole : ∀ child, Slot.guid.text? child = (mixedText? child).map id := fun child => Option.map_id'.symm
  have single : ∀ names, Slot.guid.Allows names ↔ names.length ≤ 1 := fun _ => Iff.rfl
  exact reads_once single whole

theorem toList_injective {value other : Option α} (same : value.toList = other.toList) : value = other := by
  cases value <;> cases other <;> simp_all

-- An entry is read from an item that has its texts in its slots; the name of the feed is given, and the time is that of
-- the date.
theorem itemOf?_eq_some_iff : Rss.itemOf? feed child = some entry ↔
    entry.feed = feed ∧ entry.publishedAt = entry.pubDate.bind Rss.date? ∧
      ∃ record, Record.ofElement? ["category"] child = some record ∧
        ∀ slot : Slot, slot.Reads record.children (entry.texts slot) := by
  constructor
  · intro read
    simp only [Rss.itemOf?, Option.bind_eq_bind, Option.bind_eq_some_iff, Option.some.injEq] at read
    obtain ⟨record, formed, title, hasTitle, link, hasLink, guid, hasGuid, pubDate, hasDate, description,
      hasDescription, author, hasAuthor, categories, hasCategories, rfl⟩ := read
    refine ⟨rfl, rfl, record, formed, fun slot => ?_⟩
    cases slot with
    | title => exact (reads_plain (fun _ => Iff.rfl) fun _ => rfl).mpr ⟨title, hasTitle, rfl⟩
    | link => exact (reads_plain (fun _ => Iff.rfl) fun _ => rfl).mpr ⟨link, hasLink, rfl⟩
    | guid => exact reads_guid.mpr ⟨guid, hasGuid, rfl⟩
    | pubDate => exact (reads_plain (fun _ => Iff.rfl) fun _ => rfl).mpr ⟨pubDate, hasDate, rfl⟩
    | description => exact (reads_plain (fun _ => Iff.rfl) fun _ => rfl).mpr ⟨description, hasDescription, rfl⟩
    | author => exact (reads_plain (fun _ => Iff.rfl) fun _ => rfl).mpr ⟨author, hasAuthor, rfl⟩
    | category => exact reads_many.mpr ⟨categories, hasCategories, rfl⟩
  · rintro ⟨named, dated, record, formed, reads⟩
    have plain (slot : Slot) (single : ∀ names, slot.Allows names ↔ names.length ≤ 1)
        (text : ∀ child, slot.text? child = (plainText? child).map some) {value : Option String}
        (stands : entry.texts slot = value.toList) : record.once? slot.label plainText? = some value := by
      obtain ⟨found, once, same⟩ := (reads_plain single text).mp (reads slot)
      rw [once, toList_injective (same.symm.trans stands)]
    have title : record.once? "title" plainText? = some entry.title := plain .title (fun _ => Iff.rfl) (fun _ => rfl) rfl
    have link : record.once? "link" plainText? = some entry.link := plain .link (fun _ => Iff.rfl) (fun _ => rfl) rfl
    have pubDate : record.once? "pubDate" plainText? = some entry.pubDate :=
      plain .pubDate (fun _ => Iff.rfl) (fun _ => rfl) rfl
    have description : record.once? "description" plainText? = some entry.description :=
      plain .description (fun _ => Iff.rfl) (fun _ => rfl) rfl
    have author : record.once? "author" plainText? = some entry.author :=
      plain .author (fun _ => Iff.rfl) (fun _ => rfl) rfl
    obtain ⟨guid, hasGuid, sameGuid⟩ := reads_guid.mp (reads .guid)
    have joined : guid.join = entry.guid := toList_injective sameGuid.symm
    obtain ⟨categories, hasCategories, sameCategories⟩ := reads_many.mp (reads .category)
    have listed : categories.filterMap id = entry.categories := sameCategories.symm
    simp only [Rss.itemOf?, formed, title, link, hasGuid, pubDate, description, author, hasCategories,
      Option.bind_eq_bind, Option.bind_some, joined, listed, ← dated, ← named]

-- Texts of which every slot but that of the categories has one at most are those of an entry.
theorem exists_entry (feed : String) (texts : Slot → List String)
    (single : ∀ slot, slot ≠ .category → (texts slot).length ≤ 1) : ∃ entry : Entry,
      entry.feed = feed ∧ entry.publishedAt = entry.pubDate.bind Rss.date? ∧ ∀ slot, entry.texts slot = texts slot := by
  have only (slot : Slot) (other : slot ≠ .category) : (texts slot).head?.toList = texts slot := by
    have short := single slot other
    generalize texts slot = values at short ⊢
    rcases values with _ | ⟨first, _ | ⟨second, others⟩⟩
    · rfl
    · rfl
    · simp at short
  let entry : Entry :=
    { feed, title := (texts .title).head?, link := (texts .link).head?, guid := (texts .guid).head?,
      description := (texts .description).head?, author := (texts .author).head?, pubDate := (texts .pubDate).head?,
      publishedAt := (texts .pubDate).head?.bind Rss.date?, categories := texts .category }
  refine ⟨entry, rfl, rfl, fun slot => ?_⟩
  cases slot with
  | title => exact only .title nofun
  | link => exact only .link nofun
  | guid => exact only .guid nofun
  | pubDate => exact only .pubDate nofun
  | description => exact only .description nofun
  | author => exact only .author nofun
  | category => rfl

theorem Slot.elements_append (slot : Slot) (kids others : List Child) :
    slot.elements (kids ++ others) = slot.elements kids ++ slot.elements others :=
  List.filter_append kids others

theorem Slot.names_append (slot : Slot) (kids others : List Child) :
    slot.names (kids ++ others) = slot.names kids ++ slot.names others := by
  rw [names, elements_append, List.map_append, ← names, ← names]

theorem Slot.found_append (slot : Slot) (kids others : List Child) :
    slot.found (kids ++ others) = slot.found kids ++ slot.found others := by
  rw [found, elements_append, List.map_append, ← found, ← found]

-- An element of another name is not read for a slot.
theorem Slot.Reads.insert_other (reads : slot.Reads (before ++ behind) texts) (names : slot.names others = slot.names behind)
    (found : slot.found others = slot.found behind) (apart : child.isNamed slot.label = false) :
    slot.Reads (before ++ child :: others) texts := by
  have none : slot.elements (child :: others) = slot.elements others :=
    List.filter_cons_of_neg (by rw [apart]; exact Bool.false_ne_true)
  have sameNames : slot.names (child :: others) = slot.names behind := by rw [Slot.names, none, ← Slot.names, names]
  have sameFound : slot.found (child :: others) = slot.found behind := by rw [Slot.found, none, ← Slot.found, found]
  rw [Slot.Reads, names_append, found_append] at reads ⊢
  rw [sameNames, sameFound]
  exact reads

-- One of its own is read where it stands among the others, if the slot takes it.
theorem Slot.Reads.insert_own {text : Option String} (reads : slot.Reads (before ++ behind) texts)
    (found : slot.found others = slot.found behind) (named : child.isNamed slot.label = true)
    (read : slot.text? child = some text) (allows : slot.Allows (slot.names (before ++ child :: others))) :
    ∃ front back, texts = front ++ back ∧ slot.Reads (before ++ child :: others) (front ++ (text.toList ++ back)) := by
  obtain ⟨_, values, shown, rfl⟩ := reads
  rw [found_append] at shown
  obtain ⟨front, back, rfl, shownFront, shownBack⟩ := List.map_eq_append_iff.mp shown.symm
  refine ⟨front.filterMap id, back.filterMap id, List.filterMap_append, allows, front ++ text :: back, ?_, ?_⟩
  · have own : slot.elements (child :: others) = child :: slot.elements others := List.filter_cons_of_pos named
    rw [found_append, Slot.found, Slot.found, own, List.map_cons, read, ← Slot.found, ← Slot.found, found,
      List.map_append, List.map_cons, shownFront, shownBack]
  · rw [List.filterMap_append]
    cases text <;> rfl

theorem Slot.Reads.length_le (reads : slot.Reads kids texts) (single : slot ≠ .category) : texts.length ≤ 1 := by
  obtain ⟨allows, values, shown, rfl⟩ := reads
  have short : (slot.names kids).length ≤ 1 := by
    cases slot with
    | category => exact absurd rfl single
    | title | link | guid | pubDate | description | author => exact allows
  have same := congrArg List.length shown
  rw [Slot.found, List.length_map, List.length_map] at same
  rw [Slot.names, List.length_map, same] at short
  exact Nat.le_trans (List.length_filterMap_le id values) short

-- A slot that takes its elements has texts as soon as each of them can be read.
theorem Slot.exists_reads (allows : slot.Allows (slot.names kids))
    (each : ∀ child ∈ slot.elements kids, (slot.text? child).isSome) : ∃ texts, slot.Reads kids texts := by
  have values : ∃ values : List (Option String), (slot.elements kids).map slot.text? = values.map some := by
    generalize slot.elements kids = elements at each
    induction elements with
    | nil => exact ⟨[], rfl⟩
    | cons child elements ih =>
      obtain ⟨here, later⟩ := List.forall_mem_cons.mp each
      obtain ⟨value, shown⟩ := Option.isSome_iff_exists.mp here
      obtain ⟨values, shownLater⟩ := ih later
      exact ⟨value :: values, by rw [List.map_cons, shown, shownLater, List.map_cons]⟩
  obtain ⟨values, shown⟩ := values
  exact ⟨_, allows, values, shown, rfl⟩

theorem Slot.Reads.text?_isSome (reads : slot.Reads kids texts) : ∀ child ∈ slot.elements kids, (slot.text? child).isSome := by
  intro child present
  obtain ⟨_, values, shown, _⟩ := reads
  have within : slot.text? child ∈ values.map some := shown ▸ List.mem_map_of_mem present
  obtain ⟨value, _, same⟩ := List.mem_map.mp within
  rw [← same]
  rfl

end Harvester.Feed
