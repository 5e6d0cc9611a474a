import Harvester.Proofs.Feed.Slots
namespace Harvester.Feed

open Xml

-- The text of an element without elements in it, in the slot of its name.
def Slot.told (content : List Node) : Slot → Option String
  | .guid | .category => (said content).map String.ofList
  | _ => some (String.ofList ((said content).getD []))

-- Whether a slot takes an element of its name among elements of other names: it must be the only one of the slot, and
-- categories must all have one full name.
def Slot.Takes (name : List Char) (names : List (List Char)) : Slot → Prop
  | .category => ∀ full ∈ names, localName full = localName name → full = name
  | _ => ∀ full ∈ names, localName full ≠ localName name

-- Whether an item can take it between some of its nodes and the others. Behind the first category only some nodes may
-- stand.
def Slot.Fits (slot : Slot) (name : List Char) (before behind : List Node) : Prop :=
  slot.Takes name (elementNames (before ++ behind)) ∧
    (slot = .category → name ∈ elementNames before ∨ behind.all (mayFollow name) = true)

-- Among the nodes there is no guid with elements in it.
def hasPlainGuids (nodes : List Node) : Bool :=
  nodes.all fun node =>
    match node with
    | .element name _ content => !(localName name == "guid".toList) || !content.any isElement
    | _ => true

-- What one more element of a slot makes of an entry: its text comes among those of the slot, and only categories have
-- others. The other slots stay, but for a guid with elements in it behind a category: it loses the blanks behind them.
structure Extended (slot : Slot) (text : Option String) (behind : List Node) (entry other : Entry) : Prop where
  feed : other.feed = entry.feed
  own : ∃ front back, entry.texts slot = front ++ back ∧ other.texts slot = front ++ (text.toList ++ back)
  new : slot ≠ .category → entry.texts slot = []
  rest : ∀ place, place ≠ slot → (slot = .category → place = .guid → hasPlainGuids behind = true) →
    other.texts place = entry.texts place
  time : slot ≠ .pubDate → other.publishedAt = entry.publishedAt

variable {feed : String} {slot : Slot} {name attributes full words more : List Char} {front back before behind content : List Node}
  {inner : List Piece} {kids others : List Child} {child : Child} {mark : Bool} {entry : Entry}
  {pairs : List (List Char × List Char)}

theorem text?_told (child : Child) (flat : Flat inner child.content) (sounds : soundAll child.content = true)
    (formed : (attributes? child.attributes).isSome) (slot : Slot) :
    slot.text? child = some (slot.told child.content) := by
  have plain := plainText?_flat flat sounds
  have mixed := mixedText?_flat flat sounds formed
  cases slot with
  | guid | category => exact mixed
  | title | link | pubDate | description | author =>
    rw [Slot.text?, plain]
    · rfl
    · exact nofun
    · exact nofun

theorem Slot.names_eq (slot : Slot) (kids : List Child) :
    slot.names kids = (kids.map Child.name).filter fun full => localName full = slot.label.toList := by
  rw [List.filter_map]
  rfl

theorem allows_iff_takes (label : localName name = slot.label.toList)
    (named : kids.map Child.name = elementNames before ++ name :: elementNames behind) :
    slot.Allows (slot.names kids) ↔ slot.Takes name (elementNames (before ++ behind)) := by
  have own : decide (localName name = slot.label.toList) = true := decide_eq_true label
  rw [slot.names_eq, named, List.filter_append, List.filter_cons, if_pos own, elementNames_append]
  have none (names : List (List Char)) : (names.filter fun full => localName full = slot.label.toList).length = 0 ↔
      ∀ full ∈ names, localName full ≠ localName name := by
    simp [label]
  have single : ((elementNames before).filter (fun full => localName full = slot.label.toList) ++
      name :: (elementNames behind).filter fun full => localName full = slot.label.toList).length ≤ 1 ↔
        ∀ full ∈ elementNames before ++ elementNames behind, localName full ≠ localName name := by
    rw [List.length_append, List.length_cons, List.forall_mem_append, ← none, ← none]
    omega
  cases slot with
  | title | link | guid | pubDate | description | author => exact single
  | category =>
    constructor
    · rintro ⟨shared, alike⟩ full present same
      have isLabel : decide (localName full = Slot.category.label.toList) = true := decide_eq_true (same.trans label)
      have first : name = shared := alike name (List.mem_append_right _ List.mem_cons_self)
      rw [first]
      refine alike full (List.mem_append.mpr ?_)
      rcases List.mem_append.mp present with early | late
      · exact .inl (List.mem_filter.mpr ⟨early, isLabel⟩)
      · exact .inr (List.mem_cons_of_mem _ (List.mem_filter.mpr ⟨late, isLabel⟩))
    · intro alike
      have each {names : List (List Char)} (within : ∀ full ∈ names, full ∈ elementNames before ++ elementNames behind) :
          ∀ full ∈ names.filter (fun full => localName full = Slot.category.label.toList), full = name := by
        intro full present
        obtain ⟨listed, same⟩ := List.mem_filter.mp present
        exact alike full (within full listed) ((of_decide_eq_true same).trans label.symm)
      exact ⟨name, List.forall_mem_append.mpr ⟨each fun _ => List.mem_append_left _,
        List.forall_mem_cons.mpr ⟨rfl, each fun _ => List.mem_append_right _⟩⟩⟩

theorem ofElement?_of_kids (formed : attributes? attributes = some pairs)
    (read : children? ["category"] mark content = some kids) (name : List Char) :
    Record.ofElement? ["category"] ⟨name, attributes, content, mark⟩ = some ⟨pairs, kids⟩ := by
  rw [Record.ofElement?, formed, Option.bind_some, read]
  rfl

theorem itemOf?_of_kids (formed : attributes? attributes = some pairs)
    (read : children? ["category"] mark content = some kids) {Wanted : Slot → List String → Prop}
    (reads : ∀ slot : Slot, ∃ texts, slot.Reads kids texts ∧ Wanted slot texts) (feed : String) (name : List Char) :
    ∃ entry, Rss.itemOf? feed ⟨name, attributes, content, mark⟩ = some entry ∧ entry.feed = feed ∧
      entry.publishedAt = entry.pubDate.bind Rss.date? ∧ ∀ slot, Wanted slot (entry.texts slot) := by
  choose texts readEach wanted using reads
  obtain ⟨entry, named, dated, filled⟩ := exists_entry feed texts fun slot single => (readEach slot).length_le single
  refine ⟨entry, itemOf?_eq_some_iff.mpr ⟨named, dated, ⟨pairs, kids⟩, ofElement?_of_kids formed read name,
    fun slot => ?_⟩, named, dated, fun slot => ?_⟩
  · rw [filled]
    exact readEach slot
  · rw [filled]
    exact wanted slot

theorem itemOf?_of_refused (refused : children? ["category"] mark content = none) :
    Rss.itemOf? feed ⟨name, attributes, content, mark⟩ = none := by
  cases formed : attributes? attributes <;> simp [Rss.itemOf?, Record.ofElement?, formed, refused]

theorem itemOf?_of_not_allowed (read : children? ["category"] mark content = some kids)
    (stops : ¬ slot.Allows (slot.names kids)) : Rss.itemOf? feed ⟨name, attributes, content, mark⟩ = none := by
  cases brought : Rss.itemOf? feed ⟨name, attributes, content, mark⟩ with
  | none => rfl
  | some entry =>
    obtain ⟨_, _, record, formed, reads⟩ := itemOf?_eq_some_iff.mp brought
    obtain ⟨pairs, _, formed⟩ := Option.bind_eq_some_iff.mp formed
    rw [read] at formed
    cases formed
    exact absurd (reads slot).1 stops

theorem names_settles (settles : List.Forall₂ (Settles full) kids others) (slot : Slot) :
    slot.names others = slot.names kids := by
  have same : others.map Child.name = kids.map Child.name := by
    induction settles with
    | nil => rfl
    | cons here _ ih =>
      rw [List.map_cons, List.map_cons, ih]
      rcases here with rfl | ⟨_, _, rfl⟩ <;> rfl
  rw [slot.names_eq, slot.names_eq, same]

theorem found_settles (settles : List.Forall₂ (Settles full) kids others)
    (keeps : ∀ child ∈ slot.elements kids, child.name = full ∨ slot.text? { child with settled := true } = slot.text? child) :
    slot.found others = slot.found kids := by
  induction settles with
  | nil => rfl
  | @cons child other kids others here _ ih =>
    have same : other.isNamed slot.label = child.isNamed slot.label := by
      rcases here with rfl | ⟨_, _, rfl⟩ <;> rfl
    cases named : child.isNamed slot.label with
    | false =>
      have none : slot.elements (child :: kids) = slot.elements kids := List.filter_cons_of_neg (by simp [named])
      have noneToo : slot.elements (other :: others) = slot.elements others :=
        List.filter_cons_of_neg (by simp [same, named])
      rw [none] at keeps
      rw [Slot.found, Slot.found, none, noneToo]
      exact ih keeps
    | true =>
      have own : slot.elements (child :: kids) = child :: slot.elements kids := List.filter_cons_of_pos named
      have ownToo : slot.elements (other :: others) = other :: slot.elements others :=
        List.filter_cons_of_pos (same.trans named)
      rw [own] at keeps
      obtain ⟨first, later⟩ := List.forall_mem_cons.mp keeps
      have text : slot.text? other = slot.text? child := by
        rcases here with rfl | ⟨apart, _, rfl⟩
        · rfl
        · exact first.resolve_left apart
      rw [Slot.found, Slot.found, own, ownToo, List.map_cons, List.map_cons, text]
      exact congrArg _ (ih later)

-- An item as it is read, seen from a place between some of its nodes and the others.
structure Parted (feed : String) (before behind : List Node) (mark : Bool) (entry : Entry) (kids others : List Child) :
    Prop where
  early : childrenFrom ["category"] mark none before = some kids
  late : childrenFrom ["category"] mark (begun ["category"] none before) behind = some others
  named : entry.feed = feed
  dated : entry.publishedAt = entry.pubDate.bind Rss.date?
  reads : ∀ slot : Slot, slot.Reads (kids ++ others) (entry.texts slot)

variable {header item : List Char} {other : Entry}

-- Text may be parted at the place, unless a reference is cut.
theorem itemOf?_parted (means : (resolve? words).isSome)
    (read : Rss.itemOf? feed ⟨item, header, front ++ wordNodes (words ++ more) ++ back, mark⟩ = some entry) :
    (attributes? header).isSome ∧ ∃ kids others,
      Parted feed (front ++ wordNodes words) (wordNodes more ++ back) mark entry kids others := by
  obtain ⟨named, dated, record, formed, reads⟩ := itemOf?_eq_some_iff.mp read
  obtain ⟨pairs, header, formed⟩ := Option.bind_eq_some_iff.mp formed
  obtain ⟨kids, children, rfl⟩ := Option.map_eq_some_iff.mp formed
  obtain ⟨early, late, rfl, readEarly, readLate⟩ := children?_parted means children
  exact ⟨by rw [header]; rfl, early, late, readEarly, readLate, named, dated, reads⟩

theorem isListed_category (name : List Char) :
    isListed ["category"] name = decide (localName name = Slot.category.label.toList) :=
  Bool.or_false _

theorem isNamed_iff (child : Child) (slot : Slot) :
    child.isNamed slot.label = true ↔ localName child.name = slot.label.toList := by
  rw [Child.isNamed, decide_eq_true_eq]

theorem exists_settled (settles : List.Forall₂ (Settles full) kids others) (present : child ∈ others) :
    ∃ before ∈ kids, Settles full before child := by
  induction settles with
  | nil => cases present
  | @cons before after _ _ here _ ih =>
    rcases List.mem_cons.mp present with rfl | later
    · exact ⟨before, List.mem_cons_self, here⟩
    · obtain ⟨earlier, within, settled⟩ := ih later
      exact ⟨earlier, List.mem_cons_of_mem _ within, settled⟩

namespace Parted

-- An element that belongs to no slot is passed over.
theorem untouched (parted : Parted feed before behind mark entry kids others) (formed : (attributes? header).isSome)
    (sounds : soundAll content = true) (foreign : ∀ slot : Slot, localName name ≠ slot.label.toList) :
    Rss.itemOf? feed ⟨item, header, before ++ .element name attributes content :: behind, mark⟩ = some entry := by
  obtain ⟨pairs, formed⟩ := Option.isSome_iff_exists.mp formed
  have apart : isListed ["category"] name = false := by
    rw [isListed_category]
    exact decide_eq_false (foreign .category)
  obtain ⟨own, read⟩ := children?_unlisted attributes apart sounds parted.early parted.late
  refine itemOf?_eq_some_iff.mpr ⟨parted.named, parted.dated, _, ofElement?_of_kids formed read item, fun slot => ?_⟩
  refine (parted.reads slot).insert_other rfl rfl ?_
  rw [← Bool.not_eq_true, isNamed_iff]
  exact foreign slot

-- What a slot reads when the element is among the children: its text in its own slot, and what was there in the others.
def Becomes (slot : Slot) (text : Option String) (behind : List Node) (entry : Entry) (place : Slot)
    (texts : List String) : Prop :=
  (place = slot → ∃ front back, entry.texts slot = front ++ back ∧ texts = front ++ (text.toList ++ back)) ∧
    (place ≠ slot → (slot = .category → place = .guid → hasPlainGuids behind = true) → texts = entry.texts place)

theorem extended_of_becomes {text : Option String} (parted : Parted feed before behind mark entry kids others)
    (formed : (attributes? header).isSome) {all : List Child}
    (read : children? ["category"] mark content = some all) (new : slot ≠ .category → entry.texts slot = [])
    (reads : ∀ place : Slot, ∃ texts, place.Reads all texts ∧ Becomes slot text behind entry place texts) :
    ∃ other, Rss.itemOf? feed ⟨item, header, content, mark⟩ = some other ∧ Extended slot text behind entry other := by
  obtain ⟨pairs, formed⟩ := Option.isSome_iff_exists.mp formed
  obtain ⟨other, brought, named, dated, became⟩ := itemOf?_of_kids formed read reads feed item
  refine ⟨other, brought, named.trans parted.named.symm, (became slot).1 rfl, new, fun place => (became place).2,
    fun untouched => ?_⟩
  have date : other.pubDate = entry.pubDate := toList_injective ((became .pubDate).2 untouched.symm nofun)
  rw [dated, parted.dated, date]

theorem exists_becomes {text : Option String} {late : List Child}
    (parted : Parted feed before behind mark entry kids others) (label : localName child.name = slot.label.toList)
    (tells : slot.text? child = some text) (allows : slot.Allows (slot.names (kids ++ child :: late)))
    (names : ∀ place : Slot, place.names late = place.names others)
    (found : ∀ place : Slot, (slot = .category → place = .guid → hasPlainGuids behind = true) →
      place.found late = place.found others)
    (readable : slot = .category → ∀ guid ∈ Slot.guid.elements late, (Slot.guid.text? guid).isSome) (place : Slot) :
    ∃ texts, place.Reads (kids ++ child :: late) texts ∧ Becomes slot text behind entry place texts := by
  by_cases same : place = slot
  · subst same
    have own := found place fun first second => nomatch first.symm.trans second
    obtain ⟨front, back, parts, reads⟩ :=
      (parted.reads place).insert_own own ((isNamed_iff child place).mpr label) tells allows
    exact ⟨_, reads, fun _ => ⟨front, back, parts, rfl⟩, fun other => absurd rfl other⟩
  · have apart : child.isNamed place.label = false := by
      rw [← Bool.not_eq_true, isNamed_iff, label, String.toList_inj, Slot.label_injective]
      exact Ne.symm same
    by_cases stays : slot = .category → place = .guid → hasPlainGuids behind = true
    · exact ⟨_, (parted.reads place).insert_other (names place) (found place stays) apart,
        fun here => absurd here same, fun _ _ => rfl⟩
    · obtain ⟨isCategory, isGuid, _⟩ : slot = .category ∧ place = .guid ∧ ¬ hasPlainGuids behind = true := by
        simpa only [Classical.not_imp] using stays
      subst isGuid
      have none : Slot.guid.elements (child :: late) = Slot.guid.elements late :=
        List.filter_cons_of_neg (by rw [apart]; exact Bool.false_ne_true)
      have whole : Slot.guid.elements (kids ++ child :: late) = Slot.guid.elements kids ++ Slot.guid.elements late := by
        rw [Slot.elements_append, none]
      have allowsGuid : Slot.guid.Allows (Slot.guid.names (kids ++ child :: late)) := by
        have before := (parted.reads .guid).1
        rw [Slot.names_append, ← names .guid] at before
        rw [Slot.names, whole, List.map_append]
        exact before
      have each : ∀ guid ∈ Slot.guid.elements (kids ++ child :: late), (Slot.guid.text? guid).isSome := by
        rw [whole]
        refine List.forall_mem_append.mpr ⟨fun guid present => ?_, readable isCategory⟩
        refine (parted.reads .guid).text?_isSome guid ?_
        rw [Slot.elements_append]
        exact List.mem_append_left _ present
      obtain ⟨texts, reads⟩ := Slot.exists_reads allowsGuid each
      exact ⟨texts, reads, fun here => absurd here same, fun _ refused => absurd refused stays⟩

theorem texts_eq_nil (parted : Parted feed before behind mark entry kids others)
    (label : localName name = slot.label.toList) (single : slot ≠ .category)
    (takes : slot.Takes name (elementNames (before ++ behind))) : entry.texts slot = [] := by
  have alone : ∀ full ∈ elementNames (before ++ behind), localName full ≠ localName name := by
    cases slot with
    | category => exact absurd rfl single
    | title | link | guid | pubDate | description | author => exact takes
  have nothing : slot.elements (kids ++ others) = [] := by
    refine List.filter_eq_nil_iff.mpr fun child present isSlot => ?_
    refine alone child.name ?_ (((isNamed_iff child slot).mp isSlot).trans label.symm)
    rw [elementNames_append, ← childrenFrom_names parted.early, ← childrenFrom_names parted.late, ← List.map_append]
    exact List.mem_map_of_mem present
  obtain ⟨_, values, found, texts⟩ := parted.reads slot
  rw [Slot.found, nothing, List.map_nil, eq_comm, List.map_eq_nil_iff] at found
  rw [texts, found]
  rfl

-- The only element of its slot is read.
theorem extended_once (parted : Parted feed before behind mark entry kids others) (headed : (attributes? header).isSome)
    (flat : Flat inner content) (sounds : soundAll content = true) (formed : (attributes? attributes).isSome)
    (label : localName name = slot.label.toList) (single : slot ≠ .category)
    (takes : slot.Takes name (elementNames (before ++ behind))) : ∃ other,
      Rss.itemOf? feed ⟨item, header, before ++ .element name attributes content :: behind, mark⟩ = some other ∧
        Extended slot (slot.told content) behind entry other := by
  have apart : isListed ["category"] name = false := by
    rw [isListed_category, label, decide_eq_false_iff_not, String.toList_inj, Slot.label_injective]
    exact single
  obtain ⟨own, read⟩ := children?_unlisted attributes apart sounds parted.early parted.late
  have named := children?_names read
  rw [elementNames_append, elementNames] at named
  have allows := (allows_iff_takes label named).mpr takes
  have tells := text?_told ⟨name, attributes, content, own⟩ flat sounds formed slot
  have new := parted.texts_eq_nil label single takes
  exact parted.extended_of_becomes headed read (fun _ => new) fun place => parted.exists_becomes label tells allows
    (fun _ => rfl) (fun _ _ => rfl) (fun isCategory => absurd isCategory single) place

-- Categories settle the elements behind them, but for categories. That is seen only where a guid has elements in it.
theorem found_late (parted : Parted feed before behind mark entry kids others)
    (only : ∀ full ∈ elementNames behind, localName full = Slot.category.label.toList → full = name)
    {late : List Child} (settles : List.Forall₂ (Settles name) others late) (place : Slot)
    (plain : place = .guid → hasPlainGuids behind = true) : place.found late = place.found others := by
  have nodes := childrenFrom_nodes parted.late
  refine found_settles settles fun child present => ?_
  obtain ⟨within, isPlace⟩ := List.mem_filter.mp present
  have stands : child.node ∈ behind.filter isElement := nodes ▸ List.mem_map_of_mem within
  have label := (isNamed_iff child place).mp isPlace
  cases place with
  | title | link | pubDate | description | author =>
    exact .inr (congrArg (Option.map some) (plainText?_settled child true))
  | guid =>
    refine .inr (mixedText?_settled ?_ true)
    have guids := List.all_eq_true.mp (plain rfl) _ (List.mem_filter.mp stands).1
    have isGuid : (localName child.name == "guid".toList) = true := beq_iff_eq.mpr label
    simp only [Child.node, isGuid, Bool.not_true, Bool.false_or, Bool.not_eq_true'] at guids
    exact guids
  | category =>
    refine .inl (only child.name ?_ label)
    rw [← childrenFrom_names parted.late]
    exact List.mem_map_of_mem within

theorem extended_category (parted : Parted feed before behind mark entry kids others)
    (headed : (attributes? header).isSome) (flat : Flat inner content) (sounds : soundAll content = true)
    (formed : (attributes? attributes).isSome) (label : localName name = Slot.category.label.toList)
    (fits : Slot.category.Fits name before behind) : ∃ other,
      Rss.itemOf? feed ⟨item, header, before ++ .element name attributes content :: behind, mark⟩ = some other ∧
        Extended .category (Slot.category.told content) behind entry other := by
  obtain ⟨takes, follows⟩ := fits
  have listed : isListed ["category"] name = true := by
    rw [isListed_category]
    exact decide_eq_true label
  have alike : ∀ full ∈ elementNames (before ++ behind), isListed ["category"] full = true → full = name := by
    intro full present isCategory
    rw [isListed_category, decide_eq_true_eq] at isCategory
    exact takes full present (isCategory.trans label.symm)
  have only : ∀ full ∈ elementNames behind, localName full = Slot.category.label.toList → full = name := by
    intro full present isCategory
    refine alike full ?_ (by rw [isListed_category]; exact decide_eq_true isCategory)
    rw [elementNames_append]
    exact List.mem_append_right _ present
  obtain ⟨late, read, settles⟩ := children?_listed attributes content listed alike
    (follows rfl) parted.early parted.late
  have named := children?_names read
  rw [elementNames_append, elementNames] at named
  have allows := (allows_iff_takes label named).mpr takes
  have tells := text?_told ⟨name, attributes, content, mark⟩ flat sounds formed .category
  refine parted.extended_of_becomes headed read (absurd rfl) fun place => parted.exists_becomes label tells allows
    (names_settles settles) (fun place plain => parted.found_late only settles place (plain rfl)) (fun _ guid present => ?_)
    place
  obtain ⟨within, isGuid⟩ := List.mem_filter.mp present
  obtain ⟨earlier, stands, settled⟩ := exists_settled settles within
  have isGuidToo : earlier.isNamed Slot.guid.label = true := by
    rcases settled with rfl | ⟨_, _, rfl⟩ <;> exact isGuid
  have readable : (mixedText? earlier).isSome := by
    refine (parted.reads .guid).text?_isSome earlier (List.mem_filter.mpr ⟨List.mem_append_right _ stands, isGuidToo⟩)
  rcases settled with rfl | ⟨_, meaning, rfl⟩
  · exact readable
  · exact mixedText?_settled_isSome meaning readable

-- One that the item cannot take spoils it.
theorem refused (unfit : ¬ slot.Fits name before behind) (label : localName name = slot.label.toList) :
    Rss.itemOf? feed ⟨item, header, before ++ .element name attributes content :: behind, mark⟩ = none := by
  cases read : children? ["category"] mark (before ++ .element name attributes content :: behind) with
  | none => exact itemOf?_of_refused read
  | some all =>
    have named := children?_names read
    rw [elementNames_append, elementNames] at named
    refine itemOf?_of_not_allowed read fun allows => unfit ⟨(allows_iff_takes label named).mp allows, ?_⟩
    rintro rfl
    by_contra stops
    obtain ⟨new, stops⟩ := not_or.mp stops
    have takes := (allows_iff_takes label named).mp allows
    have quiet : begun ["category"] none before = none := by
      refine begun_eq_none_iff.mpr fun full present => ?_
      rw [isListed_category, decide_eq_false_iff_not]
      intro isCategory
      refine new (takes full ?_ (isCategory.trans label.symm) ▸ present)
      rw [elementNames_append]
      exact List.mem_append_left _ present
    have listed : isListed ["category"] name = true := by
      rw [isListed_category]
      exact decide_eq_true label
    rw [children?_refused listed quiet stops] at read
    cases read

end Parted

end Harvester.Feed
