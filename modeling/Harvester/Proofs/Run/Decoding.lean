import Harvester.Proofs.History.Unreadable
import Harvester.Proofs.Json.Elements
import Harvester.Proofs.Json.Written
namespace Harvester

open Json Text

theorem Param.toJson_of_ofJson? {doc : Json} {p : Param} (read : ofJson? doc = some p) : p.toJson = doc := by
  cases doc with
  | int n =>
    obtain ⟨held, value, rfl⟩ := Option.map_eq_some_iff.mp read
    unfold Long.ofInt? at value
    split at value
    · cases value
      rfl
    · cases value
  | str s =>
    cases read
    rfl
  | null | bool | decimal | unpaired | arr | obj => cases read

-- A name and the value it was given.
def ReadsField (field : String × Json) (pair : String × Param) : Prop :=
  (Param.ofJson? field.2).map (fun value => (field.1, value)) = some pair

-- Each pair in turn replaces what its name was given before.
theorem get?_foldl_fields {fields : List (String × Json)} {pairs : List (String × Param)}
    (reads : List.Forall₂ ReadsField fields pairs) (table : Parameters) (key : String) :
    ((pairs.foldl (fun table pair => table.insert pair.1 pair.2) table).get? key).map Param.toJson =
      (lastField? key fields).or ((table.get? key).map Param.toJson) := by
  induction reads generalizing table with
  | nil => rfl
  | @cons field pair fields pairs first _ ih =>
    obtain ⟨name, doc⟩ := field
    obtain ⟨value, read, rfl⟩ := Option.map_eq_some_iff.mp first
    rw [List.foldl_cons, ih, lastField?, Keyed.get?_insert]
    cases lastField? key fields with
    | some found => rfl
    | none =>
      by_cases same : name = key
      · simp [same, Param.toJson_of_ofJson? read]
      · simp [same]

namespace Parameters

theorem ofJson?_last {fields : List (String × Json)} {p : Parameters} (read : ofJson? (.obj fields) = some p)
    (key : String) : (p.get? key).map Param.toJson = lastField? key fields := by
  obtain ⟨pairs, members, rfl⟩ := Option.map_eq_some_iff.mp read
  have last := get?_foldl_fields (mapM_eq_some_iff.mp members) Keyed.empty key
  rw [Keyed.get?_empty, Option.map_none, Option.or_none] at last
  exact last

theorem decode?_document {text : String} {doc : Json} (document : Document text doc) : decode? text = ofJson? doc := by
  rw [decode?, document.parse, Option.bind_some]

theorem decode?_eq_some_iff {text : String} {p : Parameters} :
    decode? text = some p ↔ ∃ fields, Document text (.obj fields) ∧ ofJson? (.obj fields) = some p := by
  constructor
  · intro decoded
    obtain ⟨doc, parsed, read⟩ := Option.bind_eq_some_iff.mp decoded
    cases doc with
    | obj fields => exact ⟨fields, parse?_eq_some_iff.mp parsed, read⟩
    | null | bool | int | decimal | str | unpaired | arr => cases read
  · rintro ⟨fields, document, read⟩
    rw [decode?_document document, read]

theorem encode_document (p : Parameters) : Document p.encode (toJson p) := document_toText (toJson_exact p)

theorem decode?_encode (p : Parameters) : decode? p.encode = some p := by
  rw [decode?_document p.encode_document, ofJson?_toJson]

theorem encode_names (p : Parameters) :
    ((p.entries.map fun entry => (entry.1, entry.2.toJson)).map Prod.fst).Pairwise fun x y => utf8 x < utf8 y := by
  rw [List.map_map]
  exact p.keys_ascending.imp utf8_lt

-- The texts that are parameters, by the grammar: one object, with blanks around it, whose members are texts and longs.
-- The last of the members of one name counts. What is written back has each name once, in the order of their bytes, and
-- is read as the same parameters.
theorem decode?_language :
    (∀ text, (∃ p, decode? text = some p) ↔
      ∃ fields, Document text (.obj fields) ∧ ∀ field ∈ fields, field.2.IsParam) ∧
    (∀ {text fields}, Document text (.obj fields) → ∀ field ∈ fields, ¬ field.2.IsParam → decode? text = none) ∧
    (∀ {text fields trailing}, Document text (.obj fields) → (∃ c ∈ trailing.toList, isSpace c = false) →
      decode? (text ++ trailing) = none) ∧
    (∀ {text fields p}, Document text (.obj fields) → decode? text = some p →
      (∀ key, (p.get? key).map Param.toJson = lastField? key fields) ∧
        ∃ written, Document p.encode (.obj written) ∧ (written.map Prod.fst).Pairwise (fun x y => utf8 x < utf8 y) ∧
          ∀ key, lastField? key written = lastField? key fields) ∧
    ∀ p, decode? p.encode = some p := by
  have members {text : String} {fields : List (String × Json)} (document : Document text (.obj fields)) :
      (decode? text).isSome ↔ ∀ field ∈ fields, field.2.IsParam := by
    rw [decode?_document document, ofJson?_isSome, isObjectOf_obj]
  refine ⟨fun text => ⟨?_, ?_⟩, ?_, ?_, ?_, decode?_encode⟩
  · rintro ⟨p, decoded⟩
    obtain ⟨fields, document, _⟩ := decode?_eq_some_iff.mp decoded
    exact ⟨fields, document, (members document).mp (by rw [decoded]; rfl)⟩
  · rintro ⟨fields, document, params⟩
    exact Option.isSome_iff_exists.mp ((members document).mpr params)
  · intro text fields document field present other
    refine Option.not_isSome_iff_eq_none.mp fun decoded => ?_
    exact other ((members document).mp decoded field present)
  · intro text fields trailing document more
    rw [decode?, document.alone more, Option.bind_none]
  · intro text fields p document decoded
    rw [decode?_document document] at decoded
    have last := ofJson?_last decoded
    have written := ofJson?_last (ofJson?_toJson p)
    exact ⟨last, _, p.encode_document, p.encode_names, fun key => (written key).symm.trans (last key)⟩

-- A repeated name, the largest number and the next one, a zero with a sign, and a character behind the object.
theorem decode?_language_repeated :
    let repeated := "\x7b\"b\": 9223372036854775807, \"a\": 1, \"a\": \"\\u0041\"\x7d\n"
    let large := "\x7b\"b\": 9223372036854775808, \"a\": 1\x7d"
    let signed := "\x7b\"a\": -0\x7d"
    (∃ p, decode? repeated = some p ∧ (p.get? "a").map Param.toJson = some (.str "A") ∧ decode? p.encode = some p) ∧
      decode? large = none ∧ decode? signed = none ∧ decode? (repeated ++ "1") = none := by
  have document : Document "\x7b\"b\": 9223372036854775807, \"a\": 1, \"a\": \"\\u0041\"\x7d\n"
      (.obj [("b", .int 9223372036854775807), ("a", .int 1), ("a", .str "A")]) := parse?_eq_some_iff.mp rfl
  have documentLarge : Document "\x7b\"b\": 9223372036854775808, \"a\": 1\x7d"
      (.obj [("b", .int 9223372036854775808), ("a", .int 1)]) := parse?_eq_some_iff.mp rfl
  have documentSigned : Document "\x7b\"a\": -0\x7d" (.obj [("a", .decimal ⟨true, ['0'], [], none⟩)]) :=
    parse?_eq_some_iff.mp rfl
  intro repeated large signed
  obtain ⟨accepts, refuses, alone, kept, back⟩ := decode?_language
  have params : ∀ field ∈ [("b", Json.int 9223372036854775807), ("a", .int 1), ("a", .str "A")], field.2.IsParam := by
    simp only [List.forall_mem_cons]
    exact ⟨.long (by decide), .long (by decide), .text "A", List.forall_mem_nil _⟩
  obtain ⟨p, decoded⟩ := (accepts repeated).mpr ⟨_, document, params⟩
  refine ⟨⟨p, decoded, (kept document decoded).1 "a", back p⟩, ?_, ?_, alone document ⟨'1', by decide, rfl⟩⟩
  · refine refuses documentLarge _ List.mem_cons_self ?_
    rintro ⟨held⟩
    exact absurd held (by decide)
  · exact refuses documentSigned _ List.mem_cons_self nofun

end Parameters

end Harvester
