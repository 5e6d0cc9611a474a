import Harvester.Proofs.Json.Literal
import Harvester.Proofs.Json.Number
namespace Harvester.Json

open Text

-- What is read of a document that is written.

def accepted (r : Reading) (cs : List Char) : Option Json := (run r cs).bind finish

theorem accepted_of_run {r next : Reading} (same : run r cs = run next ds) : accepted r cs = accepted next ds :=
  congrArg (Option.bind · finish) same

-- A number ends at the end of the text, or before something else than a part of a number.
def Stops (rest : List Char) : Prop := ∀ c, rest.head? = some c → Ends c

theorem stops_cons {c : Char} (ends : Ends c) (rest : List Char) : Stops (c :: rest) := by
  intro d first
  cases first
  exact ends

theorem stops_comma (rest : List Char) : Stops (',' :: rest) := stops_cons (by decide) rest

theorem stops_blanks {bs rest : List Char} (blanks : Spaces bs) (stops : Stops rest) : Stops (bs ++ rest) := by
  cases bs with
  | nil => exact stops
  | cons b bs =>
    have space := blanks b List.mem_cons_self
    refine stops_cons ?_ _
    simp only [isSpace, Bool.or_eq_true, beq_iff_eq] at space
    rcases space with ((rfl | rfl) | rfl) | rfl <;> decide

theorem accepted_figures {f : Figures} {v : Json} (value : f.finish = some v) (frames : List Frame) {rest : List Char}
    (stops : Stops rest) : accepted ⟨frames, .figures f⟩ rest = accepted (deliver v frames) rest := by
  cases rest with
  | nil =>
    cases frames with
    | nil => exact value
    | cons frame frames => cases frame <;> rfl
  | cons c rest => exact accepted_of_run (run_ended frames c rest (Figures.step_ends value (stops c rfl)) value)

theorem deliver_between (v : Json) (frames : List Frame) : (deliver v frames).IsBetween := step_deliver v frames

theorem run_known {v : Json} (known : (cs, v) ∈ words) (frames : List Frame) (closable : Bool) (rest : List Char) :
    run ⟨frames, .value closable⟩ (cs ++ rest) = run (deliver v frames) rest := by
  simp only [words, List.mem_cons, Prod.mk.injEq, List.not_mem_nil, or_false] at known
  rcases known with ⟨rfl, rfl⟩ | ⟨rfl, rfl⟩ | ⟨rfl, rfl⟩
  · exact (run_next (step_begin frames closable rfl (by decide))).trans (run_word ['u', 'l', 'l'] nofun _ _ _)
  · exact (run_next (step_begin frames closable rfl (by decide))).trans (run_word ['r', 'u', 'e'] nofun _ _ _)
  · exact (run_next (step_begin frames closable rfl (by decide))).trans (run_word ['a', 'l', 's', 'e'] nofun _ _ _)

theorem run_literalValue {us : List Nat} (literal : Literal cs us) {v : Json} {frames : List Frame}
    (done : quotedDone frames (Quoted.ofUnits us).closed false = some (deliver v frames)) (closable : Bool)
    (rest : List Char) : run ⟨frames, .value closable⟩ (cs ++ rest) = run (deliver v frames) rest := by
  cases literal with
  | quoted letters =>
    have opened : step ⟨frames, .value closable⟩ '"' = some ⟨frames, .quoted .start false⟩ :=
      step_begin frames closable rfl (by decide)
    rw [List.cons_append, run_next opened, run_literal frames false (.quoted letters), done]
    rfl

theorem run_spelledName {key : String} (name : Name cs key) (fields : List (String × Json)) (old : String)
    (frames : List Frame) (closable : Bool) (rest : List Char) :
    run ⟨.record fields old :: frames, .name closable⟩ (cs ++ rest) = run ⟨.record fields key :: frames, .colon⟩ rest := by
  cases name with
  | @named bs ls us as _ before literal means after =>
    obtain ⟨whole, text⟩ := literal.closed_text means
    have opened : step ⟨.record fields old :: frames, .name closable⟩ '"' =
        some ⟨.record fields old :: frames, .quoted .start true⟩ := by
      simp [step, between, isSpace]
    have done : quotedDone (.record fields old :: frames) (Quoted.ofUnits us).closed true =
        some ⟨.record fields key :: frames, .colon⟩ := by
      simp [quotedDone, whole, text]
    cases literal with
    | quoted letters =>
      rw [List.append_assoc, List.append_assoc, run_blanks (fun _ => rfl) bs _ before, List.cons_append, run_next opened,
        run_literal _ true (.quoted letters), done]
      exact run_blanks (fun _ => rfl) as rest after

-- Each part of a document takes the reader from where it may begin to where something else may follow.
def Phrase.Taken (cs : List Char) : Phrase → Prop
  | .value v | .element v => ∀ frames closable rest, Stops rest →
      accepted ⟨frames, .value closable⟩ (cs ++ rest) = accepted (deliver v frames) rest
  | .items vs => ∀ frames read closable rest, Stops rest →
      accepted ⟨.list read :: frames, .value closable⟩ (cs ++ rest) =
        accepted ⟨.list (vs.reverse ++ read) :: frames, .follow⟩ rest
  | .member field => ∀ frames read key closable rest, Stops rest →
      accepted ⟨.record read key :: frames, .name closable⟩ (cs ++ rest) =
        accepted ⟨.record (field :: read) "" :: frames, .follow⟩ rest
  | .members fields => ∀ frames read key closable rest, Stops rest →
      accepted ⟨.record read key :: frames, .name closable⟩ (cs ++ rest) =
        accepted ⟨.record (fields.reverse ++ read) "" :: frames, .follow⟩ rest

theorem Phrase.Taken.arr {vs : List Json} (items : (Phrase.items vs).Taken cs) (frames : List Frame) (closable : Bool)
    (rest : List Char) :
    accepted ⟨frames, .value closable⟩ ('[' :: (cs ++ [']']) ++ rest) = accepted (deliver (.arr vs) frames) rest := by
  rw [List.cons_append, List.append_assoc, List.singleton_append,
    accepted_of_run (run_next (step_openList frames closable)), items frames [] true _ (stops_cons (by decide) rest), List.append_nil]
  exact accepted_of_run (run_next (step_closeList frames vs))

theorem Phrase.Taken.obj {fields : List (String × Json)} (members : (Phrase.members fields).Taken cs)
    (frames : List Frame) (closable : Bool) (rest : List Char) :
    accepted ⟨frames, .value closable⟩ ('{' :: (cs ++ ['}']) ++ rest) = accepted (deliver (.obj fields) frames) rest := by
  rw [List.cons_append, List.append_assoc, List.singleton_append,
    accepted_of_run (run_next (step_openRecord frames closable)), members frames [] "" true _ (stops_cons (by decide) rest), List.append_nil]
  exact accepted_of_run (run_next (step_closeRecord frames fields))

theorem accepted_emptyArr {bs : List Char} (blanks : Spaces bs) (frames : List Frame) (closable : Bool) (rest : List Char) :
    accepted ⟨frames, .value closable⟩ ('[' :: (bs ++ [']']) ++ rest) = accepted (deliver (.arr []) frames) rest := by
  rw [List.cons_append, List.append_assoc, accepted_of_run (run_next (step_openList frames closable)),
    accepted_of_run (run_blanks (fun _ => rfl) bs _ blanks)]
  exact accepted_of_run (run_next rfl)

theorem accepted_emptyObj {bs : List Char} (blanks : Spaces bs) (frames : List Frame) (closable : Bool) (rest : List Char) :
    accepted ⟨frames, .value closable⟩ ('{' :: (bs ++ ['}']) ++ rest) = accepted (deliver (.obj []) frames) rest := by
  rw [List.cons_append, List.append_assoc, accepted_of_run (run_next (step_openRecord frames closable)),
    accepted_of_run (run_blanks (fun _ => rfl) bs _ blanks)]
  exact accepted_of_run (run_next rfl)

theorem Spells.taken {p : Phrase} (spelled : Spells cs p) : p.Taken cs := by
  induction spelled with
  | word known => exact fun frames closable rest _ => accepted_of_run (run_known known frames closable rest)
  | number number =>
    intro frames closable rest stops
    obtain ⟨f, value, reads⟩ := run_number frames closable number
    rw [accepted_of_run (reads rest), accepted_figures value frames stops]
  | text literal s means =>
    intro frames closable rest _
    obtain ⟨whole, text⟩ := literal.closed_text means
    exact accepted_of_run (run_literalValue literal (by simp [quotedDone, whole, text]) closable rest)
  | unpaired literal stray =>
    intro frames closable rest _
    have broken := literal.closed_stray stray
    exact accepted_of_run (run_literalValue literal (by simp [quotedDone, broken]) closable rest)
  | emptyArr blanks => exact fun frames closable rest _ => accepted_emptyArr blanks frames closable rest
  | arr items ih => exact fun frames closable rest _ => Phrase.Taken.arr ih frames closable rest
  | emptyObj blanks => exact fun frames closable rest _ => accepted_emptyObj blanks frames closable rest
  | obj members ih => exact fun frames closable rest _ => Phrase.Taken.obj ih frames closable rest
  | element before value after ih =>
    intro frames closable rest stops
    rw [List.append_assoc, List.append_assoc, accepted_of_run (run_blanks (fun _ => rfl) _ _ before),
      ih frames closable _ (stops_blanks after stops)]
    exact accepted_of_run (run_blanks (deliver_between _ frames) _ rest after)
  | firstItem first ih => exact fun frames read closable rest stops => ih (.list read :: frames) closable rest stops
  | nextItem items next ihItems ihNext =>
    intro frames read closable rest stops
    rw [List.append_assoc, List.cons_append, ihItems frames read closable _ (stops_comma _),
      accepted_of_run (run_next (step_nextItem frames _)), ihNext _ false rest stops, List.reverse_append]
    rfl
  | member name value ih =>
    intro frames read key closable rest stops
    rw [List.append_assoc, accepted_of_run (run_spelledName name read key frames closable _)]
    exact (accepted_of_run (run_next rfl)).trans (ih _ false rest stops)
  | firstMember first ih => exact fun frames read key closable rest stops => ih frames read key closable rest stops
  | nextMember members next ihMembers ihNext =>
    intro frames read key closable rest stops
    rw [List.append_assoc, List.cons_append, ihMembers frames read key closable _ (stops_comma _),
      accepted_of_run (run_next (step_nextField frames _ _)), ihNext frames _ "" false rest stops, List.reverse_append]
    rfl

theorem Spells.taken_obj {fields : List (String × Json)} (spelled : Spells cs (.value (.obj fields)))
    (frames : List Frame) (closable : Bool) (rest : List Char) :
    accepted ⟨frames, .value closable⟩ (cs ++ rest) = accepted (deliver (.obj fields) frames) rest := by
  cases spelled with
  | word known => simp [words] at known
  | number number => cases number
  | emptyObj blanks => exact accepted_emptyObj blanks frames closable rest
  | obj members => exact Phrase.Taken.obj members.taken frames closable rest

theorem accepted_finished {doc : Json} (more : ∃ c ∈ cs, isSpace c = false) : accepted ⟨[], .finished doc⟩ cs = none := by
  induction cs with
  | nil =>
    obtain ⟨c, present, _⟩ := more
    cases present
  | cons c cs ih =>
    by_cases space : isSpace c = true
    · have later : ∃ d ∈ cs, isSpace d = false := by
        obtain ⟨d, present, visible⟩ := more
        rcases List.mem_cons.mp present with rfl | present
        · rw [space] at visible
          cases visible
        · exact ⟨d, present, visible⟩
      have skipped : step ⟨[], .finished doc⟩ c = some ⟨[], .finished doc⟩ := if_pos space
      rw [accepted_of_run (run_next skipped), ih later]
    · have refused : step ⟨[], .finished doc⟩ c = none := if_neg space
      rw [accepted, run_cons, refused]
      rfl

-- An object ends with its bracket: whatever else stands behind it, the text is no document any more.
theorem Document.alone {text trailing : String} {fields : List (String × Json)} (document : Document text (.obj fields))
    (more : ∃ c ∈ trailing.toList, isSpace c = false) : parse? (text ++ trailing) = none := by
  unfold Document at document
  change accepted ⟨[], .value false⟩ (text ++ trailing).toList = none
  rw [String.toList_append]
  generalize text.toList = cs at document
  cases document with
  | element before value after =>
    rw [List.append_assoc, List.append_assoc, accepted_of_run (run_blanks (fun _ => rfl) _ _ before),
      value.taken_obj [] false, accepted_of_run (run_blanks (deliver_between _ []) _ _ after)]
    exact accepted_finished more

theorem Document.parse {text : String} {doc : Json} (document : Document text doc) : parse? text = some doc := by
  have taken := document.taken [] false [] nofun
  rw [List.append_nil] at taken
  exact taken

-- What is written in a document that is read. A reader that stopped anywhere has seen the beginning of one: the parts
-- that are closed are spelled out, and the open arrays and objects stand around the place where it is.

-- The parts of an open array or object before the one that stands next, each with the comma behind it.
inductive Front (phrase : List α → Phrase) : List Char → List α → Prop
  | none : Front phrase [] []
  | parts {cs : List Char} {xs : List α} (parts : Spells cs (phrase xs)) : Front phrase (cs ++ [',']) xs

-- A value may begin here.
inductive Awaits : List Char → List Frame → Prop
  | document {bs : List Char} (blanks : Spaces bs) : Awaits bs []
  | item {seen cs bs : List Char} {frames : List Frame} {vs : List Json} (outer : Awaits seen frames)
      (front : Front .items cs vs) (blanks : Spaces bs) :
      Awaits (seen ++ '[' :: (cs ++ bs)) (.list vs.reverse :: frames)
  | member {seen cs ns bs : List Char} {frames : List Frame} {fields : List (String × Json)} {key : String}
      (outer : Awaits seen frames) (front : Front .members cs fields) (name : Name ns key) (blanks : Spaces bs) :
      Awaits (seen ++ '{' :: (cs ++ ns ++ ':' :: bs)) (.record fields.reverse key :: frames)

-- Between two tokens.
inductive Rests : List Char → Reading → Prop
  | value {seen : List Char} {frames : List Frame} (awaits : Awaits seen frames) : Rests seen ⟨frames, .value false⟩
  | opened {seen bs : List Char} {frames : List Frame} (outer : Awaits seen frames) (blanks : Spaces bs) :
      Rests (seen ++ '[' :: bs) ⟨.list [] :: frames, .value true⟩
  | name {seen cs bs : List Char} {frames : List Frame} {fields : List (String × Json)} {closable : Bool} (key : String)
      (outer : Awaits seen frames) (front : Front .members cs fields) (blanks : Spaces bs)
      (fresh : closable = true → cs = [] ∧ fields = []) :
      Rests (seen ++ '{' :: (cs ++ bs)) ⟨.record fields.reverse key :: frames, .name closable⟩
  | colon {seen cs ns : List Char} {frames : List Frame} {fields : List (String × Json)} {key : String}
      (outer : Awaits seen frames) (front : Front .members cs fields) (name : Name ns key) :
      Rests (seen ++ '{' :: (cs ++ ns)) ⟨.record fields.reverse key :: frames, .colon⟩
  | items {seen cs : List Char} {frames : List Frame} {vs : List Json} (outer : Awaits seen frames)
      (items : Spells cs (.items vs)) : Rests (seen ++ '[' :: cs) ⟨.list vs.reverse :: frames, .follow⟩
  | members {seen cs : List Char} {frames : List Frame} {fields : List (String × Json)} (key : String)
      (outer : Awaits seen frames) (members : Spells cs (.members fields)) :
      Rests (seen ++ '{' :: cs) ⟨.record fields.reverse key :: frames, .follow⟩
  | finished {seen : List Char} {v : Json} (document : Spells seen (.element v)) : Rests seen ⟨[], .finished v⟩

-- Anywhere.
inductive Reached : List Char → Reading → Prop
  | rests {seen : List Char} {r : Reading} (rests : Rests seen r) : Reached seen r
  | quotedName {seen cs bs ls : List Char} {frames : List Frame} {fields : List (String × Json)} {q : Quoted}
      (key : String) (outer : Awaits seen frames) (front : Front .members cs fields) (blanks : Spaces bs)
      (reads : Quoted.Reads ls q) :
      Reached (seen ++ '{' :: (cs ++ (bs ++ '"' :: ls))) ⟨.record fields.reverse key :: frames, .quoted q true⟩
  | quoted {seen ls : List Char} {frames : List Frame} {q : Quoted} (awaits : Awaits seen frames)
      (reads : Quoted.Reads ls q) : Reached (seen ++ '"' :: ls) ⟨frames, .quoted q false⟩
  | figures {seen cs : List Char} {frames : List Frame} {f : Figures} (awaits : Awaits seen frames)
      (reads : Figures.Reads cs f) : Reached (seen ++ cs) ⟨frames, .figures f⟩
  | word {seen begun left : List Char} {frames : List Frame} {v : Json} (awaits : Awaits seen frames)
      (known : (begun ++ left, v) ∈ words) : Reached (seen ++ begun) ⟨frames, .word left v⟩

theorem spaces_nil : Spaces [] := nofun

theorem Spaces.snoc {bs : List Char} {c : Char} (blanks : Spaces bs) (space : isSpace c = true) : Spaces (bs ++ [c]) := by
  intro d present
  rcases List.mem_append.mp present with earlier | last
  · exact blanks d earlier
  · rwa [List.mem_singleton.mp last]

-- Behind every part but a bare value there is room for blanks.
theorem Spells.blank {c : Char} (space : isSpace c = true) {p : Phrase} (spelled : Spells cs p)
    (part : ∀ v, p ≠ .value v) : Spells (cs ++ [c]) p := by
  induction spelled with
  | word | number | text | unpaired | emptyArr | arr | emptyObj | obj => exact absurd rfl (part _)
  | element before value after =>
    rw [List.append_assoc]
    exact .element before value (after.snoc space)
  | firstItem _ ih => exact .firstItem (ih nofun)
  | nextItem items _ _ ih =>
    rw [List.append_assoc]
    exact .nextItem items (ih nofun)
  | member name _ ih =>
    rw [List.append_assoc]
    exact .member name (ih nofun)
  | firstMember _ ih => exact .firstMember (ih nofun)
  | nextMember members _ _ ih =>
    rw [List.append_assoc]
    exact .nextMember members (ih nofun)

theorem Name.blank {c : Char} {key : String} (name : Name cs key) (space : isSpace c = true) : Name (cs ++ [c]) key := by
  cases name with
  | named before literal means after =>
    rw [List.append_assoc]
    exact .named before literal means (after.snoc space)

theorem Awaits.blank {seen : List Char} {frames : List Frame} {c : Char} (awaits : Awaits seen frames)
    (space : isSpace c = true) : Awaits (seen ++ [c]) frames := by
  cases awaits with
  | document blanks => exact .document (blanks.snoc space)
  | item outer front blanks =>
    have longer := Awaits.item outer front (blanks.snoc space)
    simpa only [List.append_assoc, List.cons_append] using longer
  | member outer front name blanks =>
    have longer := Awaits.member outer front name (blanks.snoc space)
    simpa only [List.append_assoc, List.cons_append] using longer

theorem Front.items {vs : List Json} {v : Json} (front : Front .items cs vs) (next : Spells ds (.element v)) :
    Spells (cs ++ ds) (.items (vs ++ [v])) := by
  cases front with
  | none => exact .firstItem next
  | parts items =>
    rw [List.append_assoc]
    exact .nextItem items next

theorem Front.members {fields : List (String × Json)} {field : String × Json} (front : Front .members cs fields)
    (next : Spells ds (.member field)) : Spells (cs ++ ds) (.members (fields ++ [field])) := by
  cases front with
  | none => exact .firstMember next
  | parts members =>
    rw [List.append_assoc]
    exact .nextMember members next

-- A value stands where one was awaited.
theorem Awaits.deliver {seen : List Char} {frames : List Frame} {v : Json} (awaits : Awaits seen frames)
    (value : Spells cs (.value v)) : Rests (seen ++ cs) (deliver v frames) := by
  have element {bs : List Char} (blanks : Spaces bs) : Spells (bs ++ cs) (.element v) := by
    have spelled := Spells.element blanks value spaces_nil
    rwa [List.append_nil] at spelled
  cases awaits with
  | document blanks => exact .finished (element blanks)
  | item outer front blanks =>
    have rests := Rests.items outer (front.items (element blanks))
    rw [List.reverse_concat] at rests
    simpa only [List.append_assoc, List.cons_append, Json.deliver] using rests
  | member outer front name blanks =>
    have rests := Rests.members "" outer (front.members (.member name (element blanks)))
    rw [List.reverse_concat] at rests
    simpa only [List.append_assoc, List.cons_append, Json.deliver] using rests

theorem Awaits.begin {seen : List Char} {frames : List Frame} {c : Char} {next : Reading} (awaits : Awaits seen frames)
    (taken : beginValue frames c = some next) : Reached (seen ++ [c]) next := by
  unfold beginValue at taken
  split at taken
  · cases taken
    exact .quoted awaits Quoted.reads_start
  · cases taken
    exact .rests (.opened awaits nofun)
  · cases taken
    exact .rests (.name "" awaits .none spaces_nil fun _ => ⟨rfl, rfl⟩)
  · cases taken
    exact .word awaits (by simp [words])
  · cases taken
    exact .word awaits (by simp [words])
  · cases taken
    exact .word awaits (by simp [words])
  · obtain ⟨f, started, rfl⟩ := Option.map_eq_some_iff.mp taken
    exact .figures awaits (Figures.reads_start started)

theorem Rests.between {seen : List Char} {r : Reading} (rests : Rests seen r) : r.IsBetween := by
  cases rests <;> exact fun _ => rfl

theorem Rests.blank {seen : List Char} {r : Reading} {c : Char} (rests : Rests seen r) (space : isSpace c = true) :
    Rests (seen ++ [c]) r := by
  cases rests with
  | value awaits => exact .value (awaits.blank space)
  | opened outer blanks =>
    rw [List.append_assoc]
    exact .opened outer (blanks.snoc space)
  | name key outer front blanks fresh =>
    have longer := Rests.name key outer front (blanks.snoc space) fresh
    simpa only [List.append_assoc, List.cons_append] using longer
  | colon outer front name =>
    have longer := Rests.colon outer front (name.blank space)
    simpa only [List.append_assoc, List.cons_append] using longer
  | items outer items =>
    rw [List.append_assoc]
    exact .items outer (items.blank space nofun)
  | members key outer members =>
    rw [List.append_assoc]
    exact .members key outer (members.blank space nofun)
  | finished document => exact .finished (document.blank space nofun)

-- A bracket closes what is innermost.
theorem Rests.close {seen : List Char} {frames : List Frame} {c : Char} {next : Reading}
    (rests : Rests seen ⟨frames, .follow⟩) (taken : closeFrame frames c = some next) : Rests (seen ++ [c]) next := by
  cases rests with
  | items outer items =>
    simp only [closeFrame, List.reverse_reverse, Option.ite_none_right_eq_some, Option.some.injEq] at taken
    obtain ⟨rfl, rfl⟩ := taken
    rw [List.append_assoc, List.cons_append]
    exact outer.deliver (.arr items)
  | members _ outer members =>
    simp only [closeFrame, List.reverse_reverse, Option.ite_none_right_eq_some, Option.some.injEq] at taken
    obtain ⟨rfl, rfl⟩ := taken
    rw [List.append_assoc, List.cons_append]
    exact outer.deliver (.obj members)

theorem Rests.step {seen : List Char} {r next : Reading} {c : Char} (rests : Rests seen r)
    (taken : Json.between r c = some next) : Reached (seen ++ [c]) next := by
  unfold Json.between at taken
  split at taken
  · rename_i space
    cases taken
    exact .rests (rests.blank space)
  · have closing := @Rests.close seen r.frames c next
    cases rests with
    | value awaits => exact awaits.begin taken
    | opened outer blanks =>
      dsimp only at taken
      split at taken
      · rename_i close
        obtain ⟨_, rfl⟩ := close
        cases taken
        rw [List.append_assoc, List.cons_append]
        exact .rests (outer.deliver (.emptyArr blanks))
      · have awaits := Awaits.item outer .none blanks
        exact awaits.begin taken
    | name key outer front blanks fresh =>
      dsimp only at taken
      split at taken
      · rename_i close
        obtain ⟨first, rfl⟩ := close
        obtain ⟨rfl, rfl⟩ := fresh first
        cases taken
        rw [List.append_assoc, List.cons_append]
        exact .rests (outer.deliver (.emptyObj blanks))
      · simp only [Option.ite_none_right_eq_some, Option.some.injEq] at taken
        obtain ⟨rfl, rfl⟩ := taken
        have reached := Reached.quotedName key outer front blanks Quoted.reads_start
        simpa only [List.append_assoc, List.cons_append] using reached
    | colon outer front name =>
      simp only [Option.ite_none_right_eq_some, Option.some.injEq] at taken
      obtain ⟨rfl, rfl⟩ := taken
      have awaits := Awaits.member outer front name spaces_nil
      simpa only [List.append_assoc, List.cons_append] using Reached.rests (.value awaits)
    | items outer items =>
      dsimp only [afterValue] at taken
      split at taken
      · rename_i comma
        cases taken
        subst comma
        have awaits := Awaits.item outer (.parts items) spaces_nil
        simpa only [List.append_assoc, List.cons_append, List.append_nil] using Reached.rests (.value awaits)
      · exact .rests (closing (.items outer items) taken)
    | members key outer members =>
      dsimp only [afterValue] at taken
      split at taken
      · rename_i comma
        cases taken
        subst comma
        have name := @Rests.name _ _ _ _ _ false key outer (.parts members) spaces_nil nofun
        simpa only [List.append_assoc, List.cons_append, List.append_nil] using Reached.rests name
      · exact .rests (closing (.members key outer members) taken)
    | finished => cases taken

theorem Reached.step_quoted {seen ls : List Char} {frames : List Frame} {q : Quoted} {c : Char} {next : Reading}
    (awaits : Awaits seen frames) (reads : Quoted.Reads ls q) (taken : Json.step ⟨frames, .quoted q false⟩ c = some next) :
    Reached (seen ++ '"' :: ls ++ [c]) next := by
  simp only [Json.step] at taken
  split at taken
  · cases taken
  · rename_i more
    cases taken
    rw [List.append_assoc, List.cons_append]
    exact .quoted awaits (reads.step more)
  · rename_i done
    obtain ⟨us, literal, rfl⟩ := reads.close done
    rw [List.append_assoc, List.cons_append]
    rcases literal.holds.closed with ⟨whole, spelled⟩ | ⟨broken, stray⟩
    · have text := Spells.text literal (String.ofList (Quoted.ofUnits us).closed.text.reverse)
        (by rwa [String.toList_ofList])
      simp only [quotedDone, whole] at taken
      cases taken
      exact .rests (awaits.deliver text)
    · simp only [quotedDone, broken] at taken
      cases taken
      exact .rests (awaits.deliver (.unpaired literal fun s => stray s.toList))

theorem Reached.step_name {seen cs bs ls : List Char} {frames : List Frame} {fields : List (String × Json)} {q : Quoted}
    {key : String} {c : Char} {next : Reading} (outer : Awaits seen frames) (front : Front .members cs fields)
    (blanks : Spaces bs) (reads : Quoted.Reads ls q)
    (taken : Json.step ⟨.record fields.reverse key :: frames, .quoted q true⟩ c = some next) :
    Reached (seen ++ '{' :: (cs ++ (bs ++ '"' :: ls)) ++ [c]) next := by
  simp only [Json.step] at taken
  split at taken
  · cases taken
  · rename_i more
    cases taken
    have reached := Reached.quotedName key outer front blanks (reads.step more)
    simpa only [List.append_assoc, List.cons_append] using reached
  · rename_i done
    obtain ⟨us, literal, rfl⟩ := reads.close done
    rcases literal.holds.closed with ⟨whole, spelled⟩ | ⟨broken, _⟩
    · simp only [quotedDone, whole] at taken
      cases taken
      have name := Name.named blanks literal (by rwa [String.toList_ofList]) spaces_nil
      have rests := Rests.colon outer front name
      simpa only [List.append_assoc, List.cons_append, List.append_nil] using Reached.rests rests
    · simp only [quotedDone, broken] at taken
      cases taken

theorem Reached.step_figures {seen cs : List Char} {frames : List Frame} {f : Figures} {c : Char} {next : Reading}
    (awaits : Awaits seen frames) (reads : Figures.Reads cs f)
    (taken : Json.step ⟨frames, .figures f⟩ c = some next) : Reached (seen ++ cs ++ [c]) next := by
  simp only [Json.step] at taken
  split at taken
  · rename_i more
    cases taken
    rw [List.append_assoc]
    exact .figures awaits (reads.step more)
  · obtain ⟨v, value, taken⟩ := Option.bind_eq_some_iff.mp taken
    exact (awaits.deliver (.number (reads.finish value))).step taken

theorem Reached.step_word {seen begun left : List Char} {frames : List Frame} {v : Json} {c : Char} {next : Reading}
    (awaits : Awaits seen frames) (known : (begun ++ left, v) ∈ words)
    (taken : Json.step ⟨frames, .word left v⟩ c = some next) : Reached (seen ++ begun ++ [c]) next := by
  simp only [Json.step] at taken
  rw [List.append_assoc]
  split at taken
  · simp only [Option.ite_none_right_eq_some, Option.some.injEq] at taken
    obtain ⟨rfl, rfl⟩ := taken
    exact .rests (awaits.deliver (.word known))
  · simp only [Option.ite_none_right_eq_some, Option.some.injEq] at taken
    obtain ⟨rfl, rfl⟩ := taken
    rw [List.append_cons] at known
    exact .word awaits known
  · cases taken

theorem Reached.step {seen : List Char} {r next : Reading} {c : Char} (reached : Reached seen r)
    (taken : Json.step r c = some next) : Reached (seen ++ [c]) next := by
  cases reached with
  | rests rests =>
    rw [rests.between c] at taken
    exact rests.step taken
  | quotedName key outer front blanks reads => exact .step_name outer front blanks reads taken
  | quoted awaits reads => exact .step_quoted awaits reads taken
  | figures awaits reads => exact .step_figures awaits reads taken
  | word awaits known => exact .step_word awaits known taken

theorem Reached.run {seen : List Char} {r next : Reading} (reached : Reached seen r) (taken : Json.run r cs = some next) :
    Reached (seen ++ cs) next := by
  induction cs generalizing seen r with
  | nil =>
    cases taken
    rwa [List.append_nil]
  | cons c cs ih =>
    obtain ⟨between, first, later⟩ := Option.bind_eq_some_iff.mp taken
    rw [List.append_cons]
    exact ih (reached.step first) later

theorem Reached.finish {seen : List Char} {r : Reading} {doc : Json} (reached : Reached seen r)
    (done : Json.finish r = some doc) : Spells seen (.element doc) := by
  cases reached with
  | rests rests =>
    cases rests with
    | finished document =>
      cases done
      exact document
    | value | opened | name | colon | items | members => cases done
  | figures awaits reads =>
    cases awaits with
    | document blanks =>
      have document := Spells.element blanks (.number (reads.finish done)) spaces_nil
      rwa [List.append_nil] at document
    | item | member => cases done
  | quotedName | quoted | word => cases done

-- The reader takes the documents of the grammar, each for what it spells, and nothing else.
theorem parse?_eq_some_iff {text : String} {doc : Json} : parse? text = some doc ↔ Document text doc := by
  constructor
  · intro parsed
    obtain ⟨r, read, done⟩ := Option.bind_eq_some_iff.mp parsed
    have start : Reached [] start := .rests (.value (.document spaces_nil))
    exact (start.run read).finish done
  · exact Document.parse

end Harvester.Json
