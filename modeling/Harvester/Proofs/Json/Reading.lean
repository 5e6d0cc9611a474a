import Harvester.Json.Reader
import Harvester.Proofs.Text.Digits
namespace Harvester.Json

open Text

theorem run_cons (r : Reading) (c : Char) (rest : List Char) : run r (c :: rest) = (step r c).bind (run · rest) := rfl

theorem run_next {r next : Reading} (taken : step r c = some next) : run r (c :: rest) = run next rest := by
  rw [run_cons, taken]; rfl

theorem step_begin (frames : List Frame) (closable : Bool) {c : Char} (noSpace : isSpace c = false) (noClose : c ≠ ']') :
    step ⟨frames, .value closable⟩ c = beginValue frames c := by
  simp [step, between, noSpace, noClose]

theorem eq_ofNat {c : Char} (code : c.toNat = n) : c = Char.ofNat n := by rw [← code, Char.ofNat_toNat]

theorem step_deliver (v : Json) (frames : List Frame) (c : Char) :
    step (deliver v frames) c = between (deliver v frames) c := by
  cases frames with
  | nil => rfl
  | cons frame rest => cases frame <;> rfl

theorem run_ended {f : Figures} (frames : List Frame) (c : Char) (rest : List Char) (ended : f.step c = none)
    (value : f.finish = some v) :
    run ⟨frames, .figures f⟩ (c :: rest) = run (deliver v frames) (c :: rest) := by
  have same : step ⟨frames, .figures f⟩ c = step (deliver v frames) c := by
    rw [step_deliver]
    simp [step, ended, value]
  rw [run_cons, run_cons, same]

-- An integer of which some digits are read, the last of them first.
def Figures.integer (negative : Bool) (read : List Char) : Figures := ⟨.whole, negative, read, [], false, []⟩

theorem run_figures {f next : Figures} {c : Char} (taken : f.step c = some next) (frames : List Frame)
    (rest : List Char) : run ⟨frames, .figures f⟩ (c :: rest) = run ⟨frames, .figures next⟩ rest :=
  run_next (by simp only [step, taken])

-- Where each digit is put in front of those that are read.
theorem run_each {f : List Char → Figures}
    (takes : ∀ read c, isDigit c = true → (f read).step c = some (f (c :: read))) (ds : List Char)
    (digits : ∀ c ∈ ds, isDigit c = true) (read : List Char) (frames : List Frame) (rest : List Char) :
    run ⟨frames, .figures (f read)⟩ (ds ++ rest) = run ⟨frames, .figures (f (ds.reverse ++ read))⟩ rest := by
  induction ds generalizing read with
  | nil => rfl
  | cons d ds ih =>
    rw [List.cons_append, run_figures (takes read d (digits d List.mem_cons_self)),
      ih fun c later => digits c (List.mem_cons_of_mem d later), List.reverse_cons, List.append_assoc,
      List.singleton_append]

theorem run_whole (ds : List Char) (digits : ∀ c ∈ ds, isDigit c = true) (negative : Bool) (read : List Char)
    (frames : List Frame) (rest : List Char) :
    run ⟨frames, .figures (.integer negative read)⟩ (ds ++ rest) =
      run ⟨frames, .figures (.integer negative (ds.reverse ++ read))⟩ rest :=
  run_each (fun read c digit => by simp [Figures.step, Figures.integer, digit]) ds digits read frames rest

theorem run_started {f : Figures} (frames : List Frame) (closable : Bool) (rest : List Char)
    (started : Figures.start c = some f) :
    run ⟨frames, .value closable⟩ (c :: rest) = run ⟨frames, .figures f⟩ rest := by
  have begun : beginValue frames c = some ⟨frames, .figures f⟩ := by
    unfold beginValue
    split
    all_goals first | cases started | simp [started]
  have noSpace : isSpace c = false := by
    cases spaced : isSpace c with
    | false => rfl
    | true =>
      simp only [isSpace, Bool.or_eq_true, beq_iff_eq] at spaced
      rcases spaced with ((rfl | rfl) | rfl) | rfl <;> cases started
  have noClose : c ≠ ']' := by
    rintro rfl
    cases started
  exact run_next ((step_begin frames closable noSpace noClose).trans begun)

-- Positions where only blanks and punctuation are looked at.
def Reading.IsBetween (r : Reading) : Prop := ∀ c, step r c = between r c

theorem run_blanks {r : Reading} (atBetween : r.IsBetween) (blanks rest : List Char)
    (spaces : ∀ c ∈ blanks, isSpace c = true) : run r (blanks ++ rest) = run r rest := by
  induction blanks with
  | nil => rfl
  | cons c cs ih =>
    have skipped : step r c = some r := by
      rw [atBetween c]
      simp [between, spaces c List.mem_cons_self]
    rw [List.cons_append, run_next skipped, ih fun d later => spaces d (List.mem_cons_of_mem c later)]

theorem run_word (left : List Char) (more : left ≠ []) (v : Json) (frames : List Frame) (rest : List Char) :
    run ⟨frames, .word left v⟩ (left ++ rest) = run (deliver v frames) rest := by
  induction left with
  | nil => exact absurd rfl more
  | cons c cs ih =>
    cases cs with
    | nil => exact run_next (by simp [step])
    | cons d ds =>
      have taken : step ⟨frames, .word (c :: d :: ds) v⟩ c = some ⟨frames, .word (d :: ds) v⟩ := by simp [step]
      rw [List.cons_append, run_next taken, ih (List.cons_ne_nil d ds)]

-- Brackets and commas.
section Brackets

variable (frames : List Frame)

theorem step_openList (closable : Bool) : step ⟨frames, .value closable⟩ '[' = some ⟨.list [] :: frames, .value true⟩ :=
  step_begin frames closable rfl (by decide)

theorem step_openRecord (closable : Bool) :
    step ⟨frames, .value closable⟩ '{' = some ⟨.record [] "" :: frames, .name true⟩ :=
  step_begin frames closable rfl (by decide)

theorem step_closeList (items : List Json) :
    step ⟨.list items.reverse :: frames, .follow⟩ ']' = some (deliver (.arr items) frames) := by
  simp [step, between, isSpace, afterValue, closeFrame]

theorem step_closeRecord (fields : List (String × Json)) :
    step ⟨.record fields.reverse "" :: frames, .follow⟩ '}' = some (deliver (.obj fields) frames) := by
  simp [step, between, isSpace, afterValue, closeFrame]

theorem step_nextItem (items : List Json) :
    step ⟨.list items :: frames, .follow⟩ ',' = some ⟨.list items :: frames, .value false⟩ := rfl

theorem step_nextField (fields : List (String × Json)) (key : String) :
    step ⟨.record fields key :: frames, .follow⟩ ',' = some ⟨.record fields key :: frames, .name false⟩ := rfl

end Brackets

end Harvester.Json
