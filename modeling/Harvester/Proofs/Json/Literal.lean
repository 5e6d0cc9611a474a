import Harvester.Proofs.Json.CodeUnits
namespace Harvester.Json

open Text

variable {q : Quoted} {us vs : List Nat} {cs ds : List Char}

-- The reader between two letters: it may have seen the first half of a pair.
inductive Escape.Settled : Escape → Prop
  | plain : Settled .plain
  | afterLead (isLead : IsLead lead) : Settled (.afterLead lead)

namespace Quoted

def opened (q : Quoted) : Quoted :=
  { q with escape := match q.escape with
    | .afterLead lead => .leadBackslash lead
    | _ => .backslash }

def coded (q : Quoted) (digits value : Nat) : Quoted :=
  { q with escape := match q.escape with
    | .afterLead lead => .leadCode lead digits value
    | _ => .code digits value }

def taken (q : Quoted) (n : Nat) : Quoted :=
  match q.escape with
  | .afterLead lead => if IsTrail n then q.add (pair lead n) else q.spoiled.unit n
  | _ => q.unit n

def closed (q : Quoted) : Quoted :=
  match q.escape with
  | .afterLead _ => q.spoiled
  | _ => q

theorem unit_lead {n : Nat} (isLead : IsLead n) : q.unit n = { q with escape := .afterLead n } := if_pos isLead

theorem unit_trail {n : Nat} (isTrail : IsTrail n) : q.unit n = q.spoiled := by
  rw [unit, if_neg (by omega), if_pos isTrail]

theorem unit_scalar {n : Nat} (scalar : n < 0xD800 ∨ 0xDFFF < n) : q.unit n = q.add (Char.ofNat n) := by
  rw [unit, if_neg (by omega), if_neg (by omega)]

theorem unit_settled (q : Quoted) (n : Nat) : (q.unit n).escape.Settled := by
  unfold unit
  split
  · exact .afterLead (by assumption)
  · split <;> exact .plain

theorem taken_settled (settled : q.escape.Settled) (n : Nat) : (q.taken n).escape.Settled := by
  obtain ⟨text, broken, escape⟩ := q
  cases settled with
  | plain => exact unit_settled _ n
  | afterLead =>
    unfold taken
    dsimp only
    split
    · exact .plain
    · exact unit_settled _ n

theorem foldl_taken_settled (settled : q.escape.Settled) (us : List Nat) : (us.foldl taken q).escape.Settled := by
  induction us generalizing q with
  | nil => exact settled
  | cons n us ih => exact ih (taken_settled settled n)

theorem taken_scalar {n : Nat} (settled : q.escape.Settled) (scalar : n < 0xD800 ∨ 0xDFFF < n) :
    q.taken n = q.closed.add (Char.ofNat n) := by
  obtain ⟨text, broken, escape⟩ := q
  have noTrail : ¬ IsTrail n := by
    omega
  cases settled with
  | plain => exact unit_scalar scalar
  | afterLead => exact (if_neg noTrail).trans (unit_scalar scalar)

-- A whole character is added, whatever stood before it.
theorem foldl_taken_codeUnits (settled : q.escape.Settled) (c : Char) : (codeUnits c).foldl taken q = q.closed.add c := by
  rcases Nat.lt_or_ge c.toNat 0x10000 with small | large
  · have scalar := toNat_scalar c
    rw [codeUnits_small small, List.foldl_cons, List.foldl_nil, taken_scalar settled (by omega), Char.ofNat_toNat]
  · obtain ⟨lead, trail, shown, isLead, isTrail, rfl⟩ := codeUnits_large large
    have noTrail : ¬ IsTrail lead := by
      omega
    have first : q.taken lead = { q.closed with escape := .afterLead lead } := by
      obtain ⟨text, broken, escape⟩ := q
      cases settled with
      | plain => exact unit_lead isLead
      | afterLead => exact (if_neg noTrail).trans (unit_lead isLead)
    rw [shown, List.foldl_cons, List.foldl_cons, List.foldl_nil, first]
    exact if_pos isTrail

-- Each step of the reader from between two letters.
section Steps

theorem step_quote (settled : q.escape.Settled) : q.step '"' = some (q.closed, true) := by
  obtain ⟨text, broken, escape⟩ := q
  cases settled <;> rfl

theorem step_backslash (settled : q.escape.Settled) : q.step '\\' = some (q.opened, false) := by
  obtain ⟨text, broken, escape⟩ := q
  cases settled <;> rfl

theorem step_plain {c : Char} (settled : q.escape.Settled) (noQuote : c ≠ '"') (noBackslash : c ≠ '\\') :
    q.step c = if c.toNat < 0x20 then none else some (q.closed.add c, false) := by
  obtain ⟨text, broken, escape⟩ := q
  cases settled with
  | plain => simp only [step, plainStep, closed, noQuote, noBackslash, if_false]
  | afterLead => simp only [step, plainStep, closed, noQuote, noBackslash, if_false]

-- The three things that may stand between two letters.
theorem step_cases {c : Char} {done : Bool} {next : Quoted} (settled : q.escape.Settled)
    (taken : q.step c = some (next, done)) :
    (c = '"' ∧ done = true ∧ next = q.closed) ∨ (c = '\\' ∧ done = false ∧ next = q.opened) ∨
      (c ≠ '"' ∧ c ≠ '\\' ∧ 0x20 ≤ c.toNat) ∧ done = false ∧ next = q.closed.add c := by
  by_cases noQuote : c = '"'
  · subst noQuote
    rw [step_quote settled] at taken
    cases taken
    exact .inl ⟨rfl, rfl, rfl⟩
  · by_cases noBackslash : c = '\\'
    · subst noBackslash
      rw [step_backslash settled] at taken
      cases taken
      exact .inr (.inl ⟨rfl, rfl, rfl⟩)
    · rw [step_plain settled noQuote noBackslash] at taken
      split at taken
      · cases taken
      · rename_i visible
        cases taken
        exact .inr (.inr ⟨⟨noQuote, noBackslash, Nat.not_lt.mp visible⟩, rfl, rfl⟩)

theorem opened_step (settled : q.escape.Settled) (c : Char) :
    q.opened.step c = if c = 'u' then some (q.coded 0 0, false)
      else (simpleEscape? c).map fun d => (q.closed.add d, false) := by
  obtain ⟨text, broken, escape⟩ := q
  cases settled <;> by_cases code : c = 'u' <;>
    simp [step, afterBackslash, opened, coded, closed, add, spoiled, code, Function.comp_def]

theorem coded_step (settled : q.escape.Settled) {digits : Nat} (atMost : digits ≤ 3) (value : Nat) (c : Char) :
    (q.coded digits value).step c = (hexValue? c).map fun d =>
      (if digits = 3 then q.taken (value * 16 + d) else q.coded (digits + 1) (value * 16 + d), false) := by
  obtain ⟨text, broken, escape⟩ := q
  cases settled with
  | plain => rfl
  | afterLead =>
    by_cases last : digits = 3
    · subst last
      rfl
    · have before : digits < 3 := by omega
      simp only [step, coded, before, last, if_true, if_false]

end Steps

-- What the reader has kept of the code units so far: the characters of a text and perhaps half of a pair, or only that
-- they are no text's.
inductive Holds (us : List Nat) : Quoted → Prop
  | whole {text : List Char} (spelled : us = units text.reverse) : Holds us ⟨text, false, .plain⟩
  | lead {text : List Char} (isLead : IsLead n) (spelled : us = units text.reverse ++ [n]) :
      Holds us ⟨text, false, .afterLead n⟩
  | broken {text : List Char} {escape : Escape} (stray : Stray us) (settled : escape.Settled) :
      Holds us ⟨text, true, escape⟩

theorem Holds.add {c : Char} {text : List Char} (spelled : us = units text.reverse) :
    Holds (us ++ codeUnits c) (add ⟨text, false, .plain⟩ c) := by
  refine .whole ?_
  rw [List.reverse_cons, units_append, spelled, units_cons]
  exact (congrArg _ (List.append_nil _)).symm

theorem unit_broken (n : Nat) (broken : q.broken = true) : (q.unit n).broken = true := by
  unfold unit
  split
  · exact broken
  · split
    · rfl
    · exact broken

theorem taken_broken (n : Nat) (settled : q.escape.Settled) (broken : q.broken = true) : (q.taken n).broken = true := by
  obtain ⟨text, flag, escape⟩ := q
  cases settled with
  | plain => exact unit_broken n broken
  | afterLead =>
    unfold taken
    dsimp only
    split
    · exact broken
    · exact unit_broken n rfl

theorem Holds.of_broken (stray : Stray us) (settled : q.escape.Settled) (broken : q.broken = true) : Holds us q := by
  obtain ⟨text, flag, escape⟩ := q
  cases broken
  exact .broken stray settled

theorem Holds.settled (holds : Holds us q) : q.escape.Settled := by
  cases holds with
  | whole => exact .plain
  | lead isLead => exact .afterLead isLead
  | broken _ settled => exact settled

theorem Holds.taken {n : Nat} (holds : Holds us q) (small : n < 0x10000) : Holds (us ++ [n]) (q.taken n) := by
  have settled := taken_settled holds.settled n
  cases holds with
  | @whole text spelled =>
    by_cases isLead : IsLead n
    · rw [show taken ⟨text, false, .plain⟩ n = _ from unit_lead isLead]
      exact .lead isLead (by rw [spelled])
    · by_cases isTrail : IsTrail n
      · refine .of_broken (spelled ▸ stray_trail isTrail _) settled ?_
        rw [show Quoted.taken ⟨text, false, .plain⟩ n = _ from unit_trail isTrail]
        rfl
      · have scalar : n < 0xD800 ∨ 0xDFFF < n := by
          omega
        have code : codeUnits (Char.ofNat n) = [n] := by
          have value : (Char.ofNat n).toNat = n := ofNat_toNat (by omega)
          rw [codeUnits_small (by omega), value]
        rw [taken_scalar .plain scalar, ← code]
        exact .add spelled
  | @lead lead text isLead spelled =>
    by_cases isTrail : IsTrail n
    · rw [show Quoted.taken ⟨text, false, .afterLead lead⟩ n = _ from if_pos isTrail, spelled, List.append_assoc,
        List.singleton_append, ← codeUnits_pair isLead isTrail]
      exact .add rfl
    · refine .of_broken (spelled ▸ stray_lead isLead isTrail _) settled ?_
      rw [show Quoted.taken ⟨text, false, .afterLead lead⟩ n = _ from if_neg isTrail]
      exact unit_broken n rfl
  | @broken text escape stray before => exact .of_broken (stray.append _) settled (taken_broken n before rfl)

theorem Holds.foldl_taken (holds : Holds us q) (small : ∀ n ∈ vs, n < 0x10000) :
    Holds (us ++ vs) (vs.foldl Quoted.taken q) := by
  induction vs generalizing us q with
  | nil => rwa [List.append_nil]
  | cons n vs ih =>
    have first := holds.taken (small n List.mem_cons_self)
    rw [List.append_cons]
    exact ih first fun m later => small m (List.mem_cons_of_mem n later)

-- Half of a pair at the end is no text either.
theorem Holds.closed (holds : Holds us q) :
    (q.closed.broken = false ∧ us = units q.closed.text.reverse) ∨ (q.closed.broken = true ∧ ∀ cs, us ≠ units cs) := by
  cases holds with
  | whole spelled => exact .inl ⟨rfl, spelled⟩
  | @lead n text isLead spelled =>
    refine .inr ⟨rfl, fun cs same => ?_⟩
    rw [spelled] at same
    obtain ⟨rest, _, half⟩ := units_eq_append same.symm
    rcases units_eq_cons half with ⟨scalar, _⟩ | ⟨_, _, _, _, _, more⟩
    · omega
    · cases more
  | broken stray settled =>
    refine .inr ⟨?_, fun cs same => stray [] cs (by rw [List.append_nil, same])⟩
    cases settled <;> rfl

-- The reader behind some code units of a string.
def ofUnits (us : List Nat) : Quoted := us.foldl taken start

theorem ofUnits_append (us vs : List Nat) : ofUnits (us ++ vs) = vs.foldl taken (ofUnits us) := List.foldl_append

theorem ofUnits_settled (us : List Nat) : (ofUnits us).escape.Settled := foldl_taken_settled .plain us

theorem ofUnits_holds (small : ∀ n ∈ us, n < 0x10000) : Holds us (ofUnits us) :=
  @Holds.foldl_taken .start [] us (.whole rfl) small

end Quoted

-- Letters, from what is written to what is read.

theorem simpleEscape?_eq_some {c d : Char} : simpleEscape? d = some c ↔ (d, c) ∈ shortEscapes := by
  unfold simpleEscape?
  constructor
  · intro known
    split at known <;> cases known <;> decide
  · intro known
    simp only [shortEscapes, List.mem_cons, Prod.mk.injEq, List.not_mem_nil, or_false] at known
    rcases known with ⟨rfl, rfl⟩ | ⟨rfl, rfl⟩ | ⟨rfl, rfl⟩ | ⟨rfl, rfl⟩ | ⟨rfl, rfl⟩ | ⟨rfl, rfl⟩ | ⟨rfl, rfl⟩ |
      ⟨rfl, rfl⟩ <;> rfl

theorem hexValue_lt {c : Char} {d : Nat} (digit : hexValue? c = some d) : d < 16 := by
  simp only [hexValue?, Char.le_def, UInt32.le_iff_toNat_le] at digit
  split at digit
  · rename_i range
    cases digit
    change _ ∧ c.toNat ≤ 57 at range
    change c.toNat - 48 < 16
    omega
  · split at digit
    · rename_i range
      cases digit
      change _ ∧ c.toNat ≤ 102 at range
      change c.toNat - 97 + 10 < 16
      omega
    · split at digit
      · rename_i range
        cases digit
        change _ ∧ c.toNat ≤ 70 at range
        change c.toNat - 65 + 10 < 16
        omega
      · cases digit

theorem Hexes.lt {n : Nat} (hexes : Hexes ds n) : n < Nat.pow 16 ds.length := by
  induction hexes with
  | nil => decide
  | @more ds n c d front digit ih =>
    have small := hexValue_lt digit
    rw [List.length_append, List.length_singleton]
    change n * 16 + d < Nat.pow 16 ds.length * 16
    omega

theorem codeUnits_lt (c : Char) : ∀ n ∈ codeUnits c, n < 0x10000 := by
  intro n present
  rcases Nat.lt_or_ge c.toNat 0x10000 with small | large
  · rw [codeUnits_small small] at present
    rwa [List.mem_singleton.mp present]
  · obtain ⟨lead, trail, shown, isLead, isTrail, _⟩ := codeUnits_large large
    rw [shown] at present
    rcases List.mem_cons.mp present with rfl | later
    · omega
    · rw [List.mem_singleton.mp later]
      omega

theorem Letter.lt (letter : Letter cs us) : ∀ n ∈ us, n < 0x10000 := by
  cases letter with
  | plain => exact codeUnits_lt _
  | short => exact codeUnits_lt _
  | code hexes four =>
    have small := hexes.lt
    rw [four] at small
    intro n present
    rwa [List.mem_singleton.mp present]

theorem Letters.lt (letters : Letters cs us) : ∀ n ∈ us, n < 0x10000 := by
  induction letters with
  | nil => exact fun n present => absurd present List.not_mem_nil
  | more _ last ih => exact fun n present => (List.mem_append.mp present).elim (ih n) (last.lt n)

section Written

variable (frames : List Frame) (asKey : Bool)

theorem step_quoted {next : Quoted} {c : Char} (taken : q.step c = some (next, false)) :
    step ⟨frames, .quoted q asKey⟩ c = some ⟨frames, .quoted next asKey⟩ := by
  simp only [step, taken]

theorem run_hexes {n : Nat} (settled : q.escape.Settled) (hexes : Hexes ds n) (short : ds.length ≤ 3) (rest : List Char) :
    run ⟨frames, .quoted (q.coded 0 0) asKey⟩ (ds ++ rest) =
      run ⟨frames, .quoted (q.coded ds.length n) asKey⟩ rest := by
  induction hexes generalizing rest with
  | nil => rfl
  | @more ds n c d front digit ih =>
    rw [List.length_append, List.length_singleton] at short ⊢
    have taken : (q.coded ds.length n).step c = some (q.coded (ds.length + 1) (n * 16 + d), false) := by
      rw [Quoted.coded_step settled (by omega), digit, Option.map_some, if_neg (by omega)]
    rw [List.append_assoc, ih (by omega), List.singleton_append, run_next (step_quoted frames asKey taken)]

theorem run_letter (settled : q.escape.Settled) (letter : Letter cs us) (rest : List Char) :
    run ⟨frames, .quoted q asKey⟩ (cs ++ rest) = run ⟨frames, .quoted (us.foldl Quoted.taken q) asKey⟩ rest := by
  have opened := step_quoted frames asKey (Quoted.step_backslash settled)
  cases letter with
  | plain noQuote noBackslash visible =>
    rw [Quoted.foldl_taken_codeUnits settled]
    refine run_next (step_quoted frames asKey ?_)
    rw [Quoted.step_plain settled noQuote noBackslash, if_neg (by omega)]
  | @short d c known =>
    have noCode : d ≠ 'u' := by
      rintro rfl
      revert known
      simp [shortEscapes]
    rw [Quoted.foldl_taken_codeUnits settled, List.cons_append, run_next opened]
    refine run_next (step_quoted frames asKey ?_)
    rw [Quoted.opened_step settled, if_neg noCode, simpleEscape?_eq_some.mpr known, Option.map_some]
  | code hexes four =>
    cases hexes with
    | nil => cases four
    | @more ds n c d front digit =>
      have three : ds.length = 3 := by simpa using four
      have coded : q.opened.step 'u' = some (q.coded 0 0, false) := by rw [Quoted.opened_step settled, if_pos rfl]
      have last : (q.coded ds.length n).step c = some (q.taken (n * 16 + d), false) := by
        rw [Quoted.coded_step settled (by omega), digit, Option.map_some, if_pos three]
      simp only [List.cons_append, List.append_assoc, List.nil_append]
      rw [run_next opened, run_next (step_quoted frames asKey coded), run_hexes frames asKey settled front (by omega),
        run_next (step_quoted frames asKey last)]
      rfl

theorem run_letters (letters : Letters cs us) (rest : List Char) :
    run ⟨frames, .quoted .start asKey⟩ (cs ++ rest) = run ⟨frames, .quoted (.ofUnits us) asKey⟩ rest := by
  induction letters generalizing rest with
  | nil => rfl
  | @more cs us ds vs front last ih =>
    rw [List.append_assoc, ih, run_letter frames asKey (Quoted.ofUnits_settled us) last, Quoted.ofUnits_append]

-- From the opening quote to the closing one.
theorem run_literal (literal : Literal ('"' :: cs) us) (rest : List Char) :
    run ⟨frames, .quoted .start asKey⟩ (cs ++ rest) =
      (quotedDone frames (Quoted.ofUnits us).closed asKey).bind (run · rest) := by
  cases literal with
  | @quoted cs us letters =>
    have closing : step ⟨frames, .quoted (.ofUnits us) asKey⟩ '"' = quotedDone frames (Quoted.ofUnits us).closed asKey := by
      simp only [step, Quoted.step_quote (Quoted.ofUnits_settled us)]
    rw [List.append_assoc, run_letters frames asKey letters, List.singleton_append, run_cons, closing]

end Written

theorem Literal.holds (literal : Literal cs us) : Quoted.Holds us (.ofUnits us) := by
  cases literal with
  | quoted letters => exact Quoted.ofUnits_holds letters.lt

-- What a string is read as.
theorem Literal.closed_text (literal : Literal cs us) {s : String} (means : us = units s.toList) :
    (Quoted.ofUnits us).closed.broken = false ∧ String.ofList (Quoted.ofUnits us).closed.text.reverse = s := by
  rcases literal.holds.closed with ⟨whole, spelled⟩ | ⟨_, stray⟩
  · refine ⟨whole, ?_⟩
    rw [units_injective (spelled.symm.trans means), String.ofList_toList]
  · exact absurd means (stray _)

theorem Literal.closed_stray (literal : Literal cs us) (stray : ∀ s : String, us ≠ units s.toList) :
    (Quoted.ofUnits us).closed.broken = true := by
  rcases literal.holds.closed with ⟨_, spelled⟩ | ⟨broken, _⟩
  · exact absurd (spelled.trans (by rw [String.toList_ofList])) (stray (String.ofList _))
  · exact broken

namespace Quoted

-- What the reader has seen of a string: whole letters, and what stands there of the next one.
inductive Reads : List Char → Quoted → Prop
  | between {cs : List Char} {us : List Nat} (letters : Letters cs us) : Reads cs (.ofUnits us)
  | opened {cs : List Char} {us : List Nat} (letters : Letters cs us) : Reads (cs ++ ['\\']) (ofUnits us).opened
  | coded {cs ds : List Char} {us : List Nat} {n : Nat} (letters : Letters cs us) (hexes : Hexes ds n)
      (short : ds.length ≤ 3) : Reads (cs ++ '\\' :: 'u' :: ds) ((ofUnits us).coded ds.length n)

theorem reads_start : Reads [] .start := .between .nil

theorem Reads.letter (letters : Letters cs us) (letter : Letter ds vs) (next : q = vs.foldl taken (ofUnits us)) :
    Reads (cs ++ ds) q := by
  rw [next, ← ofUnits_append]
  exact .between (letters.more letter)

theorem Reads.step {next : Quoted} {c : Char} (reads : Reads cs q) (taken : q.step c = some (next, false)) :
    Reads (cs ++ [c]) next := by
  cases reads with
  | @between cs us letters =>
    have settled := ofUnits_settled us
    rcases step_cases settled taken with ⟨_, done, _⟩ | ⟨rfl, _, rfl⟩ | ⟨⟨noQuote, noBackslash, visible⟩, _, rfl⟩
    · cases done
    · exact .opened letters
    · refine .letter letters (.plain noQuote noBackslash visible) ?_
      rw [foldl_taken_codeUnits settled]
  | @opened cs us letters =>
    have settled := ofUnits_settled us
    rw [opened_step settled] at taken
    split at taken
    · rename_i code
      cases taken
      subst code
      rw [List.append_assoc]
      exact .coded letters .nil (by decide)
    · obtain ⟨d, known, same⟩ := Option.map_eq_some_iff.mp taken
      cases same
      rw [List.append_assoc]
      refine .letter letters (.short (simpleEscape?_eq_some.mp known)) ?_
      rw [foldl_taken_codeUnits settled]
  | @coded cs ds us n letters hexes short =>
    have settled := ofUnits_settled us
    rw [coded_step settled short] at taken
    obtain ⟨d, digit, same⟩ := Option.map_eq_some_iff.mp taken
    have longer := hexes.more digit
    have length : (ds ++ [c]).length = ds.length + 1 := by rw [List.length_append, List.length_singleton]
    simp only [List.append_assoc, List.cons_append]
    split at same
    · cases same
      exact .letter letters (.code longer (by omega)) rfl
    · cases same
      rw [← length]
      exact .coded letters longer (by omega)

theorem Reads.close {done : Quoted} {c : Char} (reads : Reads cs q) (taken : q.step c = some (done, true)) :
    ∃ us, Literal ('"' :: (cs ++ [c])) us ∧ done = (ofUnits us).closed := by
  cases reads with
  | @between cs us letters =>
    rcases step_cases (ofUnits_settled us) taken with ⟨rfl, _, rfl⟩ | ⟨_, more, _⟩ | ⟨_, more, _⟩
    · exact ⟨us, .quoted letters, rfl⟩
    · cases more
    · cases more
  | @opened cs us letters =>
    rw [opened_step (ofUnits_settled us)] at taken
    split at taken
    · cases taken
    · obtain ⟨_, _, same⟩ := Option.map_eq_some_iff.mp taken
      cases same
  | @coded cs ds us n letters hexes short =>
    rw [coded_step (ofUnits_settled us) short] at taken
    obtain ⟨_, _, same⟩ := Option.map_eq_some_iff.mp taken
    cases same

end Quoted

end Harvester.Json
