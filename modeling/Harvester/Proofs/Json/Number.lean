import Harvester.Proofs.Json.Grammar
import Harvester.Proofs.Json.Reading
namespace Harvester.Json

open Text

variable {c : Char} {cs rest : List Char}

theorem le_foldl_digits (ds : List Char) (n : Nat) : n ≤ ds.foldl (fun n c => n * 10 + digitValue c) n := by
  induction ds generalizing n with
  | nil => exact Nat.le_refl n
  | cons d ds ih =>
    have first := ih (n * 10 + digitValue d)
    rw [List.foldl_cons]
    omega

theorem natOf_pos {ds : List Char} (whole : Whole ds) (nonzero : ds ≠ ['0']) : 0 < natOf ds := by
  cases whole with
  | zero => exact absurd rfl nonzero
  | @more d ds digit other digits =>
    have range := isDigit_range digit
    have value : 0 < digitValue d := by
      have apart : d.toNat ≠ 48 := fun same => other (eq_ofNat same)
      change 0 < d.toNat - 48
      omega
    have later := le_foldl_digits ds (0 * 10 + digitValue d)
    rw [natOf, List.foldl_cons]
    omega

theorem Whole.digits {ds : List Char} (whole : Whole ds) : ∀ c ∈ ds, isDigit c = true := by
  cases whole with
  | zero => exact List.forall_mem_singleton.mpr rfl
  | more digit _ digits => exact List.forall_mem_cons.mpr ⟨digit, digits⟩

theorem Digits.snoc {ds : List Char} (before : ∀ c ∈ ds, isDigit c = true) (digit : isDigit c = true) :
    Digits (ds ++ [c]) := by
  refine ⟨List.concat_ne_nil c ds, fun d present => ?_⟩
  rcases List.mem_append.mp present with earlier | last
  · exact before d earlier
  · rwa [List.mem_singleton.mp last]

theorem digits_single (digit : isDigit c = true) : Digits [c] := Digits.snoc (List.forall_mem_nil _) digit

theorem whole_single (digit : isDigit c = true) (nonzero : c ≠ '0') : Whole [c] :=
  .more digit nonzero (List.forall_mem_nil _)

theorem Whole.snoc {ds : List Char} (whole : Whole ds) (longer : ds ≠ ['0']) (digit : isDigit c = true) :
    Whole (ds ++ [c]) := by
  cases whole with
  | zero => exact absurd rfl longer
  | more first nonzero digits => exact .more first nonzero (Digits.snoc digits digit).2

-- A character that cannot continue a number.
def Ends (c : Char) : Prop := isDigit c = false ∧ c ≠ '.' ∧ c ≠ 'e' ∧ c ≠ 'E'

instance (c : Char) : Decidable (Ends c) := inferInstanceAs (Decidable (_ ∧ _))

namespace Figures

variable {f next : Figures} {v : Json}

-- The reader behind sign, digits and fraction.
def behind (negative : Bool) (ds fs : List Char) : Figures :=
  ⟨if fs = [] then if ds = ['0'] then .zero else .whole else .fraction, negative, ds.reverse, fs.reverse, false, []⟩

theorem step_ends (value : f.finish = some v) (ends : Ends c) : f.step c = none := by
  obtain ⟨noDigit, noPoint, noMark, noBigMark⟩ := ends
  obtain ⟨stage, negative, whole, fraction, exponentNegative, exponent⟩ := f
  cases stage with
  | zero | whole | fraction | exponent => simp [step, noDigit, noPoint, noMark, noBigMark]
  | minus | point | mark | sign => cases value

-- What the reader has seen of a number.
inductive Reads : List Char → Figures → Prop
  | minus : Reads ['-'] ⟨.minus, true, [], [], false, []⟩
  | mantissa {cs ds fs : List Char} {negative : Bool} (mantissa : Mantissa cs negative ds fs) :
      Reads cs (.behind negative ds fs)
  | point (negative : Bool) {ds : List Char} (whole : Whole ds) :
      Reads (minusText negative ++ ds ++ ['.']) ⟨.point, negative, ds.reverse, [], false, []⟩
  | mark {cs ds fs : List Char} {negative : Bool} {e : Char} (mantissa : Mantissa cs negative ds fs)
      (mark : e = 'e' ∨ e = 'E') : Reads (cs ++ [e]) ⟨.mark, negative, ds.reverse, fs.reverse, false, []⟩
  | sign {cs ds fs ss : List Char} {negative below : Bool} {e : Char} (mantissa : Mantissa cs negative ds fs)
      (mark : e = 'e' ∨ e = 'E') (sign : ExponentSign ss below) (given : ss ≠ []) :
      Reads (cs ++ e :: ss) ⟨.sign, negative, ds.reverse, fs.reverse, below, []⟩
  | exponent {cs ds fs ss es : List Char} {negative below : Bool} {e : Char} (mantissa : Mantissa cs negative ds fs)
      (mark : e = 'e' ∨ e = 'E') (sign : ExponentSign ss below) (digits : Digits es) :
      Reads (cs ++ e :: (ss ++ es)) ⟨.exponent, negative, ds.reverse, fs.reverse, below, es.reverse⟩

variable {negative below : Bool} {ds fs es ss part ending : List Char}

theorem Reads.whole (negative : Bool) {ds : List Char} (whole : Whole ds) :
    Reads (minusText negative ++ ds) (.behind negative ds []) := by
  have mantissa := Mantissa.digits negative whole .none
  rw [List.append_nil] at mantissa
  exact .mantissa mantissa

theorem behind_zero (negative : Bool) : behind negative ['0'] [] = ⟨.zero, negative, ['0'], [], false, []⟩ := rfl

theorem behind_whole {ds : List Char} (negative : Bool) (other : ds ≠ ['0']) :
    behind negative ds [] = ⟨.whole, negative, ds.reverse, [], false, []⟩ := by
  rw [behind, if_pos rfl, if_neg other]
  rfl

theorem behind_fraction {fs : List Char} (negative : Bool) (ds : List Char) (more : fs ≠ []) :
    behind negative ds fs = ⟨.fraction, negative, ds.reverse, fs.reverse, false, []⟩ := by
  rw [behind, if_neg more]

theorem Reads.firstDigit (negative : Bool) (digit : isDigit c = true) (nonzero : c ≠ '0') :
    Reads (minusText negative ++ [c]) ⟨.whole, negative, [c], [], false, []⟩ := by
  have read := Reads.whole negative (whole_single digit nonzero)
  rwa [behind_whole negative (by simpa using nonzero)] at read

theorem reads_start (started : start c = some f) : Reads [c] f := by
  unfold start at started
  split at started
  · rename_i minus
    cases started
    subst minus
    exact .minus
  · split at started
    · rename_i zero
      cases started
      subst zero
      exact .whole false .zero
    · rename_i nonzero
      split at started
      · rename_i digit
        cases started
        exact .firstDigit false digit nonzero
      · cases started

theorem Reads.fraction (negative : Bool) (whole : Whole ds) (digits : Digits fs) :
    Reads (minusText negative ++ ds ++ '.' :: fs) ⟨.fraction, negative, ds.reverse, fs.reverse, false, []⟩ := by
  have read := Reads.mantissa (.digits negative whole (.digits digits))
  rwa [behind_fraction negative ds digits.1] at read

theorem Reads.step_behind (mantissa : Mantissa cs negative ds fs) (taken : (behind negative ds fs).step c = some next) :
    Reads (cs ++ [c]) next := by
  have marked (mark : c = 'e' ∨ c = 'E') := Reads.mark mantissa mark
  cases mantissa with
  | @digits ds part fs negative whole fraction =>
    cases fraction with
    | none =>
      rw [List.append_nil] at marked ⊢
      by_cases zero : ds = ['0']
      · subst zero
        rw [behind_zero] at taken
        simp only [Figures.step] at taken
        split at taken
        · rename_i point
          cases taken
          subst point
          exact .point negative .zero
        · split at taken
          · rename_i mark
            cases taken
            exact marked mark
          · cases taken
      · rw [behind_whole negative zero] at taken
        simp only [Figures.step] at taken
        split at taken
        · rename_i digit
          cases taken
          have read := Reads.whole negative (whole.snoc zero digit)
          have longer : ds ++ [c] ≠ ['0'] := by
            intro same
            cases whole with
            | zero => exact zero rfl
            | more => simp at same
          rw [behind_whole negative longer, List.reverse_append, ← List.append_assoc] at read
          exact read
        · split at taken
          · rename_i point
            cases taken
            subst point
            exact .point negative whole
          · split at taken
            · rename_i mark
              cases taken
              exact marked mark
            · cases taken
    | digits digits =>
      rw [behind_fraction negative ds digits.1] at taken
      simp only [Figures.step] at taken
      split at taken
      · rename_i digit
        cases taken
        have read := Reads.fraction negative whole (Digits.snoc digits.2 digit)
        rw [List.reverse_append] at read
        rw [List.append_assoc]
        exact read
      · split at taken
        · rename_i mark
          cases taken
          exact marked mark
        · cases taken

theorem Reads.firstOfExponent (mantissa : Mantissa cs negative ds fs) {e : Char} (mark : e = 'e' ∨ e = 'E')
    (sign : ExponentSign ss below) (digit : isDigit c = true) :
    Reads (cs ++ e :: ss ++ [c]) ⟨.exponent, negative, ds.reverse, fs.reverse, below, [c]⟩ := by
  rw [List.append_assoc, List.cons_append]
  exact .exponent mantissa mark sign (digits_single digit)

theorem Reads.step (reads : Reads cs f) (taken : f.step c = some next) : Reads (cs ++ [c]) next := by
  cases reads with
  | minus =>
    simp only [Figures.step] at taken
    split at taken
    · rename_i zero
      cases taken
      subst zero
      exact .whole true .zero
    · rename_i nonzero
      split at taken
      · rename_i digit
        cases taken
        exact .firstDigit true digit nonzero
      · cases taken
  | mantissa mantissa => exact .step_behind mantissa taken
  | point negative whole =>
    simp only [Figures.step] at taken
    split at taken
    · rename_i digit
      cases taken
      rw [List.append_assoc]
      exact .fraction negative whole (digits_single digit)
    · cases taken
  | mark mantissa mark =>
    simp only [Figures.step] at taken
    split at taken
    · rename_i plus
      cases taken
      subst plus
      rw [List.append_assoc]
      exact .sign mantissa mark .plus (List.cons_ne_nil _ _)
    · split at taken
      · rename_i minus
        cases taken
        subst minus
        rw [List.append_assoc]
        exact .sign mantissa mark .minus (List.cons_ne_nil _ _)
      · split at taken
        · rename_i digit
          cases taken
          exact .firstOfExponent mantissa mark .none digit
        · cases taken
  | sign mantissa mark sign =>
    simp only [Figures.step] at taken
    split at taken
    · rename_i digit
      cases taken
      exact .firstOfExponent mantissa mark sign digit
    · cases taken
  | @exponent cs ds fs ss es negative below e mantissa mark sign digits =>
    simp only [Figures.step] at taken
    split at taken
    · rename_i digit
      cases taken
      have read := Reads.exponent mantissa mark sign (Digits.snoc digits.2 digit)
      rw [List.reverse_append] at read
      simp only [List.append_assoc, List.cons_append] at read ⊢
      exact read
    · cases taken

theorem Reads.finish (reads : Reads cs f) (value : f.finish = some v) : Number cs v := by
  cases reads with
  | minus | point | mark | sign => cases value
  | exponent mantissa mark sign digits =>
    simp only [Figures.finish, List.reverse_reverse, Option.some.injEq] at value
    subst value
    exact .decimal mantissa (.digits mark sign digits) (.inr nofun)
  | @mantissa cs ds fs negative mantissa =>
    cases mantissa with
    | digits negative whole fraction =>
      cases fraction with
      | digits digits =>
        rw [behind_fraction negative ds digits.1] at value
        simp only [Figures.finish, List.reverse_reverse, Option.some.injEq] at value
        subst value
        have number := Number.decimal (.digits negative whole (.digits digits)) .none (.inl digits.1)
        rwa [List.append_nil] at number
      | none =>
        rw [List.append_nil]
        by_cases zero : ds = ['0']
        · subst zero
          cases negative <;> cases value
          · exact .positive .zero
          · exact .negativeZero
        · have positive := natOf_pos whole zero
          rw [behind_whole negative zero] at value
          simp only [Figures.finish, List.reverse_reverse] at value
          cases negative with
          | false =>
            cases value
            exact .positive whole
          | true =>
            rw [if_pos rfl, if_neg (by omega)] at value
            cases value
            exact .negative whole zero

end Figures

section Written

variable (frames : List Frame) (closable : Bool) {negative : Bool} {ds fs : List Char}

theorem run_integer (negative : Bool) (whole : Whole ds) (rest : List Char) :
    run ⟨frames, .value closable⟩ (minusText negative ++ ds ++ rest) =
      run ⟨frames, .figures (.behind negative ds [])⟩ rest := by
  cases whole with
  | zero =>
    cases negative with
    | false => exact run_started frames closable rest rfl
    | true => exact (run_started frames closable ('0' :: rest) rfl).trans (run_figures rfl frames rest)
  | @more d ds digit nonzero digits =>
    have noMinus : d ≠ '-' := by
      rintro rfl
      cases digit
    rw [Figures.behind_whole negative (by simpa using fun same => absurd same nonzero)]
    have first : run ⟨frames, .value closable⟩ (minusText negative ++ d :: (ds ++ rest)) =
        run ⟨frames, .figures (.integer negative [d])⟩ (ds ++ rest) := by
      cases negative with
      | false => exact run_started frames closable _ (by simp [Figures.start, Figures.integer, noMinus, nonzero, digit])
      | true =>
        refine (run_started frames closable _ rfl).trans (run_figures ?_ frames _)
        simp [Figures.step, Figures.integer, nonzero, digit]
    rw [List.append_assoc, List.cons_append, first, run_whole ds digits]
    simp [Figures.integer]

theorem Figures.step_point {d : Char} (digit : isDigit d = true) :
    step ⟨.point, negative, ds, fs, false, []⟩ d = some ⟨.fraction, negative, ds, [d], false, []⟩ := if_pos digit

theorem Figures.step_sign {d : Char} {below : Bool} (digit : isDigit d = true) :
    step ⟨.sign, negative, ds, fs, below, []⟩ d = some ⟨.exponent, negative, ds, fs, below, [d]⟩ := if_pos digit

theorem run_mantissa (mantissa : Mantissa cs negative ds fs) (rest : List Char) :
    run ⟨frames, .value closable⟩ (cs ++ rest) = run ⟨frames, .figures (.behind negative ds fs)⟩ rest := by
  cases mantissa with
  | digits negative whole fraction =>
    rw [List.append_assoc, run_integer frames closable negative whole]
    cases fraction with
    | none => rfl
    | digits digits =>
      obtain ⟨d, others, rfl⟩ := List.exists_cons_of_ne_nil digits.1
      have digit := digits.2 d List.mem_cons_self
      have point : (Figures.behind negative ds []).step '.' = some ⟨.point, negative, ds.reverse, [], false, []⟩ := by
        by_cases zero : ds = ['0']
        · subst zero
          rfl
        · rw [Figures.behind_whole negative zero]
          rfl
      rw [List.cons_append, run_figures point, List.cons_append, run_figures (Figures.step_point digit),
        run_each (f := fun read => ⟨.fraction, negative, ds.reverse, read, false, []⟩) (fun _ _ digit => if_pos digit) others
          (fun c later => digits.2 c (List.mem_cons_of_mem d later)), Figures.behind_fraction negative ds digits.1,
        List.reverse_cons]

theorem Figures.behind_mark {e : Char} (mark : e = 'e' ∨ e = 'E') (negative : Bool) (ds fs : List Char) :
    (behind negative ds fs).step e = some ⟨.mark, negative, ds.reverse, fs.reverse, false, []⟩ := by
  have noDigit : isDigit e = false := by rcases mark with rfl | rfl <;> rfl
  have noPoint : e ≠ '.' := by rcases mark with rfl | rfl <;> decide
  unfold behind
  split
  · split <;> simp [step, noDigit, noPoint, mark]
  · simp [step, noDigit, mark]

theorem run_exponent (mantissa : Mantissa cs negative ds fs) {e : Char} {below : Bool} {ss es : List Char}
    (mark : e = 'e' ∨ e = 'E') (sign : ExponentSign ss below) (digits : Digits es) (rest : List Char) :
    run ⟨frames, .value closable⟩ (cs ++ e :: (ss ++ es) ++ rest) =
      run ⟨frames, .figures ⟨.exponent, negative, ds.reverse, fs.reverse, below, es.reverse⟩⟩ rest := by
  obtain ⟨d, others, rfl⟩ := List.exists_cons_of_ne_nil digits.1
  have digit := digits.2 d List.mem_cons_self
  have noPlus : d ≠ '+' := by rintro rfl; cases digit
  have noMinus : d ≠ '-' := by rintro rfl; cases digit
  have first (rest : List Char) :
      run ⟨frames, .figures ⟨.mark, negative, ds.reverse, fs.reverse, false, []⟩⟩ (ss ++ d :: rest) =
        run ⟨frames, .figures ⟨.exponent, negative, ds.reverse, fs.reverse, below, [d]⟩⟩ rest := by
    cases sign with
    | none => exact run_figures (by simp [Figures.step, noPlus, noMinus, digit]) frames rest
    | plus => exact (run_figures rfl frames _).trans (run_figures (Figures.step_sign digit) frames rest)
    | minus => exact (run_figures rfl frames _).trans (run_figures (Figures.step_sign digit) frames rest)
  simp only [List.append_assoc, List.cons_append]
  rw [run_mantissa frames closable mantissa, run_figures (Figures.behind_mark mark negative ds fs), first,
    run_each (f := fun read => ⟨.exponent, negative, ds.reverse, fs.reverse, below, read⟩) (fun _ _ digit => if_pos digit)
      others (fun c later => digits.2 c (List.mem_cons_of_mem d later)), List.reverse_cons]

theorem run_number {v : Json} (number : Number cs v) : ∃ f : Figures, f.finish = some v ∧
    ∀ rest, run ⟨frames, .value closable⟩ (cs ++ rest) = run ⟨frames, .figures f⟩ rest := by
  cases number with
  | @positive ds whole =>
    refine ⟨.behind false cs [], ?_, run_integer frames closable false whole⟩
    by_cases zero : cs = ['0']
    · subst zero
      rfl
    · rw [Figures.behind_whole false zero]
      simp [Figures.finish]
  | @negative ds whole nonzero =>
    have positive := natOf_pos whole nonzero
    refine ⟨.behind true ds [], ?_, run_integer frames closable true whole⟩
    rw [Figures.behind_whole true nonzero]
    simp [Figures.finish, Nat.ne_of_gt positive]
  | negativeZero => exact ⟨.behind true ['0'] [], rfl, run_integer frames closable true .zero⟩
  | @decimal cs negative ds fs ending power mantissa exponent either =>
    cases exponent with
    | none =>
      have more := either.resolve_right (fun given => given rfl)
      refine ⟨.behind negative ds fs, ?_, fun rest => ?_⟩
      · rw [Figures.behind_fraction negative ds more]
        simp [Figures.finish]
      · rw [List.append_nil]
        exact run_mantissa frames closable mantissa rest
    | digits mark sign digits =>
      refine ⟨_, ?_, run_exponent frames closable mantissa mark sign digits⟩
      simp [Figures.finish]

end Written

end Harvester.Json
