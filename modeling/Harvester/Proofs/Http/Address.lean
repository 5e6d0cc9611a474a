import Harvester.Http.Body
import Harvester.Proofs.Http.Query
import Harvester.Proofs.Text.Digits
import Mathlib.Data.List.DropRight
namespace Harvester.Http

theorem trimBase_toList (base : String) : (trimBase base).toList = base.toList.rdropWhile (· == '/') :=
  String.toList_ofList

-- What is taken off a base address are slashes at its end, all of them.
theorem trimBase_slashes (base : String) : ∃ n,
    base.toList = (trimBase base).toList ++ List.replicate n '/' ∧ (trimBase base).toList.getLast? ≠ some '/' := by
  rw [trimBase_toList]
  refine ⟨(base.toList.rtakeWhile (· == '/')).length, ?_, ?_⟩
  · have slashes : base.toList.rtakeWhile (· == '/') =
        List.replicate (base.toList.rtakeWhile (· == '/')).length '/' :=
      List.eq_replicate_of_mem fun c present => by simpa using List.mem_rtakeWhile_imp present
    rw [← slashes, List.rdropWhile_append_rtakeWhile]
  · intro last
    have filled : base.toList.rdropWhile (· == '/') ≠ [] := by
      intro empty
      rw [empty] at last
      cases last
    rw [List.getLast?_eq_some_getLast filled, Option.some.injEq] at last
    exact List.rdropWhile_last_not _ _ filled (by rw [last]; rfl)

-- The query of an address: behind the first question mark, and before a fragment.
def queryText (address : String) : List Char :=
  ((address.toList.takeWhile (· != '#')).dropWhile (· != '?')).drop 1

-- The names and values that the other side reads out of a request.
def Request.pairs (request : Request) : List (String × String) := readPairs (queryText request.url)

namespace Url

-- Neither a query nor a fragment begins in the text.
abbrev IsBare (cs : List Char) : Prop := ∀ c ∈ cs, c ≠ '?' ∧ c ≠ '#'

instance (cs : List Char) : Decidable (IsBare cs) := List.decidableBAll _ cs

-- What does not count around an address.
def isOuter (c : Char) : Bool := isControl c || c == ' '

-- What may be put behind a base address: it begins with a slash, and nothing in it is left out or begins a query.
abbrev IsTail (path : List Char) : Prop := path.head? = some '/' ∧ ∀ c ∈ path, isOuter c = false ∧ c ≠ '?' ∧ c ≠ '#'

instance (path : List Char) : Decidable (IsTail path) := @instDecidableAnd _ _ _ (List.decidableBAll _ path)

variable {cs kept path front rest slashes : List Char} {url : Url} {secure : Bool}

theorem tidied_eq (cs : List Char) : tidied cs =
    ((cs.dropWhile isOuter).rdropWhile isOuter).filter fun c => c != '\t' && c != '\n' && c != '\r' :=
  rfl

theorem mem_tidied {c : Char} (present : c ∈ tidied cs) : c ∈ cs := by
  rw [tidied_eq] at present
  have within := (List.mem_filter.mp present).1
  exact (List.dropWhile_sublist _).subset ((List.rdropWhile_prefix isOuter _).subset within)

theorem tidied_tail (tail : IsTail path) (kept : List Char) : tidied (kept ++ path) =
    (kept.dropWhile isOuter).filter (fun c => c != '\t' && c != '\n' && c != '\r') ++ path := by
  obtain ⟨slash, inner⟩ := tail
  have filled : path ≠ [] := by
    rintro rfl
    cases slash
  have begun : path.dropWhile isOuter = path := by
    cases path with
    | nil => rfl
    | cons c path => exact List.dropWhile_cons_of_neg (by simp [inner c List.mem_cons_self])
  have front : (kept ++ path).dropWhile isOuter = kept.dropWhile isOuter ++ path := by
    rw [List.dropWhile_append]
    split
    · rename_i none
      rw [begun, List.isEmpty_iff.mp none, List.nil_append]
    · rfl
  have ended : (kept.dropWhile isOuter ++ path).rdropWhile isOuter = kept.dropWhile isOuter ++ path := by
    refine List.rdropWhile_eq_self_iff.mpr fun nonempty => ?_
    rw [List.getLast_append_of_ne_nil nonempty filled]
    simp [inner _ (List.getLast_mem filled)]
  have whole : path.filter (fun c => c != '\t' && c != '\n' && c != '\r') = path := by
    refine List.filter_eq_self.mpr fun c present => ?_
    have visible := (inner c present).1
    simp only [Bool.and_eq_true, bne_iff_ne]
    refine ⟨⟨?_, ?_⟩, ?_⟩ <;>
    · rintro rfl
      cases visible
  rw [tidied_eq, front, ended, List.filter_append, whole]

theorem isTail_slashes (n : Nat) : IsTail (List.replicate (n + 1) '/') := by
  refine ⟨rfl, fun c present => ?_⟩
  rw [(List.mem_replicate.mp present).2]
  decide

-- With slashes at its end or with a path there, an address is the same up to that place; blanks that stood at its end
-- are now within.
theorem tidied_joined (tail : IsTail path) (cs : List Char) (n : Nat) : ∃ kept within,
    tidied (cs ++ List.replicate n '/') = kept ++ List.replicate n '/' ∧ tidied (cs ++ path) = kept ++ within ++ path ∧
      ((∀ last ∈ (cs ++ List.replicate n '/').getLast?, isOuter last = false) → within = []) := by
  cases n with
  | succ n =>
    exact ⟨_, [], tidied_tail (isTail_slashes n) cs, by rw [tidied_tail tail, List.append_nil], fun _ => rfl⟩
  | zero =>
    refine ⟨tidied cs, ((cs.dropWhile isOuter).rtakeWhile isOuter).filter fun c => c != '\t' && c != '\n' && c != '\r',
      by rw [List.replicate_zero, List.append_nil, List.append_nil], ?_, fun plain => ?_⟩
    · rw [tidied_tail tail, tidied_eq, ← List.filter_append, List.rdropWhile_append_rtakeWhile]
    · rw [List.replicate_zero, List.append_nil] at plain
      have none : (cs.dropWhile isOuter).rtakeWhile isOuter = [] := by
        refine List.rtakeWhile_eq_nil_iff.mpr fun nonempty => ?_
        have last := List.getLast?_eq_some_getLast nonempty
        have same : cs.getLast? = (cs.dropWhile isOuter).getLast? := by
          conv_lhs => rw [← List.takeWhile_append_dropWhile (p := isOuter) (l := cs)]
          rw [List.getLast?_append, last, Option.some_or]
        simp [plain _ (same.trans last)]
      rw [none, List.filter_nil]

-- The scheme of an address stands before the first colon, and says no more of what is behind.
theorem scheme?_cases (schemed : scheme? cs = some (secure, rest)) : ∃ name behind, cs = name ++ ':' :: behind ∧
    rest = behind.dropWhile isSlash ∧ ∀ more, scheme? (name ++ ':' :: more) = some (secure, more.dropWhile isSlash) := by
  have apart : ∀ c ∈ cs.takeWhile (· != ':'), (c != ':') = true := fun c => List.mem_takeWhile_imp
  have whole := List.takeWhile_append_dropWhile (p := (· != ':')) (l := cs)
  have front (more : List Char) : (cs.takeWhile (· != ':') ++ ':' :: more).takeWhile (· != ':') =
      cs.takeWhile (· != ':') := by
    rw [List.takeWhile_append_of_pos apart, List.takeWhile_cons_of_neg (by decide), List.append_nil]
  have back (more : List Char) : (cs.takeWhile (· != ':') ++ ':' :: more).dropWhile (· != ':') = ':' :: more := by
    rw [List.dropWhile_append_of_pos apart, List.dropWhile_cons_of_neg (by decide)]
  unfold scheme? at schemed
  split at schemed
  · rename_i behind named colon
    cases schemed
    exact ⟨_, behind, by rw [← colon, whole], rfl, fun more => by simp only [scheme?, front, back, named]⟩
  · rename_i behind named colon
    cases schemed
    exact ⟨_, behind, by rw [← colon, whole], rfl, fun more => by simp only [scheme?, front, back, named]⟩
  · cases schemed

theorem scheme?_append (clean : ':' ∉ slashes) (schemed : scheme? (kept ++ slashes) = some (secure, rest)) :
    ∃ behind, rest = (behind ++ slashes).dropWhile isSlash ∧
      ∀ more, scheme? (kept ++ more) = some (secure, (behind ++ more).dropWhile isSlash) := by
  obtain ⟨name, behind, whole, rfl, other⟩ := scheme?_cases schemed
  rcases List.append_eq_append_iff.mp whole with ⟨between, _, inside⟩ | ⟨between, rfl, behind'⟩
  · exact absurd (by simp [inside]) clean
  · cases between with
    | nil =>
      rw [List.nil_append] at behind'
      rw [← behind'] at clean
      exact absurd List.mem_cons_self clean
    | cons c between =>
      obtain ⟨rfl, rfl⟩ := List.cons.inj behind'
      exact ⟨between, rfl, fun more => by rw [List.append_assoc, List.cons_append, other]⟩

-- An address that consists of authority and path.
def site? (secure : Bool) (front path : List Char) : Option Url :=
  let host := hostEnd (withoutUser front)
  (port? secure ((withoutUser front).drop host.length)).bind fun port =>
    if isHost host then some ⟨secure, host.map Text.lowerAscii, port, pathOf path, none⟩ else none

theorem ofChars?_bare (bare : IsBare cs) : ofChars? cs = (scheme? (tidied cs)).bind fun scheme =>
    site? scheme.1 (scheme.2.takeWhile fun c => !isSlash c) (scheme.2.dropWhile fun c => !isSlash c) := by
  rw [ofChars?]
  cases schemed : scheme? (tidied cs) with
  | none => rfl
  | some scheme =>
    obtain ⟨secure, rest⟩ := scheme
    have inner : ∀ c ∈ rest, c ≠ '?' ∧ c ≠ '#' := by
      obtain ⟨name, behind, whole, rfl, _⟩ := scheme?_cases schemed
      intro c present
      refine bare c (mem_tidied ?_)
      rw [whole]
      exact List.mem_append_right _ (List.mem_cons_of_mem _ ((List.dropWhile_sublist _).subset present))
    have noFragment : rest.takeWhile (· != '#') = rest :=
      List.takeWhile_eq_self_iff.mpr fun c present => by simpa using (inner c present).2
    have noQuery : rest.takeWhile (· != '?') = rest :=
      List.takeWhile_eq_self_iff.mpr fun c present => by simpa using (inner c present).1
    have none : rest.dropWhile (· != '?') = [] :=
      List.dropWhile_eq_nil_iff.mpr fun c present => by simpa using (inner c present).1
    simp only [Option.bind_eq_bind, Option.bind_some, noFragment, noQuery, none]
    rfl

-- Whether there is an address is decided by the authority.
theorem site?_cases (sited : site? secure front path = some url) :
    url.secure = secure ∧ url.query = none ∧ front ≠ [] ∧ ∀ other, (site? secure front other).isSome := by
  obtain ⟨port, read, sited⟩ := Option.bind_eq_some_iff.mp sited
  split at sited
  · rename_i hosted
    cases sited
    refine ⟨rfl, rfl, ?_, fun other => by simp only [site?, read, Option.bind_some, if_pos hosted, Option.isSome_some]⟩
    rintro rfl
    cases hosted
  · cases sited

-- The authority ends at a slash, so slashes or a path behind it leave it as it is.
theorem front_slashes (filled : ((kept ++ slashes).dropWhile isSlash).takeWhile (fun c => !isSlash c) ≠ [])
    (only : ∀ c ∈ slashes, isSlash c = true) (begun : ∀ c ∈ path.head?, isSlash c = true) :
    ((kept ++ path).dropWhile isSlash).takeWhile (fun c => !isSlash c) =
      ((kept ++ slashes).dropWhile isSlash).takeWhile fun c => !isSlash c := by
  have none : slashes.dropWhile isSlash = [] := List.dropWhile_eq_nil_iff.mpr only
  rw [List.dropWhile_append] at filled
  have some : (kept.dropWhile isSlash).isEmpty = false := by
    cases empty : (kept.dropWhile isSlash).isEmpty with
    | false => rfl
    | true =>
      rw [empty, if_pos rfl, none] at filled
      exact absurd rfl filled
  have front {tail : List Char} (begun : ∀ c ∈ tail.head?, isSlash c = true) :
      ((kept ++ tail).dropWhile isSlash).takeWhile (fun c => !isSlash c) =
        (kept.dropWhile isSlash).takeWhile fun c => !isSlash c := by
    rw [List.dropWhile_append, some, if_neg Bool.false_ne_true, List.takeWhile_append]
    split
    · rename_i whole
      have ended : tail.takeWhile (fun c => !isSlash c) = [] := by
        cases tail with
        | nil => rfl
        | cons c tail => exact List.takeWhile_cons_of_neg (by simp [begun c rfl])
      rw [ended, List.append_nil]
      exact ((List.takeWhile_prefix _).eq_of_length whole).symm
    · rfl
  rw [front begun, front fun c first => only c (List.mem_of_mem_head? first)]

-- A base address without a query and a fragment stays one with a path behind it, at the same scheme.
theorem parse?_joined {base path : String} (parsed : parse? base = some url) (bare : IsBare base.toList)
    (tail : IsTail path.toList) :
    (∀ joined, parse? (trimBase base ++ path) = some joined → joined.secure = url.secure ∧ joined.query = none) ∧
      ((∀ last ∈ base.toList.getLast?, isOuter last = false) → (parse? (trimBase base ++ path)).isSome) := by
  obtain ⟨n, whole, _⟩ := trimBase_slashes base
  obtain ⟨kept, within, tidyBase, tidyJoined, plain⟩ := tidied_joined tail (trimBase base).toList n
  have joinedBare : IsBare ((trimBase base).toList ++ path.toList) := by
    intro c present
    rcases List.mem_append.mp present with before | behind
    · exact bare c (whole ▸ List.mem_append_left _ before)
    · exact (tail.2 c behind).2
  rw [parse?, ofChars?_bare bare, whole, tidyBase] at parsed
  obtain ⟨⟨secure, rest⟩, schemed, sited⟩ := Option.bind_eq_some_iff.mp parsed
  have only : ∀ c ∈ List.replicate n '/', isSlash c = true := by
    intro c present
    rw [(List.mem_replicate.mp present).2]
    rfl
  have clean : ':' ∉ List.replicate n '/' := fun present => nomatch (only _ present)
  obtain ⟨behind, rfl, other⟩ := scheme?_append clean schemed
  obtain ⟨same, _, filled, stays⟩ := site?_cases sited
  have shown : parse? (trimBase base ++ path) =
      site? secure (((behind ++ (within ++ path.toList)).dropWhile isSlash).takeWhile fun c => !isSlash c)
        (((behind ++ (within ++ path.toList)).dropWhile isSlash).dropWhile fun c => !isSlash c) := by
    rw [parse?, String.toList_append, ofChars?_bare joinedBare, tidyJoined, List.append_assoc, other, Option.bind_some]
  rw [shown]
  constructor
  · intro joined sitedToo
    obtain ⟨sameToo, none, _⟩ := site?_cases sitedToo
    exact ⟨sameToo.trans same.symm, none⟩
  · intro last
    rw [plain (whole ▸ last), List.nil_append, front_slashes filled only]
    · exact stays _
    · intro c first
      rw [tail.1] at first
      cases first
      rfl

theorem isBare_lowerAscii (bare : IsBare cs) : IsBare (cs.map Text.lowerAscii) := by
  intro c present
  obtain ⟨d, within, rfl⟩ := List.mem_map.mp present
  unfold Text.lowerAscii
  split
  · rename_i upper
    have range : 65 ≤ d.toNat ∧ d.toNat ≤ 90 := by simpa [Char.le_def, UInt32.le_iff_toNat_le] using upper
    have code : (Char.ofNat (d.toNat + 32)).toNat = d.toNat + 32 := Json.ofNat_toNat (by omega)
    constructor
    · intro same
      rw [same, show '?'.toNat = 63 from rfl] at code
      omega
    · intro same
      rw [same, show '#'.toNat = 35 from rfl] at code
      omega
  · exact bare d within

theorem isBare_host (hosted : isHost cs = true) : IsBare cs := by
  have apart (allowed : Char → Bool) (query : allowed '?' = false) (fragment : allowed '#' = false) {c : Char}
      (fits : allowed c = true) : c ≠ '?' ∧ c ≠ '#' := by
    constructor <;> rintro rfl
    · simp [query] at fits
    · simp [fragment] at fits
  rw [isHost, Bool.and_eq_true, Bool.or_eq_true] at hosted
  rcases hosted.2 with named | numbered
  · exact fun c present => apart mayStandInHost (by decide) (by decide) (List.all_eq_true.mp named c present)
  · unfold isIpv6 at numbered
    split at numbered
    · rename_i rest
      rw [Bool.and_eq_true, beq_iff_eq] at numbered
      intro c present
      rcases List.mem_cons.mp present with rfl | present
      · decide
      · rw [← List.dropLast_append_getLast? _ numbered.1] at present
        rcases List.mem_append.mp present with inner | last
        · exact apart (fun c => (Text.hexValue? c).isSome || c == ':' || c == '.') (by decide) (by decide)
            (List.all_eq_true.mp numbered.2 c inner)
        · rw [List.mem_singleton.mp last]
          decide
    · cases numbered

theorem isBare_percentText (cs : List Char) : IsBare (percentText pathEscapes cs) := by
  intro c present
  obtain ⟨d, _, present⟩ := List.mem_flatMap.mp present
  split at present
  · obtain ⟨b, _, present⟩ := List.mem_flatMap.mp present
    obtain ⟨_, _, fragment, query⟩ := mem_percentByte present
    exact ⟨query, fragment⟩
  · rename_i kept
    rw [List.mem_singleton.mp present]
    constructor <;> rintro rfl
    · exact kept (by decide)
    · exact kept (by decide)

theorem mem_resolved {segment : List Char} {kept segments : List (List Char)}
    (present : segment ∈ resolved kept segments) : segment = [] ∨ segment ∈ kept ∨ segment ∈ segments := by
  fun_induction resolved kept segments with
  | case1 kept => exact .inr (.inl (List.mem_reverse.mp present))
  | case2 kept last up =>
    rcases List.mem_cons.mp (List.mem_reverse.mp present) with rfl | before
    · exact .inl rfl
    · exact .inr (.inl (List.mem_of_mem_drop before))
  | case3 kept last _ here =>
    rcases List.mem_cons.mp (List.mem_reverse.mp present) with rfl | before
    · exact .inl rfl
    · exact .inr (.inl before)
  | case4 kept last _ _ =>
    rcases List.mem_cons.mp (List.mem_reverse.mp present) with rfl | before
    · exact .inr (.inr List.mem_cons_self)
    · exact .inr (.inl before)
  | case5 kept first rest _ up ih =>
    rcases ih present with empty | before | behind
    · exact .inl empty
    · exact .inr (.inl (List.mem_of_mem_drop before))
    · exact .inr (.inr (List.mem_cons_of_mem _ behind))
  | case6 kept first rest _ _ here ih =>
    rcases ih present with empty | before | behind
    · exact .inl empty
    · exact .inr (.inl before)
    · exact .inr (.inr (List.mem_cons_of_mem _ behind))
  | case7 kept first rest _ _ _ ih =>
    rcases ih present with empty | before | behind
    · exact .inl empty
    · rcases List.mem_cons.mp before with rfl | before
      · exact .inr (.inr List.mem_cons_self)
      · exact .inr (.inl before)
    · exact .inr (.inr (List.mem_cons_of_mem _ behind))

theorem isBare_pathOf (cs : List Char) : IsBare (pathOf cs) := by
  intro c present
  obtain ⟨segment, stays, present⟩ := List.mem_flatMap.mp present
  rcases List.mem_cons.mp present with rfl | present
  · decide
  · rcases mem_resolved stays with rfl | none | written
    · cases present
    · cases none
    · obtain ⟨piece, _, rfl⟩ := List.mem_map.mp written
      exact isBare_percentText piece c present

-- In its normal form an address has neither sign in its authority and its path, whatever it was written like.
theorem parse?_isBare {s : String} (parsed : parse? s = some url) : IsBare (url.authority ++ url.path) := by
  rw [parse?, ofChars?] at parsed
  simp only [Option.bind_eq_bind] at parsed
  obtain ⟨⟨secure, rest⟩, _, parsed⟩ := Option.bind_eq_some_iff.mp parsed
  obtain ⟨port, _, parsed⟩ := Option.bind_eq_some_iff.mp parsed
  split at parsed
  · rename_i hosted
    cases parsed
    intro c present
    rcases List.mem_append.mp present with front | path
    · cases port with
      | none => exact isBare_lowerAscii (isBare_host hosted) c front
      | some n =>
        rcases List.mem_append.mp front with host | port
        · exact isBare_lowerAscii (isBare_host hosted) c host
        · rcases List.mem_cons.mp port with rfl | digit
          · decide
          · have range := Text.isDigit_range (Text.isDigit_of_mem (by simpa using digit))
            constructor <;> rintro rfl
            · exact absurd range (by decide)
            · exact absurd range (by decide)
    · exact isBare_pathOf _ c path
  · cases parsed

theorem queryText_bare (bare : IsBare cs) : queryText (String.ofList cs) = [] := by
  have noFragment : cs.takeWhile (· != '#') = cs :=
    List.takeWhile_eq_self_iff.mpr fun c present => by simpa using (bare c present).2
  have noQuery : cs.dropWhile (· != '?') = [] :=
    List.dropWhile_eq_nil_iff.mpr fun c present => by simpa using (bare c present).1
  rw [queryText, String.toList_ofList, noFragment, noQuery, List.drop_nil]

theorem queryText_append (bare : IsBare cs) (clean : ∀ c ∈ rest, c ≠ '#') :
    queryText (String.ofList (cs ++ '?' :: rest)) = rest := by
  have noFragment : (cs ++ '?' :: rest).takeWhile (· != '#') = cs ++ '?' :: rest := by
    refine List.takeWhile_eq_self_iff.mpr fun c present => ?_
    rcases List.mem_append.mp present with front | query
    · simpa using (bare c front).2
    · rcases List.mem_cons.mp query with rfl | query
      · rfl
      · simpa using clean c query
  have before : ∀ c ∈ cs, (c != '?') = true := fun c present => by simpa using (bare c present).1
  rw [queryText, String.toList_ofList, noFragment, List.dropWhile_append_of_pos before,
    List.dropWhile_cons_of_neg (by decide), List.drop_one, List.tail_cons]

theorem withPairs_secure (url : Url) (pairs : List (String × String)) : (url.withPairs pairs).secure = url.secure := by
  unfold withPairs
  split <;> rfl

-- Pairs that are put behind an address without a query are the pairs the other side reads.
theorem readPairs_withPairs {s : String} (parsed : parse? s = some url) (none : url.query = none)
    (pairs : List (String × String)) : readPairs (queryText (url.withPairs pairs).render) = pairs := by
  have schemed : IsBare (if url.secure then "https://" else "http://").toList := by
    cases url.secure <;> decide
  have bare : IsBare ((if url.secure then "https://" else "http://").toList ++ url.authority ++ url.path) := by
    rw [List.append_assoc]
    intro c present
    rcases List.mem_append.mp present with scheme | rest
    · exact schemed c scheme
    · exact parse?_isBare parsed c rest
  cases pairs with
  | nil =>
    have shown : (url.withPairs []).render =
        String.ofList ((if url.secure then "https://" else "http://").toList ++ url.authority ++ url.path) := by
      simp [withPairs, none, formPairs, render, authority]
    rw [shown, queryText_bare bare]
    rfl
  | cons pair pairs =>
    have filled : formPairs (pair :: pairs) ≠ [] := by
      intro empty
      have back := readPairs_formPairs (pair :: pairs)
      rw [empty] at back
      cases back
    have shown : (url.withPairs (pair :: pairs)).render =
        String.ofList ((if url.secure then "https://" else "http://").toList ++ url.authority ++ url.path ++
          '?' :: formPairs (pair :: pairs)) := by
      obtain ⟨c, spelled, begun⟩ := List.exists_cons_of_ne_nil filled
      simp [withPairs, none, begun, render, authority]
    rw [shown, queryText_append bare fun c => mem_formPairs, readPairs_formPairs]

end Url

end Harvester.Http
