import Harvester.Proofs.Http.Address
import Harvester.Proofs.Source.Gathering
import Harvester.Proofs.Text.ByteOrder
namespace Harvester

open Http

-- The address of the service itself. Feeds have addresses of their own.
def SourceSpec.origin : SourceSpec → String
  | .githubReleases .. | .githubEvents .. => Github.origin
  | .reddit .. => Reddit.origin
  | .newsApi .. => News.origin
  | .kaggle .. => Kaggle.origin
  | .productHunt .. => ProductHunt.origin
  | .devTo .. => DevTo.origin
  | .codeforces .. => Codeforces.origin
  | .rss _ => ""
  | .atcoder _ => Atcoder.origin

-- The same source at another base address, and nothing else.
def SourceSpec.mapBase (f : Option String → Option String) : SourceSpec → SourceSpec
  | .githubReleases repos token base => .githubReleases repos token (f base)
  | .githubEvents repos token base => .githubEvents repos token (f base)
  | .reddit subreddits sort limit base => .reddit subreddits sort limit (f base)
  | .newsApi apiKey query pageSize base => .newsApi apiKey query pageSize (f base)
  | .kaggle username key search base => .kaggle username key search (f base)
  | .productHunt token first base => .productHunt token first (f base)
  | .devTo tag perPage base => .devTo tag perPage (f base)
  | .codeforces gym base => .codeforces gym (f base)
  | .rss feeds => .rss feeds
  | .atcoder base => .atcoder (f base)

-- The base address is written out, and no slash stands at its end.
def SourceSpec.settled (spec : SourceSpec) : SourceSpec :=
  spec.mapBase fun base => some (trimBase (base.getD spec.origin))

namespace Registry

-- What a row of the settings stands for in the registry.
def entry (client : Client) (row : JobSettings) : Job := ⟨row.source.settled.source client, row.params⟩

-- Rows that are switched off come, go and move at will; rows that are switched on change places with rows of other
-- names.
inductive Rearranged : List JobSettings → List JobSettings → Prop
  | refl (jobs : List JobSettings) : Rearranged jobs jobs
  | keep (row : JobSettings) (behind : Rearranged jobs others) : Rearranged (row :: jobs) (row :: others)
  | remove (off : row.enabled = false) (behind : Rearranged jobs others) : Rearranged (row :: jobs) others
  | add (off : row.enabled = false) (behind : Rearranged jobs others) : Rearranged jobs (row :: others)
  | swap (row next : JobSettings) (apart : row.name ≠ next.name) (behind : Rearranged jobs others) :
    Rearranged (row :: next :: jobs) (next :: row :: others)
  | trans (first : Rearranged jobs between) (second : Rearranged between others) : Rearranged jobs others

variable {http : HttpSettings} {client : Client} {jobs others : List JobSettings} {name : String}

theorem rows_off (row : JobSettings) (off : row.enabled = false) : rows (row :: jobs) name = rows jobs name := by
  simp [rows, off]

theorem rows_other (row : JobSettings) (other : row.name ≠ name) : rows (row :: jobs) name = rows jobs name := by
  simp [rows, other]

theorem rows_cons (row : JobSettings) (jobs : List JobSettings) (name : String) :
    rows (row :: jobs) name = rows [row] name ++ rows jobs name :=
  List.filter_append [row] jobs

-- Of each name there are the same rows in the same order.
theorem Rearranged.rows (rearranged : Rearranged jobs others) (name : String) :
    Registry.rows jobs name = Registry.rows others name := by
  induction rearranged with
  | refl jobs => rfl
  | keep row _ ih => rw [rows_cons, ih, ← rows_cons]
  | remove off _ ih => rw [rows_off _ off, ih]
  | add off _ ih => rw [rows_off _ off, ih]
  | trans _ _ first second => rw [first, second]
  | @swap jobs others row next apart _ ih =>
    by_cases same : row.name = name
    · have other : next.name ≠ name := fun named => apart (same.trans named.symm)
      rw [rows_cons row (next :: jobs), rows_other next other, rows_other next other, rows_cons row others, ih]
    · rw [rows_other row same, rows_cons next jobs, rows_cons next (row :: others), rows_other row same, ih]

end Registry

end Harvester
