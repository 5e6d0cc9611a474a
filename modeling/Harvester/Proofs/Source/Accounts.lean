import Harvester.Proofs.Journal.Counts
import Harvester.Settings.Jobs
namespace Harvester

open Http

-- What a batch is to add to the counters: its items under their provider, and its feeds that failed.
def Batch.share (batch : Batch) (provider : Provider) : Counter → Nat
  | .fetched p => if provider = p then batch.items.length else 0
  | .feedFailures => batch.failedFeeds
  | _ => 0

-- A fetch whose notes count what it brought, and nothing where it failed; its items are of the source's type.
inductive Fetched.Accounted (provider : Provider) (sourceType : SourceType) : Fetched → Prop
  | failed (e : FetchError) {said : List Note} (uncounted : ∀ counter, Note.total counter said = 0) :
      Accounted provider sourceType ⟨.error e, said⟩
  | brought (batch : Batch) {said : List Note}
      (counted : ∀ counter, Note.total counter said = batch.share provider counter)
      (ofType : ∀ raw ∈ batch.items, raw.sourceType = sourceType) : Accounted provider sourceType ⟨.ok batch, said⟩

def Source.Accounted (source : Source) : Prop :=
  ∀ run network, (source.fetch run network).1.Accounted source.provider source.sourceType

theorem fetchedNotes_total (provider : Provider) (count : Nat) (counter : Counter) :
    Note.total counter (fetchedNotes provider count) = if .fetched provider = counter then count else 0 := by
  simp [fetchedNotes]

-- Reading that brings items of one type only, whatever is read.
def Yields (sourceType : SourceType) (read : α → Except FetchError (List RawItem)) : Prop :=
  ∀ x items, read x = .ok items → ∀ raw ∈ items, raw.sourceType = sourceType

theorem wrapped_ofType {wrap : α → RawItem} (ofType : ∀ x, (wrap x).sourceType = sourceType) (xs : List α) :
    ∀ raw ∈ xs.map wrap, raw.sourceType = sourceType := by
  intro raw present
  obtain ⟨x, _, rfl⟩ := List.mem_map.mp present
  exact ofType x

theorem listedItems_yields {wrap : α → RawItem} (ofType : ∀ x, (wrap x).sourceType = sourceType) (what : String)
    (read : Json → Option α) : Yields sourceType (listedItems what read wrap) := by
  intro body items brought
  rw [listedItems] at brought
  cases decoded : documentOf what (Json.listOf? read) body with
  | error e =>
    rw [decoded] at brought
    cases brought
  | ok data =>
    rw [decoded] at brought
    cases brought
    exact wrapped_ofType ofType _

theorem envelopedItems_yields {contents : α → Except FetchError (List RawItem)} (yields : Yields sourceType contents)
    (what : String) (read : Json → Option α) : Yields sourceType (envelopedItems what read contents) := by
  intro body items brought
  rw [envelopedItems] at brought
  cases decoded : documentOf what read body with
  | error e =>
    rw [decoded] at brought
    cases brought
  | ok data =>
    rw [decoded] at brought
    cases data with
    | none =>
      cases brought
      exact fun _ present => absurd present List.not_mem_nil
    | some envelope => exact yields envelope items brought

namespace Listing

-- What is noted of the items counts nothing; the count is noted once, for all listings together.
structure Plain (sourceType : SourceType) (listing : Listing) : Prop where
  yields : Yields sourceType listing.read
  silent : ∀ items counter, Note.total counter (listing.remarks items) = 0

variable {sourceType : SourceType} {listing : Listing} {listings : List Listing}

theorem Plain.ask (plain : listing.Plain sourceType) (asked : listing.ask network = (.ok items, after)) :
    ∀ raw ∈ items, raw.sourceType = sourceType := by
  rw [Listing.ask] at asked
  rcases sent : network.send listing.call with ⟨e | reply, rest⟩
  · simp [sent] at asked
  · simp only [sent, Prod.mk.injEq] at asked
    cases body : reply.success with
    | error e => simp [body, Except.bind] at asked
    | ok text =>
      rw [body] at asked
      exact plain.yields text items asked.1

theorem gather_silent (plain : ∀ listing ∈ listings, listing.Plain sourceType) (network : Network) (counter : Counter) :
    Note.total counter (gather listings network).2.1 = 0 := by
  induction listings generalizing network with
  | nil => rfl
  | cons listing rest ih =>
    have quiet := (plain listing List.mem_cons_self).silent
    have others := ih fun other later => plain other (List.mem_cons_of_mem listing later)
    rcases asked : listing.ask network with ⟨e | items, after⟩
    · simp [gather, asked]
    · have later := others after
      rcases gathered : gather rest after with ⟨e | more, notes, last⟩
      all_goals
        rw [gathered] at later
        simp only [gather, asked, gathered, Note.total_append, quiet, later]

theorem gather_ofType (plain : ∀ listing ∈ listings, listing.Plain sourceType)
    (brought : gather listings network = (.ok items, said, last)) : ∀ raw ∈ items, raw.sourceType = sourceType := by
  induction listings generalizing network items said with
  | nil =>
    cases brought
    exact fun _ present => absurd present List.not_mem_nil
  | cons listing rest ih =>
    rcases asked : listing.ask network with ⟨e | found, after⟩
    · simp [gather, asked] at brought
    · rcases gathered : gather rest after with ⟨e | more, noted, final⟩
      · simp [gather, asked, gathered] at brought
      · simp only [gather, asked, gathered, Prod.mk.injEq, Except.ok.injEq] at brought
        obtain ⟨rfl, _, rfl⟩ := brought
        have first := (plain listing List.mem_cons_self).ask asked
        have others := ih (fun other later => plain other (List.mem_cons_of_mem listing later)) gathered
        intro raw present
        exact (List.mem_append.mp present).elim (first raw) (others raw)

end Listing

theorem Source.ofListings_accounted (provider : Provider) {sourceType : SourceType} {listings : Run → List Listing}
    (plain : ∀ run, ∀ listing ∈ listings run, listing.Plain sourceType) :
    (Source.ofListings provider sourceType listings).Accounted := by
  intro run network
  have silent := Listing.gather_silent (plain run) network
  rcases gathered : Listing.gather (listings run) network with ⟨e | items, said, after⟩
  · simp only [gathered] at silent
    simp only [Source.ofListings, gathered]
    exact .failed e silent
  · simp only [gathered] at silent
    simp only [Source.ofListings, gathered]
    refine .brought ⟨items, 0⟩ (fun counter => ?_) (Listing.gather_ofType (plain run) gathered)
    rw [Note.total_append, silent, fetchedNotes_total, Nat.zero_add]
    cases counter <;> simp [Batch.share]

end Harvester
