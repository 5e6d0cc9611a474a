import Harvester.Proofs.Text.Patterns
import Harvester.Settings.Load
namespace Harvester

variable {env other : Environment} {raw : String}

-- A secret that only names the variable it stands in; blanks at its ends do not count.
def Names (raw name : String) : Prop := Text.trimmed raw = "env:" ++ name

theorem variableOf?_eq_some_iff {name : String} : variableOf? raw = some name ↔ Names raw name := by
  unfold variableOf? Names Text.trimmed secretPrefix
  rw [Option.map_eq_some_iff]
  constructor
  · rintro ⟨cs, behind, rfl⟩
    rw [Text.dropPattern?_eq_some_iff.mp behind, String.ofList_append, String.ofList_toList]
  · intro written
    refine ⟨name.toList, Text.dropPattern?_eq_some_iff.mpr ?_, String.ofList_toList⟩
    rw [← String.toList_append, ← written, String.toList_ofList]

-- The secrets of a source, in the order of its members.
def SourceSpec.secrets : SourceSpec → List String
  | .githubReleases _ token _ | .githubEvents _ token _ => token.toList
  | .newsApi apiKey _ _ _ => [apiKey]
  | .kaggle username key _ _ => [username, key]
  | .productHunt token _ _ => [token]
  | .reddit .. | .devTo .. | .codeforces .. | .rss .. | .atcoder .. => []

-- The same source with every secret rewritten, and nothing else.
def SourceSpec.mapSecrets (f : String → String) : SourceSpec → SourceSpec
  | .githubReleases repos token base => .githubReleases repos (token.map f) base
  | .githubEvents repos token base => .githubEvents repos (token.map f) base
  | .newsApi apiKey query pageSize base => .newsApi (f apiKey) query pageSize base
  | .kaggle username key search base => .kaggle (f username) (f key) search base
  | .productHunt token first base => .productHunt (f token) first base
  | spec => spec

def JobSettings.mapSecrets (f : String → String) (job : JobSettings) : JobSettings :=
  if job.enabled then { job with source := job.source.mapSecrets f } else job

def Settings.mapSecrets (f : String → String) (settings : Settings) : Settings :=
  { settings with jobs := settings.jobs.map (JobSettings.mapSecrets f) }

-- The variable that a secret names in vain.
def missing? (env : Environment) (raw : String) : Option MissingVariable :=
  (variableOf? raw).bind fun name => if (env.get? name).isNone then some ⟨name⟩ else none

-- What stands in the place of a secret afterwards.
def secretValue (env : Environment) (raw : String) : String := ((variableOf? raw).bind env.get?).getD raw

-- The first variable that is missing decides, otherwise every secret has its value.
def answer (fault : Option ε) (value : α) : Except ε α :=
  match fault with
  | some fault => .error fault
  | none => .ok value

theorem resolveSecret_eq (env : Environment) (raw : String) :
    resolveSecret env raw = answer (missing? env raw) (secretValue env raw) := by
  unfold resolveSecret missing? secretValue
  cases variableOf? raw with
  | none => rfl
  | some name =>
    simp only [Option.bind_some]
    cases env.get? name <;> rfl

theorem SourceSpec.resolve_eq (env : Environment) (spec : SourceSpec) :
    spec.resolve env = answer (spec.secrets.findSome? (missing? env)) (spec.mapSecrets (secretValue env)) := by
  cases spec with
  | githubReleases repos token base | githubEvents repos token base =>
    cases token with
    | none => rfl
    | some token =>
      simp only [resolve, resolveOptional, secrets, mapSecrets, resolveSecret_eq, Option.toList, List.findSome?]
      cases missing? env token <;> rfl
  | newsApi secret | productHunt secret =>
    simp only [resolve, secrets, mapSecrets, resolveSecret_eq, List.findSome?]
    cases missing? env secret <;> rfl
  | kaggle username key =>
    simp only [resolve, secrets, mapSecrets, resolveSecret_eq, List.findSome?]
    cases missing? env username with
    | some fault => rfl
    | none => cases missing? env key <;> rfl
  | reddit | devTo | codeforces | rss | atcoder => rfl

-- What is wrong with a job that is switched on.
def JobSettings.fault? (env : Environment) (job : JobSettings) : Option SecretFault :=
  if job.enabled then (job.source.secrets.findSome? (missing? env)).map fun missing => ⟨job.name, missing⟩ else none

theorem JobSettings.resolve_eq (env : Environment) (job : JobSettings) :
    job.resolve env = answer (job.fault? env) (job.mapSecrets (secretValue env)) := by
  unfold resolve fault? mapSecrets
  cases job.enabled with
  | false => rfl
  | true =>
    simp only [if_true, SourceSpec.resolve_eq]
    cases job.source.secrets.findSome? (missing? env) <;> rfl

theorem resolveJobs_eq (env : Environment) (jobs : List JobSettings) :
    resolveJobs env jobs =
      answer (jobs.findSome? (JobSettings.fault? env)) (jobs.map (JobSettings.mapSecrets (secretValue env))) := by
  induction jobs with
  | nil => rfl
  | cons job rest ih =>
    simp only [resolveJobs, JobSettings.resolve_eq, ih, List.findSome?]
    cases job.fault? env with
    | some fault => rfl
    | none => cases rest.findSome? (JobSettings.fault? env) <;> rfl

theorem Settings.resolve_eq (env : Environment) (settings : Settings) :
    settings.resolve env =
      answer (settings.jobs.findSome? (JobSettings.fault? env)) (settings.mapSecrets (secretValue env)) := by
  simp only [resolve, resolveJobs_eq]
  cases settings.jobs.findSome? (JobSettings.fault? env) <;> rfl

theorem answer_ok_iff {fault : Option ε} {value result : α} :
    answer fault value = .ok result ↔ fault = none ∧ value = result := by
  cases fault <;> simp [answer]

theorem answer_error_iff {fault : Option ε} {value : α} {found : ε} :
    answer fault value = .error found ↔ fault = some found := by
  cases fault <;> simp [answer]

def Available (env : Environment) (raw : String) : Prop := ∀ name, Names raw name → ∃ value, env.get? name = some value

-- A secret and what it means: the variable's value as it stands, or else the secret itself.
inductive Means (env : Environment) (raw : String) : String → Prop
  | variable (names : Names raw name) (set : env.get? name = some value) : Means env raw value
  | literal (plain : ∀ name, ¬ Names raw name) : Means env raw raw

theorem missing?_eq_some_iff {missing : MissingVariable} :
    missing? env raw = some missing ↔ Names raw missing.name ∧ env.get? missing.name = none := by
  unfold missing?
  rw [Option.bind_eq_some_iff]
  constructor
  · rintro ⟨name, named, absent⟩
    split at absent
    · rename_i unset
      cases absent
      exact ⟨variableOf?_eq_some_iff.mp named, Option.isNone_iff_eq_none.mp unset⟩
    · cases absent
  · rintro ⟨named, unset⟩
    exact ⟨missing.name, variableOf?_eq_some_iff.mpr named, by rw [unset]; rfl⟩

theorem missing?_eq_none_iff : missing? env raw = none ↔ Available env raw := by
  constructor
  · intro found name named
    cases set : env.get? name with
    | some value => exact ⟨value, rfl⟩
    | none =>
      rw [missing?_eq_some_iff.mpr (⟨named, set⟩ : Names raw (MissingVariable.mk name).name ∧ _)] at found
      cases found
  · intro available
    cases found : missing? env raw with
    | none => rfl
    | some missing =>
      obtain ⟨named, unset⟩ := missing?_eq_some_iff.mp found
      obtain ⟨value, set⟩ := available _ named
      rw [unset] at set
      cases set

theorem Available.means (available : Available env raw) : Means env raw (secretValue env raw) := by
  unfold secretValue
  cases named : variableOf? raw with
  | none =>
    refine .literal fun name names => ?_
    rw [variableOf?_eq_some_iff.mpr names] at named
    cases named
  | some name =>
    have names := variableOf?_eq_some_iff.mp named
    obtain ⟨value, set⟩ := available name names
    rw [Option.bind_some, set]
    exact .variable names set

def JobSettings.Supplied (env : Environment) (job : JobSettings) : Prop :=
  job.enabled = true → ∀ raw ∈ job.source.secrets, Available env raw

-- A job that is switched on, and the first of its secrets that names a variable in vain.
structure JobSettings.Lacks (env : Environment) (job : JobSettings) (fault : SecretFault) : Prop where
  enabled : job.enabled = true
  named : fault.job = job.name
  unset : env.get? fault.missing.name = none
  first : ∃ before raw behind, job.source.secrets = before ++ raw :: behind ∧
    (∀ earlier ∈ before, Available env earlier) ∧ Names raw fault.missing.name

theorem JobSettings.fault?_eq_none_iff {job : JobSettings} : job.fault? env = none ↔ job.Supplied env := by
  unfold fault? Supplied
  cases job.enabled with
  | false => simp
  | true => simp [List.findSome?_eq_none_iff, missing?_eq_none_iff]

theorem JobSettings.fault?_eq_some_iff {job : JobSettings} {fault : SecretFault} :
    job.fault? env = some fault ↔ job.Lacks env fault := by
  unfold fault?
  constructor
  · intro found
    split at found
    · rename_i enabled
      obtain ⟨missing, first, rfl⟩ := Option.map_eq_some_iff.mp found
      obtain ⟨before, raw, behind, secrets, named, fine⟩ := List.findSome?_eq_some_iff.mp first
      obtain ⟨names, unset⟩ := missing?_eq_some_iff.mp named
      exact ⟨enabled, rfl, unset, before, raw, behind, secrets,
        fun earlier present => missing?_eq_none_iff.mp (fine earlier present), names⟩
    · cases found
  · rintro ⟨enabled, named, unset, before, raw, behind, secrets, fine, names⟩
    rw [if_pos enabled, Option.map_eq_some_iff]
    refine ⟨fault.missing, List.findSome?_eq_some_iff.mpr ?_, by rw [← named]⟩
    exact ⟨before, raw, behind, secrets, missing?_eq_some_iff.mpr ⟨names, unset⟩,
      fun earlier present => missing?_eq_none_iff.mpr (fine earlier present)⟩

namespace Settings

variable {settings : Settings}

-- The variables that the secrets of the jobs name, as far as these are switched on.
def Refers (settings : Settings) (name : String) : Prop :=
  ∃ job ∈ settings.jobs, job.enabled = true ∧ ∃ raw ∈ job.source.secrets, Names raw name

def Agree (settings : Settings) (env other : Environment) : Prop :=
  ∀ name, settings.Refers name → env.get? name = other.get? name

end Settings

theorem findSome?_congr {f g : α → Option β} {xs : List α} (same : ∀ x ∈ xs, f x = g x) :
    xs.findSome? f = xs.findSome? g := by
  induction xs with
  | nil => rfl
  | cons x xs ih =>
    obtain ⟨first, later⟩ := List.forall_mem_cons.mp same
    rw [List.findSome?_cons, List.findSome?_cons, first, ih later]

-- Only the variable that a secret names matters for it.
theorem secret_congr (same : ∀ name, Names raw name → env.get? name = other.get? name) :
    missing? env raw = missing? other raw ∧ secretValue env raw = secretValue other raw := by
  unfold missing? secretValue
  cases named : variableOf? raw with
  | none => exact ⟨rfl, rfl⟩
  | some name =>
    rw [Option.bind_some, Option.bind_some, Option.bind_some, Option.bind_some,
      same name (variableOf?_eq_some_iff.mp named)]
    exact ⟨rfl, rfl⟩

theorem SourceSpec.mapSecrets_congr {spec : SourceSpec} {f g : String → String}
    (same : ∀ raw ∈ spec.secrets, f raw = g raw) : spec.mapSecrets f = spec.mapSecrets g := by
  cases spec with
  | githubReleases repos token base | githubEvents repos token base =>
    cases token with
    | none => rfl
    | some token => simp [mapSecrets, same token List.mem_cons_self]
  | newsApi secret | productHunt secret => simp [mapSecrets, same secret List.mem_cons_self]
  | kaggle username key =>
    simp [mapSecrets, same username List.mem_cons_self, same key (List.mem_cons_of_mem _ List.mem_cons_self)]
  | reddit | devTo | codeforces | rss | atcoder => rfl

namespace Settings

variable {settings : Settings}

theorem Agree.resolve (agree : settings.Agree env other) : settings.resolve env = settings.resolve other := by
  have secret {job : JobSettings} (present : job ∈ settings.jobs) (enabled : job.enabled = true) {raw : String}
      (inside : raw ∈ job.source.secrets) :
      missing? env raw = missing? other raw ∧ secretValue env raw = secretValue other raw :=
    secret_congr fun name names => agree name ⟨job, present, enabled, raw, inside, names⟩
  have fault : ∀ job ∈ settings.jobs, job.fault? env = job.fault? other := by
    intro job present
    unfold JobSettings.fault?
    split
    · rename_i enabled
      rw [findSome?_congr fun raw inside => (secret present enabled inside).1]
    · rfl
  have rewritten : settings.mapSecrets (secretValue env) = settings.mapSecrets (secretValue other) := by
    unfold mapSecrets
    congr 1
    refine List.map_congr_left fun job present => ?_
    unfold JobSettings.mapSecrets
    split
    · rename_i enabled
      rw [SourceSpec.mapSecrets_congr fun raw inside => (secret present enabled inside).2]
    · rfl
  rw [resolve_eq, resolve_eq, rewritten, findSome?_congr fault]

-- What is read from a file depends on the variables that its settings refer to, and on no other.
theorem load_agree (disk : Disk) (path : String) (agree : ∀ text settings, disk.look path = .file text →
    parse? (formatOf path text) text = some settings → settings.Agree env other) :
    load disk env path = load disk other path := by
  unfold load
  split
  · rename_i text found
    unfold ofText
    split
    · rfl
    · rename_i settings parsed
      rw [(agree text settings found parsed).resolve]
  · rfl

-- Secrets are settled in all jobs that are switched on, or the first job and its first secret that cannot be settled
-- are the answer. Only these secrets change, and only the variables that they name matter.
theorem resolve_exact (env : Environment) :
    (∀ settings : Settings,
      ((∃ resolved, settings.resolve env = .ok resolved) ↔
        ∀ job ∈ settings.jobs, job.enabled = true → ∀ raw ∈ job.source.secrets, Available env raw) ∧
      (∀ fault, settings.resolve env = .error fault ↔ ∃ before job behind, settings.jobs = before ++ job :: behind ∧
        (∀ earlier ∈ before, earlier.Supplied env) ∧ job.Lacks env fault) ∧
      ∀ resolved, settings.resolve env = .ok resolved → resolved = settings.mapSecrets (secretValue env) ∧
        ∀ job ∈ settings.jobs, job.enabled = true →
          ∀ raw ∈ job.source.secrets, Means env raw (secretValue env raw)) ∧
    ∀ other : Environment,
      (∀ settings : Settings, settings.Agree env other → settings.resolve env = settings.resolve other) ∧
      ∀ disk path, (∀ text settings, disk.look path = .file text → parse? (formatOf path text) text = some settings →
        settings.Agree env other) → load disk env path = load disk other path := by
  refine ⟨fun settings => ?_, fun other => ⟨fun _ agree => agree.resolve, load_agree⟩⟩
  have supplied : settings.jobs.findSome? (JobSettings.fault? env) = none ↔
      ∀ job ∈ settings.jobs, job.enabled = true → ∀ raw ∈ job.source.secrets, Available env raw := by
    rw [List.findSome?_eq_none_iff]
    exact forall₂_congr fun job _ => JobSettings.fault?_eq_none_iff
  simp only [resolve_eq, answer_ok_iff, answer_error_iff]
  refine ⟨?_, fun fault => ?_, ?_⟩
  · rw [← supplied]
    exact ⟨fun ⟨_, fine, _⟩ => fine, fun fine => ⟨_, fine, rfl⟩⟩
  · simp only [List.findSome?_eq_some_iff, JobSettings.fault?_eq_some_iff, JobSettings.fault?_eq_none_iff]
    exact exists₃_congr fun before job behind => and_congr_right fun _ => and_comm
  · rintro resolved ⟨fine, rfl⟩
    exact ⟨rfl, fun job present enabled raw inside => (supplied.mp fine job present enabled raw inside).means⟩

-- A value that looks like a name itself, a job that is switched off, a base address that looks like a secret, and a
-- variable more in the environment; then a second job whose second secret is missing.
theorem resolve_exact_verbatim :
    let env : Environment := Keyed.ofList [("TOKEN", "env:KEY")]
    let richer : Environment := Keyed.ofList [("HOME", "/root"), ("TOKEN", "env:KEY")]
    let idle : JobSettings := ⟨"idle", false, Keyed.empty, .productHunt "env:NONE" 20 none⟩
    let launches (token : String) : JobSettings :=
      ⟨"launches", true, Keyed.empty, .productHunt token 20 (some "env:BASE")⟩
    let contests : JobSettings := ⟨"contests", true, Keyed.empty, .kaggle " user " "env:KEY" none none⟩
    let good : Settings := { standard with jobs := [idle, launches " env:TOKEN\n"] }
    let bad : Settings := { standard with jobs := [idle, launches " env:TOKEN\n", contests] }
    ({ standard with jobs := [idle, launches "env:KEY"] } : Settings) = good.mapSecrets (secretValue env) ∧
      Means env " env:TOKEN\n" (secretValue env " env:TOKEN\n") ∧
      (∃ before job behind, bad.jobs = before ++ job :: behind ∧ (∀ earlier ∈ before, earlier.Supplied env) ∧
        job.Lacks env ⟨"contests", ⟨"KEY"⟩⟩) ∧
      good.resolve env = good.resolve richer := by
  intro env richer idle launches contests good bad
  have resolved : good.resolve env = .ok { standard with jobs := [idle, launches "env:KEY"] } := rfl
  have refused : bad.resolve env = .error ⟨"contests", ⟨"KEY"⟩⟩ := rfl
  obtain ⟨exact, alike⟩ := resolve_exact env
  obtain ⟨rewritten, means⟩ := (exact good).2.2 _ resolved
  refine ⟨rewritten, ?_, ((exact bad).2.1 _).mp refused, (alike richer).1 good ?_⟩
  · exact means _ (List.mem_cons_of_mem _ List.mem_cons_self) rfl _ List.mem_cons_self
  · rintro name ⟨job, present, enabled, raw, inside, names⟩
    rcases List.mem_cons.mp present with rfl | present
    · cases enabled
    · cases List.mem_singleton.mp present
      cases List.mem_singleton.mp inside
      have token : variableOf? " env:TOKEN\n" = some "TOKEN" := by decide +kernel
      rw [variableOf?_eq_some_iff.mpr names] at token
      cases token
      decide +kernel

end Settings

end Harvester
