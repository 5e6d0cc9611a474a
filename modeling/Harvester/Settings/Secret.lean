import Harvester.Settings.Document
namespace Harvester

-- The variables of the environment that hold text. One that is set to bytes that are no text counts as missing.
abbrev Environment := Keyed String

def secretPrefix : List Char := "env:".toList

-- The variable that a secret names instead of being one.
def variableOf? (raw : String) : Option String :=
  (Text.dropPattern? secretPrefix (Text.trim raw.toList)).map String.ofList

structure MissingVariable where
  name : String
deriving Repr, DecidableEq, Inhabited

def MissingVariable.message (m : MissingVariable) : String := "Missing " ++ m.name ++ " env var"

-- The value of the named variable as it is; a text that names none is the secret itself.
def resolveSecret (env : Environment) (raw : String) : Except MissingVariable String :=
  match variableOf? raw with
  | none => .ok raw
  | some name =>
    match env.get? name with
    | some value => .ok value
    | none => .error ⟨name⟩

def resolveOptional (env : Environment) : Option String → Except MissingVariable (Option String)
  | none => .ok none
  | some raw => (resolveSecret env raw).map some

-- The first missing variable, in the order of the members, is the fault.
def SourceSpec.resolve (env : Environment) : SourceSpec → Except MissingVariable SourceSpec
  | .githubReleases repos token base =>
    (resolveOptional env token).map fun token => .githubReleases repos token base
  | .githubEvents repos token base =>
    (resolveOptional env token).map fun token => .githubEvents repos token base
  | .newsApi apiKey query pageSize base =>
    (resolveSecret env apiKey).map fun apiKey => .newsApi apiKey query pageSize base
  | .kaggle username key search base =>
    (resolveSecret env username).bind fun username =>
      (resolveSecret env key).map fun key => .kaggle username key search base
  | .productHunt token first base => (resolveSecret env token).map fun token => .productHunt token first base
  | spec => .ok spec

structure SecretFault where
  job : String
  missing : MissingVariable
deriving Repr, DecidableEq, Inhabited

-- Jobs that are switched off may name variables that are not there.
def JobSettings.resolve (env : Environment) (job : JobSettings) : Except SecretFault JobSettings :=
  if job.enabled then
    match job.source.resolve env with
    | .ok source => .ok { job with source }
    | .error missing => .error ⟨job.name, missing⟩
  else .ok job

def resolveJobs (env : Environment) : List JobSettings → Except SecretFault (List JobSettings)
  | [] => .ok []
  | job :: rest => (job.resolve env).bind fun job => (resolveJobs env rest).map (job :: ·)

def Settings.resolve (env : Environment) (settings : Settings) : Except SecretFault Settings :=
  (resolveJobs env settings.jobs).map fun jobs => { settings with jobs }

end Harvester
