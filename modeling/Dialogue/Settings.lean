import Dialogue.Check.Field
import Dialogue.Text.LowerCase

/-!
# Settings

How a run is to be carried out, and how the environment of the program sets it.
-/
namespace Dialogue
open Check

/-- Whether effects are simulated or carried out. -/
inductive Mode where
  | mock | real
  deriving DecidableEq, Inhabited

def Mode.name : Mode → String
  | mock => "mock"
  | real => "real"

def Mode.all : List Mode := [mock, real]

/-- What a failed effect does to the run. -/
inductive FailurePolicy where
  | proceed | halt
  deriving DecidableEq, Inhabited

def FailurePolicy.name : FailurePolicy → String
  | proceed => "continue"
  | halt => "halt"

def FailurePolicy.all : List FailurePolicy := [proceed, halt]

/-- What an answer that matches no branch does: take the first way out, or ask again. -/
inductive UnmatchedPolicy where
  | firstEdge | wait
  deriving DecidableEq, Inhabited

def UnmatchedPolicy.name : UnmatchedPolicy → String
  | firstEdge => "first_edge"
  | wait => "wait"

def UnmatchedPolicy.all : List UnmatchedPolicy := [firstEdge, wait]

structure Settings where
  useReal : Bool
  contactName : String
  contactPhone : String
  failurePolicy : FailurePolicy
  unmatchedPolicy : UnmatchedPolicy
  /-- Seconds between two steps. They only pace a run. -/
  stepDelay : Number.Binary64
  deriving DecidableEq

namespace Settings

def defaultName : String := "Cliente Teste"

def defaultPhone : String := "+5548999999999"

instance : Inhabited Settings :=
  ⟨⟨false, defaultName, defaultPhone, .proceed, .firstEdge, .zero⟩⟩

def mode (s : Settings) : Mode := if s.useReal then .real else .mock

def check : Json → Checked Settings :=
  model "RunConfig" fun fs =>
    Settings.mk <$> field ["use_real_integrations", "useRealIntegrations", "testRealIntegrations"]
        truth false fs
      |>.both (field ["contact_name", "contactName"] text defaultName fs)
      |>.both (field ["contact_phone", "contactPhone"] text defaultPhone fs)
      |>.both (field ["effect_failure_policy"] (oneOf FailurePolicy.name FailurePolicy.all)
        .proceed fs)
      |>.both (field ["unmatched_branch_policy"] (oneOf UnmatchedPolicy.name UnmatchedPolicy.all)
        .firstEdge fs)
      |>.both (field ["step_delay_seconds"] nonnegative .zero fs)

end Settings

/-- The variables of the program's surroundings. -/
abbrev Environment := List (String × String)

/-- Why settings were refused. -/
inductive SettingsError where
  | notNumber (given : String)
  | rejected (issues : List Issue)
  deriving DecidableEq

def SettingsError.message : SettingsError → String
  | notNumber given => "could not convert string to float: " ++ Text.quote given
  | rejected issues => summary "RunConfig" issues

namespace Environment

/-- The variables that are read. -/
def names : List String :=
  ["FLOW_STEP_DELAY_SECONDS", "FLOW_USE_REAL_INTEGRATIONS", "FLOW_CONTACT_NAME",
    "FLOW_CONTACT_PHONE", "FLOW_EFFECT_FAILURE_POLICY", "FLOW_UNMATCHED_BRANCH_POLICY",
    "EFFECT_HTTP_TIMEOUT_SECONDS", "VISTA_UPDATE_URL", "VISTA_UPDATE_TOKEN", "FLOW_RUN_DB_PATH"]

/-- A variable, or what stands for it, without the blanks around it. -/
def trimmed (env : Environment) (name default : String) : String :=
  Text.trim ((Bindings.get? name env).getD default)

def flag (env : Environment) (name default : String) : Bool :=
  ["1", "true", "yes", "on"].contains (Text.lower (env.trimmed name default))

def number (env : Environment) (name default : String) :
    Except SettingsError Number.Binary64 :=
  let given := (Bindings.get? name env).getD default
  match Number.setting? given with
  | some x => .ok x
  | none => .error (.notNumber given)

/-- A name with a fallback for a blank one. -/
def filled (env : Environment) (name default : String) : String :=
  let s := env.trimmed name default
  if s = "" then default else s

/-- The settings that the environment asks for. An override that is not null goes first. -/
def settings (env : Environment) (overrides : List (String × Json)) :
    Except SettingsError Settings := do
  let delay ← env.number "FLOW_STEP_DELAY_SECONDS" "0"
  let values : List (String × Json) :=
    [("use_real_integrations", .bool (env.flag "FLOW_USE_REAL_INTEGRATIONS" "false")),
     ("contact_name", .str (env.filled "FLOW_CONTACT_NAME" Settings.defaultName)),
     ("contact_phone", .str (env.filled "FLOW_CONTACT_PHONE" Settings.defaultPhone)),
     ("effect_failure_policy",
       .str (Text.lower (env.trimmed "FLOW_EFFECT_FAILURE_POLICY" "continue"))),
     ("unmatched_branch_policy",
       .str (Text.lower (env.trimmed "FLOW_UNMATCHED_BRANCH_POLICY" "first_edge"))),
     ("step_delay_seconds", .float delay)]
  let given := overrides.filter fun o => o.2 ≠ .null
  match Settings.check (.object (Bindings.merge values given)) with
  | .ok s => .ok s
  | .error issues => .error (.rejected issues)

/-- Where effects that are carried out reach the outside. -/
structure EffectSettings where
  vistaUrl : String
  vistaToken : String
  timeout : Number.Binary64
  deriving DecidableEq

def effectSettings (env : Environment) : Except SettingsError EffectSettings := do
  let timeout ← env.number "EFFECT_HTTP_TIMEOUT_SECONDS" "30"
  pure ⟨env.trimmed "VISTA_UPDATE_URL" "", env.trimmed "VISTA_UPDATE_TOKEN" "", timeout⟩

/-- The place of the store of runs; empty for none. -/
def storePath (env : Environment) : String := env.trimmed "FLOW_RUN_DB_PATH" ""

end Environment
end Dialogue
