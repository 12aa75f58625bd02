import DeployService.Error
import DeployService.Settings.Basic
import DeployService.Text.Split
import DeployService.Url.Parser

/-!
# Finding the deploy service

The deploy service is the one that is asked for, or else the one in the settings, or else the one of
the platform: its host is that of the platform's interface with the first label replaced.
-/

namespace DeployService.ServiceUrl

open DeployService.Text

/-- The first label of the host of every deploy service. -/
def label : String := "deploy-service"

/-- The host of the platform's interface. It may be given as a URL or as a bare host. -/
def platformHost (platform : String) : Except Error String :=
  match Url.parse platform with
  | .ok url =>
    match url.hostText? with
    | some host => .ok host
    | none => .error (.plain ("Cloud Foundry API URL " ++ platform ++ " has no host"))
  | .error _ => .ok (trimEndWhile (· == '/') (trim platform))

/-- The deploy service of a platform, given its interface. -/
def ofPlatform (platform : String) : Except Error String := do
  let host ← platformHost platform
  match cut? '.' host with
  | some (_, domain) =>
    if domain = "" then throw (underivable platform) else return label ++ "." ++ domain
  | none => throw (underivable platform)
where
  /-- The error for a host that has no domain. -/
  underivable (platform : String) : Error :=
    .plain ("Cannot derive the deploy service URL from " ++ platform)

/-- A text that is given and not blank. -/
def given? (text : Option String) : Option String := text.filter fun s => !isBlankText s

/-- The deploy service to use. -/
def choose (option : Option String) (settings : Settings) (platform : Option String) :
    Except Error String :=
  match given? option with
  | some url => .ok (trim url)
  | none =>
    match settings.controllerUrl with
    | some url => .ok url
    | none =>
      match given? platform with
      | some platform => ofPlatform platform
      | none => .error
          (.plain "No deploy service URL given and no Cloud Foundry API to derive it from")

end DeployService.ServiceUrl
