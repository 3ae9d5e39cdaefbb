import ToolDiscovery.Catalog.Mode
import ToolDiscovery.Tool.Cost

/-!
# Settings

The settings say when tools are hidden behind a search, which of them never are, and how searches go
that do not say so themselves. Each setting may be left out.
-/

namespace ToolDiscovery

/-- The greatest number of tools that a search finds. -/
def maxHits : Nat := 5

/-- The settings of a policy. -/
structure Settings where
  /-- The cost above which tools are hidden. -/
  threshold : Threshold := .default
  /-- The names of the tools that are never hidden. -/
  alwaysInclude : List String := []
  /-- The mode of searches that do not name one. -/
  defaultMode : SearchMode := .hybrid
  /-- The greatest number of tools for searches that do not give one. -/
  defaultLimit : Nat := maxHits
  /-- Whether tools are hidden, if that does not depend on their cost. -/
  forceDeferred : Option Bool := none

namespace Settings

open Json (Decoder Record Field)

/-- Keeps a tool from being hidden. -/
def keep (settings : Settings) (name : String) : Settings :=
  if settings.alwaysInclude.contains name then settings
  else { settings with alwaysInclude := settings.alwaysInclude ++ [name] }

/-- Keeps several tools from being hidden. -/
def keepAll (settings : Settings) (names : List String) : Settings :=
  names.foldl keep settings

/-- Refuses settings that make no sense. -/
def check (settings : Settings) : Except SettingsFault Unit := do
  settings.threshold.check
  if settings.defaultLimit = 0 then .error .zeroLimit

/-- Settings in JSON. -/
def toJson (settings : Settings) : Json :=
  .object [
    ("threshold", settings.threshold.toJson),
    ("always_include", .array (settings.alwaysInclude.map .string)),
    ("default_mode", settings.defaultMode.toJson),
    ("default_limit", .integer settings.defaultLimit),
    ("force_deferred", (settings.forceDeferred.map Json.boolean).getD .null)]

/-- What has been read of settings. -/
structure Draft where
  threshold : Option Threshold := none
  alwaysInclude : Option (List String) := none
  defaultMode : Option SearchMode := none
  defaultLimit : Option Nat := none
  forceDeferred : Option (Option Bool) := none

/-- Settings, each of which may be left out. -/
def record : Record Draft Settings where
  name := "ToolSearchConfig"
  fields :=
    [.of "threshold" Threshold.decoder (·.threshold)
        (fun draft threshold => { draft with threshold := some threshold }) true,
      .of "always_include" (.list .string) (·.alwaysInclude)
        (fun draft names => { draft with alwaysInclude := some names }) true,
      .of "default_mode" SearchMode.decoder (·.defaultMode)
        (fun draft mode => { draft with defaultMode := some mode }) true,
      .of "default_limit" .size (·.defaultLimit)
        (fun draft limit => { draft with defaultLimit := some limit }) true,
      .of "force_deferred" (.option .boolean) (·.forceDeferred)
        (fun draft forced => { draft with forceDeferred := some forced }) true]
  blank := {}
  finish draft :=
    let plain : Settings := {}
    .ok {
      threshold := draft.threshold.getD plain.threshold
      alwaysInclude := draft.alwaysInclude.getD plain.alwaysInclude
      defaultMode := draft.defaultMode.getD plain.defaultMode
      defaultLimit := draft.defaultLimit.getD plain.defaultLimit
      forceDeferred := draft.forceDeferred.getD plain.forceDeferred }

/-- Reads settings. -/
def decoder : Decoder Settings := record.decoder

/-- Reads settings from a text and checks them. -/
def parse (text : String) : Except DiscoveryError Settings := do
  let settings ← (decoder.decodeText text).mapError .json
  settings.check.mapError .invalidSettings
  return settings

end Settings

end ToolDiscovery
