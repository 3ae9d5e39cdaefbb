import ToolDiscovery.Json.Fault

/-!
# What can go wrong

Errors tell the host that it has misused the library or that an input is unusable. What goes wrong
in the course of a search is no error: the model that searches reads about it in the answer.
-/

namespace ToolDiscovery

/-- Why settings are refused. -/
inductive SettingsFault where
  /-- A fraction of the context window lies outside of `(0, 1]`. -/
  | fractionOutOfRange (fraction : Float)
  /-- Searches would give no result. -/
  | zeroLimit

/-- The wording of a fault in settings. -/
def SettingsFault.message : SettingsFault → String
  | fractionOutOfRange fraction =>
    "threshold fraction must be in (0, 1], got " ++ Decimal.plain.render fraction
  | zeroLimit => "default_limit must be at least 1"

/-- Why a JSON value is no catalog. -/
inductive CatalogFault where
  /-- The value is neither a list nor an object. -/
  | notAList
  /-- The value is an object without a list of tools. -/
  | noToolList
  /-- An item is no tool definition. -/
  | badTool (index : Nat) (fault : Json.Fault)
  /-- A tool has a blank name. -/
  | emptyName (index : Nat)
  /-- Two tools have the same name. -/
  | duplicateName (name : String)

/-- The wording of a fault in a catalog. -/
def CatalogFault.message : CatalogFault → String
  | notAList => "expected a JSON array of tools"
  | noToolList => "expected a JSON array of tools or an object with a \"tools\" array"
  | badTool index fault => "tool #" ++ toString index ++ ": " ++ fault.message
  | emptyName index => "tool #" ++ toString index ++ " has an empty name"
  | duplicateName name => "duplicate tool name '" ++ name ++ "'"

/-- Why the text of a file cannot be had. -/
inductive FileFault where
  | missing
  | notText
deriving DecidableEq, Repr

/-- The wording of a fault with a file. -/
def FileFault.message : FileFault → String
  | missing => "No such file or directory (os error 2)"
  | notText => "stream did not contain valid UTF-8"

/-- The errors of the library. -/
inductive DiscoveryError where
  /-- There are more tools than an index accepts. -/
  | catalogTooLarge (count : Nat) (most : Nat)
  /-- A pattern is longer than is accepted. -/
  | patternTooLong (length : Nat) (most : Nat)
  | invalidSettings (fault : SettingsFault)
  | unusableCatalog (fault : CatalogFault)
  | json (fault : Json.Fault)
  | file (fault : FileFault)

/-- The wording of an error. -/
def DiscoveryError.message : DiscoveryError → String
  | catalogTooLarge count most =>
    "tool catalog has " ++ toString count ++ " tools, more than the maximum of " ++ toString most
  | patternTooLong length most =>
    "search pattern is " ++ toString length ++ " characters long, more than the maximum of " ++
      toString most
  | invalidSettings fault => "invalid configuration: " ++ fault.message
  | unusableCatalog fault => "failed to load tool catalog: " ++ fault.message
  | json fault => "serialization error: " ++ fault.message
  | file fault => "io error: " ++ fault.message

/-- Whether an error is for the host to mend in its own settings, rather than in its files. -/
def DiscoveryError.isConfiguration : DiscoveryError → Bool
  | catalogTooLarge .. | patternTooLong .. | invalidSettings _ => true
  | unusableCatalog _ | json _ | file _ => false

end ToolDiscovery
