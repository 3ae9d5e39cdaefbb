import ToolDiscovery.Error
import ToolDiscovery.Tool.Definition

/-!
# What tool definitions cost

Definitions take up room in the context window of a model. The cost of a definition is estimated in
tokens from the number of its characters; a `Threshold` says from which cost on a catalog is too
expensive to be shown in full, and a `Budget` compares the two.
-/

namespace ToolDiscovery

/-- The number of characters that are counted as one token. -/
def charsPerToken : Nat := 4

/-- The estimated cost of a definition in tokens, which is at least one. -/
def ToolDefinition.cost (tool : ToolDefinition) : Nat :=
  max 1 ((tool.name.length + tool.description.length + (Json.compactChars tool.parameters).length) /
    charsPerToken)

/-- The estimated cost of several definitions. -/
def totalCost (tools : List ToolDefinition) : Nat :=
  tools.foldr (fun tool total => tool.cost + total) 0

/-- The context window of a model that does not tell its own. -/
def defaultContextWindow : Nat := 128000

/-- The cost above which definitions are hidden behind a search. -/
inductive Threshold where
  /-- A number of tokens. -/
  | tokens (count : Nat)
  /-- A part of the context window. -/
  | fraction (part : Float)

namespace Threshold

open Json (Decoder Variants)

/-- A tenth of the context window. -/
def default : Threshold := .fraction 0.1

/-- The cost that a threshold stands for, given the context window of the model if it is known. -/
def resolve (contextWindow? : Option Nat) : Threshold → Nat
  | tokens count => count
  | fraction part =>
    (Float.ofNat (contextWindow?.getD defaultContextWindow) * part).toUInt64.toNat

/-- A fraction has to lie above zero and must not exceed one. -/
def check : Threshold → Except SettingsFault Unit
  | tokens _ => .ok ()
  | fraction part =>
    if 0.0 < part ∧ part ≤ 1.0 then .ok () else .error (.fractionOutOfRange part)

/-- A threshold in JSON. -/
def toJson : Threshold → Json
  | tokens count => .object [("tokens", .integer count)]
  | fraction part => .object [("fraction", .real part)]

/-- The two forms of a threshold by name. -/
def variants : Variants Threshold :=
  [("tokens", .value (Decoder.size.map .tokens)), ("fraction", .value (Decoder.real.map .fraction))]

/-- Reads a threshold. -/
def decoder : Decoder Threshold := variants.decoder

end Threshold

/-- The cost of a catalog beside what it may cost. -/
structure Budget where
  /-- How many definitions were counted. -/
  toolCount : Nat
  /-- What they cost together. -/
  totalTokens : Nat
  /-- What they may cost. -/
  thresholdTokens : Nat
deriving DecidableEq, Repr

namespace Budget

/-- Compares a catalog with a threshold. -/
def measure (tools : List ToolDefinition) (threshold : Threshold) (contextWindow? : Option Nat) :
    Budget where
  toolCount := tools.length
  totalTokens := totalCost tools
  thresholdTokens := threshold.resolve contextWindow?

/-- Whether a catalog costs more than it may. -/
def isExceeded (budget : Budget) : Bool := budget.thresholdTokens < budget.totalTokens

/-- A budget in one line. -/
def summary (budget : Budget) : String :=
  "tool definitions: " ++ toString budget.toolCount ++ " tools, ~" ++ toString budget.totalTokens ++
    " tokens (threshold " ++ toString budget.thresholdTokens ++ ")"

/-- A budget in JSON. -/
def toJson (budget : Budget) : Json :=
  .object [("over_threshold", .boolean budget.isExceeded),
    ("threshold_tokens", .integer budget.thresholdTokens),
    ("tool_count", .integer budget.toolCount), ("total_tokens", .integer budget.totalTokens)]

end Budget

end ToolDiscovery
