import ToolDiscovery.Catalog.Mode
import ToolDiscovery.Tool.Definition

/-!
# Requests for a search

A model searches for tools by calling the tool `search_tools` with a query. The mode and the limit
may be left to the settings.
-/

namespace ToolDiscovery

/-- The name of the tool that searches for tools. -/
def searchToolName : String := "search_tools"

/-- The arguments of a search. -/
structure SearchRequest where
  /-- What is searched for. -/
  query : String
  /-- How the query is matched. -/
  mode? : Option SearchMode := none
  /-- The greatest number of tools that are found. -/
  limit? : Option Nat := none
deriving DecidableEq, Repr

namespace SearchRequest

open Json (Decoder Record Field)

/-- A request in JSON. -/
def toJson (request : SearchRequest) : Json :=
  .object [
    ("query", .string request.query),
    ("mode", (request.mode?.map SearchMode.toJson).getD .null),
    ("limit", (request.limit?.map fun limit => Json.integer limit).getD .null)]

/-- What has been read of a request. -/
structure Draft where
  query : Option String := none
  mode : Option (Option SearchMode) := none
  limit : Option (Option Nat) := none

/-- A request, which has to have a query. -/
def record : Record Draft SearchRequest where
  name := "SearchToolsArgs"
  fields :=
    [.of "query" .string (·.query) fun draft query => { draft with query := some query },
      .of "mode" (.option SearchMode.decoder) (·.mode)
        (fun draft mode => { draft with mode := some mode }) true,
      .of "limit" (.option .size) (·.limit)
        (fun draft limit => { draft with limit := some limit }) true]
  blank := {}
  finish draft :=
    match draft.query with
    | none => .error "query"
    | some query => .ok { query, mode? := draft.mode.getD none, limit? := draft.limit.getD none }

/-- Reads a request. -/
def decoder : Decoder SearchRequest := record.decoder

/-! ## The definition of the tool -/

/-- The schema of a mode: one of several texts, each with what it means. -/
def modeSchema : Json :=
  let choice (mode : SearchMode) (description : String) : Json :=
    .object [("description", .string description), ("enum", .array [mode.toJson]),
      ("type", .string "string")]
  .object [
    ("description", .string "Strategy used to match a query against the catalog."),
    ("oneOf", .array [
      choice .bm25 "Ranked keyword relevance.",
      choice .regex "Case-insensitive regular expression over names and descriptions.",
      choice .hybrid "BM25 and regex combined."])]

/-- The schema of the limit: a whole number, if it is given. -/
def limitSchema : Json :=
  .object [
    ("default", .null),
    ("description", .string "Maximum number of tools to return (at most 5)."),
    ("format", .string "uint"),
    ("minimum", .real 0.0),
    ("type", .array [.string "integer", .string "null"])]

/-- The schema of a request. -/
def schema : Json :=
  .object [
    ("$schema", .string "http://json-schema.org/draft-07/schema#"),
    ("definitions", .object [("SearchMode", modeSchema)]),
    ("description", .string "Arguments of the `search_tools` meta-tool."),
    ("properties", .object [
      ("limit", limitSchema),
      ("mode", .object [
        ("anyOf", .array [
          .object [("$ref", .string "#/definitions/SearchMode")],
          .object [("type", .string "null")]]),
        ("default", .null),
        ("description", .string ("Search strategy: \"bm25\" (keyword relevance), \"regex\" " ++
          "(pattern over names and descriptions), or \"hybrid\" (both). Defaults to the " ++
          "configured mode."))]),
      ("query", .object [
        ("description", .string ("Keywords describing the capability you need, or a regex " ++
          "pattern when mode is \"regex\".")),
        ("type", .string "string")])]),
    ("required", .array [.string "query"]),
    ("title", .string "SearchToolsArgs"),
    ("type", .string "object")]

end SearchRequest

/-- What a model is told about the tool that searches for tools. -/
def searchToolDefinition : ToolDefinition where
  name := searchToolName
  description :=
    "Search the full tool catalog and unlock matching tools for the rest of the session. " ++
      "Use this when none of the currently available tools fits the task. " ++
      "Returns each match with a relevance score and a short description."
  parameters := SearchRequest.schema

end ToolDiscovery
