import ToolDiscovery.Proofs.CatalogFaults
import ToolDiscovery.Proofs.Deferral
import ToolDiscovery.Proofs.DocumentTokens
import ToolDiscovery.Proofs.TextForms

/-!
# Catalogs that are written differently

It cannot be told from a catalog in which order the members of its objects were written, nor with
which white space: `parse_respelled`.
-/

namespace ToolDiscovery.Catalog

open Json (Lexeme Form Respelled)

/-- Every text that is JSON spells a form, so it is a respelling of itself. Another text that is
JSON and differs from it only in white space between tokens and in the order of members of objects
without duplicate keys, at any depth, is parsed alike: to the same tools, or to the same complaint
about the catalog. So the parameters that are listed, one for each property in ascending order of
the names, are the same, and so is what each tool costs, whether the tools are hidden, and what
every search finds. -/
theorem parse_respelled {text : String} (hread : (Json.read text).isOk) :
    Respelled text text ∧
    ∀ other, (Json.read other).isOk → Respelled text other →
      parse other = parse text ∧
      (∀ error, parse text = .error error → ∃ fault, error = .unusableCatalog fault) ∧
      ∀ tools others, parse text = .ok tools → parse other = .ok others →
        (∀ tool ∈ tools, (tool.parameterDocs.map (·.1)).Pairwise (· < ·) ∧
          ∀ name description,
            (name, description) ∈ tool.parameterDocs ↔ tool.HasParameter name description) ∧
        others.map (·.parameterDocs) = tools.map (·.parameterDocs) ∧
        others.map (·.cost) = tools.map (·.cost) ∧
        (∀ settings contextWindow?, Policy.decision settings contextWindow? others =
          Policy.decision settings contextWindow? tools) ∧
        ∀ query mode limit, (CatalogIndex.add {} others >>= (·.search query mode limit)) =
          (CatalogIndex.add {} tools >>= (·.search query mode limit)) := by
  refine ⟨.refl hread, fun other hother h => ?_⟩
  obtain ⟨json, hjson⟩ := Json.exists_of_isOk hread
  have hsame : parse other = parse text := by
    rw [parse_of_read hjson, parse_of_read (h.read_eq hjson hother)]
  refine ⟨hsame, fun error herror => ?_, fun tools others htools hothers => ?_⟩
  · rw [parse_of_read hjson] at herror
    obtain ⟨fault, -, hfault⟩ := mapError_eq_error.mp herror
    exact ⟨fault, hfault⟩
  · obtain rfl : others = tools := Except.ok.inj (hothers.symm.trans (hsame.trans htools))
    refine ⟨fun tool htool => ?_, rfl, rfl, fun _ _ => rfl, fun _ _ _ => rfl⟩
    have hordered := (parameters_of_parse htools htool).1.mono fun _ hstored => hstored.2
    exact ⟨ToolDefinition.ascending_parameterDocs hordered,
      fun _ _ => ToolDefinition.mem_parameterDocs hordered⟩

/-- A catalog of one tool with two parameters. -/
def heaterText : String :=
  "[\x7b\"function\":\x7b\"name\":\"heat\"," ++
    "\"parameters\":\x7b\"properties\":\x7b\"to\":1,\"at\":\x7b\x7d\x7d\x7d\x7d\x7d]"

/-- The same catalog with the members of two objects in another order, and with white space. -/
def respelledHeaterText : String :=
  "[ \x7b\"function\": \x7b\"parameters\": \x7b\"properties\": " ++
    "\x7b\"at\": \x7b \x7d, \"to\": 1\x7d\x7d,\n \"name\": \"heat\"\x7d\x7d ]\n"

/-- The form of a catalog of one tool, of which the members of the function part are given. -/
def catalogForm (members : List (Lexeme × Form)) : Form :=
  .list ([] ++ .object
    ([] ++ (.quoted ['f', 'u', 'n', 'c', 't', 'i', 'o', 'n'] (by decide), .object members) ::
      []) :: [])

/-- The name of the tool. -/
def heaterName : Lexeme × Form :=
  (.quoted ['n', 'a', 'm', 'e'] (by decide), .scalar (.quoted ['h', 'e', 'a', 't'] (by decide)))

/-- The parameters of the tool, with the given properties. -/
def heaterParameters (properties : List (Lexeme × Form)) : Lexeme × Form :=
  (.quoted ['p', 'a', 'r', 'a', 'm', 'e', 't', 'e', 'r', 's'] (by decide), .object
    ([] ++ (.quoted ['p', 'r', 'o', 'p', 'e', 'r', 't', 'i', 'e', 's'] (by decide),
      .object properties) :: []))

/-- The two properties. -/
def heaterProperties : List (Lexeme × Form) :=
  [(.quoted ['t', 'o'] (by decide), .scalar (.word ['1'] (by decide) (by decide))),
    (.quoted ['a', 't'] (by decide), .object [])]

theorem respelled_heaterText : Respelled heaterText respelledHeaterText := by
  refine ⟨catalogForm [heaterName, heaterParameters heaterProperties],
    catalogForm [heaterParameters heaterProperties.reverse, heaterName],
    Json.spaced_of_isSpaced (by decide +kernel), Json.spaced_of_isSpaced (by decide +kernel), ?_⟩
  refine .item [] [] (.value [] [] _ (.trans (.members (.swap _ _ _) (by decide +kernel)) ?_))
  exact .value [] [heaterName] _ (.value [] [] _ (.members (.swap _ _ _) (by decide +kernel)))

theorem parse_respelled_heater :
    (Json.read heaterText).isOk ∧ (Json.read respelledHeaterText).isOk ∧
      Respelled heaterText respelledHeaterText ∧
      parse respelledHeaterText = parse heaterText ∧
      ((parse respelledHeaterText).toOption.map fun tools => tools.map (·.parameterDocs)) =
        some [[("at", ""), ("to", "")]] := by
  have hread : (Json.read heaterText).isOk := by decide +kernel
  have hother : (Json.read respelledHeaterText).isOk := by decide +kernel
  have hsame := ((parse_respelled hread).2 _ hother respelled_heaterText).1
  exact ⟨hread, hother, respelled_heaterText, hsame, by rw [hsame]; decide +kernel⟩

end ToolDiscovery.Catalog
