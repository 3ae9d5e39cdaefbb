import ToolDiscovery.Discovery.SearchTool
import ToolDiscovery.Proofs.Records
import ToolDiscovery.Proofs.RequestSchema

/-!
# Arguments that are checked and then decoded

The arguments of a search are checked as a value and decoded as a text. `decodes_iff_of_checked`
says which arguments that pass the check can be decoded: those that repeat no field and whose limit
is a whole number that is kept exactly. The check looks only at the last of several members with one
key, and takes a floating-point number without a fraction for a whole number.
-/

namespace ToolDiscovery

namespace Json

variable {depth : Nat} {cursor next : Cursor} {key : String}

/-- Whole numbers among the members of an object are no greater than what is kept exactly. -/
theorem MembersAt.le_maxInteger {first : Bool} {members : Members} {n : Int}
    (h : MembersAt depth first cursor members next) (hfits : cursor.Fits)
    (hmem : (key, Json.integer n) ∈ members) : n ≤ maxInteger := by
  obtain ⟨start, stop, hfollows, hvalue⟩ := h.read hmem
  exact (stored_of_value (hfits.of_follows hfollows) hvalue).1.here.1.2

end Json

/-! ## The record of a request -/

namespace SearchRequest

open Json

theorem mode_faithful : SearchMode.decoder.Faithful := by
  refine Variants.faithful fun name payload hfind => ?_
  obtain ⟨mode, rfl⟩ : ∃ mode, payload = .none mode := by
    unfold Variants.find at hfind
    cases hlookup : SearchMode.variants.lookup name with
    | none =>
        rw [hlookup] at hfind
        cases hfind
    | some found =>
        rw [hlookup] at hfind
        cases hfind
        obtain ⟨before, after, hvariants, -⟩ := List.lookup_eq_some_iff.mp hlookup
        have hmem : (name, payload) ∈ SearchMode.variants := by simp [hvariants]
        obtain ⟨mode, -, hsame⟩ := List.mem_map.mp hmem
        cases hsame
        exact ⟨mode, rfl⟩
  exact Decoder.map_faithful Decoder.unit_faithful _

theorem record_lawful : record.Lawful where
  faithful := by
    have hquery := Decoder.string_faithful "a string"
    have hmode := Decoder.option_faithful mode_faithful
    have hlimit := Decoder.option_faithful (Decoder.natural_faithful "usize" maxInteger)
    simp only [Record.Faithful, record, List.forall_mem_cons, List.not_mem_nil]
    exact ⟨Decoder.map_faithful hquery _, Decoder.map_faithful hmode _,
      Decoder.map_faithful hlimit _, nofun⟩
  names := by decide
  blank := by
    simp only [record, List.forall_mem_cons, List.not_mem_nil]
    exact ⟨rfl, rfl, rfl, nofun⟩
  given := by
    simp only [record, List.forall_mem_cons, List.not_mem_nil]
    refine ⟨fun hread draft => ?_, fun hread draft => ?_, fun hread draft => ?_, nofun⟩
    · obtain ⟨read, rfl⟩ := Field.fromJson_of hread
      exact ⟨rfl, rfl, rfl, nofun⟩
    · obtain ⟨read, rfl⟩ := Field.fromJson_of hread
      exact ⟨rfl, rfl, rfl, nofun⟩
    · obtain ⟨read, rfl⟩ := Field.fromJson_of hread
      exact ⟨rfl, rfl, rfl, nofun⟩
  finish draft := by
    simp only [record, List.forall_mem_cons, List.not_mem_nil]
    cases hquery : draft.query with
    | none =>
        refine iff_of_false nofun fun hneeded => ?_
        have hgiven : draft.query.isSome := hneeded.1 rfl
        rw [hquery] at hgiven
        cases hgiven
    | some query =>
        refine iff_of_true ⟨_, rfl⟩ ⟨fun _ => ?_, nofun, nofun, nofun⟩
        show draft.query.isSome
        rw [hquery]
        rfl

end SearchRequest

theorem ToolDefinition.checkArguments_of_read {tool : ToolDefinition} {text : String} {value : Json}
    (h : Json.read text = .ok value) :
    tool.checkArguments text = match Schema.check tool.parameters value with
      | [] => .ok ()
      | violations => .error (.violations violations) := by
  unfold checkArguments
  rw [h]
  rfl

/-- Arguments pass the check if they can be read and nothing is wrong with what is read. -/
theorem ToolDefinition.checkArguments_eq_ok {tool : ToolDefinition} {text : String} :
    tool.checkArguments text = .ok () ↔
      ∃ value, Json.read text = .ok value ∧ Schema.check tool.parameters value = [] := by
  cases hvalue : Json.read text with
  | error fault =>
      refine iff_of_false ?_ nofun
      unfold checkArguments
      rw [hvalue]
      nofun
  | ok value =>
      rw [checkArguments_of_read hvalue]
      cases hcheck : Schema.check tool.parameters value with
      | nil => exact iff_of_true rfl ⟨value, rfl, hcheck⟩
      | cons violation rest =>
          refine iff_of_false nofun ?_
          rintro ⟨_, hsame, hnone⟩
          cases hsame
          rw [hcheck] at hnone
          cases hnone

theorem decodeArguments_eq_ok {α : Type} {decoder : Json.Decoder α} {text : String} {result : α} :
    decodeArguments decoder text = .ok result ↔ decoder.decodeText text = .ok result := by
  unfold decodeArguments
  cases decoder.decodeText text with
  | error fault => exact iff_of_false nofun nofun
  | ok value =>
      show Except.ok value = .ok result ↔ _
      rw [Except.ok.injEq, Except.ok.injEq]

namespace SearchRequest

open Json

theorem size_fromJson {n : Nat} (h : n ≤ maxInteger) :
    Decoder.size.fromJson (.integer n) = .ok n := by
  have hrange : 0 ≤ (n : Int) ∧ (n : Int) ≤ maxInteger := by omega
  show Except.mapError _ (if 0 ≤ (n : Int) ∧ (n : Int) ≤ maxInteger then _ else _) = _
  rw [if_pos hrange]
  rfl

/-- Arguments pass the check if nothing is found wrong with their value by the schema as it is
read. -/
theorem checked_of_evaluated {text : String}
    (h : (Json.read text).toOption.any fun value => (schemas.violations value).isEmpty) :
    searchToolDefinition.checkArguments text = .ok () := by
  cases hread : Json.read text with
  | error fault =>
      rw [hread] at h
      cases h
  | ok value =>
      rw [hread] at h
      refine ToolDefinition.checkArguments_eq_ok.mpr ⟨value, hread, ?_⟩
      show Schema.check schema value = []
      rw [Schema.check_eq_violations ofJson?_schema]
      exact List.isEmpty_iff.mp h

variable {sorted members : Members}

/-- Where no field is written twice and the limit is kept exactly, all fields of an allowed request
are found among its members, and none of them is an object. -/
theorem foundIn_of_allowed (hallowed : Allowed sorted)
    (hsorted : Json.object sorted = .ofMembers members)
    (honce : ∀ name ∈ ["query", "mode", "limit"], (members.map (·.1)).count name ≤ 1)
    (hlimit : ∀ json, ("limit", json) ∈ members →
      json = .null ∨ ∃ n : Nat, n ≤ maxInteger ∧ json = .integer n) :
    ∀ field ∈ record.fields,
      field.FoundIn members ∧ ∀ parts, (field.name, Json.object parts) ∉ members := by
  simp only [List.forall_mem_cons, List.not_mem_nil] at honce
  obtain ⟨honceQuery, honceMode, honceLimit, -⟩ := honce
  obtain ⟨text, hlookup⟩ := hallowed.query
  have hquery (json : Json) (hmem : ("query", json) ∈ members) : json = .string text := by
    have hsame := lookup_of_written hsorted hmem honceQuery
    rw [hlookup] at hsame
    exact (Option.some.inj hsame).symm
  have hmode (json : Json) (hmem : ("mode", json) ∈ members) :
      json = .null ∨ ∃ mode : SearchMode, json = mode.toJson :=
    hallowed.mode json (mem_of_lookup (lookup_of_written hsorted hmem honceMode))
  simp only [record, List.forall_mem_cons, List.not_mem_nil]
  refine ⟨⟨⟨honceQuery, fun json hmem => ?_, fun _ => ?_⟩, fun parts hmem => ?_⟩,
    ⟨⟨honceMode, fun json hmem => ?_, nofun⟩, fun parts hmem => ?_⟩,
    ⟨⟨honceLimit, fun json hmem => ?_, nofun⟩, fun parts hmem => ?_⟩, nofun⟩
  · obtain rfl := hquery json hmem
    exact ⟨_, rfl⟩
  · exact List.mem_map_of_mem (mem_of_lookup_written hsorted hlookup)
  · exact absurd (hquery _ hmem) nofun
  · rcases hmode json hmem with rfl | ⟨mode, rfl⟩
    · exact ⟨_, rfl⟩
    · cases mode with
      | bm25 | regex | hybrid => exact ⟨_, rfl⟩
  · rcases hmode _ hmem with hnull | ⟨mode, hname⟩
    · cases hnull
    · cases hname
  · rcases hlimit json hmem with rfl | ⟨n, hgreatest, rfl⟩
    · exact ⟨_, rfl⟩
    · have hsize : (Decoder.option .size).fromJson (.integer n) = .ok (some n) :=
        except_bind_eq_ok.mpr ⟨n, size_fromJson hgreatest, rfl⟩
      exact ⟨_, except_bind_eq_ok.mpr ⟨some n, hsize, rfl⟩⟩
  · rcases hlimit _ hmem with hnull | ⟨n, -, hinteger⟩
    · cases hnull
    · cases hinteger

/-- Arguments that pass the check are decoded if and only if no field is written twice and the limit
is no floating-point number. -/
theorem decodes_iff_of_checked (text : String)
    (h : searchToolDefinition.checkArguments text = .ok ()) :
    ∃ members, writtenMembers text = .ok members ∧ Json.read text = .ok (.ofMembers members) ∧
      ((∃ request, decodeArguments decoder text = .ok request) ↔
        (∀ name ∈ ["query", "mode", "limit"], (members.map (·.1)).count name ≤ 1) ∧
          ∀ x, ("limit", Json.real x) ∉ members) := by
  obtain ⟨value, hread, hcheck⟩ := ToolDefinition.checkArguments_eq_ok.mp h
  obtain ⟨sorted, rfl, hallowed⟩ := allowed_of_check hcheck
  obtain ⟨next, hvalue, hend⟩ := readAll_eq_ok.mp hread
  have hfits := Cursor.fits_start text
  have hwritten : ValueAt (maxDepth - 1) _ _ next := valueAt_of_ok hfits hvalue
  obtain ⟨rest, members, last, hrest, hdepth, hsorted, hmembers, hclose⟩ := hwritten.members rfl
  refine ⟨members, writtenMembers_eq hrest hmembers hclose hend, hsorted ▸ hread, ?_⟩
  have hdecode (request : SearchRequest) : decodeArguments decoder text = .ok request ↔
      ∃ stop, decoder.fromText maxDepth (.start text) = .ok request stop ∧
        (stop.dropWhile isSpace).rest = [] :=
    decodeArguments_eq_ok.trans readAll_eq_ok
  constructor
  · rintro ⟨request, hrequest⟩
    obtain ⟨stop, htext, -⟩ := (hdecode request).mp hrequest
    have hfound := (record_lawful.fromText_sound hfits hrest hmembers hclose htext).2
    simp only [record, List.forall_mem_cons, List.not_mem_nil] at hfound
    obtain ⟨hquery, hmode, hlimit, -⟩ := hfound
    simp only [List.forall_mem_cons, List.not_mem_nil]
    refine ⟨⟨hquery.once, hmode.once, hlimit.once, nofun⟩, fun x hmem => ?_⟩
    obtain ⟨update, hupdate⟩ := hlimit.readable (.real x) hmem
    cases hupdate
  · rintro ⟨honce, hreal⟩
    have hlimit (json : Json) (hmem : ("limit", json) ∈ members) :
        json = .null ∨ ∃ n : Nat, n ≤ maxInteger ∧ json = .integer n := by
      -- The schema bounds the limit from below, and reading it as a whole number from above.
      have hsortedMem := mem_of_lookup (lookup_of_written hsorted hmem (honce "limit" (by simp)))
      rcases hallowed.limit json hsortedMem with hnull | ⟨n, rfl⟩ | ⟨x, rfl⟩
      · exact .inl hnull
      · have htail := hfits.of_follows (Cursor.Takes.follows ⟨rest, hrest, rfl⟩).1
        have hgreatest := hmembers.le_maxInteger htail hmem
        exact .inr ⟨n, by omega, rfl⟩
      · exact absurd hmem (hreal x)
    have hfound := foundIn_of_allowed hallowed hsorted honce hlimit
    obtain ⟨request, htext⟩ := record_lawful.fromText_complete hfits hdepth hrest hmembers hclose
      (fun field hfield => (hfound field hfield).2) (fun field hfield => (hfound field hfield).1)
    exact ⟨request, (hdecode request).mpr ⟨next, htext, hend⟩⟩

/-- Arguments with all fields, among members that nobody asks for. -/
def fullArguments : String :=
  "\x7b\"more\": [1.0, \x7b\"limit\": \"\\ud83d\\ude00\"\x7d], \"limit\": 5, " ++
    "\"query\": \"mail\", \"more\": null, \"mode\": \"hybrid\"\x7d"

theorem decodes_iff_of_checked_fullArguments :
    searchToolDefinition.checkArguments fullArguments = .ok () ∧
      ∃ members, writtenMembers fullArguments = .ok members ∧
        Json.read fullArguments = .ok (.ofMembers members) ∧
        ((∃ request, decodeArguments decoder fullArguments = .ok request) ↔
          (∀ name ∈ ["query", "mode", "limit"], (members.map (·.1)).count name ≤ 1) ∧
            ∀ x, ("limit", Json.real x) ∉ members) := by
  have hchecked : searchToolDefinition.checkArguments fullArguments = .ok () :=
    checked_of_evaluated (by decide +kernel)
  exact ⟨hchecked, decodes_iff_of_checked fullArguments hchecked⟩

example : (decodeArguments decoder fullArguments).toOption =
    some { query := "mail", mode? := some .hybrid, limit? := some 5 } := by
  decide +kernel

/-- Arguments whose limit is a whole number, but is written with a fraction. -/
def fractionArguments : String := "\x7b\"query\":\"a\",\"limit\":1.0\x7d"

/-- The check lets a limit with a fraction of zero pass, which is then not decoded. -/
theorem not_decodes_of_checked :
    ¬∀ text, searchToolDefinition.checkArguments text = .ok () →
      ∃ request, decodeArguments decoder text = .ok request := by
  intro hall
  have hchecked : searchToolDefinition.checkArguments fractionArguments = .ok () :=
    checked_of_evaluated (by decide +kernel)
  obtain ⟨request, hrequest⟩ := hall fractionArguments hchecked
  have hnone : (decoder.decodeText fractionArguments).toOption = none := by decide +kernel
  rw [decodeArguments_eq_ok.mp hrequest] at hnone
  cases hnone

end SearchRequest

end ToolDiscovery
