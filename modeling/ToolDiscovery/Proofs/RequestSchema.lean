import Mathlib.Data.List.Basic
import ToolDiscovery.Discovery.Request
import ToolDiscovery.Schema.Reading

/-!
# What the schema of a search asks for

`Schema.violations` finds nothing wrong with a value exactly where the value is allowed, which is
said for each kind of schema first. The schema of a search request is then read once and for all
(`SearchRequest.ofJson?_schema`), and `SearchRequest.allowed_of_check` says what the values that
satisfy it are like.
-/

namespace ToolDiscovery

namespace Schema

variable {references : References} {place : Path} {value : Json} {schemas : List Schema}

theorem violations_assertion {demand : Assertion} :
    violations references place value (.assertion demand) = [] ↔ demand.holds value := by
  unfold violations
  cases demand.holds value with
  | true => simp
  | false => simp

theorem violations_all : violations references place value (.all schemas) = [] ↔
    ∀ schema ∈ schemas, violations references place value schema = [] := by
  show violationsOfAll references place value schemas = [] ↔ _
  induction schemas with
  | nil => simp [violationsOfAll]
  | cons schema rest ih =>
      rw [violationsOfAll, List.append_eq_nil_iff, ih, List.forall_mem_cons]

theorem countSatisfied_eq : countSatisfied references place value schemas =
    schemas.countP fun schema => (violations references place value schema).isEmpty := by
  induction schemas with
  | nil => rfl
  | cons schema rest ih =>
      rw [countSatisfied, ih, List.countP_cons, Nat.add_comm]
      cases (violations references place value schema).isEmpty with
      | true => rfl
      | false => rfl

theorem countSatisfied_ne_zero : countSatisfied references place value schemas ≠ 0 ↔
    ∃ schema ∈ schemas, violations references place value schema = [] := by
  rw [countSatisfied_eq, ← Nat.pos_iff_ne_zero, List.countP_pos_iff]
  simp only [List.isEmpty_iff]

theorem violations_anyOf : violations references place value (.anyOf schemas) = [] ↔
    ∃ schema ∈ schemas, violations references place value schema = [] := by
  rw [← countSatisfied_ne_zero, violations]
  by_cases hnone : countSatisfied references place value schemas = 0
  · simp [hnone]
  · simp [hnone]

/-- A value that satisfies exactly one schema of a list satisfies one of them. -/
theorem exists_of_violations_oneOf (h : violations references place value (.oneOf schemas) = []) :
    ∃ schema ∈ schemas, violations references place value schema = [] := by
  refine countSatisfied_ne_zero.mp fun hnone => ?_
  rw [violations, hnone] at h
  cases h

theorem violationsByName?_eq (name : String) (named : List (String × Schema)) :
    violationsByName? references place value name named =
      (named.lookup name).map (violations references place value) := by
  induction named with
  | nil => rfl
  | cons entry rest ih =>
      obtain ⟨known, schema⟩ := entry
      rw [violationsByName?, List.lookup_cons, ih]
      by_cases hknown : known = name
      · simp [hknown]
      · simp [hknown, beq_eq_false_iff_ne.mpr (Ne.symm hknown)]

/-- An object is allowed if each of its properties is allowed by the schema of its name or, if there
is none, by the other one. -/
theorem violations_properties {named : List (String × Schema)} {other : Schema}
    {members : Json.Members} :
    violations references place (.object members) (.properties named other) = [] ↔
      ∀ member ∈ members, violations references (place ++ [member.1]) member.2
        ((named.lookup member.1).getD other) = [] := by
  rw [violations, List.flatMap_eq_nil_iff]
  refine forall₂_congr ?_
  rintro ⟨name, part⟩ -
  dsimp only
  rw [violationsByName?_eq]
  cases named.lookup name with
  | none => exact Iff.rfl
  | some schema => exact Iff.rfl

/-- A reference is followed to the schema at its place, unless that is being checked already. -/
theorem follow_eq {known : Schemas} {length : Nat} {opened : List (Path × Path)} {target : Path}
    {schema : Schema} (hopened : (target, place) ∉ opened)
    (hschema : known.entries.lookup target = some schema) :
    known.follow (length + 1) opened target place value =
      violations (known.follow length ((target, place) :: opened)) place value schema := by
  simp only [Schemas.follow, List.contains_eq_mem, hopened, decide_false, Bool.false_eq_true,
    if_false, hschema]

theorem check_eq_violations {root : Json} {known : Schemas} (h : Schemas.ofJson? root = some known)
    (value : Json) : check root value = known.violations value := by
  unfold check
  rw [h]

end Schema

namespace SearchRequest

open Schema

/-! ## The schema as it is read -/

/-- The demand on a mode: to be one of the names. -/
def modeDemand : Schema :=
  .all [.oneOf (SearchMode.all.map fun mode =>
    .all [.assertion (.type [.string] false), .assertion (.oneOf [mode.toJson])])]

/-- The place of the schema of a mode. -/
def modePlace : Path := ["definitions", "SearchMode"]

/-- The demands on the properties of a request. -/
def propertyDemands : List (String × Schema) :=
  [("limit", .all [.assertion (.type [.integer, .null] false),
      .assertion (.bound .minimum (.real 0.0))]),
    ("mode", .all [.anyOf [.all [.reference modePlace], .all [.assertion (.type [.null] false)]]]),
    ("query", .all [.assertion (.type [.string] false)])]

/-- The demands on a request. -/
def demand : Schema :=
  .all [.assertion (.type [.object] false), .assertion (.required "query"),
    .properties propertyDemands (.constant true)]

/-- The document of the schema. -/
def document : Schema.Document where
  edition := .draft7
  root := schema
  marks := [⟨defaultAddress.text, none, []⟩]

/-- The schema and the one that it refers to. -/
def schemas : Schemas := ⟨[(modePlace, modeDemand), ([], demand)]⟩

theorem ofJson?_document : Schema.Document.ofJson? schema = some document := by
  rfl

set_option maxRecDepth 2000 in
theorem schemaAt?_root : document.schemaAt? [] = some demand := by
  with_unfolding_all rfl

theorem schemaAt?_mode : document.schemaAt? modePlace = some modeDemand := by
  rfl

theorem schemasFrom?_root (rounds : Nat) :
    document.schemasFrom? (rounds + 2) [[]] [] = some schemas.entries := by
  rw [Schema.Document.schemasFrom?, schemaAt?_root]
  show document.schemasFrom? (rounds + 1) [modePlace] [([], demand)] = _
  rw [Schema.Document.schemasFrom?, schemaAt?_mode]
  show document.schemasFrom? rounds [] _ = _
  rw [Schema.Document.schemasFrom?]
  rfl

/-- Two rounds are enough, and there are as many as the written form has characters. -/
theorem ofJson?_schema : Schemas.ofJson? schema = some schemas := by
  have hlength : 1 ≤ schema.compactChars.length := by
    unfold schema
    rw [Json.compactChars, List.cons_append, List.length_cons]
    exact Nat.le_add_left 1 _
  obtain ⟨rounds, hrounds⟩ := Nat.exists_eq_add_of_le' hlength
  unfold Schemas.ofJson?
  rw [ofJson?_document, hrounds]
  show (document.schemasFrom? (rounds + 2) [[]] []).bind _ = _
  rw [schemasFrom?_root]
  rfl

/-! ## What satisfies it -/

variable {references : References} {place : Path} {value : Json}

/-- A request is checked with its demand, inside of which the schema of a mode can be reached. -/
theorem check_eq (value : Json) : ∃ length, Schema.check schema value =
    violations (schemas.follow (length + 1) [([], [])]) [] value demand := by
  obtain ⟨length, hlength⟩ : ∃ length, schemas.chainLength value = length + 2 :=
    ⟨2 * depthOf value + 1, by
      show (depthOf value + 1) * 2 + 1 = _
      omega⟩
  refine ⟨length, ?_⟩
  rw [check_eq_violations ofJson?_schema, Schemas.violations, hlength]
  exact follow_eq List.not_mem_nil rfl

theorem holds_string :
    (Assertion.type [.string] false).holds value ↔ ∃ text, value = .string text := by
  cases value <;> simp [Assertion.holds, JsonType.admits]

theorem holds_object :
    (Assertion.type [.object] false).holds value ↔ ∃ members, value = .object members := by
  cases value <;> simp [Assertion.holds, JsonType.admits]

theorem holds_null : (Assertion.type [.null] false).holds value ↔ value = .null := by
  cases value <;> simp [Assertion.holds, JsonType.admits]

/-- A value that satisfies the demand on a mode is the name of one. -/
theorem eq_toJson_of_modeDemand (h : violations references place value modeDemand = []) :
    ∃ mode : SearchMode, value = mode.toJson := by
  obtain ⟨choice, hchoice, hvalue⟩ := exists_of_violations_oneOf
    (violations_all.mp h _ List.mem_cons_self)
  obtain ⟨mode, -, rfl⟩ := List.mem_map.mp hchoice
  have hdemands := violations_all.mp hvalue
  have htype := violations_assertion.mp (hdemands _ List.mem_cons_self)
  have hequal := violations_assertion.mp (hdemands _ (List.mem_cons_of_mem _ List.mem_cons_self))
  obtain ⟨text, rfl⟩ := holds_string.mp htype
  simp only [Assertion.holds, SearchMode.toJson, List.any_cons, List.any_nil, Bool.or_false,
    Json.equal, beq_iff_eq] at hequal
  exact ⟨mode, congrArg Json.string hequal.symm⟩

theorem eq_null_or_toJson {json : Json} (length : Nat)
    (h : violations (schemas.follow (length + 1) [([], [])]) ["mode"] json
      (.all [.anyOf [.all [.reference modePlace], .all [.assertion (.type [.null] false)]]]) = []) :
    json = .null ∨ ∃ mode : SearchMode, json = mode.toJson := by
  obtain ⟨choice, hchoice, hjson⟩ := violations_anyOf.mp (violations_all.mp h _ List.mem_cons_self)
  rw [List.mem_pair] at hchoice
  rcases hchoice with rfl | rfl
  · -- Only the request itself is being checked, so that its reference to the mode is followed.
    have hreference := violations_all.mp hjson _ List.mem_cons_self
    rw [violations, follow_eq (by decide) rfl] at hreference
    exact .inr (eq_toJson_of_modeDemand hreference)
  · have hnull := violations_assertion.mp (violations_all.mp hjson _ List.mem_cons_self)
    exact .inl (holds_null.mp hnull)

theorem holds_bound {kind : Bound} {limit : Json} {a b : Ratio}
    (hlimit : Ratio.ofJson? limit = some a) (hvalue : Ratio.ofJson? value = some b) :
    (Assertion.bound kind limit).holds value = kind.admits a b := by
  simp only [Assertion.holds, hlimit, hvalue]

/-- The lower bound of the limit is zero, although it is a floating-point number. -/
theorem ofJson?_zero :
    ∃ denominator, 0 < denominator ∧ Ratio.ofJson? (.real 0.0) = some ⟨0, denominator⟩ := by
  show ∃ denominator, 0 < denominator ∧ Ratio.ofFloat? 0.0 = some ⟨0, denominator⟩
  -- The denominator is a large power of two, of which only the sign is evaluated.
  have hnumerator : (Ratio.ofFloat? 0.0).map (·.numerator) = some 0 := by decide +kernel
  have hdenominator : ((Ratio.ofFloat? 0.0).map fun zero => decide (0 < zero.denominator)) =
      some true := by decide +kernel
  cases hzero : Ratio.ofFloat? 0.0 with
  | none => simp [hzero] at hnumerator
  | some zero =>
      obtain ⟨numerator, denominator⟩ := zero
      simp only [hzero, Option.map_some, Option.some.injEq, decide_eq_true_eq]
        at hnumerator hdenominator
      exact ⟨denominator, hdenominator, by rw [hnumerator]⟩

/-- What a limit may be: the lower bound is written as a floating-point number. -/
theorem limit_cases {json : Json} (h : violations references place json
      (.all [.assertion (.type [.integer, .null] false),
        .assertion (.bound .minimum (.real 0.0))]) = []) :
    json = .null ∨ (∃ n : Nat, json = .integer n) ∨ ∃ x, json = .real x := by
  have hdemands := violations_all.mp h
  have htype := violations_assertion.mp (hdemands _ List.mem_cons_self)
  have hbound := violations_assertion.mp (hdemands _ (List.mem_cons_of_mem _ List.mem_cons_self))
  cases json with
  | null => exact .inl rfl
  | real x => exact .inr (.inr ⟨x, rfl⟩)
  | integer n =>
      obtain ⟨denominator, hpositive, hzero⟩ := ofJson?_zero
      have hleast : Bound.minimum.admits ⟨0, denominator⟩ (Ratio.ofInt n) := by
        rwa [holds_bound hzero rfl] at hbound
      have hproduct : 0 ≤ n * denominator := by
        simpa [Bound.admits, Ratio.less, Ratio.ofInt] using hleast
      have hn : 0 ≤ n := by
        by_contra hnegative
        have := Int.mul_neg_of_neg_of_pos (Int.not_le.mp hnegative) (Int.natCast_pos.mpr hpositive)
        omega
      exact .inr (.inl ⟨n.toNat, congrArg Json.integer (Int.toNat_of_nonneg hn).symm⟩)
  | boolean | string | array | object => simp [Assertion.holds, JsonType.admits] at htype

/-- What the members of a request are like that satisfies the schema. -/
structure Allowed (members : Json.Members) : Prop where
  query : ∃ text, members.lookup "query" = some (.string text)
  mode : ∀ json, ("mode", json) ∈ members → json = .null ∨ ∃ mode : SearchMode, json = mode.toJson
  limit : ∀ json, ("limit", json) ∈ members →
    json = .null ∨ (∃ n : Nat, json = .integer n) ∨ ∃ x, json = .real x

theorem allowed_of_check (h : Schema.check schema value = []) :
    ∃ members, value = .object members ∧ Allowed members := by
  obtain ⟨length, hcheck⟩ := check_eq value
  rw [h] at hcheck
  have hdemands := violations_all.mp hcheck.symm
  have hobject := violations_assertion.mp (hdemands _ List.mem_cons_self)
  have hrequired := violations_assertion.mp
    (hdemands _ (List.mem_cons_of_mem _ List.mem_cons_self))
  obtain ⟨members, rfl⟩ := holds_object.mp hobject
  have hproperty {name : String} {json : Json} {schema : Schema} (hmem : (name, json) ∈ members)
      (hnamed : propertyDemands.lookup name = some schema) :
      violations (schemas.follow (length + 1) [([], [])]) [name] json schema = [] := by
    have hpart := violations_properties.mp (hdemands _ (List.mem_cons_of_mem _
      (List.mem_cons_of_mem _ List.mem_cons_self))) _ hmem
    rwa [hnamed] at hpart
  refine ⟨members, rfl, ?_, fun json hmem => eq_null_or_toJson length (hproperty hmem rfl),
    fun json hmem => limit_cases (hproperty hmem rfl)⟩
  obtain ⟨json, hlookup⟩ := Option.isSome_iff_exists.mp hrequired
  obtain ⟨before, after, rfl, -⟩ := List.lookup_eq_some_iff.mp hlookup
  have hmem : ("query", json) ∈ before ++ ("query", json) :: after := by simp
  have htext := violations_all.mp (hproperty hmem rfl) _ List.mem_cons_self
  obtain ⟨text, rfl⟩ := holds_string.mp (violations_assertion.mp htext)
  exact ⟨text, hlookup⟩

/-- The name of a mode satisfies the demand on a mode. -/
theorem modeDemand_toJson (mode : SearchMode) :
    violations references place mode.toJson modeDemand = [] := by
  cases mode with
  | bm25 | regex | hybrid => rfl

theorem modeDemands_of_mode {json : Json} (length : Nat)
    (h : json = .null ∨ ∃ mode : SearchMode, json = mode.toJson) :
    violations (schemas.follow (length + 1) [([], [])]) ["mode"] json
      (.all [.anyOf [.all [.reference modePlace], .all [.assertion (.type [.null] false)]]]) =
        [] := by
  have hone {schema : Schema} {references : References} {place : Path}
      (hschema : violations references place json schema = []) :
      violations references place json (.all [schema]) = [] :=
    violations_all.mpr (List.forall_mem_singleton.mpr hschema)
  refine hone (violations_anyOf.mpr ?_)
  rcases h with rfl | ⟨mode, rfl⟩
  · exact ⟨_, List.mem_cons_of_mem _ List.mem_cons_self,
      hone (violations_assertion.mpr (holds_null.mpr rfl))⟩
  · refine ⟨_, List.mem_cons_self, hone ?_⟩
    rw [violations, follow_eq (by decide) rfl]
    exact modeDemand_toJson mode

theorem limitDemands_of_limit {json : Json} (h : json = .null ∨ ∃ n : Nat, json = .integer n) :
    violations references place json (.all [.assertion (.type [.integer, .null] false),
      .assertion (.bound .minimum (.real 0.0))]) = [] := by
  refine violations_all.mpr ?_
  simp only [List.forall_mem_cons, List.not_mem_nil]
  obtain ⟨denominator, -, hzero⟩ := ofJson?_zero
  rcases h with rfl | ⟨n, rfl⟩
  · refine ⟨violations_assertion.mpr rfl, violations_assertion.mpr ?_, nofun⟩
    simp [Assertion.holds, Ratio.ofJson?]
  · refine ⟨violations_assertion.mpr rfl, violations_assertion.mpr ?_, nofun⟩
    have hproduct : 0 ≤ (n : Int) * denominator :=
      Int.mul_nonneg (Int.natCast_nonneg n) (Int.natCast_nonneg denominator)
    rw [holds_bound hzero rfl]
    simpa [Bound.admits, Ratio.less, Ratio.ofInt] using hproduct

/-- An object whose members are allowed satisfies the schema, if each query that it has is a text
and no limit is a floating-point number. -/
theorem check_of_allowed {members : Json.Members} (h : Allowed members)
    (hquery : ∀ json, ("query", json) ∈ members → ∃ text, json = .string text)
    (hreal : ∀ x, ("limit", Json.real x) ∉ members) :
    Schema.check schema (.object members) = [] := by
  obtain ⟨text, htext⟩ := h.query
  obtain ⟨length, hcheck⟩ := check_eq (.object members)
  have hrequired : (Assertion.required "query").holds (.object members) :=
    Option.isSome_iff_exists.mpr ⟨_, htext⟩
  rw [hcheck]
  refine violations_all.mpr ?_
  simp only [List.forall_mem_cons, List.not_mem_nil]
  refine ⟨violations_assertion.mpr (holds_object.mpr ⟨members, rfl⟩),
    violations_assertion.mpr hrequired, violations_properties.mpr ?_, nofun⟩
  rintro ⟨name, json⟩ hmember
  by_cases hnamed : name = "limit" ∨ name = "mode" ∨ name = "query"
  · rcases hnamed with rfl | rfl | rfl
    · refine limitDemands_of_limit ?_
      rcases h.limit json hmember with hnull | hwhole | ⟨x, rfl⟩
      · exact .inl hnull
      · exact .inr hwhole
      · exact absurd hmember (hreal x)
    · exact modeDemands_of_mode length (h.mode json hmember)
    · exact violations_all.mpr (List.forall_mem_singleton.mpr
        (violations_assertion.mpr (holds_string.mpr (hquery json hmember))))
  · -- Nothing is asked of other members.
    have hother : propertyDemands.lookup name = none :=
      List.lookup_eq_none_iff.mpr (by simpa [propertyDemands] using hnamed)
    rw [hother]
    rfl

end SearchRequest

end ToolDiscovery
