import ToolDiscovery.Proofs.PrintedValues
import ToolDiscovery.Proofs.Records
import ToolDiscovery.Proofs.Sessions

/-!
# Checkpoints

A session is stored as a JSON text that lists its names. What is read from a text is the set of the
names that it lists, in whatever order (`Session.decodeText_eq_ok`), so a session is read back from
its text, and there is one text for each set of names. `Session.checkpoint_canonical` says this of
all sessions, however they came about and were merged.
-/

namespace ToolDiscovery

namespace Session

open Json (Everywhere Exact Members Record Decoder except_bind_eq_ok)

variable {members : Members} {json : Json} {key text : String} {names : List String}

/-! ## The names that members list -/

/-- Names in JSON. -/
def listing (names : List String) : Json := .array (names.map .string)

/-- The values that the members of an object give for the names of a session. -/
def listings (members : Members) : List Json :=
  (members.filter (·.1 = "expanded_tools")).map (·.2)

theorem listings_names (json : Json) (members : Members) :
    listings (("expanded_tools", json) :: members) = json :: listings members := by
  simp [listings]

theorem listings_other (h : key ≠ "expanded_tools") (json : Json) (members : Members) :
    listings ((key, json) :: members) = listings members := by
  simp [listings, h]

theorem mem_listings (h : ("expanded_tools", json) ∈ members) : json ∈ listings members :=
  List.mem_map_of_mem (List.mem_filter.mpr ⟨h, by simp⟩)

/-- A session has the names that the members of an object list, at most once; where none are listed,
it has none. -/
def ListedIn (members : Members) (session : Session) : Prop :=
  (listings members = [] ∧ session = {}) ∨
    ∃ names, listings members = [listing names] ∧ session = ofNames names

/-! ## What is read -/

theorem record_faithful : record.Faithful := by
  have hnames := Decoder.list_faithful (Decoder.string_faithful "a string") fun _ _ => nofun
  simp only [Record.Faithful, record, List.forall_mem_cons, List.not_mem_nil]
  exact ⟨Decoder.map_faithful (Decoder.map_faithful hnames _) _, nofun⟩

theorem names_fromJson :
    (Decoder.list .string).fromJson json = .ok names ↔ json = listing names := by
  cases json with
  | array items =>
      show items.mapM _ = _ ↔ _
      simp only [Json.mapM_eq_ok, Decoder.string_fromJson, listing, Json.array.injEq]
      rw [← List.forall₂_map_right_iff (R := Eq), List.forall₂_eq_eq_eq]
  | null | boolean | integer | real | string | object => exact iff_of_false nofun nofun

theorem collectMember_other (h : key ≠ "expanded_tools") (draft : Option NameSet) :
    record.collectMember draft (key, json) = .ok draft := by
  have hnone : record.fields.find? (·.name == key) = none := by
    simp [record, Json.Field.of, Ne.symm h]
  unfold Record.collectMember
  rw [hnone]

/-- The names are read once. -/
theorem collectMember_names {draft read : Option NameSet} :
    record.collectMember draft ("expanded_tools", json) = .ok read ↔
      draft = none ∧ ∃ names, json = listing names ∧ read = some (.ofList names) := by
  cases draft with
  | some set => exact iff_of_false nofun nofun
  | none =>
      constructor
      · intro h
        obtain ⟨update, hupdate, hdraft⟩ := except_bind_eq_ok.mp h
        obtain ⟨set, hset, hplace⟩ := except_bind_eq_ok.mp hupdate
        obtain ⟨names, hnames, hof⟩ := except_bind_eq_ok.mp hset
        cases hof
        cases hplace
        cases hdraft
        exact ⟨rfl, names, names_fromJson.mp hnames, rfl⟩
      · rintro ⟨-, names, hjson, rfl⟩
        have hset : ((Decoder.list .string).map NameSet.ofList).fromJson json =
            .ok (.ofList names) :=
          except_bind_eq_ok.mpr ⟨names, names_fromJson.mpr hjson, rfl⟩
        exact except_bind_eq_ok.mpr ⟨_, except_bind_eq_ok.mpr ⟨_, hset, rfl⟩, rfl⟩

/-- Members are collected in a draft if they list the names once, and nothing is in the draft by
then, or do not list them at all. -/
theorem collect_eq_ok {draft read : Option NameSet} :
    members.foldlM record.collectMember draft = .ok read ↔
      (listings members = [] ∧ read = draft) ∨
        draft = none ∧ ∃ names, listings members = [listing names] ∧
          read = some (.ofList names) := by
  -- The first list of names fills the draft, after which there must not be another one.
  induction members generalizing draft with
  | nil =>
      show Except.ok draft = .ok read ↔ _
      simp [listings, eq_comm]
  | cons member members ih =>
      obtain ⟨key, json⟩ := member
      rw [List.foldlM_cons, except_bind_eq_ok]
      by_cases hkey : key = "expanded_tools"
      · subst hkey
        rw [listings_names]
        constructor
        · rintro ⟨update, hstep, hrest⟩
          obtain ⟨rfl, names, rfl, rfl⟩ := collectMember_names.mp hstep
          rcases ih.mp hrest with ⟨hnone, rfl⟩ | ⟨hgiven, -⟩
          · exact .inr ⟨rfl, names, by rw [hnone], rfl⟩
          · cases hgiven
        · rintro (⟨hnone, -⟩ | ⟨rfl, names, hlist, rfl⟩)
          · cases hnone
          · obtain ⟨rfl, hnone⟩ := List.cons.inj hlist
            exact ⟨_, collectMember_names.mpr ⟨rfl, names, rfl, rfl⟩, ih.mpr (.inl ⟨hnone, rfl⟩)⟩
      · rw [listings_other hkey, ← ih]
        constructor
        · rintro ⟨update, hstep, hrest⟩
          rw [collectMember_other hkey] at hstep
          cases hstep
          exact hrest
        · intro hrest
          exact ⟨draft, collectMember_other hkey draft, hrest⟩

/-- A session is made of the members of an object if these list its names. -/
theorem collects_iff {session : Session} :
    (∃ draft, members.foldlM record.collectMember record.blank = .ok draft ∧
        record.finish draft = .ok session) ↔ ListedIn members session := by
  constructor
  · rintro ⟨draft, hcollect, hfinish⟩
    cases hfinish
    rcases collect_eq_ok.mp hcollect with ⟨hnone, rfl⟩ | ⟨-, names, hlist, rfl⟩
    · exact .inl ⟨hnone, rfl⟩
    · exact .inr ⟨names, hlist, rfl⟩
  · rintro (⟨hnone, rfl⟩ | ⟨names, hlist, rfl⟩)
    · exact ⟨none, collect_eq_ok.mpr (.inl ⟨hnone, rfl⟩), rfl⟩
    · exact ⟨_, collect_eq_ok.mpr (.inr ⟨rfl, names, hlist, rfl⟩), rfl⟩

theorem ListedIn.plain {session : Session} (h : ListedIn members session) :
    ∀ field ∈ record.fields, ∀ parts, (field.name, Json.object parts) ∉ members := by
  intro field hfield parts hmem
  obtain rfl := List.mem_singleton.mp hfield
  have hlisted : Json.object parts ∈ listings members := mem_listings hmem
  rcases h with ⟨hnone, -⟩ | ⟨names, hlist, -⟩
  · rw [hnone] at hlisted
    cases hlisted
  · rw [hlist] at hlisted
    cases List.mem_singleton.mp hlisted

/-- From a text that holds an object, the session is read whose names its members list. -/
theorem decodeText_eq_ok {session : Session} (h : Json.writtenMembers text = .ok members) :
    decoder.decodeText text = .ok session ↔ ListedIn members session := by
  constructor
  · intro hdecode
    exact collects_iff.mp (Record.collect_of_decodeText record_faithful h hdecode)
  · intro hlisted
    obtain ⟨draft, hcollect, hfinish⟩ := collects_iff.mpr hlisted
    exact Record.decodeText_of_collect record_faithful h hlisted.plain hcollect hfinish

/-! ## What is printed -/

theorem canonical_listing (names : List String) : (listing names).canonical = listing names := by
  rw [listing, Json.canonical_array, List.map_map]
  rfl

theorem exact_listing (names : List String) : Everywhere Exact (listing names) := by
  refine Everywhere.array_iff.mpr ⟨⟨trivial, nofun⟩, List.forall_mem_map.mpr fun name _ => ?_⟩
  exact .of_no_parts ⟨trivial, nofun⟩ rfl

theorem depthOf_listing (names : List String) : Schema.depthOf (listing names) ≤ 1 := by
  refine Json.depthOf_le_iff.mpr (List.forall_mem_map.mpr fun name _ => ?_)
  exact Nat.le_refl 0

/-- The names that a printed text lists are read. -/
theorem decodeText_listing (names : List String) :
    decoder.decodeText (Json.object [("expanded_tools", listing names)]).compact =
      .ok (ofNames names) := by
  have hdepth : Schema.depthOf (.object [("expanded_tools", listing names)]) < Json.maxDepth := by
    refine Nat.lt_succ_of_le (Json.depthOf_le_iff.mpr (List.forall_mem_singleton.mpr ?_))
    exact Nat.le_trans (depthOf_listing names) (by decide)
  have hwritten : Json.writtenMembers (Json.object [("expanded_tools", listing names)]).compact =
      .ok [("expanded_tools", listing names)] := by
    rw [Json.writtenMembers_compact (List.forall_mem_singleton.mpr (exact_listing names)) hdepth,
      List.map_singleton, canonical_listing]
  exact (decodeText_eq_ok hwritten).mpr (.inr ⟨names, listings_names _ _, rfl⟩)

theorem ofNames_names (session : Session) : ofNames session.unlocked.names = session := by
  refine eq_of_contains_iff fun name => ?_
  rw [contains_ofNames, contains_iff_mem]
  rfl

/-- A session is read back from its text. -/
theorem decodeText_toJson (session : Session) :
    decoder.decodeText session.toJson.compact = .ok session := by
  have hread := decodeText_listing session.unlocked.names
  rw [ofNames_names] at hread
  exact hread

/-- Two sessions have the same text if and only if they contain the same names. -/
theorem compact_toJson_eq_iff {session other : Session} :
    session.toJson.compact = other.toJson.compact ↔
      ∀ name, session.contains name ↔ other.contains name := by
  constructor
  · intro htext name
    have hread := decodeText_toJson session
    rw [htext, decodeText_toJson other, Except.ok.injEq] at hread
    rw [hread]
  · intro hsame
    rw [eq_of_contains_iff hsame]

/-! ## How sessions come about -/

/-- The operations that a session has gone through. -/
inductive History where
  /-- It was started with names. -/
  | start (names : List String)
  /-- A name was unlocked. -/
  | unlock (before : History) (name : String)
  /-- Several names were unlocked. -/
  | unlockMany (before : History) (names : List String)
  /-- Another session was merged into it. -/
  | merge (before other : History)

namespace History

/-- The session in the end. -/
def session : History → Session
  | start names => ofNames names
  | unlock before name => before.session.unlock name
  | unlockMany before names => before.session.unlockMany names
  | merge before other => before.session.merge other.session

/-- The names that the operations have named, with all repetitions. -/
def named : History → List String
  | start names => names
  | unlock before name => before.named ++ [name]
  | unlockMany before names => before.named ++ names
  | merge before other => before.named ++ other.named

/-- A session contains what its operations have named. -/
theorem contains_session {history : History} {name : String} :
    history.session.contains name ↔ name ∈ history.named := by
  induction history with
  | start names => exact contains_ofNames
  | unlock before added ih =>
      rw [session, contains_unlock, ih, named, List.mem_append, List.mem_singleton, or_comm]
  | unlockMany before names ih => rw [session, contains_unlockMany, ih, named, List.mem_append]
  | merge before other ih ihOther =>
      rw [session, contains_merge, ih, ihOther, named, List.mem_append]

end History

/-- An order in which sessions are merged. -/
inductive Merging where
  /-- Nothing is merged. -/
  | nothing
  /-- A session is taken as it is. -/
  | one (part : Session)
  /-- What comes of one order is merged into what comes of another one. -/
  | both (first second : Merging)

namespace Merging

/-- The session in the end. -/
def session : Merging → Session
  | nothing => {}
  | one part => part
  | both first second => first.session.merge second.session

/-- The sessions that are merged, with all repetitions. -/
def parts : Merging → List Session
  | nothing => []
  | one part => [part]
  | both first second => first.parts ++ second.parts

/-- What has been merged contains what some part contains. -/
theorem contains_session {merging : Merging} {name : String} :
    merging.session.contains name ↔ ∃ part ∈ merging.parts, part.contains name := by
  induction merging with
  | nothing => exact iff_of_false nofun nofun
  | one part => simp [session, parts]
  | both first second ihFirst ihSecond =>
      rw [session, contains_merge, ihFirst, ihSecond, parts]
      simp only [List.mem_append, or_and_right, exists_or]

end Merging

/-- The text of a session is read back as that session, whatever it has gone through. It contains
what its operations have named, and two sessions have the same text if and only if they contain the
same names. From a text that lists names, the set of these is read. When sessions are merged, the
text of the result tells only which ones they were. -/
theorem checkpoint_canonical :
    (∀ history : History,
      decoder.decodeText history.session.toJson.compact = .ok history.session ∧
      ∀ name, history.session.contains name ↔ name ∈ history.named) ∧
    (∀ a b : History, a.session.toJson.compact = b.session.toJson.compact ↔
      ∀ name, a.session.contains name ↔ b.session.contains name) ∧
    (∀ names, decoder.decodeText (Json.object [("expanded_tools", listing names)]).compact =
      .ok (ofNames names)) ∧
    (∀ text members names, Json.writtenMembers text = .ok members →
      listings members = [listing names] →
      ∃ session, decoder.decodeText text = .ok session ∧
        ∀ name, session.contains name ↔ name ∈ names) ∧
    ∀ a b : Merging, (∀ session, session ∈ a.parts ↔ session ∈ b.parts) →
      a.session.toJson.compact = b.session.toJson.compact := by
  refine ⟨fun history => ⟨decodeText_toJson _, fun _ => History.contains_session⟩,
    fun a b => compact_toJson_eq_iff, decodeText_listing, fun text members names h hlist => ?_,
    fun a b hparts => ?_⟩
  · exact ⟨ofNames names, (decodeText_eq_ok h).mpr (.inr ⟨names, hlist, rfl⟩),
      fun _ => contains_ofNames⟩
  · refine compact_toJson_eq_iff.mpr fun name => ?_
    simp only [Merging.contains_session, hparts]

/-- A text lists names out of order and more than once, behind a member that nobody asks for. Two
sessions are merged once, and then again in another order and grouping and with one of them
repeated. -/
theorem checkpoint_canonical_repeated :
    let names := ["b", "", "é\n", "b", "é\n"]
    let text := (Json.object [("note", .array [.object [], .null]),
      ("expanded_tools", listing names)]).compact
    let history := ((History.start ["é\n"]).unlockMany ["b", ""]).merge (.start ["b"])
    let a := ofNames ["b", "é\n"]
    let b := ofNames ["", "b"]
    let merging := Merging.both (.one a) (.one b)
    let again := Merging.both (.one b) (.both .nothing merging)
    text = "\x7b\"note\":[\x7b\x7d,null]," ++
        "\"expanded_tools\":[\"b\",\"\",\"é\\n\",\"b\",\"é\\n\"]\x7d" ∧
      (∃ session, decoder.decodeText text = .ok session ∧
        ∀ name, session.contains name ↔ name ∈ names) ∧
      history.session.toJson.compact = "\x7b\"expanded_tools\":[\"\",\"b\",\"é\\n\"]\x7d" ∧
      decoder.decodeText history.session.toJson.compact = .ok history.session ∧
      merging.session.toJson.compact = again.session.toJson.compact := by
  intro names text history a b merging again
  obtain ⟨hhistory, -, -, htext, hmerge⟩ := checkpoint_canonical
  have hnote : Everywhere Exact (.array [.object [], .null]) := by
    simp only [Everywhere.array_iff, List.forall_mem_cons, List.not_mem_nil]
    exact ⟨⟨trivial, nofun⟩, .of_no_parts ⟨trivial, nofun⟩ rfl,
      .of_no_parts ⟨trivial, nofun⟩ rfl, nofun⟩
  have hwritten : Json.writtenMembers text = .ok [("note", .array [.object [], .null]),
      ("expanded_tools", listing names)] :=
    Json.writtenMembers_compact
      (List.forall_mem_cons.mpr ⟨hnote, List.forall_mem_singleton.mpr (exact_listing names)⟩)
      (by decide)
  refine ⟨by decide +kernel, htext text _ names hwritten rfl, by decide +kernel,
    (hhistory history).1, hmerge merging again fun session => ?_⟩
  simp only [merging, again, Merging.parts, List.nil_append, List.mem_append, List.mem_singleton]
  exact ⟨.inr, fun h => h.elim .inr id⟩

end Session

end ToolDiscovery
