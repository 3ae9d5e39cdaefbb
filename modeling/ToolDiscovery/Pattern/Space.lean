import ToolDiscovery.Pattern.Layout
import Std.Data.HashMap

/-!
# The space that matchers take

A matcher for an expression consists of two automata over bytes, one for each reading direction. An
automaton takes a fixed space for every state, and more for the ways out of states that have
several. It is laid out state by state, and given up as soon as it takes more than `maxSpace`.
States of one class that do the same are shared as long as they are remembered; the memory has a
limited number of slots, and the slot depends on the numbers of the states.
-/

namespace ToolDiscovery.Pattern

/-- The greatest space that an automaton may take, in bytes. -/
def maxSpace : Nat := 10 * 1024 * 1024

/-- What has been laid out of an automaton. -/
structure Meter where
  /-- The number of states. It is the number of the next state too. -/
  states : Nat := 0
  /-- The space that ways out of states take, in bytes. -/
  ways : Nat := 0

/-- The space that an automaton takes, in bytes. -/
def Meter.space (meter : Meter) : Nat := 32 * meter.states + meter.ways

/-- Lays out a part of an automaton; nothing if it takes too much space. -/
abbrev Build (α : Type) := Meter → Option (α × Meter)

namespace Build

/-- Adds states and the space of ways out of them. The number of the first state is given. -/
def charge (states ways : Nat) : Build Nat := fun meter =>
  let after : Meter := ⟨meter.states + states, meter.ways + ways⟩
  if after.space ≤ maxSpace then some (meter.states, after) else none

/-- Adds a state with a way out for each of some byte ranges. -/
def byteState (ranges : Nat) : Build Nat := charge 1 (8 * ranges)

/-- Adds ways out of states that choose between several. -/
def choices (count : Nat) : Build Unit := fun meter => (charge 0 (4 * count) meter).map ((), ·.2)

/-- Lays out nothing. -/
def done {α : Type} (result : α) : Build α := fun meter => some (result, meter)

/-- Lays out one part and then another one that depends on the result. -/
def andThen {α β : Type} (first : Build α) (next : α → Build β) : Build β := fun meter =>
  match first meter with
  | some (result, meter) => next result meter
  | none => none

instance : Monad Build where
  pure := done
  bind := andThen

end Build

/-! ## Remembered states -/

/-- Slots of states that are remembered with what they do. -/
structure Memory (α : Type) where
  /-- The number of slots. -/
  slots : Nat
  /-- What is in the slots: a way of doing and the number of the state that does so. -/
  filled : Std.HashMap Nat (α × Nat) := {}

namespace Memory

/-- The slot of some numbers. -/
def slot {α : Type} (memory : Memory α) (numbers : List Nat) : Nat :=
  let mixed := numbers.foldl (fun h n => (h ^^^ n.toUInt64) * 1099511628211)
    (14695981039346656037 : UInt64)
  mixed.toNat % memory.slots

/-- The number of the state in a slot that does what is wanted. -/
def find? {α : Type} [BEq α] (memory : Memory α) (slot : Nat) (wanted : α) : Option Nat :=
  match memory.filled[slot]? with
  | some (kept, state) => if kept == wanted then some state else none
  | none => none

/-- Puts a state into a slot. -/
def keep {α : Type} (memory : Memory α) (slot : Nat) (kept : α) (state : Nat) : Memory α :=
  { memory with filled := memory.filled.insert slot (kept, state) }

end Memory

/-! ## Classes -/

/-- The ways out of a state: byte ranges, each with the state that it leads to. -/
abbrev Ways := List ((Nat × Nat) × Nat)

mutual

/-- Adds the states of a tree of byte ranges that all lead to one state, and gives the number of the
first of them. -/
def ByteTree.build (target : Nat) : ByteTree → Memory Ways → Build (Nat × Memory Ways)
  | node branches, memory =>
    match branches with
    | [] => Build.done (target, memory)
    | branches => do
      let (ways, memory) ← buildWays target branches memory
      let slot := memory.slot (ways.flatMap fun ((first, last), next) => [first, last, next])
      match memory.find? slot ways with
      | some state => pure (state, memory)
      | none =>
        let state ← Build.byteState ways.length
        pure (state, memory.keep slot ways state)

/-- Adds the states of the branches of a tree. -/
def ByteTree.buildWays (target : Nat) :
    List ((Nat × Nat) × ByteTree) → Memory Ways → Build (Ways × Memory Ways)
  | [], memory => Build.done ([], memory)
  | (range, tree) :: rest, memory => do
    let (state, memory) ← tree.build target memory
    let (ways, memory) ← buildWays target rest memory
    pure ((range, state) :: ways, memory)

end

/-- Adds the states of a form that is read backwards, from the state on that is reached last. -/
def buildForm : (form : List (Nat × Nat)) → (reached : Nat) → Memory (Nat × Nat × Nat) →
    Build (Nat × Memory (Nat × Nat × Nat))
  | [], reached, memory => Build.done (reached, memory)
  | (first, last) :: rest, reached, memory =>
    let slot := memory.slot [reached, first, last]
    match memory.find? slot (reached, first, last) with
    | some state => buildForm rest state memory
    | none => do
      let state ← Build.byteState 0
      buildForm rest state (memory.keep slot (reached, first, last) state)

/-- Adds the states of forms that are read backwards, with a choice between them. -/
def buildForms (target : Nat) :
    (forms : List (List (Nat × Nat))) → Memory (Nat × Nat × Nat) → Build Unit
  | [], _ => Build.done ()
  | form :: rest, memory => do
    let (_, memory) ← buildForm form target memory
    Build.choices 1
    buildForms target rest memory

/-- Adds the states of a class. -/
def CodedClass.build (members : CodedClass) (backwards : Bool) : Build Unit := do
  if members.ranges.all (·.2 < 128) then
    let _ ← Build.charge 1 0
    let _ ← Build.byteState members.ranges.length
  else if backwards then
    let choice ← Build.charge 2 0
    buildForms (choice + 1) members.forms { slots := 1000 }
  else
    let target ← Build.charge 1 0
    let _ ← members.tree.build target { slots := 10000 }

/-! ## Alternatives of texts -/

/-- Texts, put together where they begin alike. Where a text ends, the branches so far are closed,
and longer texts that are added later have branches of their own. -/
inductive TextTree where
  /-- The closed groups of branches, and the group that is still open. -/
  | node (closed : List (List (Nat × TextTree))) (opened : List (Nat × TextTree))
deriving Inhabited

namespace TextTree

/-- Puts the tree of a byte among the branches, in ascending order of the bytes. -/
def place (byte : Nat) (tree : TextTree) : List (Nat × TextTree) → List (Nat × TextTree)
  | [] => [(byte, tree)]
  | (other, found) :: rest =>
    if byte < other then (byte, tree) :: (other, found) :: rest
    else if byte = other then (byte, tree) :: rest
    else (other, found) :: place byte tree rest

/-- Adds a text. -/
def insert : (bytes : List Nat) → TextTree → TextTree
  | [], node closed opened =>
    if !closed.isEmpty && opened.isEmpty && closed.all List.isEmpty then node closed opened
    else node (closed ++ [opened]) []
  | byte :: rest, node closed opened =>
    let below := (opened.lookup byte).getD (node [] [])
    node closed (place byte (insert rest below) opened)

/-- Whether nothing may follow. -/
def isLeaf : TextTree → Bool
  | node closed opened => opened.isEmpty && closed.all List.isEmpty

/-- The space of the ways out of the state that reads the bytes of a group, and of the way to it. -/
def groupWays (group : List (Nat × TextTree)) : Nat :=
  if group.length ≤ 1 then 4 * group.length else 4 + 8 * group.length

mutual

/-- Adds the states of a tree: one to choose between its groups, and one for each group. -/
def build : TextTree → Build Unit
  | node closed opened => do
    if opened.isEmpty && closed.all List.isEmpty then Build.done ()
    else
      let groups := opened :: closed
      let _ ← Build.charge (1 + (groups.filter (!·.isEmpty)).length)
        (4 * closed.length + (groups.map groupWays).sum)
      buildGroups closed
      buildBranches opened

/-- Adds the states of the trees in several groups. -/
def buildGroups : List (List (Nat × TextTree)) → Build Unit
  | [] => Build.done ()
  | group :: rest => do
    buildBranches group
    buildGroups rest

/-- Adds the states of the trees in a group. -/
def buildBranches : List (Nat × TextTree) → Build Unit
  | [] => Build.done ()
  | (_, tree) :: rest => do
    tree.build
    buildBranches rest

end

/-- The tree of some texts. -/
def ofTexts (texts : List (List Nat)) : TextTree :=
  texts.foldl (fun tree text => tree.insert text) (node [] [])

end TextTree

/-! ## Expressions -/

/-- Adds a part as many times as wanted after a part that has been added. Where a part ends in a
choice, the way to the next one takes space. Like the parts, this says whether the end is a
choice. -/
def Build.more (part : Build Bool) : (count : Nat) → (chosen : Bool) → Build Bool
  | 0, chosen, meter => some (chosen, meter)
  | count + 1, chosen, meter =>
    match part meter with
    | none => none
    | some (next, meter) =>
      match Build.choices chosen.toNat meter with
      | none => none
      | some (_, meter) => more part count next meter

/-- Adds a part as many times as wanted. -/
def Build.times (part : Build Bool) (count : Nat) : Build Bool := do
  if count = 0 then
    let _ ← Build.charge 1 0
    pure false
  else Build.more part (count - 1) (← part)

/-- Adds a part up to as many times as wanted, each of which may be left out with all that
follow. -/
def Build.upTo (part : Build Bool) : (count : Nat) → (chosen : Bool) → Build Bool
  | 0, chosen, meter => some (chosen, meter)
  | count + 1, chosen, meter =>
    match Build.charge 1 (8 + 4 * chosen.toNat) meter with
    | none => none
    | some (_, meter) =>
      match part meter with
      | none => none
      | some (next, meter) => upTo part count next meter

/-- Adds a part that may be repeated without end. -/
def Build.repeated (part : Build Bool) (mayBeEmpty : Bool) (least : Nat) : Build Bool := do
  match least with
  | 0 =>
    if mayBeEmpty then
      let chosen ← part
      let _ ← Build.charge 3 (16 + 4 * chosen.toNat)
      pure false
    else
      let _ ← Build.charge 1 4
      let chosen ← part
      Build.choices chosen.toNat
      pure true
  | 1 =>
    let chosen ← part
    let _ ← Build.charge 1 (4 + 4 * chosen.toNat)
    pure true
  | least + 2 =>
    let before ← Build.times part (least + 1)
    let chosen ← part
    let _ ← Build.charge 1 (4 + 4 * before.toNat + 4 * chosen.toNat)
    pure true

/-- Adds a part between the given bounds. -/
def Build.between (part : Build Bool) (least most : Nat) : Build Bool := do
  if least = 0 ∧ most = 1 then
    let _ ← Build.charge 1 8
    let chosen ← part
    let _ ← Build.charge 1 (4 * chosen.toNat)
    pure false
  else
    let chosen ← Build.times part least
    if least = most then pure chosen
    else
      let _ ← Build.charge 1 0
      let chosen ← Build.upTo part (most - least) chosen
      Build.choices chosen.toNat
      pure false

/-- A text, if a layout is one. -/
def Layout.text? : Layout → Option (List Char)
  | literal text => some text
  | _ => none

/-- The bytes of a text. -/
def textBytes (text : List Char) : List Nat := text.flatMap fun c => Text.utf8Bytes c.toNat

mutual

/-- Adds the states of a layout, and says whether the last one is a choice. -/
def Layout.build (backwards : Bool) : Layout → Build Bool
  | empty | look _ => do
    let _ ← Build.charge 1 0
    pure false
  | literal text => do
    let _ ← Build.charge (textBytes text).length 0
    pure false
  | chars members => do
    members.build backwards
    pure false
  | repeated a least none =>
    Build.repeated (a.build backwards) (a.isFailing || a.admitsEmpty) least
  | repeated a least (some most) => Build.between (a.build backwards) least most
  | group a =>
    if backwards then a.build backwards
    else do
      let _ ← Build.charge 1 0
      let chosen ← a.build backwards
      let _ ← Build.charge 1 (4 * chosen.toNat)
      pure false
  | sequence parts => do return (← buildParts backwards parts).getD false
  | either options =>
    match options.mapM Layout.text? with
    | some texts => do
      let _ ← Build.charge 1 0
      (TextTree.ofTexts (texts.map fun text =>
        if backwards then (textBytes text).reverse else textBytes text)).build
      pure false
    | none => do
      buildOptions backwards 0 options
      pure false

/-- Adds the states of the parts of a sequence in the reading direction. Nothing is said about the
end of no parts. -/
def Layout.buildParts (backwards : Bool) : List Layout → Build (Option Bool)
  | [] => Build.done none
  | a :: rest =>
    if backwards then do
      let after? ← buildParts backwards rest
      let chosen ← a.build backwards
      Build.choices (after?.getD false).toNat
      pure (some chosen)
    else do
      let chosen ← a.build backwards
      match ← buildParts backwards rest with
      | none => pure (some chosen)
      | some last =>
        Build.choices chosen.toNat
        pure (some last)

/-- Adds the states of the options of an alternative from the given index on. The choice between
them and the common end come after the second one. -/
def Layout.buildOptions (backwards : Bool) (index : Nat) : List Layout → Build Unit
  | [] => Build.done ()
  | a :: rest => do
    let chosen ← a.build backwards
    Build.choices (1 + chosen.toNat)
    if index = 1 then
      let _ ← Build.charge 2 0
    buildOptions backwards (index + 1) rest

end

/-- Adds the states of a whole automaton. Unless what is looked for lies at an end of the text, it
is looked for everywhere, for which there is a loop at the start. -/
def Layout.buildAll (layout : Layout) (backwards : Bool) : Build Unit := do
  if layout.isAnchored (if backwards then .right else .left) then
    let _ ← Build.charge 1 0
  else
    let _ ← Build.charge 3 16
  let chosen ← (if backwards then layout else group layout).build backwards
  let _ ← Build.charge 1 (4 * chosen.toNat)

/-- Whether neither of the automata for an expression takes too much space. -/
def Layout.fits (layout : Layout) : Bool :=
  (layout.buildAll false {}).isSome && (layout.buildAll true {}).isSome

end ToolDiscovery.Pattern
