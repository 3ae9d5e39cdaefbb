import ToolDiscovery.Pattern.Expr
import ToolDiscovery.Pattern.Threshold
import ToolDiscovery.Text.Utf8Form

/-!
# Layouts of expressions

Before a matcher is built for an expression, the expression is brought into a simpler form with the
same meaning, its `Layout`. Characters that stand alone are joined into literal texts, alternatives
of single characters into one class, what alternatives begin with is taken out of them, and
repetitions that make no difference are left out.
-/

namespace ToolDiscovery.Pattern

/-- Products of byte ranges, put together where they begin alike. -/
inductive ByteTree where
  /-- What may come next, each with what comes after it. -/
  | node (branches : List ((Nat × Nat) × ByteTree))
deriving Inhabited

/-- Puts byte forms together. The depth is at least the number of ranges in a form. -/
def ByteTree.ofForms : (depth : Nat) → List (List (Nat × Nat)) → ByteTree
  | 0, _ => node []
  | depth + 1, forms =>
    let groups := (forms.filter (!·.isEmpty)).splitBy fun a b => a.head? == b.head?
    node (groups.filterMap fun group => do
      let range ← (← group.head?).head?
      return (range, ofForms depth (group.map List.tail)))

/-- A class with the byte forms of its characters. -/
structure CodedClass where
  /-- The ranges of the class in ascending order. -/
  ranges : List (Nat × Nat)
  /-- The byte forms of the characters. -/
  forms : List (List (Nat × Nat)) := ranges.flatMap fun (first, last) => Text.utf8Forms first last
  /-- The byte forms put together. -/
  tree : ByteTree := .ofForms 4 forms

/-- A pattern expression in the form from which a matcher is built. -/
inductive Layout where
  /-- The empty text. -/
  | empty
  /-- A text itself, which is not empty. -/
  | literal (text : List Char)
  /-- One character of a class. -/
  | chars (members : CodedClass)
  /-- The empty text at certain places. -/
  | look (condition : Look)
  /-- At least `least` times, and at most `most?` times if that is given. -/
  | repeated (a : Layout) (least : Nat) (most? : Option Nat)
  /-- A part where what matches it is remembered. -/
  | group (a : Layout)
  /-- One after the other, at least two parts. -/
  | sequence (parts : List Layout)
  /-- One of several, at least two. -/
  | either (options : List Layout)
deriving Inhabited

namespace Layout

/-! ## What layouts describe -/

mutual

/-- Whether nothing is known about the length of the texts that are described, since no text is. -/
def isFailing : Layout → Bool
  | chars members => members.ranges.isEmpty
  | repeated a _ _ | group a => a.isFailing
  | sequence parts | either parts => anyFailing parts
  | _ => false

/-- Whether one of several layouts is failing. -/
def anyFailing : List Layout → Bool
  | [] => false
  | a :: rest => a.isFailing || anyFailing rest

end

mutual

/-- Whether the empty text may be described. -/
def admitsEmpty : Layout → Bool
  | empty | look _ => true
  | literal _ | chars _ => false
  | repeated a least _ => least = 0 || a.admitsEmpty
  | group a => a.admitsEmpty
  | sequence parts => allAdmitEmpty parts
  | either options => anyAdmitsEmpty options

/-- Whether all of several layouts admit the empty text. -/
def allAdmitEmpty : List Layout → Bool
  | [] => true
  | a :: rest => a.admitsEmpty && allAdmitEmpty rest

/-- Whether one of several layouts admits the empty text. -/
def anyAdmitsEmpty : List Layout → Bool
  | [] => false
  | a :: rest => a.admitsEmpty || anyAdmitsEmpty rest

end

mutual

/-- Whether only the empty text is described. -/
def isPlace : Layout → Bool
  | empty | look _ => true
  | literal _ | chars _ => false
  | repeated a _ most? => most?.isSome && a.isPlace
  | group a => a.isPlace
  | sequence parts | either parts => allPlaces parts

/-- Whether several layouts describe only the empty text. -/
def allPlaces : List Layout → Bool
  | [] => true
  | a :: rest => a.isPlace && allPlaces rest

end

/-- Which end of a text is meant. -/
inductive Side where
  | left
  | right
deriving DecidableEq

mutual

/-- Whether what is described lies at an end of the whole text. -/
def isAnchored (side : Side) : Layout → Bool
  | look .textStart => side = .left
  | look .textEnd => side = .right
  | repeated a least _ => 0 < least && a.isAnchored side
  | group a => a.isAnchored side
  | sequence parts => someAnchored side parts
  | either options => allAnchored side options
  | _ => false

/-- Whether one of the parts is anchored that take no room, or the one that is next to them. -/
def someAnchored (side : Side) : List Layout → Bool
  | [] => false
  | a :: rest =>
    match side with
    | .left => a.isAnchored side || (a.isPlace && someAnchored side rest)
    | .right => someAnchored side rest || (allPlaces rest && a.isAnchored side)

/-- Whether all of several layouts are anchored. -/
def allAnchored (side : Side) : List Layout → Bool
  | [] => true
  | a :: rest => a.isAnchored side && allAnchored side rest

end

mutual

/-- Whether two layouts are the same. Groups never are, since each is remembered for itself. -/
def same : Layout → Layout → Bool
  | empty, empty => true
  | literal a, literal b => a == b
  | chars a, chars b => a.ranges == b.ranges
  | look a, look b => a = b
  | repeated a least most?, repeated b least' most?' =>
    a.same b && least == least' && most? == most?'
  | sequence as, sequence bs | either as, either bs => allSame as bs
  | _, _ => false

/-- Whether two lists of layouts are the same. -/
def allSame : List Layout → List Layout → Bool
  | [], [] => true
  | a :: as, b :: bs => a.same b && allSame as bs
  | _, _ => false

end

/-! ## Making layouts -/

/-- The class of some ranges. A class of one character is a text. -/
def ofRanges (ranges : List (Nat × Nat)) : Layout :=
  match ranges with
  | [(first, last)] => if first = last then literal [Char.ofNat first] else chars { ranges }
  | _ => chars { ranges }

/-- A repetition. What only describes the empty text need not be repeated. -/
def ofRepeated (a : Layout) (least : Nat) (most? : Option Nat) : Layout :=
  let (least, most?) :=
    if a.isPlace then (min least 1, some (min (most?.getD 1) 1)) else (least, most?)
  if most? = some 0 then empty
  else if least = 1 ∧ most? = some 1 then a
  else repeated a least most?

/-- The parts of a sequence. -/
def parts : Layout → List Layout
  | empty => []
  | sequence parts => parts
  | a => [a]

/-- Puts a part before others. Texts that meet are joined. -/
def prepend (a : Layout) (rest : List Layout) : List Layout :=
  match a, rest with
  | literal text, literal next :: rest => literal (text ++ next) :: rest
  | _, _ => a :: rest

/-- The sequence of some parts. -/
def ofParts (layouts : List Layout) : Layout :=
  match (layouts.flatMap parts).foldr prepend [] with
  | [] => empty
  | [a] => a
  | parts => sequence parts

/-- The options of an alternative. -/
def options : Layout → List Layout
  | either options => options
  | a => [a]

/-- The code point of a text of one character. -/
def singleCode? : Layout → Option Nat
  | literal [c] => some c.toNat
  | _ => none

/-- The ranges of a class. -/
def classRanges? : Layout → Option (List (Nat × Nat))
  | chars members => some members.ranges
  | _ => none

/-- How many parts two lists have in common at their start. -/
def commonLength : List Layout → List Layout → Nat
  | a :: as, b :: bs => if a.same b then commonLength as bs + 1 else 0
  | _, _ => 0

/-- What several sequences begin with, if all are sequences and have something in common. -/
def commonStart? (options : List Layout) : Option (List Layout) := do
  let lists ← options.mapM fun
    | sequence parts => some parts
    | _ => none
  let first ← lists.head?
  let length := lists.tail.foldl (fun n list => min n (commonLength first list)) first.length
  if length = 0 then none else some (first.take length)

/-- The alternative of some options, all of which are laid out. The fuel is at least the number of
parts that options may have in common. -/
def ofOptions : (fuel : Nat) → List Layout → Layout
  | 0, layouts => either layouts
  | fuel + 1, layouts =>
    match layouts.flatMap options with
    | [a] => a
    | all =>
      match all.mapM singleCode?, all.mapM classRanges?, commonStart? all with
      | some codes, _, _ => ofRanges (Threshold.toRanges (Threshold.ofCodes codes))
      | none, some classes, _ =>
        ofRanges (Threshold.toRanges
          (classes.foldl (fun a ranges => Threshold.union a (Threshold.ofRanges ranges)) []))
      | none, none, some start =>
        let rests := all.map fun a => ofParts (a.parts.drop start.length)
        ofParts (start ++ [ofOptions fuel rests])
      | none, none, none => either all

end Layout

mutual

/-- The layout of an expression. -/
def Expr.layout : Expr → Layout
  | empty => .empty
  | chars set => .ofRanges set.members.codeRanges
  | look condition => .look condition
  | around _ a => a.layout
  | group remembered a => if remembered then .group a.layout else a.layout
  | sequence a b => .ofParts [a.layout, b.layout]
  | either a b =>
    let layouts := a.layout :: b.optionLayouts
    let partCount := layouts.foldl (fun n a => max n a.parts.length) 0
    .ofOptions (partCount + 1) layouts
  | repeated a least most? => .ofRepeated a.layout least most?

/-- The layouts of the alternatives that an expression is made of. -/
def Expr.optionLayouts : Expr → List Layout
  | either a b => a.layout :: b.optionLayouts
  | a => [a.layout]

end

end ToolDiscovery.Pattern
