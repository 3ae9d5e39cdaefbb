/-!
# Encoded forms of ranges of characters

The encoded forms of the characters of a range are not one range of byte sequences. `utf8Forms` cuts
the range into as few parts as possible such that the forms of each part are a product of ranges of
bytes, one range for each byte.
-/

namespace ToolDiscovery.Text

/-- The code points at which the encoded forms become longer. -/
def formStarts : List Nat := [0x80, 0x800, 0x10000]

/-- How many code points share all bytes of their forms but the last one, two or three. -/
def blockSizes : List Nat := [64, 64 * 64, 64 * 64 * 64]

/-- Where a range has to be cut because it reaches from one block into another one and does not hold
both of them. -/
def blockCut? (first last size : Nat) : Option Nat :=
  if first / size = last / size then none
  else if first % size ≠ 0 then some ((first / size + 1) * size)
  else if last % size ≠ size - 1 then some (last / size * size)
  else none

/-- Where a range has to be cut first. -/
def formCut? (first last : Nat) : Option Nat :=
  (formStarts.find? fun start => first < start ∧ start ≤ last).or
    (if last < 0x80 then none else blockSizes.findSome? (blockCut? first last))

/-- The bytes of the form of a code point. -/
def utf8Bytes (n : Nat) : List Nat := (String.utf8EncodeChar (Char.ofNat n)).map UInt8.toNat

/-- The encoded forms of the characters from one code point to another one, in ascending order. Each
form is a range for every byte. There must be no surrogates in the range. -/
def utf8Forms (first last : Nat) : List (List (Nat × Nat)) :=
  match formCut? first last with
  | some cut =>
    if first < cut ∧ cut ≤ last then utf8Forms first (cut - 1) ++ utf8Forms cut last else []
  | none => [(utf8Bytes first).zip (utf8Bytes last)]
termination_by last - first
decreasing_by all_goals omega

end ToolDiscovery.Text
