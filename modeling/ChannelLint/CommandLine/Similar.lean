/-!
# Similar words

How alike two words are: twice the number of characters in common blocks over the number of all
characters. The common blocks are the longest one, the earliest if there are several, and those to
its left and to its right in the same way.
-/

namespace ChannelLint.CommandLine

/-- The length of the common start of two words. -/
def commonStart : List Char → List Char → Nat
  | a :: as, b :: bs => if a == b then commonStart as bs + 1 else 0
  | _, _ => 0

/-- A block that two words have in common. -/
structure Block where
  /-- The number of characters before it in the first word. -/
  left : Nat
  /-- The number of characters before it in the second word. -/
  right : Nat
  /-- Its length. -/
  size : Nat
  deriving DecidableEq, Repr

/-- The longest common block, the earliest in the first word and then in the second. -/
def longestBlock (a b : List Char) : Block :=
  let starts := (List.range a.length).flatMap fun left =>
    (List.range b.length).map fun right => (left, right)
  starts.foldl (fun best (left, right) =>
    let size := commonStart (a.drop left) (b.drop right)
    if best.size < size then ⟨left, right, size⟩ else best) ⟨0, 0, 0⟩

/-- The number of characters in common blocks; `fuel` bounds the depth of blocks beside blocks. -/
def commonWithin : Nat → List Char → List Char → Nat
  | 0, _, _ => 0
  | fuel + 1, a, b =>
      let block := longestBlock a b
      if block.size == 0 then 0
      else
        commonWithin fuel (a.take block.left) (b.take block.right) + block.size +
          commonWithin fuel (a.drop (block.left + block.size)) (b.drop (block.right + block.size))

/-- The number of characters in common blocks of two words. -/
def common (a b : List Char) : Nat :=
  commonWithin (a.length + 1) a b

/-- How alike a word is to a given one, as a fraction. -/
structure Likeness where
  /-- The word. -/
  word : String
  /-- Twice the number of common characters. -/
  num : Nat
  /-- The number of all characters. -/
  den : Nat
  deriving DecidableEq, Repr

/-- How alike a word is to the given one. -/
def likeness (given word : String) : Likeness :=
  ⟨word, 2 * common word.toList given.toList, word.length + given.length⟩

/-- Whether the first word is at least as alike; of equally alike words the later one comes
first. -/
def Likeness.before (a b : Likeness) : Bool :=
  if a.num * b.den == b.num * a.den then !(a.word < b.word) else b.num * a.den < a.num * b.den

/-- The words that are alike to the given one by at least three fifths: the three most alike, in
order. -/
def similarWords (given : String) (words : List String) : List String :=
  let alike := (words.map (likeness given)).filter fun entry => 3 * entry.den ≤ 5 * entry.num
  (((alike.mergeSort Likeness.before).take 3).map Likeness.word).mergeSort fun a b => !(b < a)

end ChannelLint.CommandLine
