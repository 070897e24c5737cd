/-!
# How much alike two words are

The longest run of characters that stands in both words is taken first, of several the one that
starts first in the first word and then in the second; then what stands to its left in both words is
compared in the same way, and what stands to its right. Two words are alike to the degree to which
they consist of such runs.
-/

namespace SchemaMigration.Text.Likeness

/-- A run of characters: where it starts in each word, and its length. -/
structure Run where
  first : Nat
  second : Nat
  length : Nat

/-- How many characters two words share at their front. -/
def sharedFront : List Char → List Char → Nat
  | a :: as, b :: bs => if a = b then sharedFront as bs + 1 else 0
  | _, _ => 0

/-- The longest run that starts at the front of the first word, at any place of the second, the
places being counted from the given one. -/
def longestAtFront (first : Nat) (word : List Char) : Nat → List Char → Run
  | second, [] => ⟨first, second, 0⟩
  | second, c :: rest =>
    let here := sharedFront word (c :: rest)
    let later := longestAtFront first word (second + 1) rest
    if later.length ≤ here then ⟨first, second, here⟩ else later

/-- The longest run that starts at any place of the first word, the places being counted from the
given one. -/
def longest (other : List Char) : Nat → List Char → Run
  | first, [] => ⟨first, 0, 0⟩
  | first, c :: rest =>
    let here := longestAtFront first (c :: rest) 0 other
    let later := longest other (first + 1) rest
    if later.length ≤ here.length then here else later

/-- How many characters of two words stand in runs that they share. -/
def shared : Nat → List Char → List Char → Nat
  | 0, _, _ => 0
  | fuel + 1, a, b =>
    let run := longest b 0 a
    if run.length = 0 then 0
    else
      shared fuel (a.take run.first) (b.take run.second) + run.length +
        shared fuel (a.drop (run.first + run.length)) (b.drop (run.second + run.length))

/-- How much alike two words are: the characters that stand in shared runs, and those that there are
in both words together. -/
def degree (a b : List Char) : Nat × Nat :=
  (2 * shared (a.length + 1) a b, a.length + b.length)

/-- Is the first word at least as much alike to a word as the second, which comes later in the
alphabet if both are equally alike? -/
def beats (word : List Char) (a b : String) : Bool :=
  let (shared, all) := degree a.toList word
  let (shared', all') := degree b.toList word
  shared' * all < shared * all' || (shared' * all = shared * all' && b < a)

/-- The word of a list that is most alike to a word, unless less than three fifths of them are
shared. -/
def closest? (words : List String) (word : String) : Option String :=
  let isClose (candidate : String) : Bool :=
    let (shared, all) := degree candidate.toList word.toList
    3 * all ≤ 5 * shared
  (words.filter isClose).foldl
    (fun best candidate =>
      match best with
      | none => some candidate
      | some other => if beats word.toList candidate other then some candidate else some other)
    none

end SchemaMigration.Text.Likeness
