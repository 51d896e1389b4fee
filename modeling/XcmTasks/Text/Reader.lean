/-!
Readers. A reader takes a part off the front of a text, or finds none there.
-/

namespace XcmTasks

abbrev Reader := StateT (List Char) Option

namespace Reader

def fail {α : Type} : Reader α := fun _ => none

def rest : Reader (List Char) := get

def next? : Reader (Option Char) := return (← rest).head?

def char (c : Char) : Reader Unit
  | [] => none
  | d :: cs => if c = d then some ((), cs) else none

def takeWhile (p : Char → Bool) : Reader (List Char) := fun cs =>
  some (cs.takeWhile p, cs.dropWhile p)

def skips (word : String) : Reader Bool := fun cs =>
  let w := word.toList
  if w.isPrefixOf cs then some (true, cs.drop w.length) else some (false, cs)

/-- What a reader makes of a whole text. -/
def whole {α : Type} (reader : Reader α) (cs : List Char) : Option α :=
  match reader cs with
  | some (a, []) => some a
  | _ => none

end Reader

end XcmTasks
