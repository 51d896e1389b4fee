/-! Places in a text, with the line and the column that they are in. -/

namespace XcmTasks.Text

structure Cursor where
  rest : List Char
  index : Nat
  line : Nat
  column : Nat

namespace Cursor

def start (cs : List Char) : Cursor := ⟨cs, 0, 0, 0⟩

/-- The place behind the next character. -/
def next (place : Cursor) : Cursor :=
  match place.rest with
  | [] => place
  | '\n' :: cs => ⟨cs, place.index + 1, place.line + 1, 0⟩
  | _ :: cs => ⟨cs, place.index + 1, place.line, place.column + 1⟩

def skip : Nat → Cursor → Cursor
  | 0, place => place
  | n + 1, place => place.next.skip n

def peek? (place : Cursor) : Option Char := place.rest.head?

def takeWhile (p : Char → Bool) (place : Cursor) : List Char × Cursor :=
  let taken := place.rest.takeWhile p
  (taken, place.skip taken.length)

def skipWhile (p : Char → Bool) (place : Cursor) : Cursor := (place.takeWhile p).2

end Cursor

end XcmTasks.Text
