import LambdaCalc.Token
import LambdaCalc.ReadError

namespace LambdaCalc

/-- The elements passed, the last one first, and the elements ahead. -/
structure Cursor (α : Type) where
  passed : List α := []
  ahead : List α
deriving DecidableEq

namespace Cursor

inductive Item where
  | text (s : String)
  | token (t : Token)
deriving DecidableEq

def Item.same : Item → Item → Bool
  | text s, text t => s == t
  | token s, token t => s.same t
  | _, _ => false

def Item.shown : Item → String
  | text s => s
  | token t => t.lexeme.shown

def ofList {α : Type} (source : List α) : Cursor α := { ahead := source }

def ofText (s : String) : Cursor Item := ofList (s.toList.map fun c => .text (String.singleton c))

def source {α : Type} (c : Cursor α) : List α := c.passed.reverse ++ c.ahead

def position {α : Type} (c : Cursor α) : Nat := c.passed.length

def size {α : Type} (c : Cursor α) : Nat := c.source.length

def atEnd {α : Type} (c : Cursor α) : Bool := c.ahead.isEmpty

def peek {α : Type} (c : Cursor α) : Option α := c.ahead.head?

def advance {α : Type} (c : Cursor α) : Option α × Cursor α :=
  match c.ahead with
  | [] => (none, c)
  | a :: rest => (some a, ⟨a :: c.passed, rest⟩)

/-- Advances to the end, as long as `step` takes the elements. -/
def walk {σ ε α : Type} (c : Cursor α) (step : σ → α → Except ε σ) (s : σ) : Except ε (σ × Cursor α) :=
  go c.ahead s c
where
  go : List α → σ → Cursor α → Except ε (σ × Cursor α)
    | [], s, c => .ok (s, c)
    | _ :: rest, s, c =>
      match c.advance with
      | (none, next) => .ok (s, next)
      | (some a, next) => (step s a).bind fun t => go rest t next

/-- The offset behind the last element: where it stops, if it has an offset, else the length. -/
def endOffsetBy {α : Type} (stop? : α → Option Nat) (c : Cursor α) : Nat :=
  match c.source.getLast? with
  | none => 0
  | some a => (stop? a).getD c.size

def Item.stop? : Item → Option Nat
  | token t => some t.stop
  | text _ => none

def endOffset (c : Cursor Item) : Nat := c.endOffsetBy Item.stop?

def expect (c : Cursor Item) (target : Item) : Except ReadError Item × Cursor Item :=
  match c.advance with
  | (none, next) => (.error ⟨.expected target.shown none, some next.endOffset⟩, next)
  | (some actual, next) =>
    if actual.same target then (.ok actual, next)
    else
      let position := match actual with
        | .token t => t.pos
        | .text _ => c.position
      (.error ⟨.expected target.shown (some actual.shown), some position⟩, next)

def display {α : Type} (c : Cursor α) : String :=
  "Cursor(index=" ++ toString c.position ++ ", size=" ++ toString c.size ++ ")"

end Cursor

end LambdaCalc
