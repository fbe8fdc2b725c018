import ApiReplay.Path.Basic
import ApiReplay.Service.Message
import ApiReplay.Variables.Basic

/-!
# Resolution of path expressions

An expression without a dot names an attribute of the response (`$status`) or a key of its body.
One with dots is walked segment by segment from the body. The walk ends with nothing where a step
misses, and with an error where it meets a variable that is not bound.

## Main definitions

* `Path.step?`: one step from a tree.
* `Path.walk`: the walk along segments.
* `Path.resolve`: the meaning of an expression.
-/

namespace ApiReplay.Path

/-- The position in an array of a given length that an index stands for. -/
def position? (length : Nat) (index : Int) : Option Nat :=
  if 0 ≤ index then some index.toNat
  else if index.natAbs ≤ length then some (length - index.natAbs)
  else none

/-- One step from a tree along a key or an index. The decimal form of an index names an entry of an
object as well. -/
def step? (tree : Json) : Segment → Option Json
  | .key name => tree.get? name
  | .index i =>
    match tree with
    | .array items => (position? items.length i).bind fun n => items[n]?
    | .object entries => Entries.find? (intText i) entries
    | _ => none
  | .variable _ => none

/-- Walks along segments; `start` is nothing when there is no place to start from. -/
def walk (vars : Variables) (start : Option Json) :
    List Segment → Except UnboundVariable (Option Json)
  | [] => .ok start
  | .variable name :: rest =>
    match vars.lookup name with
    | .ok value => walk vars (some value) rest
    | .error e => .error e
  | segment :: rest =>
    match start.bind fun tree => step? tree segment with
    | some next => walk vars (some next) rest
    | none => .ok none

/-- The name of the attribute that an expression asks for: a dollar sign and small ASCII letters. -/
def attributeName? : List Char → Option (List Char)
  | '$' :: c :: rest => if (c :: rest).all Char.isLower then some (c :: rest) else none
  | _ => none

/-- The value that an expression names; nothing when a step misses. -/
def resolve (vars : Variables) (response : Option Response) (expr : String) :
    Except UnboundVariable (Option Json) :=
  let body := response.bind Response.body?
  if expr.toList.contains '.' then walk vars body (parse expr)
  else
    match attributeName? expr.toList with
    | some name => .ok (response.bind fun r => r.attribute? (String.ofList name))
    | none => .ok (body.bind fun tree => step? tree (.key expr))

end ApiReplay.Path
