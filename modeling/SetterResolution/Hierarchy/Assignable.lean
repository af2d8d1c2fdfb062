import SetterResolution.Hierarchy.Supertypes

/-!
# Assignability, boxing and methods

What a hierarchy answers about types: whether a value of one type may be assigned to another, which
type is the box of a primitive, how deep a type stands and which methods can be called on it.

Generic types are told apart only by their erasure, the name up to the first `<`.
-/

namespace SetterResolution

/-- The type without type arguments. -/
def HostType.erasure : HostType → HostType
  | .prim kind => .prim kind
  | .array element => .array element.erasure
  | .named name => .named (String.ofList (name.toList.takeWhile (· != '<')))

namespace Hierarchy

variable (h : Hierarchy)

/-- Whether a value of type `source` may be assigned to `target`, where neither has type arguments.
A primitive is assigned to itself alone; the root accepts every object; an array accepts the arrays
whose elements its own element type accepts. -/
def acceptsErased : (target source : HostType) → Bool
  | .prim a, .prim b => a == b
  | .array target, .array source => acceptsErased target source
  | .named target, .named source =>
    target == source || h.root == some target || (h.ancestors source).contains target
  | .named target, .array _ => h.root == some target
  | _, _ => false

/-- Whether a value of type `source` may be assigned to `target`. -/
def accepts (target source : HostType) : Bool :=
  h.acceptsErased target.erasure source.erasure

/-- The box of a primitive that has one; every other type stays. -/
def boxed : HostType → HostType
  | .prim kind =>
    match h.boxes[kind]? with
    | some name => .named name
    | none => .prim kind
  | type => type

/-- Whether two types differ only by boxing. -/
def differByBoxing (a b : HostType) : Bool :=
  a.isPrimitive != b.isPrimitive && h.boxed a == h.boxed b

/-- How deep a type stands below the root. A narrower type stands deeper. -/
def depth (type : HostType) : Nat :=
  match type.erasure with
  | .prim _ => 0
  | .array _ => if h.root.isSome then 1 else 0
  | .named name => h.chainLength [] name

/-- The methods that `owner` declares under a name and with so many parameters. -/
def ownMethods (owner name : String) (arity : Nat) : List Signature :=
  (h.entry owner).methods.filter fun method => method.name == name && method.params.length == arity

/-- The methods of a name and a number of parameters that can be called on `owner`, inherited ones
included. Of methods with the same parameters, the one that is declared nearest is listed. -/
def methods (owner : HostType) (name : String) (arity : Nat) : List Signature :=
  match owner.erasure with
  | .named owner =>
    ((owner :: h.ancestors owner).flatMap fun type => h.ownMethods type name arity).eraseDupsBy
      fun a b => a.params == b.params
  | _ => []

/-- Whether a type is a binding container, whose setters are found only when the program runs. -/
def isContainer (type : HostType) : Bool :=
  h.containers.any fun container => h.accepts (.named container) type

end Hierarchy

end SetterResolution
