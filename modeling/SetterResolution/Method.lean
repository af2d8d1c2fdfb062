import SetterResolution.HostType

/-!
# Methods

A `Method` is the identity of a method: the type that declares it and its name. Registry entries
are methods, and the declaring type is the owner by which stale entries are found again. A
`Signature` is all that is known about a method of the hierarchy or of a declaration.
-/

namespace SetterResolution

/-- The version of the host platform that every call needs at least. -/
def lowestPlatform : UInt32 := 1

/-- The identity of a method. -/
structure Method where
  /-- The type that declares the method. -/
  owner : HostType
  /-- The simple name of the method. -/
  name : String
  deriving DecidableEq, Repr

namespace Method

/-- The method as it is called on its type. -/
def callName (method : Method) : String :=
  method.owner.text ++ "." ++ method.name

/-- The method as it is shown. -/
def text (method : Method) : String :=
  method.callName ++ "()"

/-- Methods are ordered by owner, then by name. -/
protected def compare : Method → Method → Ordering :=
  compareLex (compareOn owner) (compareOn name)

instance : Ord Method := ⟨Method.compare⟩

instance : Std.TransOrd Method :=
  inferInstanceAs (Std.TransCmp (compareLex (compareOn owner) (compareOn name)))

instance : Std.LawfulEqOrd Method where
  eq_of_compare {a b} h := by
    obtain ⟨ho, hn⟩ := compareLex_eq_eq.mp h
    have ho : a.owner = b.owner := Std.LawfulEqOrd.eq_of_compare ho
    have hn : a.name = b.name := Std.LawfulEqOrd.eq_of_compare hn
    cases a; cases b; simp_all

end Method

/-- What is known about a method. -/
structure Signature where
  /-- The type that declares the method. -/
  owner : HostType
  /-- The simple name of the method. -/
  name : String
  /-- The parameter types. -/
  params : List HostType
  /-- The type of the result, if the method declares one. -/
  returns : Option HostType
  /-- Whether the method is public. -/
  isPublic : Bool
  /-- Whether the method is static. -/
  isStatic : Bool
  /-- The lowest platform version that has the method. -/
  minApi : UInt32
  deriving DecidableEq, Repr

namespace Signature

/-- A public instance method without result that takes one value. -/
def setter (owner : HostType) (name : String) (param : HostType) : Signature where
  owner := owner
  name := name
  params := [param]
  returns := none
  isPublic := true
  isStatic := false
  minApi := lowestPlatform

/-- Whether a method gives no value. -/
def isVoid (signature : Signature) : Bool :=
  signature.returns.all HostType.isVoid

/-- The identity of the method. -/
def method (signature : Signature) : Method :=
  ⟨signature.owner, signature.name⟩

end Signature

end SetterResolution
