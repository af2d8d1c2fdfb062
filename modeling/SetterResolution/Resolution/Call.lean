import SetterResolution.Attribute
import SetterResolution.Method

/-!
# Calls

A call is the answer of a resolution: the method to call and, for every attribute that it sets, what
is done to the value before it is passed. Rendering a call puts it into the text of the host
language; it needs the expression of the view and one expression for each attribute.
-/

namespace SetterResolution

/-- What is done to a value before it is passed. -/
inductive Wrapper where
  /-- Nothing. -/
  | none
  /-- It is converted by a static method. -/
  | convert (method : Method)
  /-- It is cast. -/
  | cast (type : HostType)
  deriving DecidableEq, Repr

/-- The expression of a wrapped value. -/
def Wrapper.wrap (wrapper : Wrapper) (value : String) : String :=
  match wrapper with
  | none => value
  | convert method => method.callName ++ "(" ++ value ++ ")"
  | cast type => "(" ++ type.text ++ ") " ++ value

/-- A call that sets one attribute or several. -/
inductive Call where
  /-- A method of the view. -/
  | direct (attr : Attribute) (method : String) (wrapper : Wrapper) (minApi : UInt32)
  /-- A static adapter that takes the view and one value. -/
  | adapter (attr : Attribute) (method : Method) (wrapper : Wrapper) (minApi : UInt32)
  /-- A static adapter that takes the view and a value for each attribute, in the order of its
  parameters. -/
  | group (attrs : List Attribute) (method : Method) (wrappers : List Wrapper) (minApi : UInt32)
  /-- The conventional setter, when nothing was found. -/
  | fallback (attr : Attribute) (method : String) (minApi : UInt32)
  deriving DecidableEq, Repr

/-- Why a call was not rendered. -/
inductive RenderError where
  /-- The number of values is not that of the attributes. -/
  | valueCount (method : String) (expected found : Nat)
  deriving DecidableEq, Repr

/-- What is said when a call is not rendered. -/
def RenderError.message : RenderError → String
  | valueCount method expected found =>
    "call to " ++ method ++ " needs " ++ toString expected ++ " value(s), received " ++
      toString found

namespace Call

/-- The attributes that a call sets, in the order of their values. -/
def attrs : Call → List Attribute
  | direct attr .. | adapter attr .. | fallback attr .. => [attr]
  | group attrs .. => attrs

/-- How many values a call takes. -/
def arity (call : Call) : Nat :=
  call.attrs.length

/-- What is done to each value. -/
def wrappers : Call → List Wrapper
  | direct _ _ wrapper _ | adapter _ _ wrapper _ => [wrapper]
  | group _ _ wrappers _ => wrappers
  | fallback .. => []

/-- The lowest platform version that has the call. -/
def minApi : Call → UInt32
  | direct _ _ _ minApi | adapter _ _ _ minApi | group _ _ _ minApi | fallback _ _ minApi => minApi

/-- Whether a call was made up because nothing was found. -/
def isFallback : Call → Bool
  | fallback .. => true
  | _ => false

/-- The name of the method that is called. -/
def methodName : Call → String
  | direct _ name _ _ | fallback _ name _ => name
  | adapter _ method _ _ | group _ method _ _ => method.name

/-- The static method that is called, for adapters. -/
def adapterMethod? : Call → Option Method
  | adapter _ method _ _ | group _ method _ _ => some method
  | _ => none

/-- The expression that is called. -/
def callee (call : Call) (target : String) : String :=
  match call.adapterMethod? with
  | some method => method.callName
  | none => target ++ "." ++ call.methodName

/-- The expressions that are passed. A static adapter takes the view first. -/
def arguments (call : Call) (target : String) (values : List String) : List String :=
  match call with
  | direct _ _ wrapper _ => values.map wrapper.wrap
  | adapter _ _ wrapper _ => target :: values.map wrapper.wrap
  | group _ _ wrappers _ => target :: List.zipWith Wrapper.wrap wrappers values
  | fallback .. => values

/-- The text of a call on `target` with one expression for each attribute. -/
def render (call : Call) (target : String) (values : List String) : Except RenderError String :=
  if values.length ≠ call.arity then
    .error (.valueCount call.methodName call.arity values.length)
  else
    .ok (call.callee target ++ "(" ++ ", ".intercalate (call.arguments target values) ++ ")")

end Call

end SetterResolution
