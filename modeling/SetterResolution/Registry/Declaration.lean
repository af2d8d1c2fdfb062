import SetterResolution.Diagnostic
import SetterResolution.Method
import SetterResolution.Attribute
import Std.Data.ExtTreeSet

/-!
# Declarations

What a scan of the host's sources finds in one processing round: adapters, conversions, renamed
setters and untaggable views. Adapters and conversions are methods and have to have a certain shape;
`AdapterDecl.validate` and `ConversionDecl.validate` either give what the declaration says or name
the first flaw of its shape.
-/

namespace SetterResolution

open Std (ExtTreeSet)

/-- A method with the position of its declaration. -/
structure DeclaredMethod where
  /-- The method. -/
  signature : Signature
  /-- Where it is declared. -/
  position : Position
  deriving DecidableEq, Repr

/-- An adapter: a static method that takes the view and then one value for each attribute. It may
also take all old values before all new ones; then the types of the two halves are the same. -/
structure AdapterDecl where
  /-- The attributes as written. -/
  attrs : List String
  /-- The method. -/
  method : DeclaredMethod
  deriving DecidableEq, Repr

/-- A conversion: a static method that takes one value and gives another. -/
structure ConversionDecl where
  /-- The method. -/
  method : DeclaredMethod
  deriving DecidableEq, Repr

/-- A renamed setter: on `target` and its subtypes an attribute is set by the method `setter`. -/
structure RenamedDecl where
  /-- The type that carries the declaration. -/
  owner : HostType
  /-- The attribute as written. -/
  attr : String
  /-- The view type. -/
  target : HostType
  /-- The name of the method that sets the attribute. -/
  setter : String
  /-- Where it is declared. -/
  position : Position
  deriving DecidableEq, Repr

/-- View types that are not tagged. -/
structure UntaggableDecl where
  /-- The type that carries the declaration. -/
  owner : HostType
  /-- The view types. -/
  views : List HostType
  /-- Where it is declared. -/
  position : Position
  deriving DecidableEq, Repr

/-- Everything that was found in one processing round. -/
structure Round where
  /-- The adapters, for one attribute or several. -/
  adapters : List AdapterDecl := []
  /-- The conversions. -/
  conversions : List ConversionDecl := []
  /-- The renamed setters. -/
  renamed : List RenamedDecl := []
  /-- The untaggable views. -/
  untaggable : List UntaggableDecl := []
  deriving DecidableEq, Repr

namespace Round

/-- Whether nothing was found. -/
def isEmpty (round : Round) : Bool :=
  round.adapters.isEmpty && round.conversions.isEmpty && round.renamed.isEmpty &&
    round.untaggable.isEmpty

/-- The owner of each declaration, in order. -/
def ownerList (round : Round) : List HostType :=
  round.adapters.map (·.method.signature.owner) ++
    round.conversions.map (·.method.signature.owner) ++
    round.renamed.map (·.owner) ++ round.untaggable.map (·.owner)

/-- The types whose declarations are processed in this round. -/
def owners (round : Round) : ExtTreeSet HostType :=
  ExtTreeSet.ofList round.ownerList

end Round

/-! ### The shape of declarations -/

/-- What is wrong with the shape of a declaration. Each flaw knows the name of the method. -/
inductive Flaw where
  /-- A method that is not public and static carries an annotation. -/
  | notPublicStatic (annotated name : String)
  /-- An adapter without attributes. -/
  | noAttributes (name : String)
  /-- An attribute, as written, that stands for the same as one before it. -/
  | repeatedAttribute (name written : String)
  /-- The type of an old value is not that of the new one. Both are counted from one. -/
  | unequalHalves (name : String) (old new : Nat)
  /-- The number of parameters fits neither one nor two values for each attribute. -/
  | parameterCount (name : String) (attrs params : Nat)
  /-- A conversion of no value, or of several. -/
  | conversionParameters (name : String)
  /-- A conversion without result. -/
  | conversionResult (name : String)
  deriving DecidableEq, Repr

/-- What is said about a flaw. -/
def Flaw.message : Flaw → String
  | notPublicStatic annotated name =>
    annotated ++ " is only allowed on public static methods: " ++ name
  | noAttributes name => "binding adapter requires at least one attribute: " ++ name
  | repeatedAttribute name written =>
    "binding adapter " ++ name ++ " lists attribute '" ++ written ++ "' twice"
  | unequalHalves name old new =>
    "binding adapter " ++ name ++ ": old values should be followed by new values. Parameter " ++
      toString old ++ " must be the same type as parameter " ++ toString new ++ "."
  | parameterCount name attrs params =>
    "binding adapter " ++ name ++ " has " ++ toString attrs ++ " attributes and " ++
      toString params ++ " parameters. There should be " ++ toString (attrs + 1) ++ " or " ++
      toString (attrs * 2 + 1) ++ " parameters."
  | conversionParameters name => "binding conversion should have one parameter: " ++ name
  | conversionResult name => "binding conversion must return a value: " ++ name

/-- Whether a method is public and static. -/
def DeclaredMethod.isPublicStatic (method : DeclaredMethod) : Bool :=
  method.signature.isPublic && method.signature.isStatic

/-- What a well-formed adapter is declared for: the view type, and the attributes as written with
the types of their values. -/
structure AdapterShape where
  /-- The type of the view. -/
  view : HostType
  /-- The attributes with the types of their values. -/
  params : List (String × HostType)
  deriving DecidableEq, Repr

/-- What an adapter is declared for, or the first flaw of its shape. -/
def AdapterDecl.validate (decl : AdapterDecl) : Except Flaw AdapterShape :=
  let name := decl.method.signature.name
  let params := decl.method.signature.params
  let n := decl.attrs.length
  if !decl.method.isPublicStatic then .error (.notPublicStatic "@BindingAdapter" name)
  else if n = 0 then .error (.noAttributes name)
  else match Attribute.firstRepeated? .ofWritten [] decl.attrs, params with
    | some written, _ => .error (.repeatedAttribute name written)
    | none, [] => .error (.parameterCount name n 0)
    | none, view :: values =>
      if values.length = 2 * n then
        match ((values.take n).zip (values.drop n)).findIdx? fun (old, new) => old ≠ new with
        | some i => .error (.unequalHalves name (i + 2) (i + n + 2))
        | none => .ok ⟨view, decl.attrs.zip (values.take n)⟩
      else if values.length = n then .ok ⟨view, decl.attrs.zip values⟩
      else .error (.parameterCount name n params.length)

/-- The types that a conversion leads from and to, or the first flaw of its shape. -/
def ConversionDecl.validate (decl : ConversionDecl) : Except Flaw (HostType × HostType) :=
  let name := decl.method.signature.name
  if !decl.method.isPublicStatic then .error (.notPublicStatic "@BindingConversion" name)
  else match decl.method.signature.params, decl.method.signature.returns with
    | [source], some target =>
      if target.isVoid then .error (.conversionResult name) else .ok (source, target)
    | [_], none => .error (.conversionResult name)
    | _, _ => .error (.conversionParameters name)

end SetterResolution
