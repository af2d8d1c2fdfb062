import SetterResolution.Text.Capital
import Std.Data.ExtTreeMap

/-!
# Attribute names

An attribute is written with or without a namespace, as in `app:imageUrl`. The namespace `android`
is part of the attribute; every other one is dropped when the name is stored, so that
`app:imageUrl` and `imageUrl` are one attribute while `android:text` and `text` are two.
-/

namespace SetterResolution

open Text

/-- An attribute, by its stored name. -/
structure Attribute where
  /-- The name without an ignored namespace. -/
  name : String
  deriving DecidableEq, Repr

namespace Attribute

/-- The characters that open a name in the namespace that is kept. -/
def keptNamespace : List Char :=
  "android:".toList

/-- The characters after the first colon, or all of them when there is no colon. -/
def afterColon (text : List Char) : List Char :=
  if ':' ∈ text then (text.dropWhile (· != ':')).drop 1 else text

/-- The attribute that a name as written stands for. -/
def ofWritten (written : String) : Attribute :=
  if keptNamespace.isPrefixOf written.toList then ⟨written⟩
  else ⟨String.ofList (afterColon written.toList)⟩

/-- Whether a name as written has a namespace that is ignored. -/
def ignoresNamespace (written : String) : Bool :=
  written.toList.contains ':' && !keptNamespace.isPrefixOf written.toList

/-- The name without any namespace. -/
def localName (attr : Attribute) : String :=
  String.ofList (afterColon attr.name.toList)

/-- The setter that an attribute has by convention: `set` and the capitalized local name. -/
def conventionalSetter (attr : Attribute) : String :=
  "set" ++ String.ofList (capitalized (afterColon attr.name.toList))

/-- The first item whose attribute is in `seen` or that of an item before it. -/
def firstRepeated? {α : Type} (attr : α → Attribute) (seen : List Attribute) : List α → Option α
  | [] => none
  | item :: rest =>
    if attr item ∈ seen then some item else firstRepeated? attr (attr item :: seen) rest

/-! ### Order -/

instance : Ord Attribute := ⟨compareOn name⟩

instance : Std.TransOrd Attribute := inferInstanceAs (Std.TransCmp (compareOn name))

instance : Std.LawfulEqOrd Attribute where
  eq_of_compare {a b} h := by
    have : a.name = b.name := Std.LawfulEqOrd.eq_of_compare h
    cases a; cases b; simp_all

end Attribute

end SetterResolution
