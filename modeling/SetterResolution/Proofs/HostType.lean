import Mathlib.Data.List.Basic
import Mathlib.Data.Set.Function
import SetterResolution.HostType

/-!
# The texts of types

A type is read from its text, and what is read need not be the type that was written: a declared
type may be called `int`, or its name may end in brackets, or there may be blanks around it, and no
text tells such a type from another one. Array levels play no part in this, since a pair of brackets
behind a text is always read as one more level (`SetterResolution.HostType.parse_append_brackets`).
So it is the innermost type that decides, and a type is **readable** if that is a primitive or has a
plain name (`SetterResolution.HostType.Readable`).

Two things are shown: only readable types are ever read, and each of them is read from its own text.
What is said in the main statement, `SetterResolution.HostType.parse_text_eq_iff`, follows from
these two.
-/

namespace SetterResolution

open Text

/-! ### Keywords -/

theorem Primitive.mem_all (kind : Primitive) : kind ∈ all := by
  cases kind <;> decide

/-- A word is no keyword if it is the name of no kind. -/
theorem Primitive.ofName?_eq_none_iff {word : String} :
    ofName? word = none ↔ ∀ kind : Primitive, kind.name ≠ word := by
  rw [ofName?, List.find?_eq_none]
  exact ⟨fun h kind hname => h kind kind.mem_all (beq_iff_eq.mpr hname),
    fun h kind _ hname => h kind (beq_iff_eq.mp hname)⟩

namespace HostType

/-! ### Reading backwards -/

section OfReversed

variable {c : Char} {rest cs : List Char}

/-- A blank is dropped. -/
theorem ofReversed_blank (h : isBlank c) : ofReversed (c :: rest) = ofReversed rest := by
  -- the equation of the whole function is slow to check, that of one branch is not
  delta ofReversed
  exact if_pos h

/-- A pair of brackets is an array level. -/
theorem ofReversed_brackets (inner : List Char) :
    ofReversed (']' :: '[' :: inner) = array (ofReversed inner) := rfl

/-- What begins otherwise is a word. -/
theorem ofReversed_word (hblank : ¬ isBlank c)
    (hbrackets : ∀ inner, c = ']' → rest ≠ '[' :: inner) :
    ofReversed (c :: rest) = ofWord (String.ofList (c :: rest).reverse) := by
  delta ofReversed
  refine (if_neg hblank).trans ?_
  split
  · exact absurd rfl (hbrackets _ rfl)
  · rfl

/-- Without blanks and brackets to drop, the whole text is a word. -/
theorem ofReversed_eq_ofWord (hblank : ∀ c ∈ cs.head?, ¬ isBlank c)
    (hbrackets : ¬ [']', '['] <+: cs) : ofReversed cs = ofWord (String.ofList cs.reverse) := by
  cases cs with
  | nil => rfl
  | cons c rest =>
    refine ofReversed_word (hblank c rfl) fun inner hc hrest => hbrackets ⟨inner, ?_⟩
    rw [hc, hrest]
    rfl

end OfReversed

/-! ### Readable types -/

/-- What is left of a type without its array levels. -/
def innermost : HostType → HostType
  | array element => element.innermost
  | prim kind => prim kind
  | named name => named name

/-- What a text needs for being the name of a declared type. -/
structure PlainName (name : String) : Prop where
  /-- There is no blank in front. -/
  head : ∀ c ∈ name.toList.head?, ¬ isBlank c
  /-- There is no blank at the end. -/
  last : ∀ c ∈ name.toList.getLast?, ¬ isBlank c
  /-- The text does not end in brackets. -/
  brackets : ¬ ['[', ']'] <:+ name.toList
  /-- The text is no keyword. -/
  keyword : ∀ kind : Primitive, kind.name ≠ name

/-- Whether the innermost type is a primitive or has a plain name. -/
def Readable (type : HostType) : Prop :=
  (∃ kind, type.innermost = prim kind) ∨ ∃ name, type.innermost = named name ∧ PlainName name

/-! ### What is read is readable -/

/-- A text without blanks around it and brackets at its end is a keyword or a plain name. -/
theorem readable_ofWord {word : String} (hhead : ∀ c ∈ word.toList.head?, ¬ isBlank c)
    (hlast : ∀ c ∈ word.toList.getLast?, ¬ isBlank c) (hbrackets : ¬ ['[', ']'] <:+ word.toList) :
    (ofWord word).Readable := by
  rw [ofWord]
  split
  next kind _ => exact Or.inl ⟨kind, rfl⟩
  next hnone =>
    exact Or.inr ⟨word, rfl, hhead, hlast, hbrackets, Primitive.ofName?_eq_none_iff.mp hnone⟩

/-- What is read backwards is readable if the text begins with no blank. Those at its end and before
brackets are dropped. -/
theorem readable_ofReversed {cs : List Char} (h : ∀ c ∈ cs.getLast?, ¬ isBlank c) :
    (ofReversed cs).Readable := by
  induction cs using ofReversed.induct with
  | case1 => exact readable_ofWord (by simp) (by simp) (by simp)
  | case2 c rest hblank ih =>
    rw [ofReversed_blank hblank]
    exact ih fun last hlast => h last (List.mem_getLast?_cons hlast)
  | case3 inner hblank ih =>
    rw [ofReversed_brackets]
    exact ih fun last hlast => h last (List.mem_getLast?_cons (List.mem_getLast?_cons hlast))
  | case4 c rest hnone hblank =>
    rw [ofReversed_word hblank hnone]
    refine readable_ofWord ?_ ?_ ?_
    · rwa [String.toList_ofList, List.head?_reverse]
    · rw [String.toList_ofList, List.getLast?_reverse]
      rintro last ⟨⟩
      exact hblank
    · rw [String.toList_ofList, ← List.reverse_prefix, List.reverse_reverse]
      rintro ⟨inner, hinner⟩
      obtain ⟨rfl, hrest⟩ := List.cons_eq_cons.mp hinner
      exact hnone inner rfl hrest.symm

/-- **Only readable types are read.** -/
theorem readable_parse (text : String) : (parse text).Readable := by
  rw [parse]
  refine readable_ofReversed fun c hc => ?_
  rw [List.getLast?_reverse] at hc
  have hhead := List.head?_dropWhile_not isBlank text.toList
  rw [hc] at hhead
  simpa using hhead

/-! ### What is readable is read -/

/-- **Brackets behind a text are read as an array level**, blanks before them or not. -/
theorem parse_append_brackets (text : String) : parse (text ++ "[]") = array (parse text) := by
  have hdrop : (text ++ "[]").toList.dropWhile isBlank =
      text.toList.dropWhile isBlank ++ ['[', ']'] := by
    rw [String.toList_append, List.dropWhile_append]
    split
    next hempty =>
      rw [List.isEmpty_iff.mp hempty]
      rfl
    next => rfl
  rw [parse, hdrop, List.reverse_append, parse]
  rfl

theorem parse_name (kind : Primitive) : parse kind.name = prim kind := by
  cases kind <;> decide +kernel

/-- A plain name is read as a declared type. -/
theorem PlainName.parse_eq {name : String} (h : PlainName name) : parse name = named name := by
  have hdrop : name.toList.dropWhile isBlank = name.toList := by
    cases hname : name.toList with
    | nil => rfl
    | cons c rest => exact List.dropWhile_cons_of_neg (h.head c (by rw [hname]; rfl))
  have hlast : ∀ c ∈ name.toList.reverse.head?, ¬ isBlank c := by
    rw [List.head?_reverse]
    exact h.last
  have hbrackets : ¬ [']', '['] <+: name.toList.reverse :=
    fun hprefix => h.brackets (List.reverse_prefix.mp hprefix)
  rw [parse, hdrop, ofReversed_eq_ofWord hlast hbrackets, List.reverse_reverse,
    String.ofList_toList, ofWord, Primitive.ofName?_eq_none_iff.mpr h.keyword]

/-- **Every readable type is read from its text.** -/
theorem Readable.parse_text {type : HostType} (h : type.Readable) : parse type.text = type := by
  induction type with
  | prim kind => exact parse_name kind
  | array element ih => rw [text, parse_append_brackets, ih h]
  | named name =>
    rcases h with ⟨kind, hkind⟩ | ⟨name, hname, hplain⟩
    · cases hkind
    · cases hname
      exact hplain.parse_eq

/-- **When a type is read from its text.** What was read from any text is read again from the text
that it has. A type is read from its text exactly if it is readable: its innermost type is a
primitive, or declared under a name without blanks around it that does not end in brackets and is no
keyword. So readable types are told apart by their texts. -/
theorem parse_text_eq_iff :
    (∀ written, parse (parse written).text = parse written) ∧
    (∀ type : HostType, parse type.text = type ↔ type.Readable) ∧
    Set.InjOn text {type | type.Readable} := by
  refine ⟨fun written => (readable_parse written).parse_text, fun type => ?_,
    fun a ha b hb htext => ?_⟩
  · exact ⟨fun h => h ▸ readable_parse type.text, Readable.parse_text⟩
  · rw [← ha.parse_text, htext, hb.parse_text]

/-- Names that are not plain are read as something else, in an array as well as alone. -/
example :
    parse (named "int").text = prim .int ∧ parse (named "View[]").text = array (named "View") ∧
      parse (array (named " View")).text = array (named "View") := by
  decide +kernel

end HostType

end SetterResolution
