import Mathlib.Algebra.Group.Nat.Defs
import SetterResolution.Proofs.Text.Utf8
import SetterResolution.Snapshot.Reader

/-!
# What is read back, and what can be read at all

Four things are said about a reader, and all of them carry over from readers to what they are joined
to.

* A value *survives* being written (`SetterResolution.Snapshot.Survives`) if it is read back from
  its bytes whatever follows them. Lengths are written in eight bytes, so that nothing longer than
  that is promised to survive; every part is shorter than the whole, and the bound is asked for the
  whole alone.
* A reader *ensures* a property (`SetterResolution.Snapshot.Ensures`) if it has every value that is
  read, from whatever bytes.
* A reader *recovers* what is written (`SetterResolution.Snapshot.Recovers`) if every value that is
  read, from whatever bytes, is read back from those that it is written to. No bound is asked for
  here: a value that was read had a length in eight bytes.
* A reader is *prompt* (`SetterResolution.Snapshot.Prompt`) if it does not wait for what follows.
  From a part of the bytes that a value is written to, such a reader reads nothing
  (`SetterResolution.Snapshot.Prompt.error_of_part`).

A reader that recovers what is written, and promptly, is *faithful*
(`SetterResolution.Snapshot.Faithful`).
-/

namespace SetterResolution.Snapshot

open Text

variable {α β γ : Type}

theorem bind_eq_ok {read : Reader α} {next : α → Reader β} {bytes rest : List UInt8} {b : β} :
    (read >>= next) bytes = .ok (b, rest) ↔
      ∃ a between, read bytes = .ok (a, between) ∧ next a between = .ok (b, rest) := by
  rw [show (read >>= next) bytes = read bytes >>= fun found => next found.1 found.2 from rfl]
  cases hread : read bytes with
  | error error => simp [bind, Except.bind]
  | ok found =>
    obtain ⟨a, between⟩ := found
    simp [bind, Except.bind, and_assoc]

/-! ### Reading back -/

/-- From the bytes the value is read, and what follows them is left. -/
def Reads (read : Reader α) (bytes : List UInt8) (a : α) : Prop :=
  ∀ rest, read (bytes ++ rest) = .ok (a, rest)

theorem Reads.bind {read : Reader α} {next : α → Reader β} {bytes more : List UInt8} {a : α}
    {b : β} (h : Reads read bytes a) (hnext : Reads (next a) more b) :
    Reads (read >>= next) (bytes ++ more) b := by
  intro rest
  rw [List.append_assoc]
  exact bind_eq_ok.mpr ⟨a, more ++ rest, h _, hnext rest⟩

theorem Reads.pure (a : α) : Reads (Pure.pure a : Reader α) [] a :=
  fun _ => rfl

theorem Reads.map {read : Reader α} {bytes : List UInt8} {a : α} (h : Reads read bytes a)
    (f : α → β) : Reads (read >>= fun a => Pure.pure (f a)) bytes (f a) := by
  rw [← List.append_nil bytes]
  exact h.bind (.pure _)

/-- A number that fits is read back. -/
theorem reads_writeNat {width n : Nat} (h : n < 256 ^ width) :
    Reads (readNat width) (writeNat width n) n := by
  intro rest
  induction width generalizing n with
  | zero =>
    obtain rfl : n = 0 := by omega
    rfl
  | succ width ih =>
    have hrest : n / 256 < 256 ^ width := Nat.div_lt_of_lt_mul (by rwa [Nat.pow_succ'] at h)
    rw [writeNat, List.cons_append, readNat]
    dsimp only
    rw [ih hrest]
    dsimp only
    rw [Utf8.toNat_ofNat (Nat.mod_lt _ (by decide)), Nat.mod_add_div]

theorem reads_writeTag {tag : Nat} (h : tag < 256) : Reads readTag (writeTag tag) tag :=
  reads_writeNat (by omega)

theorem reads_writeLength {length : Nat} (h : length < 2 ^ 64) :
    Reads readLength (writeLength length) length :=
  reads_writeNat (by omega)

/-! ### What survives -/

/-- The value is written to some bytes, and read back from them unless they are too many. -/
structure Survives (write : α → List UInt8) (read : Reader α) (a : α) : Prop where
  /-- There are bytes, so that a long list has many of them. -/
  ne_nil : write a ≠ []
  /-- The bytes are read back. -/
  reads : (write a).length < 2 ^ 64 → Reads read (write a) a

namespace Survives

variable {first : α → List UInt8} {second : β → List UInt8} {readFirst : Reader α}
  {readSecond : Reader β} {write : γ → List UInt8} {a : α} {b : β}

/-- What is made of one value survives with it. -/
theorem map (f : α → γ) (hwrite : write (f a) = first a) (h : Survives first readFirst a) :
    Survives write (do return f (← readFirst)) (f a) where
  ne_nil := hwrite ▸ h.ne_nil
  reads hlength := by
    rw [hwrite] at hlength ⊢
    exact (h.reads hlength).map f

/-- What is made of two values survives with them. -/
theorem map₂ (f : α → β → γ) (hwrite : write (f a b) = first a ++ second b)
    (ha : Survives first readFirst a) (hb : Survives second readSecond b) :
    Survives write (do return f (← readFirst) (← readSecond)) (f a b) where
  ne_nil := by
    rw [hwrite]
    exact List.append_ne_nil_of_left_ne_nil ha.ne_nil _
  reads hlength := by
    rw [hwrite] at hlength ⊢
    rw [List.length_append] at hlength
    exact (ha.reads (by omega)).bind ((hb.reads (by omega)).map (f a))

theorem pair (ha : Survives first readFirst a) (hb : Survives second readSecond b) :
    Survives (writePair first second) (readPair readFirst readSecond) (a, b) :=
  map₂ Prod.mk rfl ha hb

end Survives

theorem reads_text {text : String} (h : (Utf8.encode text).length < 2 ^ 64) :
    Reads readText (writeText text) text := by
  refine (reads_writeLength h).bind fun rest => ?_
  rw [takeText, if_neg (by rw [List.length_append]; omega), List.take_left, List.drop_left,
    Utf8.decode_encode]

/-- **Every text survives**, character for character. -/
theorem survives_text (text : String) : Survives writeText readText text where
  ne_nil := List.cons_ne_nil _ _
  reads hlength := reads_text (by
    rw [writeText, List.length_append] at hlength
    omega)

/-- There are at least as many bytes as members that write some. -/
theorem length_le_length_flatMap {write : α → List UInt8} {items : List α}
    (h : ∀ a ∈ items, write a ≠ []) : items.length ≤ (items.flatMap write).length := by
  induction items with
  | nil => exact Nat.zero_le _
  | cons a items ih =>
    have hfirst := List.length_pos_iff.mpr (h a List.mem_cons_self)
    have hrest := ih fun b hb => h b (List.mem_cons_of_mem _ hb)
    rw [List.flatMap_cons, List.length_append, List.length_cons]
    omega

theorem reads_readItems {write : α → List UInt8} {read : Reader α} {items : List α}
    (h : ∀ a ∈ items, Reads read (write a) a) :
    Reads (readItems read items.length) (items.flatMap write) items := by
  induction items with
  | nil => exact .pure []
  | cons a items ih =>
    rw [List.flatMap_cons]
    exact (h a List.mem_cons_self).bind
      ((ih fun b hb => h b (List.mem_cons_of_mem _ hb)).map (a :: ·))

theorem reads_list {write : α → List UInt8} {read : Reader α} {items : List α}
    (h : ∀ a ∈ items, Reads read (write a) a) (hlength : items.length < 2 ^ 64) :
    Reads (readList read) (writeList write items) items :=
  (reads_writeLength hlength).bind (reads_readItems h)

/-- **A list survives with its members.** -/
theorem survives_list {write : α → List UInt8} {read : Reader α} {items : List α}
    (h : ∀ a ∈ items, Survives write read a) :
    Survives (writeList write) (readList read) items where
  ne_nil := List.cons_ne_nil _ _
  reads hlength := by
    rw [writeList, List.length_append] at hlength
    have hcount := length_le_length_flatMap fun a ha => (h a ha).ne_nil
    refine reads_list (fun a ha => (h a ha).reads ?_) (by omega)
    have hpart : (write a).length ≤ (items.flatMap write).length := by
      obtain ⟨before, after, rfl⟩ := List.append_of_mem ha
      simp only [List.flatMap_append, List.flatMap_cons, List.length_append]
      omega
    omega

/-! ### What is ensured -/

/-- Every value that is read has the property. -/
def Ensures (read : Reader α) (p : α → Prop) : Prop :=
  ∀ bytes a rest, read bytes = .ok (a, rest) → p a

theorem Ensures.bind {read : Reader α} {next : α → Reader β} {p : α → Prop} {q : β → Prop}
    (h : Ensures read p) (hnext : ∀ a, p a → Ensures (next a) q) : Ensures (read >>= next) q := by
  intro bytes b rest hok
  obtain ⟨a, between, hread, hok⟩ := bind_eq_ok.mp hok
  exact hnext a (h bytes a between hread) between b rest hok

theorem Ensures.pure {p : α → Prop} {a : α} (h : p a) : Ensures (Pure.pure a : Reader α) p := by
  intro bytes b rest hok
  cases hok
  exact h

theorem Ensures.imp {read : Reader α} {p q : α → Prop} (h : Ensures read p)
    (himp : ∀ a, p a → q a) : Ensures read q :=
  fun bytes a rest hok => himp a (h bytes a rest hok)

/-- Every reader ensures what is true of all values. -/
theorem ensures_true (read : Reader α) : Ensures read fun _ => True :=
  fun _ _ _ _ => trivial

theorem ensures_readNat (width : Nat) : Ensures (readNat width) (· < 256 ^ width) := by
  induction width with
  | zero =>
    intro bytes n rest hok
    cases hok
    exact Nat.one_pos
  | succ width ih =>
    intro bytes n rest hok
    cases bytes with
    | nil => cases hok
    | cons b bytes =>
      rw [readNat] at hok
      dsimp only at hok
      split at hok
      next high rest' hread =>
        obtain ⟨rfl, rfl⟩ := Prod.mk.inj (Except.ok.inj hok)
        have hhigh := ih _ _ _ hread
        have hlow := b.toNat_lt
        rw [Nat.pow_succ']
        omega
      next => cases hok

theorem ensures_readLength : Ensures readLength (· < 2 ^ 64) :=
  ensures_readNat 8

/-- A list that is read is not too long, and what a reader ensures, it ensures of every member. -/
theorem ensures_list {read : Reader α} {p : α → Prop} (h : Ensures read p) :
    Ensures (readList read) fun items => items.length < 2 ^ 64 ∧ ∀ a ∈ items, p a := by
  have hitems (length : Nat) :
      Ensures (readItems read length) fun items => items.length = length ∧ ∀ a ∈ items, p a := by
    induction length with
    | zero => exact .pure ⟨rfl, List.forall_mem_nil _⟩
    | succ length ih =>
      exact h.bind fun a ha => ih.bind fun items hitems =>
        .pure ⟨congrArg (· + 1) hitems.1, List.forall_mem_cons.mpr ⟨ha, hitems.2⟩⟩
  refine ensures_readLength.bind fun length hlength => ?_
  intro bytes items rest hok
  obtain ⟨heq, hmembers⟩ := hitems length bytes items rest hok
  exact ⟨heq ▸ hlength, hmembers⟩

/-! ### What is recovered -/

/-- Whatever is read, from any bytes, is read back from the bytes that it is written to. -/
def Recovers (write : α → List UInt8) (read : Reader α) : Prop :=
  Ensures read fun a => Reads read (write a) a

/-- **Every text is recovered**: it has the bytes that it was read from. -/
theorem recovers_text : Recovers writeText readText := by
  refine ensures_readLength.bind fun length hlength => ?_
  intro bytes text rest hok
  rw [takeText] at hok
  split at hok
  · cases hok
  split at hok
  next found hdecode =>
    cases hok
    refine reads_text (Nat.lt_of_le_of_lt ?_ hlength)
    rw [Utf8.encode_of_decode hdecode]
    exact List.length_take_le _ _
  next => cases hok

/-! ### What follows does not matter -/

/-- What is read from some bytes is read from more bytes, too, and what is added is left. -/
def Prompt (read : Reader α) : Prop :=
  ∀ bytes a rest more, read bytes = .ok (a, rest) → read (bytes ++ more) = .ok (a, rest ++ more)

/-- **From a part of the bytes nothing is read.** What was read from a part of them would be read
from all of them, and then some of the bytes would be left. -/
theorem Prompt.error_of_part {read : Reader α} {part more : List UInt8} {a : α} (h : Prompt read)
    (hreads : Reads read (part ++ more) a) (hmore : more ≠ []) :
    ∃ error, read part = .error error := by
  cases hpart : read part with
  | error error => exact ⟨error, rfl⟩
  | ok found =>
    have hall := hreads []
    rw [List.append_nil, h part found.1 found.2 more hpart] at hall
    have hrest : found.2 ++ more = [] := (Prod.mk.inj (Except.ok.inj hall)).2
    exact absurd (List.append_eq_nil_iff.mp hrest).2 hmore

theorem prompt_pure (a : α) : Prompt (Pure.pure a : Reader α) := by
  intro bytes b rest more hok
  cases hok
  rfl

theorem Prompt.bind {read : Reader α} {next : α → Reader β} (h : Prompt read)
    (hnext : ∀ a, Prompt (next a)) : Prompt (read >>= next) := by
  intro bytes b rest more hok
  obtain ⟨a, between, hread, hok⟩ := bind_eq_ok.mp hok
  exact bind_eq_ok.mpr ⟨a, between ++ more, h _ _ _ more hread, hnext a _ _ _ more hok⟩

/-- What is made of a value is read as promptly as that. -/
theorem Prompt.map {read : Reader α} (f : α → β) (h : Prompt read) :
    Prompt (do return f (← read)) :=
  h.bind fun a => prompt_pure (f a)

theorem prompt_throw (error : DecodeError) : Prompt (throw error : Reader α) := by
  intro bytes a rest more hok
  cases hok

theorem prompt_liftM (result : Except DecodeError α) : Prompt (liftM result : Reader α) := by
  cases result with
  | error error => exact prompt_throw error
  | ok a => exact prompt_pure a

theorem prompt_readNat (width : Nat) : Prompt (readNat width) := by
  induction width with
  | zero => exact prompt_pure 0
  | succ width ih =>
    intro bytes n rest more hok
    cases bytes with
    | nil => cases hok
    | cons b bytes =>
      rw [List.cons_append, readNat]
      rw [readNat] at hok
      dsimp only at hok ⊢
      split at hok
      next high rest' hread =>
        cases hok
        rw [ih _ _ _ more hread]
      next => cases hok

/-- The bytes of a number are taken away from those that it is read from. -/
theorem exists_of_readNat {width n : Nat} {bytes rest : List UInt8}
    (h : readNat width bytes = .ok (n, rest)) :
    ∃ front, front.length = width ∧ bytes = front ++ rest := by
  induction width generalizing n bytes with
  | zero =>
    cases h
    exact ⟨[], rfl, rfl⟩
  | succ width ih =>
    cases bytes with
    | nil => cases h
    | cons b bytes =>
      rw [readNat] at h
      dsimp only at h
      split at h
      next high rest' hread =>
        cases h
        obtain ⟨front, rfl, rfl⟩ := ih hread
        exact ⟨b :: front, rfl, rfl⟩
      next => cases h

theorem prompt_text : Prompt readText := by
  refine (prompt_readNat 8).bind fun length => ?_
  intro bytes text rest more hok
  rw [takeText] at hok ⊢
  split at hok
  · cases hok
  next hlength =>
    -- the bytes of the text are there without those that follow
    have hlength : length ≤ bytes.length := Nat.le_of_not_lt hlength
    rw [if_neg (by rw [List.length_append]; omega), List.take_append_of_le_length hlength,
      List.drop_append_of_le_length hlength]
    split at hok
    next =>
      cases hok
      rfl
    next => cases hok

theorem prompt_list {read : Reader α} (h : Prompt read) : Prompt (readList read) := by
  refine (prompt_readNat 8).bind fun length => ?_
  induction length with
  | zero => exact prompt_pure []
  | succ length ih => exact h.bind fun a => ih.map (a :: ·)

/-! ### Faithful readers -/

/-- Whatever is read is read back from what it is written to, and from no part of that. -/
structure Faithful (write : α → List UInt8) (read : Reader α) : Prop where
  /-- What is read is read back. -/
  recovers : Recovers write read
  /-- What follows does not matter. -/
  prompt : Prompt read

namespace Faithful

variable {first : α → List UInt8} {second : β → List UInt8} {readFirst : Reader α}
  {readSecond : Reader β} {write : γ → List UInt8}

/-- What is made of one value is read as faithfully as that. -/
theorem map (f : α → γ) (hwrite : ∀ a, write (f a) = first a) (h : Faithful first readFirst) :
    Faithful write (do return f (← readFirst)) where
  recovers := h.recovers.bind fun a ha => .pure (hwrite a ▸ ha.map f)
  prompt := h.prompt.map f

/-- What is made of two values is read as faithfully as they are. -/
theorem map₂ (f : α → β → γ) (hwrite : ∀ a b, write (f a b) = first a ++ second b)
    (hfirst : Faithful first readFirst) (hsecond : Faithful second readSecond) :
    Faithful write (do return f (← readFirst) (← readSecond)) where
  recovers := hfirst.recovers.bind fun a ha => hsecond.recovers.bind fun b hb =>
    .pure (hwrite a b ▸ ha.bind (hb.map (f a)))
  prompt := hfirst.prompt.bind fun a => hsecond.prompt.map (f a)

end Faithful

theorem faithful_text : Faithful writeText readText :=
  ⟨recovers_text, prompt_text⟩

end SetterResolution.Snapshot
