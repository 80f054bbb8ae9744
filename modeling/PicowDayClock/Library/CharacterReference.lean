import Mathlib.Data.List.Infix
import Mathlib.Data.List.Count
import Mathlib.Data.List.TakeWhile

/-! Character references in quoted attributes. A reader takes what stands up to
the closing quote and replaces the references in it. The table of references is
a parameter; of it the reader only knows that a reference has one mark, in front,
and that the mark is only ever replaced by itself. That is enough to say which
texts can be written into an attribute as they are. -/
namespace PicowDayClock

/-- A table of references. `lookup` is given what follows a mark, and answers how
much of it belongs to the reference and what stands for it. -/
structure References (Symbol : Type) where
  mark : Symbol
  lookup : List Symbol → Option (Nat × List Symbol)
  /-- A reference is more than its mark. -/
  named : ∀ {rest count replacement}, lookup rest = some (count, replacement) →
    0 < count ∧ count ≤ rest.length
  /-- There is no other mark in it. -/
  oneMark : ∀ {rest count replacement}, lookup rest = some (count, replacement) →
    mark ∉ rest.take count
  /-- What stands for it is the mark alone, or has no mark. -/
  replaced : ∀ {rest count replacement}, lookup rest = some (count, replacement) →
    replacement = [mark] ∨ mark ∉ replacement

namespace References

variable {Symbol : Type} {refs : References Symbol}

/-- No mark in the text begins a reference. -/
def NoReference (refs : References Symbol) (text : List Symbol) : Prop :=
  ∀ rest, refs.mark :: rest <:+ text → refs.lookup rest = none

theorem NoReference.tail {symbol : Symbol} {rest : List Symbol}
    (plain : refs.NoReference (symbol :: rest)) : refs.NoReference rest :=
  fun later within => plain later (within.trans (List.suffix_cons symbol rest))

theorem NoReference.cons {symbol : Symbol} {rest : List Symbol} (later : refs.NoReference rest)
    (plain : symbol = refs.mark → refs.lookup rest = none) :
    refs.NoReference (symbol :: rest) := by
  intro behind within
  rcases List.suffix_cons_iff.mp within with same | inside
  · injection same with marked same
    exact same ▸ plain marked.symm
  · exact later behind inside

theorem noReference_of_not_mem {text : List Symbol} (unmarked : refs.mark ∉ text) :
    refs.NoReference text :=
  fun _ within => absurd (within.subset List.mem_cons_self) unmarked

variable [DecidableEq Symbol]

/-- Replaces the references in a text, the first `skip` symbols of which belong
to the reference in front of it. -/
def decodeFrom (refs : References Symbol) : Nat → List Symbol → List Symbol
  | _, [] => []
  | skip + 1, _ :: rest => refs.decodeFrom skip rest
  | 0, symbol :: rest =>
    if symbol = refs.mark then
      match refs.lookup rest with
      | some (count, replacement) => replacement ++ refs.decodeFrom count rest
      | none => symbol :: refs.decodeFrom 0 rest
    else symbol :: refs.decodeFrom 0 rest

/-- Replaces the references in a text. -/
def decode (refs : References Symbol) (text : List Symbol) : List Symbol := refs.decodeFrom 0 text

/-- The value of an attribute, read from behind its opening quote. -/
def valueOf (refs : References Symbol) (quote : Symbol) (text : List Symbol) : List Symbol :=
  refs.decode (text.takeWhile (· ≠ quote))

theorem decodeFrom_eq (skip : Nat) (text : List Symbol) :
    refs.decodeFrom skip text = refs.decode (text.drop skip) := by
  induction text generalizing skip with
  | nil =>
    cases skip <;> rfl
  | cons symbol rest ih =>
    cases skip with
    | zero => rfl
    | succ skip => exact ih skip

theorem decode_symbol {symbol : Symbol} {rest : List Symbol}
    (plain : symbol = refs.mark → refs.lookup rest = none) :
    refs.decode (symbol :: rest) = symbol :: refs.decode rest := by
  by_cases marked : symbol = refs.mark
  · simp only [decode, decodeFrom, marked, if_true, plain marked]
  · simp only [decode, decodeFrom, marked, if_false]

theorem decode_reference {rest replacement : List Symbol} {count : Nat}
    (found : refs.lookup rest = some (count, replacement)) :
    refs.decode (refs.mark :: rest) = replacement ++ refs.decode (rest.drop count) := by
  rw [← decodeFrom_eq]
  simp only [decode, decodeFrom, if_true, found]

/-- Without references there is nothing to replace. -/
theorem NoReference.decode {text : List Symbol} (plain : refs.NoReference text) :
    refs.decode text = text := by
  induction text with
  | nil => rfl
  | cons symbol rest ih =>
    rw [decode_symbol, ih plain.tail]
    rintro rfl
    exact plain rest (List.suffix_refl _)

/-! ## What decoding can do to a text -/

/-- It makes no marks. If it keeps them all, it makes nothing longer; and if it
keeps the length too, it has replaced nothing. -/
structure Shrinks (refs : References Symbol) (text : List Symbol) : Prop where
  marks : (refs.decode text).count refs.mark ≤ text.count refs.mark
  length : (refs.decode text).count refs.mark = text.count refs.mark →
    (refs.decode text).length ≤ text.length
  nothing : (refs.decode text).count refs.mark = text.count refs.mark →
    (refs.decode text).length = text.length → refs.NoReference text

theorem Shrinks.symbol {symbol : Symbol} {rest : List Symbol} (shrinks : refs.Shrinks rest)
    (plain : symbol = refs.mark → refs.lookup rest = none) : refs.Shrinks (symbol :: rest) := by
  have shape := decode_symbol plain
  obtain ⟨marks, length, nothing⟩ := shrinks
  refine ⟨?_, fun kept => ?_, fun kept same => ?_⟩
  · simp only [shape, List.count_cons]
    omega
  · simp only [shape, List.count_cons, Nat.add_right_cancel_iff] at kept
    simp only [shape, List.length_cons]
    have := length kept
    omega
  · simp only [shape, List.count_cons, Nat.add_right_cancel_iff] at kept
    simp only [shape, List.length_cons, Nat.add_right_cancel_iff] at same
    exact (nothing kept same).cons plain

/-- A reference loses its mark, or its name. -/
theorem Shrinks.reference {rest replacement : List Symbol} {count : Nat}
    (found : refs.lookup rest = some (count, replacement))
    (shrinks : refs.Shrinks (rest.drop count)) : refs.Shrinks (refs.mark :: rest) := by
  have shape := decode_reference found
  obtain ⟨marks, length, -⟩ := shrinks
  obtain ⟨several, fits⟩ := refs.named found
  have shorter : (rest.drop count).length = rest.length - count := List.length_drop
  have same : rest.count refs.mark = (rest.drop count).count refs.mark := by
    conv_lhs => rw [← List.take_append_drop count rest]
    rw [List.count_append, List.count_eq_zero_of_not_mem (refs.oneMark found), Nat.zero_add]
  rcases refs.replaced found with rfl | plain
  · refine ⟨?_, fun kept => ?_, fun kept long => ?_⟩
    all_goals
      simp only [shape, List.count_cons_self, List.length_cons, List.cons_append,
        List.nil_append] at *
    · omega
    · have := length (by omega)
      omega
    · have := length (by omega)
      omega
  · have gone : replacement.count refs.mark = 0 := List.count_eq_zero_of_not_mem plain
    refine ⟨?_, fun kept => ?_, fun kept => ?_⟩
    all_goals
      simp only [shape, List.count_cons_self, List.count_append, gone] at *
      omega

theorem shrinks (refs : References Symbol) (text : List Symbol) : refs.Shrinks text := by
  match text with
  | [] => exact ⟨Nat.le_refl _, fun _ => Nat.le_refl _, fun _ _ _ within => by simp at within⟩
  | symbol :: rest =>
    by_cases plain : symbol = refs.mark → refs.lookup rest = none
    · exact (refs.shrinks rest).symbol plain
    · obtain ⟨rfl, begins⟩ := Classical.not_imp.mp plain
      obtain ⟨⟨count, replacement⟩, found⟩ := Option.ne_none_iff_exists'.mp begins
      exact .reference found (refs.shrinks (rest.drop count))
termination_by text.length
decreasing_by
  · simp
  · simp only [List.length_drop, List.length_cons]
    omega

/-- A text written between quotes is read back exactly if it has no quote and no
reference in it. -/
theorem valueOf_eq_iff {quote : Symbol} {text rest : List Symbol} :
    refs.valueOf quote (text ++ quote :: rest) = text ↔
      quote ∉ text ∧ refs.NoReference text := by
  have cut : (text ++ quote :: rest).takeWhile (· ≠ quote) = text.takeWhile (· ≠ quote) := by
    induction text with
    | nil => simp
    | cons symbol text ih => by_cases here : symbol = quote <;> simp_all
  rw [valueOf, cut]
  have within : text.takeWhile (· ≠ quote) <+: text := List.takeWhile_prefix _
  constructor
  · intro back
    obtain ⟨marks, length, nothing⟩ := refs.shrinks (text.takeWhile (· ≠ quote))
    rw [back] at marks length nothing
    have kept : text.count refs.mark = (text.takeWhile (· ≠ quote)).count refs.mark :=
      Nat.le_antisymm marks (within.sublist.count_le _)
    have whole : text.takeWhile (· ≠ quote) = text :=
      within.eq_of_length (Nat.le_antisymm within.length_le (length kept))
    have plain := nothing kept (by rw [whole])
    rw [whole] at plain
    refine ⟨fun quoted => ?_, plain⟩
    rw [List.takeWhile_eq_self_iff] at whole
    simpa using whole quote quoted
  · rintro ⟨unquoted, plain⟩
    have whole : text.takeWhile (· ≠ quote) = text := by
      rw [List.takeWhile_eq_self_iff]
      intro symbol member
      have : symbol ≠ quote := fun same => unquoted (same ▸ member)
      simpa using this
    rw [whole, plain.decode]

/-- A text without a quote ends at the closing one. -/
theorem dropWhile_quote {quote : Symbol} {text rest : List Symbol} (unquoted : quote ∉ text) :
    (text ++ quote :: rest).dropWhile (· ≠ quote) = quote :: rest := by
  have passed : ∀ symbol ∈ text, decide (symbol ≠ quote) = true := by
    intro symbol member
    have : symbol ≠ quote := fun same => unquoted (same ▸ member)
    simpa using this
  rw [List.dropWhile_append_of_pos passed, List.dropWhile_cons_of_neg (by simp)]

end References
end PicowDayClock
