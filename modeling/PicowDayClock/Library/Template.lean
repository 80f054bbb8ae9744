import PicowDayClock.Library.CString

/-! Templates: plain text with placeholders in it, each of which is a key between
an opening text and a closing byte. -/
namespace PicowDayClock

/-- What opens a placeholder and what closes it. The first byte of the opening
text is not in the rest of it, so that no two openings overlap. -/
structure Marks where
  first : Byte
  others : Bytes
  closing : Byte
  once : first ∉ others

def Marks.opening (marks : Marks) : Bytes := marks.first :: marks.others

/-- A key, with the plain text in front of the placeholder it is in. -/
@[ext]
structure Placeholder (marks : Marks) where
  before : Bytes
  key : Bytes
  plain : strstr before marks.opening = none
  closed : marks.closing ∉ key

/-- A text all placeholders of which are closed. -/
structure Template (marks : Marks) where
  placeholders : List (Placeholder marks)
  tail : Bytes
  plain : strstr tail marks.opening = none

variable {marks : Marks}

/-- A placeholder as it is written, with what follows it. -/
def Placeholder.text (placeholder : Placeholder marks) (rest : Bytes) : Bytes :=
  placeholder.before ++ (marks.opening ++ (placeholder.key ++ marks.closing :: rest))

/-- A placeholder with a text in its place. -/
def Placeholder.expanded (value : Bytes → Bytes) (placeholder : Placeholder marks)
    (rest : Bytes) : Bytes :=
  placeholder.before ++ (value placeholder.key ++ rest)

namespace Template

/-- The template as it is written. -/
def text (template : Template marks) : Bytes :=
  template.placeholders.foldr Placeholder.text template.tail

/-- The template with the value of its key in the place of each placeholder. -/
def expanded (value : Bytes → Bytes) (template : Template marks) : Bytes :=
  template.placeholders.foldr (Placeholder.expanded value) template.tail

/-- The plain text alone. -/
def plainText (tail : Bytes) (plain : strstr tail marks.opening = none) : Template marks :=
  ⟨[], tail, plain⟩

/-- One more placeholder, in front. -/
def cons (placeholder : Placeholder marks) (rest : Template marks) : Template marks :=
  ⟨placeholder :: rest.placeholders, rest.tail, rest.plain⟩

/-- Templates are taken apart from the front, as they are scanned. -/
@[elab_as_elim, induction_eliminator]
theorem scanned {motive : Template marks → Prop}
    (plainText : ∀ tail plain, motive (plainText tail plain))
    (cons : ∀ placeholder rest, motive rest → motive (cons placeholder rest))
    (template : Template marks) : motive template := by
  obtain ⟨placeholders, tail, plain⟩ := template
  induction placeholders with
  | nil => exact plainText tail plain
  | cons placeholder placeholders ih => exact cons placeholder ⟨placeholders, tail, plain⟩ ih

@[elab_as_elim, cases_eliminator]
theorem begun {motive : Template marks → Prop}
    (plainText : ∀ tail plain, motive (plainText tail plain))
    (cons : ∀ placeholder rest, motive (cons placeholder rest))
    (template : Template marks) : motive template :=
  scanned plainText (fun placeholder rest _ => cons placeholder rest) template

variable {value : Bytes → Bytes} {tail : Bytes} {placeholder : Placeholder marks}
  {rest : Template marks}

@[simp] theorem text_plainText (plain : strstr tail marks.opening = none) :
    (plainText tail plain).text = tail := rfl

@[simp] theorem text_cons : (cons placeholder rest).text = placeholder.text rest.text := rfl

@[simp] theorem expanded_plainText (plain : strstr tail marks.opening = none) :
    (plainText tail plain).expanded value = tail := rfl

@[simp] theorem expanded_cons : (cons placeholder rest).expanded value =
    placeholder.expanded value (rest.expanded value) := rfl

@[simp] theorem placeholders_plainText (plain : strstr tail marks.opening = none) :
    (plainText tail plain).placeholders = [] := rfl

@[simp] theorem placeholders_cons :
    (cons placeholder rest).placeholders = placeholder :: rest.placeholders := rfl

/-! ## A text is written in one way -/

/-- The first opening is the one of the first placeholder. -/
theorem strstr_text (placeholder : Placeholder marks) (rest : Bytes) :
    strstr (placeholder.text rest) marks.opening = some placeholder.before.length :=
  strstr_past placeholder.plain marks.once _

theorem Placeholder.text_injective {one two : Placeholder marks} {rest other : Bytes}
    (same : one.text rest = two.text other) : one = two ∧ rest = other := by
  have place : one.before.length = two.before.length := by
    have found := strstr_text one rest
    rw [same, strstr_text] at found
    exact (Option.some.inj found).symm
  obtain ⟨before, behind⟩ := List.append_inj same place
  have keys := List.append_cancel_left behind
  have ends : one.key.length = two.key.length := by
    have found := strchr_behind one.closed rest
    rw [keys, strchr_behind two.closed] at found
    exact (Option.some.inj found).symm
  obtain ⟨key, follows⟩ := List.append_inj keys ends
  exact ⟨Placeholder.ext before key, (List.cons.inj follows).2⟩

theorem text_injective {one two : Template marks} (same : one.text = two.text) : one = two := by
  induction one generalizing two with
  | plainText tail plain =>
    cases two with
    | plainText other plain' =>
      cases same
      rfl
    | cons placeholder rest =>
      rw [text_plainText, text_cons] at same
      rw [same, strstr_text] at plain
      cases plain
  | cons placeholder rest ih =>
    cases two with
    | plainText tail plain =>
      rw [text_plainText, text_cons] at same
      rw [← same, strstr_text] at plain
      cases plain
    | cons other rest' =>
      rw [text_cons, text_cons] at same
      obtain ⟨rfl, later⟩ := Placeholder.text_injective same
      rw [ih later]

/-! ## Longer and shorter values -/

section compared

variable {other : Bytes → Bytes}

/-- What the values take and the placeholders leave free. -/
theorem expanded_length (template : Template marks) (value : Bytes → Bytes) :
    (template.expanded value).length + (template.placeholders.map fun placeholder =>
        marks.opening.length + placeholder.key.length + 1).sum =
      template.text.length +
        (template.placeholders.map fun placeholder => (value placeholder.key).length).sum := by
  induction template with
  | plainText tail plain => simp
  | cons placeholder rest ih =>
    simp only [expanded_cons, text_cons, placeholders_cons, Placeholder.expanded, Placeholder.text,
      List.length_append, List.length_cons, List.map_cons, List.sum_cons] at ih ⊢
    omega

theorem expanded_length_le {template : Template marks}
    (shorter : ∀ placeholder ∈ template.placeholders,
      (other placeholder.key).length ≤ (value placeholder.key).length) :
    (template.expanded other).length ≤ (template.expanded value).length := by
  induction template with
  | plainText tail plain => exact Nat.le_refl _
  | cons placeholder rest ih =>
    obtain ⟨first, later⟩ := List.forall_mem_cons.mp shorter
    have := ih later
    simp only [expanded_cons, Placeholder.expanded, List.length_append]
    omega

/-- Where no value is longer than the other one, the same text comes of the same
values only. -/
theorem expanded_eq_iff {template : Template marks}
    (shorter : ∀ placeholder ∈ template.placeholders,
      (other placeholder.key).length ≤ (value placeholder.key).length) :
    template.expanded value = template.expanded other ↔
      ∀ placeholder ∈ template.placeholders, value placeholder.key = other placeholder.key := by
  induction template with
  | plainText tail plain => simp
  | cons placeholder rest ih =>
    obtain ⟨first, later⟩ := List.forall_mem_cons.mp shorter
    have shortened := expanded_length_le later
    rw [expanded_cons, expanded_cons, placeholders_cons, List.forall_mem_cons, ← ih later,
      Placeholder.expanded, Placeholder.expanded, List.append_cancel_left_eq]
    constructor
    · intro same
      have lengths := congrArg List.length same
      rw [List.length_append, List.length_append] at lengths
      exact List.append_inj same (by omega)
    · rintro ⟨here, behind⟩
      rw [here, behind]

end compared

/-- The text has no NUL in it if the template and the values have none. -/
theorem nulFree_expanded {template : Template marks} (written : NulFree template.text)
    (values : ∀ key, NulFree (value key)) : NulFree (template.expanded value) := by
  induction template with
  | plainText tail plain => exact written
  | cons placeholder rest ih =>
    have behind : NulFree rest.text := by
      intro member
      refine written (List.mem_append_right _ (List.mem_append_right _ ?_))
      exact List.mem_append_right _ (List.mem_cons_of_mem _ member)
    exact written.left.append ((values placeholder.key).append (ih behind))

end Template
end PicowDayClock
