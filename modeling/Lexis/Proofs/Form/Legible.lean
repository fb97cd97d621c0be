import Lexis.Form
import Lexis.Proofs.Text.Escape

/-!
# Legible — debug forms that can be read back

A form is legible if in every layout a value can be told from what follows it (`Form.IsLegible`).

* A bracket is the same in both layouts but for what stands before, between and after its members,
  and for the layout of the members themselves (`Form.bracket_eq`).
* Quoted text is legible, and so are records, wrappers, missing values and lists that are made of
  legible forms (`Form.AreLegible.record`, `IsLegible.wrap`, `IsLegible.option`, `IsLegible.list`).
  A list ends where no member can follow, since the closing bracket of a list stands four spaces
  further left than its members.
-/

namespace Lexis

/-! ## Layouts -/

namespace Layout

/-- The layout of what stands in a bracket. -/
def inner : Layout → Layout
  | inline => inline
  | block depth => block (depth + 1)

/-- What stands before the first member of a bracket, if on one line it is `pad`. -/
def lead (pad : Text) : Layout → Text
  | inline => pad
  | block depth => newLine (depth + 1)

/-- What stands between two members of a bracket. -/
def between : Layout → Text
  | inline => [',', ' ']
  | block depth => [','] ++ newLine (depth + 1)

/-- What stands after the last member of a bracket, if on one line it is `pad`. -/
def trail (pad : Text) : Layout → Text
  | inline => pad
  | block depth => [','] ++ newLine depth

/-- A line one level deeper is indented by four more spaces. -/
theorem newLine_succ (depth : Nat) :
    newLine (depth + 1) = newLine depth ++ [' ', ' ', ' ', ' '] := by
  have hspaces : List.replicate (4 * depth + 4) ' ' =
      List.replicate (4 * depth) ' ' ++ List.replicate 4 ' ' := List.replicate_append_replicate.symm
  rw [newLine, Nat.mul_succ, hspaces]
  rfl

/-- What goes on with another member cannot be taken for the end of the bracket. -/
theorem apart_between (layout : Layout) (more : Text) :
    Apart (layout.between ++ more) (layout.trail [] ++ [']']) := by
  cases layout with
  | inline =>
    have hcomma : Apart [','] [']'] := by decide
    exact hcomma.append ([' '] ++ more) []
  | block depth =>
    have hspace : Apart [' '] [']'] := by decide
    have hlines := (hspace.append ([' ', ' ', ' '] ++ more) []).append_left ([','] ++ newLine depth)
    simpa [between, trail, newLine_succ] using hlines

end Layout

namespace Form

variable {α β γ : Type}

/-! ## Brackets in any layout -/

/-- Members in the layout of the bracket around them. -/
def joined (layout : Layout) (members : List Form) : Text :=
  layout.between.intercalate (members.map (· layout.inner))

theorem joined_singleton (layout : Layout) (member : Form) :
    joined layout [member] = member layout.inner := by
  simp [joined]

theorem joined_cons {members : List Form} (h : members ≠ []) (layout : Layout) (member : Form) :
    joined layout (member :: members) =
      member layout.inner ++ (layout.between ++ joined layout members) := by
  have hmap : members.map (· layout.inner) ≠ [] := by simpa using h
  simp [joined, List.intercalate_cons_of_ne_nil hmap]

/-- Every member but the first comes with what stands between them. -/
theorem joined_cons_eq_flatMap (layout : Layout) (member : Form) (members : List Form) :
    joined layout (member :: members) =
      member layout.inner ++ members.flatMap fun other => layout.between ++ other layout.inner := by
  induction members generalizing member with
  | nil => simp [joined_singleton]
  | cons other members ih => simp [joined_cons, ih]

/-- Members on lines of their own, each of which a comma ends, are members between commas. -/
theorem flatMap_memberLine (depth : Nat) {members : List Form} (h : members ≠ []) :
    members.flatMap (memberLine depth) =
      Layout.newLine (depth + 1) ++ joined (.block depth) members ++ [','] := by
  induction members with
  | nil => exact absurd rfl h
  | cons member members ih =>
    cases members with
    | nil => simp [memberLine, joined_singleton, Layout.inner]
    | cons other members =>
      have hne : other :: members ≠ [] := List.cons_ne_nil other members
      rw [List.flatMap_cons, ih hne, joined_cons hne]
      simp [memberLine, Layout.inner, Layout.between]

theorem bracket_eq {members : List Form} (h : members ≠ []) (opening pad closing : Text)
    (layout : Layout) :
    bracket opening pad closing members layout =
      opening ++ layout.lead pad ++ joined layout members ++ (layout.trail pad ++ closing) := by
  cases layout with
  | inline => simp [bracket, joined, Layout.lead, Layout.trail, Layout.between, Layout.inner]
  | block depth => simp [bracket, flatMap_memberLine depth h, Layout.lead, Layout.trail]

theorem wrap_eq (name : Text) (member : Form) (layout : Layout) :
    wrap name member layout =
      name ++ ['('] ++ layout.lead [] ++ member layout.inner ++ (layout.trail [] ++ [')']) := by
  rw [wrap, bracket_eq (List.cons_ne_nil member []), joined_singleton]

/-- A wrapper begins with its name. -/
theorem apart_wrap {name u : Text} (h : Apart name u) (member : Form) (layout : Layout) :
    Apart (wrap name member layout) u := by
  rw [wrap_eq]
  simpa using h.append _ []

/-- Wrappers that go on alike hold members that go on alike. -/
theorem exists_append_of_wrap_append {name : Text} {member member' : Form} {layout : Layout}
    {s t : Text} (h : wrap name member layout ++ s = wrap name member' layout ++ t) :
    ∃ closing, member layout.inner ++ (closing ++ s) = member' layout.inner ++ (closing ++ t) :=
  ⟨layout.trail [] ++ [')'], by simpa [wrap_eq] using h⟩

/-- A labelled member of a record. -/
def field (labelled : Text × Form) : Form :=
  fun layout => labelled.1 ++ [':', ' '] ++ labelled.2 layout

theorem record_eq {fields : List (Text × Form)} (h : fields ≠ []) (name : Text) (layout : Layout) :
    record name fields layout =
      name ++ [' ', '{'] ++ layout.lead [' '] ++ joined layout (fields.map field)
        ++ (layout.trail [' '] ++ ['}']) := by
  have hmap : fields.map field ≠ [] := by simpa using h
  exact bracket_eq hmap (name ++ [' ', '{']) [' '] ['}'] layout

/-- A record begins with its name. -/
theorem apart_record {name u : Text} (h : Apart name u) {fields : List (Text × Form)}
    (hfields : fields ≠ []) (layout : Layout) : Apart (record name fields layout) u := by
  rw [record_eq hfields]
  simpa using h.append _ []

theorem list_cons_eq (member : Form) (members : List Form) (layout : Layout) :
    list (member :: members) layout =
      ['['] ++ layout.lead [] ++ (member layout.inner ++
        ((members.flatMap fun other => layout.between ++ other layout.inner)
          ++ (layout.trail [] ++ [']']))) := by
  have hbracket := bracket_eq (List.cons_ne_nil member members) ['['] [] [']'] layout
  rw [joined_cons_eq_flatMap] at hbracket
  simpa [list] using hbracket

/-! ## Legible forms -/

/-- A form from which, in every layout, the value can be read back, whatever follows it. -/
def IsLegible (form : α → Form) : Prop :=
  ∀ layout, IsSelfDelimiting fun x => form x layout

/-- Fields of a record, at least one, from which the value can be read back. -/
structure AreLegible (fields : α → List (Text × Form)) : Prop where
  ne_nil : ∀ x, fields x ≠ []
  joined : ∀ layout, IsSelfDelimiting fun x => joined layout ((fields x).map field)

theorem isLegible_quoted : IsLegible quoted :=
  fun _ => Text.isSelfDelimiting_quoted

namespace IsLegible

variable {form : α → Form}

theorem comp (h : IsLegible form) {f : β → α} (hf : Function.Injective f) :
    IsLegible fun x => form (f x) :=
  fun layout => (h layout).comp hf

/-- A value that is written in the same layout is the same value. -/
theorem eq_of_eq (h : IsLegible form) {layout : Layout} {x y : α}
    (heq : form x layout = form y layout) : x = y :=
  (h layout).injective heq

theorem field (h : IsLegible form) (label : Text) :
    IsLegible fun x => Form.field (label, form x) :=
  fun layout => (h layout).prepend (label ++ [':', ' '])

theorem wrap (h : IsLegible form) (name : Text) : IsLegible fun x => Form.wrap name (form x) := by
  intro layout
  have hcode := ((h layout.inner).prepend (name ++ ['('] ++ layout.lead [])).postpend
    (layout.trail [] ++ [')'])
  simpa [wrap_eq] using hcode

/-- Values that are made in one of two ways, if that can be told from their forms. -/
theorem either {form : γ → Form} {f : α → γ} {g : β → γ}
    (hcover : ∀ z, (∃ x, z = f x) ∨ ∃ y, z = g y) (hf : IsLegible fun x => form (f x))
    (hg : IsLegible fun y => form (g y))
    (hapart : ∀ x y layout, Apart (form (f x) layout) (form (g y) layout)) : IsLegible form :=
  fun layout => .either hcover (hf layout) (hg layout) fun x y => hapart x y layout

theorem text {s : Text} (hne : s ≠ []) : IsLegible fun _ : Unit => Form.text s :=
  fun _ => .of_unit hne

theorem option (h : IsLegible form) : IsLegible fun x? : Option α => Form.option (x?.map form) := by
  have hcover : ∀ x? : Option α, (∃ _ : Unit, x? = none) ∨ ∃ x, x? = some x := by
    intro x?
    cases x? with
    | none => exact .inl ⟨(), rfl⟩
    | some x => exact .inr ⟨x, rfl⟩
  have hnone : IsLegible fun _ : Unit => Form.text "None".toList := text (by decide)
  have hapart : ∀ x layout, Apart "None".toList (Form.wrap "Some".toList (form x) layout) := by
    intro x layout
    have hnames : Apart "Some".toList "None".toList := by decide
    exact (apart_wrap hnames (form x) layout).symm
  exact either hcover hnone (h.wrap "Some".toList) fun _ => hapart

/-- A list of which no member can be taken for the closing bracket. -/
theorem list (h : IsLegible form) (hstart : ∀ x layout, Apart (form x layout) [']']) :
    IsLegible fun xs : List α => Form.list (xs.map form) := by
  have hcover : ∀ xs : List α, (∃ _ : Unit, xs = []) ∨ ∃ p : α × List α, xs = p.1 :: p.2 := by
    intro xs
    cases xs with
    | nil => exact .inl ⟨(), rfl⟩
    | cons x xs => exact .inr ⟨(x, xs), rfl⟩
  have hnil : IsLegible fun _ : Unit => Form.text ['[', ']'] := text (by decide)
  have hcons : IsLegible fun p : α × List α => Form.list ((p.1 :: p.2).map form) := by
    intro layout
    have hmore : IsSelfDelimiting fun xs : List α =>
        (xs.flatMap fun x => layout.between ++ form x layout.inner) ++ (layout.trail [] ++ [']']) :=
      ((h layout.inner).prepend layout.between).sequenceUntil (by simp)
        fun x => layout.apart_between (form x layout.inner)
    simpa [list_cons_eq, List.flatMap_map] using
      ((h layout.inner).pair hmore).prepend (['['] ++ layout.lead [])
  have hapart : ∀ (p : α × List α) layout,
      Apart ['[', ']'] (Form.list ((p.1 :: p.2).map form) layout) := by
    rintro ⟨x, xs⟩ layout
    have hlead : ∀ more, Apart [']'] (layout.lead [] ++ form x layout.inner ++ more) := by
      intro more
      cases layout with
      | inline => simpa [Layout.lead] using (hstart x _).symm.append [] more
      | block depth =>
        have hline : Apart [']'] ['\n'] := by decide
        simpa [Layout.lead, Layout.newLine] using hline.append [] _
    simpa [list_cons_eq] using (hlead _).append_left ['[']
  exact either hcover hnil hcons fun _ => hapart

end IsLegible

/-- A record is legible if its fields are in front of what closes it, even if the last of them needs
this to end. -/
theorem isLegible_record {fields : α → List (Text × Form)} (hne : ∀ x, fields x ≠ [])
    (hclosed : ∀ layout : Layout, IsSelfDelimiting fun x =>
      joined layout ((fields x).map field) ++ (layout.trail [' '] ++ ['}']))
    (name : Text) : IsLegible fun x => record name (fields x) := by
  intro layout
  have hcode := (hclosed layout).prepend (name ++ [' ', '{'] ++ layout.lead [' '])
  simpa [record_eq (hne _)] using hcode

namespace AreLegible

variable {form : α → Form} {fields : β → List (Text × Form)}

theorem single (h : IsLegible form) (label : Text) : AreLegible fun x => [(label, form x)] where
  ne_nil x := List.cons_ne_nil _ _
  joined layout := by
    simpa [joined_singleton] using h.field label layout.inner

theorem cons (h : IsLegible form) (label : Text) (hfields : AreLegible fields) :
    AreLegible fun p : α × β => (label, form p.1) :: fields p.2 where
  ne_nil p := List.cons_ne_nil _ _
  joined layout := by
    have hpair := (h.field label layout.inner).pair
      ((hfields.joined layout).prepend layout.between)
    have hmap : ∀ y, (fields y).map field ≠ [] := by simpa using hfields.ne_nil
    simpa [joined_cons (hmap _)] using hpair

theorem record (h : AreLegible fields) (name : Text) :
    IsLegible fun x => Form.record name (fields x) :=
  isLegible_record h.ne_nil (fun layout => (h.joined layout).postpend _) name

end AreLegible

end Form

end Lexis
