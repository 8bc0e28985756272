import SynthesisHoles.Proofs.Text.Escapes

/-!
# Written JSON values can be told apart

A JSON value has two written forms, which differ in blanks only. Here a layout says which blanks stand at the
starts of lines and behind colons, and there is one form for each layout; the compact and the indented form
are those of two layouts.

The first character of a form tells of which sort the value is. Strings, lists and objects close themselves,
and what stands behind a number in a list or an object ends it. So each form is legible, and the main
statement follows: values with the same written form are equal.
-/

namespace SynthesisHoles.Text

/-! ## Layouts -/

/-- The blanks of written JSON values: at the start of a line of each level, and behind a colon. -/
structure JsonLayout where
  lineStart : Nat → List Char
  afterColon : List Char

namespace JsonLayout

/-- No blanks. -/
def tight : JsonLayout where
  lineStart _ := []
  afterColon := []

/-- Each part on a line of its own, indented by two spaces a level. -/
def spread : JsonLayout where
  lineStart level := '\n' :: List.replicate (2 * level) ' '
  afterColon := [' ']

/-- A layout has nothing but spaces and line breaks at the starts of lines. -/
def IsBlank (layout : JsonLayout) : Prop :=
  ∀ level, ∀ sign ∈ layout.lineStart level, sign = ' ' ∨ sign = '\n'

theorem isBlank_tight : tight.IsBlank := by
  intro level sign member
  cases member

theorem isBlank_spread : spread.IsBlank := by
  intro level sign member
  rcases List.mem_cons.mp member with lineBreak | space
  · exact Or.inr lineBreak
  · exact Or.inl (List.eq_of_mem_replicate space)

/-- Parts behind a first one, each behind a comma and at the start of a line. -/
def separated (layout : JsonLayout) (level : Nat) (parts : List (List Char)) : List Char :=
  parts.flatMap fun part => ',' :: (layout.lineStart level ++ part)

/-- Parts between brackets; nothing between the brackets of no part. -/
def enclosed
    (layout : JsonLayout)
    (opening closing : Char)
    (level : Nat) :
    List (List Char) → List Char
  | [] => [opening, closing]
  | first :: rest =>
      opening ::
        (layout.lineStart (level + 1) ++
          (first ++ (layout.separated (level + 1) rest ++ (layout.lineStart level ++ [closing]))))

end JsonLayout

namespace JsonValue

mutual

/-- Written form in a layout, starting at a level. -/
def form (layout : JsonLayout) (level : Nat) : JsonValue → List Char
  | .number value => (toString value).toList
  | .boolean value => if value then ['t', 'r', 'u', 'e'] else ['f', 'a', 'l', 's', 'e']
  | .string value => (jsonString value).toList
  | .list items => layout.enclosed '[' ']' level (formsOfItems layout (level + 1) items)
  | .object members =>
      layout.enclosed '\x7b' '\x7d' level (formsOfMembers layout (level + 1) members)

/-- Written forms of the items of a list. -/
def formsOfItems (layout : JsonLayout) (level : Nat) : List JsonValue → List (List Char)
  | [] => []
  | item :: rest => item.form layout level :: formsOfItems layout level rest

/-- Written forms of the members of an object. -/
def formsOfMembers
    (layout : JsonLayout)
    (level : Nat) :
    List (String × JsonValue) → List (List Char)
  | [] => []
  | (name, value) :: rest =>
      ((jsonString name).toList ++ ':' :: (layout.afterColon ++ value.form layout level)) ::
        formsOfMembers layout level rest

end

/-- Written form of one member of an object. -/
def memberForm (layout : JsonLayout) (level : Nat) : String × JsonValue → List Char :=
  writePair (fun name => (jsonString name).toList) (':' :: layout.afterColon) (form layout level)

theorem formsOfItems_eq_map
    (layout : JsonLayout)
    (level : Nat)
    (items : List JsonValue) :
    formsOfItems layout level items = items.map (form layout level) := by
  induction items with
  | nil => rfl
  | cons item rest hypothesis => rw [formsOfItems, hypothesis, List.map_cons]

theorem formsOfMembers_eq_map
    (layout : JsonLayout)
    (level : Nat)
    (members : List (String × JsonValue)) :
    formsOfMembers layout level members = members.map (memberForm layout level) := by
  induction members with
  | nil => rfl
  | cons member rest hypothesis =>
      rw [formsOfMembers, hypothesis, List.map_cons]
      rfl

end JsonValue

/-! ## The compact and the indented form -/

/-- Joined parts are the first part and then each other part behind a separator. -/
theorem intercalate_cons_eq
    (separator first : List Char)
    (rest : List (List Char)) :
    separator.intercalate (first :: rest) =
      first ++ rest.flatMap fun part => separator ++ part := by
  induction rest generalizing first with
  | nil => simp
  | cons second others hypothesis =>
      rw [List.intercalate_cons_cons, hypothesis, List.flatMap_cons, List.append_assoc,
        List.append_assoc]

namespace JsonLayout

theorem enclosed_tight
    (opening closing : Char)
    (level : Nat)
    (parts : List (List Char)) :
    tight.enclosed opening closing level parts =
      opening :: ([','].intercalate parts ++ [closing]) := by
  cases parts with
  | nil => rfl
  | cons first rest =>
      rw [intercalate_cons_eq, List.append_assoc]
      rfl

theorem toList_lineStart (level : Nat) :
    (JsonValue.lineStart level).toList = spread.lineStart level := by
  simp [JsonValue.lineStart, spread]

theorem enclosed_spread
    (opening closing : Char)
    (level : Nat)
    (parts : List String) :
    (JsonValue.enclose (String.singleton opening) (String.singleton closing) level parts).toList =
      spread.enclosed opening closing level (parts.map String.toList) := by
  cases parts with
  | nil => simp [JsonValue.enclose, enclosed]
  | cons first rest =>
      simp [JsonValue.enclose, enclosed, separated, String.toList_intercalate,
        intercalate_cons_eq, toList_lineStart, Function.comp_def, List.flatMap_map]

end JsonLayout

namespace JsonValue

open JsonLayout (tight spread)

mutual

theorem toList_compact (level : Nat) (value : JsonValue) :
    value.compact.toList = value.form tight level := by
  match value with
  | .number _ => rfl
  | .boolean value => cases value <;> rfl
  | .string _ => rfl
  | .list items =>
      have inside := toList_compactItems (level + 1) items
      rw [compact, form, JsonLayout.enclosed_tight, ← inside]
      simp [String.toList_intercalate]
  | .object members =>
      have inside := toList_compactMembers (level + 1) members
      rw [compact, form, JsonLayout.enclosed_tight, ← inside]
      simp [String.toList_intercalate]

theorem toList_compactItems (level : Nat) (items : List JsonValue) :
    (compactItems items).map String.toList = formsOfItems tight level items := by
  match items with
  | [] => rfl
  | item :: rest =>
      have first := toList_compact level item
      have others := toList_compactItems level rest
      rw [compactItems, formsOfItems, List.map_cons, first, others]

theorem toList_compactMembers (level : Nat) (members : List (String × JsonValue)) :
    (compactMembers members).map String.toList = formsOfMembers tight level members := by
  match members with
  | [] => rfl
  | (name, value) :: rest =>
      have first := toList_compact level value
      have others := toList_compactMembers level rest
      rw [compactMembers, formsOfMembers, List.map_cons, others, ← first]
      simp [tight]

end

mutual

theorem toList_indentedAt (level : Nat) (value : JsonValue) :
    (value.indentedAt level).toList = value.form spread level := by
  match value with
  | .number _ => rfl
  | .boolean value =>
      rw [indentedAt, form]
      cases value <;> rfl
  | .string _ => rfl
  | .list items =>
      have inside := toList_indentedItems (level + 1) items
      rw [indentedAt, form, ← inside]
      exact JsonLayout.enclosed_spread '[' ']' level _
  | .object members =>
      have inside := toList_indentedMembers (level + 1) members
      rw [indentedAt, form, ← inside]
      exact JsonLayout.enclosed_spread '\x7b' '\x7d' level _

theorem toList_indentedItems (level : Nat) (items : List JsonValue) :
    (indentedItems level items).map String.toList = formsOfItems spread level items := by
  match items with
  | [] => rfl
  | item :: rest =>
      have first := toList_indentedAt level item
      have others := toList_indentedItems level rest
      rw [indentedItems, formsOfItems, List.map_cons, first, others]

theorem toList_indentedMembers (level : Nat) (members : List (String × JsonValue)) :
    (indentedMembers level members).map String.toList = formsOfMembers spread level members := by
  match members with
  | [] => rfl
  | (name, value) :: rest =>
      have first := toList_indentedAt level value
      have others := toList_indentedMembers level rest
      rw [indentedMembers, formsOfMembers, List.map_cons, others, ← first]
      simp [spread]

end

end JsonValue

/-! ## The first character of a form -/

/-- The sorts of JSON values. -/
inductive JsonSort
  | number
  | boolean
  | string
  | list
  | object
  deriving DecidableEq

/-- Sort of a value. -/
def JsonValue.sort : JsonValue → JsonSort
  | .number _ => .number
  | .boolean _ => .boolean
  | .string _ => .string
  | .list _ => .list
  | .object _ => .object

/-- Sort of the values of which the forms start with a character. -/
def sortFrom? (first : Char) : Option JsonSort :=
  if isNumeral first then some .number
  else if first = 't' ∨ first = 'f' then some .boolean
  else if first = '"' then some .string
  else if first = '[' then some .list
  else if first = '\x7b' then some .object
  else none

/-- A sign with which no value starts. -/
def IsMark (character : Char) : Prop :=
  sortFrom? character = none

theorem IsMark.isNumeral_eq_false
    {character : Char}
    (mark : IsMark character) :
    isNumeral character = false := by
  cases numeral : isNumeral character with
  | false => rfl
  | true => simp [IsMark, sortFrom?, numeral] at mark

/-- A text starts as the form of a value of some sort does. -/
def StartsAs (sort : JsonSort) (text : List Char) : Prop :=
  ∃ first rest, text = first :: rest ∧ sortFrom? first = some sort

theorem startsAs_enclosed
    {layout : JsonLayout}
    {opening : Char}
    {sort : JsonSort}
    (opens : sortFrom? opening = some sort)
    (closing : Char)
    (level : Nat)
    (parts : List (List Char)) :
    StartsAs sort (layout.enclosed opening closing level parts) := by
  cases parts with
  | nil => exact ⟨opening, [closing], rfl, opens⟩
  | cons first rest => exact ⟨opening, _, rfl, opens⟩

theorem startsAs_jsonString (text : String) : StartsAs .string (jsonString text).toList := by
  rw [jsonString, String.toList_ofList]
  exact ⟨'"', _, rfl, rfl⟩

theorem startsAs_integer (value : Int) : StartsAs .number (toString value).toList := by
  rcases List.exists_cons_of_ne_nil (toString_integer_ne_nil value) with ⟨first, rest, digits⟩
  have numeral : isNumeral first = true := by
    apply isNumeral_of_mem_integer value
    rw [digits]
    exact List.mem_cons_self
  refine ⟨first, rest, digits, ?_⟩
  rw [sortFrom?, if_pos numeral]

/-- The form of a value starts as the forms of its sort do. -/
theorem JsonValue.startsAs_form
    (layout : JsonLayout)
    (level : Nat)
    (value : JsonValue) :
    StartsAs value.sort (value.form layout level) := by
  cases value with
  | number value => exact startsAs_integer value
  | boolean value =>
      cases value with
      | true => exact ⟨'t', _, rfl, rfl⟩
      | false => exact ⟨'f', _, rfl, rfl⟩
  | string value => exact startsAs_jsonString value
  | list items => exact startsAs_enclosed rfl _ _ _
  | object members => exact startsAs_enclosed rfl _ _ _

/-- Texts that start alike start as forms of one sort. -/
theorem StartsAs.sort_eq
    {left right : List Char}
    {sort otherSort : JsonSort}
    (starts : StartsAs sort left)
    (otherStarts : StartsAs otherSort right)
    {rest otherRest : List Char}
    (same : left ++ rest = right ++ otherRest) :
    sort = otherSort := by
  rcases starts with ⟨first, behind, rfl, told⟩
  rcases otherStarts with ⟨otherFirst, otherBehind, rfl, otherTold⟩
  rw [List.cons_append, List.cons_append, List.cons.injEq] at same
  rw [same.1, otherTold, Option.some_inj] at told
  exact told.symm

/-- A text that starts with a mark starts as no form. -/
theorem StartsAs.ne_of_isMark
    {text : List Char}
    {sort : JsonSort}
    (starts : StartsAs sort text)
    {mark : Char}
    (isMark : IsMark mark)
    (rest behind : List Char) :
    mark :: rest ≠ text ++ behind := by
  rintro same
  rcases starts with ⟨first, others, rfl, startsSome⟩
  rw [List.cons_append, List.cons.injEq] at same
  rw [IsMark, same.1, startsSome] at isMark
  cases isMark

/-! ## Parts between brackets -/

/-- A sign before which no further part stands: it is no comma, and no value starts with it. -/
structure IsEnding (sign : Char) : Prop where
  isMark : IsMark sign
  noComma : sign ≠ ','

/-- A closing bracket is an ending sign and no blank. -/
structure IsClosing (sign : Char) : Prop extends IsEnding sign where
  noBlank : ¬ (sign = ' ' ∨ sign = '\n')

theorem isClosing_bracket : IsClosing ']' where
  isMark := rfl
  noComma := by decide
  noBlank := by decide

theorem isClosing_brace : IsClosing '\x7d' where
  isMark := rfl
  noComma := by decide
  noBlank := by decide

namespace JsonLayout

variable {layout : JsonLayout} {closing : Char}

/-- A line with nothing but a closing bracket starts with an ending sign. -/
theorem IsBlank.isEnding_head
    (blank : layout.IsBlank)
    (level : Nat)
    (closes : IsClosing closing)
    (rest : List Char) :
    ∃ first behind, layout.lineStart level ++ closing :: rest = first :: behind ∧ IsEnding first := by
  cases line : layout.lineStart level with
  | nil => exact ⟨closing, rest, rfl, closes.toIsEnding⟩
  | cons first others =>
      refine ⟨first, others ++ closing :: rest, rfl, ?_⟩
      have member : first ∈ layout.lineStart level := by
        rw [line]
        exact List.mem_cons_self
      rcases blank level first member with rfl | rfl
      · exact ⟨rfl, by decide⟩
      · exact ⟨rfl, by decide⟩

/-- What stands behind a part in brackets ends a number: a comma, a blank or the closing bracket. -/
theorem endsNumeral_separated
    (blank : layout.IsBlank)
    (level outer : Nat)
    (closes : IsClosing closing)
    (parts : List (List Char))
    (rest : List Char) :
    EndsNumeral (layout.separated level parts ++ (layout.lineStart outer ++ closing :: rest)) := by
  cases parts with
  | nil =>
      rcases blank.isEnding_head outer closes rest with ⟨first, behind, starts, ending⟩
      rw [separated, List.flatMap_nil, List.nil_append, starts]
      exact endsNumeral_cons ending.isMark.isNumeral_eq_false behind
  | cons part others => exact endsNumeral_cons rfl _

/-- Behind the last part stands no comma. -/
theorem lineStart_closing_ne_separated
    (blank : layout.IsBlank)
    (level outer : Nat)
    (closes : IsClosing closing)
    (part : List Char)
    (others : List (List Char))
    (rest behind : List Char) :
    layout.lineStart outer ++ closing :: rest ≠
      layout.separated level (part :: others) ++ behind := by
  intro same
  rcases blank.isEnding_head outer closes rest with ⟨first, after, starts, ending⟩
  rw [starts] at same
  exact ending.noComma (List.head_eq_of_cons_eq same)

section Parts

variable {Part : Type} {write : Part → List Char}

/--
Parts behind commas, up to a closing bracket, are told apart if each part is legible. Without the comma and
the start of the line, what is left begins with a part.
-/
theorem separated_append_inj
    (blank : layout.IsBlank)
    (level outer : Nat)
    (closes : IsClosing closing)
    {parts others : List Part}
    (legible : ∀ part ∈ parts, Legible write part)
    {rest otherRest : List Char}
    (same :
      layout.separated level (parts.map write) ++ (layout.lineStart outer ++ closing :: rest) =
        layout.separated level (others.map write) ++
          (layout.lineStart outer ++ closing :: otherRest)) :
    parts = others ∧ rest = otherRest := by
  induction parts generalizing others with
  | nil =>
      cases others with
      | nil =>
          have closed := List.append_cancel_left (List.append_cancel_left same)
          exact ⟨rfl, List.tail_eq_of_cons_eq closed⟩
      | cons other later =>
          exact absurd same (lineStart_closing_ne_separated blank level outer closes _ _ _ _)
  | cons part behind hypothesis =>
      cases others with
      | nil =>
          exact absurd same.symm (lineStart_closing_ne_separated blank level outer closes _ _ _ _)
      | cons other later =>
          rcases List.forall_mem_cons.mp legible with ⟨legiblePart, legibleBehind⟩
          have bothParts :
              write part ++
                  (layout.separated level (behind.map write) ++
                    (layout.lineStart outer ++ closing :: rest)) =
                write other ++
                  (layout.separated level (later.map write) ++
                    (layout.lineStart outer ++ closing :: otherRest)) := by
            simpa [separated] using same
          have ends := endsNumeral_separated blank level outer closes (behind.map write) rest
          have otherEnds :=
            endsNumeral_separated blank level outer closes (later.map write) otherRest
          rcases legiblePart ends otherEnds bothParts with ⟨rfl, sameBehind⟩
          rcases hypothesis legibleBehind sameBehind with ⟨rfl, sameRest⟩
          exact ⟨rfl, sameRest⟩

/-- A closing bracket does not start a line with a part that starts as a value does. -/
theorem closing_ne_lineStart
    (blank : layout.IsBlank)
    (level : Nat)
    (closes : IsClosing closing)
    {part : List Char}
    {sort : JsonSort}
    (starts : StartsAs sort part)
    (rest behind : List Char) :
    closing :: rest ≠ layout.lineStart level ++ (part ++ behind) := by
  intro same
  cases line : layout.lineStart level with
  | nil =>
      rw [line, List.nil_append] at same
      exact starts.ne_of_isMark closes.isMark rest behind same
  | cons first others =>
      rw [line, List.cons_append, List.cons.injEq] at same
      apply closes.noBlank
      apply blank level
      rw [line, same.1]
      exact List.mem_cons_self

/--
Parts between brackets are told apart if each part is legible and starts as a value does. If there are any,
a comma in the place of the opening bracket makes them parts behind commas.
-/
theorem enclosed_append_inj
    (blank : layout.IsBlank)
    (opening : Char)
    (level : Nat)
    (closes : IsClosing closing)
    {parts others : List Part}
    (starts : ∀ part, ∃ sort, StartsAs sort (write part))
    (legible : ∀ part ∈ parts, Legible write part)
    {rest otherRest : List Char}
    (same :
      layout.enclosed opening closing level (parts.map write) ++ rest =
        layout.enclosed opening closing level (others.map write) ++ otherRest) :
    parts = others ∧ rest = otherRest := by
  cases parts with
  | nil =>
      cases others with
      | nil => exact ⟨rfl, List.append_cancel_left same⟩
      | cons other later =>
          rcases starts other with ⟨_, otherStarts⟩
          have closed :
              closing :: rest =
                layout.lineStart (level + 1) ++
                  (write other ++
                    (layout.separated (level + 1) (later.map write) ++
                      (layout.lineStart level ++ closing :: otherRest))) := by
            simpa [enclosed] using same
          exact absurd closed (closing_ne_lineStart blank _ closes otherStarts _ _)
  | cons part behind =>
      cases others with
      | nil =>
          rcases starts part with ⟨_, partStarts⟩
          have closed :
              closing :: otherRest =
                layout.lineStart (level + 1) ++
                  (write part ++
                    (layout.separated (level + 1) (behind.map write) ++
                      (layout.lineStart level ++ closing :: rest))) := by
            simpa [enclosed] using same.symm
          exact absurd closed (closing_ne_lineStart blank _ closes partStarts _ _)
      | cons other later =>
          have separately :
              layout.separated (level + 1) ((part :: behind).map write) ++
                  (layout.lineStart level ++ closing :: rest) =
                layout.separated (level + 1) ((other :: later).map write) ++
                  (layout.lineStart level ++ closing :: otherRest) := by
            simpa [enclosed, separated] using same
          exact separated_append_inj blank (level + 1) level closes legible separately

end Parts

end JsonLayout

/-! ## Values -/

namespace JsonValue

variable {layout : JsonLayout}

theorem sort_eq_of_form_append
    {level : Nat}
    {value other : JsonValue}
    {rest otherRest : List Char}
    (same : value.form layout level ++ rest = other.form layout level ++ otherRest) :
    value.sort = other.sort :=
  (value.startsAs_form layout level).sort_eq (other.startsAs_form layout level) same

theorem startsAs_memberForm
    (layout : JsonLayout)
    (level : Nat)
    (member : String × JsonValue) :
    StartsAs .string (memberForm layout level member) := by
  rcases startsAs_jsonString member.1 with ⟨first, rest, starts, quote⟩
  rw [memberForm, writePair, starts]
  exact ⟨first, _, rfl, quote⟩

/-- A member is legible if its value is. -/
theorem legible_memberForm
    {level : Nat}
    {name : String}
    {value : JsonValue}
    (legible : Legible (form layout level) value) :
    Legible (memberForm layout level) (name, value) := by
  have colon : isNumeral ':' = false := rfl
  exact (legible_jsonString name).pair colon layout.afterColon legible

theorem legible_number (layout : JsonLayout) (level : Nat) (value : Int) :
    Legible (form layout level) (.number value) := by
  intro other rest otherRest ends otherEnds same
  have sameSort := sort_eq_of_form_append same
  cases other with
  | number other =>
      rw [form, form] at same
      rcases legible_integer value ends otherEnds same with ⟨rfl, sameRest⟩
      exact ⟨rfl, sameRest⟩
  | _ => cases sameSort

theorem legible_boolean (layout : JsonLayout) (level : Nat) (value : Bool) :
    Legible (form layout level) (.boolean value) := by
  intro other rest otherRest ends otherEnds same
  have sameSort := sort_eq_of_form_append same
  cases other with
  | boolean other =>
      rw [form, form] at same
      cases value <;> cases other <;> simp_all
  | _ => cases sameSort

theorem legible_string (layout : JsonLayout) (level : Nat) (value : String) :
    Legible (form layout level) (.string value) := by
  intro other rest otherRest ends otherEnds same
  have sameSort := sort_eq_of_form_append same
  cases other with
  | string other =>
      rw [form, form] at same
      rcases legible_jsonString value ends otherEnds same with ⟨rfl, sameRest⟩
      exact ⟨rfl, sameRest⟩
  | _ => cases sameSort

/-- A list is legible if its items are. -/
theorem legible_list
    (blank : layout.IsBlank)
    (level : Nat)
    {items : List JsonValue}
    (legible : ∀ item ∈ items, Legible (form layout (level + 1)) item) :
    Legible (form layout level) (.list items) := by
  intro other rest otherRest ends otherEnds same
  have sameSort := sort_eq_of_form_append same
  cases other with
  | list others =>
      rw [form, form, formsOfItems_eq_map, formsOfItems_eq_map] at same
      have starts (item : JsonValue) : ∃ sort, StartsAs sort (item.form layout (level + 1)) :=
        ⟨item.sort, item.startsAs_form layout (level + 1)⟩
      rcases
          JsonLayout.enclosed_append_inj blank '[' level isClosing_bracket starts legible
            same with
        ⟨rfl, sameRest⟩
      exact ⟨rfl, sameRest⟩
  | _ => cases sameSort

/-- An object is legible if its members are. -/
theorem legible_object
    (blank : layout.IsBlank)
    (level : Nat)
    {members : List (String × JsonValue)}
    (legible : ∀ member ∈ members, Legible (memberForm layout (level + 1)) member) :
    Legible (form layout level) (.object members) := by
  intro other rest otherRest ends otherEnds same
  have sameSort := sort_eq_of_form_append same
  cases other with
  | object others =>
      rw [form, form, formsOfMembers_eq_map, formsOfMembers_eq_map] at same
      have starts (member : String × JsonValue) :
          ∃ sort, StartsAs sort (memberForm layout (level + 1) member) :=
        ⟨.string, startsAs_memberForm layout (level + 1) member⟩
      rcases
          JsonLayout.enclosed_append_inj blank '\x7b' level isClosing_brace starts legible
            same with
        ⟨rfl, sameRest⟩
      exact ⟨rfl, sameRest⟩
  | _ => cases sameSort

mutual

/-- Each value is legible, in every layout of blanks. -/
theorem legible_form
    (blank : layout.IsBlank)
    (level : Nat)
    (value : JsonValue) :
    Legible (form layout level) value := by
  match value with
  | .number value => exact legible_number layout level value
  | .boolean value => exact legible_boolean layout level value
  | .string value => exact legible_string layout level value
  | .list items => exact legible_list blank level (legible_form_of_mem blank (level + 1) items)
  | .object members =>
      exact legible_object blank level (legible_memberForm_of_mem blank (level + 1) members)

theorem legible_form_of_mem
    (blank : layout.IsBlank)
    (level : Nat)
    (items : List JsonValue) :
    ∀ item ∈ items, Legible (form layout level) item := by
  match items with
  | [] => exact List.forall_mem_nil _
  | item :: rest =>
      have first := legible_form blank level item
      have others := legible_form_of_mem blank level rest
      exact List.forall_mem_cons.mpr ⟨first, others⟩

theorem legible_memberForm_of_mem
    (blank : layout.IsBlank)
    (level : Nat)
    (members : List (String × JsonValue)) :
    ∀ member ∈ members, Legible (memberForm layout level) member := by
  match members with
  | [] => exact List.forall_mem_nil _
  | (name, value) :: rest =>
      have first := legible_form blank level value
      have others := legible_memberForm_of_mem blank level rest
      exact List.forall_mem_cons.mpr ⟨legible_memberForm first, others⟩

end

/-- Values with the same compact form are equal. -/
theorem compact_inj {left right : JsonValue} :
    left.compact = right.compact ↔ left = right := by
  constructor
  · intro same
    rw [← String.toList_inj, toList_compact 0, toList_compact 0] at same
    exact (legible_form JsonLayout.isBlank_tight 0 left).eq_of_form same
  · intro same
    rw [same]

/-- Values with the same indented form are equal. -/
theorem indented_inj {left right : JsonValue} :
    left.indented = right.indented ↔ left = right := by
  constructor
  · intro same
    rw [indented, indented, ← String.toList_inj, toList_indentedAt, toList_indentedAt] at same
    exact (legible_form JsonLayout.isBlank_spread 0 left).eq_of_form same
  · intro same
    rw [same]

end JsonValue

end SynthesisHoles.Text
