import Proofreader.Error
import Proofreader.Text.Case

/-!
# Rule identifiers and selectors

A rule is identified as `CATEGORY/NAME`. Identifiers and categories are compared without regard
to case (by full case folding), so `Grammar/has_been` names the same rule as `GRAMMAR/HAS_BEEN`.
Their order, used for sorting, is the plain order of the texts: category first, then name.
A selector picks rules either by category or by full identifier.
-/

namespace Proofreader

/-- A category of rules. -/
structure Category where
  name : String
deriving Repr, Inhabited

/-- A rule identifier: a category and a name within it. -/
structure RuleId where
  category : Category
  name : String
deriving Repr, Inhabited

namespace Category

/-- Equality up to case. -/
def same (a b : Category) : Bool := Unicode.eqIgnoreCase a.name b.name

/-- The identifier of the rule `name` in this category. -/
def join (c : Category) (name : String) : RuleId := ⟨c, name⟩

end Category

namespace RuleId

/-- The written form `CATEGORY/NAME`. -/
def text (id : RuleId) : String := id.category.name ++ "/" ++ id.name

/-- Equality up to case, of category and of name. -/
def same (a b : RuleId) : Bool :=
  a.category.same b.category && Unicode.eqIgnoreCase a.name b.name

/-- The plain order of identifiers: by category text, then by name text. -/
def lt (a b : RuleId) : Bool :=
  a.category.name < b.category.name ||
    (a.category.name = b.category.name && a.name < b.name)

/-- Reads `CATEGORY/NAME`: exactly one slash, both sides non-empty. -/
def parse (text : String) : Except Error RuleId :=
  match text.toList.splitOn '/' with
  | [c, n] =>
    if c.isEmpty || n.isEmpty then .error (.badId text)
    else .ok ⟨⟨String.ofList c⟩, String.ofList n⟩
  | _ => .error (.badId text)

/-- A parsed identifier is written as the text it was read from. -/
theorem text_of_parse {t : String} {id : RuleId} (h : parse t = .ok id) : id.text = t := by
  unfold parse at h
  -- the text is the two sides of its one slash put back together
  have hjoin : ['/'].intercalate (t.toList.splitOn '/') = t.toList := List.intercalate_splitOn '/'
  split at h
  · rename_i c n hsplit
    split at h
    · cases h
    · cases h
      rw [hsplit] at hjoin
      apply String.ext
      simpa [text, String.toList_append, String.toList_ofList] using hjoin
  · cases h

theorem parse_text_of_parse {t : String} {id : RuleId} (h : parse t = .ok id) :
    parse id.text = .ok id := by
  rw [text_of_parse h]
  exact h

end RuleId

/-- Picks rules by category or by identifier. -/
inductive Selector where
  | category (c : Category)
  | rule (id : RuleId)
deriving Repr, Inhabited

namespace Selector

/-- A text with a slash selects one rule, any other non-empty text a category. -/
def parse (text : String) : Except Error Selector :=
  if text.contains '/' then (RuleId.parse text).map .rule
  else if text.isEmpty then .error (.badId text)
  else .ok (.category ⟨text⟩)

/-- The written form of a selector. -/
def text : Selector → String
  | category c => c.name
  | rule id => id.text

/-- A parsed selector is written as the text it was read from. -/
theorem text_of_parse {t : String} {s : Selector} (h : parse t = .ok s) : s.text = t := by
  unfold parse at h
  split at h
  · cases hid : RuleId.parse t with
    | error e =>
      rw [hid] at h
      cases h
    | ok id =>
      rw [hid] at h
      cases h
      exact RuleId.text_of_parse hid
  · split at h
    · cases h
    · cases h
      rfl

theorem parse_text_of_parse {t : String} {s : Selector} (h : parse t = .ok s) :
    parse s.text = .ok s := by
  rw [text_of_parse h]
  exact h

/-- Whether the selector picks the rule with this identifier. -/
def selects (s : Selector) (id : RuleId) : Bool :=
  match s with
  | category c => id.category.same c
  | rule r => id.same r

/-- Equality up to case, of the same kind of selector. -/
def same : Selector → Selector → Bool
  | category a, category b => a.same b
  | rule a, rule b => a.same b
  | _, _ => false

end Selector

end Proofreader
