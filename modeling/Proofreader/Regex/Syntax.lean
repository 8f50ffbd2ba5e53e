import Proofreader.Text.Category
import Proofreader.Text.Property
import Proofreader.Text.Blank
import Proofreader.Text.Case

/-!
# Regular expressions: syntax trees

A parsed regular expression is a `RegexNode` tree. Matching options (case-blind matching, a dot
that also matches a line feed, line anchors) are settled by the parser and stored in the nodes
they affect, so the matcher never consults an option state. Character classes are `CharSet`
trees: single characters, ranges, named classes, unions, intersections and complements.
-/

namespace Proofreader

namespace Regex

/-! ## Character classes -/

/-- Classes named by an escape or a property name. -/
inductive NamedClass where
  /-- `\w`: letters, marks, decimal digits, connector punctuation. -/
  | word
  /-- `\d`: decimal digits. -/
  | digit
  /-- `\s`: White_Space. -/
  | space
  /-- A general category, or a major class such as `L` when `major` is set. -/
  | category (g : GeneralCategory)
  | major (m : Char)
  | alphabetic
  | uppercase
  | lowercase
  | alphanumeric
  | hexDigit
  | ascii
  | any
  | assigned
deriving DecidableEq, Repr, Inhabited

namespace NamedClass

/-- Membership in a named class. -/
def contains : NamedClass → Char → Bool
  | word, c => Unicode.isWordChar c
  | digit, c => Unicode.isDecimalDigit c
  | space, c => Unicode.isWhiteSpace c
  | category g, c => Unicode.generalCategory c = g
  | major m, c => (Unicode.generalCategory c).major = m
  | alphabetic, c => Unicode.isAlphabetic c
  | uppercase, c => Unicode.isUppercase c
  | lowercase, c => Unicode.isLowercase c
  | alphanumeric, c => Unicode.isAlphabetic c || Unicode.isDecimalDigit c
  | hexDigit, c => ('0' ≤ c && c ≤ '9') || ('a' ≤ c && c ≤ 'f') || ('A' ≤ c && c ≤ 'F')
  | ascii, c => c.toNat < 128
  | any, _ => true
  | assigned, c => Unicode.generalCategory c != .Cn

end NamedClass

/-- A set of characters described by a bracket expression or an escape. -/
inductive CharSet where
  | single (c : Char)
  | range (lo hi : Char)
  | named (k : NamedClass)
  | union (parts : List CharSet)
  | inter (a b : CharSet)
  | complement (s : CharSet)
deriving Repr, Inhabited

namespace CharSet

mutual
/-- Membership of one character, with case taken literally. -/
def contains : CharSet → Char → Bool
  | single d, c => c = d
  | range lo hi, c => lo ≤ c && c ≤ hi
  | named k, c => k.contains c
  | union parts, c => containsAny parts c
  | inter a b, c => a.contains c && b.contains c
  | complement s, c => !s.contains c
/-- Membership in one of several sets. -/
def containsAny : List CharSet → Char → Bool
  | [], _ => false
  | s :: rest, c => s.contains c || containsAny rest c
end

mutual
/-- Case-blind membership: some case variant of the character lies in the set. A complement is
taken after closing the set under case, so `[^a]` rejects `A` as well. -/
def containsCaseless : CharSet → Char → Bool
  | complement s, c => !s.containsCaseless c
  | inter a b, c => a.containsCaseless c && b.containsCaseless c
  | union parts, c => containsAnyCaseless parts c
  | s, c => (Unicode.caseVariants c).any s.contains || s.contains c
/-- Case-blind membership in one of several sets. -/
def containsAnyCaseless : List CharSet → Char → Bool
  | [], _ => false
  | s :: rest, c => s.containsCaseless c || containsAnyCaseless rest c
end

/-- Membership, case-blind when `caseless` is set. -/
def accepts (s : CharSet) (caseless : Bool) (c : Char) : Bool :=
  if caseless then s.containsCaseless c else s.contains c

end CharSet

/-! ## Trees -/

/-- Zero-width assertions about the position. -/
inductive Anchor where
  /-- Start of the text. -/
  | textStart
  /-- End of the text. -/
  | textEnd
  /-- End of the text, or before a line feed that ends it. -/
  | textEndBeforeNewline
  /-- Start of the text or after a line feed. -/
  | lineStart
  /-- End of the text or before a line feed. -/
  | lineEnd
  | wordBoundary
  | notWordBoundary
  /-- The position where the search began. -/
  | searchStart
deriving DecidableEq, Repr, Inhabited

/-- How a repetition chooses its count. -/
inductive Greed where
  /-- As many as possible, giving back on failure. -/
  | greedy
  /-- As few as possible, taking more on failure. -/
  | lazy
  /-- As many as possible, never giving back. -/
  | possessive
deriving DecidableEq, Repr, Inhabited

/-- A regular expression tree. -/
inductive RegexNode where
  | empty
  /-- A literal text; `caseless` compares case foldings. -/
  | text (cs : List Char) (caseless : Bool)
  /-- One character of a set. -/
  | set (s : CharSet) (caseless : Bool)
  /-- Any character; a line feed only when `dotAll` is set. -/
  | dot (dotAll : Bool)
  | seq (a b : RegexNode)
  | alt (a b : RegexNode)
  /-- A capturing group with its number. -/
  | group (index : Nat) (body : RegexNode)
  /-- Repetition between `min` and `max` times (`none`: no bound). -/
  | repeat (body : RegexNode) (min : Nat) (max : Option Nat) (greed : Greed)
  /-- Look-around: `ahead` or behind, succeeding when the body matches (or not, if `negated`). -/
  | look (ahead negated : Bool) (body : RegexNode)
  /-- An atomic group: the first way the body matches is final. -/
  | atomic (body : RegexNode)
  | anchor (a : Anchor)
  /-- The text captured by a group, again. -/
  | backref (index : Nat) (caseless : Bool)
deriving Repr, Inhabited

namespace RegexNode

/-- Number of nodes, a measure of the pattern's size. -/
def size : RegexNode → Nat
  | seq a b => a.size + b.size + 1
  | alt a b => a.size + b.size + 1
  | group _ b => b.size + 1
  | «repeat» b _ _ _ => b.size + 1
  | look _ _ b => b.size + 1
  | atomic b => b.size + 1
  | _ => 1

/-- The shortest and longest text the node can match, `none` when unbounded. Back-references
count as unbounded. -/
def lengthBounds : RegexNode → Nat × Option Nat
  | empty => (0, some 0)
  | text cs caseless => (if caseless then 0 else cs.length, some (cs.length * 3))
  | set _ _ => (1, some 1)
  | dot _ => (1, some 1)
  | seq a b =>
    let (la, ha) := a.lengthBounds
    let (lb, hb) := b.lengthBounds
    (la + lb, do let x ← ha; let y ← hb; pure (x + y))
  | alt a b =>
    let (la, ha) := a.lengthBounds
    let (lb, hb) := b.lengthBounds
    (min la lb, do let x ← ha; let y ← hb; pure (max x y))
  | group _ b => b.lengthBounds
  | «repeat» b lo hi _ =>
    let (l, h) := b.lengthBounds
    (l * lo, do let x ← h; let n ← hi; pure (x * n))
  | look _ _ _ => (0, some 0)
  | atomic b => b.lengthBounds
  | anchor _ => (0, some 0)
  | backref _ _ => (0, none)

end RegexNode

end Regex

end Proofreader
