import Proofreader.Regex.Syntax
import Proofreader.Regex.Parse

/-!
# Regular expressions: backtracking matcher

A match attempt walks the tree depth first and tries the choices of each node in priority
order: the left alternative before the right one, more repetitions before fewer for a greedy
quantifier and fewer before more for a lazy one. The rest of the pattern is passed down as a
continuation, so a choice is undone exactly when everything after it fails, and the first
complete match found is the answer. That is the semantics of a backtracking engine: `a|ab`
matches only `a` at the start of `ab`.

A repetition whose body matched the empty text leaves the loop instead of iterating again, so
every attempt ends. Each step spends one unit of fuel; the fuel given is far above the depth
any match of the inputs in use reaches, and running out counts as no match.
-/

namespace Proofreader

namespace Regex

/-- The state of an attempt: the position and the spans of the groups closed so far. -/
structure MatchState where
  pos : Nat
  captures : Array (Option (Nat × Nat))
deriving Inhabited

/-- The text being matched and the position where the search began. -/
structure Subject where
  chars : Array Char
  searchStart : Nat

/-! ## Literal text -/

/-- Matches `cs` exactly from `p`, returning the end. -/
def matchExact (chars : Array Char) : List Char → Nat → Option Nat
  | [], p => some p
  | c :: rest, p => if chars[p]? = some c then matchExact chars rest (p + 1) else none

/-- Consumes whole characters from `p` whose case foldings spell out `target`. -/
def matchFolded (chars : Array Char) (target : List Char) (p : Nat) : Option Nat :=
  match target with
  | [] => some p
  | _ :: _ =>
    if h : p < chars.size then
      let fc := Unicode.charFold chars[p]
      if fc.isPrefixOf target then matchFolded chars (target.drop fc.length) (p + 1) else none
    else none
termination_by chars.size - p

/-- Matches a literal text from `p`; a caseless text compares case foldings. -/
def matchText (chars : Array Char) (cs : List Char) (caseless : Bool) (p : Nat) : Option Nat :=
  if caseless then matchFolded chars (cs.flatMap Unicode.charFold) p else matchExact chars cs p

/-! ## Assertions -/

/-- Whether the character at `i` exists and is a word character. -/
def wordAt (chars : Array Char) (i : Nat) : Bool :=
  match chars[i]? with
  | some c => Unicode.isWordChar c
  | none => false

/-- Whether an anchor holds at position `p`. -/
def Anchor.holds (a : Anchor) (t : Subject) (p : Nat) : Bool :=
  let n := t.chars.size
  match a with
  | .textStart => p = 0
  | .textEnd => p = n
  | .textEndBeforeNewline => p = n || (p + 1 = n && t.chars[p]? = some '\n')
  | .lineStart => p = 0 || (p ≤ n && t.chars[p - 1]? = some '\n')
  | .lineEnd => p = n || t.chars[p]? = some '\n'
  | .wordBoundary => (p > 0 && wordAt t.chars (p - 1)) != wordAt t.chars p
  | .notWordBoundary => (p > 0 && wordAt t.chars (p - 1)) == wordAt t.chars p
  | .searchStart => p = t.searchStart

/-- The first value `f` gives along the list. -/
def firstSome {α β : Type} (f : α → Option β) : List α → Option β
  | [] => none
  | x :: xs => match f x with
    | some b => some b
    | none => firstSome f xs

/-- Start positions for a look-behind at `p` whose body spans `lo` to `hi` characters. -/
def lookBehindStarts (p lo : Nat) (hi : Option Nat) : List Nat :=
  let far := match hi with
    | some h => p - min h p
    | none => 0
  if lo > p then [] else (List.range (p - lo - far + 1)).map fun i => p - lo - i

/-! ## The matcher -/

mutual

/-- Matches `n` at the state `s`, then hands the result to `k`; the first success is kept. -/
def run (fuel : Nat) (t : Subject) (n : RegexNode) (s : MatchState)
    (k : MatchState → Option MatchState) : Option MatchState :=
  match fuel with
  | 0 => none
  | f + 1 =>
    match n with
    | .empty => k s
    | .text cs caseless =>
      match matchText t.chars cs caseless s.pos with
      | some p => k { s with pos := p }
      | none => none
    | .set cset caseless =>
      match t.chars[s.pos]? with
      | some c => if cset.accepts caseless c then k { s with pos := s.pos + 1 } else none
      | none => none
    | .dot dotAll =>
      match t.chars[s.pos]? with
      | some c => if dotAll || c != '\n' then k { s with pos := s.pos + 1 } else none
      | none => none
    | .seq a b => run f t a s fun s' => run f t b s' k
    | .alt a b =>
      match run f t a s k with
      | some r => some r
      | none => run f t b s k
    | .group i b =>
      run f t b s fun s' => k { s' with captures := s'.captures.set! i (some (s.pos, s'.pos)) }
    | .repeat b lo hi greed =>
      match greed with
      | .possessive =>
        match repeatFrom f t b lo hi .greedy 0 s some with
        | some s' => k s'
        | none => none
      | g => repeatFrom f t b lo hi g 0 s k
    | .look true negated b =>
      match run f t b s some with
      | some s' => if negated then none else k { s' with pos := s.pos }
      | none => if negated then k s else none
    | .look false negated b =>
      let (lo, hi) := b.lengthBounds
      let found := firstSome (fun j =>
        run f t b { s with pos := j } fun s' => if s'.pos = s.pos then some s' else none)
        (lookBehindStarts s.pos lo hi)
      match found with
      | some s' => if negated then none else k { s' with pos := s.pos }
      | none => if negated then k s else none
    | .atomic b =>
      match run f t b s some with
      | some s' => k s'
      | none => none
    | .anchor a => if a.holds t s.pos then k s else none
    | .backref i caseless =>
      match s.captures[i]? with
      | some (some (a, b)) =>
        let cs := (t.chars.extract a b).toList
        match matchText t.chars cs caseless s.pos with
        | some p => k { s with pos := p }
        | none => none
      | _ => none

/-- Repetition after `count` rounds: required rounds first, then more or fewer rounds in the
order the greed gives. A round that matched nothing ends the loop. -/
def repeatFrom (fuel : Nat) (t : Subject) (b : RegexNode) (lo : Nat) (hi : Option Nat)
    (greed : Greed) (count : Nat) (s : MatchState)
    (k : MatchState → Option MatchState) : Option MatchState :=
  match fuel with
  | 0 => none
  | f + 1 =>
    if count < lo then
      run f t b s fun s' => repeatFrom f t b lo hi greed (count + 1) s' k
    else if hi = some count then k s
    else
      let more : Unit → Option MatchState := fun _ =>
        run f t b s fun s' =>
          if s'.pos = s.pos then k s' else repeatFrom f t b lo hi greed (count + 1) s' k
      match greed with
      | .lazy =>
        match k s with
        | some r => some r
        | none => more ()
      | _ =>
        match more () with
        | some r => some r
        | none => k s

end

/-! ## Compiled patterns -/

/-- A weight that bounds how deep an attempt on one character can go. -/
def RegexNode.weight : RegexNode → Nat
  | .seq a b => a.weight + b.weight + 1
  | .alt a b => a.weight + b.weight + 1
  | .group _ b => b.weight + 1
  | .repeat b lo _ _ => (lo + 2) * (b.weight + 2)
  | .look _ _ b => b.weight + 1
  | .atomic b => b.weight + 1
  | _ => 1

/-- The result of a successful match: where it starts and ends, and the group spans. -/
structure Found where
  start : Nat
  stop : Nat
  groups : Array (Option (Nat × Nat))

/-- The text of group `i` of a match (group 0 is the whole match). -/
def Found.text (m : Found) (chars : Array Char) (i : Nat) : Option String :=
  if i = 0 then some (String.ofList (chars.extract m.start m.stop).toList)
  else
    match m.groups[i]? with
    | some (some (a, b)) => some (String.ofList (chars.extract a b).toList)
    | _ => none

/-- The first match that starts exactly at `pos`. -/
def Parsed.matchAt (p : Parsed) (chars : Array Char) (searchStart pos : Nat) : Option Found :=
  let fuel := 4 * (p.root.weight + 8) * (chars.size + 8)
  let init : MatchState := ⟨pos, Array.replicate (p.groups + 1) none⟩
  (run fuel ⟨chars, searchStart⟩ p.root init some).map fun s => ⟨pos, s.pos, s.captures⟩

/-- The leftmost match starting at or after `start`. -/
def Parsed.search (p : Parsed) (chars : Array Char) (start : Nat) : Option Found :=
  firstSome (fun i => p.matchAt chars start (start + i)) (List.range (chars.size + 1 - start))

/-- Whether the first match at the start of `text` covers all of it. -/
def Parsed.matchesWhole (p : Parsed) (text : String) : Bool :=
  let chars := text.toList.toArray
  match p.matchAt chars 0 0 with
  | some m => m.stop = chars.size
  | none => false

/-- Replaces every match by `rep` of it, scanning left to right. An empty match right where
the previous match ended is skipped by moving one character on. -/
def Parsed.replaceAll (p : Parsed) (text : String) (rep : Found → String) : String :=
  let chars := text.toList.toArray
  let copy (a b : Nat) : String := String.ofList (chars.extract a b).toList
  let rec go (fuel : Nat) (lastEnd : Nat) (lastMatch : Option Nat) (copied : Nat)
      (acc : String) : String :=
    match fuel with
    | 0 => acc ++ copy copied chars.size
    | f + 1 =>
      if lastEnd > chars.size then acc ++ copy copied chars.size
      else
        match p.search chars lastEnd with
        | none => acc ++ copy copied chars.size
        | some m =>
          if m.start = m.stop && lastMatch = some m.stop then
            go f (lastEnd + 1) lastMatch copied acc
          else
            go f m.stop (some m.stop) m.stop (acc ++ copy copied m.start ++ rep m)
  go (2 * chars.size + 4) 0 none 0 ""

end Regex

end Proofreader
