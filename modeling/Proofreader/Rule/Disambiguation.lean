import Proofreader.Rule.Grammar

/-!
# Disambiguation rules

A disambiguation rule changes the readings of the tokens it matches instead of reporting them:
it keeps only the readings whose tag matches (and keeps all if none does), removes the readings
whose tag matches, replaces all readings by one, or adds one. Sentinel readings always stay, at
the end. A reading with an empty lemma takes the token's text as lemma.

A rule works on all non-overlapping matches of its pattern; the tokens changed are those of the
marked parts, or of the whole match when no part is marked. Rules run one after another, each
on the result of the one before; a rule that fails leaves the sentence as it was.
-/

namespace Proofreader

/-- What a disambiguation rule does to the readings of a token. -/
inductive ReadingAction where
  | filter (tag : Matcher)
  | remove (tag : Matcher)
  | replace (r : Reading)
  | add (r : Reading)
deriving Inhabited

namespace ReadingAction

/-- The reading, with the token's text as lemma if its lemma is empty. -/
def withLemma (r : Reading) (t : Token) : Reading :=
  if r.lemmaForm.isEmpty then { r with lemmaForm := t.text } else r

/-- The new readings of a token. -/
def apply (a : ReadingAction) (t : Token) : List Reading :=
  let sentinels := t.readings.filter Reading.isSentinel
  let others := t.readings.filter (!·.isSentinel)
  match a with
  | filter m =>
    let kept := others.filter fun r => m.acceptsTag r.tag
    if kept.isEmpty then t.readings else kept ++ sentinels
  | remove m => others.filter (fun r => !m.acceptsTag r.tag) ++ sentinels
  | replace r => [withLemma r t] ++ sentinels
  | add r =>
    let r := withLemma r t
    (if others.contains r then others else others ++ [r]) ++ sentinels

/-- Every action keeps the sentinel readings of the token it changes. -/
theorem sentinel_mem_apply (a : ReadingAction) (t : Token) {x : Reading} (hx : x ∈ t.readings)
    (hs : x.isSentinel = true) : x ∈ a.apply t := by
  have hsent : x ∈ t.readings.filter Reading.isSentinel := List.mem_filter.2 ⟨hx, hs⟩
  cases a with
  | filter m =>
    -- a filter that keeps nothing leaves the readings as they were
    simp only [apply]
    split
    · exact hx
    · exact List.mem_append_right _ hsent
  | remove m => exact List.mem_append_right _ hsent
  | replace r => exact List.mem_append_right _ hsent
  | add r => exact List.mem_append_right _ hsent

end ReadingAction

/-- A rule that changes readings. -/
structure DisambiguationRule where
  id : RuleId
  engine : Engine
  action : ReadingAction
  stepBudget : Nat := defaultStepBudget
deriving Inhabited

namespace DisambiguationRule

/-- View indices of the tokens to change for one match. -/
def markedIndices (r : DisambiguationRule) (graph : MatchGraph) : List Nat :=
  let parts := r.engine.composition.parts.toList
  let spanIndices (s : Nat × Nat) : List Nat := (List.range (s.2 - s.1)).map (· + s.1)
  if parts.any (·.marker) then
    ((List.range parts.length).filter fun i => (r.engine.composition.part i).marker).flatMap
      fun i => match graph.group? (i + 1) with
        | some s => spanIndices s
        | none => []
  else spanIndices graph.span

/-- Changes the readings of the tokens at the given view indices, one after another. -/
def changeAll (r : DisambiguationRule) (view : View) :
    List Nat → Array Token → Except Error (Array Token)
  | [], tokens => .ok tokens
  | i :: rest, tokens => do
    let j ← view.fullIndex i
    match tokens[j]? with
    | some t => r.changeAll view rest (tokens.set! j (t.withReadings (r.action.apply t)))
    | none => r.changeAll view rest tokens

/-- The sentence with the readings of all matched tokens changed. -/
def apply (r : DisambiguationRule) (s : Sentence) : Except Error Sentence := do
  let view := s.view
  let graphs ← match r.engine.findMatches view.tokens true (StepBudget.fresh r.stepBudget) with
    | (.done gs, _) => pure gs
    | (.exceeded, _) => throw (.tooComplex r.id.text r.stepBudget)
  let indices := graphs.flatMap r.markedIndices
  let tokens ← r.changeAll view indices s.tokens
  pure ⟨tokens⟩

end DisambiguationRule

/-- Disambiguation rules applied in order. -/
structure Disambiguator where
  rules : List DisambiguationRule := []
deriving Inhabited

namespace Disambiguator

/-- Applies every rule in order; a rule that fails is skipped. -/
def apply (d : Disambiguator) (s : Sentence) : Sentence :=
  d.rules.foldl (fun s r => match r.apply s with
    | .ok s' => s'
    | .error _ => s) s

end Disambiguator

end Proofreader
