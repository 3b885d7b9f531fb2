/-! # Name patterns

A pattern matches a whole name: `?` stands for one character, `*` for any run of characters, a
class in brackets for one character that is (or, after `!`, is not) in it, and every other
character for itself.  `**` is a whole path component and stands for any number of components.
`Glob.parse` reads a pattern or says where it is wrong; positions count characters. -/

namespace FirewallProbe

/-- A member of a character class. -/
inductive ClassItem where
  | single (c : Char)
  | range (first last : Char)
  deriving DecidableEq, Repr

/-- A piece of a pattern. -/
inductive GlobToken where
  | literal (c : Char)
  | anyChar
  | anyRun
  | anyComponents
  | within (items : List ClassItem)
  | except (items : List ClassItem)
  deriving DecidableEq, Repr

/-- A pattern. -/
structure Glob where
  tokens : List GlobToken
  deriving DecidableEq, Repr

/-- What is wrong with a pattern. -/
inductive GlobFault where
  | tooManyStars
  | partialComponent
  | openClass
  deriving DecidableEq, Repr

/-- The wording of a fault. -/
def GlobFault.message : GlobFault → String
  | .tooManyStars => "wildcards are either regular `*` or recursive `**`"
  | .partialComponent => "recursive wildcards must form a single path component"
  | .openClass => "invalid range pattern"

/-- A fault and its place. -/
structure GlobError where
  position : Nat
  fault : GlobFault
  deriving DecidableEq, Repr

/-- The wording of a pattern error. -/
def GlobError.message (e : GlobError) : String :=
  s!"Pattern syntax error near position {e.position}: {e.fault.message}"

namespace Glob

/-- The character between path components. -/
def separator : Char := '/'

/-- Reads the inside of a class; a hyphen between two characters makes a range. -/
def classItems : List Char → List ClassItem
  | a :: '-' :: b :: rest => .range a b :: classItems rest
  | a :: rest => .single a :: classItems rest
  | [] => []

/-- Splits at the bracket that closes a class; the first character never closes it. -/
def splitClass? : List Char → Option (List Char × List Char)
  | [] => none
  | c :: rest =>
    if rest.contains ']' then
      some (c :: rest.takeWhile (· != ']'), (rest.dropWhile (· != ']')).drop 1)
    else none

/-- Reads a class after its opening bracket. -/
def readClass? : List Char → Option (GlobToken × List Char)
  | '!' :: rest => (splitClass? rest).map fun (inside, rest) => (.except (classItems inside), rest)
  | cs => (splitClass? cs).map fun (inside, rest) => (.within (classItems inside), rest)

private theorem length_splitClass? {cs inside rest : List Char}
    (h : splitClass? cs = some (inside, rest)) : rest.length < cs.length := by
  match cs with
  | [] => simp [splitClass?] at h
  | c :: cs =>
    have hle := (List.dropWhile_sublist (p := (· != ']')) (l := cs)).length_le
    have hdrop := List.length_drop (i := 1) (l := cs.dropWhile (· != ']'))
    simp only [splitClass?, Option.ite_none_right_eq_some, Option.some.injEq, Prod.mk.injEq] at h
    obtain ⟨_, _, rfl⟩ := h
    simp only [List.length_cons]
    omega

private theorem length_readClass? {cs rest : List Char} {t : GlobToken}
    (h : readClass? cs = some (t, rest)) : rest.length < cs.length := by
  unfold readClass? at h
  split at h <;>
  · simp only [Option.map_eq_some_iff] at h
    obtain ⟨⟨inside, r⟩, hs, hr⟩ := h
    have hlt := length_splitClass? hs
    simp only [Prod.mk.injEq] at hr
    simp only [List.length_cons, ← hr.2]
    omega

/-- Reads the tokens of a pattern.  `position` counts the characters read, `before` is the last of
them, and `tokens` those read so far, the last one first. -/
def readTokens (position : Nat) (before : Option Char) (tokens : List GlobToken)
    (cs : List Char) : Except GlobError (List GlobToken) :=
  match cs with
  | [] => .ok tokens.reverse
  | '?' :: rest => readTokens (position + 1) (some '?') (.anyChar :: tokens) rest
  | '*' :: '*' :: '*' :: _ => .error ⟨position + 2, .tooManyStars⟩
  | '*' :: '*' :: rest =>
    -- A whole component starts the pattern or follows a separator.
    if before.all (· == separator) then
      -- Behind another token, two of them in a row count as one.
      let tokens := match tokens with
        | .anyComponents :: _ :: _ => tokens
        | _ => .anyComponents :: tokens
      match rest with
      | [] => .ok tokens.reverse
      | c :: rest =>
        -- The separator after it is part of the token.
        if c = separator then readTokens (position + 3) (some c) tokens rest
        else .error ⟨position + 2, .partialComponent⟩
    else .error ⟨position - 1, .partialComponent⟩
  | '*' :: rest => readTokens (position + 1) (some '*') (.anyRun :: tokens) rest
  | '[' :: rest =>
    match h : readClass? rest with
    | none => .error ⟨position, .openClass⟩
    | some (t, after) =>
      have := length_readClass? h
      readTokens (position + 1 + (rest.length - after.length)) (some ']') (t :: tokens) after
  | c :: rest => readTokens (position + 1) (some c) (.literal c :: tokens) rest
termination_by cs.length
decreasing_by all_goals simp_all; try omega

/-- Reads a pattern. -/
def parse (text : String) : Except GlobError Glob := do
  return ⟨← readTokens 0 none [] text.toList⟩

/-- Whether the character `c` is in one of the `items` of a class. -/
def inClass (items : List ClassItem) (c : Char) : Bool :=
  items.any fun
    | .single d => c == d
    | .range first last => first ≤ c && c ≤ last

/-- The rests of a name from which the pattern after `**` may go on: the whole of it, what follows
any separator, and nothing. -/
def componentRests : List Char → List (List Char)
  | [] => [[]]
  | c :: rest => if c == separator then rest :: componentRests rest else componentRests rest

/-- The rests of a list. -/
def rests : List Char → List (List Char)
  | [] => [[]]
  | c :: rest => (c :: rest) :: rests rest

/-- Whether tokens match a whole name. -/
def matchTokens : List GlobToken → List Char → Bool
  | [], cs => cs.isEmpty
  | .anyRun :: tokens, cs => (rests cs).any (matchTokens tokens)
  | .anyComponents :: tokens, cs => (cs :: componentRests cs).any (matchTokens tokens)
  | _ :: _, [] => false
  | .literal d :: tokens, c :: cs => c == d && matchTokens tokens cs
  | .anyChar :: tokens, _ :: cs => matchTokens tokens cs
  | .within items :: tokens, c :: cs => inClass items c && matchTokens tokens cs
  | .except items :: tokens, c :: cs => !inClass items c && matchTokens tokens cs

/-- Whether the pattern matches the whole `name`. -/
def isMatch (g : Glob) (name : String) : Bool := matchTokens g.tokens name.toList

end Glob

/-- A choice of names by patterns. -/
structure RoutineFilter where
  included : List Glob := []
  excluded : List Glob := []
  deriving DecidableEq, Repr

namespace RoutineFilter

/-- Reads the patterns, the included ones first, up to the first that is wrong. -/
def parse (included excluded : List String) : Except GlobError RoutineFilter := do
  let included ← included.mapM Glob.parse
  let excluded ← excluded.mapM Glob.parse
  return ⟨included, excluded⟩

/-- Whether `name` is chosen: some included pattern matches it, unless there is none at all, and no
excluded pattern does. -/
def allows (f : RoutineFilter) (name : String) : Bool :=
  (f.included.isEmpty || f.included.any (·.isMatch name)) && !f.excluded.any (·.isMatch name)

end RoutineFilter
end FirewallProbe
