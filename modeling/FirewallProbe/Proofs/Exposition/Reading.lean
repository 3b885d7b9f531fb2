import FirewallProbe.Proofs.Exposition.Grammar
import FirewallProbe.Proofs.Exposition.ValueText

/-!
# Reading a text exposition

`readText?` splits a text into lines, reads each line and puts the lines together to families.  Its
result is a list of `WrittenFamily`: what someone who scrapes the text gets to see.

## Key results

- `readLine?_helpLine`, `readLine?_kindLine`, `readLine?_sampleLine`: each written line is read as
  what it was written for
- `splitLines_textOf`: the lines of a text are the lines it was made of
- `families?_lines`: the lines of families are put together to the same families
-/

namespace FirewallProbe
namespace Exposition

/-- A series as it is read: its labels and the text of its value. -/
structure WrittenSeries where
  labels : List (String × String)
  value : String
  deriving DecidableEq, Repr

/-- A family as it is read. -/
structure WrittenFamily where
  name : String
  help : String
  kind : Kind
  series : List WrittenSeries
  deriving DecidableEq, Repr

/-- A line as it is read. -/
inductive Line where
  | help (name help : String)
  | kind (name : String) (kind : Kind)
  | sample (name : String) (series : WrittenSeries)
  deriving DecidableEq, Repr

/-! ## Lines -/

/-- Reads the name of a kind. -/
def readKind? (cs : List Char) : Option Kind :=
  if cs = Kind.gauge.name.toList then some .gauge
  else if cs = Kind.counter.name.toList then some .counter
  else none

/-- Reads the text of a value, which ends the line and has no blank. -/
def readValue? (cs : List Char) : Option String :=
  if cs = [] ∨ ' ' ∈ cs then none else some (String.ofList cs)

/-- Reads what follows the mark of a help line. -/
def readHelpLine? (cs : List Char) : Option Line :=
  match readIdentifier? isNameStart cs with
  | some (name, ' ' :: rest) => (readHelpText? rest).map fun help => .help name (String.ofList help)
  | _ => none

/-- Reads what follows the mark of a kind line. -/
def readKindLine? (cs : List Char) : Option Line :=
  match readIdentifier? isNameStart cs with
  | some (name, ' ' :: rest) => (readKind? rest).map fun kind => .kind name kind
  | _ => none

/-- Reads labels, value or both after the name of a sample. -/
def readSeries? : List Char → Option WrittenSeries
  | ' ' :: rest => (readValue? rest).map fun value => ⟨[], value⟩
  | '\x7b' :: rest =>
    match readLabels? rest with
    | some (labels, ' ' :: rest) => (readValue? rest).map fun value => ⟨labels, value⟩
    | _ => none
  | _ => none

/-- Reads the line of a sample. -/
def readSampleLine? (cs : List Char) : Option Line := do
  let (name, rest) ← readIdentifier? isNameStart cs
  return .sample name (← readSeries? rest)

/-- Reads a line. -/
def readLine? (cs : List Char) : Option Line :=
  match "# HELP ".toList.isPrefixOf? cs with
  | some rest => readHelpLine? rest
  | none =>
    match "# TYPE ".toList.isPrefixOf? cs with
    | some rest => readKindLine? rest
    | none => readSampleLine? cs

/-- The lines of a text, of which each has its line end. -/
def splitLines : List Char → Option (List (List Char))
  | [] => some []
  | c :: rest =>
    if c = '\n' then (splitLines rest).map ([] :: ·)
    else
      match splitLines rest with
      | some (line :: lines) => some ((c :: line) :: lines)
      | _ => none

/-! ## Families -/

/-- The series of a family at the front of lines, and the lines that follow them. -/
def takeSeries (name : String) : List Line → List WrittenSeries × List Line
  | .sample name' series :: rest =>
    if name' = name then
      let (own, others) := takeSeries name rest
      (series :: own, others)
    else ([], .sample name' series :: rest)
  | lines => ([], lines)

/-- `takeSeries` leaves no more lines than there were. -/
private theorem length_takeSeries_le (name : String) (lines : List Line) :
    (takeSeries name lines).2.length ≤ lines.length := by
  fun_induction takeSeries name lines with
  | case1 series rest own others heq ih =>
    rw [heq] at ih
    simp only [List.length_cons] at ih ⊢
    omega
  | case2 | case3 => exact Nat.le_refl _

/-- Puts lines together to families: help, kind, then the series, all of one name. -/
def families? : List Line → Option (List WrittenFamily)
  | [] => some []
  | .help name help :: .kind name' kind :: rest =>
    if name' = name then
      have := length_takeSeries_le name rest
      (families? (takeSeries name rest).2).map
        (⟨name, help, kind, (takeSeries name rest).1⟩ :: ·)
    else none
  | _ => none
termination_by lines => lines.length
decreasing_by
  simp only [List.length_cons]
  omega

/-- Whether every family, and every series of a family, stands once. -/
def IsUnique (families : List WrittenFamily) : Prop :=
  (families.map (·.name)).Nodup ∧ ∀ f ∈ families, (f.series.map (·.labels)).Nodup

instance (families : List WrittenFamily) : Decidable (IsUnique families) :=
  inferInstanceAs (Decidable (_ ∧ _))

/-- Reads a text. -/
def readText? (text : String) : Option (List WrittenFamily) := do
  let lines ← (← splitLines text.toList).mapM readLine?
  let families ← families? lines
  if IsUnique families then some families else none

/-! ## What was written is read -/

/-- `readKind?` reads the name of a kind back. -/
theorem readKind?_name (kind : Kind) : readKind? kind.name.toList = some kind := by
  cases kind <;> decide

/-- `readLine?` reads a `helpLine` back. -/
theorem readLine?_helpLine {name : String} (hname : isMetricName name = true) (help : String) :
    readLine? (helpLine name help) = some (.help name help) := by
  have hread := readIdentifier?_append (c := ' ') hname (by decide)
    (help.toList.flatMap escapedHelpChar)
  unfold readLine? helpLine
  simp [List.isPrefixOf?, readHelpLine?, hread, readHelpText?_escaped]

/-- `readLine?` reads a `kindLine` back. -/
theorem readLine?_kindLine {name : String} (hname : isMetricName name = true) (kind : Kind) :
    readLine? (kindLine name kind) = some (.kind name kind) := by
  have hread := readIdentifier?_append (c := ' ') hname (by decide) kind.name.toList
  unfold readLine? kindLine
  simp [List.isPrefixOf?, readKindLine?, hread, readKind?_name]

/-- A line that starts with a name is the line of a sample. -/
private theorem readLine?_of_isMetricName {name : String} (hname : isMetricName name = true)
    (rest : List Char) :
    readLine? (name.toList ++ rest) = readSampleLine? (name.toList ++ rest) := by
  unfold isMetricName at hname
  unfold readLine?
  cases hcs : name.toList with
  | nil => rw [hcs] at hname; simp [isIdentifier] at hname
  | cons c cs =>
    rw [hcs] at hname
    simp only [isIdentifier, Bool.and_eq_true] at hname
    -- Both marks begin with a character that no name holds.
    have hc : ('#' == c) = false := by
      rw [beq_eq_false_iff_ne]
      rintro rfl
      exact absurd hname.1 (by decide)
    simp [List.isPrefixOf?, hc]

/-- A character that the text of a value may hold. -/
def isValueChar (c : Char) : Bool := c.isAlphanum || c == '.' || c == '+' || c == '-'

/-- `valueChars` has no blank and no line end. -/
theorem isValueChar_of_mem {x : Float} {c : Char} (h : c ∈ valueChars x) :
    isValueChar c = true := by
  have hword : ∀ {cs : List Char}, cs.all isValueChar = true → c ∈ cs → isValueChar c = true :=
    fun hall hc => List.all_eq_true.1 hall c hc
  -- `Shows` tells for each kind of double which texts there are.
  have hshows := shows_valueChars x
  generalize valueChars x = cs, Binary64.ofFloat x = d at h hshows
  cases d with
  | nan =>
    obtain rfl : cs = ['N', 'a', 'N'] := hshows
    exact hword (by decide) h
  | infinite negative =>
    cases negative with
    | false =>
      obtain rfl : cs = ['+', 'I', 'n', 'f'] := hshows
      exact hword (by decide) h
    | true =>
      obtain rfl : cs = ['-', 'I', 'n', 'f'] := hshows
      exact hword (by decide) h
  | finite negative mantissa exponent =>
    obtain ⟨n, rfl, -⟩ := hshows
    rcases Numeral.mem_chars h with rfl | rfl | hdigit
    · decide
    · decide
    · simp [isValueChar, Char.isAlphanum, hdigit]

theorem valueChars_ne_nil (x : Float) : valueChars x ≠ [] := by
  have hshows := shows_valueChars x
  generalize valueChars x = cs, Binary64.ofFloat x = d at hshows
  rintro rfl
  cases d with
  | nan => cases hshows
  | infinite negative => cases negative <;> cases hshows
  | finite negative mantissa exponent =>
    obtain ⟨n, hchars, -⟩ := hshows
    exact n.chars_ne_nil hchars

/-- The text that is written for a value. -/
def valueText (x : Float) : String := String.ofList (valueChars x)

/-- `readValue?` takes `valueChars` as they are. -/
private theorem readValue?_valueChars (x : Float) :
    readValue? (valueChars x) = some (valueText x) := by
  have hblank : ' ' ∉ valueChars x := fun h => absurd (isValueChar_of_mem h) (by decide)
  simp [readValue?, valueChars_ne_nil, hblank, valueText]

/-- `readSeries?` reads the labels, where there are any, and the value of a sample back. -/
theorem readSeries?_written {labels : List (String × String)}
    (h : ∀ l ∈ labels, isLabelName l.1 = true) (x : Float) :
    readSeries? (labelsChars labels ++ ' ' :: valueChars x) = some ⟨labels, valueText x⟩ := by
  cases labels with
  | nil => simp [labelsChars, readSeries?, readValue?_valueChars]
  | cons label others =>
    have hread := readLabels?_written (List.cons_ne_nil label others) h (' ' :: valueChars x)
    simp only [labelsChars, readSeries?, List.cons_append, List.append_assoc, List.nil_append,
      hread, readValue?_valueChars, Option.map_some]

/-- `readLine?` reads a `sampleLine` back. -/
theorem readLine?_sampleLine {s : Sample} (hname : isMetricName s.name = true)
    (hlabels : ∀ l ∈ s.labels, isLabelName l.1 = true) :
    readLine? (sampleLine s) = some (.sample s.name ⟨s.labels, valueText s.value⟩) := by
  have hseries := readSeries?_written hlabels s.value
  -- What follows the name starts with a brace or with a blank.
  have hname' : readIdentifier? isNameStart
      (s.name.toList ++ (labelsChars s.labels ++ ' ' :: valueChars s.value)) =
        some (s.name, labelsChars s.labels ++ ' ' :: valueChars s.value) := by
    cases s.labels with
    | nil => exact readIdentifier?_append hname (by decide) _
    | cons label others => exact readIdentifier?_append hname (by decide) _
  unfold sampleLine
  rw [List.append_assoc, readLine?_of_isMetricName hname, readSampleLine?, hname']
  simp [hseries]

/-! ## No line holds a line end -/

/-- A metric name has no line end. -/
private theorem newline_not_mem_name {name : String} (hname : isMetricName name = true) :
    '\n' ∉ name.toList :=
  @not_mem_of_isIdentifier isNameStart _ _ hname (by decide)

/-- Every line has three parts, the last one after a blank. -/
private theorem newline_not_mem_parts {first second third : List Char} (h₁ : '\n' ∉ first)
    (h₂ : '\n' ∉ second) (h₃ : '\n' ∉ third) : '\n' ∉ first ++ second ++ ' ' :: third := by
  intro h
  rcases List.mem_append.1 h with h | h
  · exact (List.mem_append.1 h).elim h₁ h₂
  · exact (List.mem_cons.1 h).elim (by decide) h₃

/-- `helpLine` is one line, since line ends in `help` are escaped. -/
theorem newline_not_mem_helpLine {name : String} (hname : isMetricName name = true)
    (help : String) : '\n' ∉ helpLine name help :=
  newline_not_mem_parts (by decide) (newline_not_mem_name hname)
    (newline_not_mem_escapedHelp help.toList)

/-- `kindLine` is one line. -/
theorem newline_not_mem_kindLine {name : String} (hname : isMetricName name = true)
    (kind : Kind) : '\n' ∉ kindLine name kind :=
  newline_not_mem_parts (by decide) (newline_not_mem_name hname) (by cases kind <;> decide)

/-- `List.intercalate` adds no character but the one it puts between the `parts`. -/
private theorem not_mem_intercalate {c d : Char} (hne : c ≠ d) {parts : List (List Char)}
    (h : ∀ part ∈ parts, c ∉ part) : c ∉ [d].intercalate parts := by
  induction parts with
  | nil => simp
  | cons part rest ih =>
    have hpart := h part List.mem_cons_self
    cases rest with
    | nil => rwa [List.intercalate_singleton]
    | cons second rest =>
      have hrest := ih fun p hp => h p (List.mem_cons_of_mem _ hp)
      rw [List.intercalate_cons_cons]
      simp only [List.mem_append, List.mem_singleton, not_or]
      exact ⟨⟨hpart, hne⟩, hrest⟩

/-- `labelsChars` has no line end, since those in the values are escaped. -/
private theorem newline_not_mem_labelsChars {labels : List (String × String)}
    (h : ∀ l ∈ labels, isLabelName l.1 = true) : '\n' ∉ labelsChars labels := by
  -- No part of a label has a line end, and neither has what stands between the labels.
  have hlabel : ∀ part ∈ labels.map labelChars, '\n' ∉ part := by
    intro part hpart
    obtain ⟨l, hl, rfl⟩ := List.mem_map.1 hpart
    have hkey : '\n' ∉ l.1.toList := @not_mem_of_isIdentifier isLabelStart _ _ (h l hl) (by decide)
    have hvalue := newline_not_mem_escapedLabel l.2.toList
    simp only [labelChars, List.mem_append, List.mem_cons, List.not_mem_nil, not_or]
    exact ⟨⟨hkey, by decide, by decide, hvalue⟩, by decide, not_false⟩
  have hjoined := not_mem_intercalate (d := ',') (by decide) hlabel
  cases labels with
  | nil => simp [labelsChars]
  | cons label others =>
    simp only [labelsChars, List.cons_append, List.mem_cons, List.mem_append, List.not_mem_nil,
      not_or]
    exact ⟨by decide, hjoined, by decide, not_false⟩

/-- `sampleLine` is one line. -/
theorem newline_not_mem_sampleLine {s : Sample} (hname : isMetricName s.name = true)
    (hlabels : ∀ l ∈ s.labels, isLabelName l.1 = true) : '\n' ∉ sampleLine s := by
  have hvalue : '\n' ∉ valueChars s.value := fun h => absurd (isValueChar_of_mem h) (by decide)
  exact newline_not_mem_parts (newline_not_mem_name hname) (newline_not_mem_labelsChars hlabels)
    hvalue

/-- `splitLines` splits a `line` off as it is, if it has no line end in it. -/
private theorem splitLines_append {line : List Char} (h : '\n' ∉ line) (rest : List Char) :
    splitLines (line ++ '\n' :: rest) = (splitLines rest).map (line :: ·) := by
  induction line with
  | nil => simp [splitLines]
  | cons c cs ih =>
    rw [List.mem_cons, not_or] at h
    have hc : ¬c = '\n' := fun he => h.1 he.symm
    rw [List.cons_append, splitLines, if_neg hc, ih h.2]
    cases splitLines rest <;> rfl

/-- `splitLines` finds the lines that `textOf` put together. -/
theorem splitLines_textOf {lines : List (List Char)} (h : ∀ line ∈ lines, '\n' ∉ line) :
    splitLines (textOf lines).toList = some lines := by
  unfold textOf
  rw [String.toList_ofList]
  induction lines with
  | nil => rfl
  | cons line rest ih =>
    rw [List.flatMap_cons, List.append_assoc, List.singleton_append,
      splitLines_append (h line List.mem_cons_self),
      ih fun l hl => h l (List.mem_cons_of_mem _ hl), Option.map_some]

/-! ## Lines of families -/

/-- The lines in which a family is written. -/
def WrittenFamily.lines (f : WrittenFamily) : List Line :=
  .help f.name f.help :: .kind f.name f.kind :: f.series.map (.sample f.name)

/-- `takeSeries` takes all `series` of one name, and stops where `rest` has none of it. -/
private theorem takeSeries_append {name : String} {rest : List Line}
    (h : takeSeries name rest = ([], rest)) (series : List WrittenSeries) :
    takeSeries name (series.map (.sample name) ++ rest) = (series, rest) := by
  induction series with
  | nil => exact h
  | cons s others ih =>
    rw [List.map_cons, List.cons_append, takeSeries, if_pos rfl, ih]

/-- `takeSeries` takes nothing where the lines of a family begin, since its help comes first. -/
private theorem takeSeries_lines (name : String) (families : List WrittenFamily) :
    takeSeries name (families.flatMap (·.lines)) = ([], families.flatMap (·.lines)) := by
  cases families with
  | nil => rfl
  | cons f rest => rfl

/-- `families?` puts written families together again. -/
theorem families?_lines (families : List WrittenFamily) :
    families? (families.flatMap (·.lines)) = some families := by
  induction families with
  | nil => rw [List.flatMap_nil, families?]
  | cons f rest ih =>
    -- The next family begins with a help line, which ends the series of this one.
    have htake := takeSeries_append (takeSeries_lines f.name rest) f.series
    rw [List.flatMap_cons, WrittenFamily.lines, List.cons_append, List.cons_append, families?,
      if_pos rfl, htake, ih]
    rfl

end Exposition
end FirewallProbe
