import FirewallProbe.Binary64.Reading
import FirewallProbe.Binary64.Text
import FirewallProbe.Duration
import FirewallProbe.Journal
import FirewallProbe.Metric

/-! # Text exposition of samples

Samples are written line by line, grouped by family in the order in which the families first occur.
A family opens with its help and its kind, and each of its series is written once: a sample whose
labels were written before is dropped and noted.  Two families about the probe itself follow. -/

namespace FirewallProbe
namespace Exposition

/-- The character `c` of a label value, with backslash, quote and line end escaped. -/
def escapedLabelChar (c : Char) : List Char :=
  if c = '\\' then ['\\', '\\']
  else if c = '"' then ['\\', '"']
  else if c = '\n' then ['\\', 'n']
  else [c]

/-- The character `c` of a help text, with backslash and line end escaped. -/
def escapedHelpChar (c : Char) : List Char :=
  if c = '\\' then ['\\', '\\']
  else if c = '\n' then ['\\', 'n']
  else [c]

/-- One label, as `name="value"` with the value escaped. -/
def labelChars (label : String × String) : List Char :=
  label.1.toList ++ '=' :: '"' :: label.2.toList.flatMap escapedLabelChar ++ ['"']

/-- The labels of a sample between braces; nothing where there are none. -/
def labelsChars : List (String × String) → List Char
  | [] => []
  | labels => '\x7b' :: [','].intercalate (labels.map labelChars) ++ ['\x7d']

/-- The value `x` of a sample: whole values with all their digits, others with the fewest digits
that read back, never with an exponent. -/
def valueChars (x : Float) : List Char :=
  match Binary64.ofFloat x with
  | .nan => ['N', 'a', 'N']
  | .infinite negative => (if negative then '-' else '+') :: ['I', 'n', 'f']
  | .finite negative mantissa exponent =>
    Binary64.signChars negative ++
      if Binary64.isWhole mantissa exponent then Binary64.wholeChars mantissa exponent
      else Binary64.plainChars mantissa exponent

/-- The line with the `help` of the family `name`. -/
def helpLine (name help : String) : List Char :=
  "# HELP ".toList ++ name.toList ++ ' ' :: help.toList.flatMap escapedHelpChar

/-- The line with the `kind` of the family `name`. -/
def kindLine (name : String) (kind : Kind) : List Char :=
  "# TYPE ".toList ++ name.toList ++ ' ' :: kind.name.toList

/-- The line of the sample `s`. -/
def sampleLine (s : Sample) : List Char :=
  s.name.toList ++ labelsChars s.labels ++ ' ' :: valueChars s.value

/-- The samples of one family, of which the first one gives help and kind. -/
structure Block where
  head : Sample
  others : List Sample

/-- The samples of a block. -/
def Block.samples (b : Block) : List Sample := b.head :: b.others

/-- Groups samples by name, in the order in which the names first occur. -/
def blocks : List Sample → List Block
  | [] => []
  | s :: rest =>
    ⟨s, rest.filter fun r => r.name == s.name⟩ :: blocks (rest.filter fun r => r.name != s.name)
termination_by samples => samples.length
decreasing_by
  simp only [List.length_cons, List.unattach_filter, List.unattach_attach]
  exact Nat.lt_succ_of_le (List.length_filter_le _ _)

/-- The event noted for the sample `s`, whose labels were written before. -/
def duplicateEvent (s : Sample) : Event :=
  ⟨.warn, "Duplicate series dropped",
    [("metric", s.name), ("labels", String.ofList (labelsChars s.labels))]⟩

/-- Keeps the samples whose written labels are neither in `seen` nor on an earlier sample, and notes
the others. -/
def dropRepeats (seen : List (List Char)) : List Sample → Logged (List Sample)
  | [] => ⟨[], []⟩
  | s :: rest =>
    let labels := labelsChars s.labels
    -- Labels are compared as they are written.
    if labels ∈ seen then
      let others := dropRepeats seen rest
      ⟨others.value, duplicateEvent s :: others.events⟩
    else
      let others := dropRepeats (labels :: seen) rest
      ⟨s :: others.value, others.events⟩

/-- The lines of a block. -/
def blockLines (b : Block) : Logged (List (List Char)) :=
  let kept := dropRepeats [] b.samples
  ⟨helpLine b.head.name b.head.help :: kindLine b.head.name b.head.kind ::
    kept.value.map sampleLine, kept.events⟩

/-- The family that tells whether every routine succeeded. -/
def probeSuccess : Family :=
  .gauge "probe_success" "Whether every collection routine succeeded" []

/-- The family that tells how long the probe took. -/
def probeDuration : Family :=
  .gauge "probe_duration_seconds" "How long the probe took to complete in seconds" []

/-- A duration as a number of seconds. -/
def secondsOf (d : Duration) : Float :=
  Binary64.ofInt d.seconds + Binary64.ofInt d.nanoseconds / 1000000000.0

/-- The lines of the family `f` with one sample without labels. -/
def gaugeLines (f : Family) (value : Float) : List (List Char) :=
  [helpLine f.name f.help, kindLine f.name f.kind, sampleLine (f.sample value [])]

/-- The lines of the families about the probe itself. -/
def probeLines (success : Bool) (duration : Duration) : List (List Char) :=
  gaugeLines probeSuccess (indicator success) ++ gaugeLines probeDuration (secondsOf duration)

/-- All lines: those of the `samples`, block by block, and then those about the probe. -/
def lines (samples : List Sample) (success : Bool) (duration : Duration) :
    Logged (List (List Char)) :=
  let families := Logged.flatMap blockLines (blocks samples)
  ⟨families.value ++ probeLines success duration, families.events⟩

/-- The text of all lines; each line ends in a line end. -/
def textOf (lines : List (List Char)) : String :=
  String.ofList (lines.flatMap fun line => line ++ ['\n'])

/-- Writes `samples`, with the outcome of the probe at the end. -/
def render (samples : List Sample) (success : Bool) (duration : Duration) : Logged String :=
  let all := lines samples success duration
  ⟨textOf all.value, all.events⟩

end Exposition
end FirewallProbe
