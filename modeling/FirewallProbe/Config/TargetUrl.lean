import FirewallProbe.Text.Blank

/-! # Spellings of a target's URL

A target may be written with blanks around it, with slashes at the end and without scheme.
`normalize` gives the one spelling under which it is kept. -/

namespace FirewallProbe.TargetUrl

/-- The start of a URL without encryption. -/
def plainScheme : List Char := ['h', 't', 't', 'p', ':', '/', '/']

/-- The start of a URL with encryption, which is assumed where none is written. -/
def secureScheme : List Char := ['h', 't', 't', 'p', 's', ':', '/', '/']

/-- The characters `cs` without the blanks around them and then without the slashes at their end. -/
def core (cs : List Char) : List Char := Text.dropTrailing (· == '/') (Text.trimChars cs)

/-- Whether `cs` start with one of the two schemes. -/
def hasScheme (cs : List Char) : Bool := plainScheme.isPrefixOf cs || secureScheme.isPrefixOf cs

/-- The spelling under which a target is kept, character by character: the `core`, with
`secureScheme` in front of it if it has no scheme. -/
def normalizeChars (cs : List Char) : List Char :=
  if hasScheme (core cs) then core cs else secureScheme ++ core cs

/-- The spelling of `url` under which a target is kept. -/
def normalize (url : String) : String := String.ofList (normalizeChars url.toList)

@[simp] theorem toList_normalize (url : String) :
    (normalize url).toList = normalizeChars url.toList := by simp [normalize]

end FirewallProbe.TargetUrl
