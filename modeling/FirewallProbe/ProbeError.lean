import FirewallProbe.Schema.Mixed

/-! # Errors of a probe

`FetchError` says why an endpoint gave no JSON value, `ProbeError` why a collection routine gave no
samples. -/

namespace FirewallProbe

/-- Why an endpoint gave no JSON value. -/
inductive FetchError where
  | status (path : String) (code : Nat)
  | transport (path message : String)
  | timeout (path : String)
  | malformedJson (path message : String)
  deriving DecidableEq, Repr

/-- The wording of a fetch error. -/
def FetchError.message : FetchError → String
  | .status path code => s!"{path}: unexpected HTTP status {code}"
  | .transport path message => s!"{path}: transport error: {message}"
  | .timeout path => s!"{path}: scrape deadline exceeded"
  | .malformedJson path message => s!"{path}: malformed JSON response: {message}"

/-- Why a collection routine gave no samples. -/
inductive ProbeError where
  | fetch (cause : FetchError)
  | decode (path : String) (cause : Mismatch)
  | schema (path : String) (cause : SplitError)
  | unavailable (what : String)

/-- The wording of a probe error. -/
def ProbeError.message : ProbeError → String
  | .fetch cause => cause.message
  | .decode path cause => s!"{path}: unexpected response shape: {cause.message}"
  | .schema path cause => s!"{path}: {cause.message}"
  | .unavailable what => s!"{what} unavailable"

end FirewallProbe
