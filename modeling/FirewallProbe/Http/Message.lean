/-! # HTTP messages -/

namespace FirewallProbe

/-- A request to the exporter. -/
structure HttpRequest where
  method : String
  path : String
  query : Option String
  deriving DecidableEq, Repr

/-- An answer of the exporter. -/
structure HttpResponse where
  status : Nat
  contentType : Option String := none
  allow : Option String := none
  body : String := ""
  deriving DecidableEq, Repr

/-- The characters before the first question mark, and those after it. -/
def splitQuery : List Char → List Char × Option (List Char)
  | [] => ([], none)
  | c :: rest =>
    if c = '?' then ([], some rest)
    else
      let (path, query) := splitQuery rest
      (c :: path, query)

/-- The request for a `url` without scheme and host. -/
def HttpRequest.ofUrl (method url : String) : HttpRequest :=
  let (path, query) := splitQuery url.toList
  ⟨method, String.ofList path, query.map String.ofList⟩

namespace HttpResponse

/-- The origins that may read an answer. -/
def allowedOrigin : String := "*"

/-- The content type of plain texts. -/
def plainText : String := "text/plain; charset=utf-8"

/-- An answer with the `status` whose `body` is a plain text. -/
def text (status : Nat) (body : String) : HttpResponse :=
  { status, contentType := some plainText, body }

/-- The answer `r` without its body. -/
def withoutBody (r : HttpResponse) : HttpResponse := { r with body := "" }

end HttpResponse
end FirewallProbe
