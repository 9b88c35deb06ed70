import StubServer.Index
import StubServer.Proofs.Request

/-!
# Requests in another order

Rules ask of a field whether one of its values satisfies a condition, so that it does not matter in which order the
values come, nor how the names of different fields are mixed. Two requests that agree but for this are `Alike`, and no
matcher tells them apart. Requests are alike if their headers are the same up to their order and the letter case of
their names, and so are the parts of their queries up to their order.

## Main statements

* `Request.alike_received`: which requests are alike.
* `Matcher.accepts_eq_of_alike`: no matcher tells them apart.
* `Index.lookup?_reordered`: they are answered by the same rule.
-/

namespace StubServer

variable {request other : Request}

/-! ### Requests that are alike -/

/-- Two requests agree in all that a matcher asks for. -/
structure Request.Alike (request other : Request) : Prop where
  method : request.method = other.method
  path : request.path = other.path
  body : request.body = other.body
  headers : ∀ name, (request.headerValues name).Perm (other.headerValues name)
  query : ∀ name, (request.queryValues name).Perm (other.queryValues name)

/-- Queries with the same parts carry the same values. -/
theorem Request.queryValues_perm {url url' : String} (h : (queryParts url).Perm (queryParts url'))
    (method method' name : String) :
    ((ofUrl method url).queryValues name).Perm ((ofUrl method' url').queryValues name) := by
  simp only [queryValues, query_ofUrl]
  exact valuesOf_perm ((h.filter _).map _) name

/-- **Which requests are alike**: those with the same headers, but for the order and the letter case of the names, and
with the same parts of the query, but for the order. -/
theorem Request.alike_received {method method' url url' : String} {headers headers' : List (String × String)}
    (hmethod : (ofUrl method url).method = (ofUrl method' url').method)
    (hpath : (ofUrl method url).path = (ofUrl method' url').path)
    (hquery : (queryParts url).Perm (queryParts url'))
    (hheaders : (headers.map lowered).Perm (headers'.map lowered)) (body : String) :
    Alike (received method url headers body) (received method' url' headers' body) where
  method := by simpa only [received_eq] using hmethod
  path := by simpa only [received_eq] using hpath
  body := by simp only [received_eq]
  headers name := by simpa only [headerValues_received] using valuesOf_perm hheaders (asciiLower name)
  query name := by
    rw [received_eq, received_eq]
    exact queryValues_perm hquery method method' name

/-! ### Matchers -/

/-- No header or query pattern tells requests apart that are alike. -/
theorem FieldMatcher.accepts_eq_of_alike (h : request.Alike other) (matcher : FieldMatcher) :
    matcher.accepts request = matcher.accepts other := by
  have hvalues : ∀ name, (values matcher.source request name).Perm (values matcher.source other name) := by
    cases matcher.source with
    | header => exact h.headers
    | query => exact h.query
  simp only [accepts, (hvalues _).any_eq]

/-- Headers, query and body of requests that are alike are judged alike. -/
theorem Matcher.acceptsDetails_eq_of_alike (h : request.Alike other) (matcher : Matcher) :
    matcher.acceptsDetails request = matcher.acceptsDetails other := by
  simp only [acceptsDetails, FieldMatcher.accepts_eq_of_alike h, h.body]

/-- **No matcher tells requests apart** that are alike. -/
theorem Matcher.accepts_eq_of_alike (h : request.Alike other) (matcher : Matcher) :
    matcher.accepts request = matcher.accepts other := by
  simp only [accepts, h.method, h.path, acceptsDetails_eq_of_alike h]

/-! ### Indexes -/

namespace Index

/-- Requests that are alike are answered by the same rule. -/
theorem lookup?_eq_of_alike (h : request.Alike other) (index : Index) :
    index.lookup? request = index.lookup? other := by
  simp only [lookup?, Snapshot.lookup?, h.method, h.path, Matcher.acceptsDetails_eq_of_alike h]

/-- **The order and the letter case of fields do not matter**: to no matcher, and whatever the index holds, it answers
with the same rule. -/
theorem lookup?_reordered (index : Index) (method method' url url' body : String)
    (headers headers' : List (String × String))
    (hmethod : (Request.ofUrl method url).method = (Request.ofUrl method' url').method)
    (hpath : (Request.ofUrl method url).path = (Request.ofUrl method' url').path)
    (hquery : (Request.queryParts url).Perm (Request.queryParts url'))
    (hheaders : (headers.map Request.lowered).Perm (headers'.map Request.lowered)) :
    (∀ matcher : Matcher,
      matcher.accepts (.received method url headers body) = matcher.accepts (.received method' url' headers' body)) ∧
    index.lookup? (.received method url headers body) = index.lookup? (.received method' url' headers' body) := by
  have halike := Request.alike_received hmethod hpath hquery hheaders body
  exact ⟨Matcher.accepts_eq_of_alike halike, lookup?_eq_of_alike halike index⟩

/-- Two tags that change places, and headers that come in another order and with their names in other letters. -/
theorem lookup?_reordered_tags :
    let rule : Rule :=
      { name := "tags", method := "GET", url := "/x",
        queryPattern := some "\x7b\"tag\":\x7b\"contains\":\"b\"\x7d\x7d" }
    let index := ({} : Index).add rule
    let request := Request.received "GET" "/x?tag=a&page=1&tag=b" [("X-Tag", "a"), ("Accept", "*"), ("x-tag", "b")] ""
    let reordered := Request.received "get" "/x?tag=b&tag=a&page=1" [("x-tag", "b"), ("accept", "*"), ("X-TAG", "a")] ""
    request ≠ reordered ∧ index.lookup? request = index.lookup? reordered ∧
      (index.lookup? reordered).map Matcher.rule = some rule := by
  intro rule index request reordered
  have hquery : (Request.queryParts "/x?tag=a&page=1&tag=b").Perm (Request.queryParts "/x?tag=b&tag=a&page=1") := by
    decide
  have hheaders : ([("X-Tag", "a"), ("Accept", "*"), ("x-tag", "b")].map Request.lowered).Perm
      ([("x-tag", "b"), ("accept", "*"), ("X-TAG", "a")].map Request.lowered) := by
    decide
  have hlookup := (lookup?_reordered index "GET" "get" _ _ "" _ _ (by decide) (by decide) hquery hheaders).2
  exact ⟨by decide, hlookup, by decide +kernel⟩

end Index

end StubServer
