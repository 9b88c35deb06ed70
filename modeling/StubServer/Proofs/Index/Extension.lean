import StubServer.Proofs.Index.Lookup

/-!
# Requests that carry more

What a rule asks of a field is that one of its values satisfies a condition, so that further values never stand in the
way. A request `Extends` another if it agrees with it but for more values of its headers and parameters, and then every
matcher that accepts the other accepts it too. The rule that answers it may be another one, but then it is one that
wins against the first, or is no worse.

## Main statements

* `Request.queryParts_withParameters`: the parts of a query with further parameters.
* `Request.extends_received`: which requests carry more than others.
* `Matcher.accepts_of_extends`: matchers accept requests that carry more.
* `Index.lookup?_extended`: they are answered by rules that are at least as good.
-/

namespace StubServer

variable {request richer : Request}

/-! ### Requests that carry more -/

namespace Request

/-- A request agrees with another, but for more values of its headers and parameters. -/
structure Extends (richer request : Request) : Prop where
  method : richer.method = request.method
  path : richer.path = request.path
  body : richer.body = request.body
  headers : ∀ name, request.headerValues name ⊆ richer.headerValues name
  query : ∀ name, request.queryValues name ⊆ richer.queryValues name

/-- A URL with further parameters behind those of its query, which begins with them if there is none. -/
def withParameters (url more : String) : String :=
  url ++ (if '?' ∈ url.toList then "&" else "?") ++ more

/-- Where a URL with further parameters is cut. -/
theorem cut_withParameters (url more : String) :
    cut '?' (withParameters url more).toList =
      ((cut '?' url.toList).1,
        some (((cut '?' url.toList).2.map (· ++ ['&'])).getD [] ++ more.toList)) := by
  by_cases hquery : '?' ∈ url.toList
  · obtain ⟨path, query, hpath, hurl⟩ := List.eq_append_cons_of_mem hquery
    have htext : (withParameters url more).toList = path ++ '?' :: (query ++ '&' :: more.toList) := by
      simp [withParameters, hpath]
    rw [htext, hpath, cut_append_cons hurl, cut_append_cons hurl]
    simp
  · have htext : (withParameters url more).toList = url.toList ++ '?' :: more.toList := by
      simp [withParameters, if_neg hquery]
    rw [htext, cut_append_cons hquery, cut_eq_of_notMem hquery]
    rfl

/-- Further parameters leave the path alone. -/
theorem path_withParameters (method url more : String) :
    (ofUrl method (withParameters url more)).path = (ofUrl method url).path := by
  simp only [ofUrl, cut_withParameters]

/-- **The parts of a query with further parameters** are its own and those of the parameters. -/
theorem queryParts_withParameters (url more : String) :
    queryParts (withParameters url more) = queryParts url ++ pieces '&' more.toList := by
  rw [queryParts, queryParts, cut_withParameters]
  cases (cut '?' url.toList).2 with
  | none => rfl
  | some query => simp [pieces_append_cons]

/-- Values of a name are still there among more. -/
theorem valuesOf_subset {fields others : List (String × String)} (h : fields ⊆ others) (name : String) :
    valuesOf name fields ⊆ valuesOf name others := by
  intro value hvalue
  exact mem_valuesOf_iff.mpr (h (mem_valuesOf_iff.mp hvalue))

/-- **Which requests carry more than others**: those with further headers among theirs, and with further parameters
behind theirs. -/
theorem extends_received {headers given : List (String × String)} (hheaders : headers.Sublist given)
    (method url more body : String) :
    Extends (received method (withParameters url more) given body) (received method url headers body) where
  method := by
    rw [received_eq, received_eq]
    rfl
  path := by
    rw [received_eq, received_eq]
    exact path_withParameters method url more
  body := by rw [received_eq, received_eq]
  headers name := by
    rw [headerValues_received, headerValues_received]
    exact valuesOf_subset (List.map_subset lowered hheaders.subset) (asciiLower name)
  query name := by
    rw [received_eq, received_eq]
    refine valuesOf_subset ?_ name
    rw [query_ofUrl, query_ofUrl, queryParts_withParameters, List.filter_append, List.map_append]
    exact List.subset_append_left _ _

end Request

/-! ### Matchers -/

/-- What a header or query pattern asks for is still there. -/
theorem FieldMatcher.accepts_of_extends (h : richer.Extends request) {matcher : FieldMatcher}
    (haccepts : matcher.accepts request = true) : matcher.accepts richer = true := by
  have hvalues : ∀ name, values matcher.source request name ⊆ values matcher.source richer name := by
    cases matcher.source with
    | header => exact h.headers
    | query => exact h.query
  rw [accepts, List.all_eq_true] at haccepts ⊢
  intro check hcheck
  obtain ⟨value, hvalue, hsatisfied⟩ := List.any_eq_true.mp (haccepts check hcheck)
  exact List.any_eq_true.mpr ⟨value, hvalues check.1 hvalue, hsatisfied⟩

/-- Headers, query and body are accepted with more values as well. -/
theorem Matcher.acceptsDetails_of_extends (h : richer.Extends request) {matcher : Matcher}
    (haccepts : matcher.acceptsDetails request = true) : matcher.acceptsDetails richer = true := by
  have hfields : ∀ fields : Option FieldMatcher, (fields.all fun m => m.accepts request) = true →
      (fields.all fun m => m.accepts richer) = true := by
    intro fields hall
    cases fields with
    | none => rfl
    | some fields => exact FieldMatcher.accepts_of_extends h hall
  simp only [acceptsDetails, Bool.and_eq_true] at haccepts ⊢
  obtain ⟨⟨hheaders, hquery⟩, hbody⟩ := haccepts
  exact ⟨⟨hfields _ hheaders, hfields _ hquery⟩, h.body ▸ hbody⟩

/-- **A request that carries more** is accepted by every matcher that accepts the other. -/
theorem Matcher.accepts_of_extends (h : richer.Extends request) {matcher : Matcher}
    (haccepts : matcher.accepts request = true) : matcher.accepts richer = true := by
  simp only [accepts, Bool.and_eq_true] at haccepts ⊢
  rw [h.method, h.path]
  exact ⟨haccepts.1, acceptsDetails_of_extends h haccepts.2⟩

/-! ### Indexes -/

namespace Index

/-- If one entry is the best of some, there is a best one among more, and the first does not win against it. -/
theorem exists_best?_of_subset {entries others : List Entry} {entry : Entry} (hsubset : entries ⊆ others)
    (hbest : best? entries = some entry) :
    ∃ better, best? others = some better ∧ entry.precedes better = false := by
  have hentry := hsubset (mem_of_best? hbest)
  obtain ⟨better, hbetter⟩ : ∃ better, best? others = some better := by
    refine Option.ne_none_iff_exists'.mp fun hnone => ?_
    rw [best?_eq_none_iff.mp hnone] at hentry
    exact absurd hentry List.not_mem_nil
  exact ⟨better, hbetter, not_precedes_best? hbetter entry hentry⟩

/-- What answers a request that carries more does not lose against what answers the other. -/
theorem Snapshot.exists_lookup?_of_extends (h : richer.Extends request) {snapshot : Snapshot} {entry : Entry}
    (hlookup : snapshot.lookup? request = some entry) :
    ∃ better, snapshot.lookup? richer = some better ∧ entry.precedes better = false := by
  refine exists_best?_of_subset ?_ hlookup
  intro candidate hcandidate
  rw [h.method, h.path]
  obtain ⟨hmem, haccepts⟩ := List.mem_filter.mp hcandidate
  obtain ⟨hpath, hdetails⟩ := Bool.and_eq_true_iff.mp haccepts
  exact List.mem_filter.mpr
    ⟨hmem, Bool.and_eq_true_iff.mpr ⟨hpath, Matcher.acceptsDetails_of_extends h hdetails⟩⟩

/-- **Further headers and parameters** do not matter to any matcher that accepts a request, and whatever the index
holds, a request that is answered is still answered with them, by a rule that has a smaller priority, or the same and
was inserted no earlier. -/
theorem lookup?_extended (index : Index) (method url more body : String) (headers given : List (String × String))
    (hheaders : headers.Sublist given) :
    let request := Request.received method url headers body
    let richer := Request.received method (Request.withParameters url more) given body
    (∀ matcher : Matcher, matcher.accepts request = true → matcher.accepts richer = true) ∧
    ∀ matcher, index.lookup? request = some matcher →
      ∃ entry better, index.snapshot.lookup? request = some entry ∧ entry.matcher = matcher ∧
        index.snapshot.lookup? richer = some better ∧ index.lookup? richer = some better.matcher ∧
        (better.matcher.priority < entry.matcher.priority ∨
          (better.matcher.priority = entry.matcher.priority ∧ entry.sequence ≤ better.sequence)) := by
  intro request richer
  have hextends : richer.Extends request := Request.extends_received hheaders method url more body
  refine ⟨fun matcher => Matcher.accepts_of_extends hextends, fun matcher hmatcher => ?_⟩
  obtain ⟨entry, hentry, hsame⟩ := Option.map_eq_some_iff.mp hmatcher
  obtain ⟨better, hbetter, hprecedes⟩ := Snapshot.exists_lookup?_of_extends hextends hentry
  refine ⟨entry, better, hentry, hsame, hbetter, ?_, Entry.precedes_eq_false_iff.mp hprecedes⟩
  rw [lookup?, hbetter, Option.map_some]

/-- Two rules for the same requests, of which the one asks for a tag and goes before the other. -/
theorem lookup?_extended_tag :
    let plain : Rule := { name := "plain", method := "GET", url := "/x" }
    let tagged : Rule :=
      { name := "tagged", method := "GET", url := "/x", priority := -1,
        queryPattern := some "\x7b\"tag\":\x7b\"contains\":\"b\"\x7d\x7d" }
    let index := (({} : Index).add tagged).add plain
    let request := Request.received "GET" "/x?page=1" [("Accept", "*")] ""
    let richer := Request.received "GET" (Request.withParameters "/x?page=1" "tag=a&tag=b")
      [("X-Id", "7"), ("Accept", "*")] ""
    [("Accept", "*")].Sublist [("X-Id", "7"), ("Accept", "*")] ∧
      (index.lookup? request).map Matcher.rule = some plain ∧
      (index.lookup? richer).map Matcher.rule = some tagged ∧
      ∃ entry better : Entry, index.snapshot.lookup? request = some entry ∧
        index.snapshot.lookup? richer = some better ∧
        (better.matcher.priority < entry.matcher.priority ∨
          (better.matcher.priority = entry.matcher.priority ∧ entry.sequence ≤ better.sequence)) := by
  intro plain tagged index request richer
  have hheaders : [("Accept", "*")].Sublist [("X-Id", "7"), ("Accept", "*")] := by decide
  have hplain : (index.lookup? request).map Matcher.rule = some plain := by decide +kernel
  obtain ⟨matcher, hmatcher, -⟩ := Option.map_eq_some_iff.mp hplain
  obtain ⟨entry, better, hentry, -, hbetter, -, hwins⟩ :=
    (lookup?_extended index "GET" "/x?page=1" "tag=a&tag=b" "" _ _ hheaders).2 matcher hmatcher
  exact ⟨hheaders, hplain, by decide +kernel, entry, better, hentry, hbetter, hwins⟩

end Index

end StubServer
