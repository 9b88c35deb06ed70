import StubServer.Proofs.Text.FormEncoding
import StubServer.Proofs.Text.LetterCase
import StubServer.Proofs.Text.Split
import StubServer.Request

/-!
# What requests carry

A request comes about from a method, a URL, headers and a body (`Request.received`). What it carries under a name is
there in the order in which it came: the values of a header under all names that agree in lower case, and the values of
a parameter of the query under the name that its encoding stands for.

## Main statements

* `Request.headerValues_received`: the values of a header.
* `Request.mem_parameters_iff`: the parameters of a query, part by part.
* `Request.queryValues_writtenUrl`: whatever fields are written into a query, their values are carried under their
  names.
-/

namespace StubServer

open FormEncoding (Encodes WritesBytes)

variable {name value : String} {fields others : List (String × String)}

/-! ### Named values -/

/-- A value is one of a name if both stand beside each other. -/
theorem mem_valuesOf_iff : value ∈ valuesOf name fields ↔ (name, value) ∈ fields := by
  simp [valuesOf]

/-- The values of a name do not depend on the order of the names, but for their own order. -/
theorem valuesOf_perm (h : fields.Perm others) (name : String) :
    (valuesOf name fields).Perm (valuesOf name others) :=
  (h.filter _).map _

namespace Request

/-! ### Requests as they come about -/

/-- The request for a method and a URL with the given headers and body. Every request comes about in
this way. -/
def received (method url : String) (headers : List (String × String)) (body : String) : Request :=
  let start := Request.ofUrl method url
  (headers.foldl (fun (request : Request) header => request.addHeader header.1 header.2)
    start).withBody body

/-- A header with its name in lower case. -/
def lowered (header : String × String) : String × String :=
  (asciiLower header.1, header.2)

/-- Headers are added behind those that are there. -/
theorem foldl_addHeader (request : Request) (headers : List (String × String)) :
    headers.foldl (fun (request : Request) header => request.addHeader header.1 header.2) request =
      { request with headers := request.headers ++ headers.map lowered } := by
  induction headers generalizing request with
  | nil => simp
  | cons header headers ih =>
      rw [List.foldl_cons, ih]
      simp [addHeader, lowered]

/-- **A request as it comes about**: the headers in their order, with their names in lower case. -/
theorem received_eq (method url : String) (headers : List (String × String)) (body : String) :
    received method url headers body = { ofUrl method url with headers := headers.map lowered, body } := by
  rw [received, foldl_addHeader]
  rfl

/-- The method of a request is in capitals. -/
theorem asciiUpper_received_method (method url : String) (headers : List (String × String)) (body : String) :
    asciiUpper (received method url headers body).method = (received method url headers body).method := by
  have hmethod : (received method url headers body).method = asciiUpper (trimmed method) := by
    rw [received_eq]
    rfl
  rw [hmethod, asciiUpper_asciiUpper]

/-! ### Headers -/

/-- Names of headers are stored in lower case, so that a name is found as it is given only if it is in lower case. -/
theorem eq_asciiLower_of_mem {headers : List (String × String)} (h : (name, value) ∈ headers.map lowered) :
    asciiLower name = name := by
  obtain ⟨header, -, heq⟩ := List.mem_map.mp h
  cases heq
  exact asciiLower_asciiLower header.1

/-- **The values of a header** are those of all headers whose names agree in lower case. -/
theorem headerValues_received (method url : String) (headers : List (String × String)) (body name : String) :
    (received method url headers body).headerValues name = valuesOf (asciiLower name) (headers.map lowered) := by
  rw [received_eq, headerValues]
  dsimp only
  split
  · rfl
  · rename_i values hvalues
    obtain ⟨value, hvalue⟩ := List.exists_mem_of_ne_nil _ hvalues
    rw [eq_asciiLower_of_mem (mem_valuesOf_iff.mp hvalue)]

/-! ### Parameters of queries -/

/-- The parts of the query of a URL. Without a query there are none. -/
def queryParts (url : String) : List (List Char) :=
  ((cut '?' url.toList).2.map (pieces '&')).getD []

/-- The parameters of a request, part by part. -/
theorem query_ofUrl (method url : String) :
    (ofUrl method url).query = ((queryParts url).filter fun part => !part.isEmpty).map parameter := by
  unfold ofUrl queryParts
  obtain ⟨path, query⟩ := cut '?' url.toList
  cases query <;> rfl

/-- What is carried stands in a part of the query. -/
theorem mem_query_ofUrl_iff {method url : String} :
    (name, value) ∈ (ofUrl method url).query ↔ ∃ part ∈ queryParts url, part ≠ [] ∧ parameter part = (name, value) := by
  simp [query_ofUrl, and_assoc]

/-! ### Written queries -/

/-- A field of a query as it is written. -/
structure WrittenField where
  name : String
  value : String
  nameCode : List Char
  valueCode : List Char
  name_encoded : Encodes name.toList nameCode
  value_encoded : Encodes value.toList valueCode

/-- The text of a field. -/
def WrittenField.text (field : WrittenField) : List Char :=
  field.nameCode ++ '=' :: field.valueCode

/-- The URL of a path with fields in its query. -/
def writtenUrl (path : String) (fields : List WrittenField) : String :=
  path ++ "?" ++ .ofList (['&'].intercalate (fields.map WrittenField.text))

/-- There are no marks between parts inside a field. -/
theorem WrittenField.notMem_text (field : WrittenField) : '&' ∉ field.text := by
  rw [text, List.mem_append, List.mem_cons, not_or, not_or]
  exact ⟨field.name_encoded.notMem (.inl rfl), by decide, field.value_encoded.notMem (.inl rfl)⟩

/-- A field is read as its name and its value. -/
theorem WrittenField.parameter_text (field : WrittenField) : parameter field.text = (field.name, field.value) := by
  rw [parameter, text, cut_append_cons (field.name_encoded.notMem (.inr rfl))]
  simp [field.name_encoded.decode_eq, field.value_encoded.decode_eq]

/-- The fields of a query are read. -/
theorem parameters_intercalate (fields : List WrittenField) :
    parameters (['&'].intercalate (fields.map WrittenField.text)) =
      fields.map fun field => (field.name, field.value) := by
  by_cases hfields : fields = []
  · subst hfields
    rfl
  have hmarks : ∀ part ∈ fields.map WrittenField.text, '&' ∉ part :=
    List.forall_mem_map.mpr fun field _ => field.notMem_text
  have hpieces := pieces_intercalate hmarks (by simpa using hfields)
  have hall : (fields.map WrittenField.text).filter (fun part => !part.isEmpty) = fields.map WrittenField.text := by
    simp [WrittenField.text]
  rw [parameters, hpieces, hall, List.map_map]
  exact List.map_congr_left fun field _ => field.parameter_text

/-- **What is written into a query is carried by the request**: the path, and under each name the values that were
written beside it, in their order. -/
theorem queryValues_writtenUrl (method path : String) (fields : List WrittenField) (hpath : '?' ∉ path.toList) :
    (ofUrl method (writtenUrl path fields)).path = path ∧
    ∀ name,
      (ofUrl method (writtenUrl path fields)).queryValues name =
        (fields.filter fun field => field.name == name).map WrittenField.value ∧
      ((ofUrl method (writtenUrl path fields)).queryValues name = [] ↔ ∀ field ∈ fields, field.name ≠ name) := by
  have htext : (writtenUrl path fields).toList =
      path.toList ++ '?' :: ['&'].intercalate (fields.map WrittenField.text) := by
    simp [writtenUrl]
  have hurl : ofUrl method (writtenUrl path fields) =
      { method := asciiUpper (trimmed method), path,
        query := fields.map fun field => (field.name, field.value) } := by
    rw [ofUrl, htext, cut_append_cons hpath]
    simp [parameters_intercalate]
  rw [hurl]
  refine ⟨rfl, fun name => ?_⟩
  have hvalues : valuesOf name (fields.map fun field => (field.name, field.value)) =
      (fields.filter fun field => field.name == name).map WrittenField.value := by
    rw [valuesOf, List.filter_map, List.map_map]
    rfl
  rw [queryValues, hvalues]
  exact ⟨rfl, by simp⟩

/-- A value that holds the marks of a query itself, with digits in both letter cases, and an empty one. -/
theorem queryValues_writtenUrl_marks : '?' ∉ "/search".toList ∧ ∃ fields : List WrittenField,
    writtenUrl "/search" fields = "/search?q=a%26b+c%2b%C3%A9&q=" ∧
    (ofUrl "get" "/search?q=a%26b+c%2b%C3%A9&q=").path = "/search" ∧
    (ofUrl "get" "/search?q=a%26b+c%2b%C3%A9&q=").queryValues "q" = ["a&b c+é", ""] ∧
    (ofUrl "get" "/search?q=a%26b+c%2b%C3%A9&q=").queryValues "p" = [] := by
  have hname : Encodes ['q'] ['q'] := .plain rfl .nil
  have hand : WritesBytes (String.utf8EncodeChar '&') ['%', '2', '6'] :=
    @WritesBytes.cons 0x26 _ _ _ _ (.inl rfl) (.inl rfl) .nil
  have hplus : WritesBytes (String.utf8EncodeChar '+') ['%', '2', 'b'] :=
    @WritesBytes.cons 0x2B _ _ _ _ (.inl rfl) (.inl rfl) .nil
  have haccent : WritesBytes (String.utf8EncodeChar 'é') ['%', 'C', '3', '%', 'A', '9'] :=
    @WritesBytes.cons 0xC3 _ _ _ _ (.inr rfl) (.inl rfl) (@WritesBytes.cons 0xA9 _ _ _ _ (.inr rfl) (.inl rfl) .nil)
  have hvalue : Encodes ['a', '&', 'b', ' ', 'c', '+', 'é']
      ['a', '%', '2', '6', 'b', '+', 'c', '%', '2', 'b', '%', 'C', '3', '%', 'A', '9'] :=
    .plain rfl (.escaped hand (.plain rfl (.plus (.plain rfl (.escaped hplus (.escaped haccent .nil))))))
  have hpath : '?' ∉ "/search".toList := by decide
  let fields : List WrittenField :=
    [⟨"q", "a&b c+é", _, _, hname, hvalue⟩, ⟨"q", "", _, _, hname, .nil⟩]
  have hurl : writtenUrl "/search" fields = "/search?q=a%26b+c%2b%C3%A9&q=" := by cbv
  have hcarried := queryValues_writtenUrl "get" "/search" fields hpath
  rw [hurl] at hcarried
  exact ⟨hpath, fields, hurl, hcarried.1, (hcarried.2 "q").1, (hcarried.2 "p").2.mpr (by simp [fields])⟩

end Request

end StubServer
