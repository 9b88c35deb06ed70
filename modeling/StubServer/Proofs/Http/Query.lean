import Mathlib.Data.List.Find
import StubServer.Http.Route
import StubServer.Proofs.Request

/-!
# Two ways to read a query

A parameter of an administrator is looked for among the parts of a query as they are written, and only the value that
is found is decoded. For the rules, all parts are decoded, but for the empty ones, and values are looked up by their
decoded names. As long as the keys of a query stand for themselves, both find the same value.

## Main statements

* `Request.parameter_name_eq_iff`: a key that stands for itself is the name of its parameter.
* `Request.head?_queryValues`: the first value under a name is that of the first part which has the name for its key.
* `queryParameter?_eq_head?`: this is the value that an administrator gives.
-/

namespace StubServer

/-- The keys of a query stand for themselves: no signs in them are decoded. -/
def PlainKeys (query : List Char) : Prop :=
  ∀ part ∈ pieces '&' query, '%' ∉ (cut '=' part).1 ∧ '+' ∉ (cut '=' part).1

instance (query : List Char) : Decidable (PlainKeys query) :=
  inferInstanceAs (Decidable (∀ part ∈ pieces '&' query, _))

namespace Request

variable {part : List Char} {path query name : String}

/-- The parts of the query behind a path. -/
theorem queryParts_append (hpath : '?' ∉ path.toList) (query : String) :
    queryParts (path ++ "?" ++ query) = pieces '&' query.toList := by
  have htext : (path ++ "?" ++ query).toList = path.toList ++ '?' :: query.toList := by simp
  rw [queryParts, htext, cut_append_cons hpath]
  rfl

/-- A key that stands for itself is the name of its parameter. -/
theorem parameter_name_eq_iff (hpercent : '%' ∉ (cut '=' part).1) (hplus : '+' ∉ (cut '=' part).1) :
    (parameter part).1 = name ↔ (cut '=' part).1 = name.toList := by
  have hname : (parameter part).1 = String.ofList (cut '=' part).1 :=
    congrArg String.ofList (FormEncoding.decode_eq_self hpercent hplus)
  rw [hname, ← String.toList_inj, String.toList_ofList]

/-- The parts that carry values under a name are those which have it for their key. None of them is empty. -/
theorem isNamed_iff (hkeys : PlainKeys query.toList) (hname : name ≠ "") (hpart : part ∈ pieces '&' query.toList) :
    part ≠ [] ∧ (parameter part).1 = name ↔ (cut '=' part).1 = name.toList := by
  obtain ⟨hpercent, hplus⟩ := hkeys part hpart
  rw [parameter_name_eq_iff hpercent hplus]
  refine and_iff_right_of_imp ?_
  rintro hkey rfl
  exact hname (String.toList_eq_nil_iff.mp hkey.symm)

/-- **The first value under a name** is that of the first part of the query which has the name for its key. -/
theorem head?_queryValues (method : String) (hpath : '?' ∉ path.toList) (hkeys : PlainKeys query.toList)
    (hname : name ≠ "") :
    ((ofUrl method (path ++ "?" ++ query)).queryValues name).head? =
      ((pieces '&' query.toList).find? fun part => (cut '=' part).1 == name.toList).map
        fun part => (parameter part).2 := by
  rw [queryValues, query_ofUrl, queryParts_append hpath, valuesOf, List.head?_map, List.head?_filter, List.find?_map,
    List.find?_filter, Option.map_map]
  refine congrArg (Option.map _) (List.find?_congr fun part hpart => ?_)
  rw [Bool.eq_iff_iff, decide_eq_true_iff, beq_iff_eq, ← isNamed_iff hkeys hname hpart]
  simp

end Request

/-- **Both ways to read a query agree.** For a path without a question mark, a query whose keys stand for themselves
and any name but the empty one, the parameter that an administrator gives is the first of the values that a request
carries under the name, and it is missing exactly if there are none. The values may be anything. -/
theorem queryParameter?_eq_head? (method path query name : String) (hpath : '?' ∉ path.toList)
    (hkeys : PlainKeys query.toList) (hname : name ≠ "") :
    let given := (queryParameter? (some query.toList) name.toList).map String.ofList
    let values := (Request.ofUrl method (path ++ "?" ++ query)).queryValues name
    given = values.head? ∧ (given = none ↔ values = []) := by
  intro given values
  have hhead : given = values.head? := by
    rw [Request.head?_queryValues method hpath hkeys hname]
    exact Option.map_map _ _ _
  exact ⟨hhead, by rw [hhead, List.head?_eq_none_iff]⟩

/-- A value that is no text when it is decoded, behind empty parts, and another value of the same name. -/
theorem queryParameter?_eq_head?_malformed :
    let url := "/search" ++ "?" ++ "&=x&q=%zz+%FF=&q=2&&flag"
    '?' ∉ "/search".toList ∧ PlainKeys "&=x&q=%zz+%FF=&q=2&&flag".toList ∧ "q" ≠ "" ∧ "p" ≠ "" ∧
      ((Request.ofUrl "get" url).queryValues "q").head? = some "%zz %FF=" ∧
      (Request.ofUrl "get" url).queryValues "p" = [] := by
  have hpath : '?' ∉ "/search".toList := by decide
  have hkeys : PlainKeys "&=x&q=%zz+%FF=&q=2&&flag".toList := by decide +kernel
  have hq := queryParameter?_eq_head? "get" "/search" "&=x&q=%zz+%FF=&q=2&&flag" "q" hpath hkeys (by decide)
  have hp := queryParameter?_eq_head? "get" "/search" "&=x&q=%zz+%FF=&q=2&&flag" "p" hpath hkeys (by decide)
  exact ⟨hpath, hkeys, by decide, by decide, hq.1.symm.trans (by decide +kernel), hp.2.mp (by decide +kernel)⟩

end StubServer
