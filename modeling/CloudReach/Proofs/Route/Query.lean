import CloudReach.Proofs.Form
import CloudReach.Proofs.Route
import CloudReach.Proofs.Url.Query

/-!
# The parameters of requests

What a filled route carries can be read from its request again. An operation with a form has it in
the body and leaves the query of the base as it is; another has it in the query, after the pairs of
the base, and the body is what the caller gave.
-/

namespace CloudReach

def Form.queryPairs (query : Option String) : List (String × String) :=
  decode ((query.map (·.toList)).getD [])

theorem Url.queryPairs_addQuery (u : Url) (pairs : List (String × String)) :
    Form.queryPairs (u.addQuery pairs).query = Form.queryPairs u.query ++ pairs := by
  rw [addQuery, Form.queryPairs, Option.map_some, Option.getD_some, String.toList_ofList,
    Form.decode_append, Form.queryPairs]

theorem Url.ClearQuery.addQuery {u : Url} (h : u.ClearQuery) (pairs : List (String × String)) :
    (u.addQuery pairs).ClearQuery := by
  rintro _ ⟨⟩
  rw [String.toList_ofList]
  refine Form.freeOf_append ?_ pairs
  cases hquery : u.query with
  | none => exact Text.freeOf_nil
  | some query => exact h query hquery

namespace Route

variable {f : Filled} {base : ReadUrl} {body : Option String} {q : Request}

theorem Filled.clearQuery_parts (f : Filled) (base : ReadUrl) (body : Option String) :
    (f.parts base body).1.ClearQuery := by
  have hlocated : (f.located base).ClearQuery := base.clearQuery.of_query_eq rfl
  unfold parts
  dsimp only
  split
  · exact hlocated
  · split
    · exact hlocated
    · exact hlocated.addQuery _

theorem Filled.parts_of_form (hform : f.style.isForm = true) (base : Url) (body : Option String) :
    (f.parts base body).1.query = base.query ∧
      Form.decode (f.parts base body).2.1.toList = f.params := by
  rw [parts, if_pos hform]
  refine ⟨rfl, ?_⟩
  rw [String.toList_ofList, Form.decode_encode]

theorem Filled.parts_of_resource (hform : f.style.isForm = false) (base : Url)
    (body : Option String) :
    Form.queryPairs (f.parts base body).1.query = Form.queryPairs base.query ++ f.params ∧
      (f.parts base body).2.1 = body.getD "" := by
  have hlocated : (f.located base).query = base.query := rfl
  rw [parts, if_neg (by simp [hform])]
  refine ⟨?_, rfl⟩
  dsimp only
  split
  · rename_i hnone
    rw [hlocated, List.isEmpty_iff.mp hnone, List.append_nil]
  · rw [Url.queryPairs_addQuery, hlocated]

/-- The query and the body of a request are those that its parts were put together with. -/
theorem parts_of_request (hrequest : f.request base body = .ok q) :
    q.target.query = (f.parts base body).1.query ∧ q.body = (f.parts base body).2.1 := by
  obtain ⟨a, hauthority⟩ := authority_of_request hrequest
  have htarget := (Filled.request_eq_ok hrequest).2
  let url : ReadUrl := { Filled.url hrequest with clearQuery := f.clearQuery_parts base body }
  refine ⟨url.query_of_authority hauthority htarget, ?_⟩
  unfold Filled.request at hrequest
  split at hrequest
  · cases hrequest
  · dsimp only at hrequest
    rw [htarget] at hrequest
    exact congrArg Request.body (Except.ok.inj hrequest).symm

/-- From a request one reads what its route carries: from the body if it is a form, and then the
query has the pairs of the base alone; otherwise from the query, after the pairs of the base, and
the body is the one that was given. The fields of the style come first in what is carried, and the
parameters follow that the template does not take. Any URL that has been read can be the base. -/
theorem request_pairs (f : Filled) (base : ReadUrl) (body : Option String) (q : Request)
    (hrequest : f.request base body = .ok q) :
    (∀ action version, f.style = .query action version →
      Form.decode q.body.toList = f.params ∧
      Form.queryPairs q.target.query = Form.queryPairs base.query) ∧
    (f.style = .resource →
      Form.queryPairs q.target.query = Form.queryPairs base.query ++ f.params ∧
      q.body = body.getD "") ∧
    ∀ (r : Route) given, r.fill given = .ok f → ∃ names, r.templateParams = .ok names ∧
      f.style = r.style ∧
      (∀ action version, r.style = .query action version →
        f.params = ("Action", action) :: ("Version", version) :: carried names given) ∧
      (r.style = .resource → f.params = carried names given) := by
  obtain ⟨hquery, hbody⟩ := parts_of_request hrequest
  refine ⟨fun action version hstyle => ?_, fun hstyle => ?_, fun r given hfill => ?_⟩
  · have hisForm : f.style.isForm = true := by rw [hstyle]; rfl
    obtain ⟨hkept, hform⟩ := Filled.parts_of_form hisForm base body
    rw [hbody, hquery, hkept]
    exact ⟨hform, rfl⟩
  · have hisForm : f.style.isForm = false := by rw [hstyle]; rfl
    rw [hbody, hquery]
    exact Filled.parts_of_resource hisForm base body
  · obtain ⟨template, segments, htemplate, -, rfl⟩ := fill_eq_ok hfill
    refine ⟨params template, templateParams_of_some htemplate, rfl, fun action version hstyle => ?_,
      fun hstyle => ?_⟩
    · rw [hstyle]
      rfl
    · rw [hstyle]
      rfl

def filteredUrl : Url :=
  { versionedUrl with query := some "view=a+b%26&&flag", fragment := some "top" }

theorem parse_filtered : Url.parse "https://api.x/v1?view=a+b%26&&flag#top" = .ok filteredUrl := by
  decide +kernel

def filtered : ReadUrl :=
  .ofParse parse_filtered

def extras : List (String × String) :=
  [("é&=", "a b+c%26"), ("", ""), ("x", "1"), ("x", "")]

def describeRegions : Route :=
  Route.query "DescribeRegions" "2010-08-31" .regionEndpoints

def filteredRequest (method accept path added : String) (contentType : Option String)
    (body : String) : Request :=
  { method
    target :=
      { scheme := some .https, authority := some ⟨"api.x"⟩, path
        query := some ("view=a+b%26&&flag" ++ added) }
    version := .http11
    headers := ⟨("accept", accept) :: (contentType.map fun t => ("content-type", t)).toList⟩
    body }

theorem request_pairs_of_extras :
    (∃ f q, describeRegions.fill extras = .ok f ∧ f.request filtered none = .ok q ∧
      Form.decode q.body.toList =
        ("Action", "DescribeRegions") :: ("Version", "2010-08-31") :: extras ∧
      Form.queryPairs q.target.query = [("view", "a b&"), ("flag", "")]) ∧
    ∃ f q, getUser.fill (("username", "bob") :: extras) = .ok f ∧
      f.request filtered (some "\x7b\x7d") = .ok q ∧
      Form.queryPairs q.target.query = ("view", "a b&") :: ("flag", "") :: extras ∧
      q.body = "\x7b\x7d" := by
  have hown : Form.queryPairs filtered.query = [("view", "a b&"), ("flag", "")] := by
    decide +kernel
  constructor
  · let f : Filled :=
      { name := "DescribeRegions", method := "POST", segments := []
        params := ("Action", "DescribeRegions") :: ("Version", "2010-08-31") :: extras
        style := .query "DescribeRegions" "2010-08-31" }
    let q := filteredRequest "POST" "text/xml" "/v1/" "" (some formType)
      "Action=DescribeRegions&Version=2010-08-31&%C3%A9%26%3D=a+b%2Bc%2526&=&x=1&x="
    have hrequest : f.request filtered none = .ok q := by decide +kernel
    obtain ⟨hform, -, -⟩ := request_pairs f filtered none q hrequest
    obtain ⟨hbody, hquery⟩ := hform _ _ rfl
    exact ⟨f, q, by decide +kernel, hrequest, hbody, hquery.trans hown⟩
  · let f : Filled := { showUser "bob" with params := extras }
    let q := filteredRequest "GET" jsonType "/v1/users/bob"
      "&%C3%A9%26%3D=a+b%2Bc%2526&=&x=1&x=" (some jsonType) "\x7b\x7d"
    have hrequest : f.request filtered (some "\x7b\x7d") = .ok q := by decide +kernel
    obtain ⟨-, hresource, -⟩ := request_pairs f filtered (some "\x7b\x7d") q hrequest
    obtain ⟨hquery, hbody⟩ := hresource rfl
    refine ⟨f, q, by decide +kernel, hrequest, ?_, hbody⟩
    rw [hquery, hown]
    rfl

end Route

end CloudReach
