import ClusterCost.Proofs.Url.Path
import ClusterCost.Query.Endpoint

/-!
# Where queries are asked

A query is asked below the path of the endpoint, and its text is the value of the one pair that the
URL's query string has (`queryUrl_asks`). So queries that differ are never asked by the same target.
-/

namespace ClusterCost.Endpoint

/-- The path at which queries are asked at a place: that of the place, completed by a slash, and the
path of queries below it. -/
def queryPath (place : Url) : String := Url.slashed place.path.write ++ "api/v1/query"

/-- A URL asks a query at a place. It keeps the scheme and the authority of the place. Its target
is the path of queries and, from the first question mark on, a query string whose one pair has
the query as its value. -/
structure Asks (place : Url) (query : String) (url : Url) : Prop where
  scheme : url.scheme = place.scheme
  authority : url.authority = place.authority
  target : ∃ pairs, url.target = queryPath place ++ "?" ++ pairs ∧
    Form.pairs pairs = [("query", query)]
  question : '?' ∉ (queryPath place).toList
  fragment : url.fragment = none ∧ '#' ∉ url.target.toList

/-- What is asked can be told from the target. -/
lemma Asks.query_eq {place url url' : Url} {query other : String} (h : Asks place query url)
    (h' : Asks place other url') (htarget : url.target = url'.target) : query = other := by
  obtain ⟨pairs, heq, hpairs⟩ := h.target
  obtain ⟨pairs', heq', hpairs'⟩ := h'.target
  rw [heq, heq', String.append_right_inj] at htarget
  rw [htarget, hpairs'] at hpairs
  simpa using hpairs.symm

/-! ### Characters of a target -/

lemma plain_of_mem_queryPath {place : Url} {names : List String}
    (hpath : place.path = .segments names) (h : Url.IsPath names) :
    ∀ c ∈ (queryPath place).toList, c ≠ '?' ∧ c ≠ '#' := by
  have hplain := Url.plain_of_mem_write h
  rw [queryPath, Url.slashed, hpath]
  intro c hc
  rw [String.toList_append, List.mem_append] at hc
  rcases hc with hc | hc
  · split_ifs at hc
    · exact hplain c hc
    · rw [String.toList_append, List.mem_append] at hc
      rcases hc with hc | hc
      · exact hplain c hc
      · obtain rfl : c = '/' := by simpa using hc
        decide
  · have hall : ∀ c ∈ "api/v1/query".toList, c ≠ '?' ∧ c ≠ '#' :=
      List.all_iff_forall_prop.mp (by decide)
    exact hall c hc

/-! ### Asking -/

lemma ofText_eq_ok_iff {text : String} {backend : Backend} {e : Endpoint} :
    ofText (some text) backend = .ok e ↔
      ∃ place, Url.parse text = .ok place ∧ ⟨place.complete, backend⟩ = e := by
  rw [ofText, bind_eq_ok_iff]
  simp only [mapError_eq_ok_iff, pure_eq_ok, Except.ok.injEq]

lemma exists_queryUrl {place : Url} {names : List String} (hpath : place.path = .segments names)
    (h : Url.IsPath names) (backend : Backend) (query : String) :
    ∃ url, queryUrl ⟨place.complete, backend⟩ query = .ok url ∧ Asks place query url := by
  obtain ⟨child, hchild, hscheme, hauthority, hwrite, hfragment⟩ :=
    Url.child_complete hpath h "api" ["v1", "query"]
  have hbelow : child.path.write = queryPath place := hwrite.trans (String.append_assoc ..)
  have hpairs : "query=" ++ Form.encode query = Form.encode "query" ++ "=" ++ Form.encode query :=
    rfl
  have hplain := plain_of_mem_queryPath hpath h
  refine ⟨{ child with query := some ("query=" ++ Form.encode query) }, ?_, ?_⟩
  · rw [queryUrl, querySegments, hchild]
    rfl
  · have htarget : Url.target { child with query := some ("query=" ++ Form.encode query) } =
        queryPath place ++ "?" ++ (Form.encode "query" ++ "=" ++ Form.encode query) := by
      rw [Url.target, hbelow, ← hpairs]
      exact (String.append_assoc ..).symm
    refine ⟨hscheme, hauthority, ⟨_, htarget, Form.pairs_encode "query" query⟩,
      fun hmem => (hplain _ hmem).1 rfl, hfragment, ?_⟩
    rw [htarget, String.toList_append, String.toList_append, List.mem_append, List.mem_append]
    rintro ((h | h) | h)
    · exact (hplain _ h).2 rfl
    · exact absurd h (by decide)
    · exact Form.not_mem_pair (by decide) (by decide) _ _ h

/-- To an endpoint on the web every query is asked, at its place. -/
theorem queryUrl_asks {text : String} {backend : Backend} {e : Endpoint}
    (h : ofText (some text) backend = .ok e)
    (hweb : Url.IsWeb e.url.scheme) :
    ∃ place, Url.parse text = .ok place ∧
      (∀ query, ∃ url, e.queryUrl query = .ok url ∧ Asks place query url) ∧
      ∀ query other url url', e.queryUrl query = .ok url → e.queryUrl other = .ok url' →
        query ≠ other → url.target ≠ url'.target := by
  obtain ⟨place, hparse, rfl⟩ := ofText_eq_ok_iff.mp h
  obtain ⟨names, hpath, hnames⟩ := Url.exists_names_of_parse hparse hweb
  have hasks := exists_queryUrl hpath hnames backend
  refine ⟨place, hparse, hasks, fun query other url url' hurl hurl' hne htarget => hne ?_⟩
  obtain ⟨_, heq, hquery⟩ := hasks query
  obtain ⟨_, heq', hother⟩ := hasks other
  cases hurl.symm.trans heq
  cases hurl'.symm.trans heq'
  exact hquery.query_eq hother htarget

/-- A path with an escape and without a slash at its end, and a query that would end its value or
the target. The empty query has another target. -/
theorem queryUrl_asks_unusual :
    let text := "HTTPS://user@Example.com:9090/a%20b/./x/../thanos?x=1#top"
    let query := "a&query=b + \"c\" % # é"
    ∃ e url url' pairs, ofText (some text) .direct = .ok e ∧ e.queryUrl query = .ok url ∧
      e.queryUrl "" = .ok url' ∧
      url.target = "/a%20b/thanos/api/v1/query?" ++ pairs ∧ Form.pairs pairs = [("query", query)] ∧
      url.target ≠ url'.target := by
  intro text query
  have hparse : (Url.parse text).toOption =
      some
        ⟨"https", some ⟨"user@", .name "example.com", some 9090⟩,
         .segments ["a%20b", "thanos"], some "x=1", some "top"⟩ := by
    decide +kernel
  rw [toOption_eq_some_iff] at hparse
  have hread := (@ofText_eq_ok_iff text .direct _).mpr ⟨_, hparse, rfl⟩
  obtain ⟨place, hplace, hasks, hdistinct⟩ := queryUrl_asks hread (.inr rfl)
  obtain ⟨url, hurl, h⟩ := hasks query
  obtain ⟨url', hurl', -⟩ := hasks ""
  obtain ⟨pairs, htarget, hpairs⟩ := h.target
  cases hparse.symm.trans hplace
  exact ⟨_, url, url', pairs, hread, hurl, hurl', htarget, hpairs,
    hdistinct query "" url url' hurl hurl' (by decide)⟩

end ClusterCost.Endpoint
