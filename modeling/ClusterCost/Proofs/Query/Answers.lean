import ClusterCost.Proofs.Json.Writing
import ClusterCost.Proofs.Query.Replies
import ClusterCost.Query.Endpoint

/-!
# What queries come to

An answer to a query comes to one of four things: an error that the backend reports, a status that
is none of success, rows, or a refusal of the answer (`Endpoint.ask_answered`). The rows are those
of the series of a reply, with their labels and samples in the same order, and there are none if a
sample is no number (`Envelope.decode_of_series`).
-/

namespace ClusterCost

open Json

/-! ### Rows of series -/

section Decode

variable {body : String} {reply : Reply} {series : List RawSeries}

namespace RawSeries

/-- Each sample of each series is a number. -/
def AllNumeric (series : List RawSeries) : Prop := ∀ s ∈ series, ∀ raw ∈ s.content, raw.Numeric

lemma allNumeric_iff : AllNumeric series ↔ ∃ rows, RawSeries.rows series = .ok rows := by
  constructor
  · intro hall
    cases hrows : RawSeries.rows series with
    | ok rows => exact ⟨rows, rfl⟩
    | error e =>
      obtain ⟨raw, ⟨before, after, heq, -, hraw⟩, -⟩ := rows_eq_error_iff.mp hrows
      have hmem : raw ∈ series.flatMap (·.content) := by
        rw [heq]
        exact List.mem_append_right _ List.mem_cons_self
      obtain ⟨s, hs, hmem⟩ := List.mem_flatMap.mp hmem
      exact absurd (hall s hs raw hmem) hraw
  · rintro ⟨rows, hrows⟩ s hs raw hraw
    obtain ⟨row, -, hrow⟩ := Forall₂.exists_of_mem (rows_eq_ok_iff.mp hrows) hs
    obtain ⟨sample, -, hsample⟩ := Forall₂.exists_of_mem hrow.samples hraw
    exact RawSample.numeric_iff.mpr ⟨sample, RawSample.read_eq_ok_iff.mpr hsample⟩

end RawSeries

lemma Reply.rows_of_series (hsuccess : reply.status = "success")
    (hdata : reply.data = some series) : reply.rows = (RawSeries.rows series).mapError .decode := by
  simp only [Reply.rows, hsuccess, hdata, if_true]

lemma Reply.rows_eq_ok_iff {rows : List Series} :
    reply.rows = .ok rows ↔
      ∃ series, reply.status = "success" ∧ reply.data = some series ∧
        List.Forall₂ RawSeries.Spells series rows := by
  by_cases hsuccess : reply.status = "success"
  · cases hdata : reply.data with
    | none => simp [Reply.rows, hsuccess, hdata]
    | some series =>
      simp [rows_of_series hsuccess hdata, hsuccess, mapError_eq_ok_iff, RawSeries.rows_eq_ok_iff]
  · simp [Reply.rows, hsuccess]

lemma Reply.rows_eq_backend_iff {errorType error : String} :
    reply.rows = .error (.backend errorType error) ↔
      reply.status ≠ "success" ∧ errorType = reply.errorType.getD "" ∧
      error = reply.error.getD "" := by
  by_cases hsuccess : reply.status = "success"
  · cases hdata : reply.data with
    | none => simp [Reply.rows, hsuccess, hdata]
    | some series =>
      rw [rows_of_series hsuccess hdata]
      cases RawSeries.rows series <;> simp [Except.mapError, hsuccess]
  · simp [Reply.rows, hsuccess, eq_comm]

/-- A reply of success with series has a row for each series, in the same order. Of a label that
is given more than once the last value counts; the samples are in the same order and have the
times and the numbers that are written. If a text is no number, then there are no rows, and the
first such text is named. -/
theorem Envelope.decode_of_series (h : Reply.Of body reply) (hsuccess : reply.status = "success")
    (hdata : reply.data = some series) :
    (RawSeries.AllNumeric series → ∃ rows, Envelope.decode body = .ok rows ∧
      List.Forall₂ (fun s row => (∀ name, row.labels.get? name = lastValue s.labels name) ∧
        List.Forall₂ RawSample.Spells s.content row.samples) series rows) ∧
    (¬ RawSeries.AllNumeric series → ∃ raw, RawSeries.FirstFlaw series raw ∧
      Envelope.decode body = .error (.decode (.badSample raw.2 raw.flaw))) := by
  have hdecode : Envelope.decode body = (RawSeries.rows series).mapError .decode := by
    rw [Envelope.decode_of_reply h, Reply.rows_of_series hsuccess hdata]
  cases hrows : RawSeries.rows series with
  | ok rows =>
    have hall : RawSeries.AllNumeric series := RawSeries.allNumeric_iff.mpr ⟨rows, hrows⟩
    refine ⟨fun _ => ⟨rows, by rw [hdecode, hrows]; rfl, ?_⟩, fun hflaw => absurd hall hflaw⟩
    refine (RawSeries.rows_eq_ok_iff.mp hrows).imp fun s row hrow => ⟨fun name => ?_, hrow.samples⟩
    rw [hrow.labels, Dictionary.get?_ofList]
  | error e =>
    obtain ⟨raw, hraw, rfl⟩ := RawSeries.rows_eq_error_iff.mp hrows
    refine ⟨fun hall => ?_, fun _ => ⟨raw, hraw, by rw [hdecode, hrows]; rfl⟩⟩
    obtain ⟨rows, hok⟩ := RawSeries.allNumeric_iff.mp hall
    cases hrows.symm.trans hok

/-- Of a repeated label the last value counts, and escapes are decoded. -/
theorem Envelope.decode_of_series_vector :
    let sample : Json.Value := .list [.integer 1, .text "2"]
    let labels : Json.Value := .object [("a", .text "x"), ("a", .text "\n")]
    let item : Json.Value := .object [("metric", labels), ("value", sample)]
    let data : Json.Value := .object [("resultType", .text "vector"), ("result", .list [item])]
    let value : Json.Value := .object [("status", .text "success"), ("data", data)]
    let body := Marked.decode value.compact
    let series : List RawSeries :=
      [⟨[("a", "x"), ("a", "\n")], [((Number.natural 1).toFloat, "2")]⟩]
    let reply : Reply := ⟨"success", some series, none, none⟩
    (Reply.Of body reply ∧ reply.status = "success" ∧ reply.data = some series) ∧
      ∃ row, Envelope.decode body = .ok [row] ∧ row.labels.get? "a" = some "\n" := by
  intro sample labels item data value body series reply
  have hsample : ∀ rest, Denotes (sample.compact ++ rest) sample.tree rest := by
    intro rest
    let after : Bytes := 0x2C :: (Json.Value.writeText "2" ++ 0x5D :: rest)
    have hcomma : ∀ b ∈ after.head?, Literal.isDigit b = false ∧ b ≠ 0x2E ∧ b ≠ 0x65 ∧
        b ≠ 0x45 := by
      rintro b ⟨⟩
      decide
    have hwhole : Whole (0x31 :: ([] ++ after)) [0x31] after :=
      .other rfl (by decide) (by simp [AllDigits]) fun b hb => (hcomma b hb).1
    have hone := SpellsNumber.positive hwhole (.none fun b hb => (hcomma b hb).2.1)
      (.none fun b hb => (hcomma b hb).2.2)
    exact .list (.some (.none _) (.number hone) (.none _)
      (.some (.none _) (Json.Value.denotes_text "2" _) (.none _) (.none rest)))
  have hlabels := Json.Value.denotes_compact labels ⟨trivial, trivial, trivial⟩
  have hitem : ∀ rest, Denotes (item.compact ++ rest) item.tree rest :=
    Json.Value.denotes_object
      (List.forall_mem_cons.mpr ⟨hlabels, List.forall_mem_singleton.mpr hsample⟩)
  have hdata : ∀ rest, Denotes (data.compact ++ rest) data.tree rest :=
    Json.Value.denotes_object (List.forall_mem_cons.mpr ⟨Json.Value.denotes_text "vector",
      List.forall_mem_singleton.mpr
        (Json.Value.denotes_list (List.forall_mem_singleton.mpr hitem))⟩)
  have hvalue : ∀ rest, Denotes (value.compact ++ rest) value.tree rest :=
    Json.Value.denotes_object
      (List.forall_mem_cons.mpr
        ⟨Json.Value.denotes_text "success", List.forall_mem_singleton.mpr hdata⟩)
  have hsaid : Says (Utf8.encode body) value.tree := by
    have hbody : Utf8.encode body = value.compact ++ [] := by decide
    exact ⟨_, [], .none _, hbody ▸ hvalue [], .none _⟩
  have hwritten :
      Written.Means "value" (0, "") RawSample.Means item.tree
        ⟨[("a", "x"), ("a", "\n")], ((Number.natural 1).toFloat, "2")⟩ := by
    have hfirst : MeansMembers MeansText labels.tree [("a", "x"), ("a", "\n")] :=
      ⟨_, rfl, .cons ⟨rfl, rfl⟩ (.cons ⟨rfl, rfl⟩ .nil)⟩
    have hsecond : RawSample.Means sample.tree ((Number.natural 1).toFloat, "2") :=
      ⟨_, _, rfl, ⟨_, rfl, rfl⟩, rfl⟩
    exact ⟨_, .object (by decide) (by decide) (by decide),
      .put ⟨_, hfirst, rfl⟩ (.put ⟨_, hsecond, rfl⟩ (.nil _))⟩
  have hshows : ShowsData data.tree series :=
    .kindFirst .here .here (by simp [Json.Value.memberTrees]) ⟨"vector", rfl, .inl rfl⟩
      ⟨[_], ⟨[item.tree], rfl, .cons hwritten .nil⟩, rfl⟩
  have hreply : Reply.Of body reply := by
    refine ⟨value.tree, hsaid, _, .object (by decide) (by decide) (by decide),
      .put ⟨_, rfl, rfl⟩ ?_⟩
    exact .put ⟨_, ⟨_, hshows, rfl⟩, rfl⟩ (.keep (.keep (.nil _)))
  have hnumeric : RawSeries.AllNumeric series := by
    obtain ⟨n, hn⟩ : ∃ n, Numeral.read "2" = .ok n := ⟨_, rfl⟩
    exact List.forall_mem_singleton.mpr
      (List.forall_mem_singleton.mpr ⟨n, Numeral.read_eq_ok_iff.mp hn⟩)
  obtain ⟨rows, hrows, hall⟩ := (Envelope.decode_of_series hreply rfl rfl).1 hnumeric
  obtain ⟨row, rows, ⟨hlabels, -⟩, hnil, rfl⟩ := List.forall₂_cons_left_iff.mp hall
  cases hnil
  exact ⟨⟨hreply, rfl, rfl⟩, row, hrows, hlabels "a"⟩

end Decode

/-! ### Answers -/

namespace Answer

/-- The status is one of success. -/
def Successful (a : Answer) : Prop := 200 ≤ a.status ∧ a.status ≤ 299

/-- The text reports an error, of the type and with the text that are given; what is
not given is empty. -/
def ReportsError (a : Answer) (errorType error : String) : Prop :=
  ∃ reply, Reply.Of (Marked.decode a.body) reply ∧ reply.status ≠ "success" ∧
    errorType = reply.errorType.getD "" ∧
    error = reply.error.getD ""

/-- The text reports success with series whose samples are all numbers, and these are the rows. -/
def HasRows (a : Answer) (rows : List Series) : Prop :=
  ∃ reply series, Reply.Of (Marked.decode a.body) reply ∧ reply.status = "success" ∧
    reply.data = some series ∧
    List.Forall₂ RawSeries.Spells series rows

section Classify

variable {a : Answer} {errorType error : String} {rows : List Series}

/-- What is decoded is an error of the backend just if the text reports it. -/
lemma decode_eq_backend_iff :
    Envelope.decode (Marked.decode a.body) = .error (.backend errorType error) ↔
      a.ReportsError errorType error := by
  constructor
  · intro h
    by_cases hreply : ∃ reply, Reply.Of (Marked.decode a.body) reply
    · obtain ⟨reply, hreply⟩ := hreply
      rw [Envelope.decode_of_reply hreply, Reply.rows_eq_backend_iff] at h
      exact ⟨reply, hreply, h⟩
    · obtain ⟨refusal, hrefusal⟩ := Envelope.decode_of_none (not_exists.mp hreply)
      cases h.symm.trans hrefusal
  · rintro ⟨reply, hreply, h⟩
    rw [Envelope.decode_of_reply hreply, Reply.rows_eq_backend_iff]
    exact h

lemma decode_eq_ok_iff : Envelope.decode (Marked.decode a.body) = .ok rows ↔ a.HasRows rows := by
  constructor
  · intro h
    by_cases hreply : ∃ reply, Reply.Of (Marked.decode a.body) reply
    · obtain ⟨reply, hreply⟩ := hreply
      rw [Envelope.decode_of_reply hreply, Reply.rows_eq_ok_iff] at h
      obtain ⟨series, h⟩ := h
      exact ⟨reply, series, hreply, h⟩
    · obtain ⟨refusal, hrefusal⟩ := Envelope.decode_of_none (not_exists.mp hreply)
      cases h.symm.trans hrefusal
  · rintro ⟨reply, series, hreply, h⟩
    rw [Envelope.decode_of_reply hreply, Reply.rows_eq_ok_iff]
    exact ⟨series, h⟩

/-- Decoding gives nothing else than rows, an error of the backend or a refusal. -/
lemma decode_cases (body : String) :
    (∃ rows, Envelope.decode body = .ok rows) ∨
    (∃ errorType error, Envelope.decode body = .error (.backend errorType error)) ∨
      ∃ error, Envelope.decode body = .error (.decode error) := by
  by_cases hreply : ∃ reply, Reply.Of body reply
  · obtain ⟨reply, hreply⟩ := hreply
    rw [Envelope.decode_of_reply hreply]
    by_cases hsuccess : reply.status = "success"
    · cases hdata : reply.data with
      | none => exact .inr (.inr ⟨.noData, by simp [Reply.rows, hsuccess, hdata]⟩)
      | some series =>
        rw [Reply.rows_of_series hsuccess hdata]
        cases RawSeries.rows series with
        | ok rows => exact .inl ⟨rows, rfl⟩
        | error e => exact .inr (.inr ⟨e, rfl⟩)
    · exact .inr (.inl ⟨_, _, Reply.rows_eq_backend_iff.mpr ⟨hsuccess, rfl, rfl⟩⟩)
  · obtain ⟨refusal, hrefusal⟩ := Envelope.decode_of_none (not_exists.mp hreply)
    exact .inr (.inr ⟨_, hrefusal⟩)

lemma isSuccess_iff : a.isSuccess = true ↔ a.Successful := by
  simp only [isSuccess, Successful, Bool.and_eq_true, decide_eq_true_eq]
  omega

/-- With a status of success all depends on what is decoded. -/
lemma classify_of_successful (h : a.Successful) :
    a.classify = Envelope.decode (Marked.decode a.body) := by
  simp only [classify, isSuccess_iff.mpr h, if_true]

/-- With another status only an error of the backend counts. -/
lemma classify_of_not_successful (h : ¬ a.Successful)
    (hnone : ∀ errorType error, ¬ a.ReportsError errorType error) :
    a.classify = .error (.status a.status (Marked.decode a.body)) := by
  rw [classify, if_neg (mt isSuccess_iff.mp h)]
  obtain ⟨rows, hrows⟩ | ⟨errorType, error, hbackend⟩ | ⟨e, he⟩ :=
    decode_cases (Marked.decode a.body)
  · rw [hrows]
  · exact absurd (decode_eq_backend_iff.mp hbackend) (hnone errorType error)
  · rw [he]

lemma classify_of_reportsError (h : a.ReportsError errorType error) :
    a.classify = .error (.backend errorType error) := by
  have hdecode := decode_eq_backend_iff.mpr h
  by_cases hsuccess : a.Successful
  · rw [classify_of_successful hsuccess, hdecode]
  · rw [classify, if_neg (mt isSuccess_iff.mp hsuccess), hdecode]

lemma not_reportsError (h : ∀ errorType error, a.classify ≠ .error (.backend errorType error))
    (errorType error : String) : ¬ a.ReportsError errorType error :=
  fun hreports => h errorType error (classify_of_reportsError hreports)

lemma classify_eq_backend_iff :
    a.classify = .error (.backend errorType error) ↔ a.ReportsError errorType error := by
  refine ⟨fun h => ?_, classify_of_reportsError⟩
  by_cases hsuccess : a.Successful
  · rw [classify_of_successful hsuccess] at h
    exact decode_eq_backend_iff.mp h
  · by_cases hnone : ∀ errorType error, ¬ a.ReportsError errorType error
    · rw [classify_of_not_successful hsuccess hnone] at h
      cases h
    · simp only [not_forall, not_not] at hnone
      obtain ⟨otherType, other, hreports⟩ := hnone
      cases h.symm.trans (classify_of_reportsError hreports)
      exact hreports

lemma classify_eq_status_iff {status : Nat} {body : String} :
    a.classify = .error (.status status body) ↔
      (∀ errorType error, ¬ a.ReportsError errorType error) ∧ ¬ a.Successful ∧ status = a.status ∧
      body = Marked.decode a.body := by
  constructor
  · intro h
    have hnone := not_reportsError (a := a) (by simp [h])
    have hsuccess : ¬ a.Successful := by
      intro hsuccess
      rw [classify_of_successful hsuccess] at h
      obtain ⟨_, h'⟩ | ⟨_, _, h'⟩ | ⟨_, h'⟩ :=
        decode_cases (Marked.decode a.body) <;> cases h.symm.trans h'
    rw [classify_of_not_successful hsuccess hnone] at h
    cases h
    exact ⟨hnone, hsuccess, rfl, rfl⟩
  · rintro ⟨hnone, hsuccess, rfl, rfl⟩
    exact classify_of_not_successful hsuccess hnone

lemma classify_eq_ok_iff : a.classify = .ok rows ↔ a.Successful ∧ a.HasRows rows := by
  constructor
  · intro h
    have hnone := not_reportsError (a := a) (by simp [h])
    by_cases hsuccess : a.Successful
    · rw [classify_of_successful hsuccess] at h
      exact ⟨hsuccess, decode_eq_ok_iff.mp h⟩
    · cases h.symm.trans (classify_of_not_successful hsuccess hnone)
  · rintro ⟨hsuccess, hrows⟩
    rw [classify_of_successful hsuccess, decode_eq_ok_iff.mpr hrows]

lemma classify_eq_decode_iff : (∃ e, a.classify = .error (.decode e)) ↔
    (∀ errorType error, ¬ a.ReportsError errorType error) ∧ a.Successful ∧
    ∀ rows, ¬ a.HasRows rows := by
  constructor
  · rintro ⟨e, h⟩
    have hnone := not_reportsError (a := a) (by simp [h])
    by_cases hsuccess : a.Successful
    · refine ⟨hnone, hsuccess, fun rows hrows => ?_⟩
      cases h.symm.trans (classify_eq_ok_iff.mpr ⟨hsuccess, hrows⟩)
    · cases h.symm.trans (classify_of_not_successful hsuccess hnone)
  · rintro ⟨hnone, hsuccess, hrows⟩
    rw [classify_of_successful hsuccess]
    obtain ⟨rows, hok⟩ | ⟨errorType, error, hbackend⟩ | hdecode :=
      decode_cases (Marked.decode a.body)
    · exact absurd (decode_eq_ok_iff.mp hok) (hrows rows)
    · exact absurd (decode_eq_backend_iff.mp hbackend) (hnone errorType error)
    · exact hdecode

end Classify

end Answer

/-! ### Queries -/

namespace Endpoint

variable {e : Endpoint} {query : String} {url : Url}

lemma ask_some (hurl : e.queryUrl query = .ok url) (a : Answer) :
    e.ask query (some a) = a.classify := by
  simp [ask, hurl]

/-- What a query that can be asked comes to with an answer: the error of the backend that the text
reports, with any status; else the status, if it is none of success; else the rows that the text
has; and else a refusal of the text. -/
theorem ask_answered (hurl : e.queryUrl query = .ok url) (a : Answer) :
    (∀ errorType error, e.ask query (some a) = .error (.backend errorType error) ↔
       a.ReportsError errorType error) ∧
    (∀ status body, e.ask query (some a) = .error (.status status body) ↔
      (∀ errorType error, ¬ a.ReportsError errorType error) ∧ ¬ a.Successful ∧ status = a.status ∧
      body = Marked.decode a.body) ∧
    (∀ rows, e.ask query (some a) = .ok rows ↔ a.Successful ∧ a.HasRows rows) ∧
    ((∃ error, e.ask query (some a) = .error (.decode error)) ↔
      (∀ errorType error, ¬ a.ReportsError errorType error) ∧ a.Successful ∧
      ∀ rows, ¬ a.HasRows rows) := by
  rw [ask_some hurl]
  exact ⟨fun _ _ => Answer.classify_eq_backend_iff, fun _ _ => Answer.classify_eq_status_iff,
    fun _ => Answer.classify_eq_ok_iff, Answer.classify_eq_decode_iff⟩

/-- An error that the backend reports counts also where the status says less. -/
theorem ask_answered_bad_request :
    let e : Endpoint :=
      ⟨⟨"http", some ⟨"", .name "localhost", none⟩, .segments [""], none, none⟩, .direct⟩
    let url : Url :=
      ⟨"http", some ⟨"", .name "localhost", none⟩, .segments ["api", "v1", "query"],
       some "query=up", none⟩
    let value : Json.Value :=
      .object [("status", .text "error"), ("errorType", .text "bad_data"), ("error", .text "x")]
    e.queryUrl "up" = .ok url ∧
    e.ask "up" (some ⟨400, value.compact⟩) = .error (.backend "bad_data" "x") := by
  intro e url value
  have hurl : e.queryUrl "up" = .ok url := rfl
  refine ⟨hurl, ((ask_answered hurl ⟨400, value.compact⟩).1 "bad_data" "x").mpr ?_⟩
  have hbody : Utf8.encode (Marked.decode value.compact) = value.compact := by decide
  have hsaid : Says (Utf8.encode (Marked.decode value.compact)) value.tree := by
    rw [hbody]
    exact Value.text_compact ⟨trivial, trivial, trivial, trivial⟩
  have hreply :
      Reply.Of (Marked.decode value.compact) ⟨"error", none, some "bad_data", some "x"⟩ := by
    refine ⟨value.tree, hsaid, _, .object (by decide) (by decide) (by decide),
      .put ⟨_, rfl, rfl⟩ ?_⟩
    exact .keep (.put ⟨_, ⟨_, rfl, rfl⟩, rfl⟩ (.put ⟨_, ⟨_, rfl, rfl⟩, rfl⟩ (.nil _)))
  exact ⟨_, hreply, by decide, rfl, rfl⟩

end Endpoint

end ClusterCost
