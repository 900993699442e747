import ClusterCost.Proofs.Decimal.Numeral
import ClusterCost.Proofs.Dictionary
import ClusterCost.Proofs.Query.Data

/-!
# What answers say

`Reply` is what an answer says, with the labels and the samples of each series as they are written.
A text is read as an envelope just if it says a reply, and the rows of the envelope are those of the
reply (`Envelope.decode_of_reply`, `Envelope.decode_of_none`).
-/

namespace ClusterCost

open Json

/-! ### Samples -/

namespace RawSample

variable {raw : RawSample} {sample : Sample} {e : DecodeError}

/-- The text of the value is a numeral. -/
def Numeric (raw : RawSample) : Prop := ∃ n, Numeral.Spells raw.2.toList n

/-- A sample has the time that is written, and the number that its text spells. -/
def Spells (raw : RawSample) (sample : Sample) : Prop :=
  sample.timestamp = raw.1 ∧ ∃ n, Numeral.Spells raw.2.toList n ∧ sample.value = n.toFloat

/-- Why a text is no numeral. -/
def flaw (raw : RawSample) : NumeralError := if raw.2 = "" then .empty else .malformed

lemma read_eq_ok_iff : raw.read = .ok sample ↔ raw.Spells sample := by
  obtain ⟨time, value⟩ := raw
  obtain ⟨timestamp, number⟩ := sample
  simp only [RawSample.read, Numeral.readFloat, Spells]
  cases hread : Numeral.read value with
  | ok n =>
    have hn := Numeral.read_eq_ok_iff.mp hread
    constructor
    · intro h
      cases h
      exact ⟨rfl, n, hn, rfl⟩
    · rintro ⟨rfl, m, hm, rfl⟩
      cases hread.symm.trans (Numeral.read_eq_ok_iff.mpr hm)
      rfl
  | error error =>
    refine iff_of_false (by simp [Except.map]) ?_
    rintro ⟨-, m, hm, -⟩
    cases hread.symm.trans (Numeral.read_eq_ok_iff.mpr hm)

lemma read_eq_error_iff : raw.read = .error e ↔ ¬ raw.Numeric ∧ e = .badSample raw.2 raw.flaw := by
  obtain ⟨time, value⟩ := raw
  simp only [RawSample.read, Numeral.readFloat, Numeric, flaw]
  cases hread : Numeral.read value with
  | ok n =>
    exact iff_of_false (by simp [Except.map]) fun h => h.1 ⟨n, Numeral.read_eq_ok_iff.mp hread⟩
  | error error =>
    have hnone : ¬ ∃ n, Numeral.Spells value.toList n := by
      rintro ⟨n, hn⟩
      cases hread.symm.trans (Numeral.read_eq_ok_iff.mpr hn)
    have herror : error = if value = "" then .empty else .malformed := Numeral.error_of_read hread
    simp [Except.map, hnone, herror, eq_comm]

lemma numeric_iff : raw.Numeric ↔ ∃ sample, raw.read = .ok sample := by
  simp only [read_eq_ok_iff, Spells, Numeric]
  constructor
  · rintro ⟨n, hn⟩
    exact ⟨⟨raw.1, n.toFloat⟩, rfl, n, hn, rfl⟩
  · rintro ⟨sample, -, n, hn, -⟩
    exact ⟨n, hn⟩

end RawSample

/-! ### Series as they are written -/

/-- A series as it is written: its labels in the order of the text, and what was measured. -/
structure Written (α : Type) where
  labels : List (String × String)
  content : α

namespace Written

variable {α : Type} {key : String} {blank : α} {content : Tree → α → Prop}

def parts (key : String) (content : Tree → α → Prop) : List (Portion (Written α)) := [
  .of "metric" .defaulted (MeansMembers MeansText) fun labels s => { s with labels },
  .of key .required content fun a s => { s with content := a }]

/-- An object with a member for the labels, which may be left out, and one for the
content, or the list of both. -/
def Means (key : String) (blank : α) (content : Tree → α → Prop) : Tree → Written α → Prop :=
  MeansRecord (parts key content) ⟨[], blank⟩

/-- The series with a dictionary of its labels. -/
def labelled (w : Written α) : Labelled α := ⟨.ofList w.labels, w.content⟩

lemma labelled_means_iff (t : Tree) (l : Labelled α) :
    Labelled.Means key blank content t l ↔
      ∃ w, Written.Means key blank content t w ∧ w.labelled = l := by
  constructor
  · intro h
    refine MeansRecord.follows (R := fun l w => labelled w = l) (.cons ?_ (.cons ?_ .nil)) rfl h
    · exact Portion.follows_of
        (fun t labels hlabels => ⟨labels, hlabels, fun l w hw => by rw [← hw]; rfl⟩) _ _
    · exact Portion.follows_of (fun t a ha => ⟨a, ha, fun l w hw => by rw [← hw]; rfl⟩) _ _
  · rintro ⟨w, h, rfl⟩
    obtain ⟨l, hl, rfl⟩ : ∃ l, MeansRecord (Labelled.parts key content) ⟨.empty, blank⟩ t l ∧
        labelled w = l := by
      refine MeansRecord.follows (R := fun w l => labelled w = l) (.cons ?_ (.cons ?_ .nil)) rfl h
      · exact Portion.follows_of
          (fun t labels hlabels => ⟨labels, hlabels, fun w l hl => by rw [← hl]; rfl⟩) _ _
      · exact Portion.follows_of (fun t a ha => ⟨a, ha, fun w l hl => by rw [← hl]; rfl⟩) _ _
    exact hl

end Written

/-- A series with any number of samples. -/
abbrev RawSeries := Written (List RawSample)

/-- What content of a kind shows: series with one sample each or with many, or one
sample without labels. -/
def ResultKind.Shows : ResultKind → Tree → List RawSeries → Prop
  | vector => fun t series => ∃ ws, MeansList (Written.Means "value" (0, "") RawSample.Means) t ws ∧
      series = ws.map fun w => ⟨w.labels, [w.content]⟩
  | matrix => MeansList (Written.Means "values" [] (MeansList RawSample.Means))
  | scalar => fun t series => ∃ sample, RawSample.Means t sample ∧ series = [⟨[], [sample]⟩]
  | text => fun t series => ∃ sample, RawSample.Means t sample ∧ series = [⟨[], [sample]⟩]

/-! ### Rows -/

namespace RawSeries

/-- The row of a series. -/
def row (s : RawSeries) : Except DecodeError Series :=
  return ⟨.ofList s.labels, ← s.content.mapM RawSample.read⟩

/-- A row has the labels of a series and its samples, in the same order. -/
structure Spells (s : RawSeries) (row : Series) : Prop where
  labels : row.labels = .ofList s.labels
  samples : List.Forall₂ RawSample.Spells s.content row.samples

lemma row_eq_ok_iff {s : RawSeries} {series : Series} : row s = .ok series ↔ Spells s series := by
  obtain ⟨labels, samples⟩ := series
  have hsamples : s.content.mapM RawSample.read = .ok samples ↔
      List.Forall₂ RawSample.Spells s.content samples := by
    rw [mapM_eq_ok_iff]
    simp only [RawSample.read_eq_ok_iff]
  simp only [row, bind_eq_ok_iff]
  constructor
  · rintro ⟨found, hfound, heq⟩
    cases heq
    exact ⟨rfl, hsamples.mp hfound⟩
  · rintro ⟨hlabels, h⟩
    dsimp only at hlabels h
    subst hlabels
    exact ⟨samples, hsamples.mpr h, rfl⟩

/-- The rows of series, or why there are none. -/
def rows (series : List RawSeries) : Except DecodeError (List Series) := series.mapM row

lemma rows_eq_ok_iff {series : List RawSeries} {found : List Series} :
    rows series = .ok found ↔ List.Forall₂ Spells series found := by
  rw [rows, mapM_eq_ok_iff]
  simp only [row_eq_ok_iff]

/-- The first sample that is no number, in the order of the series and of the samples of each. -/
def FirstFlaw (series : List RawSeries) (raw : RawSample) : Prop :=
  ∃ before after, series.flatMap (·.content) = before ++ raw :: after ∧ (∀ x ∈ before, x.Numeric) ∧
    ¬ raw.Numeric

lemma rows_cons (s : RawSeries) (series : List RawSeries) :
    rows (s :: series) =
      (s.content.mapM RawSample.read >>=
         fun samples => (rows series).map (⟨.ofList s.labels, samples⟩ :: ·)) := by
  rw [rows, List.mapM_cons, row]
  cases s.content.mapM RawSample.read with
  | error e => rfl
  | ok samples =>
    simp only [ok_bind, pure_eq_ok]
    rw [rows]
    cases series.mapM row <;> rfl

/-- The samples of the rows are those of the series, taken together. -/
lemma rows_samples (series : List RawSeries) :
    (rows series).map (·.flatMap (·.samples)) =
      (series.flatMap (·.content)).mapM RawSample.read := by
  induction series with
  | nil => rfl
  | cons s series ih =>
    rw [rows_cons, List.flatMap_cons, List.mapM_append, ← ih]
    cases s.content.mapM RawSample.read with
    | error e => rfl
    | ok samples => cases rows series <;> rfl

lemma rows_eq_error_iff {series : List RawSeries} {e : DecodeError} :
    rows series = .error e ↔ ∃ raw, FirstFlaw series raw ∧ e = .badSample raw.2 raw.flaw := by
  have herror : rows series = .error e ↔
      (series.flatMap (·.content)).mapM RawSample.read = .error e := by
    rw [← rows_samples]
    cases rows series <;> simp [Except.map]
  rw [herror, mapM_eq_error_iff]
  simp only [RawSample.read_eq_error_iff, ← RawSample.numeric_iff]
  constructor
  · rintro ⟨before, raw, after, heq, hbefore, hraw, rfl⟩
    exact ⟨raw, ⟨before, after, heq, hbefore, hraw⟩, rfl⟩
  · rintro ⟨raw, ⟨before, after, heq, hbefore, hraw⟩, rfl⟩
    exact ⟨before, raw, after, heq, hbefore, hraw, rfl⟩

end RawSeries

lemma ResultKind.rows_vector (ws : List (Written RawSample)) :
    (ResultSet.vector (ws.map Written.labelled)).rows =
      RawSeries.rows (ws.map fun w => ⟨w.labels, [w.content]⟩) := by
  rw [ResultSet.rows, RawSeries.rows, List.mapM_map, List.mapM_map]
  congr 1
  funext w
  simp only [Function.comp_apply, RawSeries.row, Written.labelled, List.mapM_cons, List.mapM_nil]
  cases RawSample.read w.content <;> rfl

lemma ResultKind.rows_matrix (ws : List RawSeries) :
    (ResultSet.matrix (ws.map Written.labelled)).rows = RawSeries.rows ws := by
  rw [ResultSet.rows, RawSeries.rows, List.mapM_map]
  rfl

lemma ResultKind.rows_single (sample : RawSample) :
    (ResultSet.scalar sample).rows = RawSeries.rows [⟨[], [sample]⟩] ∧
    (ResultSet.text sample).rows = RawSeries.rows [⟨[], [sample]⟩] := by
  simp only [ResultSet.rows, RawSeries.rows_cons, List.mapM_cons, List.mapM_nil]
  cases RawSample.read sample <;> exact ⟨rfl, rfl⟩

/-- The rows of data are those of the series that its content shows. -/
lemma ResultKind.shows_of_content {kind : ResultKind} {c : Tree} {data : ResultSet}
    (h : kind.Content c data) :
    ∃ series, kind.Shows c series ∧ data.rows = RawSeries.rows series := by
  cases kind with
  | vector =>
    obtain ⟨ls, hls, rfl⟩ := h
    obtain ⟨ws, hws, rfl⟩ := (MeansList.map_iff Written.labelled_means_iff).mp hls
    exact ⟨_, ⟨ws, hws, rfl⟩, rows_vector ws⟩
  | matrix =>
    obtain ⟨ls, hls, rfl⟩ := h
    obtain ⟨ws, hws, rfl⟩ := (MeansList.map_iff Written.labelled_means_iff).mp hls
    exact ⟨ws, hws, rows_matrix ws⟩
  | scalar =>
    obtain ⟨sample, hsample, rfl⟩ := h
    exact ⟨_, ⟨sample, hsample, rfl⟩, (rows_single sample).1⟩
  | text =>
    obtain ⟨sample, hsample, rfl⟩ := h
    exact ⟨_, ⟨sample, hsample, rfl⟩, (rows_single sample).2⟩

lemma ResultKind.content_of_shows {kind : ResultKind} {c : Tree} {series : List RawSeries}
    (h : kind.Shows c series) :
    ∃ data, kind.Content c data ∧ RawSeries.rows series = data.rows := by
  cases kind with
  | vector =>
    obtain ⟨ws, hws, rfl⟩ := h
    exact ⟨_, ⟨_, (MeansList.map_iff Written.labelled_means_iff).mpr ⟨ws, hws, rfl⟩, rfl⟩,
      (rows_vector ws).symm⟩
  | matrix =>
    exact ⟨_, ⟨_, (MeansList.map_iff Written.labelled_means_iff).mpr ⟨series, h, rfl⟩, rfl⟩,
      (rows_matrix series).symm⟩
  | scalar =>
    obtain ⟨sample, hsample, rfl⟩ := h
    exact ⟨_, ⟨sample, hsample, rfl⟩, (rows_single sample).1.symm⟩
  | text =>
    obtain ⟨sample, hsample, rfl⟩ := h
    exact ⟨_, ⟨sample, hsample, rfl⟩, (rows_single sample).2.symm⟩

/-! ### Envelopes -/

/-- Data as it is written: the series that its content shows. Content that comes before its kind is
within 125 lists and objects of its own. -/
def ShowsData : Tree → List RawSeries → Prop := ResultSet.MeansData 125 ResultKind.Shows

/-- What an answer says. -/
structure Reply where
  status : String
  data : Option (List RawSeries)
  errorType : Option String
  error : Option String

/-- What a part of an envelope may be: a text, or nothing. -/
abbrev MeansOptionalText : Tree → Option String → Prop := MeansOptional MeansText

namespace Envelope

def parts : List (Portion Envelope) := [
  .of "status" .required MeansText fun s e => { e with status := s },
  .of "data" .defaulted (MeansOptional (ResultSet.MeansData 125 ResultKind.Content)) fun data e =>
    { e with data },
  .of "errorType" .defaulted MeansOptionalText fun s e => { e with errorType := s },
  .of "error" .defaulted MeansOptionalText fun s e => { e with error := s }]

lemma reads : Reads .whole Envelope.reader (MeansRecord parts ⟨"", none, none, none⟩) := by
  have hdata :
      Reads Reading.whole.inner ResultSet.reader (ResultSet.MeansData 125 ResultKind.Content) :=
    ResultSet.reads rfl (.inr (by decide))
  have htext : Reads Reading.whole.inner (Reader.optional .text) MeansOptionalText :=
    (reads_text _).optional
  refine reads_record _
    (.cons ((reads_text _).fills _ _ _)
    (.cons (hdata.optional.fills _ _ _)
    (.cons (htext.fills _ _ _) (.cons (htext.fills _ _ _) .nil)))) ?_ (by decide) (.inr (by decide))
  simp only [parts, List.pairwise_cons, List.forall_mem_cons, List.not_mem_nil, List.Pairwise.nil,
    false_implies, implies_true, and_true]
  refine ⟨⟨?_, ?_, ?_⟩, ⟨?_, ?_⟩, ?_⟩ <;> exact Portion.commutes_of fun _ _ _ => rfl

end Envelope

namespace Reply

def parts : List (Portion Reply) := [
  .of "status" .required MeansText fun s e => { e with status := s },
  .of "data" .defaulted (MeansOptional ShowsData) fun data e => { e with data },
  .of "errorType" .defaulted MeansOptionalText fun s e => { e with errorType := s },
  .of "error" .defaulted MeansOptionalText fun s e => { e with error := s }]

/-- An object with a status, and data and the parts of an error as far as they are
given, or the list of these. -/
def Means : Tree → Reply → Prop := MeansRecord parts ⟨"", none, none, none⟩

/-- A text says this reply. -/
def Of (body : String) (reply : Reply) : Prop := ∃ t, Says (Utf8.encode body) t ∧ Means t reply

/-- What a reply comes to. -/
def rows (reply : Reply) : Except QueryError (List Series) :=
  if reply.status = "success" then
    match reply.data with
    | none => .error (.decode .noData)
    | some series => (RawSeries.rows series).mapError .decode
  else .error (.backend (reply.errorType.getD "") (reply.error.getD ""))

/-- An envelope goes with a reply if the rows of their data are the same, and the rest
is the same. -/
structure GoesWith (e : Envelope) (reply : Reply) : Prop where
  status : e.status = reply.status
  data : e.data.map ResultSet.rows = reply.data.map RawSeries.rows
  errorType : e.errorType = reply.errorType
  error : e.error = reply.error

lemma GoesWith.rows_eq {e : Envelope} {reply : Reply} (h : GoesWith e reply) :
    e.rows = reply.rows := by
  obtain ⟨status, data, errorType, error⟩ := e
  obtain ⟨status', series, errorType', error'⟩ := reply
  obtain ⟨hstatus, hdata, herrorType, herror⟩ := h
  dsimp only at hstatus hdata herrorType herror
  subst hstatus herrorType herror
  by_cases hsuccess : status = "success"
  · cases data with
    | none =>
      cases series with
      | none => simp [Envelope.rows, rows, hsuccess]
      | some series => cases hdata
    | some data =>
      cases series with
      | none => cases hdata
      | some series => simp [Envelope.rows, rows, hsuccess, Option.some.inj hdata]
  · simp [Envelope.rows, rows, hsuccess]

lemma means_of_envelope {t : Tree} {e : Envelope}
    (h : MeansRecord Envelope.parts ⟨"", none, none, none⟩ t e) :
    ∃ reply, Means t reply ∧ GoesWith e reply := by
  have hshows : ∀ t data, ResultSet.MeansData 125 ResultKind.Content t data →
      ∃ series, ShowsData t series ∧ data.rows = RawSeries.rows series :=
    fun _ _ hdata => hdata.follows
      (R := fun data series => ResultSet.rows data = RawSeries.rows series)
      fun _ _ _ hcontent => ResultKind.shows_of_content hcontent
  refine MeansRecord.follows (.cons ?_ (.cons ?_ (.cons ?_ (.cons ?_ .nil)))) ⟨rfl, rfl, rfl, rfl⟩ h
  · exact Portion.follows_of (fun t s hs => ⟨s, hs, fun _ _ h => { h with status := rfl }⟩) _ _
  · refine Portion.follows_of (fun t data hdata => ?_) _ _
    obtain ⟨series, hseries, heq⟩ := MeansOptional.follows hshows hdata
    exact ⟨series, hseries, fun _ _ h => { h with data := heq }⟩
  · exact Portion.follows_of (fun t s hs => ⟨s, hs, fun _ _ h => { h with errorType := rfl }⟩) _ _
  · exact Portion.follows_of (fun t s hs => ⟨s, hs, fun _ _ h => { h with error := rfl }⟩) _ _

lemma envelope_of_means {t : Tree} {reply : Reply} (h : Means t reply) :
    ∃ e, MeansRecord Envelope.parts ⟨"", none, none, none⟩ t e ∧ GoesWith e reply := by
  have hcontent : ∀ t series, ShowsData t series →
      ∃ data, ResultSet.MeansData 125 ResultKind.Content t data ∧
        RawSeries.rows series = data.rows :=
    fun _ _ hseries =>
      hseries.follows (R := fun series data => RawSeries.rows series = ResultSet.rows data)
      fun _ _ _ hshows => ResultKind.content_of_shows hshows
  refine MeansRecord.follows (R := fun reply e => GoesWith e reply)
    (.cons ?_ (.cons ?_ (.cons ?_ (.cons ?_ .nil)))) ⟨rfl, rfl, rfl, rfl⟩ h
  · exact Portion.follows_of (fun t s hs => ⟨s, hs, fun _ _ h => { h with status := rfl }⟩) _ _
  · refine Portion.follows_of (fun t series hseries => ?_) _ _
    obtain ⟨data, hdata, heq⟩ := MeansOptional.follows hcontent hseries
    exact ⟨data, hdata, fun _ _ h => { h with data := heq.symm }⟩
  · exact Portion.follows_of (fun t s hs => ⟨s, hs, fun _ _ h => { h with errorType := rfl }⟩) _ _
  · exact Portion.follows_of (fun t s hs => ⟨s, hs, fun _ _ h => { h with error := rfl }⟩) _ _

end Reply

/-! ### Decoding -/

section Decode

variable {body : String}

/-- A text that says a reply is decoded to its rows. -/
theorem Envelope.decode_of_reply {reply : Reply} (h : Reply.Of body reply) :
    Envelope.decode body = reply.rows := by
  obtain ⟨t, hsaid, hmeans⟩ := h
  obtain ⟨e, he, hrows⟩ := Reply.envelope_of_means hmeans
  simp only [decode, (readText_eq_ok_iff reads _ e).mpr ⟨t, hsaid, he⟩, hrows.rows_eq]

/-- A text that says no reply is refused. -/
theorem Envelope.decode_of_none (h : ∀ reply, ¬ Reply.Of body reply) :
    ∃ refusal, Envelope.decode body = .error (.decode (.malformed refusal)) := by
  cases hread : readText reader (Utf8.encode body) with
  | ok e =>
    obtain ⟨t, hsaid, he⟩ := (readText_eq_ok_iff reads _ e).mp hread
    obtain ⟨reply, hmeans, -⟩ := Reply.means_of_envelope he
    exact absurd ⟨t, hsaid, hmeans⟩ (h reply)
  | error failure => exact ⟨.ofFailure (Utf8.encode body) failure, by simp only [decode, hread]⟩

end Decode

end ClusterCost
